import MeshMine.Hns.CompactTargets
import MeshMine.Hns.HeaderBytes
import MeshMine.Storage.Paging
import MeshMine.Settlement.SnapshotDecoding
import MeshMine.Settlement.Tickets
import MeshMine.Settlement.OverlayRuns
import MeshMine.Settlement.RecoveryRuns
import MeshMine.Work.PlannerRuns
import MeshMine.Work.Polling
import MeshMine.Body.Reconstruction
import MeshMine.Risk.Tails
import MeshMine.Network.OverlaySafety
import MeshMine.Service.Supervisor
import MeshMine.Share.ReceiptRuns
import MeshMine.Share.AssignmentWork
import MeshMine.Mpc.Assembly
import MeshMine.Mpc.Retirement
import MeshMine.FastPath.PublicationRuns
import MeshMine.Share.AssignmentsInOrder
import MeshMine.CoreLink.SpoolRuns
import MeshMine.CoreLink.BundleRuns
import MeshMine.CoreLink.DrainBoundary
import MeshMine.CoreLink.DrainRetry

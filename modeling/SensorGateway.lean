import SensorGateway.Lib.Transition
import SensorGateway.Lib.Variant
import SensorGateway.Lib.PtrHeap
import SensorGateway.Lib.DoublyLinked
import SensorGateway.Lib.SinglyLinked
import SensorGateway.Lib.RwLock
import SensorGateway.Lib.SlidingMean
import SensorGateway.Lib.LittleEndian
import SensorGateway.Lib.Decimal
import SensorGateway.Lib.DecimalPrefix
import SensorGateway.Lib.Scan
import SensorGateway.Lib.Binary64
import SensorGateway.Lib.Lines
import SensorGateway.Lib.Words
import SensorGateway.Dplist.Dplist
import SensorGateway.Dplist.Sequence
import SensorGateway.Dplist.Proofs.QueryProofs
import SensorGateway.Dplist.Proofs.UpdateProofs
import SensorGateway.Dplist.Proofs.RefinementProofs
import SensorGateway.Dplist.Proofs.ReferenceProofs
import SensorGateway.Dplist.Proofs.ElementProofs
import SensorGateway.Dplist.Proofs.SortedProofs
import SensorGateway.Datamgr.Datamgr
import SensorGateway.Dplist.Release
import SensorGateway.Dplist.Proofs.ReleaseProofs
import SensorGateway.Dplist.Boxed
import SensorGateway.Dplist.Proofs.BoxedProofs
import SensorGateway.Dplist.Proofs.SharedProofs
import SensorGateway.Datamgr.Proofs.SensorListProofs
import SensorGateway.Datamgr.Proofs.RunningAvgProofs
import SensorGateway.Datamgr.Proofs.MapFileProofs
import SensorGateway.Datamgr.LinkedDatamgr
import SensorGateway.Datamgr.SensorCopy
import SensorGateway.Datamgr.Proofs.LinkedDatamgrProofs
import SensorGateway.Datamgr.Proofs.SensorCopyProofs
import SensorGateway.Datamgr.MapText
import SensorGateway.Datamgr.Proofs.MapTextProofs
import SensorGateway.Connmgr.Wire
import SensorGateway.Connmgr.Connmgr
import SensorGateway.Connmgr.Proofs.LoopProofs
import SensorGateway.Connmgr.Proofs.ServeProofs
import SensorGateway.Connmgr.Proofs.IterateProofs
import SensorGateway.Connmgr.Proofs.BoundsProofs
import SensorGateway.Connmgr.Proofs.AlignProofs
import SensorGateway.Connmgr.Proofs.ResizeProofs
import SensorGateway.Connmgr.Proofs.IdleProofs
import SensorGateway.Connmgr.Proofs.AcceptProofs
import SensorGateway.Connmgr.Proofs.ConnectionProofs
import SensorGateway.Connmgr.Proofs.HistoryProofs
import SensorGateway.Connmgr.Proofs.WireProofs
import SensorGateway.Connmgr.Proofs.FramingProofs
import SensorGateway.Connmgr.Proofs.AnnounceProofs
import SensorGateway.Connmgr.Proofs.TimeoutProofs
import SensorGateway.Connmgr.Proofs.ClosingProofs
import SensorGateway.Connmgr.LinkedConnmgr
import SensorGateway.Connmgr.Proofs.LinkedConnmgrProofs
import SensorGateway.Connmgr.Proofs.HangupProofs
import SensorGateway.Connmgr.Proofs.DrainProofs
import SensorGateway.Tcp.Tcpsock
import SensorGateway.Tcp.Proofs.TcpsockProofs
import SensorGateway.Tcp.SensorNode
import SensorGateway.Tcp.Proofs.SensorNodeProofs
import SensorGateway.Tcp.ServerSockets
import SensorGateway.Tcp.Proofs.ServerSocketsProofs
import SensorGateway.Gateway.Threads
import SensorGateway.Gateway.Proofs.StepProofs
import SensorGateway.Gateway.Proofs.RoundProofs
import SensorGateway.Gateway.Proofs.DeliveryProofs
import SensorGateway.Gateway.Proofs.FlagProofs
import SensorGateway.Gateway.Proofs.ShutdownProofs
import SensorGateway.Gateway.Proofs.ProgressProofs
import SensorGateway.Gateway.Sbuffer
import SensorGateway.Gateway.Proofs.SbufferProofs
import SensorGateway.Gateway.LinkedGateway
import SensorGateway.Gateway.Proofs.LinkedGatewayProofs
import SensorGateway.Gateway.Locking
import SensorGateway.Gateway.Proofs.LockingProofs
import SensorGateway.Gateway.Proofs.LockProgressProofs
import SensorGateway.Gateway.Storage
import SensorGateway.Gateway.Proofs.StorageProofs
import SensorGateway.SensorDb.SensorFile
import SensorGateway.SensorDb.Proofs.FileProofs
import SensorGateway.SensorDb.InsertSql
import SensorGateway.SensorDb.Proofs.InsertSqlProofs
import SensorGateway.SensorDb.SelectSql
import SensorGateway.SensorDb.Proofs.SelectSqlProofs
import SensorGateway.Gateway.Log
import SensorGateway.Gateway.Proofs.LogProofs
import SensorGateway.SensorDb.Database
import SensorGateway.SensorDb.Proofs.DatabaseProofs
import SensorGateway.SensorDb.FileLoad
import SensorGateway.SensorDb.Proofs.FileLoadProofs
import SensorGateway.Gateway.System
import SensorGateway.Gateway.Proofs.SystemProofs

import Http3.BlockedQueue
import Http3.ChunkPool
import Http3.ClientDispatch
import Http3.ConnectionCap
import Http3.ConnectionReuse
import Http3.ControlMessages
import Http3.EventBackpressure
import Http3.EventBatches
import Http3.EventSource.Isolation
import Http3.EventSource.Trust
import Http3.H3Server.AddressValidation
import Http3.H3Server.StaleHandles
import Http3.IoUringDriver
import Http3.OutboundAdmission.Threads
import Http3.PendingWriteRun
import Http3.Pings
import Http3.PollDriver
import Http3.QuicServer.CertificateGate
import Http3.ReceiveErrors
import Http3.RequestBody
import Http3.SendFlush
import Http3.ServerClose
import Http3.ServerStream.Response
import Http3.ServerStream.WriteProgress
import Http3.SharedClient.WakeUps
import Http3.SharedClient.WorkerRegistry
import Http3.TimerHeapSpec
import Http3.WasmServerSend

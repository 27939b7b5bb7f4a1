import SovereignEdgeTee.Mealy
import SovereignEdgeTee.CounterChannel
import SovereignEdgeTee.LinearFifo
import SovereignEdgeTee.BoundedLoop
import SovereignEdgeTee.Binary64
import SovereignEdgeTee.Binary64Cast
import SovereignEdgeTee.Binary64Value
import SovereignEdgeTee.Utf8
import SovereignEdgeTee.Text
import SovereignEdgeTee.Separator
import SovereignEdgeTee.SlidingWindow
import SovereignEdgeTee.Tally
import SovereignEdgeTee.PacketProgram
import SovereignEdgeTee.Common
import SovereignEdgeTee.ContextWindow
import SovereignEdgeTee.VerifiedBuffer
import SovereignEdgeTee.EdgeAgent
import SovereignEdgeTee.Spool
import SovereignEdgeTee.EdgeAccounting
import SovereignEdgeTee.EdgeMonitor
import SovereignEdgeTee.EdgeFailSafe
import SovereignEdgeTee.EdgeProbe
import SovereignEdgeTee.EdgeBuffer
import SovereignEdgeTee.VerifiedModes
import SovereignEdgeTee.LlamaBackend
import SovereignEdgeTee.LlamaLimits
import SovereignEdgeTee.EdgeAnswers
import SovereignEdgeTee.EdgeHardware
import SovereignEdgeTee.EdgeMain
import SovereignEdgeTee.LeBytes
import SovereignEdgeTee.PqcTransport
import SovereignEdgeTee.PqcSessions
import SovereignEdgeTee.PqcSessionRuns
import SovereignEdgeTee.PqcIsolation
import SovereignEdgeTee.VerifiedNonces
import SovereignEdgeTee.PqcNetwork
import SovereignEdgeTee.PqcTransparent
import SovereignEdgeTee.PqcThreads
import SovereignEdgeTee.PqcRegistry
import SovereignEdgeTee.PqcNonces
import SovereignEdgeTee.PqcChannel
import SovereignEdgeTee.PqcReplay
import SovereignEdgeTee.PqcLoss
import SovereignEdgeTee.InOrder
import SovereignEdgeTee.PqcInOrder
import SovereignEdgeTee.PqcDuplex
import SovereignEdgeTee.PqcExpiry
import SovereignEdgeTee.ShortCircuit
import SovereignEdgeTee.ZkPolicy
import SovereignEdgeTee.ZkVerdicts
import SovereignEdgeTee.ZkThreshold
import SovereignEdgeTee.VerifiedPolicy
import SovereignEdgeTee.R1cs
import SovereignEdgeTee.ZkCircuit
import SovereignEdgeTee.ZkInstance
import SovereignEdgeTee.ZkGenerator
import SovereignEdgeTee.ZkSerialization
import SovereignEdgeTee.ZkGuarantees
import SovereignEdgeTee.ZkRegistry
import SovereignEdgeTee.ZkLog
import SovereignEdgeTee.ZkHistory
import SovereignEdgeTee.TeeStorage
import SovereignEdgeTee.TeeGateway
import SovereignEdgeTee.TeeAttestation
import SovereignEdgeTee.TeeCredentials
import SovereignEdgeTee.TeeResponses
import SovereignEdgeTee.TeeLog
import SovereignEdgeTee.TeeAccounting
import SovereignEdgeTee.TeeRequests
import SovereignEdgeTee.TeeTrace
import SovereignEdgeTee.TeeSecrecy
import SovereignEdgeTee.TeeMain
import SovereignEdgeTee.TeeEntries
import SovereignEdgeTee.ZeroCopy
import SovereignEdgeTee.ZeroCopyFifo
import SovereignEdgeTee.XdpFilter
import SovereignEdgeTee.XdpVerified
import SovereignEdgeTee.UmemRegion
import SovereignEdgeTee.XdpDaemon

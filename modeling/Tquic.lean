import Tquic.RangesProperties
import Tquic.RangesRun
import Tquic.Connection.RecvBuf
import Tquic.Connection.RecvBufProperties
import Tquic.Lib.Transition
import Tquic.Connection.Reassembly
import Tquic.Connection.SendBuf
import Tquic.Connection.SendBufProperties
import Tquic.Connection.Transmission
import Tquic.Connection.BufferInvariants
import Tquic.Connection.Concurrency
import Tquic.Connection.ConcurrencyProperties
import Tquic.Connection.FinDelivery
import Tquic.Connection.FlowAccounting
import Tquic.Connection.FrameConservation
import Tquic.Connection.InFlightAccounting
import Tquic.Connection.ResetDelivery
import Tquic.Connection.StreamLifecycle
import Tquic.Connection.StreamSilence
import Tquic.Connection.CidAdvertisement
import Tquic.Connection.CidReferences
import Tquic.Connection.CidRun
import Tquic.FrameRoundTrip
import Tquic.Connection.RetirementWriter
import Tquic.Connection.PathValidation
import Tquic.Connection.AntiAmplification
import Tquic.EndpointLoops
import Tquic.TokenRoundTrip
import Tquic.Connection.KeySelection
import Tquic.Connection.MaxDataRepair
import Tquic.Connection.PacketNumbers
import Tquic.PacketHeaders
import Tquic.TransportParamsRoundTrip
import Tquic.RouteLeaks
import Tquic.ClientAttempts
import Tquic.Connection.SendWakeups
import Tquic.Connection.ChallengeTimer
import Tquic.Connection.IdleTimer
import Tquic.SendFailures
import Tquic.H3.FrameRoundTrip
import Tquic.H3.Qpack.QpackRoundTrip
import Tquic.H3.ReceiveRun
import Tquic.H3.WriteFraming
import Tquic.Connection.NonceReuse
import Tquic.Connection.ReceiveEnd
import Tquic.Connection.FlowLimits
import Tquic.Connection.AckDetection
import Tquic.Connection.LossTimer
import Tquic.Connection.QueueEntries
import Tquic.Connection.Acknowledgements
import Tquic.Connection.ForgedPackets
import Tquic.Connection.EarlyReplay
import Tquic.PacketProtection
import Tquic.DuplicateWindow
import Tquic.RangeLimits
import Tquic.Flatten
import Tquic.WireCids
import Tquic.LocalParams
import Tquic.Connection.CidFailures
import Tquic.Connection.Reinjection
import Tquic.Connection.PacketSampling
import Tquic.Connection.PmtuSearch
import Tquic.Connection.AckFrames
import Tquic.Connection.AckScheduling
import Tquic.Connection.SpaceDrop
import Tquic.ConnectFailures
import Tquic.TokenBinding
import Tquic.Connection.KeyConfirmation
import Tquic.Connection.RttRange
import Tquic.H3.Qpack.PrefixIntValues
import Tquic.H3.Qpack.HuffmanBijection
import Tquic.H3.PayloadFields
import Tquic.H3.HeaderRoom
import Tquic.H3.PriorityLimits
import Tquic.H3.StreamInvariants
import Tquic.H3.MessageGrammar
import Tquic.H3.BodyWakeups
import Tquic.H3.EndMarks
import Tquic.H3.EndReports
import Tquic.H3.FinishedEvents
import Tquic.CongestionControl.MinMax
import Tquic.CongestionControl.PacerBursts
import Tquic.CongestionControl.RateDivisions
import Tquic.MultipathScheduler.RoundRobin
import Tquic.MultipathScheduler.DesignMatrix
import Tquic.MultipathScheduler.RttEstimates
import Tquic.Connection.PacketDelivery
import Tquic.Connection.StreamProgress

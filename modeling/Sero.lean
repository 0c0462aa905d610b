import Sero.Library.Backoff
import Sero.Library.Buffer
import Sero.Library.Lens
import Sero.Library.Memory
import Sero.Library.Network
import Sero.Library.Ownership
import Sero.Library.Runs
import Sero.Library.ShiftRegister
import Sero.Library.Slots
import Sero.Library.Table
import Sero.Library.TableRelation
import Sero.Core.Clock
import Sero.Core.MessageHeader
import Sero.Core.Types
import Sero.Security.Crc16
import Sero.Security.E2EProtection
import Sero.Security.Hmac
import Sero.Security.MessageAuthenticator
import Sero.Security.Sha256
import Sero.Service.DiagScanner
import Sero.Service.Diagnostics
import Sero.Service.EventManager
import Sero.Service.MethodDispatcher
import Sero.Service.RequestTracker
import Sero.Service.ServiceDiscovery
import Sero.Runtime.Accesses
import Sero.Runtime.Answers
import Sero.Runtime.Api
import Sero.Runtime.Arrivals
import Sero.Runtime.Decomposition
import Sero.Runtime.Deeds
import Sero.Runtime.DiscoverySteps
import Sero.Runtime.Receive
import Sero.Runtime.Run
import Sero.Runtime.Steps
import Sero.Runtime.Traffic
import Sero.Runtime.Transmit
import Sero.Runtime.World
import Sero.Node.Binding
import Sero.Properties.AdvertisedServices
import Sero.Properties.Agreement
import Sero.Properties.AnswerBounds
import Sero.Properties.Authentication
import Sero.Properties.BindingMemory
import Sero.Properties.BindingPromises
import Sero.Properties.CallShift
import Sero.Properties.CallbackOrigins
import Sero.Properties.ClockShift
import Sero.Properties.ClockWrap
import Sero.Properties.ConsumerDiscovery
import Sero.Properties.ConsumerLease
import Sero.Properties.DiagnosticsEnabling
import Sero.Properties.DiagnosticsReplies
import Sero.Properties.Discard
import Sero.Properties.DiscoveryFrames
import Sero.Properties.DiscoveryShift
import Sero.Properties.DtcReports
import Sero.Properties.DtcTimes
import Sero.Properties.EndedSubscription
import Sero.Properties.ErrorDetection
import Sero.Properties.EventLeases
import Sero.Properties.FanOut
import Sero.Properties.FindBackoff
import Sero.Properties.FindRetries
import Sero.Properties.FrameOrigins
import Sero.Properties.HandlerBuffer
import Sero.Properties.Hashing
import Sero.Properties.IgnoredOffer
import Sero.Properties.LastCallWins
import Sero.Properties.MemorySafety
import Sero.Properties.OfferFrames
import Sero.Properties.OfferHandling
import Sero.Properties.OfferKeptAlive
import Sero.Properties.OfferLease
import Sero.Properties.OneWayProgress
import Sero.Properties.OversizedPayloads
import Sero.Properties.PeerIsolation
import Sero.Properties.PendingRequests
import Sero.Properties.ReceivePipeline
import Sero.Properties.ReceiveShift
import Sero.Properties.RefusedSubscription
import Sero.Properties.Registrations
import Sero.Properties.RemainingLease
import Sero.Properties.Replay
import Sero.Properties.ReplyMatching
import Sero.Properties.RequestDeadlines
import Sero.Properties.RequestFrames
import Sero.Properties.RequestOutcome
import Sero.Properties.RequestReturns
import Sero.Properties.RequestTimeouts
import Sero.Properties.RetryBudget
import Sero.Properties.RetrySchedule
import Sero.Properties.RpcAgreement
import Sero.Properties.RpcProgress
import Sero.Properties.RuntimeShift
import Sero.Properties.SequenceTracking
import Sero.Properties.SequenceWindow
import Sero.Properties.SessionIds
import Sero.Properties.SignedFrames
import Sero.Properties.StaleBytes
import Sero.Properties.SubscribeCall
import Sero.Properties.SubscriberLease
import Sero.Properties.SubscriptionFrames
import Sero.Properties.SubscriptionKeptAlive
import Sero.Properties.SubscriptionTracker
import Sero.Properties.TableOrigins
import Sero.Properties.TableSlots
import Sero.Properties.WireFormat

import FlossDesktop.Library.Feed
import FlossDesktop.Library.History
import FlossDesktop.Library.Ledger
import FlossDesktop.Library.RingBuffer
import FlossDesktop.Transport
import FlossDesktop.Usb
import FlossDesktop.MainLoop
import FlossDesktop.Helper
import FlossDesktop.Watchdog
import FlossDesktop.Controller
import FlossDesktop.Bridge
import FlossDesktop.Msbc
import FlossDesktop.ScoPcm
import FlossDesktop.Pairing
import FlossDesktop.Proofs.TransportCases
import FlossDesktop.Proofs.Framing
import FlossDesktop.Proofs.ScoOrder
import FlossDesktop.Proofs.UsbCases
import FlossDesktop.Proofs.UsbOwnership
import FlossDesktop.Proofs.UsbReceivers
import FlossDesktop.Proofs.ScoExecution
import FlossDesktop.Proofs.LoopOrder
import FlossDesktop.Proofs.ResetOrder
import FlossDesktop.Proofs.StallWindow
import FlossDesktop.Proofs.PoolPressure
import FlossDesktop.Proofs.Backpressure
import FlossDesktop.Proofs.BridgeCases
import FlossDesktop.Proofs.BridgeInvariant
import FlossDesktop.Proofs.ChunkCopy
import FlossDesktop.Proofs.OutputRing
import FlossDesktop.Proofs.Microphone
import FlossDesktop.Proofs.VoiceClock
import FlossDesktop.Proofs.PcmRings
import FlossDesktop.Proofs.MsbcFraming
import FlossDesktop.Proofs.ScoGeneration
import FlossDesktop.Proofs.PairingCases
import FlossDesktop.Proofs.PairingConflict
import FlossDesktop.Proofs.PairingAnswers
import FlossDesktop.Library.Machine
import FlossDesktop.Media
import FlossDesktop.Proofs.MediaCases
import FlossDesktop.Proofs.MediaListeners
import FlossDesktop.Proofs.LeaseListeners
import FlossDesktop.Proofs.LeaseOwnership
import FlossDesktop.Profiles
import FlossDesktop.Proofs.ProfileCases
import FlossDesktop.Proofs.ProfileTransitions
import FlossDesktop.Proofs.ProfileRuns
import FlossDesktop.Proofs.HfpAcquisition
import FlossDesktop.Proofs.RecordingKeepsHfp
import FlossDesktop.Proofs.ProfileConsistency
import FlossDesktop.Proofs.ScoFraming
import FlossDesktop.Proofs.Directions
import FlossDesktop.Proofs.ScoLoss
import FlossDesktop.Proofs.Segmentation
import FlossDesktop.Discovery
import FlossDesktop.Proofs.DescriptorDiscovery
import FlossDesktop.Proofs.ScoRetry
import FlossDesktop.PcmDictionary
import FlossDesktop.Proofs.PcmGrammar
import FlossDesktop.Library.LittleEndian
import FlossDesktop.Proofs.Downmix
import FlossDesktop.Feedback
import FlossDesktop.Proofs.PositionFeedback
import FlossDesktop.Proofs.StallFeedback
import FlossDesktop.Library.SharedSettings
import FlossDesktop.Reconnect
import FlossDesktop.Proofs.ReconnectIntent
import FlossDesktop.Library.Mirror
import FlossDesktop.Devices
import FlossDesktop.Proofs.DeviceMarks
import FlossDesktop.Proofs.DeviceHistory
import FlossDesktop.Proofs.DeviceAgreement
import FlossDesktop.Library.AnnouncedList
import FlossDesktop.DeviceList
import FlossDesktop.Proofs.ListDiff
import FlossDesktop.EncodingHost
import FlossDesktop.Proofs.PresentationBytes
import FlossDesktop.Library.IdentityIndex
import FlossDesktop.Callbacks
import FlossDesktop.Proofs.CallbackRegistry
import FlossDesktop.Proofs.CaptureReads
import FlossDesktop.Rfkill
import FlossDesktop.Proofs.RfkillTargeting
import FlossDesktop.Proofs.SendEffects
import FlossDesktop.Library.AtomicPrograms
import FlossDesktop.Handoff
import FlossDesktop.Proofs.HandoffSteps
import FlossDesktop.Proofs.RetryBackoff
import FlossDesktop.Proofs.ExplicitIntent
import FlossDesktop.Library.Tickets
import FlossDesktop.Floss
import FlossDesktop.Proofs.PairingEpochs
import FlossDesktop.Proofs.OperationBooks
import FlossDesktop.Proofs.OperationTickets
import FlossDesktop.Proofs.StaleReplies
import FlossDesktop.Library.Chunks
import FlossDesktop.Library.Cadence
import FlossDesktop.CodecService
import FlossDesktop.Aptx
import FlossDesktop.Proofs.CodecBlocks
import FlossDesktop.Proofs.AptxCases
import FlossDesktop.Proofs.AptxStream
import FlossDesktop.Proofs.AptxPace
import FlossDesktop.Proofs.AptxBooks
import FlossDesktop.Ldac
import FlossDesktop.Library.Monitor
import FlossDesktop.Proofs.LdacPackets
import FlossDesktop.Proofs.LdacSession
import FlossDesktop.RadioPower
import FlossDesktop.Proofs.RadioProtocol
import FlossDesktop.Proofs.RadioBudget
import FlossDesktop.A2dpIntf
import FlossDesktop.Proofs.PeerCalls
import FlossDesktop.Proofs.PcmReadings
import FlossDesktop.AudioDevices
import FlossDesktop.Proofs.AdvertisedCodecs
import FlossDesktop.Library.Dialogue
import FlossDesktop.Uinput
import FlossDesktop.Proofs.UinputLife
import FlossDesktop.Lifetime
import FlossDesktop.Proofs.UsbClaims
import FlossDesktop.Proofs.HelperLifetime
import FlossDesktop.Proofs.ApartSteps
import FlossDesktop.Proofs.Registrations
import FlossDesktop.Proofs.NameChanges

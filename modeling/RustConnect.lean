import RustConnect.Base.Program
import RustConnect.Base.Table
import RustConnect.Base.History
import RustConnect.Types
import RustConnect.Text
import RustConnect.Files
import RustConnect.CertificateManager
import RustConnect.CertificateFiles
import RustConnect.Pairing
import RustConnect.PairingFootprint
import RustConnect.PairingRuns
import RustConnect.PairingReceive
import RustConnect.PairingCalls
import RustConnect.PacketLoop
import RustConnect.PairingConsent
import RustConnect.PairingHistory
import RustConnect.AcceptRules
import RustConnect.TrustAnchor
import RustConnect.TrustHistory
import RustConnect.TrustCrash
import RustConnect.TrustRestart
import RustConnect.Base.Lines
import RustConnect.Base.Loop
import RustConnect.BufReader
import RustConnect.LineReaders
import RustConnect.LineRuns
import RustConnect.Framing
import RustConnect.PacketCodec
import RustConnect.Receive
import RustConnect.PacketStream
import RustConnect.IdleTicks
import RustConnect.Base.Pool
import RustConnect.Identity
import RustConnect.ConnectionManager
import RustConnect.Attempts
import RustConnect.Delivery
import RustConnect.PinEnforcement
import RustConnect.HandOff
import RustConnect.PendingRequests
import RustConnect.PairingViews
import RustConnect.RefusedAttempts
import RustConnect.PacketRoundTrip
import RustConnect.LinkGenerations
import RustConnect.LinkReplacement
import RustConnect.Daemon
import RustConnect.WholeFrames
import RustConnect.IdentityFirst
import RustConnect.Teardown
import RustConnect.FanOut
import RustConnect.DeviceApi
import RustConnect.PairAccept
import RustConnect.CertificateFrame
import RustConnect.Base.Base64
import RustConnect.Pem
import RustConnect.TrustOnFirstUse
import RustConnect.OwnIdentity
import RustConnect.Capabilities
import RustConnect.Registry
import RustConnect.Base.Trail
import RustConnect.ConnectionSetup
import RustConnect.PlaintextIdentity
import RustConnect.Discovery
import RustConnect.RegistryFile
import RustConnect.RegistryReload
import RustConnect.TrustRace
import RustConnect.Base.Entries
import RustConnect.RegistryCap
import RustConnect.Lifecycle
import RustConnect.Router
import RustConnect.Base.Custody
import RustConnect.ScreensaverInhibit
import RustConnect.SftpMounts
import RustConnect.MountTable
import RustConnect.InputCapture
import RustConnect.CaptureFlag
import RustConnect.CaptureOwner
import RustConnect.EiReceiver
import RustConnect.CapturedInput
import RustConnect.Clipboard
import RustConnect.Mpris
import RustConnect.SystemVolume
import RustConnect.MprisMirror
import RustConnect.JsonFields
import RustConnect.SelfPairing
import RustConnect.PairingTasks
import RustConnect.PendingBound
import RustConnect.ExpirySweep
import RustConnect.SelfLinks
import RustConnect.Reconnects
import RustConnect.DispatchGate
import RustConnect.VolumeSync
import RustConnect.SharedKey
import RustConnect.ClipboardEcho
import RustConnect.PayloadTransfer
import RustConnect.DownloadNames
import RustConnect.TransferPermits
import RustConnect.Trimming
import RustConnect.VCard
import RustConnect.VCardFolding
import RustConnect.Contacts
import RustConnect.ContactsSync
import RustConnect.Notifications
import RustConnect.DesktopDedupe
import RustConnect.IdentityNames
import RustConnect.Base.FirstLeast
import RustConnect.Barrier
import RustConnect.BroadcastFallback
import RustConnect.DeviceIds
import RustConnect.PluginIndex
import RustConnect.MousepadInput
import RustConnect.MprisRequests
import RustConnect.SftpFields
import RustConnect.RunCommands
import RustConnect.Base.ServerSentEvents
import RustConnect.EventStream
import RustConnect.Base.Runs
import RustConnect.PauseMusic
import RustConnect.PendingDials

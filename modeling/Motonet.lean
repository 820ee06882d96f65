import Motonet.Foundation.TransitionSystem
import Motonet.Foundation.Fallible
import Motonet.Foundation.ByteString
import Motonet.Foundation.Chunked
import Motonet.Foundation.SymmetricCryptography
import Motonet.Foundation.Sha256
import Motonet.Foundation.SelfDelimiting
import Motonet.Foundation.Hexadecimal
import Motonet.OtaCore.Policy
import Motonet.OtaCore.Manifest
import Motonet.OtaCore.JsonString
import Motonet.OtaCore.SignedBytes
import Motonet.Firmware.Encrypted
import Motonet.Firmware.BootMetadata
import Motonet.Firmware.FlashWrite
import Motonet.Firmware.SealedImage
import Motonet.Firmware.CounterReuse
import Motonet.Firmware.EncryptedBody
import Motonet.Firmware.Installation
import Motonet.Packer
import Motonet.RoundTrip
import Motonet.PrefixCheck
import Motonet.BodyBounds
import Motonet.Activation
import Motonet.ChunkBinding
import Motonet.Foundation.Mailbox
import Motonet.Tasks.System
import Motonet.Tasks.Ota
import Motonet.Tasks.Mqtt
import Motonet.Tasks.MqttMoves
import Motonet.Tasks.Run
import Motonet.Tasks.RunningSlot
import Motonet.Tasks.ConfirmationWindow
import Motonet.Tasks.RetainedDelivery
import Motonet.Foundation.BitString
import Motonet.Foundation.Crc
import Motonet.Rubicson.Decoder
import Motonet.Rubicson.Packets
import Motonet.Rubicson.Frames
import Motonet.Rubicson.NoisyBurst
import Motonet.Rubicson.BurstErrors
import Motonet.TelemetryCore.Dedupe
import Motonet.Firmware.Telemetry
import Motonet.Tasks.MqttEnvironment
import Motonet.Tasks.CommandDelivery
import Motonet.Tasks.StandDown
import Motonet.Tasks.UpdateState
import Motonet.AppCore.ConfigRules
import Motonet.AppCore.RtcSchema
import Motonet.Firmware.RadioSettings
import Motonet.Firmware.Radio433
import Motonet.Tasks.Radio433
import Motonet.Tasks.SavedSettings
import Motonet.Foundation.Recent
import Motonet.TelemetryCore.DedupeWindow
import Motonet.TelemetryCore.Queue
import Motonet.Firmware.RadioFailures
import Motonet.Foundation.Emsa
import Motonet.RsaVerifyCore.EncodedMessage
import Motonet.Foundation.Limbs
import Motonet.RsaVerifyCore.PublicKey
import Motonet.RsaVerifyCore.Montgomery
import Motonet.RsaVerifyCore.KeySetup
import Motonet.Foundation.Calendar
import Motonet.EuDst.Timezone
import Motonet.EuDst.Transitions
import Motonet.Tasks.TlsWorkspace
import Motonet.Tasks.WorkspaceRelease
import Motonet.KaruMenu.Viewport
import Motonet.KaruMenu.Items
import Motonet.KaruMenu.Menu
import Motonet.Display.Frame
import Motonet.Display.Controller
import Motonet.Display.SettingsScreen
import Motonet.Display.Picture
import Motonet.Display.Task
import Motonet.Firmware.PulseCapture
import Motonet.KaruMenu.Integers
import Motonet.KaruMenu.Scrolling
import Motonet.KaruMenu.Editing
import Motonet.RsaVerifyCore.Parameters
import Motonet.Firmware.RsaVerifier
import Motonet.Foundation.Der
import Motonet.RsaVerifyCore.DerForm
import Motonet.Foundation.Separated
import Motonet.OtaCore.UrlGrammar
import Motonet.Firmware.OtaDns
import Motonet.Tasks.RedirectChain
import Motonet.Foundation.Json
import Motonet.OtaCore.ManifestJson
import Motonet.PackerArguments
import Motonet.Rubicson.Continuation
import Motonet.Firmware.CaptureReuse
import Motonet.AppCore.RuntimePolicy
import Motonet.Foundation.CheckedFold
import Motonet.AppCore.RtcCorruption
import Motonet.Firmware.PowerSettings
import Motonet.Tasks.Persistence
import Motonet.Firmware.PowerPolicy
import Motonet.Rubicson.ErrorWeight
import Motonet.Foundation.Enumeration
import Motonet.Firmware.PulseDistances
import Motonet.Foundation.Distinct
import Motonet.AppCore.NtpServers
import Motonet.Firmware.PowerRuns
import Motonet.Foundation.Rounding
import Motonet.Foundation.Binary32
import Motonet.Firmware.Messages
import Motonet.Firmware.Publish
import Motonet.Tasks.TelemetryPath
import Motonet.Tasks.RfSweep
import Motonet.Foundation.ByteReader
import Motonet.Foundation.DataRefinement
import Motonet.Http.Connection
import Motonet.Http.ChunkedReader
import Motonet.Http.ChunkedCoding
import Motonet.Http.Body
import Motonet.Http.Response
import Motonet.Firmware.HttpDownload
import Motonet.HttpRoundTrip
import Motonet.Tls.Hostname
import Motonet.Tls.Protocol
import Motonet.Tls.CertVerifier
import Motonet.Tls.Messages
import Motonet.Tls.RecordReader
import Motonet.Tls.KeySchedule
import Motonet.Tls.Handshake
import Motonet.Tls.Opening
import Motonet.Tls.Authentication
import Motonet.Tls.ApplicationData

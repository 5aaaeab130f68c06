import JetKvm.Library.Transition
import JetKvm.Library.ThreadPool
import JetKvm.Library.Bitmask
import JetKvm.Library.Outcome
import JetKvm.Library.Log
import JetKvm.Library.Procedure
import JetKvm.Library.Digraph
import JetKvm.Library.Word
import JetKvm.Library.Stutter
import JetKvm.Library.PrefixCode
import JetKvm.Library.Writes
import JetKvm.Library.Framing
import JetKvm.Text
import JetKvm.Keyboard.KeyCodes
import JetKvm.Keyboard.KeyBuffer
import JetKvm.Keyboard.Gadget
import JetKvm.Keyboard.HeldKeys
import JetKvm.Keyboard.AutoRelease
import JetKvm.Keyboard.MediaRelease
import JetKvm.Keyboard.PendingRelease
import JetKvm.HidRpc.Message
import JetKvm.HidRpc.Safety
import JetKvm.HidRpc.Browser
import JetKvm.HidRpc.Agreement
import JetKvm.Keyboard.Goroutine
import JetKvm.Keyboard.HostAgreement
import JetKvm.Keyboard.SessionClose
import JetKvm.Ota.State
import JetKvm.Ota.Verify
import JetKvm.Ota.Update
import JetKvm.Ota.History
import JetKvm.Ota.Ending
import JetKvm.Ota.Shown
import JetKvm.VirtualMedia.Mount
import JetKvm.VirtualMedia.Exclusion
import JetKvm.Library.RWMutex
import JetKvm.VirtualMedia.Lock
import JetKvm.VirtualMedia.UploadChannel
import JetKvm.VirtualMedia.UploadFiles
import JetKvm.VirtualMedia.UploadOrder
import JetKvm.UsbPlan.ChangeSet
import JetKvm.UsbPlan.Resolver
import JetKvm.UsbPlan.Config
import JetKvm.UsbPlan.Transaction
import JetKvm.UsbPlan.Written
import JetKvm.UsbPlan.Ordering
import JetKvm.UsbPlan.LinkedLast
import JetKvm.Library.FileTree
import JetKvm.UsbPlan.Files
import JetKvm.UsbPlan.Judged
import JetKvm.UsbPlan.Requested
import JetKvm.UsbPlan.Settled
import JetKvm.UsbPlan.Contents
import JetKvm.UsbPlan.Attributes
import JetKvm.UsbPlan.Configured
import JetKvm.Macro.Cancel
import JetKvm.Macro.Executor
import JetKvm.Session.KeepAlive
import JetKvm.Session.HoldTime
import JetKvm.Keyboard.LegacyBrowser
import JetKvm.Library.Channel
import JetKvm.HidRpc.MouseButtons
import JetKvm.Session.KeysDownQueue
import JetKvm.Rpc.Conversion
import JetKvm.Rpc.Handler
import JetKvm.Rpc.Calls
import JetKvm.Library.Scanner
import JetKvm.Library.Slot
import JetKvm.SerialConsole.Normalize
import JetKvm.SerialConsole.Broker
import JetKvm.SerialConsole.LineEndings
import JetKvm.SerialConsole.Lines
import JetKvm.Library.Transducer
import JetKvm.SerialConsole.Labels
import JetKvm.SerialConsole.Chunks
import JetKvm.Library.Timer
import JetKvm.Mqtt.AtxDebounce
import JetKvm.Mqtt.UpdateIndicator
import JetKvm.Mqtt.UpdateRuns
import JetKvm.Mqtt.MacroRunning
import JetKvm.Library.Numeral
import JetKvm.Network.IP
import JetKvm.Library.Matching
import JetKvm.Network.ParseAddr
import JetKvm.Network.ConfParser
import JetKvm.Network.NetworkConfig
import JetKvm.Network.IPNet
import JetKvm.Network.Netlink
import JetKvm.Network.Reconcile
import JetKvm.Network.Reconciled
import JetKvm.Library.Checked
import JetKvm.Audio.G722
import JetKvm.Audio.G722Range
import JetKvm.Audio.Pcmu
import JetKvm.Session.Takeover
import JetKvm.Session.KeysKept
import JetKvm.Session.ReplacedKeys
import JetKvm.Library.LockOrder
import JetKvm.Keyboard.KeyboardLocks
import JetKvm.Web.RateLimiter
import JetKvm.Web.Lockout
import JetKvm.Web.Backoff
import JetKvm.Web.LocalAuth
import JetKvm.Cloud.Registration
import JetKvm.Library.ThreadCount
import JetKvm.Web.Login
import JetKvm.Keyboard.BufferShape
import JetKvm.Macro.Compile
import JetKvm.Config.Save
import JetKvm.Network.DhcpClient
import JetKvm.Network.DhcpLifeCycle
import JetKvm.Native.VideoStream
import JetKvm.Native.StreamOwner
import JetKvm.Native.StopWins
import JetKvm.Native.Restart
import JetKvm.Library.LongestSuffix
import JetKvm.SerialConsole.PausedOutput
import JetKvm.SerialConsole.Tokens
import JetKvm.Macro.Stored
import JetKvm.Macro.Paste
import JetKvm.Mqtt.Discovery
import JetKvm.Mqtt.MacroButtons
import JetKvm.Network.DhcpLease
import JetKvm.UsbPlan.Resolution
import JetKvm.UsbPlan.Accepted
import JetKvm.UsbPlan.MassStorageMode
import JetKvm.Library.Unmarshal
import JetKvm.Config.Decoders
import JetKvm.Config.Load
import JetKvm.Web.CertStore
import JetKvm.Library.EdgeTrigger
import JetKvm.Session.Handlers
import JetKvm.Session.HostDisplay
import JetKvm.Session.Capture
import JetKvm.Session.Codec
import JetKvm.SerialConsole.Cuts
import JetKvm.Network.Netmask
import JetKvm.Network.Renewal
import JetKvm.Network.DefaultRoute
import JetKvm.Network.LeaseFile
import JetKvm.Network.LeaseClients
import JetKvm.Network.ResolvConf
import JetKvm.Network.ResolvConfContent
import JetKvm.Network.ResolvConfCanonical
import JetKvm.TimeSync.Servers
import JetKvm.TimeSync.Query
import JetKvm.Native.Edid
import JetKvm.Native.Frames
import JetKvm.Native.Supervision
import JetKvm.Display.Backlight
import JetKvm.Supervisor.Failsafe
import JetKvm.Logging.Broadcast
import JetKvm.Trackpad.Gestures
import JetKvm.Trackpad.Host
import JetKvm.Trackpad.Buttons
import JetKvm.Trackpad.Drag
import JetKvm.Trackpad.Scroll
import JetKvm.Usb.Recovery

import FrameMC.Cli
import FrameMC.ConfigFile
import FrameMC.Crypto.Aes
import FrameMC.Crypto.ServerHash
import FrameMC.Lib.AsyncRead
import FrameMC.Lib.CursorLoop
import FrameMC.Lib.Effect
import FrameMC.Lib.FileSystem
import FrameMC.Lib.HashSet
import FrameMC.Lib.KeyedTable
import FrameMC.Lib.Leb128
import FrameMC.Lib.PercentEncoding
import FrameMC.Lib.Radix
import FrameMC.Lib.RustPath
import FrameMC.Lib.SelectLoop
import FrameMC.Lib.Transducer
import FrameMC.Network.AcceptLoop
import FrameMC.Network.Admission
import FrameMC.Network.Authentication
import FrameMC.Network.Bridging
import FrameMC.Network.Continuation
import FrameMC.Network.Framing
import FrameMC.Network.Listener
import FrameMC.Network.LoginOrder
import FrameMC.Network.Negotiation
import FrameMC.Network.RegistryReplay
import FrameMC.Network.SealedChannel
import FrameMC.Network.SessionServer
import FrameMC.Network.Status
import FrameMC.Protocol.BungeeFields
import FrameMC.Protocol.Channel
import FrameMC.Protocol.Configuration
import FrameMC.Protocol.Forwarding
import FrameMC.Protocol.Handshake
import FrameMC.Protocol.Login
import FrameMC.Protocol.LoginRoundTrip
import FrameMC.Protocol.Packet
import FrameMC.Protocol.RegistryEntries
import FrameMC.Protocol.Varint
import FrameMC.Protocol.VarintLanguage
import FrameMC.Protocol.Varlong
import FrameMC.Protocol.VelocityPayload
import FrameMC.Routing.Chat
import FrameMC.Routing.CodecPairs
import FrameMC.Routing.CommandHooks
import FrameMC.Routing.Completion
import FrameMC.Routing.CompressionSync
import FrameMC.Routing.CountOverflow
import FrameMC.Routing.CurrentServer
import FrameMC.Routing.DeclareCommands
import FrameMC.Routing.Delivery
import FrameMC.Routing.Fallback
import FrameMC.Routing.HostileBytes
import FrameMC.Routing.LoginDiscipline
import FrameMC.Routing.OpenScreen
import FrameMC.Routing.Packets
import FrameMC.Routing.RegistryCapture
import FrameMC.Routing.Relay
import FrameMC.Routing.Respawn
import FrameMC.Routing.RootIndex
import FrameMC.Routing.Run
import FrameMC.Routing.ShippedCommands
import FrameMC.Routing.Spoofing
import FrameMC.Routing.StateMachine
import FrameMC.Routing.Steps
import FrameMC.Routing.Suggestions
import FrameMC.Routing.Switch
import FrameMC.Routing.SystemChat
import FrameMC.Script.Composition
import FrameMC.Script.Engine
import FrameMC.Script.Events
import FrameMC.Script.HookCalls
import FrameMC.Script.Shipped
import FrameMC.Script.Store

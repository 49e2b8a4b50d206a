import Dsvpn.ByteBuffer
import Dsvpn.Aead
import Dsvpn.Protocol
import Dsvpn.IConnection
import Dsvpn.FrameCodec
import Dsvpn.AsyncRead
import Dsvpn.FrameStream
import Dsvpn.UdpConnection
import Dsvpn.UdpRoundTrip
import Dsvpn.TcpConnection
import Dsvpn.SendRun
import Dsvpn.NonceDiscipline
import Dsvpn.StepSystem
import Dsvpn.TcpReceiver
import Dsvpn.FrameAuthenticity
import Dsvpn.UdpServer
import Dsvpn.ServerFilter
import Dsvpn.TcpServer
import Dsvpn.ReceiveStream
import Dsvpn.HandlerRules
import Dsvpn.Orderly
import Dsvpn.ConnSocket
import Dsvpn.FailureHandlers
import Dsvpn.Takeover
import Dsvpn.ServerStream
import Dsvpn.TcpFraming
import Dsvpn.Outside
import Dsvpn.Outsiders
import Dsvpn.Client
import Dsvpn.Tunnel
import Dsvpn.Direction
import Dsvpn.Handlers
import Dsvpn.Selection
import Dsvpn.TornFrames
import Dsvpn.ReceiveReturns
import Dsvpn.DecodeBounds
import Dsvpn.HandshakeFrames
import Dsvpn.ProvenClients
import Dsvpn.HandshakeThrows
import Dsvpn.TakeoverSwitch
import Dsvpn.TcpClient
import Dsvpn.CloseSockets
import Dsvpn.TunDevice
import Dsvpn.Context
import Dsvpn.DataPath
import Dsvpn.UdpHistory
import Dsvpn.SelectingFrame
import Dsvpn.FirstFrame
import Dsvpn.ClientLoops
import Dsvpn.ClientParts
import Dsvpn.Separate
import Dsvpn.ClientDuplex
import Dsvpn.ClientStop
import Dsvpn.UnorderedMap
import Dsvpn.ServerRegistry
import Dsvpn.ContextSettings
import Dsvpn.Amortized
import Dsvpn.ReceiveRounds
import Dsvpn.BagPrograms
import Dsvpn.Text
import Dsvpn.FirewallRules
import Dsvpn.DefaultRoute
import Dsvpn.YamlPaths
import Dsvpn.ServerWrites
import Dsvpn.ServerDirection
import Dsvpn.DatagramLink
import Dsvpn.UdpSession
import Dsvpn.UdpSteps
import Dsvpn.UdpLinks
import Dsvpn.ClientStream
import Dsvpn.TcpUplink
import Dsvpn.SocketFrames
import Dsvpn.TcpDownlink
import Dsvpn.PolicyRouting
import Dsvpn.IpCommands
import Dsvpn.ClientRoutes
import Dsvpn.OsxRoutes
import Dsvpn.ClientRouting

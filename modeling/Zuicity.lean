import Zuicity.Cli.JsonLog
import Zuicity.Cli.MyIp
import Zuicity.Cli.RotatingLog
import Zuicity.Cli.Sharelink
import Zuicity.Client.ForwardLoops
import Zuicity.Client.MixedLoopBlocks
import Zuicity.Client.MixedLoopOrder
import Zuicity.Client.MixedLoopStale
import Zuicity.Config.HostPort
import Zuicity.Config.Pins
import Zuicity.Config.Server
import Zuicity.Dae.Metrics
import Zuicity.Dae.ProxyTarget
import Zuicity.Dae.ShutdownSignal
import Zuicity.Dialer.Hysteria2
import Zuicity.Dialer.LinkIpv6
import Zuicity.Dialer.Socks5Datagram
import Zuicity.Dialer.TrojanUdp
import Zuicity.Dialer.VlessStream
import Zuicity.Relay.CopyAgrees
import Zuicity.Relay.UdpOverStreamEnd
import Zuicity.Relay.UdpOverStreamLinkRun
import Zuicity.Relay.WriteVectored
import Zuicity.Server.EgressLink
import Zuicity.Server.LoopAccounts
import Zuicity.Server.LoopServes
import Zuicity.Tls.ChainHash
import Zuicity.Tls.Dial
import Zuicity.Tuic.Connect
import Zuicity.Tuic.Dissociate
import Zuicity.Tuic.Packet
import Zuicity.Tuic.Reassembly
import Zuicity.Udp.PollRecv
import Zuicity.Udp.TrySendRace
import Zuicity.Vmess.Kdf
import Zuicity.Vmess.Udp

import Trustydns.BestServer.Selection
import Trustydns.BestServer.Reassess
import Trustydns.BestServer.Sampling
import Trustydns.ConcurrencyTracker.Counter
import Trustydns.ConnectionTracker.Tracker
import Trustydns.Net.IP
import Trustydns.DnsUtil.Padding
import Trustydns.Proxy.Server
import Trustydns.Exchange.RoundTrip
import Trustydns.Resolver.Local
import Trustydns.Proxy.Run
import Trustydns.Server.Main
import Trustydns.Proxy.EcsSettings

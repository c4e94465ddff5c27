import DohProxy.Lib.Outcome
import DohProxy.Lib.Bytes
import DohProxy.Lib.Orbit
import DohProxy.Lib.Fuel
import DohProxy.Lib.Utf8
import DohProxy.Net.IpAddr
import DohProxy.Dns.Packet
import DohProxy.Dns.Segment
import DohProxy.Dns.Edns
import DohProxy.Dns.Padding
import DohProxy.Dns.Ecs
import DohProxy.Dns.EcsSafety
import DohProxy.Upstream.RrType
import DohProxy.Upstream.Msg
import DohProxy.Json.Query
import DohProxy.Json.Response
import DohProxy.Json.Termination
import DohProxy.Lib.Chain
import DohProxy.Lib.Lru
import DohProxy.Cache.FastestIp
import DohProxy.Bootstrap.Reply
import DohProxy.Lib.Runs
import DohProxy.Bootstrap.Cache
import DohProxy.Upstream.H2Client
import DohProxy.Upstream.H3Loop
import DohProxy.Upstream.H3Table
import DohProxy.Upstream.H3Body
import DohProxy.Upstream.H3Delivery
import DohProxy.Dns.MinTtl
import DohProxy.Upstream.Pack
import DohProxy.Upstream.Rewrite
import DohProxy.Upstream.Untrusted
import DohProxy.Upstream.Waiting
import DohProxy.Constants
import DohProxy.Errors
import DohProxy.Lib.Attempts
import DohProxy.Upstream.Exchange
import DohProxy.Upstream.FastestAddr
import DohProxy.Upstream.Modes
import DohProxy.Server.Clients
import DohProxy.Upstream.PlainDns
import DohProxy.Upstream.ProtocolHint
import DohProxy.Lib.Text
import DohProxy.Server.Request
import DohProxy.Server.Agreement
import DohProxy.Server.H3Request
import DohProxy.Dns.SmallestTtl
import DohProxy.Dns.OptSearch
import DohProxy.Dns.Rewriters
import DohProxy.Dns.PayloadSize
import DohProxy.Dns.PaddedLength
import DohProxy.Dns.EcsOptions
import DohProxy.Dns.EcsNames
import DohProxy.Upstream.RewriteMsg
import DohProxy.Upstream.Moved
import DohProxy.Bootstrap.Owners
import DohProxy.Net.IpText
import DohProxy.Bootstrap.Resolve
import DohProxy.Cache.Stores
import DohProxy.Upstream.Pings
import DohProxy.Upstream.H3Failures
import DohProxy.Upstream.Rebuild
import DohProxy.Upstream.NameWalkers
import DohProxy.Json.Sections
import DohProxy.Json.Contained
import DohProxy.Config.UpstreamArg
import DohProxy.Upstream.Waiting
import DohProxy.Server.Prepare
import DohProxy.Server.Proxy
import DohProxy.Upstream.H3Pool
import DohProxy.Server.Odoh
import DohProxy.Server.Supervisor
import DohProxy.Server.Responses
import DohProxy.Lib.Retry
import DohProxy.Upstream.Retryable
import DohProxy.Upstream.Retries
import DohProxy.Lib.Duplex
import DohProxy.Upstream.Dot
import DohProxy.Server.Tls
import DohProxy.Json.RoundTrip
import DohProxy.Server.CertWatcher
import DohProxy.Config.Options
import DohProxy.Server.Wire

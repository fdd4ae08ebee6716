import SentinelProxy.Transition.Machine
import SentinelProxy.Transition.Group
import SentinelProxy.Transition.Driven
import SentinelProxy.Counting.Window
import SentinelProxy.Counting.Semaphore
import SentinelProxy.Counting.Spacing
import SentinelProxy.Counting.Expiring
import SentinelProxy.Net.Address
import SentinelProxy.Net.Resolve
import SentinelProxy.Net.Unspecified
import SentinelProxy.Net.Dial
import SentinelProxy.Stream.Reader
import SentinelProxy.Stream.Writer
import SentinelProxy.Stream.Source
import SentinelProxy.Stream.Delivery
import SentinelProxy.Text.Decimal
import SentinelProxy.Text.Order
import SentinelProxy.Text.Upper
import SentinelProxy.Text.Fold
import SentinelProxy.Resp.Line
import SentinelProxy.Resp.Fragments
import SentinelProxy.Resp.Command
import SentinelProxy.Resp.Grammar
import SentinelProxy.Resp.Copy
import SentinelProxy.Resp.Machine
import SentinelProxy.Resp.Framing
import SentinelProxy.Resp.Delivery
import SentinelProxy.Routing.Tables
import SentinelProxy.Routing.Session
import SentinelProxy.Routing.Requests
import SentinelProxy.Routing.Replies
import SentinelProxy.Routing.Answers
import SentinelProxy.Routing.Sync
import SentinelProxy.Routing.Recognition
import SentinelProxy.Routing.Delivery
import SentinelProxy.Routing.Ledger
import SentinelProxy.Config.Settings
import SentinelProxy.Config.Load
import SentinelProxy.Config.Options
import SentinelProxy.Config.Precedence
import SentinelProxy.Config.Complete
import SentinelProxy.Config.Setups
import SentinelProxy.Config.Acceptance
import SentinelProxy.Config.Passthrough
import SentinelProxy.Config.Display
import SentinelProxy.Resolver.Probe
import SentinelProxy.Resolver.Round
import SentinelProxy.Resolver.Phase
import SentinelProxy.Resolver.System
import SentinelProxy.Resolver.Sequence
import SentinelProxy.Resolver.Selection
import SentinelProxy.Resolver.Verified
import SentinelProxy.Resolver.Freshness
import SentinelProxy.Resolver.Promotion
import SentinelProxy.Resolver.Placeholder
import SentinelProxy.Resolver.Attempts
import SentinelProxy.Resolver.Budget
import SentinelProxy.Resolver.Shutdown
import SentinelProxy.Resolver.RoundRobin
import SentinelProxy.Resolver.Throttle
import SentinelProxy.Resolver.Progress
import SentinelProxy.Resolver.Failover
import SentinelProxy.Resolver.PTRCache
import SentinelProxy.Resolver.Names
import SentinelProxy.Proxy.Construct
import SentinelProxy.Proxy.Loaded
import SentinelProxy.Proxy.Serve
import SentinelProxy.Proxy.Balance
import SentinelProxy.Proxy.Cap
import SentinelProxy.Proxy.Connect
import SentinelProxy.Proxy.Backends
import SentinelProxy.Proxy.Footprint
import SentinelProxy.Proxy.Failover
import SentinelProxy.Proxy.Idle
import SentinelProxy.Proxy.Pipe
import SentinelProxy.Process.Lifecycle
import SentinelProxy.Process.Shutdown

import Sloppy.Resource.Lifecycle
import Sloppy.Stream.Conservation
import Sloppy.Artifact.Agreement
import Sloppy.Core.ArenaHistory
import Sloppy.Http2.Codec
import Sloppy.WebSocket.RoundTrip
import Sloppy.Dispatch.Allow
import Sloppy.Backend.Finality
import Sloppy.Backend.Multiplexing
import Sloppy.Core.Intern
import Sloppy.Http.ResponseHead
import Sloppy.Http2.SuppressedBody
import Sloppy.Http2.RequestLaws
import Sloppy.Http2.ResponseParity
import Sloppy.Http2.AdmissionReturned
import Sloppy.RateLimit.Concurrency
import Sloppy.RateLimit.Windows
import Sloppy.Redis.Framing
import Sloppy.Redis.PoolRuns
import Sloppy.Async.Loop
import Sloppy.Cache.RedisCache
import Sloppy.Cache.HybridCoherence
import Sloppy.Auth.Sessions
import Sloppy.ManagedClient.Bulkhead
import Sloppy.ManagedClient.CircuitRuns
import Sloppy.Webhooks.FanOut
import Sloppy.Core.RingDeque
import Sloppy.WebSocket.Increments
import Sloppy.Core.BuilderRuns
import Sloppy.Artifact.OneByte
import Sloppy.Route.PatternMemory
import Sloppy.Http.Query
import Sloppy.HttpClient.Redirects
import Sloppy.HttpClient.Reuse
import Sloppy.Dispatch.GenerateUrl
import Sloppy.Core.JsonWriter
import Sloppy.Core.PlainDecimal
import Sloppy.Cache.SingleFlight
import Sloppy.Codec.Crc32
import Sloppy.Codec.Streaming
import Sloppy.Codec.Binary
import Sloppy.Fs.Watch
import Sloppy.Auth.Bearer
import Sloppy.Dispatch.Duplicates
import Sloppy.Orm.Migrations

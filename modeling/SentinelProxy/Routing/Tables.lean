import SentinelProxy.Resp.Command

/-! Which backend a command belongs to: the command tables and the order in which
a routed session consults them. -/

namespace SentinelProxy.Routing

open SentinelProxy.Stream SentinelProxy.Text SentinelProxy.Resp

inductive Direction where
  | read
  | write
  deriving DecidableEq, Repr

/-- Commands that never modify the dataset. Everything else is a write. -/
def readOnlyCommands : List String :=
  [
    -- Connection
    "PING", "ECHO", "SELECT", "AUTH", "HELLO", "QUIT",
    -- Keyspace
    "EXISTS", "TYPE", "TTL", "PTTL", "EXPIRETIME", "PEXPIRETIME", "KEYS", "SCAN", "RANDOMKEY",
    "DUMP", "TOUCH", "OBJECT", "MEMORY",
    -- Strings
    "GET", "MGET", "GETRANGE", "SUBSTR", "STRLEN", "LCS",
    -- Bitmaps
    "GETBIT", "BITCOUNT", "BITPOS", "BITFIELD_RO",
    -- Hashes
    "HGET", "HMGET", "HGETALL", "HKEYS", "HVALS", "HLEN", "HEXISTS", "HSTRLEN", "HSCAN",
    "HRANDFIELD", "HTTL", "HPTTL", "HEXPIRETIME", "HPEXPIRETIME",
    -- Lists
    "LRANGE", "LLEN", "LINDEX", "LPOS",
    -- Sets
    "SMEMBERS", "SISMEMBER", "SMISMEMBER", "SCARD", "SRANDMEMBER", "SSCAN", "SINTER", "SUNION",
    "SDIFF", "SINTERCARD",
    -- Sorted sets
    "ZRANGE", "ZRANGEBYSCORE", "ZRANGEBYLEX", "ZREVRANGE", "ZREVRANGEBYSCORE", "ZREVRANGEBYLEX",
    "ZCARD", "ZCOUNT", "ZLEXCOUNT", "ZSCORE", "ZMSCORE", "ZRANK", "ZREVRANK", "ZSCAN",
    "ZRANDMEMBER", "ZDIFF", "ZINTER", "ZUNION", "ZINTERCARD",
    -- HyperLogLog
    "PFCOUNT",
    -- Geo
    "GEOPOS", "GEODIST", "GEOHASH", "GEOSEARCH", "GEORADIUS_RO", "GEORADIUSBYMEMBER_RO",
    -- Streams
    "XRANGE", "XREVRANGE", "XLEN", "XREAD", "XINFO", "XPENDING",
    -- Sort
    "SORT_RO",
    -- Scripting
    "EVAL_RO", "EVALSHA_RO", "FCALL_RO",
    -- Pub/Sub
    "SUBSCRIBE", "UNSUBSCRIBE", "PSUBSCRIBE", "PUNSUBSCRIBE", "SSUBSCRIBE", "SUNSUBSCRIBE",
    "PUBSUB",
    -- Server introspection
    "INFO", "TIME", "DBSIZE", "COMMAND", "LASTSAVE", "LOLWUT",
    -- RedisJSON
    "JSON.GET", "JSON.MGET", "JSON.TYPE", "JSON.STRLEN", "JSON.ARRLEN", "JSON.ARRINDEX",
    "JSON.OBJKEYS", "JSON.OBJLEN", "JSON.DEBUG", "JSON.RESP",
    -- RediSearch
    "FT.SEARCH", "FT.AGGREGATE", "FT.EXPLAIN", "FT.EXPLAINCLI", "FT.INFO", "FT.PROFILE",
    "FT.TAGVALS", "FT.SPELLCHECK", "FT.SUGGET", "FT.SUGLEN", "FT.DICTDUMP", "FT.SYNDUMP",
    "FT._LIST",
    -- RedisBloom — Bloom filter
    "BF.EXISTS", "BF.MEXISTS", "BF.INFO", "BF.CARD", "BF.SCANDUMP",
    -- RedisBloom — Cuckoo filter
    "CF.EXISTS", "CF.MEXISTS", "CF.COUNT", "CF.INFO", "CF.SCANDUMP",
    -- RedisBloom — Count-min sketch
    "CMS.QUERY", "CMS.INFO",
    -- RedisBloom — Top-K
    "TOPK.QUERY", "TOPK.COUNT", "TOPK.LIST", "TOPK.INFO",
    -- RedisBloom — t-digest
    "TDIGEST.QUANTILE", "TDIGEST.CDF", "TDIGEST.MIN", "TDIGEST.MAX", "TDIGEST.RANK",
    "TDIGEST.REVRANK", "TDIGEST.BYRANK", "TDIGEST.BYREVRANK", "TDIGEST.TRIMMED_MEAN",
    "TDIGEST.INFO",
    -- RedisTimeSeries
    "TS.GET", "TS.MGET", "TS.RANGE", "TS.REVRANGE", "TS.MRANGE", "TS.MREVRANGE", "TS.INFO",
    "TS.QUERYINDEX",
    -- RedisGraph
    "GRAPH.RO_QUERY", "GRAPH.EXPLAIN", "GRAPH.LIST", "GRAPH.SLOWLOG"
  ]

/-- Commands that change the state of the connection. -/
def stateCommands : List String := ["AUTH", "HELLO", "SELECT", "RESET", "CLIENT"]

/-- Commands that start a conversation which cannot be routed per command. -/
def pinCommands : List String :=
  ["SUBSCRIBE", "PSUBSCRIBE", "SSUBSCRIBE", "UNSUBSCRIBE", "PUNSUBSCRIBE", "SUNSUBSCRIBE",
    "MULTI", "WATCH", "MONITOR"]

/-- Table lookup by the bytes of a name. -/
def listed (table : List String) (name : Bytes) : Bool :=
  table.any fun entry => bytesOf entry == name

def getDirection (name : Bytes) : Direction :=
  if listed readOnlyCommands (toUpper name) then .read else .write

/-- Where a session sends a command. -/
inductive Route where
  | dropped
  | pin
  | both
  | replica
  | master
  deriving DecidableEq, Repr

/-- The checks of a turn, in their order. The tables overlap: pin and state
commands are looked up before the read table. -/
def route (hasReplica : Bool) (name : Bytes) : Route :=
  if name = [] then .dropped
  else if listed pinCommands name then .pin
  else if listed stateCommands name then .both
  else if hasReplica ∧ getDirection name = .read then .replica
  else .master

theorem route_dropped : route hasReplica name = .dropped ↔ name = [] := by
  grind [route]

theorem route_pin :
    route hasReplica name = .pin ↔ name ≠ [] ∧ listed pinCommands name = true := by
  grind [route]

theorem route_both :
    route hasReplica name = .both ↔
      name ≠ [] ∧ listed pinCommands name = false ∧ listed stateCommands name = true := by
  grind [route]

theorem route_replica :
    route hasReplica name = .replica ↔
      name ≠ [] ∧ listed pinCommands name = false ∧ listed stateCommands name = false ∧
        hasReplica = true ∧ getDirection name = .read := by
  grind [route]

theorem route_master :
    route hasReplica name = .master ↔
      name ≠ [] ∧ listed pinCommands name = false ∧ listed stateCommands name = false ∧
        ¬ (hasReplica = true ∧ getDirection name = .read) := by
  grind [route]

theorem listed_iff {table : List String} {name : Bytes} :
    listed table name = true ↔ ∃ entry ∈ table, bytesOf entry = name := by
  simp [listed]

/-- The entries of the read table are plain upper-case ASCII. -/
theorem readOnlyCommands_upper :
    ∀ entry ∈ readOnlyCommands, (∀ byte ∈ bytesOf entry, byte.toNat < 0x80) ∧
      toUpper (bytesOf entry) = bytesOf entry := by
  have checked : (readOnlyCommands.all fun entry =>
      (bytesOf entry).all (fun byte => byte.toNat < 0x80) &&
        toUpper (bytesOf entry) == bytesOf entry) = true := by
    decide +kernel
  intro entry member
  simpa using List.all_eq_true.mp checked entry member

theorem pinCommands_named {name : Bytes} (pinned : listed pinCommands name = true) : name ≠ [] := by
  have table : listed pinCommands [] = false := by decide +kernel
  rintro rfl
  cases table.symm.trans pinned

/-- The direction of a name that is already in upper case is plain table lookup:
the second upper-casing finds no further names. -/
theorem getDirection_toUpper (payload : Bytes) :
    getDirection (toUpper payload) = .read ↔ listed readOnlyCommands (toUpper payload) = true := by
  have lookup : getDirection (toUpper payload) = .read ↔
      listed readOnlyCommands (toUpper (toUpper payload)) = true := by
    unfold getDirection
    split <;> simp_all
  rw [lookup]
  constructor
  · intro found
    obtain ⟨entry, member, same⟩ := listed_iff.mp found
    have plain := (readOnlyCommands_upper entry member).1
    rw [same] at plain
    rwa [toUpper_toUpper plain] at found
  · intro found
    obtain ⟨entry, member, same⟩ := listed_iff.mp found
    have settled := (readOnlyCommands_upper entry member).2
    rw [same] at settled
    rwa [settled]

end SentinelProxy.Routing

import SentinelProxy.Text.Decimal

/-! The settings of the proxy, each of them optional, and their sources: built-in
defaults, environment variables, and the merge that gives precedence. -/

namespace SentinelProxy

open SentinelProxy.Text

structure BackendTLS where
  enabled : Option Bool := none
  caFile : Option String := none
  certFile : Option String := none
  keyFile : Option String := none
  serverName : Option String := none
  skipVerify : Option Bool := none
  passthrough : Option Bool := none
  deriving DecidableEq, Repr

structure ListenTLS where
  enabled : Option Bool := none
  certFile : Option String := none
  keyFile : Option String := none
  clientCAFile : Option String := none
  deriving DecidableEq, Repr

/-- A TLS setup; loaded certificates are named by their files. -/
structure TLSConf where
  serverName : String := ""
  insecureSkipVerify : Bool := false
  rootCAs : Option String := none
  certificate : Option (String × String) := none
  clientCAs : Option String := none
  deriving DecidableEq, Repr

structure TLSSetups where
  master : Option TLSConf := none
  masterProbe : Option TLSConf := none
  sentinel : Option TLSConf := none
  listen : Option TLSConf := none
  deriving DecidableEq, Repr

/-- `idleTimeout` is in nanoseconds. -/
structure Config where
  listen : Option String := none
  replicaListen : Option String := none
  replicaFallback : Option String := none
  sentinel : Option String := none
  master : Option String := none
  username : Option String := none
  password : Option String := none
  masterUsername : Option String := none
  masterPassword : Option String := none
  router : Option Bool := none
  resolveRetries : Option Int := none
  maxConnections : Option Int := none
  idleTimeout : Option Int := none
  debug : Option Bool := none
  sentinelTLS : Option BackendTLS := none
  listenTLS : Option ListenTLS := none
  masterTLS : Option BackendTLS := none
  tls : TLSSetups := {}
  deriving DecidableEq, Repr

namespace Config

def replicaFallbackMaster : String := "master"

def replicaFallbackReject : String := "reject"

/-- The built-in settings. The credentials have no default, and neither has
`sentinel_tls.passthrough`. -/
def default : Config where
  listen := some ""
  replicaListen := some ""
  replicaFallback := some replicaFallbackMaster
  sentinel := some ":26379"
  master := some "mymaster"
  router := some false
  resolveRetries := some 3
  maxConnections := some 100
  idleTimeout := some (30 * 1000000000)
  debug := some false
  sentinelTLS := some {
    enabled := some false
    caFile := some ""
    certFile := some ""
    keyFile := some ""
    serverName := some ""
    skipVerify := some false }
  listenTLS := some {
    enabled := some false
    certFile := some ""
    keyFile := some ""
    clientCAFile := some "" }
  masterTLS := some {
    enabled := some false
    caFile := some ""
    certFile := some ""
    keyFile := some ""
    serverName := some ""
    skipVerify := some false
    passthrough := some false }

/-- A setting that is already there stays. -/
def fill (target source : Option α) : Option α := target.or source

/-- Does not touch `passthrough`. -/
def mergeSentinelTLS (section? other : Option BackendTLS) : Option BackendTLS :=
  match other with
  | none => section?
  | some other =>
    let ensured := section?.getD {}
    some { ensured with
      enabled := fill ensured.enabled other.enabled
      caFile := fill ensured.caFile other.caFile
      certFile := fill ensured.certFile other.certFile
      keyFile := fill ensured.keyFile other.keyFile
      serverName := fill ensured.serverName other.serverName
      skipVerify := fill ensured.skipVerify other.skipVerify }

def mergeListenTLS (section? other : Option ListenTLS) : Option ListenTLS :=
  match other with
  | none => section?
  | some other =>
    let ensured := section?.getD {}
    some {
      enabled := fill ensured.enabled other.enabled
      certFile := fill ensured.certFile other.certFile
      keyFile := fill ensured.keyFile other.keyFile
      clientCAFile := fill ensured.clientCAFile other.clientCAFile }

def mergeMasterTLS (section? other : Option BackendTLS) : Option BackendTLS :=
  match other with
  | none => section?
  | some other =>
    let ensured := section?.getD {}
    some {
      enabled := fill ensured.enabled other.enabled
      caFile := fill ensured.caFile other.caFile
      certFile := fill ensured.certFile other.certFile
      keyFile := fill ensured.keyFile other.keyFile
      serverName := fill ensured.serverName other.serverName
      skipVerify := fill ensured.skipVerify other.skipVerify
      passthrough := fill ensured.passthrough other.passthrough }

def merge (config : Config) : Option Config → Config
  | none => config
  | some other =>
    { config with
      listen := fill config.listen other.listen
      replicaListen := fill config.replicaListen other.replicaListen
      replicaFallback := fill config.replicaFallback other.replicaFallback
      sentinel := fill config.sentinel other.sentinel
      master := fill config.master other.master
      username := fill config.username other.username
      password := fill config.password other.password
      masterUsername := fill config.masterUsername other.masterUsername
      masterPassword := fill config.masterPassword other.masterPassword
      router := fill config.router other.router
      resolveRetries := fill config.resolveRetries other.resolveRetries
      maxConnections := fill config.maxConnections other.maxConnections
      idleTimeout := fill config.idleTimeout other.idleTimeout
      debug := fill config.debug other.debug
      sentinelTLS := mergeSentinelTLS config.sentinelTLS other.sentinelTLS
      listenTLS := mergeListenTLS config.listenTLS other.listenTLS
      masterTLS := mergeMasterTLS config.masterTLS other.masterTLS }

/-- Why a configuration is refused; `nilPointer` is a crash and not an error value. -/
inductive Failure where
  | invalidValue (name value : String)
  | readingFile (path : String)
  | parsingFile (path text : String)
  | invalidReplicaFallback (value : String)
  | routerPassthrough
  | sentinelPassthrough
  | sentinelOptions
  | sentinelCA (path : String)
  | sentinelKeyPair
  | sentinelCertificate (cert key : String)
  | listenOptions
  | listenKeyPair
  | listenCertificate (cert key : String)
  | listenClientCA (path : String)
  | masterExclusive
  | masterCA (path : String)
  | masterKeyPair
  | masterCertificate (cert key : String)
  | nilPointer
  deriving DecidableEq, Repr

/-- The text of an error, up to the text of the error it wraps. What the decoder says about a
file is kept: it may show what stands in it. -/
def Failure.text : Failure → String
  | .invalidValue name _ => "invalid value for " ++ name
  | .readingFile _ => "reading config file"
  | .parsingFile _ text => "parsing config file: " ++ text
  | .invalidReplicaFallback value => "invalid replica_fallback " ++ value.quote ++
      " (must be " ++ replicaFallbackMaster.quote ++ " or " ++ replicaFallbackReject.quote ++ ")"
  | .routerPassthrough => "router mode needs to read the redis protocol and cannot be " ++
      "combined with master_tls.passthrough"
  | .sentinelPassthrough => "passthrough is only supported for master_tls"
  | .sentinelOptions => "-sentinel-tls-* options require -sentinel-tls"
  | .sentinelCA _ => "sentinel CA"
  | .sentinelKeyPair => "-sentinel-tls-cert-file and -sentinel-tls-key-file must be used together"
  | .sentinelCertificate _ _ => "loading sentinel client certificate"
  | .listenOptions => "-listen-tls-* options require -listen-tls"
  | .listenKeyPair => "-listen-tls requires -listen-tls-cert-file and -listen-tls-key-file"
  | .listenCertificate _ _ => "loading listen server certificate"
  | .listenClientCA _ => "listen client CA"
  | .masterExclusive => "-master-tls and -master-tls-passthrough are mutually exclusive"
  | .masterCA _ => "master CA"
  | .masterKeyPair => "-master-tls-cert-file and -master-tls-key-file must be used together"
  | .masterCertificate _ _ => "loading master client certificate"
  | .nilPointer => "invalid memory address or nil pointer dereference"

/-- Outcome of decoding a YAML document; `eof` is a file without one, and `invalid` has the text
of the decoder's error. -/
inductive Decoded where
  | eof
  | invalid (text : String)
  | document (config : Config)

/-- What the process finds around it: environment variables, the reader of durations,
files, and what the YAML and certificate libraries make of their contents. -/
structure Host where
  lookupEnv : String → Option String
  parseDuration : String → Option Int
  readFile : String → Option String
  decodeYAML : String → Decoded
  appendCertsFromPEM : String → Bool
  loadX509KeyPair : String → String → Bool

def parseBool (text : String) : Option Bool :=
  if text ∈ ["1", "t", "T", "TRUE", "true", "True"] then some true
  else if text ∈ ["0", "f", "F", "FALSE", "false", "False"] then some false
  else none

namespace Host

def strEnv (host : Host) (name : String) : Option String := host.lookupEnv name

/-- A variable that is set has to parse. -/
def parsedEnv (host : Host) (parse : String → Option α) (name : String) :
    Except Failure (Option α) :=
  match host.lookupEnv name with
  | none => .ok none
  | some value =>
    match parse value with
    | none => .error (.invalidValue name value)
    | some parsed => .ok (some parsed)

def boolEnv (host : Host) (name : String) : Except Failure (Option Bool) :=
  host.parsedEnv parseBool name

def intEnv (host : Host) (name : String) : Except Failure (Option Int) :=
  host.parsedEnv atoi name

def durEnv (host : Host) (name : String) : Except Failure (Option Int) :=
  host.parsedEnv host.parseDuration name

end Host

/-- The settings of the environment; the TLS sections are always there. -/
def fromEnv (host : Host) : Except Failure Config := do
  let router ← host.boolEnv "RSP_ROUTER"
  let resolveRetries ← host.intEnv "RSP_RESOLVE_RETRIES"
  let maxConnections ← host.intEnv "RSP_MAX_CONNECTIONS"
  let idleTimeout ← host.durEnv "RSP_IDLE_TIMEOUT"
  let debug ← host.boolEnv "RSP_DEBUG"
  let sentinelEnabled ← host.boolEnv "RSP_SENTINEL_TLS"
  let sentinelSkipVerify ← host.boolEnv "RSP_SENTINEL_TLS_SKIP_VERIFY"
  let listenEnabled ← host.boolEnv "RSP_LISTEN_TLS"
  let masterEnabled ← host.boolEnv "RSP_MASTER_TLS"
  let masterSkipVerify ← host.boolEnv "RSP_MASTER_TLS_SKIP_VERIFY"
  let masterPassthrough ← host.boolEnv "RSP_MASTER_TLS_PASSTHROUGH"
  return {
    listen := host.strEnv "RSP_LISTEN"
    replicaListen := host.strEnv "RSP_REPLICA_LISTEN"
    replicaFallback := host.strEnv "RSP_REPLICA_FALLBACK"
    sentinel := host.strEnv "RSP_SENTINEL"
    master := host.strEnv "RSP_MASTER"
    username := host.strEnv "SENTINEL_USERNAME"
    password := host.strEnv "SENTINEL_PASSWORD"
    masterUsername := host.strEnv "RSP_MASTER_USERNAME"
    masterPassword := host.strEnv "RSP_MASTER_PASSWORD"
    router, resolveRetries, maxConnections, idleTimeout, debug
    sentinelTLS := some {
      enabled := sentinelEnabled
      caFile := host.strEnv "RSP_SENTINEL_TLS_CA_FILE"
      certFile := host.strEnv "RSP_SENTINEL_TLS_CERT_FILE"
      keyFile := host.strEnv "RSP_SENTINEL_TLS_KEY_FILE"
      serverName := host.strEnv "RSP_SENTINEL_TLS_SERVER_NAME"
      skipVerify := sentinelSkipVerify }
    listenTLS := some {
      enabled := listenEnabled
      certFile := host.strEnv "RSP_LISTEN_TLS_CERT_FILE"
      keyFile := host.strEnv "RSP_LISTEN_TLS_KEY_FILE"
      clientCAFile := host.strEnv "RSP_LISTEN_TLS_CLIENT_CA_FILE" }
    masterTLS := some {
      enabled := masterEnabled
      caFile := host.strEnv "RSP_MASTER_TLS_CA_FILE"
      certFile := host.strEnv "RSP_MASTER_TLS_CERT_FILE"
      keyFile := host.strEnv "RSP_MASTER_TLS_KEY_FILE"
      serverName := host.strEnv "RSP_MASTER_TLS_SERVER_NAME"
      skipVerify := masterSkipVerify
      passthrough := masterPassthrough } }

end Config

end SentinelProxy

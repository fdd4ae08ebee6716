import SentinelProxy.Config.Load

/-! The documented options: where each of them stands in a configuration, its flag and its
environment variable. -/

namespace SentinelProxy.Config

/-- An option of a TLS section towards a backend. -/
inductive BackendKey where
  | enabled
  | caFile
  | certFile
  | keyFile
  | serverName
  | skipVerify
  deriving DecidableEq, Repr

inductive ListenKey where
  | enabled
  | certFile
  | keyFile
  | clientCAFile
  deriving DecidableEq, Repr

/-- A documented option. `sentinel_tls.passthrough` is a field and not an option. -/
inductive Key where
  | listen
  | replicaListen
  | replicaFallback
  | sentinel
  | master
  | username
  | password
  | masterUsername
  | masterPassword
  | router
  | resolveRetries
  | maxConnections
  | idleTimeout
  | debug
  | sentinelTLS (key : BackendKey)
  | listenTLS (key : ListenKey)
  | masterTLS (key : BackendKey)
  | masterPassthrough
  deriving DecidableEq, Repr

abbrev BackendKey.Value : BackendKey → Type
  | .enabled | .skipVerify => Bool
  | .caFile | .certFile | .keyFile | .serverName => String

abbrev ListenKey.Value : ListenKey → Type
  | .enabled => Bool
  | .certFile | .keyFile | .clientCAFile => String

abbrev Key.Value : Key → Type
  | .listen | .replicaListen | .replicaFallback | .sentinel | .master | .username | .password
  | .masterUsername | .masterPassword => String
  | .router | .debug | .masterPassthrough => Bool
  | .resolveRetries | .maxConnections | .idleTimeout => Int
  | .sentinelTLS key | .masterTLS key => key.Value
  | .listenTLS key => key.Value

def BackendKey.get : (key : BackendKey) → BackendTLS → Option key.Value
  | .enabled, backend => backend.enabled
  | .caFile, backend => backend.caFile
  | .certFile, backend => backend.certFile
  | .keyFile, backend => backend.keyFile
  | .serverName, backend => backend.serverName
  | .skipVerify, backend => backend.skipVerify

def ListenKey.get : (key : ListenKey) → ListenTLS → Option key.Value
  | .enabled, listen => listen.enabled
  | .certFile, listen => listen.certFile
  | .keyFile, listen => listen.keyFile
  | .clientCAFile, listen => listen.clientCAFile

/-- The option as a configuration has it; an absent section has none of its options. -/
def Key.get : (key : Key) → Config → Option key.Value
  | .listen, config => config.listen
  | .replicaListen, config => config.replicaListen
  | .replicaFallback, config => config.replicaFallback
  | .sentinel, config => config.sentinel
  | .master, config => config.master
  | .username, config => config.username
  | .password, config => config.password
  | .masterUsername, config => config.masterUsername
  | .masterPassword, config => config.masterPassword
  | .router, config => config.router
  | .resolveRetries, config => config.resolveRetries
  | .maxConnections, config => config.maxConnections
  | .idleTimeout, config => config.idleTimeout
  | .debug, config => config.debug
  | .sentinelTLS key, config => config.sentinelTLS.bind key.get
  | .listenTLS key, config => config.listenTLS.bind key.get
  | .masterTLS key, config => config.masterTLS.bind key.get
  | .masterPassthrough, config => config.masterTLS.bind BackendTLS.passthrough

section Environment

def BackendKey.parse : (key : BackendKey) → String → Option key.Value
  | .enabled, text | .skipVerify, text => parseBool text
  | .caFile, text | .certFile, text | .keyFile, text | .serverName, text => some text

def ListenKey.parse : (key : ListenKey) → String → Option key.Value
  | .enabled, text => parseBool text
  | .certFile, text | .keyFile, text | .clientCAFile, text => some text

/-- The value of an option from its text in the environment. -/
def Key.parse (host : Host) : (key : Key) → String → Option key.Value
  | .listen, text | .replicaListen, text | .replicaFallback, text | .sentinel, text
  | .master, text | .username, text | .password, text | .masterUsername, text
  | .masterPassword, text => some text
  | .router, text | .debug, text | .masterPassthrough, text => parseBool text
  | .resolveRetries, text | .maxConnections, text => Text.atoi text
  | .idleTimeout, text => host.parseDuration text
  | .sentinelTLS key, text | .masterTLS key, text => key.parse text
  | .listenTLS key, text => key.parse text

def Key.variable : Key → String
  | .listen => "RSP_LISTEN"
  | .replicaListen => "RSP_REPLICA_LISTEN"
  | .replicaFallback => "RSP_REPLICA_FALLBACK"
  | .sentinel => "RSP_SENTINEL"
  | .master => "RSP_MASTER"
  | .username => "SENTINEL_USERNAME"
  | .password => "SENTINEL_PASSWORD"
  | .masterUsername => "RSP_MASTER_USERNAME"
  | .masterPassword => "RSP_MASTER_PASSWORD"
  | .router => "RSP_ROUTER"
  | .resolveRetries => "RSP_RESOLVE_RETRIES"
  | .maxConnections => "RSP_MAX_CONNECTIONS"
  | .idleTimeout => "RSP_IDLE_TIMEOUT"
  | .debug => "RSP_DEBUG"
  | .sentinelTLS .enabled => "RSP_SENTINEL_TLS"
  | .sentinelTLS .caFile => "RSP_SENTINEL_TLS_CA_FILE"
  | .sentinelTLS .certFile => "RSP_SENTINEL_TLS_CERT_FILE"
  | .sentinelTLS .keyFile => "RSP_SENTINEL_TLS_KEY_FILE"
  | .sentinelTLS .serverName => "RSP_SENTINEL_TLS_SERVER_NAME"
  | .sentinelTLS .skipVerify => "RSP_SENTINEL_TLS_SKIP_VERIFY"
  | .listenTLS .enabled => "RSP_LISTEN_TLS"
  | .listenTLS .certFile => "RSP_LISTEN_TLS_CERT_FILE"
  | .listenTLS .keyFile => "RSP_LISTEN_TLS_KEY_FILE"
  | .listenTLS .clientCAFile => "RSP_LISTEN_TLS_CLIENT_CA_FILE"
  | .masterTLS .enabled => "RSP_MASTER_TLS"
  | .masterTLS .caFile => "RSP_MASTER_TLS_CA_FILE"
  | .masterTLS .certFile => "RSP_MASTER_TLS_CERT_FILE"
  | .masterTLS .keyFile => "RSP_MASTER_TLS_KEY_FILE"
  | .masterTLS .serverName => "RSP_MASTER_TLS_SERVER_NAME"
  | .masterTLS .skipVerify => "RSP_MASTER_TLS_SKIP_VERIFY"
  | .masterPassthrough => "RSP_MASTER_TLS_PASSTHROUGH"

end Environment

section Flags

def Key.flag : Key → String
  | .listen => "listen"
  | .replicaListen => "replica-listen"
  | .replicaFallback => "replica-fallback"
  | .sentinel => "sentinel"
  | .master => "master"
  | .username => "username"
  | .password => "password"
  | .masterUsername => "master-username"
  | .masterPassword => "master-password"
  | .router => "router"
  | .resolveRetries => "resolve-retries"
  | .maxConnections => "max-connections"
  | .idleTimeout => "idle-timeout"
  | .debug => "debug"
  | .sentinelTLS .enabled => "sentinel-tls"
  | .sentinelTLS .caFile => "sentinel-tls-ca-file"
  | .sentinelTLS .certFile => "sentinel-tls-cert-file"
  | .sentinelTLS .keyFile => "sentinel-tls-key-file"
  | .sentinelTLS .serverName => "sentinel-tls-server-name"
  | .sentinelTLS .skipVerify => "sentinel-tls-skip-verify"
  | .listenTLS .enabled => "listen-tls"
  | .listenTLS .certFile => "listen-tls-cert-file"
  | .listenTLS .keyFile => "listen-tls-key-file"
  | .listenTLS .clientCAFile => "listen-tls-client-ca-file"
  | .masterTLS .enabled => "master-tls"
  | .masterTLS .caFile => "master-tls-ca-file"
  | .masterTLS .certFile => "master-tls-cert-file"
  | .masterTLS .keyFile => "master-tls-key-file"
  | .masterTLS .serverName => "master-tls-server-name"
  | .masterTLS .skipVerify => "master-tls-skip-verify"
  | .masterPassthrough => "master-tls-passthrough"

/-- The registered flags in the order in which the set ones are visited: by name. -/
def visited : List Key :=
  [.debug, .idleTimeout, .listen, .listenTLS .enabled, .listenTLS .certFile,
    .listenTLS .clientCAFile, .listenTLS .keyFile, .master, .masterPassword,
    .masterTLS .enabled, .masterTLS .caFile, .masterTLS .certFile, .masterTLS .keyFile,
    .masterPassthrough, .masterTLS .serverName, .masterTLS .skipVerify, .masterUsername,
    .maxConnections, .password, .replicaFallback, .replicaListen, .resolveRetries, .router,
    .sentinel, .sentinelTLS .enabled, .sentinelTLS .caFile, .sentinelTLS .certFile,
    .sentinelTLS .keyFile, .sentinelTLS .serverName, .sentinelTLS .skipVerify, .username]

def ensureSentinelTLS (config : Config) : BackendTLS := config.sentinelTLS.getD {}

def ensureListenTLS (config : Config) : ListenTLS := config.listenTLS.getD {}

def ensureMasterTLS (config : Config) : BackendTLS := config.masterTLS.getD {}

def BackendKey.set : (key : BackendKey) → key.Value → BackendTLS → BackendTLS
  | .enabled, value, backend => { backend with enabled := some value }
  | .caFile, value, backend => { backend with caFile := some value }
  | .certFile, value, backend => { backend with certFile := some value }
  | .keyFile, value, backend => { backend with keyFile := some value }
  | .serverName, value, backend => { backend with serverName := some value }
  | .skipVerify, value, backend => { backend with skipVerify := some value }

def ListenKey.set : (key : ListenKey) → key.Value → ListenTLS → ListenTLS
  | .enabled, value, listen => { listen with enabled := some value }
  | .certFile, value, listen => { listen with certFile := some value }
  | .keyFile, value, listen => { listen with keyFile := some value }
  | .clientCAFile, value, listen => { listen with clientCAFile := some value }

/-- What a set flag does to the configuration. -/
def Key.assign : (key : Key) → key.Value → Config → Config
  | .listen, value, config => { config with listen := some value }
  | .replicaListen, value, config => { config with replicaListen := some value }
  | .replicaFallback, value, config => { config with replicaFallback := some value }
  | .sentinel, value, config => { config with sentinel := some value }
  | .master, value, config => { config with master := some value }
  | .username, value, config => { config with username := some value }
  | .password, value, config => { config with password := some value }
  | .masterUsername, value, config => { config with masterUsername := some value }
  | .masterPassword, value, config => { config with masterPassword := some value }
  | .router, value, config => { config with router := some value }
  | .resolveRetries, value, config => { config with resolveRetries := some value }
  | .maxConnections, value, config => { config with maxConnections := some value }
  | .idleTimeout, value, config => { config with idleTimeout := some value }
  | .debug, value, config => { config with debug := some value }
  | .sentinelTLS key, value, config =>
    { config with sentinelTLS := some (key.set value config.ensureSentinelTLS) }
  | .listenTLS key, value, config =>
    { config with listenTLS := some (key.set value config.ensureListenTLS) }
  | .masterTLS key, value, config =>
    { config with masterTLS := some (key.set value config.ensureMasterTLS) }
  | .masterPassthrough, value, config =>
    { config with masterTLS := some { config.ensureMasterTLS with passthrough := some value } }

/-- The flags that were set on the command line, with their values. -/
abbrev Given := (key : Key) → Option key.Value

def visit (given : Given) (config : Config) (key : Key) : Config :=
  match given key with
  | none => config
  | some value => key.assign value config

/-- The configuration of the flags: only those that were set are copied. -/
def bindFlags (given : Given) : Config := visited.foldl (visit given) {}

end Flags

section Assignment

variable {config : Config}

theorem BackendKey.get_set (key : BackendKey) (value : key.Value) (backend : BackendTLS) :
    key.get (key.set value backend) = some value := by
  cases key <;> rfl

theorem BackendKey.get_set_other {key other : BackendKey} (different : other ≠ key)
    (value : key.Value) (backend : BackendTLS) :
    other.get (key.set value backend) = other.get backend := by
  cases key <;> cases other <;> first | rfl | exact absurd rfl different

theorem BackendKey.passthrough_set (key : BackendKey) (value : key.Value) (backend : BackendTLS) :
    (key.set value backend).passthrough = backend.passthrough := by
  cases key <;> rfl

theorem BackendKey.get_passthrough (key : BackendKey) (value : Option Bool)
    (backend : BackendTLS) : key.get { backend with passthrough := value } = key.get backend := by
  cases key <;> rfl

theorem ListenKey.get_set (key : ListenKey) (value : key.Value) (listen : ListenTLS) :
    key.get (key.set value listen) = some value := by
  cases key <;> rfl

theorem ListenKey.get_set_other {key other : ListenKey} (different : other ≠ key)
    (value : key.Value) (listen : ListenTLS) :
    other.get (key.set value listen) = other.get listen := by
  cases key <;> cases other <;> first | rfl | exact absurd rfl different

theorem Key.get_assign (key : Key) (value : key.Value) :
    key.get (key.assign value config) = some value := by
  cases key with
  | sentinelTLS key => exact key.get_set value _
  | listenTLS key => exact key.get_set value _
  | masterTLS key => exact key.get_set value _
  | _ => rfl

/-- In a section that is created on demand the other options are as unset as before. -/
theorem get_ensureSentinelTLS (key : BackendKey) :
    key.get config.ensureSentinelTLS = config.sentinelTLS.bind key.get := by
  unfold ensureSentinelTLS
  cases config.sentinelTLS with
  | none => cases key <;> rfl
  | some backend => rfl

private theorem get_ensureListenTLS (key : ListenKey) :
    key.get config.ensureListenTLS = config.listenTLS.bind key.get := by
  unfold ensureListenTLS
  cases config.listenTLS with
  | none => cases key <;> rfl
  | some listen => rfl

private theorem get_ensureMasterTLS (key : BackendKey) :
    key.get config.ensureMasterTLS = config.masterTLS.bind key.get := by
  unfold ensureMasterTLS
  cases config.masterTLS with
  | none => cases key <;> rfl
  | some backend => rfl

private theorem passthrough_ensureMasterTLS :
    config.ensureMasterTLS.passthrough = config.masterTLS.bind BackendTLS.passthrough := by
  unfold ensureMasterTLS
  cases config.masterTLS with
  | none => rfl
  | some backend => rfl

theorem Key.get_assign_other {key other : Key} (different : other ≠ key) (value : key.Value) :
    other.get (key.assign value config) = other.get config := by
  cases key with
  | sentinelTLS key =>
    cases other with
    | sentinelTLS other =>
      have apart : other ≠ key := mt (congrArg Key.sentinelTLS) different
      exact (BackendKey.get_set_other apart value _).trans (get_ensureSentinelTLS other)
    | _ => rfl
  | listenTLS key =>
    cases other with
    | listenTLS other =>
      have apart : other ≠ key := mt (congrArg Key.listenTLS) different
      exact (ListenKey.get_set_other apart value _).trans (get_ensureListenTLS other)
    | _ => rfl
  | masterTLS key =>
    cases other with
    | masterTLS other =>
      have apart : other ≠ key := mt (congrArg Key.masterTLS) different
      exact (BackendKey.get_set_other apart value _).trans (get_ensureMasterTLS other)
    | masterPassthrough => exact (key.passthrough_set value _).trans passthrough_ensureMasterTLS
    | _ => rfl
  | masterPassthrough =>
    cases other with
    | masterTLS other => exact (other.get_passthrough _ _).trans (get_ensureMasterTLS other)
    | masterPassthrough => exact absurd rfl different
    | _ => rfl
  | _ => cases other <;> first | rfl | exact absurd rfl different

private theorem get_visit (given : Given) (key : Key) :
    key.get (visit given config key) = (given key).or (key.get config) := by
  unfold visit
  cases given key with
  | none => rfl
  | some value => exact key.get_assign value

private theorem get_visit_other (given : Given) {key other : Key} (different : other ≠ key) :
    other.get (visit given config key) = other.get config := by
  unfold visit
  cases given key with
  | none => rfl
  | some value => exact Key.get_assign_other different value

end Assignment

private theorem get_foldl_visit (given : Given) (key : Key) (keys : List Key) (config : Config)
    (unset : given key = none → key.get config = none) :
    key.get (keys.foldl (visit given) config) =
      if key ∈ keys then given key else key.get config := by
  induction keys generalizing config with
  | nil => rfl
  | cons first keys ih =>
    rw [List.foldl_cons]
    by_cases same : key = first
    · subst same
      have given? : (given key).or (key.get config) = given key := by
        cases chosen : given key with
        | none => exact unset chosen
        | some value => rfl
      rw [ih _ fun none? => by rw [get_visit, given?, none?], get_visit, given?]
      simp
    · rw [ih _ fun none? => by rw [get_visit_other given same, unset none?],
        get_visit_other given same]
      simp [same]

private theorem mem_visited (key : Key) : key ∈ visited := by
  cases key with
  | sentinelTLS key => cases key <;> decide
  | listenTLS key => cases key <;> decide
  | masterTLS key => cases key <;> decide
  | _ => decide

theorem get_empty (key : Key) : key.get {} = none := by
  cases key <;> rfl

/-- The flags yield the options that were set, each with its value, and no other. -/
theorem get_bindFlags (given : Given) (key : Key) : key.get (bindFlags given) = given key := by
  rw [bindFlags, get_foldl_visit given key visited {} fun _ => get_empty key,
    if_pos (mem_visited key)]

example : (visited.map Key.flag).Pairwise (· < ·) := by
  decide +kernel

end SentinelProxy.Config

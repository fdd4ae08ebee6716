import SentinelProxy.Config.Settings

/-! Loading a configuration: sources merged in order of precedence, checked, and
normalised. -/

namespace SentinelProxy.Config

/-- Pointer dereference. -/
def deref : Option α → Except Failure α
  | none => .error .nilPointer
  | some value => .ok value

def strSet : Option String → Bool
  | none => false
  | some text => text ≠ ""

def boolSet : Option Bool → Bool
  | none => false
  | some flag => flag

def loadFile (host : Host) (path : String) : Except Failure Config :=
  match host.readFile path with
  | none => .error (.readingFile path)
  | some data =>
    match host.decodeYAML data with
    | .invalid text => .error (.parsingFile path text)
    | .eof => .ok {}
    | .document config => .ok config

def loadCertPool (host : Host) (path : String) : Bool :=
  match host.readFile path with
  | none => false
  | some data => host.appendCertsFromPEM data

/-- The errors in which the client setups towards Sentinel and the master differ. -/
structure ClientErrors where
  ca : String → Failure
  keyPair : Failure
  certificate : String → String → Failure

/-- Both client setups are built alike from an enabled section. -/
def clientTLSConf (host : Host) (errors : ClientErrors) (backend : BackendTLS) :
    Except Failure TLSConf := do
  let serverName ← deref backend.serverName
  let insecureSkipVerify ← deref backend.skipVerify
  let rootCAs ←
    if strSet backend.caFile then do
      let path ← deref backend.caFile
      if loadCertPool host path then .ok (some path) else .error (errors.ca path)
    else .ok none
  if strSet backend.certFile ≠ strSet backend.keyFile then .error errors.keyPair
  else
    let certificate ←
      if strSet backend.certFile then do
        let cert ← deref backend.certFile
        let key ← deref backend.keyFile
        if host.loadX509KeyPair cert key then .ok (some (cert, key))
        else .error (errors.certificate cert key)
      else .ok none
    return { serverName, insecureSkipVerify, rootCAs, certificate }

def sentinelTLSConfig (host : Host) (config : Config) : Except Failure (Option TLSConf) :=
  match config.sentinelTLS with
  | none => .ok none
  | some backend =>
    if boolSet backend.passthrough then .error .sentinelPassthrough
    else if boolSet backend.enabled then do
      let errors : ClientErrors := ⟨.sentinelCA, .sentinelKeyPair, .sentinelCertificate⟩
      return some (← clientTLSConf host errors backend)
    else if strSet backend.caFile || strSet backend.certFile || strSet backend.keyFile ||
        strSet backend.serverName || boolSet backend.skipVerify then .error .sentinelOptions
    else .ok none

def listenTLSConfig (host : Host) (config : Config) : Except Failure (Option TLSConf) :=
  match config.listenTLS with
  | none => .ok none
  | some listen =>
    if boolSet listen.enabled then
      if !strSet listen.certFile || !strSet listen.keyFile then .error .listenKeyPair
      else do
        let cert ← deref listen.certFile
        let key ← deref listen.keyFile
        if !host.loadX509KeyPair cert key then .error (.listenCertificate cert key)
        else
          let clientCAs ←
            if strSet listen.clientCAFile then do
              let path ← deref listen.clientCAFile
              if loadCertPool host path then .ok (some path) else .error (.listenClientCA path)
            else .ok none
          return some { certificate := some (cert, key), clientCAs }
    else if strSet listen.certFile || strSet listen.keyFile || strSet listen.clientCAFile then
      .error .listenOptions
    else .ok none

/-- The setups of the role probe and of the proxied connection. -/
def masterTLSConfig (host : Host) (config : Config) :
    Except Failure (Option TLSConf × Option TLSConf) :=
  match config.masterTLS with
  | none => .ok (none, none)
  | some backend =>
    if boolSet backend.passthrough && boolSet backend.enabled then .error .masterExclusive
    else if !(boolSet backend.enabled || strSet backend.caFile || strSet backend.certFile ||
        strSet backend.keyFile || strSet backend.serverName || boolSet backend.skipVerify) &&
        !boolSet backend.passthrough then .ok (none, none)
    else do
      let conf ← clientTLSConf host ⟨.masterCA, .masterKeyPair, .masterCertificate⟩ backend
      if boolSet backend.passthrough then return (some conf, none)
      return (some conf, some conf)

/-- Flags over environment over file over defaults. -/
def sources (host : Host) (flags : Option Config) (path : String) : Except Failure Config := do
  let config := flags.getD {}
  let config := config.merge (some (← fromEnv host))
  if path ≠ "" then
    return (config.merge (some (← loadFile host path))).merge (some default)
  return config.merge (some default)

/-- The checks of `load`, in its order, and the setups they leave. -/
def validate (host : Host) (config : Config) : Except Failure TLSSetups := do
  let fallback ← deref config.replicaFallback
  if fallback ≠ replicaFallbackMaster ∧ fallback ≠ replicaFallbackReject then
    .error (.invalidReplicaFallback fallback)
  else
    let router ← deref config.router
    if router ∧ (config.masterTLS.map fun backend => boolSet backend.passthrough) = some true then
      .error .routerPassthrough
    else
      let sentinel ← sentinelTLSConfig host config
      let listen ← listenTLSConfig host config
      let (masterProbe, master) ← masterTLSConfig host config
      return { master, masterProbe, sentinel, listen }

/-- An endpoint is always there, and an empty replica endpoint is none. -/
def normalise (config : Config) : Config :=
  let config :=
    if !strSet config.listen && !strSet config.replicaListen then
      { config with listen := some ":10000" }
    else config
  if config.replicaListen = some "" then
    { config with replicaListen := none, replicaFallback := none }
  else config

def load (host : Host) (flags : Option Config) (path : String) : Except Failure Config := do
  let config ← sources host flags path
  let tls ← validate host config
  return normalise { config with tls }

theorem bind_eq_ok {failure : Type} {value : Except failure α} {next : α → Except failure β}
    {result : β} : value >>= next = .ok result ↔
      ∃ produced, value = .ok produced ∧ next produced = .ok result := by
  cases value with
  | error fault => simp [bind, Except.bind]
  | ok produced => simp [bind, Except.bind]

/-- The sources of a configuration, in order of precedence. -/
def layers (host : Host) (flags : Option Config) (path : String) :
    Except Failure (List Config) := do
  let env ← fromEnv host
  if path ≠ "" then
    return [flags.getD {}, env, ← loadFile host path, default]
  return [flags.getD {}, env, default]

/-- What a setting gets from the first source that has it. -/
def setting (host : Host) (flags : Option Config) (path : String) (field : Config → Option α) :
    Option α :=
  match layers host flags path with
  | .error _ => none
  | .ok layers => layers.findSome? field

section Precedence

variable {field : Config → Option α}

theorem findSome?_merge (fills : ∀ config other, field (merge config (some other)) =
      fill (field config) (field other)) (first : Config) (rest : List Config) :
    field (rest.foldl (fun merged other => merged.merge (some other)) first) =
      (first :: rest).findSome? field := by
  induction rest generalizing first with
  | nil => cases head : field first <;> simp [head]
  | cons other rest ih =>
    rw [List.foldl_cons, ih]
    simp only [List.findSome?_cons, fills, fill]
    cases field first with
    | none => rfl
    | some value => rfl

/-- A merged setting is the one of the first source that has it. -/
theorem sources_setting {host : Host} {flags : Option Config} {path : String} {merged : Config}
    (fills : ∀ config other, field (merge config (some other)) = fill (field config) (field other))
    (loaded : sources host flags path = .ok merged) :
    field merged = setting host flags path field := by
  obtain ⟨env, fromEnvironment, loaded⟩ := bind_eq_ok.mp loaded
  by_cases file : path ≠ ""
  · rw [if_pos file] at loaded
    obtain ⟨document, read, loaded⟩ := bind_eq_ok.mp loaded
    cases loaded
    simp only [setting, layers, fromEnvironment, read, bind, Except.bind, if_pos file]
    exact findSome?_merge fills (flags.getD {}) [env, document, default]
  · rw [if_neg file] at loaded
    cases loaded
    simp only [setting, layers, fromEnvironment, bind, Except.bind, if_neg file]
    exact findSome?_merge fills (flags.getD {}) [env, default]

end Precedence

theorem load_ok {host : Host} {flags : Option Config} {path : String} {config : Config}
    (loaded : load host flags path = .ok config) :
    ∃ merged tls, sources host flags path = .ok merged ∧ validate host merged = .ok tls ∧
      config = normalise { merged with tls } := by
  obtain ⟨merged, sourced, loaded⟩ := bind_eq_ok.mp loaded
  obtain ⟨tls, checked, loaded⟩ := bind_eq_ok.mp loaded
  cases loaded
  exact ⟨merged, tls, sourced, checked, rfl⟩

@[simp] theorem normalise_router (config : Config) : config.normalise.router = config.router := by
  simp only [normalise]
  split <;> split <;> rfl

/-- Only an empty replica endpoint is dropped. -/
@[simp] theorem normalise_replicaListen (config : Config) :
    strSet config.normalise.replicaListen = strSet config.replicaListen := by
  simp only [normalise]
  split <;> split <;> rename_i empty <;> simp_all [strSet]

section Loaded

variable {host : Host} {flags : Option Config} {path : String} {config : Config}

theorem load_router (loaded : load host flags path = .ok config) :
    config.router = setting host flags path Config.router := by
  obtain ⟨merged, tls, sourced, _, rfl⟩ := load_ok loaded
  rw [normalise_router, ← sources_setting (fun _ _ => rfl) sourced]

theorem load_replicaListen (loaded : load host flags path = .ok config) :
    strSet config.replicaListen = strSet (setting host flags path Config.replicaListen) := by
  obtain ⟨merged, tls, sourced, _, rfl⟩ := load_ok loaded
  rw [normalise_replicaListen, ← sources_setting (fun _ _ => rfl) sourced]

end Loaded

end SentinelProxy.Config

import SentinelProxy.Config.Setups

/-! What the process says when it starts: the error of its configuration or the configuration,
without the passwords and without sections that are not in use. -/

namespace SentinelProxy.Config

/-- A password in the log. -/
def hide (password : String) : String := if password = "" then "" else "*****"

/-- The configuration that `String` marshals; setups are not part of it. -/
def display (config : Config) : Config :=
  { config with
    password := config.password.map hide
    masterPassword := config.masterPassword.map hide
    listen := if config.listen = some "" then none else config.listen
    listenTLS := config.listenTLS.filter fun listen => boolSet listen.enabled
    masterTLS := config.masterTLS.filter fun backend =>
      boolSet backend.enabled || boolSet backend.passthrough
    sentinelTLS := config.sentinelTLS.filter fun backend => boolSet backend.enabled
    tls := {} }

/-- What is logged before anything is started. -/
inductive Startup where
  | fatal (failure : Failure)
  | started (shown : Config)
  deriving DecidableEq, Repr

def startup (host : Host) (flags : Option Config) (path : String) : Startup :=
  match load host flags path with
  | .error failure => .fatal failure
  | .ok config => .started config.display

/-! Sources that differ in nothing but what their passwords are. -/

def mask (config : Config) : Config :=
  { config with
    password := config.password.map hide
    masterPassword := config.masterPassword.map hide }

def Decoded.mask : Decoded → Decoded
  | .document config => .document config.mask
  | other => other

/-- The variables that hold passwords. -/
def secretVariables : List String := ["SENTINEL_PASSWORD", "RSP_MASTER_PASSWORD"]

/-- The environment with its passwords hidden. -/
def Host.maskedEnv (host : Host) (name : String) : Option String :=
  if name ∈ secretVariables then (host.lookupEnv name).map hide else host.lookupEnv name

/-- What the decoder makes of a file that can be read. -/
def Host.document (host : Host) (path : String) : Option Decoded :=
  (host.readFile path).map host.decodeYAML

/-- The same flags, variables and file but for the passwords, which may be there as any text.
Of a file that cannot be decoded the decoder has to say the same; the files with certificates
have to be the same. -/
structure Alike (host other : Host) (flags others : Option Config) (path : String) : Prop where
  flags : flags.map mask = others.map mask
  environment : host.maskedEnv = other.maskedEnv
  durations : host.parseDuration = other.parseDuration
  file : (host.document path).map Decoded.mask = (other.document path).map Decoded.mask
  pools : loadCertPool host = loadCertPool other
  pairs : host.loadX509KeyPair = other.loadX509KeyPair

section Masking

variable {host other : Host} {flags others : Option Config} {path : String}

private theorem hide_hide (password : String) : hide (hide password) = hide password := by
  unfold hide
  split <;> simp_all

private theorem fill_map {α β : Type} (change : α → β) (target source : Option α) :
    fill (target.map change) (source.map change) = (fill target source).map change := by
  cases target <;> rfl

private theorem merge_mask (config other : Config) :
    (config.merge (some other)).mask = config.mask.merge (some other.mask) := by
  simp only [merge, mask, fill_map]

/-- Variables that are parsed are not passwords. -/
theorem parsedEnv_masked {α : Type} (parse : String → Option α) {name : String}
    (plain : name ∉ secretVariables) :
    Host.parsedEnv { host with lookupEnv := host.maskedEnv } parse name =
      host.parsedEnv parse name := by
  simp only [Host.parsedEnv, Host.maskedEnv, if_neg plain]

private theorem fromEnv_masked :
    mask <$> fromEnv host = fromEnv { host with lookupEnv := host.maskedEnv } := by
  have plain {name : String} (plain : name ∉ secretVariables) :
      Host.strEnv { host with lookupEnv := host.maskedEnv } name = host.strEnv name := if_neg plain
  have secret {name : String} (secret : name ∈ secretVariables) :
      Host.strEnv { host with lookupEnv := host.maskedEnv } name = (host.strEnv name).map hide :=
    if_pos secret
  have password := @secret "SENTINEL_PASSWORD" (by decide)
  have masterPassword := @secret "RSP_MASTER_PASSWORD" (by decide)
  simp only [fromEnv, Host.boolEnv, Host.intEnv, Host.durEnv, map_bind, map_pure, password,
    masterPassword]
  simp (disch := decide) only [parsedEnv_masked, plain]
  rfl

theorem Alike.fromEnv_eq (alike : Alike host other flags others path) :
    mask <$> fromEnv host = mask <$> fromEnv other := by
  rw [fromEnv_masked, fromEnv_masked, alike.environment]
  simp only [fromEnv, Host.boolEnv, Host.intEnv, Host.durEnv, alike.durations]
  rfl

private theorem loadFile_document :
    mask <$> loadFile host path =
      match (host.document path).map Decoded.mask with
      | none => .error (.readingFile path)
      | some (.invalid text) => .error (.parsingFile path text)
      | some .eof => .ok {}
      | some (.document config) => .ok config := by
  unfold loadFile Host.document
  cases host.readFile path with
  | none => rfl
  | some data =>
    dsimp only [Option.map_some]
    cases host.decodeYAML data <;> rfl

theorem Alike.loadFile_eq (alike : Alike host other flags others path) :
    mask <$> loadFile host path = mask <$> loadFile other path := by
  rw [loadFile_document, loadFile_document, alike.file]

/-- The sources can be masked one by one. -/
theorem sources_masked :
    mask <$> sources host flags path = do
      let config := ((flags.map mask).getD {}).merge (some (← mask <$> fromEnv host))
      if path ≠ "" then
        return (config.merge (some (← mask <$> loadFile host path))).merge (some default)
      return config.merge (some default) := by
  have start : (flags.map mask).getD {} = (flags.getD {}).mask := by cases flags <;> rfl
  have builtin : default.mask = default := rfl
  unfold sources
  rw [start]
  cases fromEnv host with
  | error failure => rfl
  | ok env =>
    by_cases file : path ≠ ""
    · simp only [if_pos file]
      cases loadFile host path with
      | error failure => rfl
      | ok document =>
        simp only [bind, Except.bind, Functor.map, Except.map, pure, Except.pure, merge_mask,
          builtin]
    · simp only [if_neg file]
      simp only [bind, Except.bind, Functor.map, Except.map, pure, Except.pure, merge_mask,
        builtin]

theorem Alike.sources_eq (alike : Alike host other flags others path) :
    mask <$> sources host flags path = mask <$> sources other others path := by
  rw [sources_masked, sources_masked, alike.flags, alike.fromEnv_eq, alike.loadFile_eq]

/-- The checks do not look at passwords. -/
theorem Alike.validate_eq (alike : Alike host other flags others path) (config : Config) :
    validate host config = validate other config.mask := by
  unfold validate sentinelTLSConfig listenTLSConfig masterTLSConfig clientTLSConf
  rw [alike.pools, alike.pairs]
  rfl

private theorem normalise_mask (config : Config) :
    config.mask.normalise = config.normalise.mask := by
  have same : (!strSet config.mask.listen && !strSet config.mask.replicaListen) =
      (!strSet config.listen && !strSet config.replicaListen) := rfl
  simp only [normalise, same]
  cases !strSet config.listen && !strSet config.replicaListen with
  | true =>
    by_cases empty : config.replicaListen = some ""
    · have also : config.mask.replicaListen = some "" := empty
      simp only [if_true, empty, also]
      rfl
    · have also : ¬config.mask.replicaListen = some "" := empty
      simp only [if_true, empty, also, if_false]
      rfl
  | false =>
    by_cases empty : config.replicaListen = some ""
    · have also : config.mask.replicaListen = some "" := empty
      simp only [Bool.false_eq_true, if_false, empty, also, if_true]
      rfl
    · have also : ¬config.mask.replicaListen = some "" := empty
      simp only [Bool.false_eq_true, if_false, empty, also]

theorem Alike.load_eq (alike : Alike host other flags others path) :
    mask <$> load host flags path = mask <$> load other others path := by
  have masked (host : Host) (flags : Option Config) :
      mask <$> load host flags path =
        (mask <$> sources host flags path >>= fun config =>
          validate host config >>= fun tls => pure (normalise { config with tls })) := by
    unfold load
    cases sources host flags path with
    | error failure => rfl
    | ok merged =>
      change mask <$> (validate host merged >>= _) = validate host merged >>= _
      cases validate host merged with
      | error failure => rfl
      | ok tls => exact congrArg Except.ok (normalise_mask { merged with tls }).symm
  rw [masked, masked, alike.sources_eq]
  simp only [alike.validate_eq]
  rfl

private theorem display_mask (config : Config) : config.mask.display = config.display := by
  have twice (secret : Option String) : (secret.map hide).map hide = secret.map hide := by
    rw [Option.map_map]
    exact congrArg (Option.map · secret) (funext hide_hide)
  simp only [display, mask, twice]
  rfl

/-- What is logged can be told from the masked configuration. -/
theorem startup_mask : startup host flags path =
    match mask <$> load host flags path with
    | .error failure => .fatal failure
    | .ok config => .started config.display := by
  unfold startup
  cases load host flags path with
  | error failure => rfl
  | ok config => exact congrArg Startup.started (display_mask config).symm

/-- Nothing that is logged at the start, neither the configuration nor the error it is refused
with, depends on what a password is, wherever it comes from, but for what the decoder says
about a file it cannot decode. -/
theorem startup_secrets (alike : Alike host other flags others path) :
    startup host flags path = startup other others path := by
  rw [startup_mask, startup_mask, alike.load_eq]

/-- A machine with a password in its environment and another one in its file. -/
def secretHost (sentinel master : String) : Host :=
  { authorityHost with
    lookupEnv := fun name => if name = "SENTINEL_PASSWORD" then some sentinel else none
    readFile := fun path => if path = "config.yaml" then some master else none
    decodeYAML := fun data => .document { masterPassword := some data } }

theorem startup_secrets_secretHost :
    startup (secretHost "hunter2" "sesame") none "config.yaml" =
        startup (secretHost "swordfish" "mellon") none "config.yaml" ∧
      startup (secretHost "hunter2" "sesame") none "config.yaml" ≠
        startup (secretHost "hunter2" "") none "config.yaml" := by
  refine ⟨startup_secrets ⟨rfl, ?_, rfl, rfl, ?_, rfl⟩, by decide⟩
  · funext name
    by_cases secret : name = "SENTINEL_PASSWORD" <;>
      simp [Host.maskedEnv, secretHost, secretVariables, secret, hide]
  · funext file
    by_cases named : file = "config.yaml" <;>
      simp [loadCertPool, secretHost, authorityHost, named]

end Masking

section Sections

variable {host : Host} {flags : Option Config} {path : String} {config : Config}

private theorem display_sentinelTLS (config : Config) : config.display.sentinelTLS.isSome =
    boolSet (config.sentinelTLS.getD {}).enabled := by
  cases present : config.sentinelTLS with
  | none => simp [display, present, boolSet]
  | some backend => cases enabled : boolSet backend.enabled <;> simp [display, present, enabled]

private theorem display_listenTLS (config : Config) : config.display.listenTLS.isSome =
    boolSet (config.listenTLS.getD {}).enabled := by
  cases present : config.listenTLS with
  | none => simp [display, present, boolSet]
  | some listen => cases enabled : boolSet listen.enabled <;> simp [display, present, enabled]

private theorem display_masterTLS (config : Config) : config.display.masterTLS.isSome =
    (boolSet (config.masterTLS.getD {}).enabled ||
      boolSet (config.masterTLS.getD {}).passthrough) := by
  cases present : config.masterTLS with
  | none => simp [display, present, boolSet]
  | some backend =>
    cases enabled : boolSet backend.enabled <;> cases passes : boolSet backend.passthrough <;>
      simp [display, present, enabled, passes]

/-- The sections towards Sentinel and of the listeners are shown exactly if they are in use.
The section towards the master is shown only if it is in use, and it is in use and not shown
exactly if it is neither enabled nor passed through but has some other option. -/
theorem display_setups (loaded : load host flags path = .ok config) :
    config.display.sentinelTLS.isSome = config.tls.sentinel.isSome ∧
      config.display.listenTLS.isSome = config.tls.listen.isSome ∧
      (config.display.masterTLS.isSome = true → config.tls.masterProbe.isSome = true) ∧
      (config.display.masterTLS.isSome = false ∧ config.tls.masterProbe.isSome = true ↔
        boolSet (config.masterTLS.getD {}).enabled = false ∧
          boolSet (config.masterTLS.getD {}).passthrough = false ∧
          Untouched (config.masterTLS.getD {}) = false) := by
  have settled := load_settled loaded
  rw [display_sentinelTLS, display_listenTLS, display_masterTLS, settled.sentinel.isSome,
    settled.listen.isSome, settled.master.isSome]
  refine ⟨rfl, rfl, ?_, ?_⟩
  · intro shown
    simp [shown]
  · cases boolSet (config.masterTLS.getD {}).enabled <;>
      cases boolSet (config.masterTLS.getD {}).passthrough <;> simp

theorem display_setups_authorityOnly : ∃ config,
    load authorityHost (some authorityOnly) "" = .ok config ∧
      config.display.masterTLS.isSome = false ∧ config.tls.masterProbe.isSome = true := by
  refine ⟨_, rfl, ?_⟩
  exact (@display_setups authorityHost (some authorityOnly) "" _ rfl).2.2.2.mpr ⟨rfl, rfl, rfl⟩

end Sections

end SentinelProxy.Config

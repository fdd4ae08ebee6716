import SentinelProxy.Config.Acceptance

/-! `sentinel_tls.passthrough`, which no connection to Sentinel supports: the check refuses
it, and the merge, which copies the options of a section one by one, leaves it out. -/

namespace SentinelProxy.Config

/-- The highest source that sets `sentinel_tls.passthrough` sets it to true. -/
def Requested (host : Host) (flags : Option Config) (path : String) : Prop :=
  setting host flags path sentinelPassthrough = some true

/-- Loading returns an error, and does not crash. -/
def Refused (host : Host) (flags : Option Config) (path : String) : Prop :=
  ∃ failure, failure ≠ .nilPointer ∧ load host flags path = .error failure

section Loading

variable {host : Host} {flags : Option Config} {path : String}

private theorem fromEnv_passthrough {env : Config} (read : fromEnv host = .ok env) :
    sentinelPassthrough env = none := by
  unfold fromEnv at read
  repeat obtain ⟨_, _, read⟩ := bind_eq_ok.mp read
  cases read
  rfl

/-- Only the flags and the file can set it. -/
theorem requested_iff {env file : Config} (read : fromEnv host = .ok env)
    (opened : FileSource host path file) :
    Requested host flags path ↔
      sentinelPassthrough (flags.getD {}) = some true ∨
        sentinelPassthrough (flags.getD {}) = none ∧ sentinelPassthrough file = some true := by
  have unset : sentinelPassthrough default = none := rfl
  have untouched := fromEnv_passthrough read
  unfold Requested setting layers
  unfold FileSource at opened
  by_cases absent : path = ""
  · rw [if_pos absent] at opened
    subst opened absent
    simp only [read, bind, Except.bind, ne_eq, not_true_eq_false, if_false, pure, Except.pure,
      List.findSome?_cons, List.findSome?_nil, untouched, unset]
    cases sentinelPassthrough (flags.getD {}) <;> simp [sentinelPassthrough]
  · rw [if_neg absent] at opened
    simp only [read, opened, bind, Except.bind, ne_eq, absent, not_false_eq_true, if_true, pure,
      Except.pure, List.findSome?_cons, List.findSome?_nil, untouched, unset]
    cases sentinelPassthrough (flags.getD {}) <;> cases sentinelPassthrough file <;> simp

end Loading

/-- The file asks for `sentinel_tls.passthrough`, the flags say nothing about it, and nothing
else is wrong: the environment parses and the options chosen from the sources fit together. -/
structure Overlooked (host : Host) (flags : Option Config) (path : String) (file : Config) :
    Prop where
  unset : sentinelPassthrough (flags.getD {}) = none
  reads : Reads host path file
  asked : sentinelPassthrough file = some true
  parses : Parses host
  fits : Accepts host fun key => key.effective host flags file

/-- A request for `sentinel_tls.passthrough` is refused, and no accepted configuration has
one behind it, unless it comes from a file that is all right otherwise. -/
theorem passthrough_refused_iff (host : Host) (flags : Option Config) (path : String) :
    ((Requested host flags path → Refused host flags path) ∧
      ∀ config, load host flags path = .ok config → ¬Requested host flags path) ↔
    ¬∃ file, Overlooked host flags path file := by
  constructor
  · rintro ⟨_, clean⟩ ⟨file, unset, reads, asked, parses, fits⟩
    obtain ⟨config, loaded⟩ :=
      load_ok_iff.mpr ⟨parses, by simp [unset], file, reads, fits⟩
    obtain ⟨env, read⟩ := fromEnv_ok_iff.mpr parses
    exact clean config loaded
      ((requested_iff read (fileSource_iff.mpr reads)).mpr (.inr ⟨unset, asked⟩))
  · intro harmless
    have clean : ∀ config, load host flags path = .ok config → ¬Requested host flags path := by
      intro config loaded requested
      obtain ⟨parses, ends, file, reads, fits⟩ := load_ok_iff.mp ⟨config, loaded⟩
      obtain ⟨env, read⟩ := fromEnv_ok_iff.mpr parses
      rcases (requested_iff read (fileSource_iff.mpr reads)).mp requested with
        flagged | ⟨unset, asked⟩
      · exact ends flagged
      · exact harmless ⟨file, unset, reads, asked, parses, fits⟩
    refine ⟨fun requested => ?_, clean⟩
    cases outcome : load host flags path with
    | error failure =>
      refine ⟨failure, ?_, outcome⟩
      rintro rfl
      exact load_avoids outcome
    | ok config => exact absurd requested (clean config outcome)

/-- No environment, and one file that wants TLS to Sentinel, passed through. -/
def passthroughHost : Host where
  lookupEnv _ := none
  parseDuration _ := none
  readFile path := if path = "config.yaml" then some "sentinel_tls" else none
  decodeYAML _ := .document
    { sentinelTLS := some { enabled := some true, passthrough := some true } }
  appendCertsFromPEM _ := true
  loadX509KeyPair _ _ := true

/-- Flags that ask for it are refused, whatever the file says. -/
theorem passthrough_refused_flags :
    Refused passthroughHost
      (some { sentinelTLS := some { passthrough := some true } }) "config.yaml" := by
  refine ((passthrough_refused_iff _ _ _).mpr ?_).1 rfl
  rintro ⟨file, unset, _⟩
  cases unset

/-- The file asks for it, and is accepted as if it did not. -/
theorem passthrough_accepted :
    Requested passthroughHost none "config.yaml" ∧
      ∃ config, load passthroughHost none "config.yaml" = .ok config ∧
        sentinelPassthrough config = none ∧ config.tls.sentinel = some {} := by
  refine ⟨rfl, ?_⟩
  exact ⟨_, rfl, rfl, rfl⟩

end SentinelProxy.Config

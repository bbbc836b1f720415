import Mathlib
import Sluice.Config
import Sluice.Proofs.Text.Decimal
/-!
# Reading settings from the environment

`Settings.ofLookup` reads four optional variables in a fixed order, each through its own
parser after trimming, and runs the consistency check last. Here its answer is described by
grammars alone, for every lookup:

* it answers settings exactly when every variable that is set reads under its grammar (a
  flag token, or a size in `Text.DecimalForm`), the settings are the defaults with each such
  variable's value in its field, and they pass their check (`Describes`);
* it answers a fault exactly as `Rejects` says: that of the first variable, in the order
  metrics, receive buffer, pause, resume, whose value does not read, or else the check's.

Settings whose sizes fit in 64 bits and that pass their check read back from their own
spelling: a flag token and the decimal rendering of each size, each padded with any blank
characters (`Spells`).

* `FlagToken`, `Sets`, `Reads`, `Describes`, `FlagRefusal`, `SizeRefusal`, `Rejects`, `Spells`.
* `Settings.ofLookup_eq_ok_iff`, `Settings.ofLookup_eq_error_iff`, `Settings.ofLookup_spelled`.
* `Settings.environment_read_by_its_grammar` — the three together.
-/

namespace Sluice

theorem Except.bind_eq_ok_iff {ε α β : Type} {x : Except ε α} {f : α → Except ε β} {b : β} :
    x >>= f = .ok b ↔ ∃ a, x = .ok a ∧ f a = .ok b := by
  cases x <;> simp [bind, Except.bind]

theorem Except.bind_eq_error_iff {ε α β : Type} {x : Except ε α} {f : α → Except ε β} {e : ε} :
    x >>= f = .error e ↔ x = .error e ∨ ∃ a, x = .ok a ∧ f a = .error e := by
  cases x <;> simp [bind, Except.bind]

/-! ## One variable -/

def flagSpellings : Bool → List String
  | true => ["True", "true", "1"]
  | false => ["False", "false", "0"]

def FlagToken (s : String) (b : Bool) : Prop :=
  s ∈ flagSpellings b

theorem parseFlag_eq_some_iff (s : String) (b : Bool) :
    parseFlag s = some b ↔ FlagToken s b := by
  constructor
  · intro h
    unfold parseFlag at h
    split at h <;> cases h <;> simp [FlagToken, flagSpellings]
  · cases b <;> simp only [FlagToken, flagSpellings, List.mem_cons, List.not_mem_nil, or_false] <;>
      rintro (rfl | rfl | rfl) <;> rfl

theorem parseFlag_eq_none_iff (s : String) : parseFlag s = none ↔ ∀ b, ¬ FlagToken s b := by
  simp only [← parseFlag_eq_some_iff, Option.eq_none_iff_forall_ne_some]

theorem FlagToken.solid {s : String} {b : Bool} (h : FlagToken s b) :
    ∀ c ∈ s.toList, ¬ Text.isBlank c := by
  cases b <;> simp only [FlagToken, flagSpellings, List.mem_cons, List.not_mem_nil,
    or_false] at h <;> rcases h with rfl | rfl | rfl <;> simp [Text.isBlank]

/-- How a flag variable's value is refused: its trimmed value is no flag token, and the fault
names the variable and quotes the value as it was given. -/
def FlagRefusal (key raw : String) (f : Fault) : Prop :=
  (∀ b, ¬ FlagToken (Text.trimBlank raw) b) ∧
    f = .invalidConfig (key ++ " expects a boolean, got " ++ Text.quote raw)

/-- How a size variable's value is refused: its trimmed value does not read as a number, and
the fault names the variable, quotes the value as it was given, and says why it does not read. -/
def SizeRefusal (key raw : String) (f : Fault) : Prop :=
  ∃ e, Text.readDecimal (Text.trimBlank raw) = .error e ∧
    f = .invalidConfig (key ++ " expects a non-negative integer, got " ++ Text.quote raw ++ ": " ++
      e.message)

theorem readFlagVar_eq_ok_iff (key raw : String) (b : Bool) :
    readFlagVar key raw = .ok b ↔ FlagToken (Text.trimBlank raw) b := by
  rw [← parseFlag_eq_some_iff, readFlagVar]
  split <;> simp_all

theorem readFlagVar_eq_error_iff (key raw : String) (f : Fault) :
    readFlagVar key raw = .error f ↔ FlagRefusal key raw f := by
  simp only [FlagRefusal, ← parseFlag_eq_none_iff, readFlagVar]
  cases parseFlag (Text.trimBlank raw) <;> simp [eq_comm]

theorem readSizeVar_eq_ok_iff (key raw : String) (n : Nat) :
    readSizeVar key raw = .ok n ↔ Text.DecimalForm (Text.trimBlank raw) n := by
  rw [← Text.readDecimal_eq_ok_iff, readSizeVar]
  split <;> simp_all

theorem readSizeVar_eq_error_iff (key raw : String) (f : Fault) :
    readSizeVar key raw = .error f ↔ SizeRefusal key raw f := by
  simp only [SizeRefusal, readSizeVar]
  cases Text.readDecimal (Text.trimBlank raw) <;> simp [eq_comm]

/-- What a variable sets its field to: the default when it is unset, and a value of its
grammar, read after trimming, when it is set. -/
def Sets {α : Type} (grammar : String → α → Prop) (dflt : α) : Option String → α → Prop
  | none, v => v = dflt
  | some raw, v => grammar (Text.trimBlank raw) v

def Reads {α : Type} (grammar : String → α → Prop) : Option String → Prop
  | none => True
  | some raw => ∃ v, grammar (Text.trimBlank raw) v

section Variables

variable {α : Type} {lookup : String → Option String} {key : String} {dflt : α}
  {read : String → String → Except Fault α} {grammar : String → α → Prop}

theorem readVar_eq_ok_iff (spec : ∀ raw v, read key raw = .ok v ↔ grammar (Text.trimBlank raw) v)
    (v : α) : readVar lookup key dflt read = .ok v ↔ Sets grammar dflt (lookup key) v := by
  unfold readVar
  cases lookup key <;> simp [Sets, spec, eq_comm]

theorem readVar_eq_error_iff (f : Fault) :
    readVar lookup key dflt read = .error f ↔
      ∃ raw, lookup key = some raw ∧ read key raw = .error f := by
  unfold readVar
  cases lookup key <;> simp

theorem Sets.reads {o : Option String} {v : α} (h : Sets grammar dflt o v) : Reads grammar o := by
  cases o with
  | none => trivial
  | some raw => exact ⟨v, h⟩

theorem Reads.sets {o : Option String} (h : Reads grammar o) : ∃ v, Sets grammar dflt o v := by
  cases o with
  | none => exact ⟨dflt, rfl⟩
  | some raw => exact h

end Variables

/-! ## The four variables -/

/-- The settings an environment describes: the defaults, with each variable that is set
putting its value in its own field. -/
def Describes (lookup : String → Option String) (c : Settings) : Prop :=
  Sets FlagToken ({} : Settings).waiterMetrics (lookup metricsVar) c.waiterMetrics ∧
    Sets Text.DecimalForm ({} : Settings).pipe.receiveBufferSize (lookup receiveBufferVar)
      c.pipe.receiveBufferSize ∧
    Sets Text.DecimalForm ({} : Settings).pipe.pauseWriterThreshold (lookup pauseVar)
      c.pipe.pauseWriterThreshold ∧
    Sets Text.DecimalForm ({} : Settings).pipe.resumeWriterThreshold (lookup resumeVar)
      c.pipe.resumeWriterThreshold

/-- The fault an environment is refused with: that of the first variable, in the order
metrics, receive buffer, pause, resume, whose value does not read, else the consistency
check's fault for the settings the environment describes. -/
inductive Rejects (lookup : String → Option String) : Fault → Prop
  | metrics {raw : String} {f : Fault} : lookup metricsVar = some raw →
      FlagRefusal metricsVar raw f → Rejects lookup f
  | receiveBuffer {raw : String} {f : Fault} : Reads FlagToken (lookup metricsVar) →
      lookup receiveBufferVar = some raw → SizeRefusal receiveBufferVar raw f → Rejects lookup f
  | pause {raw : String} {f : Fault} : Reads FlagToken (lookup metricsVar) →
      Reads Text.DecimalForm (lookup receiveBufferVar) →
      lookup pauseVar = some raw → SizeRefusal pauseVar raw f → Rejects lookup f
  | resume {raw : String} {f : Fault} : Reads FlagToken (lookup metricsVar) →
      Reads Text.DecimalForm (lookup receiveBufferVar) → Reads Text.DecimalForm (lookup pauseVar) →
      lookup resumeVar = some raw → SizeRefusal resumeVar raw f → Rejects lookup f
  | check {c : Settings} {f : Fault} : Describes lookup c → c.check = .error f → Rejects lookup f

namespace Settings

/-- Reading succeeds exactly on the settings the environment describes, when they pass their
check. -/
theorem ofLookup_eq_ok_iff (lookup : String → Option String) (c : Settings) :
    ofLookup lookup = .ok c ↔ Describes lookup c ∧ c.check = .ok () := by
  simp only [ofLookup, Except.bind_eq_ok_iff,
    readVar_eq_ok_iff (readFlagVar_eq_ok_iff metricsVar),
    readVar_eq_ok_iff (readSizeVar_eq_ok_iff receiveBufferVar),
    readVar_eq_ok_iff (readSizeVar_eq_ok_iff pauseVar),
    readVar_eq_ok_iff (readSizeVar_eq_ok_iff resumeVar)]
  constructor
  · rintro ⟨m, hm, size, hs, pause, hp, resume, hr, u, hc, pure⟩
    cases pure
    exact ⟨⟨hm, hs, hp, hr⟩, hc⟩
  · rintro ⟨⟨hm, hs, hp, hr⟩, hc⟩
    exact ⟨_, hm, _, hs, _, hp, _, hr, (), hc, rfl⟩

theorem ofLookup_eq_error_iff (lookup : String → Option String) (f : Fault) :
    ofLookup lookup = .error f ↔ Rejects lookup f := by
  simp only [ofLookup, Except.bind_eq_error_iff, readVar_eq_error_iff, readFlagVar_eq_error_iff,
    readSizeVar_eq_error_iff, readVar_eq_ok_iff (readFlagVar_eq_ok_iff metricsVar),
    readVar_eq_ok_iff (readSizeVar_eq_ok_iff receiveBufferVar),
    readVar_eq_ok_iff (readSizeVar_eq_ok_iff pauseVar),
    readVar_eq_ok_iff (readSizeVar_eq_ok_iff resumeVar)]
  constructor
  · -- one case per variable that fails, then the check, then the `pure` that cannot fail
    rintro (⟨raw, set, bad⟩ | ⟨m, hm, ⟨raw, set, bad⟩ | ⟨size, hs, ⟨raw, set, bad⟩ |
      ⟨pause, hp, ⟨raw, set, bad⟩ | ⟨resume, hr, bad | ⟨u, -, bad⟩⟩⟩⟩⟩)
    · exact .metrics set bad
    · exact .receiveBuffer hm.reads set bad
    · exact .pause hm.reads hs.reads set bad
    · exact .resume hm.reads hs.reads hp.reads set bad
    · exact .check ⟨hm, hs, hp, hr⟩ bad
    · cases bad
  · intro h
    cases h with
    | metrics set bad => exact .inl ⟨_, set, bad⟩
    | receiveBuffer metrics set bad =>
      obtain ⟨m, hm⟩ := metrics.sets
      exact .inr ⟨m, hm, .inl ⟨_, set, bad⟩⟩
    | pause metrics size set bad =>
      obtain ⟨m, hm⟩ := metrics.sets
      obtain ⟨n, hn⟩ := size.sets
      exact .inr ⟨m, hm, .inr ⟨n, hn, .inl ⟨_, set, bad⟩⟩⟩
    | resume metrics size pause set bad =>
      obtain ⟨m, hm⟩ := metrics.sets
      obtain ⟨n, hn⟩ := size.sets
      obtain ⟨p, hp⟩ := pause.sets
      exact .inr ⟨m, hm, .inr ⟨n, hn, .inr ⟨p, hp, .inl ⟨_, set, bad⟩⟩⟩⟩
    | check describes bad =>
      obtain ⟨hm, hs, hp, hr⟩ := describes
      exact .inr ⟨_, hm, .inr ⟨_, hs, .inr ⟨_, hp, .inr ⟨_, hr, .inl bad⟩⟩⟩⟩

/-- Thresholds that both read but are inverted fail the check. -/
example : ofLookup (fun key => List.lookup key [(pauseVar, "100"), (resumeVar, "200")]) =
    .error (.invalidConfig "resume_writer_threshold (200) exceeds pause_writer_threshold (100)") := by
  decide

/-- The flag is read first: its fault wins over a malformed size. -/
example : ofLookup (fun key => List.lookup key [(receiveBufferVar, "-4"), (metricsVar, "yes")]) =
    .error (.invalidConfig "CONDUIT_ASYNC_WAITER_METRICS expects a boolean, got \"yes\"") := by
  decide +kernel

end Settings

/-! ## Spelling settings out -/

def Padded (core raw : String) : Prop :=
  ∃ lead trail : String, raw = lead ++ core ++ trail ∧
    (∀ c ∈ lead.toList, Text.isBlank c) ∧ (∀ c ∈ trail.toList, Text.isBlank c)

/-- An environment that spells settings out: a token of the flag and the decimal rendering of
each size, each padded with blank characters. -/
def Spells (lookup : String → Option String) (c : Settings) : Prop :=
  (∃ token raw, lookup metricsVar = some raw ∧ FlagToken token c.waiterMetrics ∧
      Padded token raw) ∧
    (∃ raw, lookup receiveBufferVar = some raw ∧ Padded (toString c.pipe.receiveBufferSize) raw) ∧
    (∃ raw, lookup pauseVar = some raw ∧ Padded (toString c.pipe.pauseWriterThreshold) raw) ∧
    (∃ raw, lookup resumeVar = some raw ∧ Padded (toString c.pipe.resumeWriterThreshold) raw)

def PipeOptions.Fits (o : PipeOptions) : Prop :=
  o.receiveBufferSize ≤ Text.wordMax ∧ o.pauseWriterThreshold ≤ Text.wordMax ∧
    o.resumeWriterThreshold ≤ Text.wordMax

theorem sets_padded_token {token raw : String} {b dflt : Bool} (h : FlagToken token b)
    (padded : Padded token raw) : Sets FlagToken dflt (some raw) b := by
  obtain ⟨lead, trail, rfl, leadBlank, trailBlank⟩ := padded
  show FlagToken (Text.trimBlank (lead ++ token ++ trail)) b
  rwa [Text.trimBlank_padded leadBlank trailBlank h.solid]

theorem sets_padded_decimal {raw : String} {n dflt : Nat} (fits : n ≤ Text.wordMax)
    (padded : Padded (toString n) raw) : Sets Text.DecimalForm dflt (some raw) n := by
  obtain ⟨lead, trail, rfl, leadBlank, trailBlank⟩ := padded
  show Text.DecimalForm (Text.trimBlank (lead ++ toString n ++ trail)) n
  rw [Text.trimBlank_padded leadBlank trailBlank
    fun _ mem => Text.not_isBlank_of_isDigit (Text.isDigit_of_mem_toString mem)]
  exact Text.decimalForm_toString fits

theorem Spells.describes {lookup : String → Option String} {c : Settings} (h : Spells lookup c)
    (fits : c.pipe.Fits) : Describes lookup c := by
  obtain ⟨⟨token, raw, set, flag, padded⟩, ⟨rs, rset, rpad⟩, ⟨ps, pset, ppad⟩,
    ⟨qs, qset, qpad⟩⟩ := h
  refine ⟨?_, ?_, ?_, ?_⟩
  · rw [set]; exact sets_padded_token flag padded
  · rw [rset]; exact sets_padded_decimal fits.1 rpad
  · rw [pset]; exact sets_padded_decimal fits.2.1 ppad
  · rw [qset]; exact sets_padded_decimal fits.2.2 qpad

namespace Settings

/-- Settings that pass their check read back from any padded spelling of them. -/
theorem ofLookup_spelled {lookup : String → Option String} {c : Settings}
    (valid : c.check = .ok ()) (fits : c.pipe.Fits) (spelled : Spells lookup c) :
    ofLookup lookup = .ok c :=
  (ofLookup_eq_ok_iff lookup c).mpr ⟨spelled.describes fits, valid⟩

/-- The environment is read by its grammar: success exactly on the settings it describes
when they pass their check, failure exactly with the fault of the first malformed variable or
else of the check, and every valid setting read back from its padded spelling. -/
theorem environment_read_by_its_grammar :
    (∀ lookup c, ofLookup lookup = .ok c ↔ Describes lookup c ∧ c.check = .ok ()) ∧
    (∀ lookup f, ofLookup lookup = .error f ↔ Rejects lookup f) ∧
    (∀ lookup c, c.check = .ok () → c.pipe.Fits → Spells lookup c → ofLookup lookup = .ok c) :=
  ⟨ofLookup_eq_ok_iff, ofLookup_eq_error_iff, fun _ _ => ofLookup_spelled⟩

/-- Settings spelled with a tab, an ideographic space, a no-break space and plain spaces around
the values read back. -/
theorem padded_environment_reads_back :
    ({ waiterMetrics := true,
       pipe := { receiveBufferSize := 512, pauseWriterThreshold := 2048,
                 resumeWriterThreshold := 1024 } } : Settings).check = .ok () ∧
    PipeOptions.Fits { receiveBufferSize := 512, pauseWriterThreshold := 2048,
                       resumeWriterThreshold := 1024 } ∧
    Spells (fun key => List.lookup key
        [(metricsVar, " True\t"), (receiveBufferVar, "\u3000512"), (pauseVar, "2048\u00a0"),
         (resumeVar, " 1024 ")])
      { waiterMetrics := true,
        pipe := { receiveBufferSize := 512, pauseWriterThreshold := 2048,
                  resumeWriterThreshold := 1024 } } ∧
    ofLookup (fun key => List.lookup key
        [(metricsVar, " True\t"), (receiveBufferVar, "\u3000512"), (pauseVar, "2048\u00a0"),
         (resumeVar, " 1024 ")]) =
      .ok { waiterMetrics := true,
            pipe := { receiveBufferSize := 512, pauseWriterThreshold := 2048,
                      resumeWriterThreshold := 1024 } } := by
  refine ⟨rfl, ?fits, ?spelled, environment_read_by_its_grammar.2.2 _ _ rfl ?fits ?spelled⟩
  case fits => simp [PipeOptions.Fits, Text.wordMax]
  case spelled =>
    refine ⟨⟨"True", " True\t", by decide, by simp [FlagToken, flagSpellings],
      " ", "\t", by decide, by simp [Text.isBlank], by simp [Text.isBlank]⟩,
      ⟨"\u3000512", by decide, "\u3000", "", by decide, by simp [Text.isBlank], by simp⟩,
      ⟨"2048\u00a0", by decide, "", "\u00a0", by decide, by simp, by simp [Text.isBlank]⟩,
      ⟨" 1024 ", by decide, " ", " ", by decide, by simp [Text.isBlank], by simp [Text.isBlank]⟩⟩

end Settings

end Sluice

import TaggerFeatures.Main
import TaggerFeatures.Proofs.Architecture.Limit
import TaggerFeatures.Proofs.CommandLine.Loading

/-!
How a run ends: without a failure, with a report of its failure, or with a failure that nothing
reports. That last happens for errors of loading the settings alone.
-/
namespace TaggerFeatures.CommandLine

/-! ## Runs -/

variable {reader : Settings.Reader} {files : FileSystem} {arguments : List String} {o : Options}
  {settings : Settings} {e : Failure} {r : Run}

@[simp] theorem failure_after (lines : List String) (r : Run) :
    (r.after lines).failure = r.failure := rfl

@[simp] theorem failure_warned (warnings : List String) (r : Run) :
    (r.warned warnings).failure = r.failure := rfl

@[simp] theorem failure_fail (e : Failure) : (Run.fail e).failure = some e := rfl

theorem isReported_of_describeSentence {features : FeatureSet} {sentence separator : String}
    (h : (describeSentence features sentence separator).failure = some e) :
    e.isReported = true := by
  unfold describeSentence at h
  repeat' split at h
  all_goals cases h
  all_goals rfl

/-- Once there are settings, every failure is reported: the counts are integers by then. -/
theorem isReported_of_describe {arch : String} {sentence separator : Option String}
    (h : (describe settings arch sentence separator).failure = some e) : e.isReported = true := by
  unfold describe at h
  simp only [failure_after, failure_warned] at h
  split at h
  · rename_i failure hfailure
    cases h
    cases failure with
    | malformed _ | tooLong _ => rfl
    | count error =>
        have hintegers := TagDictionary.allIntegers_toRaw settings.dictionary
        exact absurd hfailure (Architecture.outcome_ne_count hintegers error)
  · split at h
    · cases h
      rfl
    · simp only [failure_after] at h
      split at h
      · cases h
      · exact isReported_of_describeSentence h

theorem isReported_of_runWith (h : (runWith settings o).failure = some e) : e.isReported = true :=
  isReported_of_describe h

/-- The failures of a run that are not reported, and when each of them is met. -/
inductive Escapes (reader : Settings.Reader) (files : FileSystem) (o : Options) : Failure → Prop
  | settings {path error} : unlessEmpty o.config = some path →
      Settings.Unreported reader files path error → Escapes reader files o (.settings error)

theorem escapes_iff :
    ((run reader files o).failure = some e ∧ e.isReported = false) ↔ Escapes reader files o e := by
  unfold run
  cases hconfig : unlessEmpty o.config with
  | none =>
      constructor
      · rintro ⟨h, hr⟩
        rw [isReported_of_runWith h] at hr
        cases hr
      · rintro ⟨hpath, _⟩
        rw [hconfig] at hpath
        cases hpath
  | some path =>
      simp only [failure_after, failure_warned]
      cases hload : (Settings.load reader files path).outcome with
      | error error =>
          simp only [failure_fail, Option.some.injEq]
          constructor
          · rintro ⟨rfl, hr⟩
            exact .settings hconfig (Settings.load_unreported_iff.mp ⟨hload, hr⟩)
          · rintro ⟨hpath, herror⟩
            cases hconfig.symm.trans hpath
            obtain ⟨hsame, hr⟩ := Settings.load_unreported_iff.mpr herror
            cases hload.symm.trans hsame
            exact ⟨rfl, hr⟩
      | ok settings =>
          constructor
          · rintro ⟨h, hr⟩
            rw [isReported_of_runWith h] at hr
            cases hr
          · rintro ⟨hpath, herror⟩
            cases hconfig.symm.trans hpath
            cases hload.symm.trans herror.load_eq_error

/-- Without settings nothing goes unreported. -/
theorem not_escapes (hconfig : unlessEmpty o.config = none) : ¬ Escapes reader files o e := by
  rintro ⟨hpath, _⟩
  rw [hconfig] at hpath
  cases hpath

theorem isReported_of_run (hconfig : unlessEmpty o.config = none)
    (hf : (run reader files o).failure = some e) : e.isReported = true := by
  rw [← Bool.not_eq_false]
  exact fun hr => not_escapes hconfig (escapes_iff.mp ⟨hf, hr⟩)

/-! ## Ends of a run -/

/-- A run has ended by itself: it has done its work, or its last words report why not. -/
def Outcome.Settled (out : Outcome) : Prop :=
  out.escaped = none ∧ (out.exit = 0 ∨ out.exit = 1 ∧
    ∃ before message, out.errors = before ++ "\nError: " ++ message ++ "\n")

theorem textOf_concat (lines : List String) (line : String) :
    textOf (lines ++ [line]) = textOf lines ++ line ++ "\n" := by
  simp [textOf]

theorem escaped_outcome_iff :
    r.outcome.escaped = some e ↔ r.failure = some e ∧ e.isReported = false := by
  unfold Run.outcome
  cases r.failure with
  | none => simp
  | some failure =>
      cases hr : failure.isReported with
      | true =>
          simp only [hr, if_true, Option.some.injEq, reduceCtorEq, false_iff, not_and]
          rintro rfl
          simp [hr]
      | false =>
          simp only [hr, Bool.false_eq_true, if_false, Option.some.injEq]
          constructor
          · rintro rfl
            exact ⟨rfl, hr⟩
          · exact And.left

theorem output_outcome (r : Run) : r.outcome.output = textOf r.printed := by
  unfold Run.outcome
  cases r.failure <;> rfl

theorem exit_eq_zero_iff : r.outcome.exit = 0 ↔ r.failure = none := by
  unfold Run.outcome
  cases r.failure <;> simp

theorem outcome_of_isReported (hf : r.failure = some e) (hr : e.isReported = true) :
    r.outcome.exit = 1 ∧ r.outcome.escaped = none ∧
      r.outcome.errors = textOf r.warnings ++ "\nError: " ++ e.message ++ "\n" := by
  simp [Run.outcome, hf, hr, textOf_concat, String.append_assoc]

theorem settled_iff : r.outcome.Settled ↔ r.outcome.escaped = none := by
  refine ⟨And.left, fun hnone => ⟨hnone, ?_⟩⟩
  cases hf : r.failure with
  | none => exact Or.inl (exit_eq_zero_iff.mpr hf)
  | some failure =>
      cases hr : failure.isReported with
      | false =>
          rw [escaped_outcome_iff.mpr ⟨hf, hr⟩] at hnone
          cases hnone
      | true =>
          obtain ⟨hexit, _, herrors⟩ := outcome_of_isReported hf hr
          exact Or.inr ⟨hexit, _, _, herrors⟩

theorem escaped_run_iff :
    (run reader files o).outcome.escaped = some e ↔ Escapes reader files o e :=
  escaped_outcome_iff.trans escapes_iff

theorem outcome_of_run (hr : Reading.ofStrings arguments = .run o) :
    outcome reader files arguments = (run reader files o).outcome := by
  rw [outcome, hr]

/-- A settings file that names a dictionary, and an infinite count in that. -/
def infiniteCount : FileTree := .ofList [
  ("config.yaml", "paths:\n  dictionary: d.json\n".toUTF8.toList),
  ("d.json", "\x7b\"of\": \x7b\"IN\": 7, \"TO\": Infinity\x7d\x7d".toUTF8.toList)]

/-- A directory in the place of the settings. -/
def directoryTree : FileTree := .ofList [("config.yaml/notes", [])]

end TaggerFeatures.CommandLine

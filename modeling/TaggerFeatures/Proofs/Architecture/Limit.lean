import TaggerFeatures.Proofs.Architecture.Call
import TaggerFeatures.Proofs.Numeral

/-!
How compiling can fail. A malformed architecture is reported as such; a numeral with more digits
than are read is no malformed one, and its own kind of failure. It is met just if the first token
that is refused has such a numeral for its first argument that is not read.
-/
namespace TaggerFeatures

theorem Numeral.value_eq_error_iff {n : Numeral} {e : TooLong} :
    n.value = .error e ↔ maxDigits < n.digits.length ∧ e = ⟨n.digits.length⟩ := by
  unfold value
  split
  · rename_i hle
    simp [Nat.not_lt.mpr hle]
  · rename_i hgt
    simp [Nat.not_le.mp hgt, eq_comm]

namespace Architecture
open Text

/-! ## Arguments -/

namespace Token

variable {t : Token} {e : Numeral.TooLong}

theorem readArgument_eq_tooLong_iff {token : String} {s : List Char} :
    readArgument token s = .error (.tooLong e) ↔
      ∃ n, Numeral.ofChars? (trim s) = some n ∧ Numeral.maxDigits < n.digits.length ∧
        e = ⟨n.digits.length⟩ := by
  cases hn : Numeral.ofChars? (trim s) with
  | none => simp [readArgument, hn]
  | some n =>
      simp only [readArgument, hn, Option.some.injEq, exists_eq_left', ← Numeral.value_eq_error_iff]
      cases n.value <;> simp [Except.mapError]

/-- The first argument of a keyword that is not read is a numeral above the limit. -/
inductive Overlong (t : Token) : Numeral.TooLong → Prop
  | intro {k raw before s after n} : t.meaning = .keyword k → t.arguments = some raw →
      splitWhen (· == ',') raw.toList = before ++ s :: after →
      (∀ p ∈ before, ∃ x, readArgument t.text p = .ok x) →
      Numeral.ofChars? (trim s) = some n → Numeral.maxDigits < n.digits.length →
      Overlong t ⟨n.digits.length⟩

theorem splitWhen_of_blank {raw : List Char} (h : trim raw = []) :
    splitWhen (· == ',') raw = [raw] :=
  splitWhen_eq_singleton
    (beq_of_not_mem fun hc => absurd (trim_eq_nil_iff.mp h _ hc) (by decide))

theorem integers_eq_tooLong_iff :
    t.integers = .error (.tooLong e) ↔
      ∃ raw, t.arguments = some raw ∧
        (splitWhen (· == ',') raw.toList).mapM (readArgument t.text) = .error (.tooLong e) := by
  unfold integers
  cases t.arguments with
  | none => simp
  | some raw =>
      simp only [Option.some.injEq, exists_eq_left']
      split
      · rename_i hempty
        have hblank : trim raw.toList = [] := List.isEmpty_iff.mp hempty
        -- Blanks alone are no list of arguments, but no numeral above the limit either.
        rw [splitWhen_of_blank hblank]
        constructor
        · intro he
          cases he
        · intro he
          obtain ⟨s, hs, herror⟩ := exists_of_mapM_error he
          obtain ⟨n, hn, _⟩ := readArgument_eq_tooLong_iff.mp herror
          rw [List.mem_singleton.mp hs, hblank] at hn
          cases hn
      · rfl

theorem refused_tooLong_iff : t.Refused (.tooLong e) ↔ t.Overlong e := by
  constructor
  · intro h
    generalize hf : Failure.tooLong e = f at h
    cases h with
    | @unreadable k e' hk hi =>
        cases e' with
        | malformed m => cases hf
        | tooLong e' =>
            cases hf
            obtain ⟨raw, hraw, hm⟩ := integers_eq_tooLong_iff.mp hi
            obtain ⟨before, s, after, hpieces, hbefore, hs⟩ := mapM_eq_error_iff.mp hm
            obtain ⟨n, hn, hlt, rfl⟩ := readArgument_eq_tooLong_iff.mp hs
            exact .intro hk hraw hpieces hbefore hn hlt
    | negative _ _ _ => cases hf
  · rintro ⟨hk, hraw, hpieces, hbefore, hn, hlt⟩
    refine .unreadable (e := .tooLong _) hk (integers_eq_tooLong_iff.mpr ⟨_, hraw, ?_⟩)
    exact mapM_eq_error_iff.mpr
      ⟨_, _, _, hpieces, hbefore, readArgument_eq_tooLong_iff.mpr ⟨_, hn, hlt, rfl⟩⟩

theorem Refused.not_count {c : RawCount.Error} (h : t.Refused (.count c)) : False := by
  generalize hf : Failure.count c = f at h
  cases h with
  | @unreadable _ e' _ _ => cases e' <;> cases hf
  | negative _ _ _ => cases hf

end Token

/-! ## The first failure -/

variable {source : RawDictionary} {arch : String} {t : Token} {e : Failure}

theorem outcome_compileTokens (source : RawDictionary) (ts : List Token) :
    (compileTokens source ts).outcome =
      (ts.mapM (Token.templates · source)).map List.flatten := by
  induction ts with
  | nil => rfl
  | cons t rest ih =>
      rw [compileTokens]
      cases ht : t.templates source with
      | error e =>
          rw [mapM_cons_of_error (f := (Token.templates · source)) ht]
          rfl
      | ok templates =>
          rw [mapM_cons_of_ok (f := (Token.templates · source)) ht]
          simp only [ih]
          cases rest.mapM (Token.templates · source) <;> rfl

/-- The token is one of the architecture, and none before it is refused. -/
def Reaches (arch : String) (t : Token) : Prop :=
  ∃ before after, tokenize (expand arch) = .ok (before ++ t :: after) ∧
    ∀ u ∈ before, ∀ e, ¬ u.Refused e

theorem exists_templates_iff (hsource : TagDictionary.AllIntegers source) :
    (∃ templates, t.templates source = .ok templates) ↔ ∀ e, ¬ t.Refused e := by
  simp only [← Token.templates_eq_error_iff hsource]
  cases t.templates source <;> simp

/-- Compiling fails for a text that is not read as tokens, or for the first token that is refused;
with counts that are integers there is no other failure. -/
theorem outcome_compile_eq_error_iff (hsource : TagDictionary.AllIntegers source) :
    (compile arch source).outcome = .error e ↔
      (∃ m, tokenize (expand arch) = .error m ∧ e = .malformed m) ∨
        ∃ t, Reaches arch t ∧ t.Refused e := by
  cases htokens : tokenize (expand arch) with
  | error m =>
      rw [compile_of_malformed source htokens]
      simp [Reaches, htokens, eq_comm]
  | ok tokens =>
      rw [compile_of_tokenize source htokens, outcome_compileTokens, map_eq_error_iff,
        mapM_eq_error_iff]
      simp only [exists_templates_iff hsource, Token.templates_eq_error_iff hsource, Reaches,
        htokens, Except.ok.injEq]
      constructor
      · rintro ⟨before, t, after, htokens, hbefore, ht⟩
        exact Or.inr ⟨t, ⟨before, after, htokens, hbefore⟩, ht⟩
      · rintro (⟨m, hm, _⟩ | ⟨t, ⟨before, after, htokens, hbefore⟩, ht⟩)
        · cases hm
        · exact ⟨before, t, after, htokens, hbefore, ht⟩

theorem outcome_eq_tooLong_iff (hsource : TagDictionary.AllIntegers source)
    {e : Numeral.TooLong} :
    (compile arch source).outcome = .error (.tooLong e) ↔ ∃ t, Reaches arch t ∧ t.Overlong e := by
  rw [outcome_compile_eq_error_iff hsource]
  simp only [Token.refused_tooLong_iff]
  constructor
  · rintro (⟨m, _, he⟩ | hreached)
    · cases he
    · exact hreached
  · exact Or.inr

theorem outcome_eq_malformed_iff (hsource : TagDictionary.AllIntegers source) {m : Malformed} :
    (compile arch source).outcome = .error (.malformed m) ↔
      tokenize (expand arch) = .error m ∨ ∃ t, Reaches arch t ∧ t.Refused (.malformed m) := by
  rw [outcome_compile_eq_error_iff hsource]
  simp only [Failure.malformed.injEq, exists_eq_right']

theorem outcome_ne_count (hsource : TagDictionary.AllIntegers source) (e : RawCount.Error) :
    (compile arch source).outcome ≠ .error (.count e) := by
  intro h
  rcases (outcome_compile_eq_error_iff hsource).mp h with ⟨m, _, hm⟩ | ⟨t, _, ht⟩
  · cases hm
  · exact ht.not_count

/-! ## A numeral of zeros -/

/-- The keyword for words, with `n` zeros for its argument. -/
def wordsAtZeros (n : Nat) : Token :=
  let zeros := String.ofList (List.replicate n '0')
  ⟨"words(" ++ zeros ++ ")", "words", some zeros⟩

variable {n : Nat}

theorem ofDigits_zeros (n : Nat) : Numeral.ofDigits (List.replicate n '0') = 0 := by
  induction n with
  | zero => rfl
  | succ n ih => exact ih

theorem eq_zero_of_mem {c : Char} (h : c ∈ List.replicate n '0') : c = '0' :=
  List.eq_of_mem_replicate h

theorem not_mem_zeros {c : Char} (hc : c ≠ '0') : c ∉ List.replicate n '0' :=
  fun h => hc (eq_zero_of_mem h)

theorem trim_zeros (n : Nat) : trim (List.replicate n '0') = List.replicate n '0' :=
  trim_of_not_blank fun c hc => by
    rw [eq_zero_of_mem hc]
    rfl

theorem readArgument_zeros (hn : 0 < n) (token : String) :
    Token.readArgument token (List.replicate n '0') =
      if n ≤ Numeral.maxDigits then .ok 0 else .error (.tooLong ⟨n⟩) := by
  have hne : List.replicate n '0' ≠ [] := by simpa using Nat.ne_of_gt hn
  have hdigits : ∀ c ∈ List.replicate n '0', Numeral.isDigit c = true := by
    intro c hc
    rw [eq_zero_of_mem hc]
    rfl
  simp only [Token.readArgument, trim_zeros, Numeral.ofChars?_digits hne hdigits, Numeral.value,
    ofDigits_zeros, List.length_replicate]
  split <;> rfl

theorem wordsAtZeros_eq (n : Nat) :
    wordsAtZeros n = Keyword.words.token (String.ofList (join [','] [List.replicate n '0'])) := by
  rw [join_singleton]
  rfl

theorem integers_wordsAtZeros (hn : 0 < n) :
    (wordsAtZeros n).integers =
      if n ≤ Numeral.maxDigits then .ok [0] else .error (.tooLong ⟨n⟩) := by
  have hblank : trim (join [','] [List.replicate n '0']) ≠ [] := by
    rw [join_singleton, trim_zeros]
    simpa using Nat.ne_of_gt hn
  rw [wordsAtZeros_eq, Keyword.integers_token _ (List.cons_ne_nil _ _)
    (List.forall_mem_singleton.mpr (not_mem_zeros (by decide))) hblank]
  split
  · rename_i hle
    rw [mapM_cons_of_ok (by rw [readArgument_zeros hn, if_pos hle])]
    rfl
  · rename_i hgt
    rw [mapM_cons_of_error (by rw [readArgument_zeros hn, if_neg hgt])]

/-- Zeros are read as 0 up to the limit, and one more of them is a failure. -/
theorem outcome_compile_wordsAtZeros (source : RawDictionary) (hn : 0 < n) :
    (compile (wordsAtZeros n).text source).outcome =
      if n ≤ Numeral.maxDigits then .ok [.word 0] else .error (.tooLong ⟨n⟩) := by
  have hplain : ∀ c, c ≠ '0' →
      c ∉ (String.ofList (join [','] [List.replicate n '0'])).toList := by
    intro c hc
    rw [join_singleton, String.toList_ofList]
    exact not_mem_zeros hc
  have hintegers := integers_wordsAtZeros hn
  rw [wordsAtZeros_eq] at hintegers ⊢
  rw [Keyword.compile_token _ source (hplain '(' (by decide)) (hplain ')' (by decide)),
    Keyword.compiled, hintegers]
  by_cases hle : n ≤ Numeral.maxDigits
  · rw [if_pos hle, if_pos hle]
    rfl
  · rw [if_neg hle, if_neg hle]
    rfl

/-! ## The documented failures -/

/-- Compiling has ended with templates, or with the report that the architecture is malformed. -/
def Compilation.Documented (c : Compilation) : Prop :=
  (∃ templates, c.outcome = .ok templates) ∨ ∃ e, c.outcome = .error (.malformed e)

/-- Compiling ends as documented unless it reaches a numeral above the limit; that is the only other
failure, and has a report of its own. -/
theorem compile_documented_iff (arch : String) (hsource : TagDictionary.AllIntegers source) :
    ((compile arch source).Documented ↔ ∀ t e, Reaches arch t → ¬ t.Overlong e) ∧
    (∀ e, (compile arch source).outcome = .error (.tooLong e) ↔
      ∃ t, Reaches arch t ∧ t.Overlong e) ∧
    ∀ m, (compile arch source).outcome = .error (.malformed m) ↔
      tokenize (expand arch) = .error m ∨ ∃ t, Reaches arch t ∧ t.Refused (.malformed m) := by
  have hiff : ∀ e, (compile arch source).outcome = .error (.tooLong e) ↔
      ∃ t, Reaches arch t ∧ t.Overlong e := fun e => outcome_eq_tooLong_iff hsource
  refine ⟨?_, hiff, fun m => outcome_eq_malformed_iff hsource⟩
  constructor
  · rintro (⟨templates, hok⟩ | ⟨m, herror⟩) t e hreached hlong
    · rw [(hiff e).mpr ⟨t, hreached, hlong⟩] at hok
      cases hok
    · rw [(hiff e).mpr ⟨t, hreached, hlong⟩] at herror
      cases herror
  · intro hnone
    cases houtcome : (compile arch source).outcome with
    | ok templates => exact Or.inl ⟨templates, houtcome⟩
    | error e =>
        cases e with
        | malformed m => exact Or.inr ⟨m, houtcome⟩
        | tooLong e =>
            obtain ⟨t, hreached, hlong⟩ := (hiff e).mp houtcome
            exact absurd hlong (hnone t e hreached)
        | count c => exact absurd houtcome (outcome_ne_count hsource c)

/-- Compiling does not always end as documented: one zero above the limit is enough. -/
theorem not_forall_documented :
    ¬ ∀ (arch : String) (source : RawDictionary), TagDictionary.AllIntegers source →
      (compile arch source).Documented := by
  intro h
  have houtcome := outcome_compile_wordsAtZeros (n := 4301) [] (by decide)
  rw [if_neg (by decide)] at houtcome
  rcases h (wordsAtZeros 4301).text [] (List.forall_mem_nil _) with ⟨templates, hok⟩ | ⟨m, herror⟩
  · rw [houtcome] at hok
    cases hok
  · rw [houtcome] at herror
    cases herror

/-- A numeral above the limit, and an architecture that is malformed without one. -/
theorem compile_documented_iff_zeros :
    TagDictionary.AllIntegers participleCounts ∧
    (∃ t, Reaches (wordsAtZeros 4301).text t ∧ t.Overlong ⟨4301⟩) ∧
    ¬ (compile (wordsAtZeros 4301).text participleCounts).Documented ∧
    (∀ t e, Reaches "typo,vbn(0),order(1,-1)" t → ¬ t.Overlong e) := by
  have hsource : TagDictionary.AllIntegers participleCounts := by
    simp [TagDictionary.AllIntegers, participleCounts]
  have houtcome := outcome_compile_wordsAtZeros (n := 4301) participleCounts (by decide)
  rw [if_neg (by decide)] at houtcome
  obtain ⟨hdocumented, hoverlong, -⟩ := compile_documented_iff (wordsAtZeros 4301).text hsource
  obtain ⟨t, hreached, hlong⟩ := (hoverlong ⟨4301⟩).mp houtcome
  have hmalformed : (compile "typo,vbn(0),order(1,-1)" participleCounts).Documented :=
    Or.inr ⟨.negativeRightOrder (-1) "order(1,-1)", rfl⟩
  exact ⟨hsource, ⟨t, hreached, hlong⟩, fun h => hdocumented.mp h t _ hreached hlong,
    (compile_documented_iff _ hsource).1.mp hmalformed⟩

end Architecture
end TaggerFeatures

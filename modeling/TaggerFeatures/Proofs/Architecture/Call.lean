import TaggerFeatures.Proofs.Architecture.Tokenwise

/-!
A keyword with an argument text in parentheses, as an architecture of its own. It is one token, no
macro and nothing with a fixed meaning, so compiling it comes down to its arguments.
-/
namespace TaggerFeatures.Architecture
open Text

theorem ofName?_eq_none_of_mem {name : String} (h : '(' ∈ name.toList) :
    Macro.ofName? name = none := by
  rcases expandToken_cases name with ⟨m, _, rfl, _⟩ | ⟨hm, _⟩
  · exact absurd h (by cases m <;> decide)
  · exact hm

namespace Keyword

/-- The token of a keyword with an argument text. -/
def token (k : Keyword) (raw : String) : Token := ⟨k.name ++ "(" ++ raw ++ ")", k.name, some raw⟩

theorem isPlain_name (k : Keyword) : IsPlain k.name.toList := by
  cases k <;> decide

theorem head?_name (k : Keyword) : ∃ c, k.name.toList.head? = some c ∧ isBlank c = false := by
  cases k <;> exact ⟨_, rfl, rfl⟩

theorem trim_name (k : Keyword) : trim k.name.toList = k.name.toList := by
  cases k <;> rfl

theorem ofName?_name (k : Keyword) : ofName? k.name = some k := by
  cases k <;> rfl

variable (k : Keyword) {raw : String}

theorem toList_text (raw : String) :
    (k.token raw).text.toList = k.name.toList ++ '(' :: (raw.toList ++ [')']) := by
  simp [token]

theorem segment_token (hopen : '(' ∉ raw.toList) (hclose : ')' ∉ raw.toList) :
    Segment (k.token raw).text.toList (some (k.token raw)) := by
  have htrim : trim (k.token raw).text.toList = (k.token raw).text.toList := by
    obtain ⟨c, hc, hblank⟩ := k.head?_name
    rw [toList_text]
    apply trim_eq_self
    · rw [List.head?_append_of_ne_nil _ (by rintro h; rw [h] at hc; cases hc), hc]
      rintro d ⟨⟩
      exact hblank
    · rw [← List.cons_append, ← List.append_assoc, List.getLast?_concat]
      rintro d ⟨⟩
      decide
  have h := Segment.call (htrim.trans (k.toList_text raw)) k.isPlain_name hopen hclose
  rw [htrim, k.trim_name, String.ofList_toList, String.ofList_toList, String.ofList_toList] at h
  exact h

theorem meaning_token (hopen : '(' ∉ raw.toList) (hclose : ')' ∉ raw.toList) :
    (k.token raw).meaning = .keyword k := by
  have hkeyword : (k.token raw).keyword? = some k := k.ofName?_name
  rw [Token.meaning, (k.segment_token hopen hclose).fixedSet?_eq_none rfl, hkeyword]

theorem integers_token {parts : List (List Char)} (hne : parts ≠ [])
    (hcomma : ∀ p ∈ parts, ',' ∉ p) (hblank : trim (join [','] parts) ≠ []) :
    (k.token (String.ofList (join [','] parts))).integers =
      parts.mapM (Token.readArgument (k.token (String.ofList (join [','] parts))).text) := by
  have hempty : (trim (join [','] parts)).isEmpty = false := by simpa using hblank
  simp only [Token.integers, token, String.toList_ofList, hempty, splitWhen_join hne hcomma,
    Bool.false_eq_true, if_false]

/-- What the keyword stands for when its arguments are read. -/
def compiled (raw : String) (source : RawDictionary) : Except Failure (List Template) :=
  match (k.token raw).integers with
  | .error e => .error (.ofArgumentError e)
  | .ok arguments => k.templates (k.token raw).text arguments source

theorem tokenize_token (hopen : '(' ∉ raw.toList) (hclose : ')' ∉ raw.toList) :
    tokenize (expand (k.token raw).text) = .ok [k.token raw] := by
  have hseg := k.segment_token hopen hclose
  exact hseg.tokenize_expand (ofName?_eq_none_of_mem (hseg.mem_of_parenthesized rfl))

variable {k}

/-- An architecture of one keyword gives no warning. -/
theorem compile_of_keyword {arch : String} {t : Token} (h : tokenize (expand arch) = .ok [t])
    (hmeaning : t.meaning = .keyword k) (source : RawDictionary) :
    compile arch source = ⟨[], t.templates source⟩ := by
  rw [compile_of_tokenize source h]
  cases ht : t.templates source with
  | error e => exact compileTokens_singleton_of_error source ht
  | ok templates =>
      have hknown : ¬ t.Unknown := by
        rw [← Token.meaning_eq_unknown_iff, hmeaning]
        exact Token.Meaning.noConfusion
      rw [compileTokens_singleton_of_ok source ht, if_neg hknown]

variable (k)

theorem compile_token (source : RawDictionary) (hopen : '(' ∉ raw.toList)
    (hclose : ')' ∉ raw.toList) :
    compile (k.token raw).text source = ⟨[], k.compiled raw source⟩ := by
  have hmeaning := k.meaning_token hopen hclose
  rw [compile_of_keyword (k.tokenize_token hopen hclose) hmeaning]
  simp only [Token.templates, hmeaning]
  rfl

end Keyword
end TaggerFeatures.Architecture

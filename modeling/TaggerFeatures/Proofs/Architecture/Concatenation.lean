import TaggerFeatures.Architecture.Compile
import TaggerFeatures.Proofs.Architecture.Expansion

/-!
Architectures one after the other, with a comma between them. If each of them has tokens, compiling
them together is compiling the first and then the second: templates and warnings are put together in
this order, and a failure of either one is a failure of both.
-/
namespace TaggerFeatures.Architecture
open Text

/-! ## Tokens -/

variable {a b : String}

/-- A comma behind an architecture with its parentheses in order stands at depth 0. -/
theorem split_append_comma (ha : InOrder a) (b : String) :
    split (a ++ "," ++ b) = split a ++ split b := by
  obtain ⟨hcuts, hjoin⟩ := pieces_sound 0 a.toList
  obtain ⟨hcuts', hjoin'⟩ := pieces_sound 0 b.toList
  have hclosed : ∀ p ∈ pieces 0 a.toList, depthAfter? 0 p = some 0 :=
    fun p hp => depthAfter?_of_isPiece (inOrder_iff.mp ha p hp)
  have hlist : (a ++ "," ++ b).toList = join [','] (pieces 0 a.toList ++ pieces 0 b.toList) := by
    rw [join_append hcuts.ne_nil hcuts'.ne_nil, hjoin, hjoin']
    simp
  rw [split, splitChars, hlist, pieces_join (.append hclosed hcuts'), tidy_append, List.map_append]
  rfl

theorem inOrder_append_comma (ha : InOrder a) (hb : InOrder b) : InOrder (a ++ "," ++ b) := by
  unfold InOrder
  rw [split_append_comma ha]
  exact List.forall_mem_append.mpr ⟨ha, hb⟩

theorem tokenize_expand_append {ts us : List Token} (ha : tokenize (expand a) = .ok ts)
    (hb : tokenize (expand b) = .ok us) : tokenize (expand (a ++ "," ++ b)) = .ok (ts ++ us) := by
  obtain ⟨ha, hts⟩ := tokenize_eq_ok_iff.mp ha
  obtain ⟨hb, hus⟩ := tokenize_eq_ok_iff.mp hb
  rw [inOrder_expand_iff] at ha hb
  refine tokenize_eq_ok_iff.mpr ⟨inOrder_expand_iff.mpr (inOrder_append_comma ha hb), ?_⟩
  rw [split_expand] at hts hus ⊢
  rw [split_append_comma ha, List.flatMap_append]
  exact mapM_append_of_ok hts hus

/-! ## Compilations -/

namespace Compilation

/-- One compilation and then another one. A failure of the first ends the work. -/
def append (first second : Compilation) : Compilation :=
  match first.outcome with
  | .error _ => first
  | .ok templates => ⟨first.unknown ++ second.unknown, second.outcome.map (templates ++ ·)⟩

instance : Append Compilation := ⟨append⟩

variable {first second : Compilation} {templates templates' : List Template} {e : Failure}

theorem append_of_ok (h : first.outcome = .ok templates) (second : Compilation) :
    first ++ second = ⟨first.unknown ++ second.unknown, second.outcome.map (templates ++ ·)⟩ := by
  change first.append second = _
  rw [append, h]

theorem append_of_error (h : first.outcome = .error e) (second : Compilation) :
    first ++ second = first := by
  change first.append second = _
  rw [append, h]

theorem nil_append (c : Compilation) : ⟨[], .ok []⟩ ++ c = c := by
  rw [append_of_ok rfl]
  obtain ⟨unknown, outcome⟩ := c
  cases outcome <;> rfl

theorem append_assoc (first second third : Compilation) :
    first ++ second ++ third = first ++ (second ++ third) := by
  cases h : first.outcome with
  | error e => rw [append_of_error h, append_of_error h, append_of_error h]
  | ok templates =>
      rw [append_of_ok h, append_of_ok h]
      cases h' : second.outcome with
      | error e =>
          rw [append_of_error h', h']
          exact append_of_error rfl third
      | ok templates' =>
          rw [append_of_ok h', append_of_ok rfl, List.append_assoc]
          cases third.outcome with
          | error e => rfl
          | ok templates'' => simp only [Except.map, List.append_assoc]

theorem append_ok (h : first.outcome = .ok templates) (h' : second.outcome = .ok templates') :
    (first ++ second).outcome = .ok (templates ++ templates') ∧
      (first ++ second).warnings = first.warnings ++ second.warnings := by
  rw [append_of_ok h, warnings, warnings, warnings, List.map_append, h']
  exact ⟨rfl, rfl⟩

theorem exists_append_ok_iff :
    (∃ templates, (first ++ second).outcome = .ok templates) ↔
      (∃ templates, first.outcome = .ok templates) ∧
        ∃ templates, second.outcome = .ok templates := by
  cases h : first.outcome with
  | error e => simp [append_of_error h, h]
  | ok templates =>
      rw [append_of_ok h]
      cases second.outcome <;> simp [Except.map]

end Compilation

variable (source : RawDictionary)

theorem compileTokens_cons (t : Token) (rest : List Token) :
    compileTokens source (t :: rest) = compileTokens source [t] ++ compileTokens source rest := by
  simp only [compileTokens]
  cases t.templates source with
  | error e => exact (Compilation.append_of_error rfl _).symm
  | ok templates =>
      rw [Compilation.append_of_ok rfl]
      simp only [List.append_nil]
      split <;> rfl

theorem compileTokens_append (ts us : List Token) :
    compileTokens source (ts ++ us) = compileTokens source ts ++ compileTokens source us := by
  induction ts with
  | nil => exact (Compilation.nil_append _).symm
  | cons t rest ih =>
      rw [List.cons_append, compileTokens_cons, ih, ← Compilation.append_assoc,
        ← compileTokens_cons]

theorem compile_of_tokenize {arch : String} {tokens : List Token}
    (h : tokenize (expand arch) = .ok tokens) :
    compile arch source = compileTokens source tokens := by
  rw [compile, compileExpanded, h]

theorem compile_append {ts us : List Token} (ha : tokenize (expand a) = .ok ts)
    (hb : tokenize (expand b) = .ok us) :
    compile (a ++ "," ++ b) source = compile a source ++ compile b source := by
  rw [compile_of_tokenize source (tokenize_expand_append ha hb), compileTokens_append,
    compile_of_tokenize source ha, compile_of_tokenize source hb]

/-- Two architectures with a comma between them can be compiled just if both can, and give the
templates and the warnings of the first before those of the second. -/
theorem compile_concatenation
    (ha : ∃ tokens, tokenize (expand a) = .ok tokens)
    (hb : ∃ tokens, tokenize (expand b) = .ok tokens) :
    ((∃ templates, (compile (a ++ "," ++ b) source).outcome = .ok templates) ↔
      (∃ templates, (compile a source).outcome = .ok templates) ∧
        ∃ templates, (compile b source).outcome = .ok templates) ∧
    ∀ first second, (compile a source).outcome = .ok first →
      (compile b source).outcome = .ok second →
      (compile (a ++ "," ++ b) source).outcome = .ok (first ++ second) ∧
        (compile (a ++ "," ++ b) source).warnings =
          (compile a source).warnings ++ (compile b source).warnings := by
  obtain ⟨ts, hts⟩ := ha
  obtain ⟨us, hus⟩ := hb
  rw [compile_append source hts hus]
  exact ⟨Compilation.exists_append_ok_iff, fun first second => Compilation.append_ok⟩

/-- Blank and unknown tokens on both sides, a fixed list on one. -/
theorem compile_concatenation_german :
    (∃ tokens, tokenize (expand " order(1), frob(3),,") = .ok tokens) ∧
    (∃ tokens, tokenize (expand "German , typo") = .ok tokens) ∧
    (compile (" order(1), frob(3),," ++ "," ++ "German , typo") []).outcome =
      .ok ([.tag (-1)] ++ FixedSet.german.templates) ∧
    (compile (" order(1), frob(3),," ++ "," ++ "German , typo") []).warnings =
      [warning "frob(3)", warning "typo"] := by
  have ha : ∃ tokens, tokenize (expand " order(1), frob(3),,") = .ok tokens := ⟨_, rfl⟩
  have hb : ∃ tokens, tokenize (expand "German , typo") = .ok tokens := ⟨_, rfl⟩
  obtain ⟨ho, hw⟩ := (compile_concatenation [] ha hb).2 [.tag (-1)] FixedSet.german.templates
    rfl rfl
  have hwarnings : (compile " order(1), frob(3),," []).warnings ++
      (compile "German , typo" []).warnings = [warning "frob(3)", warning "typo"] := by
    decide +kernel
  exact ⟨ha, hb, ho, hw.trans hwarnings⟩

end TaggerFeatures.Architecture

import TaggerFeatures.FeatureSet
import TaggerFeatures.Proofs.Architecture.Tokenwise

/-!
One architecture compiled with two dictionaries. Failures, warnings and templates are the same, but
for the dictionary that a participle template holds; without such a template nothing differs.
-/
namespace TaggerFeatures

namespace Template

/-- The templates are equal, or they find participles with these two dictionaries and are equal
otherwise. Either way they declare the same and are printed alike. -/
structure EqualBut (d d' : TagDictionary) (t t' : Template) : Prop where
  fields : t = t' ∨ ∃ bound, t = .participle bound d ∧ t' = .participle bound d'
  leftContext : t.leftContext = t'.leftContext
  rightContext : t.rightContext = t'.rightContext
  isDynamic : t.isDynamic = t'.isDynamic
  isLocal : t.isLocal = t'.isLocal
  print : t.print = t'.print
  print? : t.print? = t'.print?

variable {d d' : TagDictionary}

theorem equalBut_self (t : Template) : EqualBut d d' t t :=
  ⟨Or.inl rfl, rfl, rfl, rfl, rfl, rfl, rfl⟩

theorem equalBut_participle (bound : Int) :
    EqualBut d d' (.participle bound d) (.participle bound d') :=
  ⟨Or.inr ⟨bound, rfl, rfl⟩, rfl, rfl, rfl, rfl, rfl, rfl⟩

end Template

namespace Architecture
open Template

variable {source source' : RawDictionary} {d d' : TagDictionary}

/-! ## Keywords and tokens -/

theorem Keyword.templates_congr {k : Keyword} (hk : k ≠ .participle) (text : String)
    (arguments : List Int) (source source' : RawDictionary) :
    k.templates text arguments source = k.templates text arguments source' := by
  cases k with
  | participle => exact absurd rfl hk
  | _ => rfl

/-- What two dictionaries give. -/
def Alike (d d' : TagDictionary) : Except Failure (List Template) →
    Except Failure (List Template) → Prop :=
  Matches (List.Forall₂ (EqualBut d d'))

theorem alike_self (outcome : Except Failure (List Template)) : Alike d d' outcome outcome := by
  cases outcome with
  | error e => exact .error e
  | ok templates => exact .ok (List.forall₂_same.mpr fun t _ => equalBut_self t)

theorem Keyword.alike_templates (k : Keyword) (hd : TagDictionary.ofRaw source = .ok d)
    (hd' : TagDictionary.ofRaw source' = .ok d') (text : String) (arguments : List Int) :
    Alike d d' (k.templates text arguments source) (k.templates text arguments source') := by
  by_cases hk : k = .participle
  · subst hk
    simp only [templates, hd, hd']
    exact .ok (.cons (equalBut_participle _) .nil)
  · rw [k.templates_congr hk text arguments source source']
    exact alike_self _

namespace Token

/-- The token is the keyword of participles with parentheses. -/
def CallsParticiple (t : Token) : Prop :=
  t.parenthesized = true ∧ t.name = Keyword.participle.name

theorem callsParticiple_of_meaning {t : Token} (h : t.meaning = .keyword .participle) :
    t.CallsParticiple := by
  have hkeyword : t.keyword? = some .participle := by
    unfold meaning at h
    split at h
    · cases h
    · split at h
      · rename_i k hk
        cases h
        exact hk
      · split at h <;> cases h
  unfold keyword? at hkeyword
  split at hkeyword
  · rename_i hp
    rw [Keyword.ofName?] at hkeyword
    have hname := List.find?_some hkeyword
    exact ⟨hp, (beq_iff_eq.mp hname).symm⟩
  · cases hkeyword

theorem templates_congr {t : Token} (ht : ¬ t.CallsParticiple) (source source' : RawDictionary) :
    t.templates source = t.templates source' := by
  unfold templates
  split
  · rfl
  · rename_i k hk
    split
    · rfl
    · refine Keyword.templates_congr ?_ _ _ source source'
      rintro rfl
      exact ht (callsParticiple_of_meaning hk)
  · rfl
  · rfl

theorem alike_templates (t : Token) (hd : TagDictionary.ofRaw source = .ok d)
    (hd' : TagDictionary.ofRaw source' = .ok d') :
    Alike d d' (t.templates source) (t.templates source') := by
  unfold templates
  split
  · exact alike_self _
  · split
    · exact alike_self _
    · exact Keyword.alike_templates _ hd hd' _ _
  · exact alike_self _
  · exact alike_self _

end Token

/-! ## Architectures -/

theorem compileTokens_congr {tokens : List Token}
    (h : ∀ t ∈ tokens, t.templates source = t.templates source') :
    compileTokens source tokens = compileTokens source' tokens := by
  induction tokens with
  | nil => rfl
  | cons t rest ih =>
      obtain ⟨ht, hrest⟩ := List.forall_mem_cons.mp h
      simp only [compileTokens, ht, ih hrest]

/-- Up to the first failure each token gives the same warning and templates that belong together. -/
theorem alike_compileTokens (hd : TagDictionary.ofRaw source = .ok d)
    (hd' : TagDictionary.ofRaw source' = .ok d') (tokens : List Token) :
    (compileTokens source tokens).unknown = (compileTokens source' tokens).unknown ∧
      Alike d d' (compileTokens source tokens).outcome (compileTokens source' tokens).outcome := by
  induction tokens with
  | nil => exact ⟨rfl, alike_self _⟩
  | cons t rest ih =>
      obtain ⟨hunknown, houtcome⟩ := ih
      have ht := t.alike_templates hd hd'
      simp only [compileTokens]
      generalize t.templates source = r at ht ⊢
      generalize t.templates source' = r' at ht ⊢
      cases ht with
      | error e => exact ⟨rfl, .error e⟩
      | ok htemplates =>
          refine ⟨?_, ?_⟩
          · simp only [hunknown]
          · exact houtcome.map fun _ _ h => List.rel_append htemplates h

theorem compile_eq_of_templates {arch : String}
    (h : ∀ tokens, tokenize (expand arch) = .ok tokens →
      ∀ t ∈ tokens, t.templates source = t.templates source') :
    compile arch source = compile arch source' := by
  cases htokens : tokenize (expand arch) with
  | error e => rw [compile_of_malformed source htokens, compile_of_malformed source' htokens]
  | ok tokens =>
      rw [compile_of_tokenize source htokens, compile_of_tokenize source' htokens]
      exact compileTokens_congr (h tokens htokens)

theorem compile_congr {arch : String}
    (h : ∀ tokens, tokenize (expand arch) = .ok tokens → ∀ t ∈ tokens, ¬ t.CallsParticiple)
    (source source' : RawDictionary) : compile arch source = compile arch source' :=
  compile_eq_of_templates fun tokens htokens t ht =>
    Token.templates_congr (h tokens htokens t ht) source source'

theorem alike_compile (arch : String) (hd : TagDictionary.ofRaw source = .ok d)
    (hd' : TagDictionary.ofRaw source' = .ok d') :
    (compile arch source).unknown = (compile arch source').unknown ∧
      Alike d d' (compile arch source).outcome (compile arch source').outcome := by
  cases htokens : tokenize (expand arch) with
  | error e =>
      rw [compile_of_malformed source htokens, compile_of_malformed source' htokens]
      exact ⟨rfl, alike_self _⟩
  | ok tokens =>
      rw [compile_of_tokenize source htokens, compile_of_tokenize source' htokens]
      exact alike_compileTokens hd hd' tokens

/-- Only participles consult the dictionary. With any two dictionaries an architecture fails alike,
or it has the same templates, but for the dictionaries of those that find participles; the warnings
are the same in any case. Where no token calls for participles, nothing differs at all. -/
theorem dictionary_for_participles_only (arch : String)
    (hc : TagDictionary.Counted source) (hc' : TagDictionary.Counted source') :
    ∃ d d', TagDictionary.ofRaw source = .ok d ∧ TagDictionary.ofRaw source' = .ok d' ∧
      (compile arch source).warnings = (compile arch source').warnings ∧
      ((∃ e, (compile arch source).outcome = .error e ∧ (compile arch source').outcome = .error e) ∨
        ∃ templates templates', (compile arch source).outcome = .ok templates ∧
          (compile arch source').outcome = .ok templates' ∧
          List.Forall₂ (EqualBut d d') templates templates') ∧
      ((∀ tokens, tokenize (expand arch) = .ok tokens → ∀ t ∈ tokens, ¬ t.CallsParticiple) →
        compile arch source = compile arch source' ∧
        ∀ templates templates', (compile arch source).outcome = .ok templates →
          (compile arch source').outcome = .ok templates' →
          templates = templates' ∧ ∀ c h,
            (FeatureSet.mk templates).keys c h = (FeatureSet.mk templates').keys c h) := by
  obtain ⟨d, hd⟩ := TagDictionary.exists_ofRaw_iff.mpr hc
  obtain ⟨d', hd'⟩ := TagDictionary.exists_ofRaw_iff.mpr hc'
  obtain ⟨hunknown, houtcome⟩ := alike_compile arch hd hd'
  refine ⟨d, d', hd, hd', congrArg (List.map warning) hunknown, ?_, ?_⟩
  · generalize (compile arch source).outcome = r at houtcome ⊢
    generalize (compile arch source').outcome = r' at houtcome ⊢
    cases houtcome with
    | error e => exact Or.inl ⟨e, rfl, rfl⟩
    | ok h => exact Or.inr ⟨_, _, rfl, rfl, h⟩
  · intro hno
    have hsame := compile_congr hno source source'
    refine ⟨hsame, fun templates templates' h h' => ?_⟩
    rw [hsame, h', Except.ok.injEq] at h
    exact ⟨h.symm, fun _ _ => by rw [h]⟩

/-- How often the dictionary of a template has "broken" as a participle. -/
def brokenCount : Template → Int
  | .participle _ dictionary => dictionary.count "broken" "VBN"
  | _ => 0

/-- With counts and without any. One architecture calls for participles, and one does not. -/
theorem dictionary_for_participles_only_participleCounts :
    TagDictionary.Counted participleCounts ∧ TagDictionary.Counted [] ∧
      (compile "typo,vbn(2),words(0)" participleCounts).outcome ≠
        (compile "typo,vbn(2),words(0)" []).outcome ∧
      (compile "typo,vbn(2),words(0)" participleCounts).warnings =
        (compile "typo,vbn(2),words(0)" []).warnings ∧
      (compile "typo,order(2),order(0,-1)" participleCounts).outcome =
        (compile "typo,order(2),order(0,-1)" []).outcome := by
  have hintegers : TagDictionary.AllIntegers participleCounts := by
    simp [TagDictionary.AllIntegers, participleCounts]
  have hc : TagDictionary.Counted participleCounts := hintegers.counted
  have hc' : TagDictionary.Counted [] := fun _ h => absurd h List.not_mem_nil
  obtain ⟨_, _, -, -, hwarnings, -⟩ :=
    dictionary_for_participles_only "typo,vbn(2),words(0)" hc hc'
  obtain ⟨_, _, -, -, -, -, hsame⟩ :=
    dictionary_for_participles_only "typo,order(2),order(0,-1)" hc hc'
  have htokens : tokenize (expand "typo,order(2),order(0,-1)") =
      .ok [⟨"typo", "typo", none⟩, ⟨"order(2)", "order", some "2"⟩,
        ⟨"order(0,-1)", "order", some "0,-1"⟩] := by decide +kernel
  have hno : ∀ tokens, tokenize (expand "typo,order(2),order(0,-1)") = .ok tokens →
      ∀ t ∈ tokens, ¬ t.CallsParticiple := by
    intro tokens h
    rw [htokens] at h
    cases h
    simp [Token.CallsParticiple, Keyword.name]
  have hbroken :
      (compile "typo,vbn(2),words(0)" participleCounts).outcome.map (List.map brokenCount) ≠
        (compile "typo,vbn(2),words(0)" []).outcome.map (List.map brokenCount) := by decide +kernel
  exact ⟨hc, hc', fun houtcome => hbroken (by rw [houtcome]), hwarnings,
    congrArg Compilation.outcome (hsame hno).1⟩

end Architecture
end TaggerFeatures

import TaggerFeatures.Proofs.Architecture.Limit
import TaggerFeatures.Proofs.Template.Dependence

/-!
What architectures can be compiled to. Of all templates only some come from an architecture, with
offsets in order, shapers that suit them and the dictionary that was given; those declared dynamic
are just those whose keys depend on tags.
-/
namespace TaggerFeatures

namespace Template

/-- What holds of a template that comes from an architecture. -/
def Emittable (source : RawDictionary) : Template → Prop
  | capitalizedWord => False
  | twoWordsTag _ _ => False
  | twoWords words => words.low ≤ words.high
  | twoTags tags => tags.low ≤ tags.high
  | threeTags tags => tags.low ≤ tags.middle ∧ tags.middle ≤ tags.high
  | wordTwoTags _ tags => tags.low ≤ tags.high
  | tagWindow farthest => 2 ≤ farthest.natAbs ∧ 2 ≤ (windowOffsets farthest).length
  | wordShape _ shaper => shaper = .chris2 ∨ shaper = .chris4
  | shapeConjunction _ _ shaper => shaper = .chris4
  | participle _ dictionary => dictionary.Holds source
  | word _ | lowercaseWord _ | tag _ | wordTag _ _ => True

variable {source : RawDictionary} {t : Template}

theorem length_windowOffsets (farthest : Int) :
    (windowOffsets farthest).length = farthest.natAbs :=
  Offsets.length_run _ _ _

theorem emittable_tagWindow {farthest : Int} (h : 2 ≤ farthest.natAbs) :
    (tagWindow farthest).Emittable source :=
  ⟨h, by rwa [length_windowOffsets]⟩

theorem Emittable.ne_tagWindow_zero (h : t.Emittable source) : t ≠ .tagWindow 0 := by
  rintro rfl
  exact absurd h.1 (by decide)

theorem Emittable.registered (h : t.Emittable source) : t.Registered := by
  cases t with
  | wordShape _ _ =>
      rcases h with rfl | rfl
      · exact List.mem_cons_self
      · exact List.mem_cons_of_mem _ List.mem_cons_self
  | shapeConjunction _ _ _ =>
      obtain rfl := h
      exact List.mem_cons_of_mem _ List.mem_cons_self
  | _ => trivial

end Template

namespace Architecture

variable {source : RawDictionary} {arch : String} {t : Template} {templates : List Template}

/-! ## Keywords and fixed lists -/

theorem FixedSet.emittable (set : FixedSet) : ∀ t ∈ set.templates, t.Emittable source := by
  cases set <;>
    simp [templates, Template.Emittable, OffsetPair.low_le_high, Template.length_windowOffsets]

theorem Keyword.emittable_of_rung {offset : Int} (h : rung offset = some t) :
    t.Emittable source := by
  unfold rung at h
  split at h
  · cases h
  · split at h
    · cases h
      trivial
    · cases h
      exact Template.emittable_tagWindow (by omega)

theorem Keyword.emittable (k : Keyword) {token : String} {arguments : List Int}
    (h : k.templates token arguments source = .ok templates) :
    ∀ t ∈ templates, t.Emittable source := by
  intro t ht
  cases k with
  | words | tags | lowercaseWords | wordShapes | unicodeShapes =>
      cases h
      obtain ⟨offset, _, rfl⟩ := List.mem_map.mp ht
      simp [Template.Emittable]
  | biwords =>
      cases h
      obtain ⟨offset, _, rfl⟩ := List.mem_map.mp ht
      exact OffsetPair.low_le_high _
  | biword | twoTags | wordTwoTags =>
      cases h
      cases List.mem_singleton.mp ht
      exact OffsetPair.low_le_high _
  | threeTags =>
      cases h
      cases List.mem_singleton.mp ht
      exact ⟨OffsetTriple.low_le_middle _, OffsetTriple.middle_le_high _⟩
  | wordTag =>
      cases h
      cases List.mem_singleton.mp ht
      trivial
  | unicodeShapeConjunction =>
      cases h
      cases List.mem_singleton.mp ht
      rfl
  | order =>
      simp only [Keyword.templates] at h
      split at h
      · cases h
      · cases h
        obtain ⟨offset, _, hrung⟩ := List.mem_filterMap.mp ht
        exact emittable_of_rung hrung
  | participle =>
      simp only [Keyword.templates] at h
      split at h
      · rename_i d hd
        cases h
        cases List.mem_singleton.mp ht
        exact TagDictionary.holds_ofRaw hd
      · cases h

/-! ## Architectures -/

theorem Token.emittable {token : Token} (h : token.templates source = .ok templates) :
    ∀ t ∈ templates, t.Emittable source := by
  unfold Token.templates at h
  split at h
  · cases h
    exact FixedSet.emittable _
  · split at h
    · cases h
    · exact Keyword.emittable _ h
  · cases h
    exact List.forall_mem_nil _
  · cases h
    exact List.forall_mem_nil _

/-- Each template comes from one of the tokens. -/
theorem exists_token_of_mem (h : (compile arch source).outcome = .ok templates)
    (ht : t ∈ templates) :
    ∃ (token : Token) (own : List Template), token.templates source = .ok own ∧ t ∈ own := by
  cases htokens : tokenize (expand arch) with
  | error e =>
      rw [compile_of_malformed source htokens] at h
      cases h
  | ok tokens =>
      rw [compile_of_tokenize source htokens, outcome_compileTokens] at h
      obtain ⟨lists, hlists, rfl⟩ := exists_of_map_ok h
      obtain ⟨own, hown, ht⟩ := List.mem_flatten.mp ht
      obtain ⟨token, _, htoken⟩ := exists_of_mem_of_mapM_ok hlists hown
      exact ⟨token, own, htoken, ht⟩

/-- Whatever an architecture and a dictionary are compiled to, each template is of an emittable kind
and in its normal form, and it is declared dynamic just if its keys depend on tags. -/
theorem compiled_templates_emittable (h : (compile arch source).outcome = .ok templates) :
    ∀ t ∈ templates, t.Emittable source ∧ (t.isDynamic = true ↔ t.DependsOnTags) := by
  intro t ht
  obtain ⟨token, own, hown, hmem⟩ := exists_token_of_mem h ht
  have hemittable := Token.emittable hown t hmem
  exact ⟨hemittable, Template.isDynamic_iff_dependsOnTags hemittable.ne_tagWindow_zero⟩

/-- Counts of several kinds, and a word that is given twice. -/
def mixedCounts : RawDictionary :=
  [("run", []), ("broken", [("VBN", .text " +2_0"), ("JJ", .boolean true)]),
    ("run", [("VB", .integer 7)])]

def mixedDictionary : TagDictionary :=
  .ofEntries [("broken", [("JJ", 1), ("VBN", 20)]), ("run", [("VB", 7)])]

theorem compiled_templates_emittable_mixedCounts :
    (compile "order(3),vbn(2)" mixedCounts).outcome =
      .ok [.tagWindow (-3), .tagWindow (-2), .tag (-1), .participle 2 mixedDictionary] ∧
    mixedDictionary.Holds mixedCounts ∧ (Template.tagWindow (-3)).DependsOnTags ∧
    ¬ (Template.participle 2 mixedDictionary).DependsOnTags := by
  have h : (compile "order(3),vbn(2)" mixedCounts).outcome =
      .ok [.tagWindow (-3), .tagWindow (-2), .tag (-1), .participle 2 mixedDictionary] := rfl
  have hwindow := compiled_templates_emittable h (.tagWindow (-3)) (by simp)
  have hparticiple := compiled_templates_emittable h (.participle 2 mixedDictionary) (by simp)
  exact ⟨h, hparticiple.1, hwindow.2.mp rfl, fun hd => absurd (hparticiple.2.mpr hd) (by decide)⟩

end Architecture
end TaggerFeatures

import TaggerFeatures.Proofs.Template.Key
import TaggerFeatures.Proofs.Text.Cut

/-!
Keys that join what is read around the cursor. Their parts stand between marks, so that the key
tells every part as long as at most one of them holds the mark itself.
-/
namespace TaggerFeatures

/-! ## Fields -/

/-- What a template reads at one offset from the cursor. -/
inductive Field
  | word (offset : Int)
  | tag (offset : Int)
  | shape (offset : Int) (shaper : Shaper)

def Field.read (c : Corpus) (h : Cursor) : Field → Except Corpus.Error String
  | word offset => c.wordAt h offset
  | tag offset => c.tagAt h offset
  | shape offset shaper => (c.wordAt h offset).map shaper.shape

namespace Template

/-- The fields that a key is joined of, in its order. The other templates keep less in the key than
they read. -/
def fields? : Template → Option (List Field)
  | word offset => some [.word offset]
  | tag offset => some [.tag offset]
  | wordTag i j => some [.tag j, .word i]
  | twoWords words => some [.word words.high, .word words.low]
  | twoTags tags => some [.tag tags.low, .tag tags.high]
  | twoWordsTag words j => some [.word words.low, .tag j, .word words.high]
  | threeTags tags => some [.tag tags.low, .tag tags.middle, .tag tags.high]
  | wordTwoTags i tags => some [.tag tags.low, .word i, .tag tags.high]
  | tagWindow farthest => some ((windowOffsets farthest).map .tag)
  | shapeConjunction first last shaper =>
    some ((Offsets.upTo first last).map fun o => .shape o shaper)
  | lowercaseWord _ | capitalizedWord | wordShape _ _ | participle _ _ => none

/-- What stands between the parts of a key. -/
def mark : Template → Char
  | shapeConjunction _ _ _ => '|'
  | _ => '!'

/-- Whether a field has to be free of the mark: each tag and shape, and words where two are read. -/
def Guards (t : Template) : Field → Prop
  | .tag _ | .shape _ _ => True
  | .word _ =>
    match t with
    | twoWords _ | twoWordsTag _ _ => True
    | _ => False

/-- No guarded field has the mark in it, where it can be read. -/
def Unmarked (t : Template) (fields : List Field) (c : Corpus) (h : Cursor) : Prop :=
  ∀ f ∈ fields, t.Guards f → ∀ value, f.read c h = .ok value → t.mark ∉ value.toList

variable {t : Template} {fields : List Field} {c d : Corpus} {h h' : Cursor}

/-- The key is the join of the fields, and the first field that cannot be read is its error. -/
theorem key_eq_join (ht : t.fields? = some fields) (c : Corpus) (h : Cursor) :
    t.key c h = (fields.mapM (Field.read c h)).map (Text.joinWith (String.ofList [t.mark])) := by
  change _ = Text.joinWith _ <$> fields.mapM (Field.read c h)
  cases t with
  | lowercaseWord _ | capitalizedWord | wordShape _ _ | participle _ _ => cases ht
  | word _ | tag _ =>
      cases ht
      simp only [List.mapM_cons, List.mapM_nil, pure_bind, map_bind, map_pure]
      exact (bind_pure _).symm
  | wordTag _ _ | twoWords _ | twoTags _ | twoWordsTag _ _ | threeTags _ | wordTwoTags _ _ =>
      cases ht
      simp only [List.mapM_cons, List.mapM_nil, pure_bind, bind_assoc, map_bind, map_pure]
      rfl
  | tagWindow farthest =>
      cases ht
      simp only [key, Offsets.readRun_eq_mapM, List.mapM_map, map_eq_pure_bind]
      rfl
  | shapeConjunction first last shaper =>
      cases ht
      have hshapes : List.map shaper.shape <$> (Offsets.upTo first last).mapM (c.wordAt h) =
          (Offsets.upTo first last).mapM (Field.read c h ∘ fun o => .shape o shaper) :=
        mapM_map_ok shaper.shape _
      simp only [key, Offsets.readRun_eq_mapM, List.mapM_map, ← hshapes, map_eq_pure_bind,
        bind_assoc]
      rfl

/-- All fields but at most one are guarded. -/
theorem guards_around (ht : t.fields? = some fields) :
    fields = [] ∨ ∃ before free after, fields = before ++ free :: after ∧
      (∀ f ∈ before, t.Guards f) ∧ ∀ f ∈ after, t.Guards f := by
  cases t with
  | lowercaseWord _ | capitalizedWord | wordShape _ _ | participle _ _ => cases ht
  | word _ | tag _ | twoWords _ | twoTags _ | twoWordsTag _ _ | threeTags _ =>
      cases ht
      exact Or.inr ⟨[], _, _, rfl, by simp, by simp [Guards]⟩
  | wordTag i j | wordTwoTags i tags =>
      cases ht
      exact Or.inr ⟨[_], _, _, rfl, by simp [Guards], by simp [Guards]⟩
  | tagWindow farthest =>
      cases ht
      cases windowOffsets farthest with
      | nil => exact Or.inl rfl
      | cons o rest => exact Or.inr ⟨[], _, _, rfl, by simp, by simp [Guards]⟩
  | shapeConjunction first last shaper =>
      cases ht
      cases Offsets.upTo first last with
      | nil => exact Or.inl rfl
      | cons o rest => exact Or.inr ⟨[], _, _, rfl, by simp, by simp [Guards]⟩

/-! ## Values -/

theorem Unmarked.mono {part : List Field} (hm : t.Unmarked fields c h) (hs : part ⊆ fields) :
    t.Unmarked part c h :=
  fun f hf => hm f (hs hf)

/-- The guarded fields give values without the mark. -/
theorem not_mem_value {values : List String} (hm : t.Unmarked fields c h)
    (hg : ∀ f ∈ fields, t.Guards f) (hv : fields.mapM (Field.read c h) = .ok values) :
    ∀ p ∈ values.map String.toList, t.mark ∉ p := by
  intro p hp
  obtain ⟨value, hvalue, rfl⟩ := List.mem_map.mp hp
  obtain ⟨f, hf, hread⟩ := exists_of_mem_of_mapM_ok hv hvalue
  exact hm f hf (hg f hf) value hread

theorem values_eq_of_join_eq {values values' : List String} (ht : t.fields? = some fields)
    (hm : t.Unmarked fields c h) (hm' : t.Unmarked fields d h')
    (hv : fields.mapM (Field.read c h) = .ok values)
    (hv' : fields.mapM (Field.read d h') = .ok values')
    (hjoin : Text.joinWith (String.ofList [t.mark]) values =
      Text.joinWith (String.ofList [t.mark]) values') : values = values' := by
  rcases guards_around ht with rfl | ⟨before, free, after, rfl, hbefore, hafter⟩
  · cases hv
    cases hv'
    rfl
  · -- Both lists of values are cut at the free field, which has as many fields before it and behind
    -- it at both points, whatever marks its own value holds.
    obtain ⟨front, rest, hfront, hrest, rfl⟩ := exists_of_mapM_append_ok hv
    obtain ⟨x, back, _, hback, rfl⟩ := exists_of_mapM_cons_ok hrest
    obtain ⟨front', rest', hfront', hrest', rfl⟩ := exists_of_mapM_append_ok hv'
    obtain ⟨x', back', _, hback', rfl⟩ := exists_of_mapM_cons_ok hrest'
    have hlists := congrArg String.toList hjoin
    simp only [Text.toList_joinWith, String.toList_ofList, List.map_append, List.map_cons] at hlists
    have hleft : before ⊆ before ++ free :: after := List.subset_append_left _ _
    have hright : after ⊆ before ++ free :: after := by simp
    have hvalues := Text.join_inj (not_mem_value (hm.mono hleft) hbefore hfront)
      (not_mem_value (hm'.mono hleft) hbefore hfront')
      (not_mem_value (hm.mono hright) hafter hback)
      (not_mem_value (hm'.mono hright) hafter hback')
      (by simp [length_of_mapM_ok hfront, length_of_mapM_ok hfront'])
      (by simp [length_of_mapM_ok hback, length_of_mapM_ok hback']) hlists
    rw [← List.map_cons, ← List.map_append, ← List.map_cons, ← List.map_append] at hvalues
    exact List.map_injective_iff.mpr (fun _ _ => String.toList_inj.mp) hvalues

/-- Keys do not collide: for each template that joins its fields, two points have the same key just
if each field has the same value there. -/
theorem key_eq_iff_fields_agree {k k' : String} (ht : t.fields? = some fields)
    (hk : t.key c h = .ok k) (hk' : t.key d h' = .ok k') (hm : t.Unmarked fields c h)
    (hm' : t.Unmarked fields d h') :
    k = k' ↔ ∀ f ∈ fields, ∃ value, f.read c h = .ok value ∧ f.read d h' = .ok value := by
  rw [key_eq_join ht] at hk hk'
  obtain ⟨values, hv, rfl⟩ := exists_of_map_ok hk
  obtain ⟨values', hv', rfl⟩ := exists_of_map_ok hk'
  rw [← results_eq_iff hv hv']
  exact ⟨values_eq_of_join_eq ht hm hm' hv hv', congrArg _⟩

/-- One word with the mark in it, in two sentences. -/
def markedWord : Corpus :=
  Corpus.empty.run [.add ["the", "x!y", "runs"] (some [some "DT", some "NN", some "VBZ"]),
    .add ["so", "a", "x!y", "is"] (some [none, some "DT", some "FW", some "VBZ"])]

theorem key_eq_iff_fields_agree_markedWord :
    (wordTwoTags 0 (.of 1 (-1))).key markedWord ⟨0, 1⟩ = .ok "DT!x!y!VBZ" ∧
      (wordTwoTags 0 (.of 1 (-1))).key markedWord ⟨1, 2⟩ = .ok "DT!x!y!VBZ" ∧
      ∀ f ∈ [Field.tag (-1), .word 0, .tag 1], ∃ value,
        f.read markedWord ⟨0, 1⟩ = .ok value ∧ f.read markedWord ⟨1, 2⟩ = .ok value := by
  have hfields : (wordTwoTags 0 (.of 1 (-1))).fields? = some [.tag (-1), .word 0, .tag 1] := rfl
  have hk : (wordTwoTags 0 (.of 1 (-1))).key markedWord ⟨0, 1⟩ = .ok "DT!x!y!VBZ" := rfl
  have hk' : (wordTwoTags 0 (.of 1 (-1))).key markedWord ⟨1, 2⟩ = .ok "DT!x!y!VBZ" := rfl
  have hm : ∀ h ∈ [(⟨0, 1⟩ : Cursor), ⟨1, 2⟩],
      (wordTwoTags 0 (.of 1 (-1))).Unmarked [.tag (-1), .word 0, .tag 1] markedWord h := by
    intro h hh f hf hg value hv
    simp only [List.mem_cons, List.not_mem_nil, or_false] at hh hf
    rcases hf with rfl | rfl | rfl
    · rcases hh with rfl | rfl <;> cases hv <;> decide
    · exact hg.elim
    · rcases hh with rfl | rfl <;> cases hv <;> decide
  have hagree := key_eq_iff_fields_agree hfields hk hk' (hm _ (by simp)) (hm _ (by simp))
  exact ⟨hk, hk', hagree.mp rfl⟩

end Template
end TaggerFeatures

import TaggerFeatures.Template
import TaggerFeatures.Proofs.Corpus.Shape
import TaggerFeatures.Proofs.Template.Offsets

/-!
The key of a template, taken apart: the tags that it reads, in order, and the text it makes of them
and of the words around the cursor.
-/
namespace TaggerFeatures

/-! ## Words around the cursor -/

section
variable {c : Corpus} {h : Cursor} {word : Int → String}

/-- Whether an auxiliary is found at `offset` or at most `steps` − 1 words before it. -/
def Participle.found (word : Int → String) : (steps : Nat) → (offset : Int) → Bool
  | 0, _ => false
  | steps + 1, offset =>
    if word offset = boundary || isStopper (word offset) then false
    else if isAuxiliary (word offset) then true
    else found word steps (offset - 1)

theorem Participle.lookBack_eq (hw : ∀ o, c.wordAt h o = .ok (word o)) (steps : Nat) (offset : Int) :
    lookBack c h steps offset = .ok (found word steps offset) := by
  induction steps generalizing offset with
  | zero => rfl
  | succ steps ih =>
      rw [lookBack, hw, found]
      simp only
      split
      · rfl
      · split
        · rfl
        · exact ih (offset - 1)

theorem Participle.governed_eq (hw : ∀ o, c.wordAt h o = .ok (word o)) (bound : Int)
    (d : TagDictionary) :
    governed bound d c h = .ok (mayBe d (word 0) && found word bound.toNat (-1)) := by
  simp only [governed, hw, bind, Except.bind]
  split
  · rename_i hm
    rw [lookBack_eq hw, hm, Bool.true_and]
  · rename_i hm
    simp only [hm, Bool.false_and]

end

namespace Template

/-- The shaper of the template, if it has one, is known by its name. -/
def Registered : Template → Prop
  | wordShape _ shaper => shaper ∈ Shaper.all
  | shapeConjunction _ _ shaper => shaper ∈ Shaper.all
  | _ => True

/-! ## Tags and text -/

/-- The offsets at which a template reads tags, in order. -/
def tagOffsets : Template → List Int
  | tag offset => [offset]
  | wordTag _ offset => [offset]
  | twoTags tags => [tags.low, tags.high]
  | twoWordsTag _ offset => [offset]
  | threeTags tags => [tags.low, tags.middle, tags.high]
  | wordTwoTags _ tags => [tags.low, tags.high]
  | tagWindow farthest => windowOffsets farthest
  | _ => []

/-- The key that a template makes of the words around the cursor and of the tags that it reads. -/
def text (t : Template) (word : Int → String) (tags : List String) : String :=
  match t with
  | .word offset => word offset
  | lowercaseWord offset => String.ofList (Unicode.lowercase (word offset).toList)
  | capitalizedWord => if Unicode.lowercase (word 0).toList = (word 0).toList then "0" else word 0
  | wordTag i _ => Text.joinWith separator (tags ++ [word i])
  | twoWords words => Text.joinWith separator [word words.high, word words.low]
  | twoWordsTag words _ => Text.joinWith separator (word words.low :: tags ++ [word words.high])
  | wordTwoTags i _ => Text.joinWith separator (tags.take 1 ++ word i :: tags.drop 1)
  | tag _ | twoTags _ | threeTags _ | tagWindow _ => Text.joinWith separator tags
  | wordShape offset shaper => shaper.shape (word offset)
  | shapeConjunction first last shaper =>
    Text.joinWith shapeSeparator ((Offsets.upTo first last).map fun o => shaper.shape (word o))
  | participle bound dictionary =>
    if Participle.mayBe dictionary (word 0) && Participle.found word bound.toNat (-1) then "1"
    else "0"

variable {c : Corpus} {h : Cursor} {word : Int → String}

/-- Where the words around the cursor are known, the key is read off the tags. -/
theorem key_eq (t : Template) (hw : ∀ o, c.wordAt h o = .ok (word o)) :
    t.key c h = (t.tagOffsets.mapM (c.tagAt h)).map (t.text word) := by
  cases t with
  | word offset => exact hw offset
  | lowercaseWord offset => simp only [key, hw]; rfl
  | capitalizedWord => simp only [key, hw]; rfl
  | twoWords words => simp only [key, hw]; rfl
  | wordShape offset shaper => simp only [key, hw]; rfl
  | participle bound dictionary => simp only [key, Participle.governed_eq hw]; rfl
  | shapeConjunction first last shaper =>
      simp only [key, Offsets.readRun_eq_mapM, mapM_eq_ok_map fun o _ => hw o, bind, Except.bind,
        List.map_map]
      rfl
  | tag offset =>
      simp only [key, tagOffsets, List.mapM_cons, List.mapM_nil]
      cases c.tagAt h offset <;> rfl
  | wordTag i offset =>
      simp only [key, hw, tagOffsets, List.mapM_cons, List.mapM_nil]
      cases c.tagAt h offset <;> rfl
  | twoWordsTag words offset =>
      simp only [key, hw, tagOffsets, List.mapM_cons, List.mapM_nil]
      cases c.tagAt h offset <;> rfl
  | twoTags tags =>
      simp only [key, tagOffsets, List.mapM_cons, List.mapM_nil]
      cases c.tagAt h tags.low <;> cases c.tagAt h tags.high <;> rfl
  | threeTags tags =>
      simp only [key, tagOffsets, List.mapM_cons, List.mapM_nil]
      cases c.tagAt h tags.low <;> cases c.tagAt h tags.middle <;> cases c.tagAt h tags.high <;> rfl
  | wordTwoTags i tags =>
      simp only [key, hw, tagOffsets, List.mapM_cons, List.mapM_nil]
      cases c.tagAt h tags.low <;> cases c.tagAt h tags.high <;> rfl
  | tagWindow farthest =>
      simp only [key, tagOffsets, windowOffsets, Offsets.readRun_eq_mapM]
      cases (Offsets.run (windowStep farthest) farthest.natAbs farthest).mapM (c.tagAt h) <;> rfl

theorem tagOffsets_eq_nil {t : Template} (ht : t.isDynamic = false) : t.tagOffsets = [] := by
  cases t with
  | tag _ | wordTag _ _ | twoTags _ | twoWordsTag _ _ | threeTags _ | wordTwoTags _ _
  | tagWindow _ => cases ht
  | _ => rfl

/-- The key of a template that reads no tags is made of words alone. -/
theorem key_of_not_dynamic {t : Template} (hw : ∀ o, c.wordAt h o = .ok (word o))
    (ht : t.isDynamic = false) : t.key c h = .ok (t.text word []) := by
  rw [key_eq t hw, tagOffsets_eq_nil ht]
  rfl

end Template
end TaggerFeatures

import TaggerFeatures.Proofs.Architecture.Call
import TaggerFeatures.Proofs.Numeral
import TaggerFeatures.Proofs.Template.Offsets

/-!
What keywords denote. Rules say which templates a keyword stands for, given its first three
arguments; the text of a keyword with integers in decimal digits is compiled to just these.
-/
namespace TaggerFeatures.Architecture
open Text

namespace Keyword

/-! ## Rules -/

/-- The template for one offset, of the keywords that stand for a window of offsets. -/
def inWindow? : Keyword → Option (Int → Template)
  | words => some .word
  | tags => some .tag
  | lowercaseWords => some .lowercaseWord
  | wordShapes => some (.wordShape · .chris2)
  | unicodeShapes => some (.wordShape · .chris4)
  | _ => none

/-- The tags up to an offset: a single one next to the cursor, a window farther away. -/
def reach (offset : Int) : Template :=
  if offset = -1 ∨ offset = 1 then .tag offset else .tagWindow offset

/-- What a keyword stands for whose first arguments are `a`, `b` and `c`. -/
inductive Denotes (source : RawDictionary) (text : String) (a b c : Int) :
    Keyword → Except Failure (List Template) → Prop
  | window {k make offsets} : k.inWindow? = some make →
      Offsets.Lists (fun o => a ≤ o ∧ o ≤ b) offsets →
      Denotes source text a b c k (.ok (offsets.map make))
  | biwords {offsets} : Offsets.Lists (fun o => a ≤ o ∧ o < b) offsets →
      Denotes source text a b c biwords
        (.ok (offsets.map fun o => .twoWords ⟨o, o + 1, by omega⟩))
  | biword {pair : OffsetPair} : [pair.low, pair.high].Perm [a, b] →
      Denotes source text a b c biword (.ok [.twoWords pair])
  | twoTags {pair : OffsetPair} : [pair.low, pair.high].Perm [a, b] →
      Denotes source text a b c twoTags (.ok [.twoTags pair])
  | wordTag : Denotes source text a b c wordTag (.ok [.wordTag a b])
  | wordTwoTags {pair : OffsetPair} : [pair.low, pair.high].Perm [b, c] →
      Denotes source text a b c wordTwoTags (.ok [.wordTwoTags a pair])
  | threeTags {triple : OffsetTriple} :
      [triple.low, triple.middle, triple.high].Perm [a, b, c] →
      Denotes source text a b c threeTags (.ok [.threeTags triple])
  | shapes : Denotes source text a b c unicodeShapeConjunction (.ok [.shapeConjunction a b .chris4])
  | participle {dictionary} : TagDictionary.ofRaw source = .ok dictionary →
      Denotes source text a b c participle (.ok [.participle a dictionary])
  | uncounted {e} : TagDictionary.ofRaw source = .error e →
      Denotes source text a b c participle (.error (.count e))
  | negative : b < 0 →
      Denotes source text a b c order (.error (.malformed (.negativeRightOrder b text)))
  | order {offsets} : 0 ≤ b →
      Offsets.Lists (fun o => (-(a.natAbs : Int) ≤ o ∧ o ≤ b) ∧ o ≠ 0) offsets →
      Denotes source text a b c order (.ok (offsets.map reach))

variable {source : RawDictionary} {text : String} {arguments : List Int}
  {outcome : Except Failure (List Template)}

theorem rung_eq (offset : Int) :
    rung offset = if offset ≠ 0 then some (reach offset) else none := by
  unfold rung reach
  by_cases h0 : offset = 0
  · rw [if_pos h0, if_neg (by simp [h0])]
  · rw [if_neg h0, if_pos h0]
    split <;> rfl

theorem ladder_eq (left right : Int) :
    ladder left right = ((Offsets.upTo left right).filter (· ≠ 0)).map reach := by
  rw [ladder, ← List.filterMap_eq_map, List.filterMap_filter]
  apply List.filterMap_congr
  intro offset _
  rw [rung_eq]
  simp

theorem adjacentWords_eq : Template.adjacentWords = fun o => .twoWords ⟨o, o + 1, by omega⟩ :=
  funext fun o => by rw [Template.adjacentWords, OffsetPair.of_of_le]

theorem lists_below (a b : Int) :
    Offsets.Lists (fun o => a ≤ o ∧ o < b) (Offsets.upTo a (b - 1)) :=
  (Offsets.lists_upTo a (b - 1)).congr fun o => by omega

theorem templates_of_inWindow {k : Keyword} {make : Int → Template}
    (h : k.inWindow? = some make) :
    k.templates text arguments source =
      .ok ((Offsets.upTo (argument arguments 0) (argument arguments 1)).map make) := by
  cases k with
  | words | tags | lowercaseWords | wordShapes | unicodeShapes =>
      cases h
      rfl
  | _ => cases h

theorem templates_of_denotes {k : Keyword}
    (h : k.Denotes source text (argument arguments 0) (argument arguments 1)
      (argument arguments 2) outcome) : k.templates text arguments source = outcome := by
  cases h with
  | window hmake hoffsets =>
      rw [templates_of_inWindow hmake, hoffsets.unique (Offsets.lists_upTo _ _)]
  | biwords hoffsets => rw [templates, adjacentWords_eq, hoffsets.unique (lists_below _ _)]
  | biword hpair => rw [templates, OffsetPair.eq_of_perm hpair (OffsetPair.perm_of _ _)]
  | twoTags hpair => rw [templates, OffsetPair.eq_of_perm hpair (OffsetPair.perm_of _ _)]
  | wordTag => rfl
  | wordTwoTags hpair => rw [templates, OffsetPair.eq_of_perm hpair (OffsetPair.perm_of _ _)]
  | threeTags htriple =>
      rw [templates, OffsetTriple.eq_of_perm htriple (OffsetTriple.perm_of _ _ _)]
  | shapes => rfl
  | participle hd => simp only [templates, hd]
  | uncounted he => simp only [templates, he]
  | negative hneg => simp only [templates, if_pos hneg]
  | order hb hoffsets =>
      simp only [templates, if_neg (Int.not_lt.mpr hb), ladder_eq,
        hoffsets.unique (Offsets.lists_upTo _ _).filter]

theorem denotes_templates (k : Keyword) :
    k.Denotes source text (argument arguments 0) (argument arguments 1) (argument arguments 2)
      (k.templates text arguments source) := by
  cases k with
  | words | tags | lowercaseWords | wordShapes | unicodeShapes =>
      exact .window rfl (Offsets.lists_upTo _ _)
  | biwords =>
      rw [templates, adjacentWords_eq]
      exact .biwords (lists_below _ _)
  | biword => exact .biword (OffsetPair.perm_of _ _)
  | twoTags => exact .twoTags (OffsetPair.perm_of _ _)
  | wordTag => exact .wordTag
  | wordTwoTags => exact .wordTwoTags (OffsetPair.perm_of _ _)
  | threeTags => exact .threeTags (OffsetTriple.perm_of _ _ _)
  | unicodeShapeConjunction => exact .shapes
  | participle =>
      simp only [templates]
      cases hd : TagDictionary.ofRaw source with
      | ok dictionary => exact .participle hd
      | error e => exact .uncounted hd
  | order =>
      simp only [templates]
      split
      · rename_i hneg
        exact .negative hneg
      · rename_i hneg
        rw [ladder_eq]
        exact .order (Int.not_lt.mp hneg) (Offsets.lists_upTo _ _).filter

/-- The rules give each keyword one meaning: the templates that it has for its arguments. -/
theorem denotes_iff {k : Keyword} :
    k.Denotes source text (argument arguments 0) (argument arguments 1) (argument arguments 2)
      outcome ↔ k.templates text arguments source = outcome :=
  ⟨templates_of_denotes, fun h => h ▸ k.denotes_templates⟩

/-! ## Integers in an architecture -/

/-- The keyword with integers in decimal digits, as it is written in an architecture. -/
def call (k : Keyword) (ns : List Int) : String :=
  k.name ++ "(" ++ joinWith "," (ns.map toString) ++ ")"

/-- The texts of integers with commas between them. -/
def numbers (ns : List Int) : List Char := join [','] (ns.map fun n => (toString n).toList)

theorem not_mem_numbers {ns : List Int} {ch : Char} (hcomma : ch ≠ ',') (hsign : ch ≠ '-')
    (hdigit : Numeral.isDigit ch = false) : ch ∉ numbers ns := by
  intro h
  rcases mem_join h with hsep | ⟨p, hp, hch⟩
  · exact hcomma (List.mem_singleton.mp hsep)
  · obtain ⟨n, _, rfl⟩ := List.mem_map.mp hp
    exact Numeral.not_mem_toString hsign hdigit hch

theorem call_eq (k : Keyword) (ns : List Int) :
    k.call ns = (k.token (String.ofList (numbers ns))).text := by
  have hraw : joinWith "," (ns.map toString) = String.ofList (numbers ns) := by
    rw [← String.toList_inj, String.toList_ofList, toList_joinWith, List.map_map]
    rfl
  rw [call, hraw]
  rfl

theorem readArgument_toString (token : String) {n : Int} (h : Numeral.Readable n) :
    Token.readArgument token (toString n).toList = .ok n := by
  have htrim : trim (toString n).toList = (toString n).toList :=
    trim_of_not_blank fun ch => Numeral.isBlank_of_mem_toString
  simp only [Token.readArgument, htrim, Numeral.ofChars?_toString, Numeral.value_of_readable h]
  rfl

theorem trim_numbers_ne_nil {n : Int} {ns : List Int} : trim (numbers (n :: ns)) ≠ [] := by
  intro h
  have hblank := trim_eq_nil_iff.mp h
  obtain ⟨ch, hch⟩ : ∃ ch, ch ∈ (toString n).toList := by
    rw [Numeral.toList_toString]
    exact List.exists_mem_of_ne_nil _
      (List.append_ne_nil_of_right_ne_nil _ Nat.toDigits_ne_nil)
  have hmem : ch ∈ numbers (n :: ns) := by
    cases ns with
    | nil => simpa [numbers] using hch
    | cons m ns =>
        rw [numbers, List.map_cons, List.map_cons, join_cons_cons]
        exact List.mem_append_left _ hch
  have hno := Numeral.isBlank_of_mem_toString hch
  rw [hblank ch hmem] at hno
  cases hno

theorem integers_eq_mapM (k : Keyword) (ns : List Int) :
    (k.token (String.ofList (numbers ns))).integers =
      ns.mapM fun n => Token.readArgument (k.token (String.ofList (numbers ns))).text
        (toString n).toList := by
  cases ns with
  | nil => rfl
  | cons n rest =>
      have hcomma : ∀ p ∈ (n :: rest).map fun n => (toString n).toList, ',' ∉ p := by
        intro p hp
        obtain ⟨m, _, rfl⟩ := List.mem_map.mp hp
        exact Numeral.not_mem_toString (by decide) (by decide)
      exact (integers_token k (by simp) hcomma trim_numbers_ne_nil).trans List.mapM_map

theorem integers_numbers (k : Keyword) {ns : List Int} (h : ∀ n ∈ ns, Numeral.Readable n) :
    (k.token (String.ofList (numbers ns))).integers = .ok ns := by
  rw [integers_eq_mapM, mapM_eq_ok_map fun n hn => readArgument_toString _ (h n hn), List.map_id']

theorem no_parenthesis_numbers (ns : List Int) :
    '(' ∉ (String.ofList (numbers ns)).toList ∧ ')' ∉ (String.ofList (numbers ns)).toList := by
  rw [String.toList_ofList]
  exact ⟨not_mem_numbers (by decide) (by decide) (by decide),
    not_mem_numbers (by decide) (by decide) (by decide)⟩

theorem compile_numbers (k : Keyword) {ns : List Int} (h : ∀ n ∈ ns, Numeral.Readable n)
    (source : RawDictionary) :
    compile (k.call ns) source = ⟨[], k.templates (k.call ns) ns source⟩ := by
  obtain ⟨hopen, hclose⟩ := no_parenthesis_numbers ns
  rw [call_eq, k.compile_token source hopen hclose, compiled, k.integers_numbers h]

/-- A keyword with integers is compiled to what it denotes for them, a missing one being 0 and those
behind the third having no influence, and without a warning. -/
theorem compile_call (k : Keyword) {ns : List Int} (h : ∀ n ∈ ns, Numeral.Readable n)
    (source : RawDictionary) :
    (∀ outcome, k.Denotes source (k.call ns) (ns.getD 0 0) (ns.getD 1 0) (ns.getD 2 0) outcome ↔
      (compile (k.call ns) source).outcome = outcome) ∧
    (compile (k.call ns) source).warnings = [] := by
  rw [k.compile_numbers h]
  exact ⟨fun outcome => denotes_iff, rfl⟩

/-- An order with a surplus argument, and three offsets that are not in order. -/
theorem compile_call_order :
    order.call [2, 1, 5] = "order(2,1,5)" ∧ threeTags.call [3, -10, 2] = "threeTags(3,-10,2)" ∧
    (∀ n ∈ [2, 1, 5], Numeral.Readable n) ∧ (∀ n ∈ [3, -10, 2], Numeral.Readable n) ∧
    (compile "order(2,1,5)" []).outcome = .ok [.tagWindow (-2), .tag (-1), .tag 1] ∧
    (compile "order(2,1,5)" []).warnings = [] ∧
    (compile "threeTags(3,-10,2)" []).outcome =
      .ok [.threeTags ⟨-10, 2, 3, by decide, by decide⟩] := by
  have horder : ∀ n ∈ [2, 1, 5], Numeral.Readable n := by decide
  have htriple : ∀ n ∈ [3, -10, 2], Numeral.Readable n := by decide
  have htext : order.call [2, 1, 5] = "order(2,1,5)" := by decide +kernel
  have htext' : threeTags.call [3, -10, 2] = "threeTags(3,-10,2)" := by decide +kernel
  have hoffsets : Offsets.Lists (fun o => (-2 ≤ o ∧ o ≤ 1) ∧ o ≠ 0) [-2, -1, 1] := by
    refine ⟨fun o => ?_, by decide⟩
    simp only [List.mem_cons, List.not_mem_nil, or_false]
    omega
  have hdenotes : order.Denotes [] "order(2,1,5)" 2 1 5
      (.ok ([-2, -1, 1].map reach)) := .order (by decide) hoffsets
  have hdenotes' : threeTags.Denotes [] "threeTags(3,-10,2)" 3 (-10) 2
      (.ok [.threeTags ⟨-10, 2, 3, by decide, by decide⟩]) := .threeTags (by decide)
  obtain ⟨houtcome, hwarnings⟩ := order.compile_call horder []
  obtain ⟨houtcome', -⟩ := threeTags.compile_call htriple []
  rw [htext] at houtcome hwarnings
  rw [htext'] at houtcome'
  exact ⟨htext, htext', horder, htriple, (houtcome _).mp hdenotes, hwarnings,
    (houtcome' _).mp hdenotes'⟩

end Keyword
end TaggerFeatures.Architecture

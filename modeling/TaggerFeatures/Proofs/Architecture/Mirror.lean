import TaggerFeatures.Proofs.Architecture.Ladder
import TaggerFeatures.Proofs.Template.Padding

/-!
Sentences read from the other end. In the mirror image of a sentence a tag window to one side finds
what the window to the other side finds in the sentence, and so does the ladder of an order: the
same keys, from the last template to the first.
-/
namespace TaggerFeatures

namespace Corpus

/-! ## Reading from the other end -/

theorem slot?_reverse {α : Type} (xs : List α) (i : Int) :
    slot? xs.reverse (xs.length - 1 - i) = slot? xs i := by
  by_cases hi : 0 ≤ i ∧ i < xs.length
  · obtain ⟨m, rfl⟩ := Int.eq_ofNat_of_zero_le hi.1
    have hm : (xs.length : Int) - 1 - m = ((xs.length - 1 - m : Nat) : Int) := by omega
    have hback : xs.length - 1 - (xs.length - 1 - m) = m := by omega
    rw [hm, slot?_natCast, slot?_natCast, List.getElem?_reverse (by omega), hback]
  · rw [slot?_eq_none_iff.mpr hi, slot?_eq_none_iff, List.length_reverse]
    omega

/-- Sentence `s` of `c` has `n` words, and sentence `t` of `d` has the same words, with the same
tags, from the last one to the first. -/
structure Mirrors (c : Corpus) (s : Int) (n : Nat) (d : Corpus) (t : Int) : Prop where
  words : ∃ words, c.wordsOf s = .ok words ∧ words.length = n ∧ d.wordsOf t = .ok words.reverse
  tags : ∃ row, c.tagsOf s = .ok row ∧ d.tagsOf t = .ok row.reverse

/-- What is found at a cursor and, from the other end, at another one: the same key, or a tag is
missing as far away on the other side. -/
inductive Opposite (c : Corpus) (h : Cursor) (d : Corpus) (h' : Cursor) :
    Except Error String → Except Error String → Prop
  | key (k) : Opposite c h d h' (.ok k) (.ok k)
  | missing {r r'} (o) : c.MissesAt h o r → d.MissesAt h' (-o) r' → Opposite c h d h' r r'

variable {c d : Corpus} {s t : Int} {n : Nat}

theorem Opposite.ok_iff {h h' : Cursor} {r r' : Except Error String}
    (ho : Opposite c h d h' r r') (k : String) : r = .ok k ↔ r' = .ok k := by
  cases ho with
  | key k' => rfl
  | missing o hm hm' => exact iff_of_false (hm.not_ok k) (hm'.not_ok k)

theorem Mirrors.knows (h : c.Mirrors s n d t) : c.Knows s ∧ d.Knows t := by
  obtain ⟨words, hw, -, hw'⟩ := h.words
  constructor
  · by_contra hs
    rw [wordsOf_of_not_knows hs] at hw
    cases hw
  · by_contra ht
    rw [wordsOf_of_not_knows ht] at hw'
    cases hw'

theorem Mirrors.exists_row (h : c.Mirrors s n d t) (hc : c.Aligned) :
    ∃ row, c.tagsOf s = .ok row ∧ d.tagsOf t = .ok row.reverse ∧ row.length = n := by
  obtain ⟨words, hw, hn, -⟩ := h.words
  obtain ⟨row, hr, hr'⟩ := h.tags
  obtain ⟨row', hrow', hl⟩ := hc.row_of_wordsOf hw
  rw [slot?_tags_of_tagsOf hr] at hrow'
  cases hrow'
  exact ⟨row, hr, hr', hl.trans hn⟩

theorem Mirrors.sameTag (h : c.Mirrors s n d t) (hc : c.Aligned) (hd : d.Aligned) (p o : Int) :
    SameTag c ⟨s, p⟩ o d ⟨t, n - 1 - p⟩ (-o) := by
  obtain ⟨row, hr, hr', rfl⟩ := h.exists_row hc
  have hsum : (row.length : Int) - 1 - p + -o = row.length - 1 - (p + o) := by omega
  exact sameTag_of_getD hc hd h.knows.1 h.knows.2 hr hr' (by rw [hsum, slot?_reverse])

end Corpus

/-! ## Windows and ladders -/

namespace Template
open Corpus

theorem windowOffsets_neg (k : Int) : windowOffsets (-k) = (windowOffsets k).map (-·) := by
  rw [windowOffsets, windowOffsets, Offsets.map_neg_run, Int.natAbs_neg]
  rcases Int.lt_trichotomy k 0 with hk | rfl | hk
  · rw [windowStep, windowStep, if_neg (by omega), if_pos hk]
  · rfl
  · rw [windowStep, windowStep, if_pos (by omega), if_neg (by omega), Int.neg_neg]

variable {c d : Corpus} {s t : Int} {n : Nat}

theorem opposite_tagWindow (h : c.Mirrors s n d t) (hc : c.Aligned) (hd : d.Aligned) (p k : Int) :
    Opposite c ⟨s, p⟩ d ⟨t, n - 1 - p⟩ ((tagWindow k).key c ⟨s, p⟩)
      ((tagWindow (-k)).key d ⟨t, n - 1 - p⟩) := by
  rw [key_tagWindow, key_tagWindow, windowOffsets_neg, List.mapM_map]
  rcases SameTag.mapM (-·) (windowOffsets k) hc hd h.knows.1 h.knows.2
    fun o _ => h.sameTag hc hd p o with ⟨tags, htags, htags'⟩ | ⟨o, -, hm, hm'⟩
  · rw [htags, Function.comp_def, htags']
    exact .key _
  · exact .missing o hm.map hm'.map

end Template

namespace Architecture.Keyword
open Corpus Template

variable {c d : Corpus} {s t : Int} {n : Nat}

theorem opposite_reach (h : c.Mirrors s n d t) (hc : c.Aligned) (hd : d.Aligned) (p k : Int) :
    Opposite c ⟨s, p⟩ d ⟨t, n - 1 - p⟩ ((reach k).key c ⟨s, p⟩)
      ((reach (-k)).key d ⟨t, n - 1 - p⟩) := by
  rw [(reach_indistinguishable k).key, (reach_indistinguishable (-k)).key]
  exact opposite_tagWindow h hc hd p k

/-- Templates find at a cursor, from the last one to the first, what others find at another cursor
from the other end: one by one, and in one set. -/
structure Backwards (c : Corpus) (h : Cursor) (d : Corpus) (h' : Cursor)
    (before after : List Template) : Prop where
  each : List.Forall₂ (fun f f' => Opposite c h d h' (f.key c h) (f'.key d h'))
    before.reverse after
  together :
    (∃ ks, (FeatureSet.mk before).keys c h = .ok ks ∧
        (FeatureSet.mk after).keys d h' = .ok ks.reverse) ∨
      ∃ o o', c.MissesAt h o ((FeatureSet.mk before).keys c h) ∧
        d.MissesAt h' o' ((FeatureSet.mk after).keys d h')

/-- Templates that find the same one by one find the same in one set. -/
theorem together_of_each {h h' : Cursor} (hc : c.Aligned) (hd : d.Aligned)
    (hs : c.Knows h.sentence) (hs' : d.Knows h'.sentence) {before after : List Template}
    (heach : List.Forall₂ (fun f f' => Opposite c h d h' (f.key c h) (f'.key d h'))
      before.reverse after) :
    (∃ ks, (FeatureSet.mk before).keys c h = .ok ks ∧
        (FeatureSet.mk after).keys d h' = .ok ks.reverse) ∨
      ∃ o o', c.MissesAt h o ((FeatureSet.mk before).keys c h) ∧
        d.MissesAt h' o' ((FeatureSet.mk after).keys d h') := by
  have hback : ∀ ks, (FeatureSet.mk before).keys c h = .ok ks ↔
      (FeatureSet.mk after).keys d h' = .ok ks.reverse := by
    intro ks
    rw [FeatureSet.keys, FeatureSet.keys, ← mapM_reverse_eq_ok_iff]
    exact mapM_ok_congr (heach.imp fun _ _ hopposite => hopposite.ok_iff)
  rcases (FeatureSet.mk before).keys_ok_or_misses hc hs with ⟨ks, hks⟩ | ⟨-, -, o, -, ho⟩
  · exact Or.inl ⟨ks, hks, (hback ks).mp hks⟩
  · rcases (FeatureSet.mk after).keys_ok_or_misses hd hs' with ⟨ks, hks⟩ | ⟨-, -, o', -, ho'⟩
    · rw [← List.reverse_reverse ks, ← hback] at hks
      exact absurd hks (ho.not_ok _)
    · exact Or.inr ⟨o, o', ho, ho'⟩

/-- Rungs for some offsets, and the rungs for the offsets on the other side. -/
theorem backwards_map_reach (h : c.Mirrors s n d t) (hc : c.Aligned) (hd : d.Aligned) (p : Int)
    (offsets : List Int) :
    Backwards c ⟨s, p⟩ d ⟨t, n - 1 - p⟩ (offsets.map reach)
      ((offsets.map (-·)).reverse.map reach) := by
  have heach : List.Forall₂
      (fun f f' => Opposite c ⟨s, p⟩ d ⟨t, n - 1 - p⟩ (f.key c ⟨s, p⟩) (f'.key d ⟨t, n - 1 - p⟩))
      (offsets.map reach).reverse ((offsets.map (-·)).reverse.map reach) := by
    rw [← List.map_reverse, ← List.map_reverse, List.map_map, List.forall₂_map_left_iff,
      List.forall₂_map_right_iff, List.forall₂_same]
    exact fun k _ => opposite_reach h hc hd p k
  exact ⟨heach, together_of_each hc hd h.knows.1 h.knows.2 heach⟩

/-- The offsets of an order to one side are on the other side those of an order to there. -/
theorem exists_orders (k : Nat) :
    ∃ offsets : List Int, ∀ text source,
      order.templates text [(k : Int), 0] source = .ok (offsets.map reach) ∧
      order.templates text [0, (k : Int)] source =
        .ok ((offsets.map (-·)).reverse.map reach) := by
  have hleft : Offsets.Lists (fun o => (-((k : Int).natAbs : Int) ≤ o ∧ o ≤ 0) ∧ o ≠ 0)
      ((Offsets.upTo (-((k : Int).natAbs : Int)) 0).filter (· ≠ 0)) :=
    (Offsets.lists_upTo _ _).filter
  generalize (Offsets.upTo (-((k : Int).natAbs : Int)) 0).filter (· ≠ 0) = offsets at hleft
  have hright : Offsets.Lists (fun o => (-((0 : Int).natAbs : Int) ≤ o ∧ o ≤ (k : Int)) ∧ o ≠ 0)
      (offsets.map (-·)).reverse := hleft.neg.congr fun o => by omega
  exact ⟨offsets, fun text source => ⟨templates_of_denotes (.order (Int.le_refl 0) hleft),
    templates_of_denotes (.order (Int.natCast_nonneg k) hright)⟩⟩

/-- The words of `partlyTagged` from the last one to the first. -/
def partlyTaggedBackwards : Corpus :=
  empty.run [.add ["arrows", "like", "flies", "time"]
    (some [none, some "IN", some "VBZ", some "NN"])]

end Architecture.Keyword
end TaggerFeatures

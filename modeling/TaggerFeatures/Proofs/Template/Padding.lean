import TaggerFeatures.Proofs.Template.Window

/-!
Boundaries around a sentence. What stands beyond its edges cannot be told from boundary words with
boundary tags: a template gives the same key at a position with and without them, or misses a tag
at the same offset.
-/
namespace TaggerFeatures

/-- A list with copies of `x` put before it and behind it. -/
def padded {α : Type} (before behind : Nat) (x : α) (xs : List α) : List α :=
  List.replicate before x ++ (xs ++ List.replicate behind x)

namespace Corpus

/-! ## Reading between boundaries -/

/-- Beyond the list stands what it is padded with. -/
theorem slot?_padded {α : Type} (before behind : Nat) (x : α) (xs : List α) (i : Int) :
    (slot? (padded before behind x xs) (i + before)).getD x = (slot? xs i).getD x := by
  unfold padded
  by_cases hi : 0 ≤ i
  · obtain ⟨n, rfl⟩ := Int.eq_ofNat_of_zero_le hi
    have hn : (n : Int) + before = ((before + n : Nat) : Int) := by omega
    rw [hn, slot?_natCast, slot?_natCast, List.getElem?_append_right (by simp),
      List.length_replicate, Nat.add_sub_cancel_left]
    by_cases hlt : n < xs.length
    · rw [List.getElem?_append_left hlt]
    · rw [List.getElem?_append_right (by omega), List.getElem?_eq_none (l := xs) (by omega),
        List.getElem?_replicate]
      split <;> rfl
  · have hout : slot? xs i = none := slot?_eq_none_iff.mpr (by omega)
    rw [hout, slot?]
    split
    · rw [List.getElem?_append_left (by rw [List.length_replicate]; omega), List.getElem?_replicate]
      split <;> rfl
    · rfl

/-- Sentence `t` of `d` is sentence `s` of `c` with boundary words, tagged as such, before it and
behind it. -/
structure Pads (c : Corpus) (s : Int) (before behind : Nat) (d : Corpus) (t : Int) : Prop where
  words : ∃ words, c.wordsOf s = .ok words ∧
    d.wordsOf t = .ok (padded before behind boundary words)
  tags : ∃ row, c.tagsOf s = .ok row ∧ d.tagsOf t = .ok (padded before behind (some boundary) row)

variable {c d : Corpus} {s t : Int} {before behind : Nat}

theorem slot?_tags_of_tagsOf {row : List (Option String)} (h : c.tagsOf s = .ok row) :
    slot? c.tags s = some row := by
  unfold tagsOf at h
  cases hw : c.wordsOf s with
  | error e =>
      rw [hw] at h
      cases h
  | ok words =>
      rw [hw] at h
      simp only [bind, Except.bind] at h
      split at h
      · rename_i row' hrow
        cases h
        exact hrow
      · cases h

/-- A tag is read as if boundary tags stood beyond the sentence. -/
theorem tagAt_eq_getD (hc : c.Aligned) {row : List (Option String)} (hr : c.tagsOf s = .ok row)
    (hs : c.Knows s) (p o : Int) :
    c.tagAt ⟨s, p⟩ o =
      match (slot? row (p + o)).getD (some boundary) with
      | none => .error (Error.unassigned ⟨s, p⟩ o).reported
      | some tag => .ok tag := by
  have hslot : c.tagSlot? s (p + o) = slot? row (p + o) := by
    rw [tagSlot?, slot?_tags_of_tagsOf hr, Option.bind_some]
  rw [tagAt_eq hc hs, hslot]
  rcases slot? row (p + o) with _ | _ | tag <;> rfl

/-- Where the same entry stands, beyond either sentence the boundary, the same tag is found. -/
theorem sameTag_of_getD (hc : c.Aligned) (hd : d.Aligned) (hs : c.Knows s) (ht : d.Knows t)
    {row row' : List (Option String)} (hr : c.tagsOf s = .ok row) (hr' : d.tagsOf t = .ok row')
    {p o p' o' : Int}
    (h : (slot? row' (p' + o')).getD (some boundary) = (slot? row (p + o)).getD (some boundary)) :
    SameTag c ⟨s, p⟩ o d ⟨t, p'⟩ o' := by
  have hread := tagAt_eq_getD hc hr hs p o
  have hread' := tagAt_eq_getD hd hr' ht p' o'
  rw [h] at hread'
  cases hentry : (slot? row (p + o)).getD (some boundary) with
  | none =>
      rw [hentry] at hread hread'
      exact Or.inr ⟨(missing_of_tagAt hc hs hread).1, (missing_of_tagAt hd ht hread').1⟩
  | some tag =>
      rw [hentry] at hread hread'
      exact Or.inl ⟨tag, hread, hread'⟩

theorem Pads.knows (h : c.Pads s before behind d t) : c.Knows s ∧ d.Knows t := by
  obtain ⟨words, hw, hw'⟩ := h.words
  constructor
  · by_contra hs
    rw [wordsOf_of_not_knows hs] at hw
    cases hw
  · by_contra ht
    rw [wordsOf_of_not_knows ht] at hw'
    cases hw'

theorem Pads.exists_wordAt (h : c.Pads s before behind d t) (p : Int) :
    ∃ word : Int → String, (∀ o, c.wordAt ⟨s, p⟩ o = .ok (word o)) ∧
      ∀ o, d.wordAt ⟨t, p + before⟩ o = .ok (word o) := by
  obtain ⟨words, hw, hw'⟩ := h.words
  refine ⟨fun o => (slot? words (p + o)).getD boundary, fun o => ?_, fun o => ?_⟩
  · simp only [wordAt, hw, bind, Except.bind, Cursor.at]
  · have hsum : p + before + o = p + o + before := by omega
    simp only [wordAt, hw', bind, Except.bind, Cursor.at, hsum, slot?_padded]

theorem Pads.sameTag (h : c.Pads s before behind d t) (hc : c.Aligned) (hd : d.Aligned)
    (p o : Int) : SameTag c ⟨s, p⟩ o d ⟨t, p + before⟩ o := by
  obtain ⟨row, hr, hr'⟩ := h.tags
  have hsum : p + before + o = p + o + before := by omega
  exact sameTag_of_getD hc hd h.knows.1 h.knows.2 hr hr' (by rw [hsum, slot?_padded])

end Corpus

/-! ## Keys -/

namespace Template

open Corpus

variable {c d : Corpus} {s s' : Int} {before behind : Nat}

/-- The words of `partlyTagged` as a second sentence, with boundaries around them. -/
def betweenBoundaries : Corpus :=
  empty.run [.add ["birds"] none,
    .add ["NA", "time", "flies", "like", "arrows", "NA", "NA"]
      (some [some "NA", some "NN", some "VBZ", some "IN", none, some "NA", some "NA"])]

/-- A word without a tag, behind a boundary. -/
def behindBoundary : Corpus :=
  empty.run [.add ["so"] none, .add ["NA", "so"] (some [some "NA", none])]

end Template
end TaggerFeatures

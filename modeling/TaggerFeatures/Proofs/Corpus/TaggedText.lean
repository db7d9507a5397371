import Mathlib.Data.String.Basic
import TaggerFeatures.Corpus.TaggedText
import TaggerFeatures.Proofs.Text.Items
import TaggerFeatures.Proofs.Traversal

/-!
Tagged text is read as the words and tags that it was written for. A separator may stand in a word,
but from its last place on there is nothing but the tag.
-/
namespace TaggerFeatures.TaggedText
open Text

/-! ## The last place of a separator -/

/-- The separator stands in the text from place `i` on. -/
def OccursAt (separator s : List Char) (i : Nat) : Prop := separator <+: s.drop i

section
variable {separator s before after : List Char}

theorem occursAt_cons_zero {c : Char} :
    OccursAt separator (c :: s) 0 ↔ separator.isPrefixOf (c :: s) = true :=
  List.isPrefixOf_iff_prefix.symm

theorem not_occursAt_nil (hsep : separator ≠ []) (i : Nat) : ¬ OccursAt separator [] i := by
  intro h
  rw [OccursAt, List.drop_nil] at h
  exact hsep (List.prefix_nil.mp h)

theorem occursAt_length (before after : List Char) :
    OccursAt separator (before ++ (separator ++ after)) before.length := by
  rw [OccursAt, List.drop_left]
  exact List.prefix_append _ _

theorem occursAt_append_iff (before s : List Char) (i : Nat) :
    OccursAt separator (before ++ s) (before.length + i) ↔ OccursAt separator s i := by
  rw [OccursAt, List.drop_append, List.drop_of_length_le (Nat.le_add_right _ _),
    Nat.add_sub_cancel_left, List.nil_append, OccursAt]

theorem cutLast_eq_none_iff (hsep : separator ≠ []) :
    cutLast separator s = none ↔ ∀ i, ¬ OccursAt separator s i := by
  induction s with
  | nil => exact ⟨fun _ => not_occursAt_nil hsep, fun _ => rfl⟩
  | cons c s ih =>
      have hsplit : (∀ i, ¬ OccursAt separator (c :: s) i) ↔
          ¬ OccursAt separator (c :: s) 0 ∧ ∀ i, ¬ OccursAt separator s i :=
        ⟨fun h => ⟨h 0, fun i => h (i + 1)⟩, fun h i => by cases i with
          | zero => exact h.1
          | succ i => exact h.2 i⟩
      rw [hsplit, ← ih, occursAt_cons_zero, cutLast]
      cases cutLast separator s <;> simp

theorem cutLast_sound (hsep : separator ≠ []) (h : cutLast separator s = some (before, after)) :
    s = before ++ (separator ++ after) ∧ ∀ i, OccursAt separator s i → i ≤ before.length := by
  induction s generalizing before with
  | nil => cases h
  | cons c s ih =>
      rw [cutLast] at h
      split at h
      · rename_i before' after' hs
        cases h
        obtain ⟨hcut, hlast⟩ := ih hs
        refine ⟨by rw [List.cons_append, ← hcut], fun i hi => ?_⟩
        cases i with
        | zero => exact Nat.zero_le _
        | succ i => exact Nat.succ_le_succ (hlast i hi)
      · rename_i hnone
        split at h
        · rename_i hstart
          cases h
          obtain ⟨rest, hrest⟩ := List.isPrefixOf_iff_prefix.mp hstart
          refine ⟨by rw [← hrest, List.drop_left, List.nil_append], fun i hi => ?_⟩
          cases i with
          | zero => exact Nat.le_refl _
          | succ i => exact absurd hi ((cutLast_eq_none_iff hsep).mp hnone i)
        · cases h

/-- A text is cut at the place behind which the separator does not begin again. -/
theorem cutLast_eq_some_iff (hsep : separator ≠ []) :
    cutLast separator s = some (before, after) ↔
      s = before ++ (separator ++ after) ∧ ∀ i, OccursAt separator s i → i ≤ before.length := by
  refine ⟨cutLast_sound hsep, ?_⟩
  rintro ⟨hcut, hlast⟩
  have hoccurs : OccursAt separator s before.length := hcut ▸ occursAt_length before after
  cases hs : cutLast separator s with
  | none => exact absurd hoccurs ((cutLast_eq_none_iff hsep).mp hs _)
  | some cut =>
      obtain ⟨before', after'⟩ := cut
      obtain ⟨hcut', hlast'⟩ := cutLast_sound hsep hs
      -- Two last places are the same one.
      have hoccurs' : OccursAt separator s before'.length := hcut' ▸ occursAt_length before' after'
      have hlength : before'.length = before.length :=
        Nat.le_antisymm (hlast _ hoccurs') (hlast' _ hoccurs)
      obtain ⟨rfl, hrest⟩ := List.append_inj (hcut'.symm.trans hcut) hlength
      rw [List.append_cancel_left hrest]

end

/-! ## Items -/

/-- The item that a word and a tag are written as. -/
def written (separator : String) (pair : String × String) : List Char :=
  pair.1.toList ++ (separator.toList ++ pair.2.toList)

/-- The separator begins before the tag, and nowhere behind that place. -/
def Separates (separator tag : String) : Prop :=
  ∀ i, OccursAt separator.toList (separator.toList ++ tag.toList) i → i = 0

/-- A word and a tag that can be found again in their item. -/
structure Encodable (separator : String) (pair : String × String) : Prop where
  word_ne_empty : pair.1 ≠ ""
  word_not_blank : ∀ c ∈ pair.1.toList, isBlank c = false
  separator_not_blank : ∀ c ∈ separator.toList, isBlank c = false
  tag_not_blank : ∀ c ∈ pair.2.toList, isBlank c = false
  separated : Separates separator pair.2

variable {separator : String} {pair : String × String} {item : List Char}

theorem separates_iff (word separator tag : String) :
    Separates separator tag ↔
      ∀ i, OccursAt separator.toList (written separator (word, tag)) i →
        i ≤ word.toList.length := by
  constructor
  · intro h i hi
    by_contra hlt
    obtain ⟨j, rfl⟩ := Nat.exists_eq_add_of_lt (Nat.lt_of_not_le hlt)
    have hj := h (j + 1) ((occursAt_append_iff _ _ _).mp hi)
    cases hj
  · intro h i hi
    have hle := h _ ((occursAt_append_iff word.toList _ i).mpr hi)
    omega

/-- The tag does not hold the separator. -/
theorem Separates.not_contains (h : Separates separator pair.2) (hsep : separator ≠ "") :
    ¬ separator.toList <:+: pair.2.toList := by
  rintro ⟨front, behind, htag⟩
  have hi := h (separator.toList.length + front.length) ?_
  · have hlength : separator.toList.length ≠ 0 := by simpa using hsep
    omega
  · rw [occursAt_append_iff, ← htag, List.append_assoc]
    exact occursAt_length front behind

theorem cutLast_eq_pair_iff (hsep : separator ≠ "") :
    cutLast separator.toList item = some (pair.1.toList, pair.2.toList) ↔
      item = written separator pair ∧ Separates separator pair.2 := by
  have hne : separator.toList ≠ [] := by simpa using hsep
  rw [cutLast_eq_some_iff hne, separates_iff pair.1]
  exact and_congr_right fun hitem => by rw [hitem, written]

theorem readItem_eq_ok_iff (hsep : separator ≠ "") :
    readItem separator.toList item = .ok pair ↔
      item = written separator pair ∧ pair.1 ≠ "" ∧ Separates separator pair.2 := by
  have hne : separator.toList.isEmpty = false := by simpa using hsep
  constructor
  · intro h
    simp only [readItem, hne, Bool.false_eq_true, if_false] at h
    split at h
    · rename_i c word tag hcut
      cases h
      have hpair : item = written separator (.ofList (c :: word), .ofList tag) ∧
          Separates separator (.ofList tag) :=
        (cutLast_eq_pair_iff hsep).mp (by simpa only [String.toList_ofList] using hcut)
      exact ⟨hpair.1, by simp, hpair.2⟩
    · cases h
  · rintro ⟨hitem, hword, hlast⟩
    have hcut := (cutLast_eq_pair_iff hsep).mpr ⟨hitem, hlast⟩
    obtain ⟨c, word, hc⟩ := List.exists_cons_of_ne_nil (by simpa using hword : pair.1.toList ≠ [])
    simp only [readItem, hne, Bool.false_eq_true, if_false, hcut, hc]
    rw [← hc, String.ofList_toList, String.ofList_toList]

/-- An item cannot be read just if the separator stands nowhere but at its start. -/
theorem exists_readItem_error_iff (hsep : separator ≠ "") :
    (∃ e, readItem separator.toList item = .error e) ↔
      ∀ i, OccursAt separator.toList item i → i = 0 := by
  have hne : separator.toList ≠ [] := by simpa using hsep
  constructor
  · rintro ⟨e, he⟩ i hi
    cases hcut : cutLast separator.toList item with
    | none => exact absurd hi ((cutLast_eq_none_iff hne).mp hcut i)
    | some cut =>
        obtain ⟨before, after⟩ := cut
        cases before with
        | nil => exact Nat.le_zero.mp ((cutLast_sound hne hcut).2 i hi)
        | cons c word => simp [readItem, hsep, hcut] at he
  · intro h
    cases hread : readItem separator.toList item with
    | error e => exact ⟨e, rfl⟩
    | ok pair =>
        obtain ⟨rfl, hword, _⟩ := (readItem_eq_ok_iff hsep).mp hread
        have hlength := h _ (occursAt_length pair.1.toList pair.2.toList)
        exact absurd (by simpa using hlength) hword

/-! ## Texts -/

variable {text : String} {pairs : List (String × String)}

theorem isItem_written (h : Encodable separator pair) : IsItem (written separator pair) where
  ne_nil := by simp [written, h.word_ne_empty]
  not_blank := by
    simp only [written, List.forall_mem_append]
    exact ⟨h.word_not_blank, h.separator_not_blank, h.tag_not_blank⟩

theorem encodable_of_isItem (h : IsItem (written separator pair)) (hword : pair.1 ≠ "")
    (hlast : Separates separator pair.2) : Encodable separator pair := by
  have hblank := h.not_blank
  simp only [written, List.forall_mem_append] at hblank
  exact ⟨hword, hblank.1, hblank.2.1, hblank.2.2, hlast⟩

theorem readItem_written (hsep : separator ≠ "") (h : Encodable separator pair) :
    readItem separator.toList (written separator pair) = .ok pair :=
  (readItem_eq_ok_iff hsep).mpr ⟨rfl, h.word_ne_empty, h.separated⟩

theorem read_eq_ok_iff (hsep : separator ≠ "") :
    read text separator = .ok pairs ↔
      items text.toList = pairs.map (written separator) ∧ ∀ p ∈ pairs, Encodable separator p := by
  constructor
  · intro h
    have hitems : pairs.map (written separator) = items text.toList :=
      map_eq_of_mapM_ok h fun _ _ hi => ((readItem_eq_ok_iff hsep).mp hi).1.symm
    refine ⟨hitems.symm, fun p hp => ?_⟩
    obtain ⟨item, hmem, hi⟩ := exists_of_mem_of_mapM_ok h hp
    obtain ⟨rfl, hword, hlast⟩ := (readItem_eq_ok_iff hsep).mp hi
    exact encodable_of_isItem (isItem_of_mem_items hmem) hword hlast
  · rintro ⟨hitems, hp⟩
    rw [read, hitems, mapM_eq_ok_iff, List.map_map]
    exact List.map_congr_left fun p hmem => readItem_written hsep (hp p hmem)

theorem exists_read_error_iff (hsep : separator ≠ "") :
    (∃ e, read text separator = .error e) ↔
      ∃ item ∈ items text.toList, ∀ i, OccursAt separator.toList item i → i = 0 := by
  simp only [← exists_readItem_error_iff hsep]
  constructor
  · rintro ⟨e, he⟩
    obtain ⟨item, hmem, hi⟩ := exists_of_mapM_error he
    exact ⟨item, hmem, e, hi⟩
  · rintro ⟨item, hmem, e, he⟩
    cases hread : read text separator with
    | error e' => exact ⟨e', rfl⟩
    | ok pairs =>
        obtain ⟨pair, hi⟩ := exists_mapM_ok_iff.mp ⟨pairs, hread⟩ item hmem
        rw [he] at hi
        cases hi

/-- Words and tags are read from a text just if the text consists of the items that they are written
as, each of which can be told apart again; no tag holds the separator then. A text cannot be read
just if in some item the separator stands nowhere but at the start. -/
theorem read_decodes_written (hsep : separator ≠ "") :
    (∀ text pairs, read text separator = .ok pairs ↔
      Spaced (pairs.map (written separator)) text.toList ∧ ∀ p ∈ pairs, Encodable separator p) ∧
    (∀ text pairs, read text separator = .ok pairs →
      items text.toList = pairs.map (written separator) ∧
        ∀ p ∈ pairs, p.1 ≠ "" ∧ ¬ separator.toList <:+: p.2.toList) ∧
    ∀ text, (∃ e, read text separator = .error e) ↔
      ∃ item ∈ items text.toList, ∀ i, OccursAt separator.toList item i → i = 0 := by
  refine ⟨fun text pairs => ?_, fun text pairs hread => ?_, fun _ => exists_read_error_iff hsep⟩
  · rw [read_eq_ok_iff hsep, items_eq_iff, and_assoc]
    refine and_congr_right fun _ => and_iff_right_of_imp fun hp => ?_
    exact List.forall_mem_map.mpr fun p hmem => isItem_written (hp p hmem)
  · obtain ⟨hitems, hp⟩ := (read_eq_ok_iff hsep).mp hread
    refine ⟨hitems, fun p hmem => ?_⟩
    exact ⟨(hp p hmem).word_ne_empty, (hp p hmem).separated.not_contains hsep⟩

/-- A separator that overlaps with itself, and words that hold it. -/
theorem read_decodes_written_overlapping :
    "__" ≠ "" ∧
    read " a__b__NN\t\tc___VB__ d___" "__" = .ok [("a__b", "NN"), ("c___VB", ""), ("d_", "")] ∧
    Encodable "__" ("d_", "") ∧ ¬ "__".toList <:+: "NN".toList ∧
    ∃ item ∈ items "a__NN __VB".toList, ∀ i, OccursAt "__".toList item i → i = 0 := by
  have hne : "__" ≠ "" := by decide
  obtain ⟨hok, hdecoded, herror⟩ := read_decodes_written hne
  have hread : read " a__b__NN\t\tc___VB__ d___" "__" =
      .ok [("a__b", "NN"), ("c___VB", ""), ("d_", "")] := by decide +kernel
  have hfails : read "a__NN __VB" "__" = .error (.noTag "__VB" "__") := by decide +kernel
  have hencodable := ((hok _ _).mp hread).2
  have hfree := (hdecoded _ _ hread).2
  exact ⟨hne, hread, hencodable _ (by simp), (hfree ("a__b", "NN") (by simp)).2,
    (herror _).mp ⟨_, hfails⟩⟩

end TaggerFeatures.TaggedText

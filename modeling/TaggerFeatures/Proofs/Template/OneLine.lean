import TaggerFeatures.Proofs.Template.Key
import TaggerFeatures.Proofs.Text.OneLine
import TaggerFeatures.Proofs.WordShape

/-!
Keys and printed templates stay on one line: neither lower case nor a word shape makes a blank of
other characters, and nothing that joins the parts of a key is one.
-/
namespace TaggerFeatures

/-! ## Lower case -/

namespace Unicode.Lowercase
open Text

/-- The blank characters, first and last of each run. -/
def blanks : List (Nat × Nat) := [
  (0x09, 0x0D), (0x1C, 0x20), (0x85, 0x85), (0xA0, 0xA0), (0x1680, 0x1680), (0x2000, 0x200A),
  (0x2028, 0x2029), (0x202F, 0x202F), (0x205F, 0x205F), (0x3000, 0x3000)]

theorem isBlank_iff {c : Char} :
    isBlank c = true ↔ ∃ run ∈ blanks, run.1 ≤ c.toNat ∧ c.toNat ≤ run.2 := by
  simp only [isBlank, blanks, List.exists_mem_cons_iff, List.not_mem_nil, false_and, exists_false,
    or_false, Bool.or_eq_true, Bool.and_eq_true, decide_eq_true_eq, beq_iff_eq]
  omega

theorem isBlank_ofNat {n : Nat} (h : isBlank (Char.ofNat n) = true) :
    ∃ run ∈ blanks, run.1 ≤ n ∧ n ≤ run.2 := by
  by_cases hn : n.isValidChar
  · rw [Char.ofNat, dif_pos hn] at h
    exact isBlank_iff.mp h
  · rw [Char.ofNat, dif_neg hn] at h
    exact absurd h (by decide)

/-- No lower case of the tables is blank. -/
theorem images_not_blank : ∀ entry ∈ runs ++ everySecond, ∀ run ∈ blanks,
    entry.2.2 + (entry.2.1 - entry.1) < run.1 ∨ run.2 < entry.2.2 := by
  decide +kernel

theorem codePoint_cases (n : Nat) :
    codePoint n = n ∨ ∃ entry ∈ runs ++ everySecond, entry.1 ≤ n ∧ n ≤ entry.2.1 ∧
      codePoint n = entry.2.2 + (n - entry.1) := by
  unfold codePoint
  split
  · rename_i first last image hfind
    have hmem := List.mem_of_find?_eq_some hfind
    have hrange := List.find?_some hfind
    simp only [Bool.and_eq_true, decide_eq_true_eq] at hrange
    exact Or.inr ⟨_, List.mem_append_left _ hmem, hrange.1, hrange.2, rfl⟩
  · split
    · rename_i first last image hfind
      have hmem := List.mem_of_find?_eq_some hfind
      have hrange := List.find?_some hfind
      simp only [Bool.and_eq_true, decide_eq_true_eq] at hrange
      exact Or.inr ⟨_, List.mem_append_right _ hmem, hrange.1.1, hrange.1.2, rfl⟩
    · exact Or.inl rfl

theorem isBlank_codePoint {c : Char} (h : isBlank (Char.ofNat (codePoint c.toNat)) = true) :
    isBlank c = true := by
  obtain ⟨run, hrun, hlow, hhigh⟩ := isBlank_ofNat h
  rcases codePoint_cases c.toNat with hsame | ⟨entry, hentry, hfirst, hlast, himage⟩
  · rw [hsame] at hlow hhigh
    exact isBlank_iff.mpr ⟨run, hrun, hlow, hhigh⟩
  · have hclear := images_not_blank entry hentry run hrun
    omega

theorem space_of_mem_ofChar {c d : Char} (hc : isBlank c = true → c = ' ') (hd : d ∈ ofChar c)
    (hb : isBlank d = true) : d = ' ' := by
  unfold ofChar at hd
  split at hd
  · rcases List.mem_pair.mp hd with rfl | rfl <;> cases hb
  · cases List.mem_singleton.mp hd
    rw [hc (isBlank_codePoint hb)]
    rfl

theorem space_of_mem_behind {cs : List Char} (h : ∀ c ∈ cs, isBlank c = true → c = ' ')
    (before : List Char) : ∀ d ∈ behind before cs, isBlank d = true → d = ' ' := by
  induction cs generalizing before with
  | nil => exact List.forall_mem_nil _
  | cons c cs ih =>
      obtain ⟨hc, hcs⟩ := List.forall_mem_cons.mp h
      rw [behind]
      refine List.forall_mem_append.mpr ⟨?_, ih hcs (c :: before)⟩
      intro d hd hb
      split at hd
      · cases List.mem_singleton.mp hd
        cases hb
      · exact space_of_mem_ofChar hc hd hb

end Unicode.Lowercase

open Text

theorem oneLine_lowercase {word : String} (hw : OneLine word) :
    OneLine (String.ofList (Unicode.lowercase word.toList)) := by
  rw [OneLine, String.toList_ofList]
  exact Unicode.Lowercase.space_of_mem_behind hw []

/-! ## Shapes -/

namespace WordShape

theorem mem_of_mem_collapse {x : Char} {cs : List Char} (h : x ∈ collapse cs) : x ∈ cs := by
  unfold collapse at h
  split at h
  · exact h
  · simp only [List.mem_append, mem_classSet_iff] at h
    rcases h with (hfront | hinner) | hback
    · exact List.mem_of_mem_take hfront
    · exact List.mem_of_mem_drop (List.mem_of_mem_take hinner)
    · exact List.mem_of_mem_drop hback

theorem isBlank_of_mem_classes {c : Char} (h : c ∈ classes) : isBlank c = false := by
  have hall : classes.all (!isBlank ·) = true := by decide
  simpa using List.all_eq_true.mp hall c h

theorem simpleClass_cases (c : Char) : simpleClass c ∈ classes ∨ simpleClass c = c := by
  unfold simpleClass
  repeat' split
  all_goals simp [classes]

end WordShape

theorem oneLine_chris2 {word : String} (hw : OneLine word) :
    OneLine (Shaper.chris2.shape word) := by
  intro c hc hb
  rw [Shaper.GoesBy.chris2.shape_eq, String.toList_ofList] at hc
  obtain ⟨x, hx, rfl⟩ := List.mem_map.mp (WordShape.mem_of_mem_collapse hc)
  rcases WordShape.simpleClass_cases x with hclass | hsame
  · rw [WordShape.isBlank_of_mem_classes hclass] at hb
    cases hb
  · rw [hsame] at hb ⊢
    exact hw x hx hb

theorem oneLine_chris4 (word : String) : OneLine (Shaper.chris4.shape word) := by
  intro c hc hb
  rw [Shaper.GoesBy.chris4.shape_eq, String.toList_ofList] at hc
  obtain ⟨x, _, rfl⟩ := List.mem_map.mp (WordShape.mem_of_mem_collapse hc)
  rw [WordShape.isBlank_of_mem_classes (WordShape.categoryClass_mem x)] at hb
  cases hb

theorem oneLine_shape {shaper : Shaper} (hs : shaper ∈ Shaper.all) {word : String}
    (hw : OneLine word) : OneLine (shaper.shape word) := by
  simp only [Shaper.all, List.mem_cons, List.not_mem_nil, or_false] at hs
  rcases hs with rfl | rfl | rfl
  · exact oneLine_chris2 hw
  · exact oneLine_chris4 word
  · exact hw

/-! ## Keys -/

namespace Template

theorem oneLine_text {t : Template} (ht : t.Registered) {word : Int → String} {tags : List String}
    (hw : ∀ o, OneLine (word o)) (htags : ∀ tag ∈ tags, OneLine tag) :
    OneLine (t.text word tags) := by
  have hseparator : OneLine separator := by decide
  cases t with
  | word offset => exact hw offset
  | lowercaseWord offset => exact oneLine_lowercase (hw offset)
  | capitalizedWord =>
      simp only [text]
      split
      · decide
      · exact hw 0
  | tag _ | twoTags _ | threeTags _ | tagWindow _ => exact oneLine_joinWith hseparator htags
  | wordTag i _ =>
      exact oneLine_joinWith hseparator (List.forall_mem_append.mpr ⟨htags, by simp [hw]⟩)
  | twoWords words => exact oneLine_joinWith hseparator (by simp [hw])
  | twoWordsTag words _ =>
      refine oneLine_joinWith hseparator (List.forall_mem_cons.mpr ⟨hw _, ?_⟩)
      exact List.forall_mem_append.mpr ⟨htags, by simp [hw]⟩
  | wordTwoTags i _ =>
      refine oneLine_joinWith hseparator (List.forall_mem_append.mpr ⟨?_, ?_⟩)
      · exact fun tag hmem => htags tag (List.mem_of_mem_take hmem)
      · exact List.forall_mem_cons.mpr ⟨hw i, fun tag hmem => htags tag (List.mem_of_mem_drop hmem)⟩
  | wordShape offset shaper => exact oneLine_shape ht (hw offset)
  | shapeConjunction first last shaper =>
      refine oneLine_joinWith (by decide) (List.forall_mem_map.mpr fun o _ => ?_)
      exact oneLine_shape ht (hw o)
  | participle bound dictionary =>
      simp only [text]
      split <;> decide

theorem oneLine_key {c : Corpus} {h : Cursor} {word : Int → String} {key : String} {t : Template}
    (ht : t.Registered) (hw : ∀ o, c.wordAt h o = .ok (word o)) (hwords : ∀ o, OneLine (word o))
    (htags : ∀ o tag, c.tagAt h o = .ok tag → OneLine tag) (hk : t.key c h = .ok key) :
    OneLine key := by
  rw [key_eq t hw] at hk
  obtain ⟨tags, hread, rfl⟩ := exists_of_map_ok hk
  refine oneLine_text ht hwords fun tag hmem => ?_
  obtain ⟨o, _, htag⟩ := exists_of_mem_of_mapM_ok hread hmem
  exact htags o tag htag

/-! ## Printed forms -/

theorem oneLine_wordMark (offset : Int) : OneLine (wordMark offset) :=
  .append (by decide) (oneLine_int offset)

theorem oneLine_tagMark (offset : Int) : OneLine (tagMark offset) :=
  .append (by decide) (oneLine_int offset)

theorem oneLine_name {shaper : Shaper} (hs : shaper ∈ Shaper.all) : OneLine shaper.name := by
  simp only [Shaper.all, List.mem_cons, List.not_mem_nil, or_false] at hs
  rcases hs with rfl | rfl | rfl <;> decide

section
variable {head a b c last : String}

theorem oneLine_call (hh : OneLine head) (ha : OneLine a) (hl : OneLine last) :
    OneLine (head ++ a ++ last) :=
  (hh.append ha).append hl

theorem oneLine_call₂ (hh : OneLine head) (ha : OneLine a) (hb : OneLine b) (hl : OneLine last) :
    OneLine (head ++ a ++ "," ++ b ++ last) :=
  oneLine_call (oneLine_call hh ha (by decide)) hb hl

theorem oneLine_call₃ (hh : OneLine head) (ha : OneLine a) (hb : OneLine b) (hc : OneLine c)
    (hl : OneLine last) : OneLine (head ++ a ++ "," ++ b ++ "," ++ c ++ last) :=
  oneLine_call (oneLine_call₂ hh ha hb (by decide)) hc hl

end

theorem oneLine_print {t : Template} (ht : t.Registered) : OneLine t.print := by
  have hclose : OneLine ")" := by decide
  cases t with
  | capitalizedWord => decide
  | word o | lowercaseWord o => exact oneLine_call (by decide) (oneLine_wordMark o) hclose
  | tag o => exact oneLine_call (by decide) (oneLine_tagMark o) hclose
  | tagWindow o => exact oneLine_call (by decide) (oneLine_tagMark o) (by decide)
  | participle bound _ => exact oneLine_call (by decide) (oneLine_int bound) hclose
  | wordTag i j =>
      exact oneLine_call₂ (by decide) (oneLine_wordMark i) (oneLine_tagMark j) hclose
  | twoWords words =>
      exact oneLine_call₂ (by decide) (oneLine_wordMark _) (oneLine_wordMark _) hclose
  | twoTags tags =>
      exact oneLine_call₂ (by decide) (oneLine_tagMark _) (oneLine_tagMark _) hclose
  | wordShape o shaper =>
      exact oneLine_call₂ (by decide) (oneLine_wordMark o) (oneLine_name ht) hclose
  | twoWordsTag words j =>
      exact oneLine_call₃ (by decide) (oneLine_wordMark _) (oneLine_tagMark j)
        (oneLine_wordMark _) hclose
  | threeTags tags =>
      exact oneLine_call₃ (by decide) (oneLine_tagMark _) (oneLine_tagMark _) (oneLine_tagMark _)
        hclose
  | wordTwoTags i tags =>
      exact oneLine_call₃ (by decide) (oneLine_tagMark _) (oneLine_wordMark i) (oneLine_tagMark _)
        hclose
  | shapeConjunction first last shaper =>
      exact oneLine_call₃ (by decide) (oneLine_int first) (oneLine_int last) (oneLine_name ht)
        hclose

end Template
end TaggerFeatures

import TaggerFeatures.FeatureSet
import TaggerFeatures.Proofs.Template.Key

/-!
The tag window of a template, from `leftContext` positions before the cursor to `rightContext` after
it. It is exact: tags in it are enough for a key, and those at its ends are needed. Tags outside of
it have no influence on the key.
-/
namespace TaggerFeatures

/-! ## Windows of a corpus -/

namespace Corpus

/-- A position of the sentence that has no tag. -/
def Missing (c : Corpus) (s i : Int) : Prop := c.Inside s i ∧ ¬ c.Assigned s i

/-- Every position of the sentence from `first` to `last` has a tag. -/
def AssignedFrom (c : Corpus) (s first last : Int) : Prop :=
  ∀ i, first ≤ i → i ≤ last → c.Inside s i → c.Assigned s i

/-- The sentence has the same words in both corpora, and the same tags, given or missing, at its
positions from `first` to `last`. -/
structure AgreeFrom (c d : Corpus) (s first last : Int) : Prop where
  words : c.wordsOf s = d.wordsOf s
  tags : ∀ i, first ≤ i → i ≤ last → c.Inside s i → c.tagSlot? s i = d.tagSlot? s i

variable {c d : Corpus} {h : Cursor} {o : Int}

theorem exists_tagAt (hc : c.Aligned) (hs : c.Knows h.sentence)
    (ho : c.Inside h.sentence (h.position + o) → c.Assigned h.sentence (h.position + o)) :
    ∃ tag, c.tagAt h o = .ok tag := by
  obtain ⟨s, p⟩ := h
  rw [tagAt_eq hc hs]
  by_cases hi : c.Inside s (p + o)
  · obtain ⟨tag, ht⟩ := ho hi
    exact ⟨tag, by rw [ht]⟩
  · rw [(tagSlot?_eq_none_iff hc hs).mpr hi]
    exact ⟨boundary, rfl⟩

theorem missing_iff (hc : c.Aligned) {s i : Int} (hs : c.Knows s) :
    c.Missing s i ↔ c.tagSlot? s i = some none := by
  have hinside : c.Inside s i ↔ c.tagSlot? s i ≠ none := by
    rw [Ne, tagSlot?_eq_none_iff hc hs, not_not]
  rw [Missing, Assigned, hinside]
  rcases c.tagSlot? s i with _ | _ | tag <;> simp

theorem tagAt_of_missing (hc : c.Aligned) (hs : c.Knows h.sentence)
    (hm : c.Missing h.sentence (h.position + o)) :
    c.tagAt h o = .error (Error.unassigned h o).reported :=
  (tagAt_eq_error_iff hc).mpr (Or.inr ⟨hs, (missing_iff hc hs).mp hm, rfl⟩)

/-- For a known sentence a tag that cannot be read is missing. -/
theorem missing_of_tagAt (hc : c.Aligned) (hs : c.Knows h.sentence) {e : Error}
    (he : c.tagAt h o = .error e) :
    c.Missing h.sentence (h.position + o) ∧ e = (Error.unassigned h o).reported := by
  rcases (tagAt_eq_error_iff hc).mp he with ⟨hn, _⟩ | ⟨_, hslot, rfl⟩
  · exact absurd hs hn
  · exact ⟨(missing_iff hc hs).mpr hslot, rfl⟩

/-- The result is that the tag at an offset is missing. The error names the offset and the cursor,
if they can be written. -/
def MissesAt {α : Type} (c : Corpus) (h : Cursor) (o : Int) (result : Except Error α) : Prop :=
  c.Missing h.sentence (h.position + o) ∧
    ∃ e, Told [o, h.position, h.sentence] (.unassigned h o) e ∧ result = .error e

theorem missesAt_of_tagAt {α : Type} (hc : c.Aligned) (hs : c.Knows h.sentence) {e : Error}
    (he : c.tagAt h o = .error e) : c.MissesAt h o (.error e : Except Error α) := by
  obtain ⟨hm, htold⟩ := missing_of_tagAt hc hs he
  exact ⟨hm, e, told_unassigned_iff.mpr htold, rfl⟩

theorem MissesAt.error {α β : Type} {r : Except Error α} {e : Error} (hm : c.MissesAt h o r)
    (he : r = .error e) : c.MissesAt h o (.error e : Except Error β) := by
  obtain ⟨hmissing, e', htold, he'⟩ := hm
  cases he'.symm.trans he
  exact ⟨hmissing, e, htold, rfl⟩

theorem MissesAt.map {α β : Type} {r : Except Error α} {f : α → β} (hm : c.MissesAt h o r) :
    c.MissesAt h o (r.map f) := by
  obtain ⟨hmissing, e, htold, rfl⟩ := hm
  exact ⟨hmissing, e, htold, rfl⟩

theorem MissesAt.not_ok {α : Type} {r : Except Error α} (hm : c.MissesAt h o r) (x : α) :
    r ≠ .ok x := by
  obtain ⟨-, e, -, rfl⟩ := hm
  simp

/-- With few digits the error is told as it is. -/
theorem MissesAt.eq_unassigned {α : Type} {r : Except Error α} (hm : c.MissesAt h o r)
    (ho : o.natAbs < 10) (hp : h.position.natAbs < 10) (hs : h.sentence.natAbs < 10) :
    r = .error (.unassigned h o) := by
  obtain ⟨-, e, htold, rfl⟩ := hm
  have hsmall : ∀ n : Int, n.natAbs < 10 ^ 1 → ¬ Numeral.Wide n :=
    fun n => Numeral.not_wide_of_lt (by decide)
  rw [htold.eq_of_not_wide]
  simp only [List.forall_mem_cons, List.not_mem_nil, false_imp_iff, implies_true, and_true]
  exact ⟨hsmall o ho, hsmall _ hp, hsmall _ hs⟩

/-- With a far offset the error cannot be written. -/
theorem MissesAt.eq_unprintable {α : Type} {r : Except Error α} (hm : c.MissesAt h o r)
    (hp : Numeral.Wide h.position) : r = .error .unprintable := by
  obtain ⟨-, e, htold, rfl⟩ := hm
  rw [htold.unique (.unprintable ⟨h.position, by simp, hp⟩)]

/-- The same tag is found at two places, or it is missing at both. -/
def SameTag (c : Corpus) (h : Cursor) (o : Int) (d : Corpus) (h' : Cursor) (o' : Int) : Prop :=
  (∃ tag, c.tagAt h o = .ok tag ∧ d.tagAt h' o' = .ok tag) ∨
    c.Missing h.sentence (h.position + o) ∧ d.Missing h'.sentence (h'.position + o')

/-- Tags that are read in order, here and there, are the same, or are first missing at places that
belong together. -/
theorem SameTag.mapM {h' : Cursor} (there : Int → Int) (offsets : List Int) (hc : c.Aligned)
    (hd : d.Aligned) (hs : c.Knows h.sentence) (hs' : d.Knows h'.sentence)
    (hsame : ∀ o ∈ offsets, SameTag c h o d h' (there o)) :
    (∃ tags, offsets.mapM (c.tagAt h) = .ok tags ∧
        offsets.mapM (fun o => d.tagAt h' (there o)) = .ok tags) ∨
      ∃ o ∈ offsets, c.MissesAt h o (offsets.mapM (c.tagAt h)) ∧
        d.MissesAt h' (there o) (offsets.mapM fun o => d.tagAt h' (there o)) := by
  have hsteps : ∀ o ∈ offsets,
      (∃ tag, c.tagAt h o = .ok tag ∧ d.tagAt h' (there o) = .ok tag) ∨
        ∃ e e', c.tagAt h o = .error e ∧ d.tagAt h' (there o) = .error e' := by
    intro o ho
    rcases hsame o ho with htag | ⟨hm, hm'⟩
    · exact Or.inl htag
    · exact Or.inr ⟨_, _, tagAt_of_missing hc hs hm, tagAt_of_missing hd hs' hm'⟩
  rcases mapM_ok_or_stop hsteps with htags | ⟨o, ho, e, e', ⟨he, he'⟩, hstops, hstops'⟩
  · exact Or.inl htags
  · rw [hstops, hstops']
    exact Or.inr ⟨o, ho, missesAt_of_tagAt hc hs he, missesAt_of_tagAt hd hs' he'⟩

theorem sameTag_of_eq {h' : Cursor} {o' : Int} (hc : c.Aligned) (hd : d.Aligned)
    (hs : c.Knows h.sentence) (hs' : d.Knows h'.sentence) (he : c.tagAt h o = d.tagAt h' o') :
    SameTag c h o d h' o' := by
  cases ht : c.tagAt h o with
  | ok tag => exact Or.inl ⟨tag, ht, he.symm.trans ht⟩
  | error e =>
      exact Or.inr ⟨(missing_of_tagAt hc hs ht).1, (missing_of_tagAt hd hs' (he.symm.trans ht)).1⟩

theorem AgreeFrom.mono {s first last first' last' : Int} (ha : AgreeFrom c d s first last)
    (hf : first ≤ first') (hl : last' ≤ last) : AgreeFrom c d s first' last' where
  words := ha.words
  tags := fun i hi hi' => ha.tags i (hf.trans hi) (hi'.trans hl)

theorem AgreeFrom.knows {s first last : Int} (ha : AgreeFrom c d s first last) (hs : c.Knows s) :
    d.Knows s := by
  by_contra hd
  obtain ⟨n, words, rfl, hw⟩ := hs.words
  have := ha.words
  rw [wordsOf_of_not_knows hd, wordsOf_eq_ok_iff.mpr ⟨n, rfl, hw⟩] at this
  cases this

theorem AgreeFrom.wordAt_eq {first last : Int} (ha : AgreeFrom c d h.sentence first last) (o : Int) :
    c.wordAt h o = d.wordAt h o := by
  simp only [wordAt, ha.words]

theorem AgreeFrom.tagAt_eq {first last : Int} (ha : AgreeFrom c d h.sentence first last)
    (hc : c.Aligned) (hd : d.Aligned) (hs : c.Knows h.sentence) (hf : first ≤ h.position + o)
    (hl : h.position + o ≤ last) : c.tagAt h o = d.tagAt h o := by
  obtain ⟨s, p⟩ := h
  have hsame : c.Inside s (p + o) ↔ d.Inside s (p + o) := by
    simp only [Inside, ha.words]
  rw [Corpus.tagAt_eq hc hs, Corpus.tagAt_eq hd (ha.knows hs)]
  by_cases hi : c.Inside s (p + o)
  · rw [ha.tags _ hf hl hi]
  · rw [(tagSlot?_eq_none_iff hc hs).mpr hi,
      (tagSlot?_eq_none_iff hd (ha.knows hs)).mpr (mt hsame.mpr hi)]

end Corpus

/-- Tags from `left` positions before the cursor to `right` after it are enough for a result, and
neither end can do without its tag: then some tag in this stretch is missed. -/
structure ExactWindow {α : Type} (left right : Nat) (c : Corpus) (h : Cursor)
    (result : Except Corpus.Error α) : Prop where
  enough : c.AssignedFrom h.sentence (h.position - left) (h.position + right) →
    ∃ x, result = .ok x
  left_needed : 0 < left → c.Missing h.sentence (h.position - left) →
    ∃ o : Int, (-(left : Int) ≤ o ∧ o ≤ right) ∧ c.MissesAt h o result
  right_needed : 0 < right → c.Missing h.sentence (h.position + right) →
    ∃ o : Int, (-(left : Int) ≤ o ∧ o ≤ right) ∧ c.MissesAt h o result

namespace Template

/-! ## Offsets in the window -/

theorem mem_windowOffsets_iff {farthest o : Int} :
    o ∈ windowOffsets farthest ↔ (farthest ≤ o ∧ o < 0) ∨ (0 < o ∧ o ≤ farthest) := by
  unfold windowOffsets windowStep
  rw [Offsets.mem_run_iff]
  constructor
  · rintro ⟨i, hi, rfl⟩
    split <;> omega
  · intro h
    split
    · exact ⟨(o - farthest).toNat, by omega, by omega⟩
    · exact ⟨(farthest - o).toNat, by omega, by omega⟩

/-- Every tag that is read lies in the window. -/
theorem tagOffsets_in_window {t : Template} {o : Int} (ho : o ∈ t.tagOffsets) :
    -(t.leftContext : Int) ≤ o ∧ o ≤ t.rightContext := by
  cases t with
  | tag offset | wordTag _ offset | twoWordsTag _ offset =>
      simp only [tagOffsets, List.mem_singleton] at ho
      simp only [leftContext, rightContext, leftOf, rightOf]
      omega
  | twoTags tags | wordTwoTags _ tags =>
      have := tags.low_le_high
      simp only [tagOffsets, List.mem_cons, List.not_mem_nil, or_false] at ho
      simp only [leftContext, rightContext, leftOf, rightOf]
      omega
  | threeTags tags =>
      have := tags.low_le_middle
      have := tags.middle_le_high
      simp only [tagOffsets, List.mem_cons, List.not_mem_nil, or_false] at ho
      simp only [leftContext, rightContext, leftOf, rightOf]
      omega
  | tagWindow farthest =>
      simp only [tagOffsets, mem_windowOffsets_iff] at ho
      simp only [leftContext, rightContext, leftOf, rightOf]
      omega
  | _ => cases ho

/-- The ends of the window are read, unless they are the cursor. -/
theorem left_end_mem_tagOffsets {t : Template} (ht : 0 < t.leftContext) :
    -(t.leftContext : Int) ∈ t.tagOffsets := by
  cases t with
  | tag _ | wordTag _ _ | twoWordsTag _ _ | twoTags _ | wordTwoTags _ _ | threeTags _ =>
      simp only [leftContext, leftOf] at ht ⊢
      simp only [tagOffsets, List.mem_cons, List.not_mem_nil, or_false]
      omega
  | tagWindow farthest =>
      simp only [leftContext, leftOf] at ht ⊢
      simp only [tagOffsets, mem_windowOffsets_iff]
      omega
  | _ => cases ht

theorem right_end_mem_tagOffsets {t : Template} (ht : 0 < t.rightContext) :
    (t.rightContext : Int) ∈ t.tagOffsets := by
  cases t with
  | tag _ | wordTag _ _ | twoWordsTag _ _ | twoTags _ | wordTwoTags _ _ | threeTags _ =>
      simp only [rightContext, rightOf] at ht ⊢
      simp only [tagOffsets, List.mem_cons, List.not_mem_nil, or_false]
      omega
  | tagWindow farthest =>
      simp only [rightContext, rightOf] at ht ⊢
      simp only [tagOffsets, mem_windowOffsets_iff]
      omega
  | _ => cases ht

/-! ## Keys -/

variable {c d : Corpus} {h : Cursor}

/-- For a known sentence there is a key just if every tag that is read can be read. -/
theorem exists_key_iff (t : Template) (hs : c.Knows h.sentence) :
    (∃ k, t.key c h = .ok k) ↔ ∀ o ∈ t.tagOffsets, ∃ tag, c.tagAt h o = .ok tag := by
  obtain ⟨word, hw⟩ := Corpus.exists_wordAt hs
  rw [key_eq t hw, ← exists_mapM_ok_iff]
  cases t.tagOffsets.mapM (c.tagAt h) <;> simp [Except.map]

/-- For a known sentence the only failure is a missing tag. -/
theorem key_ok_or_misses (t : Template) (hc : c.Aligned) (hs : c.Knows h.sentence) :
    (∃ k, t.key c h = .ok k) ∨ ∃ o ∈ t.tagOffsets, c.MissesAt h o (t.key c h) := by
  obtain ⟨word, hw⟩ := Corpus.exists_wordAt hs
  rw [key_eq t hw]
  cases htags : t.tagOffsets.mapM (c.tagAt h) with
  | ok tags => exact Or.inl ⟨_, rfl⟩
  | error e =>
      obtain ⟨o, ho, he⟩ := exists_of_mapM_error htags
      exact Or.inr ⟨o, ho, Corpus.missesAt_of_tagAt hc hs he⟩

theorem exists_misses (t : Template) (hc : c.Aligned) (hs : c.Knows h.sentence) {o : Int}
    (ho : o ∈ t.tagOffsets) (hm : c.Missing h.sentence (h.position + o)) :
    ∃ o' ∈ t.tagOffsets, c.MissesAt h o' (t.key c h) := by
  rcases t.key_ok_or_misses hc hs with hk | hk
  · obtain ⟨tag, ht⟩ := (t.exists_key_iff hs).mp hk o ho
    rw [Corpus.tagAt_of_missing hc hs hm] at ht
    cases ht
  · exact hk

theorem exactWindow (t : Template) (hc : c.Aligned) (hs : c.Knows h.sentence) :
    ExactWindow t.leftContext t.rightContext c h (t.key c h) where
  enough := by
    intro hall
    rw [t.exists_key_iff hs]
    intro o ho
    obtain ⟨hl, hr⟩ := tagOffsets_in_window ho
    exact Corpus.exists_tagAt hc hs (hall _ (by omega) (by omega))
  left_needed := by
    intro hl hm
    obtain ⟨o, ho, hmisses⟩ := t.exists_misses hc hs (left_end_mem_tagOffsets hl) hm
    exact ⟨o, tagOffsets_in_window ho, hmisses⟩
  right_needed := by
    intro hr hm
    obtain ⟨o, ho, hmisses⟩ := t.exists_misses hc hs (right_end_mem_tagOffsets hr) hm
    exact ⟨o, tagOffsets_in_window ho, hmisses⟩

/-- Where the same words are found around two cursors, and at the offsets that are read the same
tags or missing ones, the keys are the same, or the same tag is missed. -/
theorem same_key_or_misses {h' : Cursor} {word : Int → String} (t : Template) (hc : c.Aligned)
    (hd : d.Aligned) (hs : c.Knows h.sentence) (hs' : d.Knows h'.sentence)
    (hw : ∀ o, c.wordAt h o = .ok (word o)) (hw' : ∀ o, d.wordAt h' o = .ok (word o))
    (hsame : ∀ o ∈ t.tagOffsets, c.SameTag h o d h' o) :
    (∃ k, t.key c h = .ok k ∧ t.key d h' = .ok k) ∨
      ∃ o, c.MissesAt h o (t.key c h) ∧ d.MissesAt h' o (t.key d h') := by
  rw [key_eq t hw, key_eq t hw']
  rcases Corpus.SameTag.mapM id t.tagOffsets hc hd hs hs' hsame
    with ⟨tags, htags, htags'⟩ | ⟨o, -, hm, hm'⟩
  · exact Or.inl ⟨t.text word tags, by rw [htags]; rfl, congrArg _ htags'⟩
  · exact Or.inr ⟨o, hm.map, hm'.map⟩

/-- Corpora that agree on the window give the same key, or the same error. -/
theorem key_eq_of_agree (t : Template) (hc : c.Aligned) (hd : d.Aligned)
    (hs : c.Knows h.sentence)
    (ha : c.AgreeFrom d h.sentence (h.position - t.leftContext) (h.position + t.rightContext)) :
    t.key c h = t.key d h := by
  obtain ⟨word, hw⟩ := Corpus.exists_wordAt hs
  have hw' : ∀ o, d.wordAt h o = .ok (word o) := fun o => by rw [← ha.wordAt_eq, hw]
  rw [key_eq t hw, key_eq t hw']
  congr 1
  apply mapM_congr
  intro o ho
  obtain ⟨hl, hr⟩ := tagOffsets_in_window ho
  exact ha.tagAt_eq hc hd hs (by omega) (by omega)

theorem agree_or_miss (t : Template) (hc : c.Aligned) (hd : d.Aligned) (hs : c.Knows h.sentence)
    (ha : c.AgreeFrom d h.sentence (h.position - t.leftContext) (h.position + t.rightContext)) :
    (∃ k, t.key c h = .ok k ∧ t.key d h = .ok k) ∨
      ∃ o, c.MissesAt h o (t.key c h) ∧ d.MissesAt h o (t.key d h) := by
  obtain ⟨word, hw⟩ := Corpus.exists_wordAt hs
  have hw' : ∀ o, d.wordAt h o = .ok (word o) := fun o => by rw [← ha.wordAt_eq, hw]
  refine t.same_key_or_misses hc hd hs (ha.knows hs) hw hw' fun o ho => ?_
  obtain ⟨hl, hr⟩ := tagOffsets_in_window ho
  exact Corpus.sameTag_of_eq hc hd hs (ha.knows hs)
    (ha.tagAt_eq hc hd hs (by omega) (by omega))

end Template

/-! ## Sets of templates -/

namespace FeatureSet

theorem foldl_max_zero (ns : List Nat) :
    (∀ n ∈ ns, n ≤ ns.foldl max 0) ∧ (0 < ns.foldl max 0 → ns.foldl max 0 ∈ ns) := by
  rw [List.foldl_max]
  cases hm : ns.max? with
  | none =>
      rw [List.max?_eq_none_iff] at hm
      simp [hm]
  | some m =>
      obtain ⟨hmem, hle⟩ := List.max?_eq_some_iff.mp hm
      simp only [Option.getD_some, Nat.zero_max]
      exact ⟨hle, fun _ => hmem⟩

theorem foldl_max_eq {ns : List Nat} {m : Nat} (hle : ∀ n ∈ ns, n ≤ m) (hm : 0 < m → m ∈ ns) :
    ns.foldl max 0 = m := by
  obtain ⟨hbound, hmem⟩ := foldl_max_zero ns
  apply Nat.le_antisymm
  · by_contra hlt
    exact hlt (hle _ (hmem (Nat.zero_lt_of_lt (Nat.not_le.mp hlt))))
  · by_contra hlt
    exact hlt (hbound _ (hm (Nat.zero_lt_of_lt (Nat.not_le.mp hlt))))

variable {s : FeatureSet}

theorem leftContext_le {t : Template} (ht : t ∈ s.templates) : t.leftContext ≤ s.leftContext :=
  (foldl_max_zero _).1 _ (List.mem_map_of_mem ht)

theorem rightContext_le {t : Template} (ht : t ∈ s.templates) : t.rightContext ≤ s.rightContext :=
  (foldl_max_zero _).1 _ (List.mem_map_of_mem ht)

theorem exists_leftContext (h : 0 < s.leftContext) :
    ∃ t ∈ s.templates, t.leftContext = s.leftContext :=
  List.mem_map.mp ((foldl_max_zero _).2 h)

theorem exists_rightContext (h : 0 < s.rightContext) :
    ∃ t ∈ s.templates, t.rightContext = s.rightContext :=
  List.mem_map.mp ((foldl_max_zero _).2 h)

variable {c d : Corpus} {h : Cursor}

theorem exists_keys_iff (s : FeatureSet) :
    (∃ ks, s.keys c h = .ok ks) ↔ ∀ t ∈ s.templates, ∃ k, t.key c h = .ok k :=
  exists_mapM_ok_iff

theorem keys_ok_or_misses (s : FeatureSet) (hc : c.Aligned) (hs : c.Knows h.sentence) :
    (∃ ks, s.keys c h = .ok ks) ∨
      ∃ t ∈ s.templates, ∃ o ∈ t.tagOffsets, c.MissesAt h o (s.keys c h) := by
  cases hkeys : s.keys c h with
  | ok ks => exact Or.inl ⟨ks, rfl⟩
  | error e =>
      obtain ⟨t, ht, he⟩ := exists_of_mapM_error hkeys
      rcases t.key_ok_or_misses hc hs with ⟨k, hk⟩ | ⟨o, ho, hm⟩
      · rw [he] at hk
        cases hk
      · exact Or.inr ⟨t, ht, o, ho, hm.error he⟩

theorem tagOffsets_in_window {t : Template} (ht : t ∈ s.templates) {o : Int}
    (ho : o ∈ t.tagOffsets) : -(s.leftContext : Int) ≤ o ∧ o ≤ s.rightContext := by
  have hwindow := Template.tagOffsets_in_window ho
  have hl := leftContext_le ht
  have hr := rightContext_le ht
  omega

/-- A set misses a tag in its window if one of its templates misses one. -/
theorem exists_misses (s : FeatureSet) (hc : c.Aligned) (hs : c.Knows h.sentence) {t : Template}
    (ht : t ∈ s.templates) {o : Int} (hm : c.MissesAt h o (t.key c h)) :
    ∃ o' : Int, (-(s.leftContext : Int) ≤ o' ∧ o' ≤ s.rightContext) ∧
      c.MissesAt h o' (s.keys c h) := by
  rcases s.keys_ok_or_misses hc hs with hks | ⟨t', ht', o', ho', hm'⟩
  · obtain ⟨k, hok⟩ := s.exists_keys_iff.mp hks t ht
    exact absurd hok (hm.not_ok k)
  · exact ⟨o', tagOffsets_in_window ht' ho', hm'⟩

/-- The window of a set is exact, since it holds the windows of its templates and has its ends from
them. -/
theorem exactWindow (s : FeatureSet) (hc : c.Aligned) (hs : c.Knows h.sentence) :
    ExactWindow s.leftContext s.rightContext c h (s.keys c h) where
  enough := by
    intro hall
    rw [s.exists_keys_iff]
    intro t ht
    have hl := leftContext_le ht
    have hr := rightContext_le ht
    exact (t.exactWindow hc hs).enough fun i hi hi' => hall i (by omega) (by omega)
  left_needed := by
    intro hl hm
    obtain ⟨t, ht, hte⟩ := exists_leftContext hl
    rw [← hte] at hl hm
    obtain ⟨o, -, hmisses⟩ := (t.exactWindow hc hs).left_needed hl hm
    exact s.exists_misses hc hs ht hmisses
  right_needed := by
    intro hr hm
    obtain ⟨t, ht, hte⟩ := exists_rightContext hr
    rw [← hte] at hr hm
    obtain ⟨o, -, hmisses⟩ := (t.exactWindow hc hs).right_needed hr hm
    exact s.exists_misses hc hs ht hmisses

theorem keys_eq_of_agree (s : FeatureSet) (hc : c.Aligned) (hd : d.Aligned)
    (hs : c.Knows h.sentence)
    (ha : c.AgreeFrom d h.sentence (h.position - s.leftContext) (h.position + s.rightContext)) :
    s.keys c h = s.keys d h := by
  apply mapM_congr
  intro t ht
  have hl := leftContext_le ht
  have hr := rightContext_le ht
  exact t.key_eq_of_agree hc hd hs (ha.mono (by omega) (by omega))

theorem agree_or_miss (s : FeatureSet) (hc : c.Aligned) (hd : d.Aligned)
    (hs : c.Knows h.sentence)
    (ha : c.AgreeFrom d h.sentence (h.position - s.leftContext) (h.position + s.rightContext)) :
    (∃ ks, s.keys c h = .ok ks ∧ s.keys d h = .ok ks) ∨
      ∃ o, c.MissesAt h o (s.keys c h) ∧ d.MissesAt h o (s.keys d h) := by
  rw [← s.keys_eq_of_agree hc hd hs ha]
  cases hkeys : s.keys c h with
  | ok ks => exact Or.inl ⟨ks, rfl, rfl⟩
  | error e =>
      -- The first template that fails fails in both corpora, and misses the same tag there.
      obtain ⟨t, ht, he⟩ := exists_of_mapM_error hkeys
      have hl := leftContext_le ht
      have hr := rightContext_le ht
      have hwindow : c.AgreeFrom d h.sentence (h.position - t.leftContext)
          (h.position + t.rightContext) := ha.mono (by omega) (by omega)
      rcases t.agree_or_miss hc hd hs hwindow with ⟨k, hk, -⟩ | ⟨o, hm, hm'⟩
      · rw [he] at hk
        cases hk
      · have he' := (t.key_eq_of_agree hc hd hs hwindow).symm.trans he
        exact Or.inr ⟨o, hm.error he, hm'.error he'⟩

end FeatureSet

/-! ## The window decides -/

variable {c d : Corpus} {h : Cursor}

/-- Four words of which the last one has no tag. -/
def Corpus.partlyTagged : Corpus :=
  empty.run [.add ["time", "flies", "like", "arrows"]
    (some [some "NN", some "VBZ", some "IN", none])]

/-- One word without a tag. -/
def Corpus.untagged : Corpus := empty.run [.add ["so"] none]

/-- From a cursor that cannot be written, the missing tag of a word is not reported as such. -/
theorem Template.leftContext_tag_neg (n : Nat) : (tag (-(n : Int))).leftContext = n := by
  simp [leftContext, leftOf]

/-- At a position with too many digits a missing tag cannot be reported. -/
theorem Template.key_of_missing_at_limit {t : Template} {s o : Int} (hc : c.Aligned)
    (hs : c.Knows s) (ho : o ∈ t.tagOffsets) (hm : c.Missing s (Numeral.limit + o)) :
    t.key c ⟨s, Numeral.limit⟩ = .error .unprintable := by
  obtain ⟨_, -, hmisses⟩ := t.exists_misses (h := ⟨s, Numeral.limit⟩) hc hs ho hm
  exact hmisses.eq_unprintable Numeral.wide_limit

theorem Template.key_untagged :
    (Template.tag (-(Numeral.limit : Int))).key Corpus.untagged ⟨0, Numeral.limit⟩ =
      .error .unprintable := by
  have hr : Corpus.untagged.Reachable := ⟨_, rfl⟩
  have hm : Corpus.untagged.Missing 0 (Numeral.limit + -(Numeral.limit : Int)) := by
    rw [Int.add_right_neg]
    exact (Corpus.missing_iff hr.aligned (by decide)).mpr rfl
  exact key_of_missing_at_limit hr.aligned (by decide) (List.mem_singleton.mpr rfl) hm

/-- The words of `partlyTagged` with other tags at the ends, and one more sentence. -/
def Corpus.otherwiseTagged : Corpus :=
  empty.run [.add ["time", "flies", "like", "arrows"]
    (some [some "VB", some "VBZ", some "IN", some "NNS"]), .add ["birds"] none]

end TaggerFeatures

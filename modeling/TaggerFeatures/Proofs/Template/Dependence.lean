import TaggerFeatures.Proofs.Template.Window

/-!
Which templates depend on tags. Those that read a tag do: in some sentence two ways to tag all of
its words give different keys. All others have the same key whatever the tags are.
-/
namespace TaggerFeatures

namespace Corpus

/-- A sentence that has a tag for each of its words. -/
def tagged (words tags : List String) : Corpus :=
  empty.run [.add words (some (tags.map some))]

variable {words tags : List String}

theorem words_tagged (hl : tags.length = words.length) :
    (tagged words tags).words[0]? = some words := by
  simp [tagged, run, attempt, edit, add, push, hl, empty, Except.map]

theorem tags_tagged (hl : tags.length = words.length) :
    (tagged words tags).tags[0]? = some (tags.map some) := by
  simp [tagged, run, attempt, edit, add, push, hl, empty, Except.map]

theorem reachable_tagged (words tags : List String) : (tagged words tags).Reachable := ⟨_, rfl⟩

theorem wordsOf_tagged (hl : tags.length = words.length) :
    (tagged words tags).wordsOf 0 = .ok words :=
  wordsOf_eq_ok_iff.mpr ⟨0, rfl, words_tagged hl⟩

theorem wordAt_tagged (hl : tags.length = words.length) (p o : Int) :
    (tagged words tags).wordAt ⟨0, p⟩ o = .ok ((slot? words (p + o)).getD boundary) :=
  wordAt_eq (s := 0) (words_tagged hl) p o

theorem tagAt_tagged (hl : tags.length = words.length) (p o : Int) :
    (tagged words tags).tagAt ⟨0, p⟩ o = .ok ((slot? tags (p + o)).getD boundary) := by
  have hslot : slot? (tags.map some) (p + o) = (slot? tags (p + o)).map some := by
    unfold slot?
    split
    · exact List.getElem?_map
    · rfl
  refine (tagAt_eq_of_row (s := 0) (words_tagged hl) (tags_tagged hl)
    (by simp [hl]) p o).trans ?_
  rw [hslot]
  cases slot? tags (p + o) <;> rfl

/-- What is read is one of the entries, or the boundary. -/
theorem slot?_getD_boundary {p : String → Prop} {xs : List String} (hxs : ∀ x ∈ xs, p x)
    (hboundary : p boundary) (i : Int) : p ((slot? xs i).getD boundary) := by
  cases hi : slot? xs i with
  | none => exact hboundary
  | some x =>
      obtain ⟨n, _, hn⟩ := slot?_eq_some_iff.mp hi
      exact hxs x (List.mem_of_getElem? hn)

end Corpus

namespace Template

/-- There are a sentence, a position of it and two full taggings of it that give different keys. -/
def DependsOnTags (t : Template) : Prop :=
  ∃ (words tags tags' : List String) (p : Nat), p < words.length ∧
    tags.length = words.length ∧ tags'.length = words.length ∧
    ∃ k k', t.key (.tagged words tags) ⟨0, p⟩ = .ok k ∧
      t.key (.tagged words tags') ⟨0, p⟩ = .ok k' ∧ k ≠ k'

/-! ## One tag everywhere -/

/-- The tag read at a position when all words of a sentence of length `n` have the tag `a`. -/
def uniformTag (n : Nat) (a : String) (i : Int) : String :=
  if 0 ≤ i ∧ i < n then a else boundary

theorem exists_wordAt_tagged (words : List String) (p : Int) :
    ∃ word : Int → String, ∀ tags : List String, tags.length = words.length →
      ∀ o, (Corpus.tagged words tags).wordAt ⟨0, p⟩ o = .ok (word o) :=
  ⟨_, fun _ hl o => Corpus.wordAt_tagged hl p o⟩

theorem tagAt_uniform {n : Nat} {words : List String} (hn : words.length = n) (a : String)
    (p o : Int) :
    (Corpus.tagged words (List.replicate n a)).tagAt ⟨0, p⟩ o = .ok (uniformTag n a (p + o)) := by
  rw [Corpus.tagAt_tagged (by simp [hn]), uniformTag]
  by_cases hi : 0 ≤ p + o ∧ p + o < n
  · obtain ⟨i, hp⟩ := Int.eq_ofNat_of_zero_le hi.1
    have hlt : i < n := by omega
    rw [if_pos hi, hp, Corpus.slot?_natCast, List.getElem?_replicate_of_lt hlt, Option.getD_some]
  · have hout : Corpus.slot? (List.replicate n a) (p + o) = none :=
      Corpus.slot?_eq_none_iff.mpr (by simpa using hi)
    rw [if_neg hi, hout, Option.getD_none]

/-! ## The first tag in a key -/

theorem exists_joinWith_cons (separator a : String) (rest : List String) :
    ∃ behind, Text.joinWith separator (a :: rest) = a ++ behind := by
  cases rest with
  | nil => exact ⟨"", by simp [Text.joinWith]⟩
  | cons b rest => exact ⟨separator ++ Text.joinWith separator (b :: rest), String.append_assoc ..⟩

/-- What stands before the first tag in a key has nothing to do with the tags. -/
theorem exists_text_cons (t : Template) (ht : t.tagOffsets ≠ []) (word : Int → String) :
    ∃ front, ∀ a tags, ∃ behind, t.text word (a :: tags) = front ++ (a ++ behind) := by
  cases t with
  | tag offset | twoTags tags | threeTags tags | tagWindow farthest =>
      refine ⟨"", fun a tags => ?_⟩
      obtain ⟨behind, hb⟩ := exists_joinWith_cons separator a tags
      exact ⟨behind, by rw [text, hb, String.empty_append]⟩
  | wordTag i offset =>
      refine ⟨"", fun a tags => ?_⟩
      obtain ⟨behind, hb⟩ := exists_joinWith_cons separator a (tags ++ [word i])
      exact ⟨behind, by rw [text, List.cons_append, hb, String.empty_append]⟩
  | wordTwoTags i pair =>
      refine ⟨"", fun a tags => ?_⟩
      obtain ⟨behind, hb⟩ := exists_joinWith_cons separator a (word i :: tags)
      exact ⟨behind, by rw [String.empty_append, ← hb]; rfl⟩
  | twoWordsTag words offset =>
      refine ⟨word words.low ++ separator, fun a tags => ?_⟩
      obtain ⟨behind, hb⟩ := exists_joinWith_cons separator a (tags ++ [word words.high])
      exact ⟨behind, by rw [← hb]; rfl⟩
  | _ => exact absurd rfl ht

theorem append_A_ne_append_B (front behind behind' : String) :
    front ++ ("A" ++ behind) ≠ front ++ ("B" ++ behind') := by
  intro h
  have hchars := congrArg String.toList h
  simp at hchars

/-! ## Dependence -/

variable {t : Template}

/-- The position is chosen such that the first tag that is read belongs to the sentence. -/
theorem dependsOnTags_of_tagOffsets {o : Int} {offsets : List Int}
    (ht : t.tagOffsets = o :: offsets) : t.DependsOnTags := by
  let n := o.natAbs + 1
  let p := leftOf o
  have hwords : (List.replicate n "w").length = n := List.length_replicate
  have hinside : 0 ≤ (p : Int) + o ∧ (p : Int) + o < n := by
    simp only [p, n, leftOf]
    omega
  have hp : p < n := by
    simp only [p, n, leftOf]
    omega
  obtain ⟨word, hw⟩ := exists_wordAt_tagged (List.replicate n "w") p
  obtain ⟨front, hfront⟩ := t.exists_text_cons (by simp [ht]) word
  have hkey : ∀ a, ∃ behind,
      t.key (.tagged (List.replicate n "w") (List.replicate n a)) ⟨0, p⟩ =
        .ok (front ++ (a ++ behind)) := by
    intro a
    have htag : ∀ o ∈ t.tagOffsets, (Corpus.tagged (List.replicate n "w")
        (List.replicate n a)).tagAt ⟨0, p⟩ o = .ok (uniformTag n a (p + o)) :=
      fun o _ => tagAt_uniform hwords a p o
    have htags := mapM_eq_ok_map htag
    obtain ⟨behind, hb⟩ := hfront a (offsets.map fun o => uniformTag n a (p + o))
    refine ⟨behind, ?_⟩
    rw [key_eq t (hw _ (by simp)), htags, ht, List.map_cons, uniformTag, if_pos hinside, ← hb]
    rfl
  obtain ⟨behind, hA⟩ := hkey "A"
  obtain ⟨behind', hB⟩ := hkey "B"
  exact ⟨_, _, _, p, by rwa [hwords], by simp, by simp, _, _, hA, hB,
    append_A_ne_append_B front behind behind'⟩

theorem not_dependsOnTags (ht : t.isDynamic = false) : ¬ t.DependsOnTags := by
  rintro ⟨words, tags, tags', p, _, hl, hl', k, k', hk, hk', hne⟩
  obtain ⟨word, hw⟩ := exists_wordAt_tagged words p
  rw [key_of_not_dynamic (hw _ hl) ht] at hk
  rw [key_of_not_dynamic (hw _ hl') ht] at hk'
  cases hk
  cases hk'
  exact hne rfl

/-- Only the empty tag window is declared dynamic without reading a tag. -/
theorem tagOffsets_ne_nil (ht : t.isDynamic = true) (hw : t ≠ .tagWindow 0) :
    t.tagOffsets ≠ [] := by
  cases t with
  | tagWindow farthest =>
      intro hnil
      have hzero : farthest ≠ 0 := by
        rintro rfl
        exact hw rfl
      have hmem : farthest ∈ tagOffsets (.tagWindow farthest) :=
        mem_windowOffsets_iff.mpr (by omega)
      rw [hnil] at hmem
      cases hmem
  | tag _ | wordTag _ _ | twoTags _ | twoWordsTag _ _ | threeTags _ | wordTwoTags _ _ =>
      exact List.cons_ne_nil _ _
  | _ => cases ht

theorem isDynamic_iff_dependsOnTags (hw : t ≠ .tagWindow 0) :
    t.isDynamic = true ↔ t.DependsOnTags := by
  constructor
  · intro ht
    obtain ⟨o, offsets, ho⟩ := List.exists_cons_of_ne_nil (tagOffsets_ne_nil ht hw)
    exact dependsOnTags_of_tagOffsets ho
  · intro hd
    by_contra ht
    exact not_dependsOnTags (Bool.eq_false_iff.mpr ht) hd

end Template
end TaggerFeatures

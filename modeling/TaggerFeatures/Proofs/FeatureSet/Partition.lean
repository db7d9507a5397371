import Mathlib.Data.List.Nodup
import TaggerFeatures.Proofs.Template.Window

/-!
Keys asked for by classes of templates. The three classes of indices split a set without a rest,
only templates that read tags can fail, and the keys of the classes put together are all keys.
-/
namespace TaggerFeatures

/-! ## Templates that read no tags -/

namespace Template

variable {t : Template} {c : Corpus} {h : Cursor}

/-- Words alone are enough for the key of a template that reads no tags. -/
theorem exists_key_of_not_dynamic (hs : c.Knows h.sentence) (ht : t.isDynamic = false) :
    ∃ k, t.key c h = .ok k := by
  rw [t.exists_key_iff hs, tagOffsets_eq_nil ht]
  simp

end Template

namespace FeatureSet
open Text

/-! ## Entries of a list -/

section
variable {α β : Type} {xs : List α}

theorem pairwise_zipIdx (xs : List α) : xs.zipIdx.Pairwise fun x y => x.2 < y.2 := by
  have hr := List.pairwise_lt_range' (s := 0) (n := xs.length) 1
  rwa [← List.zipIdx_map_snd, List.pairwise_map] at hr

/-- Two flags split a list in three: what has the second one, and the rest by the first one. -/
theorem filter_flags_perm (p q : α → Bool) (xs : List α) :
    (xs.filter (fun x => p x && !q x) ++ xs.filter (fun x => !p x && !q x) ++ xs.filter q).Perm
      xs := by
  have hp := List.filter_append_perm p (xs.filter fun x => !q x)
  rw [List.filter_filter, List.filter_filter] at hp
  exact (hp.append_right _).trans (List.perm_append_comm.trans (List.filter_append_perm q xs))

theorem eq_false_of_and_not {a b : Bool} (h : (a && !b) = true) : b = false := by
  simpa using (Bool.and_eq_true_iff.mp h).2

theorem signedGet?_map (f : α → β) (xs : List α) (i : Int) :
    signedGet? (xs.map f) i = (signedGet? xs i).map f := by
  simp only [signedGet?, List.length_map, List.getElem?_map]
  split
  · rfl
  · split <;> rfl

theorem exists_signedGet? {i : Int} (hi : -(xs.length : Int) ≤ i) (hi' : i < xs.length) :
    ∃ x ∈ xs, signedGet? xs i = some x := by
  unfold signedGet?
  split
  · have hlt : i.toNat < xs.length := by omega
    exact ⟨_, List.getElem_mem hlt, List.getElem?_eq_getElem hlt⟩
  · have hlt : (i + xs.length).toNat < xs.length := by omega
    rw [if_pos (by omega)]
    exact ⟨_, List.getElem_mem hlt, List.getElem?_eq_getElem hlt⟩

end

/-! ## Indices of a class -/

theorem indices_eq (s : FeatureSet) (p : Template → Bool) :
    s.indices p = (s.templates.zipIdx.filter fun x => p x.1).map fun x => (x.2 : Int) := by
  unfold indices
  induction s.templates.zipIdx with
  | nil => rfl
  | cons x rest ih =>
      obtain ⟨t, i⟩ := x
      by_cases hp : p t = true <;> simp [hp, ih]

theorem pairwise_indices (s : FeatureSet) (p : Template → Bool) :
    (s.indices p).Pairwise (· < ·) := by
  rw [indices_eq, List.pairwise_map]
  exact ((pairwise_zipIdx _).filter _).imp Int.ofNat_lt.mpr

/-- The three classes together hold each index just once. -/
theorem indices_perm (s : FeatureSet) :
    (s.localIndices ++ s.wordIndices ++ s.dynamicIndices).Perm
      ((List.range s.size).map Int.ofNat) := by
  have hall : (List.range s.size).map Int.ofNat = s.templates.zipIdx.map fun x => (x.2 : Int) := by
    rw [List.range_eq_range', size, ← List.zipIdx_map_snd, List.map_map]
    rfl
  rw [hall, localIndices, wordIndices, dynamicIndices, indices_eq, indices_eq, indices_eq,
    ← List.map_append, ← List.map_append]
  exact (filter_flags_perm _ _ _).map _

/-! ## Indices that are asked for -/

theorem firstOccurrences_cons_of_mem {seen : List Int} {i : Int} (hi : i ∈ seen) (rest : List Int) :
    firstOccurrences seen (i :: rest) = firstOccurrences seen rest := by
  rw [firstOccurrences, if_pos (List.contains_iff_mem.mpr hi)]

theorem firstOccurrences_cons_of_not_mem {seen : List Int} {i : Int} (hi : i ∉ seen)
    (rest : List Int) :
    firstOccurrences seen (i :: rest) = i :: firstOccurrences (i :: seen) rest := by
  rw [firstOccurrences, if_neg (mt List.contains_iff_mem.mp hi)]

theorem mem_firstOccurrences {seen xs : List Int} {i : Int} :
    i ∈ firstOccurrences seen xs ↔ i ∈ xs ∧ i ∉ seen := by
  induction xs generalizing seen with
  | nil => simp [firstOccurrences]
  | cons j rest ih =>
      by_cases hj : j ∈ seen
      · rw [firstOccurrences_cons_of_mem hj, ih, List.mem_cons]
        refine and_congr_left fun hi => (or_iff_right ?_).symm
        rintro rfl
        exact hi hj
      · rw [firstOccurrences_cons_of_not_mem hj, List.mem_cons, ih, List.mem_cons, List.mem_cons]
        by_cases he : i = j
        · simp [he, hj]
        · simp [he]

theorem nodup_firstOccurrences (seen xs : List Int) : (firstOccurrences seen xs).Nodup := by
  induction xs generalizing seen with
  | nil => exact List.nodup_nil
  | cons j rest ih =>
      by_cases hj : j ∈ seen
      · rw [firstOccurrences_cons_of_mem hj]
        exact ih seen
      · rw [firstOccurrences_cons_of_not_mem hj, List.nodup_cons]
        exact ⟨by simp [mem_firstOccurrences], ih _⟩

/-- Indices that are not repeated are all kept. -/
theorem firstOccurrences_of_nodup {seen xs : List Int} (hn : xs.Nodup)
    (hs : ∀ i ∈ xs, i ∉ seen) : firstOccurrences seen xs = xs := by
  induction xs generalizing seen with
  | nil => rfl
  | cons j rest ih =>
      obtain ⟨hj, hrest⟩ := List.nodup_cons.mp hn
      obtain ⟨hjs, hs⟩ := List.forall_mem_cons.mp hs
      rw [firstOccurrences_cons_of_not_mem hjs, ih hrest]
      intro i hi
      rw [List.mem_cons, not_or]
      exact ⟨fun he => hj (he ▸ hi), hs i hi⟩

/-! ## Keys of a class -/

variable {c : Corpus} {h : Cursor}

/-- The entry that a template with its index gives. -/
def entry (c : Corpus) (h : Cursor) (x : Template × Nat) : Except Error (Int × String) :=
  ((x.1.key c h).mapError .corpus).map ((x.2 : Int), ·)

theorem keyAt_of_mem_zipIdx {s : FeatureSet} {x : Template × Nat} (hx : x ∈ s.templates.zipIdx) :
    s.keyAt c h x.2 = (x.1.key c h).mapError .corpus := by
  have ht : signedGet? s.templates (x.2 : Int) = some x.1 := by
    rw [signedGet?, if_pos (by omega), Int.toNat_natCast]
    exact List.mem_zipIdx_iff_getElem?.mp hx
  simp only [keyAt, get, ht]
  rfl

/-- No index of a class is asked for twice. -/
theorem keysAt_indices (s : FeatureSet) (p : Template → Bool) :
    s.keysAt (s.indices p) c h = (s.templates.zipIdx.filter fun x => p x.1).mapM (entry c h) := by
  have hn : (s.indices p).Nodup := (s.pairwise_indices p).imp fun hlt => hlt.ne
  rw [keysAt, firstOccurrences_of_nodup hn (by simp), indices_eq, List.mapM_map]
  apply mapM_congr
  intro x hx
  rw [Function.comp_apply, keyAt_of_mem_zipIdx (List.mem_filter.mp hx).1, entry]

theorem keys_mapError (s : FeatureSet) :
    (s.keys c h).mapError Error.corpus =
      s.templates.zipIdx.mapM fun x => (x.1.key c h).mapError .corpus := by
  have hm : s.keys c h = s.templates.zipIdx.mapM fun x => x.1.key c h := by
    conv => lhs; rw [keys, ← List.zipIdx_map_fst 0 s.templates, List.mapM_map]
    rfl
  rw [hm, mapM_mapError]

/-- The first template that fails reads tags. -/
theorem keysAt_dynamicIndices_eq_error_iff (s : FeatureSet) (hs : c.Knows h.sentence) {e : Error} :
    s.keysAt s.dynamicIndices c h = .error e ↔ (s.keys c h).mapError Error.corpus = .error e := by
  rw [dynamicIndices, keysAt_indices, keys_mapError]
  apply mapM_filter_eq_error_iff
  intro x _ e
  rw [entry, map_eq_error_iff]
  refine ⟨fun he => ⟨?_, he⟩, And.right⟩
  -- Without tags there is a key, so what fails is dynamic.
  by_contra hd
  obtain ⟨k, hk⟩ := Template.exists_key_of_not_dynamic hs (Bool.not_eq_true _ ▸ hd)
  rw [hk] at he
  cases he

theorem exists_keysAt_indices (s : FeatureSet) {p : Template → Bool}
    (hp : ∀ t, p t = true → ∃ k, t.key c h = .ok k) :
    ∃ entries, s.keysAt (s.indices p) c h = .ok entries := by
  rw [keysAt_indices, exists_mapM_ok_iff]
  intro x hx
  obtain ⟨k, hk⟩ := hp x.1 (List.mem_filter.mp hx).2
  exact ⟨((x.2 : Int), k), by rw [entry, hk]; rfl⟩

/-! ## Keys put together -/

/-- The keys of entries in ascending order of their indices. -/
def inIndexOrder (entries : List (Int × String)) : List String :=
  (entries.mergeSort fun x y => decide (x.1 ≤ y.1)).map (·.2)

theorem pairwise_mergeSort_index (entries : List (Int × String)) :
    (entries.mergeSort fun x y => decide (x.1 ≤ y.1)).Pairwise fun x y => x.1 ≤ y.1 := by
  have htrans : ∀ x y z : Int × String, decide (x.1 ≤ y.1) = true → decide (y.1 ≤ z.1) = true →
      decide (x.1 ≤ z.1) = true := by
    simp only [decide_eq_true_eq]
    exact fun x y z => le_trans
  have htotal : ∀ x y : Int × String, (decide (x.1 ≤ y.1) || decide (y.1 ≤ x.1)) = true := by
    simp only [Bool.or_eq_true, decide_eq_true_eq]
    exact fun x y => le_total x.1 y.1
  exact (List.pairwise_mergeSort htrans htotal entries).imp of_decide_eq_true

/-- There is one way only to put entries with different indices in ascending order. -/
theorem inIndexOrder_of_perm {entries sorted : List (Int × String)} (hp : entries.Perm sorted)
    (hs : sorted.Pairwise fun x y => x.1 < y.1) : inIndexOrder entries = sorted.map (·.2) := by
  have hmerged := (entries.mergeSort_perm fun x y => decide (x.1 ≤ y.1)).trans hp
  rw [inIndexOrder]
  congr 1
  refine hmerged.eq_of_pairwise ?_ (pairwise_mergeSort_index entries) (hs.imp le_of_lt)
  intro x y hx hy hxy hyx
  have hinj : (sorted.map (·.1)).Nodup := (List.pairwise_map.mpr hs).imp ne_of_lt
  exact List.inj_on_of_nodup_map hinj (hmerged.mem_iff.mp hx) hy (le_antisymm hxy hyx)

variable {s : FeatureSet} {ks : List String}

/-- Where all templates have a key, the keys are those of a function. -/
theorem exists_forall_key_eq (hk : s.keys c h = .ok ks) :
    ∃ v : Template → String, (∀ t ∈ s.templates, t.key c h = .ok (v t)) ∧
      ks = s.templates.map v := by
  obtain ⟨v, hv⟩ := exists_forall_eq_ok (s.exists_keys_iff.mp ⟨ks, hk⟩)
  rw [keys, mapM_eq_ok_map hv] at hk
  cases hk
  exact ⟨v, hv, rfl⟩

theorem keysAt_indices_eq_ok {p : Template → Bool} {v : Template → String}
    (hv : ∀ t ∈ s.templates, p t = true → t.key c h = .ok (v t)) :
    s.keysAt (s.indices p) c h =
      .ok ((s.templates.zipIdx.filter fun x => p x.1).map fun x => ((x.2 : Int), v x.1)) := by
  rw [keysAt_indices]
  apply mapM_eq_ok_map
  intro x hx
  obtain ⟨hmem, hp⟩ := List.mem_filter.mp hx
  rw [entry, hv _ (List.fst_mem_of_mem_zipIdx hmem) hp]
  rfl

theorem keys_merged (hk : s.keys c h = .ok ks) :
    ∃ a b d, s.keysAt s.localIndices c h = .ok a ∧ s.keysAt s.wordIndices c h = .ok b ∧
      s.keysAt s.dynamicIndices c h = .ok d ∧ inIndexOrder (a ++ b ++ d) = ks := by
  obtain ⟨v, hv, rfl⟩ := exists_forall_key_eq hk
  refine ⟨_, _, _, keysAt_indices_eq_ok fun t ht _ => hv t ht,
    keysAt_indices_eq_ok fun t ht _ => hv t ht, keysAt_indices_eq_ok fun t ht _ => hv t ht, ?_⟩
  have hsorted : (s.templates.zipIdx.map fun x => ((x.2 : Int), v x.1)).Pairwise
      fun x y => x.1 < y.1 :=
    List.pairwise_map.mpr ((pairwise_zipIdx _).imp Int.ofNat_lt.mpr)
  have hkeys : s.templates.map v = s.templates.zipIdx.map fun x => v x.1 := by
    conv => lhs; rw [← List.zipIdx_map_fst 0 s.templates, List.map_map]
    rfl
  rw [← List.map_append, ← List.map_append,
    inIndexOrder_of_perm ((filter_flags_perm _ _ _).map _) hsorted, List.map_map, hkeys]
  rfl

/-- A valid index, counted from the end if it is negative, gives the key at its place. -/
theorem keyAt_of_valid (hk : s.keys c h = .ok ks) {i : Int} (hi : -(s.size : Int) ≤ i)
    (hi' : i < s.size) : ∃ k, signedGet? ks i = some k ∧ s.keyAt c h i = .ok k := by
  obtain ⟨v, hv, rfl⟩ := exists_forall_key_eq hk
  obtain ⟨t, ht, hget⟩ := exists_signedGet? hi hi'
  refine ⟨v t, by rw [signedGet?_map, hget, Option.map_some], ?_⟩
  simp only [keyAt, get, hget]
  change (t.key c h).mapError Error.corpus = .ok (v t)
  rw [hv t ht]
  rfl

theorem keysAt_of_valid (hk : s.keys c h = .ok ks) {indices : List Int}
    (hi : ∀ i ∈ indices, -(s.size : Int) ≤ i ∧ i < s.size) :
    ∃ entries, s.keysAt indices c h = .ok entries ∧
      entries.map (·.1) = firstOccurrences [] indices ∧
      ∀ entry ∈ entries, signedGet? ks entry.1 = some entry.2 := by
  have hvalid : ∀ i ∈ firstOccurrences [] indices,
      ∃ k, signedGet? ks i = some k ∧ s.keyAt c h i = .ok k := by
    intro i hmem
    obtain ⟨hlow, hhigh⟩ := hi i (mem_firstOccurrences.mp hmem).1
    exact keyAt_of_valid hk hlow hhigh
  obtain ⟨key, hkey⟩ := exists_forall_eq_ok fun i hmem => (hvalid i hmem).imp fun _ => And.right
  refine ⟨(firstOccurrences [] indices).map fun i => (i, key i), ?_, ?_, ?_⟩
  · refine mapM_eq_ok_map fun i hmem => ?_
    rw [hkey i hmem]
    rfl
  · rw [List.map_map]
    exact List.map_id _
  · intro entry hentry
    obtain ⟨i, hmem, rfl⟩ := List.mem_map.mp hentry
    obtain ⟨k, hget, hk⟩ := hvalid i hmem
    rw [hkey i hmem] at hk
    cases hk
    exact hget

/-! ## Evaluation by classes -/

/-- The classes of indices are ascending, have none in common, and hold each index just once. -/
structure Partitioned (s : FeatureSet) : Prop where
  local_ascending : s.localIndices.Pairwise (· < ·)
  word_ascending : s.wordIndices.Pairwise (· < ·)
  dynamic_ascending : s.dynamicIndices.Pairwise (· < ·)
  local_word : s.localIndices.Disjoint s.wordIndices
  local_dynamic : s.localIndices.Disjoint s.dynamicIndices
  word_dynamic : s.wordIndices.Disjoint s.dynamicIndices
  complete : (s.localIndices ++ s.wordIndices ++ s.dynamicIndices).Perm
    ((List.range s.size).map Int.ofNat)

/-- Asking for keys by classes of indices, or by any indices, gives what asking for all keys gives.
Only templates that read tags fail, and the failure is the same one. -/
structure SplitAgrees (s : FeatureSet) (c : Corpus) (h : Cursor) : Prop where
  local_keys : ∃ entries, s.keysAt s.localIndices c h = .ok entries
  word_keys : ∃ entries, s.keysAt s.wordIndices c h = .ok entries
  failure : ∀ e : Error, s.keysAt s.dynamicIndices c h = .error e ↔
    (s.keys c h).mapError Error.corpus = .error e
  merged : ∀ ks, s.keys c h = .ok ks →
    ∃ a b d, s.keysAt s.localIndices c h = .ok a ∧ s.keysAt s.wordIndices c h = .ok b ∧
      s.keysAt s.dynamicIndices c h = .ok d ∧ inIndexOrder (a ++ b ++ d) = ks
  listed : ∀ ks, s.keys c h = .ok ks →
    ∀ indices : List Int, (∀ i ∈ indices, -(s.size : Int) ≤ i ∧ i < s.size) →
    ∃ entries, s.keysAt indices c h = .ok entries ∧ (entries.map (·.1)).Nodup ∧
      (∀ i, i ∈ entries.map (·.1) ↔ i ∈ indices) ∧
      ∀ entry ∈ entries, signedGet? ks entry.1 = some entry.2

theorem partitioned (s : FeatureSet) : s.Partitioned := by
  have hrange : ((List.range s.size).map Int.ofNat).Nodup :=
    List.Nodup.map (fun _ _ => Int.ofNat.inj) List.nodup_range
  have hdisjoint := List.disjoint_of_nodup_append (s.indices_perm.nodup_iff.mpr hrange)
  have hstatic := List.nodup_append.mp (s.indices_perm.nodup_iff.mpr hrange)
  rw [List.disjoint_append_left] at hdisjoint
  exact {
    local_ascending := s.pairwise_indices _
    word_ascending := s.pairwise_indices _
    dynamic_ascending := s.pairwise_indices _
    local_word := List.disjoint_of_nodup_append hstatic.1
    local_dynamic := hdisjoint.1
    word_dynamic := hdisjoint.2
    complete := s.indices_perm }

theorem splitAgrees (s : FeatureSet) (hs : c.Knows h.sentence) : s.SplitAgrees c h where
  local_keys := s.exists_keysAt_indices fun _ ht =>
    Template.exists_key_of_not_dynamic hs (eq_false_of_and_not ht)
  word_keys := s.exists_keysAt_indices fun _ ht =>
    Template.exists_key_of_not_dynamic hs (eq_false_of_and_not ht)
  failure := fun e => s.keysAt_dynamicIndices_eq_error_iff hs
  merged := fun ks => keys_merged
  listed := by
    intro ks hk indices hi
    obtain ⟨entries, hentries, hindices, hkeys⟩ := keysAt_of_valid hk hi
    refine ⟨entries, hentries, ?_, ?_, hkeys⟩
    · rw [hindices]
      exact nodup_firstOccurrences [] indices
    · intro i
      rw [hindices, mem_firstOccurrences]
      simp

/-- The classes split every set, and asking for their keys agrees with asking for all keys, at any
position of a sentence that a corpus knows. -/
theorem split_evaluation_agrees (s : FeatureSet) :
    s.Partitioned ∧ ∀ (c : Corpus) (h : Cursor), c.Knows h.sentence → s.SplitAgrees c h :=
  ⟨s.partitioned, fun _ _ hs => s.splitAgrees hs⟩

/-- Three words of which the last one has no tag. -/
def lastUntagged : Corpus :=
  Corpus.empty.run [.add ["dogs", "bark", "loudly"] (some [some "NNS", some "VBP", none])]

/-- Templates of all three classes. -/
def mixed : FeatureSet := ⟨[.word 0, .tag (-1), .word 1, .tag 1]⟩

theorem split_evaluation_agrees_mixed :
    lastUntagged.Knows 0 ∧
    mixed.keysAt mixed.dynamicIndices lastUntagged ⟨0, 1⟩ =
      .error (.corpus (.unassigned ⟨0, 1⟩ 1)) ∧
    (∃ a b d, mixed.keysAt mixed.localIndices lastUntagged ⟨0, 0⟩ = .ok a ∧
      mixed.keysAt mixed.wordIndices lastUntagged ⟨0, 0⟩ = .ok b ∧
      mixed.keysAt mixed.dynamicIndices lastUntagged ⟨0, 0⟩ = .ok d ∧
      inIndexOrder (a ++ b ++ d) = ["dogs", "NA", "bark", "VBP"]) ∧
    ∃ entries, mixed.keysAt [-1, 0, -1] lastUntagged ⟨0, 0⟩ = .ok entries ∧
      (entries.map (·.1)).Nodup := by
  have hk : lastUntagged.Knows 0 := by decide
  have hfails := (mixed.split_evaluation_agrees.2 lastUntagged ⟨0, 1⟩ hk).failure
  have hall : mixed.keys lastUntagged ⟨0, 0⟩ = .ok ["dogs", "NA", "bark", "VBP"] := by rfl
  have hagrees := mixed.split_evaluation_agrees.2 lastUntagged ⟨0, 0⟩ hk
  obtain ⟨entries, hentries, hnodup, -, -⟩ := hagrees.listed _ hall [-1, 0, -1] (by decide)
  exact ⟨hk, (hfails _).mpr rfl, hagrees.merged _ hall, entries, hentries, hnodup⟩

end FeatureSet
end TaggerFeatures

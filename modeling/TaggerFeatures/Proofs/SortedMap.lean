import Mathlib.Algebra.BigOperators.Group.List.Basic
import Mathlib.Algebra.Ring.Int.Defs
import Mathlib.Data.List.Forall2
import Mathlib.Data.List.Nodup
import Mathlib.Data.String.Basic
import TaggerFeatures.TagDictionary
import TaggerFeatures.Proofs.Traversal

/-!
Sorted maps: keys ascend, and what was put in last under a key is found. A dictionary of tags holds
the integers of just the counts that it is made of.
-/
namespace TaggerFeatures

namespace SortedMap

variable {α : Type} {key k : String} {value : α} {pairs : List (String × α)}

theorem lookup_cons (first : String) (x : α) (rest : List (String × α)) :
    ((first, x) :: rest).lookup k = if k = first then some x else rest.lookup k := by
  rw [List.lookup_cons]
  by_cases hk : k = first
  · rw [if_pos hk, beq_iff_eq.mpr hk]
  · rw [if_neg hk, beq_eq_false_iff_ne.mpr hk]

theorem lookup_insertEntry (entries : List (String × α)) :
    (insertEntry key value entries).lookup k =
      if k = key then some value else entries.lookup k := by
  induction entries with
  | nil => exact lookup_cons key value []
  | cons entry rest ih =>
      obtain ⟨first, x⟩ := entry
      rw [insertEntry]
      split
      · rw [lookup_cons]
      · split
        · rename_i hfirst
          rw [lookup_cons, lookup_cons, hfirst]
          split <;> rfl
        · rename_i hfirst
          rw [lookup_cons, lookup_cons, ih]
          by_cases hk : k = key
          · rw [if_pos hk, if_pos hk, hk, if_neg (Ne.symm hfirst)]
          · rw [if_neg hk, if_neg hk]

theorem get?_insert (m : SortedMap α) :
    (m.insert key value).get? k = if k = key then some value else m.get? k :=
  lookup_insertEntry m.entries

theorem get?_foldl_insert (pairs : List (String × α)) (m : SortedMap α) :
    (pairs.foldl (fun m x => m.insert x.1 x.2) m).get? k =
      (pairs.reverse.lookup k).or (m.get? k) := by
  induction pairs generalizing m with
  | nil => rfl
  | cons pair rest ih =>
      rw [List.foldl_cons, ih, get?_insert, List.reverse_cons, List.lookup_append, Option.or_assoc,
        lookup_cons]
      split <;> rfl

/-- Of several pairs with one key the last is found. -/
theorem get?_ofList (pairs : List (String × α)) (k : String) :
    (ofList pairs).get? k = pairs.reverse.lookup k :=
  (get?_foldl_insert pairs empty).trans (Option.or_none)

theorem get?_ofList_of_mem (hn : (pairs.map (·.1)).Nodup) (hm : (k, value) ∈ pairs) :
    (ofList pairs).get? k = some value := by
  rw [get?_ofList, List.lookup_eq_some_iff]
  obtain ⟨before, after, hpairs⟩ := List.append_of_mem (List.mem_reverse.mpr hm)
  refine ⟨before, after, hpairs, ?_⟩
  have hn' : ((before ++ (k, value) :: after).map (·.1)).Nodup := by
    rw [← hpairs, List.map_reverse, List.nodup_reverse]
    exact hn
  rw [List.map_append, List.map_cons, List.nodup_middle, List.nodup_cons] at hn'
  intro p hp
  rw [bne_iff_ne]
  rintro rfl
  exact hn'.1 (List.mem_append_left _ (List.mem_map.mpr ⟨p, hp, rfl⟩))

/-- Where each key is given once, what is given for it is found. -/
theorem get?_ofList_of_nodup (hn : (pairs.map (·.1)).Nodup) (k : String) :
    (ofList pairs).get? k = pairs.lookup k := by
  cases hl : pairs.lookup k with
  | some value =>
      obtain ⟨before, after, hpairs, _⟩ := List.lookup_eq_some_iff.mp hl
      exact get?_ofList_of_mem hn (by simp [hpairs])
  | none =>
      rw [get?_ofList, List.lookup_eq_none_iff]
      exact fun p hp => List.lookup_eq_none_iff.mp hl p (List.mem_reverse.mp hp)

theorem lookup_eq_some_iff_mem (hn : (pairs.map (·.1)).Nodup) :
    pairs.lookup k = some value ↔ (k, value) ∈ pairs := by
  constructor
  · intro h
    obtain ⟨before, after, hpairs, _⟩ := List.lookup_eq_some_iff.mp h
    simp [hpairs]
  · intro h
    rw [← get?_ofList_of_nodup hn, get?_ofList_of_mem hn h]

/-- Where each key is given once, the order of the pairs makes no difference. -/
theorem lookup_reverse_perm {pairs' : List (String × α)} (hn : (pairs.map (·.1)).Nodup)
    (h : pairs.Perm pairs') (k : String) : pairs.reverse.lookup k = pairs'.reverse.lookup k := by
  have hn' : (pairs'.map (·.1)).Nodup := (h.map _).nodup_iff.mp hn
  rw [← get?_ofList, ← get?_ofList, get?_ofList_of_nodup hn, get?_ofList_of_nodup hn']
  refine Option.ext fun value => ?_
  rw [lookup_eq_some_iff_mem hn, lookup_eq_some_iff_mem hn', h.mem_iff]

theorem perm_insertEntry {entries : List (String × α)} (h : key ∉ entries.map (·.1)) :
    (insertEntry key value entries).Perm ((key, value) :: entries) := by
  induction entries with
  | nil => exact .refl _
  | cons entry rest ih =>
      obtain ⟨k, v⟩ := entry
      obtain ⟨hne, hrest⟩ := not_or.mp (mt List.mem_cons.mpr h)
      rw [insertEntry]
      split
      · exact .refl _
      · rw [if_neg (Ne.symm hne)]
        exact ((ih hrest).cons _).trans (.swap _ _ _)

theorem perm_foldl_insert {m : SortedMap α} (hn : ((m.entries ++ pairs).map (·.1)).Nodup) :
    (pairs.foldl (fun m x => m.insert x.1 x.2) m).entries.Perm (m.entries ++ pairs) := by
  induction pairs generalizing m with
  | nil => simp
  | cons pair rest ih =>
      obtain ⟨k, v⟩ := pair
      have hmiddle : (m.entries ++ (k, v) :: rest).Perm ((k, v) :: (m.entries ++ rest)) :=
        List.perm_middle
      have hcons : (((k, v) :: (m.entries ++ rest)).map (·.1)).Nodup :=
        (hmiddle.map _).nodup_iff.mp hn
      obtain ⟨hfresh, _⟩ := List.nodup_cons.mp hcons
      rw [List.map_append, List.mem_append, not_or] at hfresh
      have hinsert : (m.insert k v).entries.Perm ((k, v) :: m.entries) := perm_insertEntry hfresh.1
      have hstep : ((m.insert k v).entries ++ rest).Perm ((k, v) :: (m.entries ++ rest)) :=
        hinsert.append_right rest
      exact (ih ((hstep.map _).nodup_iff.mpr hcons)).trans (hstep.trans hmiddle.symm)

/-- Where each key is given once, the entries are what is given, in another order. -/
theorem perm_ofList (hn : (pairs.map (·.1)).Nodup) : (ofList pairs).entries.Perm pairs :=
  perm_foldl_insert (m := empty) hn

/-- Values that are put in under different names are found again under them. -/
theorem map_get?_ofList_zip {names : List String} {values : List α} (hn : names.Nodup)
    (hl : names.length = values.length) :
    names.map (ofList (names.zip values)).get? = values.map some := by
  have hfst : (names.zip values).map (·.1) = names := List.map_fst_zip (Nat.le_of_eq hl)
  have hsnd : (names.zip values).map (·.2) = values := List.map_snd_zip (Nat.le_of_eq hl.symm)
  calc names.map (ofList (names.zip values)).get?
      = ((names.zip values).map (·.1)).map (ofList (names.zip values)).get? := by rw [hfst]
    _ = (names.zip values).map fun x => some x.2 := by
        rw [List.map_map]
        apply List.map_congr_left
        intro x hx
        exact get?_ofList_of_mem (by rwa [hfst]) hx
    _ = ((names.zip values).map (·.2)).map some := by
        rw [List.map_map]
        rfl
    _ = values.map some := by rw [hsnd]

/-! ## Order -/

theorem nodup_keys (m : SortedMap α) : (m.entries.map (·.1)).Nodup :=
  List.Pairwise.nodup (List.pairwise_map.mpr m.ascending)

/-- What is found under the keys tells the whole map. -/
theorem ext_get?_iff {m m' : SortedMap α} : m = m' ↔ ∀ key, m.get? key = m'.get? key := by
  constructor
  · rintro rfl key
    rfl
  · intro hget
    have hmem : ∀ x, x ∈ m.entries ↔ x ∈ m'.entries := by
      rintro ⟨key, value⟩
      rw [← lookup_eq_some_iff_mem m.nodup_keys, ← lookup_eq_some_iff_mem m'.nodup_keys]
      exact iff_of_eq (congrArg (· = some value) (hget key))
    have hperm : m.entries.Perm m'.entries :=
      (List.perm_ext_iff_of_nodup m.nodup_keys.of_map m'.nodup_keys.of_map).mpr hmem
    have hentries : m.entries = m'.entries :=
      hperm.eq_of_pairwise (fun _ _ _ _ hab hba => absurd hab (String.lt_asymm hba)) m.ascending
        m'.ascending
    cases m
    cases m'
    cases hentries
    rfl

/-! ## Maps made of a list of pairs -/

variable {β : Type} {rel : α → β → Prop}

/-- Under each key stands what `rel` makes of the last value that the pairs give for it, and no
other key is there. -/
structure Holds (m : SortedMap β) (rel : α → β → Prop) (pairs : List (String × α)) : Prop where
  ascending : Ascending m.entries
  found : ∀ key, Option.Rel rel (pairs.reverse.lookup key) (m.get? key)

theorem lookup_rel {pairs : List (String × α)} {read : List (String × β)}
    (h : List.Forall₂ (fun x y => x.1 = y.1 ∧ rel x.2 y.2) pairs read) (key : String) :
    Option.Rel rel (pairs.lookup key) (read.lookup key) := by
  induction h with
  | nil => exact .none
  | @cons x y _ _ hxy _ ih =>
      obtain ⟨k, a⟩ := x
      obtain ⟨k', b⟩ := y
      obtain ⟨rfl, hab⟩ := hxy
      rw [lookup_cons, lookup_cons]
      split
      · exact .some hab
      · exact ih

theorem holds_ofList {pairs : List (String × α)} {read : List (String × β)}
    (h : List.Forall₂ (fun x y => x.1 = y.1 ∧ rel x.2 y.2) pairs read) :
    (ofList read).Holds rel pairs where
  ascending := (ofList read).ascending
  found := by
    intro key
    rw [get?_ofList]
    exact lookup_rel (List.forall₂_reverse_iff.mpr h) key

/-- The same keys are given, and for each of them the last values are the same. -/
def SameUnder (same : α → α → Prop) (pairs pairs' : List (String × α)) : Prop :=
  ∀ key, Option.Rel same (pairs.reverse.lookup key) (pairs'.reverse.lookup key)

theorem rel_eq_iff {same : α → α → Prop} {o o' : Option α} {x x' : Option β}
    (hsame : ∀ {a a' b b'}, rel a b → rel a' b' → (b = b' ↔ same a a')) (h : Option.Rel rel o x)
    (h' : Option.Rel rel o' x') : x = x' ↔ Option.Rel same o o' := by
  cases h with
  | none =>
      cases h' with
      | none => exact iff_of_true rfl .none
      | some _ => exact iff_of_false nofun nofun
  | some hab =>
      cases h' with
      | none => exact iff_of_false nofun nofun
      | some hab' => rw [Option.some.injEq, hsame hab hab', Option.rel_some_some]

/-- Maps are equal just if the same was given for them. -/
theorem Holds.eq_iff {m m' : SortedMap β} {pairs' : List (String × α)} {same : α → α → Prop}
    (hsame : ∀ {a a' b b'}, rel a b → rel a' b' → (b = b' ↔ same a a')) (h : m.Holds rel pairs)
    (h' : m'.Holds rel pairs') : m = m' ↔ SameUnder same pairs pairs' := by
  rw [ext_get?_iff]
  exact forall_congr' fun key => rel_eq_iff hsame (h.found key) (h'.found key)

end SortedMap

namespace TagDictionary

/-- The dictionary has the words of the source, with their tags, and the integers of the counts. -/
def Holds (d : TagDictionary) (source : RawDictionary) : Prop :=
  SortedMap.Holds d
    (fun given (counts : TagCounts) => counts.Holds (fun count n => count.toInt = .ok n) given)
    source

theorem holds_readCounts {given : List (String × RawCount)} {counts : List (String × Int)}
    (h : readCounts given = .ok counts) :
    (SortedMap.ofList counts).Holds (fun count n => count.toInt = .ok n) given := by
  apply SortedMap.holds_ofList
  refine (forall₂_of_mapM_ok h).imp ?_
  rintro ⟨tag, count⟩ y hy
  obtain ⟨n, hn, rfl⟩ := exists_of_map_ok hy
  exact ⟨rfl, hn⟩

/-- A dictionary that can be made holds just what is given. -/
theorem holds_ofRaw {source : RawDictionary} {d : TagDictionary} (h : ofRaw source = .ok d) :
    d.Holds source := by
  obtain ⟨entries, hentries, rfl⟩ := exists_of_map_ok h
  apply SortedMap.holds_ofList
  rw [List.forall₂_map_right_iff]
  refine (forall₂_of_mapM_ok hentries).imp ?_
  rintro ⟨word, given⟩ y hy
  obtain ⟨counts, hcounts, rfl⟩ := exists_of_map_ok hy
  exact ⟨rfl, holds_readCounts hcounts⟩

/-! ## Equal dictionaries -/

/-- Each count stands for an integer. -/
def Counted (source : RawDictionary) : Prop :=
  ∀ entry ∈ source, ∀ count ∈ entry.2, ∃ n, count.2.toInt = .ok n

/-- The same tags are given, each with the same integer. -/
def SameTags (given given' : List (String × RawCount)) : Prop :=
  SortedMap.SameUnder (fun count count' => count.toInt = count'.toInt) given given'

/-- The same words are given, each with the same tags and integers. -/
def SameCounts (source source' : RawDictionary) : Prop :=
  SortedMap.SameUnder SameTags source source'

/-- The words ascend, and so do the tags of each word. -/
structure Sorted (d : TagDictionary) : Prop where
  words : SortedMap.Ascending d.entries
  tags : ∀ entry ∈ d.entries, SortedMap.Ascending entry.2.entries

variable {d d' : TagDictionary} {source source' : RawDictionary}

theorem exists_ofRaw_iff : (∃ d, ofRaw source = .ok d) ↔ Counted source := by
  simp only [ofRaw, exists_map_ok_iff, readEntries, exists_mapM_ok_iff, readCounts, Counted]

theorem Holds.eq_iff (h : d.Holds source) (h' : d'.Holds source') :
    d = d' ↔ SameCounts source source' := by
  refine SortedMap.Holds.eq_iff (fun hcounts hcounts' => ?_) h h'
  refine SortedMap.Holds.eq_iff (fun hn hn' => ?_) hcounts hcounts'
  rw [hn, hn', Except.ok.injEq]

theorem sorted (d : TagDictionary) : d.Sorted where
  words := d.ascending
  tags := fun entry _ => entry.2.ascending

/-! ## Integer counts -/

/-- No word is given twice, and no tag of a word. -/
structure Distinct (entries : List (String × List (String × Int))) : Prop where
  words : (entries.map (·.1)).Nodup
  tags : ∀ entry ∈ entries, (entry.2.map (·.1)).Nodup

/-- The counts given for a word, none if it is not among the words. -/
def given (entries : List (String × List (String × Int))) (word : String) : List (String × Int) :=
  (entries.lookup word).getD []

variable {entries : List (String × List (String × Int))}

theorem ofRaw_toRaw (entries : List (String × List (String × Int))) :
    ofRaw (toRaw entries) = .ok (ofEntries entries) := by
  have hcounts : ∀ counts : List (String × Int),
      readCounts (counts.map fun x => (x.1, .integer x.2)) = .ok counts := by
    intro counts
    rw [readCounts, mapM_eq_ok_iff, List.map_map]
    rfl
  have hentries : readEntries (toRaw entries) = .ok entries := by
    rw [readEntries, toRaw, mapM_eq_ok_iff, List.map_map]
    apply List.map_congr_left
    rintro ⟨word, counts⟩ _
    simp only [Function.comp_apply, hcounts, Except.map]
  rw [ofRaw, hentries]
  rfl

theorem Distinct.nodup_given (hd : Distinct entries) (word : String) :
    ((given entries word).map (·.1)).Nodup := by
  unfold given
  cases hl : entries.lookup word with
  | none => exact List.nodup_nil
  | some counts =>
      obtain ⟨before, after, hentries, _⟩ := List.lookup_eq_some_iff.mp hl
      exact hd.tags (word, counts) (by simp [hentries])

theorem lookup_map_ofList (word : String) :
    (entries.map fun x => (x.1, SortedMap.ofList x.2)).lookup word =
      (entries.lookup word).map SortedMap.ofList := by
  induction entries with
  | nil => rfl
  | cons entry rest ih =>
      rw [List.map_cons, SortedMap.lookup_cons, SortedMap.lookup_cons, ih]
      split <;> rfl

theorem Distinct.counts_ofEntries (hd : Distinct entries) (word : String) :
    (ofEntries entries).counts word = .ofList (given entries word) := by
  have hn : ((entries.map fun x => (x.1, SortedMap.ofList x.2)).map (·.1)).Nodup := by
    rw [List.map_map]
    exact hd.words
  have hget : (ofEntries entries).get? word = (entries.lookup word).map SortedMap.ofList := by
    rw [ofEntries, SortedMap.get?_ofList_of_nodup hn, lookup_map_ofList]
  rw [counts, hget, given]
  cases entries.lookup word <;> rfl

/-- The total of a word is that of the counts given for it, whatever their order. -/
theorem Distinct.total_ofEntries (hd : Distinct entries) (word : String) :
    (ofEntries entries).total word = ((given entries word).map (·.2)).sum := by
  have hperm := (SortedMap.perm_ofList (hd.nodup_given word)).map (·.2)
  rw [total, hd.counts_ofEntries]
  exact hperm.sum_eq

theorem Distinct.count_ofEntries (hd : Distinct entries) (word tag : String) :
    (ofEntries entries).count word tag = ((given entries word).lookup tag).getD 0 := by
  rw [count, hd.counts_ofEntries, SortedMap.get?_ofList_of_nodup (hd.nodup_given word)]

end TagDictionary
end TaggerFeatures

import TaggerFeatures.Proofs.Template.Participle

/-!
Dictionaries as given, and the templates made of them. The order in which words and tags are given
is lost, the integers of the counts are not: templates are equal just if their dictionaries give the
same integers, and their keys go by the counts as given.
-/
namespace TaggerFeatures

namespace TagDictionary

/-! ## The order given -/

/-- No word is given twice, and no tag of a word. -/
structure Unrepeated (source : RawDictionary) : Prop where
  words : (source.map (·.1)).Nodup
  tags : ∀ entry ∈ source, (entry.2.map (·.1)).Nodup

/-- The tags of each word are in another order, and so are the words. -/
def Reordered (source source' : RawDictionary) : Prop :=
  ∃ middle : RawDictionary, source.Perm middle ∧
    List.Forall₂ (fun x y => x.1 = y.1 ∧ x.2.Perm y.2) middle source'

variable {source source' : RawDictionary}

theorem sameTags_perm {given given' : List (String × RawCount)} (hn : (given.map (·.1)).Nodup)
    (h : given.Perm given') : SameTags given given' := by
  intro tag
  rw [SortedMap.lookup_reverse_perm hn h]
  cases given'.reverse.lookup tag with
  | none => exact .none
  | some count => exact .some rfl

/-- Another order of words and tags gives the same counts. -/
theorem Unrepeated.sameCounts (hu : Unrepeated source) (h : Reordered source source') :
    SameCounts source source' := by
  obtain ⟨middle, hperm, hmiddle⟩ := h
  have htags : ∀ entry ∈ middle, (entry.2.map (·.1)).Nodup := fun entry hentry =>
    hu.tags entry (hperm.mem_iff.mpr hentry)
  have hsame : List.Forall₂ (fun x y => x.1 = y.1 ∧ SameTags x.2 y.2) middle source' := by
    refine ((List.forall₂_and_left _ _).mpr ⟨htags, hmiddle⟩).imp ?_
    rintro x y ⟨hx, hword, htag⟩
    exact ⟨hword, sameTags_perm hx htag⟩
  intro word
  rw [SortedMap.lookup_reverse_perm hu.words hperm]
  exact SortedMap.lookup_rel (List.forall₂_reverse_iff.mpr hsame) word

theorem map_tag_readCounts {given : List (String × RawCount)} {counts : List (String × Int)}
    (h : readCounts given = .ok counts) : counts.map (·.1) = given.map (·.1) := by
  refine map_eq_map_of_mapM_ok h ?_
  rintro ⟨tag, count⟩ y hy
  obtain ⟨n, _, rfl⟩ := exists_of_map_ok hy
  rfl

/-- Reading the counts leaves the words and the tags as they are given. -/
theorem Unrepeated.distinct {entries : List (String × List (String × Int))}
    (hu : Unrepeated source) (h : readEntries source = .ok entries) : Distinct entries where
  words := by
    have hwords : entries.map (·.1) = source.map (·.1) := by
      refine map_eq_map_of_mapM_ok h ?_
      rintro ⟨word, given⟩ y hy
      obtain ⟨counts, _, rfl⟩ := exists_of_map_ok hy
      rfl
    rw [hwords]
    exact hu.words
  tags := by
    have htags : entries.map (·.2.map (·.1)) = source.map (·.2.map (·.1)) := by
      refine map_eq_map_of_mapM_ok h ?_
      rintro ⟨word, given⟩ y hy
      obtain ⟨counts, hcounts, rfl⟩ := exists_of_map_ok hy
      exact map_tag_readCounts hcounts
    intro entry hentry
    have hmem : entry.2.map (·.1) ∈ source.map (·.2.map (·.1)) :=
      htags ▸ List.mem_map.mpr ⟨entry, hentry, rfl⟩
    obtain ⟨given, hgiven, heq⟩ := List.mem_map.mp hmem
    exact heq ▸ hu.tags given hgiven

end TagDictionary

namespace Template
open Participle TagDictionary

/-- Wherever words can be read, the key goes by the counts of these entries. -/
def GoesBy (entries : List (String × List (String × Int))) (bound : Int) (t : Template) : Prop :=
  ∀ (c : Corpus) (h : Cursor) (word : Int → String), (∀ o, c.wordAt h o = .ok (word o)) →
    Rule entries word bound ∧ t.key c h = .ok "1" ∨ ¬ Rule entries word bound ∧ t.key c h = .ok "0"

/-- What is made of a dictionary is sorted, and what is asked of it is answered from the counts in
the order in which they are given. -/
structure Frozen (source : RawDictionary) (d : TagDictionary) : Prop where
  made : ofRaw source = .ok d
  sorted : d.Sorted
  key : Unrepeated source → ∃ entries, readEntries source = .ok entries ∧
    ∀ bound, (participle bound d).GoesBy entries bound

theorem exists_frozen {source : RawDictionary} (hc : Counted source) : ∃ d, Frozen source d := by
  obtain ⟨d, hd⟩ := exists_ofRaw_iff.mpr hc
  obtain ⟨entries, hentries, rfl⟩ := exists_of_map_ok hd
  refine ⟨_, hd, TagDictionary.sorted _, fun hu => ⟨entries, hentries, ?_⟩⟩
  exact fun bound c h word hw => key_cases (hu.distinct hentries) hw bound

/-- Templates of participles are equal just if they look equally far back and have the same words,
tags and integers, in whatever order these are given. The words and tags are sorted, and the same
counts, so equal templates, have one key wherever they are used. -/
theorem participle_eq_iff_sameCounts {source source' : RawDictionary} (hc : Counted source)
    (hc' : Counted source') :
    ∃ d d', Frozen source d ∧ Frozen source' d' ∧
      (∀ bound bound', participle bound d = participle bound' d' ↔
        bound = bound' ∧ SameCounts source source') ∧
      (Unrepeated source → Reordered source source' → SameCounts source source') ∧
      (SameCounts source source' → ∀ bound c h,
        (participle bound d).key c h = (participle bound d').key c h) := by
  obtain ⟨d, hd⟩ := exists_frozen hc
  obtain ⟨d', hd'⟩ := exists_frozen hc'
  have hiff : d = d' ↔ SameCounts source source' :=
    (holds_ofRaw hd.made).eq_iff (holds_ofRaw hd'.made)
  refine ⟨d, d', hd, hd', ?_, fun hu hr => hu.sameCounts hr, ?_⟩
  · intro bound bound'
    rw [participle.injEq, hiff]
  · intro hsame bound c h
    rw [hiff.mpr hsame]

/-- A count may be a text or a truth value. -/
def redDoor : RawDictionary :=
  [("red", [("JJ", .text " +1_0 "), ("VBN", .boolean true)]), ("door", [("NN", .integer 4)])]

def doorRed : RawDictionary :=
  [("door", [("NN", .integer 4)]), ("red", [("VBN", .boolean true), ("JJ", .text " +1_0 ")])]

theorem participle_eq_iff_sameCounts_redDoor :
    Counted redDoor ∧ Counted doorRed ∧ ∃ d d', ofRaw redDoor = .ok d ∧ ofRaw doorRed = .ok d' ∧
      (∀ bound, participle bound d = participle bound d') ∧ participle 2 d ≠ participle 3 d' := by
  have hc : Counted redDoor := exists_ofRaw_iff.mp ⟨ofEntries
    [("red", [("JJ", 10), ("VBN", 1)]), ("door", [("NN", 4)])], by decide +kernel⟩
  have hc' : Counted doorRed := exists_ofRaw_iff.mp ⟨ofEntries
    [("door", [("NN", 4)]), ("red", [("VBN", 1), ("JJ", 10)])], by decide +kernel⟩
  have hu : Unrepeated redDoor := ⟨by decide, by decide⟩
  have hr : Reordered redDoor doorRed := by
    refine ⟨_, List.Perm.swap _ _ [], ?_⟩
    exact .cons ⟨rfl, .refl _⟩ (.cons ⟨rfl, .swap _ _ []⟩ .nil)
  obtain ⟨d, d', hd, hd', hiff, hsame, -⟩ := participle_eq_iff_sameCounts hc hc'
  refine ⟨hc, hc', d, d', hd.made, hd'.made, ?_, ?_⟩
  · exact fun bound => (hiff bound bound).mpr ⟨rfl, hsame hu hr⟩
  · exact fun h => absurd ((hiff 2 3).mp h).1 (by decide)

end Template
end TaggerFeatures

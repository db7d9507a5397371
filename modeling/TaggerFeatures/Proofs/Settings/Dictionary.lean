import TaggerFeatures.Settings
import TaggerFeatures.Proofs.Traversal

/-!
The counts of a dictionary file. They are read in order up to the first that is no integer; where
that one is infinite, reading ends with an error of its own.
-/
namespace TaggerFeatures

theorem RawCount.readNumeral_ne_infinite (s : String) : readNumeral s ≠ .error .infinite := by
  intro h
  unfold readNumeral at h
  simp only at h
  split at h
  · cases h
  · split at h
    · cases h
    · split at h <;> cases h

namespace Settings

theorem toInt_eq_infinite_iff {value : Json} :
    (rawCount value).toInt = .error .infinite ↔ ∃ negative, value = .real (.infinity negative) := by
  rcases value with _ | b | n | x | s | items | members
  case real => cases x <;> simp [rawCount, RawCount.toInt]
  case text => simp [rawCount, RawCount.toInt, RawCount.readNumeral_ne_infinite]
  all_goals simp [rawCount, RawCount.toInt]

/-- An object of counts, each of them an integer. -/
def IsCounts (value : Json) : Prop :=
  ∃ tags, value = .object tags ∧ ∀ entry ∈ tags, ∃ n, (rawCount entry.2).toInt = .ok n

/-- An object of counts of which the first that is no integer is infinite. -/
def InfiniteFirst (value : Json) : Prop :=
  ∃ before tag negative after,
    value = .object (before ++ (tag, .real (.infinity negative)) :: after) ∧
    ∀ entry ∈ before, ∃ n, (rawCount entry.2).toInt = .ok n

variable {path word : String} {value : Json}

theorem readCounts_object (path word : String) (tags : List (String × Json)) :
    readCounts path word (.object tags) =
      (tags.mapM fun entry => (rawCount entry.2).toInt.map (entry.1, ·)).mapError .count := by
  rw [readCounts, rawCounts?]
  simp only [TagDictionary.readCounts, List.mapM_map]
  rfl

theorem exists_readCounts_iff :
    (∃ counts, readCounts path word value = .ok counts) ↔ IsCounts value := by
  cases value with
  | object tags =>
      rw [readCounts_object, exists_mapError_ok_iff, exists_mapM_ok_iff]
      simp only [exists_map_ok_iff, IsCounts, Json.object.injEq, exists_eq_left']
  | _ => simp [readCounts, rawCounts?, IsCounts]

theorem readCounts_eq_infinite_iff :
    readCounts path word value = .error (.count .infinite) ↔ InfiniteFirst value := by
  cases value with
  | object tags =>
      rw [readCounts_object, mapError_eq_error_iff]
      simp only [Error.count.injEq, exists_eq_right, mapM_eq_error_iff, exists_map_ok_iff,
        map_eq_error_iff, toInt_eq_infinite_iff, InfiniteFirst, Json.object.injEq]
      constructor
      · rintro ⟨before, ⟨tag, count⟩, after, htags, hbefore, negative, rfl⟩
        exact ⟨before, tag, negative, after, htags, hbefore⟩
      · rintro ⟨before, tag, negative, after, htags, hbefore⟩
        exact ⟨before, _, after, htags, hbefore, negative, rfl⟩
  | _ => simp [readCounts, rawCounts?, InfiniteFirst]

/-- A dictionary in which infinity is met before any other count that is no integer. -/
def MeetsInfinity (dictionary : Json) : Prop :=
  ∃ before word counts after, dictionary = .object (before ++ (word, counts) :: after) ∧
    (∀ entry ∈ before, IsCounts entry.2) ∧ InfiniteFirst counts

theorem readDictionary_eq_infinite_iff :
    readDictionary path value = .error (.count .infinite) ↔ MeetsInfinity value := by
  cases value with
  | object words =>
      simp only [readDictionary, mapM_eq_error_iff, exists_map_ok_iff, exists_readCounts_iff,
        map_eq_error_iff, readCounts_eq_infinite_iff, MeetsInfinity, Json.object.injEq]
      constructor
      · rintro ⟨before, ⟨word, counts⟩, after, hwords, hbefore, hcounts⟩
        exact ⟨before, word, counts, after, hwords, hbefore, hcounts⟩
      · rintro ⟨before, word, counts, after, hwords, hbefore, hcounts⟩
        exact ⟨before, (word, counts), after, hwords, hbefore, hcounts⟩
  | _ => simp [readDictionary, MeetsInfinity]

end Settings
end TaggerFeatures

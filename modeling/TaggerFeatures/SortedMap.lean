/-! Maps from texts: pairs of a key and a value, in ascending order of their keys. -/
namespace TaggerFeatures

namespace SortedMap

variable {α : Type} {key : String} {value : α} {entries : List (String × α)}

/-- The keys ascend, so there is one entry for each. -/
def Ascending (entries : List (String × α)) : Prop := entries.Pairwise fun x y => x.1 < y.1

/-- Puts a pair at its place; a pair of the same key gives way. -/
def insertEntry (key : String) (value : α) : List (String × α) → List (String × α)
  | [] => [(key, value)]
  | (k, v) :: rest =>
    if key < k then (key, value) :: (k, v) :: rest
    else if k = key then (key, value) :: rest
    else (k, v) :: insertEntry key value rest

theorem mem_insertEntry {x : String × α} (h : x ∈ insertEntry key value entries) :
    x = (key, value) ∨ x ∈ entries := by
  induction entries with
  | nil => exact Or.inl (List.mem_singleton.mp h)
  | cons entry rest ih =>
      obtain ⟨k, v⟩ := entry
      rw [insertEntry] at h
      split at h
      · exact List.mem_cons.mp h
      · split at h
        · exact (List.mem_cons.mp h).imp_right (List.mem_cons_of_mem _)
        · rcases List.mem_cons.mp h with rfl | hrest
          · exact Or.inr List.mem_cons_self
          · exact (ih hrest).imp_right (List.mem_cons_of_mem _)

theorem Ascending.insertEntry (h : Ascending entries) (key : String) (value : α) :
    Ascending (insertEntry key value entries) := by
  induction entries with
  | nil => exact List.pairwise_singleton _ _
  | cons entry rest ih =>
      obtain ⟨k, v⟩ := entry
      obtain ⟨hfirst, hrest⟩ := List.pairwise_cons.mp h
      rw [SortedMap.insertEntry]
      split
      · rename_i hlt
        refine List.pairwise_cons.mpr ⟨?_, h⟩
        intro x hx
        rcases List.mem_cons.mp hx with rfl | hx
        · exact hlt
        · exact String.lt_trans hlt (hfirst x hx)
      · rename_i hlt
        split
        · rename_i heq
          subst heq
          exact List.pairwise_cons.mpr ⟨hfirst, hrest⟩
        · rename_i hne
          refine List.pairwise_cons.mpr ⟨?_, ih hrest⟩
          intro x hx
          rcases mem_insertEntry hx with rfl | hx
          · exact Std.lt_of_le_of_ne (String.not_lt.mp hlt) hne
          · exact hfirst x hx

end SortedMap

/-- Pairs of a key and a value, in ascending order of their keys. -/
structure SortedMap (α : Type) where
  entries : List (String × α)
  ascending : SortedMap.Ascending entries
deriving DecidableEq, Repr

namespace SortedMap

variable {α : Type}

def empty : SortedMap α := ⟨[], .nil⟩

/-- The map with one more pair, which replaces one of the same key. -/
def insert (m : SortedMap α) (key : String) (value : α) : SortedMap α :=
  ⟨insertEntry key value m.entries, m.ascending.insertEntry key value⟩

/-- The map of the pairs; of several with one key the last counts. -/
def ofList (pairs : List (String × α)) : SortedMap α :=
  pairs.foldl (fun m (key, value) => m.insert key value) empty

def get? (m : SortedMap α) (key : String) : Option α := m.entries.lookup key

def values (m : SortedMap α) : List α := m.entries.map (·.2)

end SortedMap
end TaggerFeatures

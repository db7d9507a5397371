import TaggerFeatures.Proofs.FeatureSet.Table
import TaggerFeatures.Settings

/-!
Rows by name. The name of a column tells its template, and no two columns have one name, so putting
the cells of a row in by their names loses none of them.
-/
namespace TaggerFeatures

namespace Settings

variable {read entries : List (String × String)} {name value : String}

/-- A name that was not given yet goes to the end. -/
theorem putText_of_not_mem (h : name ∉ read.map (·.1)) :
    putText name value read = read ++ [(name, value)] := by
  induction read with
  | nil => rfl
  | cons entry rest ih =>
      obtain ⟨k, v⟩ := entry
      obtain ⟨hne, hrest⟩ := not_or.mp (mt List.mem_cons.mpr h)
      rw [putText, if_neg (Ne.symm hne), ih hrest, List.cons_append]

theorem foldl_putText_of_nodup (h : ((read ++ entries).map (·.1)).Nodup) :
    entries.foldl (fun read x => putText x.1 x.2 read) read = read ++ entries := by
  induction entries generalizing read with
  | nil => exact (List.append_nil read).symm
  | cons entry rest ih =>
      have hnew : entry.1 ∉ read.map (·.1) := by
        rw [List.map_append, List.map_cons, List.nodup_middle, List.nodup_cons] at h
        exact fun hmem => h.1 (List.mem_append_left _ hmem)
      have hassoc : read ++ [entry] ++ rest = read ++ entry :: rest := by simp
      rw [List.foldl_cons, putText_of_not_mem hnew, ih (by rwa [hassoc]), hassoc]

end Settings

namespace FeatureSet

variable {s : FeatureSet} {c : Corpus} {h : Cursor} {row : FeatureRow}

/-- The columns of a table that no template is behind. -/
def otherColumns : List String := ["sentence", "position", "outcome"]

theorem nodup_columnNames_outcome (s : FeatureSet) : (s.columnNames ++ ["outcome"]).Nodup :=
  ((List.nodup_cons.mp s.nodup_tableColumns).2).of_cons

theorem not_mem_otherColumns {name : String} (hname : name ∈ s.columnNames) :
    name ∉ otherColumns := by
  obtain ⟨hsentence, hrest⟩ := List.nodup_cons.mp s.nodup_tableColumns
  obtain ⟨hposition, _⟩ := List.nodup_cons.mp hrest
  have hbefore : name ∈ s.columnNames ++ ["outcome"] := List.mem_append_left _ hname
  intro hother
  rcases List.mem_cons.mp hother with rfl | hother
  · exact hsentence (List.mem_cons_of_mem _ hbefore)
  rcases List.mem_cons.mp hother with rfl | hother
  · exact hposition hbefore
  · rw [List.mem_singleton.mp hother] at hname
    exact (List.nodup_append.mp s.nodup_columnNames_outcome).2.2 _ hname _ List.mem_cons_self rfl

/-- The cells of a row, each put in under its name. A name given again keeps its place, and what was
put in last. -/
def entries (row : FeatureRow) : List (String × String) :=
  row.cells.foldl (fun read x => Settings.putText x.1 x.2 read) []

theorem entries_eq_cells (hcolumns : row.columns = s.columnNames)
    (hl : row.keys.length = s.size) :
    entries row = s.columnNames.zip row.keys ++ [("outcome", row.outcome)] := by
  have hcells : row.cells = s.columnNames.zip row.keys ++ [("outcome", row.outcome)] := by
    rw [FeatureRow.cells, hcolumns]
    rfl
  have hlengths : s.columnNames.length ≤ row.keys.length := by rw [length_columnNames, hl]
  have hnodup : (([] ++ row.cells).map Prod.fst).Nodup := by
    rw [List.nil_append, hcells, List.map_append, List.map_fst_zip hlengths]
    exact s.nodup_columnNames_outcome
  rw [entries, Settings.foldl_putText_of_nodup hnodup, List.nil_append, hcells]

theorem getElem?_columnNames (s : FeatureSet) (i : Nat) :
    s.columnNames[i]? = s.templates[i]?.map (columnName i) := by
  rw [columnNames, List.getElem?_map, List.getElem?_zipIdx]
  cases s.templates[i]? <;> simp

/-- One entry for each template, at its index, under its column and with the key that it has among
all keys. Behind them is the tag, and nothing else. -/
structure Enters (s : FeatureSet) (c : Corpus) (h : Cursor) (row : FeatureRow) : Prop where
  keys : s.keys c h = .ok row.keys
  outcome : c.tagAt h 0 = .ok row.outcome
  length : (entries row).length = s.size + 1
  entry : ∀ (i : Nat) (t : Template), s.templates[i]? = some t → ∃ key, t.key c h = .ok key ∧
    row.keys[i]? = some key ∧ (entries row)[i]? = some (toString i ++ ":" ++ t.print, key)
  last : (entries row)[s.size]? = some ("outcome", row.outcome)

theorem enters_of_row (hr : s.row c h = .ok row) : s.Enters c h row := by
  obtain ⟨_, _, hcolumns, hkeys, htag⟩ := row_eq_ok hr
  have hl : row.keys.length = s.size := length_of_mapM_ok hkeys
  have hzip : (s.columnNames.zip row.keys).length = s.size := by
    rw [List.length_zip, length_columnNames, hl, Nat.min_self]
  have hentries := entries_eq_cells hcolumns hl
  constructor
  case keys => exact hkeys
  case outcome => exact htag
  case length => rw [hentries, List.length_append, hzip, List.length_singleton]
  case entry =>
    intro i t ht
    obtain ⟨key, hat, hkey⟩ := getElem?_of_mapM_ok hkeys ht
    have hcolumn : s.columnNames[i]? = some (columnName i t) := by
      rw [getElem?_columnNames, ht, Option.map_some]
    have hcell : (s.columnNames.zip row.keys)[i]? = some (columnName i t, key) :=
      List.getElem?_zip_eq_some.mpr ⟨hcolumn, hat⟩
    refine ⟨key, hkey, hat, ?_⟩
    rw [hentries, List.getElem?_append_left (List.getElem?_eq_some_iff.mp hcell).1, hcell,
      columnName]
  case last =>
    rw [hentries, List.getElem?_append_right (Nat.le_of_eq hzip), hzip, Nat.sub_self]
    rfl

theorem exists_row_iff (hs : s.Printable) (c : Corpus) (h : Cursor) :
    (∃ row, s.row c h = .ok row) ↔ (∃ ks, s.keys c h = .ok ks) ∧ ∃ tag, c.tagAt h 0 = .ok tag := by
  constructor
  · rintro ⟨row, hr⟩
    obtain ⟨_, _, _, hkeys, htag⟩ := row_eq_ok hr
    exact ⟨⟨_, hkeys⟩, _, htag⟩
  · rintro ⟨⟨ks, hkeys⟩, tag, htag⟩
    rcases row_cases hs c h with ⟨_, _, _, _, hok⟩ | ⟨e, hfailed, _⟩
    · exact ⟨_, hok⟩
    · rw [hkeys, htag] at hfailed
      rcases hfailed with he | he <;> cases he

end FeatureSet
end TaggerFeatures

import TaggerFeatures.FeatureSet.Table
import TaggerFeatures.Proofs.FeatureSet.Partition
import TaggerFeatures.Proofs.SortedMap
import TaggerFeatures.Proofs.Template.Printed

/-!
The table of a corpus. It exists just if every position has a tag and every column a name. Then it
has a row for each position, and under each column stands what the column is named for.
-/
namespace TaggerFeatures

/-! ## Cursors -/

/-- The cursor stands in an earlier sentence, or earlier in the same one. -/
def Cursor.Before (h h' : Cursor) : Prop :=
  h.sentence < h'.sentence ∨ h.sentence = h'.sentence ∧ h.position < h'.position

namespace Corpus

variable {c : Corpus} {h : Cursor}

theorem mem_cursors_iff : h ∈ c.cursors ↔ c.Inside h.sentence h.position := by
  simp only [cursors, List.mem_flatMap, List.mem_map, List.mem_range]
  constructor
  · rintro ⟨⟨words, s⟩, hw, p, hp, rfl⟩
    have hwords := wordsOf_eq_ok_iff.mpr ⟨s, rfl, List.mem_zipIdx_iff_getElem?.mp hw⟩
    exact ⟨words, hwords, Int.natCast_nonneg p, Int.ofNat_lt.mpr hp⟩
  · rintro ⟨words, hw, h0, hlt⟩
    obtain ⟨s, hs, hn⟩ := wordsOf_eq_ok_iff.mp hw
    obtain ⟨p, hp⟩ := Int.eq_ofNat_of_zero_le h0
    have hp' : p < words.length := by omega
    refine ⟨(words, s), List.mem_zipIdx_iff_getElem?.mpr hn, p, hp', ?_⟩
    rw [← hs, ← hp]

theorem pairwise_cursors (c : Corpus) : c.cursors.Pairwise Cursor.Before := by
  rw [cursors, List.pairwise_flatMap]
  constructor
  · rintro ⟨words, s⟩ _
    rw [List.pairwise_map]
    refine List.pairwise_lt_range.imp ?_
    intro p q hpq
    exact Or.inr ⟨rfl, Int.ofNat_lt.mpr hpq⟩
  · refine (FeatureSet.pairwise_zipIdx c.words).imp ?_
    rintro ⟨words, s⟩ ⟨words', s'⟩ hlt h hh h' hh'
    obtain ⟨p, _, rfl⟩ := List.mem_map.mp hh
    obtain ⟨q, _, rfl⟩ := List.mem_map.mp hh'
    exact Or.inl (Int.ofNat_lt.mpr hlt)

theorem Inside.knows {s i : Int} (hi : c.Inside s i) : c.Knows s := by
  obtain ⟨words, hw, _⟩ := hi
  by_contra hs
  rw [wordsOf_of_not_knows hs] at hw
  cases hw

/-- Every position of every sentence has a tag. -/
def FullyTagged (c : Corpus) : Prop := ∀ s i, c.Inside s i → c.Assigned s i

/-- Inside of a sentence a tag that can be read is the one that is kept there. -/
theorem tagSlot?_of_tagAt (hc : c.Aligned) (hi : c.Inside h.sentence h.position) {tag : String}
    (ht : c.tagAt h 0 = .ok tag) : c.tagSlot? h.sentence h.position = some (some tag) := by
  obtain ⟨s, p⟩ := h
  rw [tagAt_eq hc hi.knows, Int.add_zero] at ht
  split at ht
  · rename_i hnone
    exact absurd hi ((tagSlot?_eq_none_iff hc hi.knows).mp hnone)
  · cases ht
  · rename_i hslot
    cases ht
    exact hslot

end Corpus

namespace FeatureSet

variable {s : FeatureSet} {c : Corpus} {h : Cursor} {columns : List String}

/-! ## Columns -/

def columnName (i : Nat) (t : Template) : String := toString i ++ ":" ++ t.print

/-- The names of the columns, whatever number of digits are in them. -/
def columnNames (s : FeatureSet) : List String :=
  s.templates.zipIdx.map fun (t, i) => columnName i t

/-- Every template has a printed form. -/
def Printable (s : FeatureSet) : Prop := ∀ t ∈ s.templates, t.Printable

theorem Printable.columns? (hs : s.Printable) : s.columns? = some s.columnNames := by
  refine mapM_eq_some_map ?_
  rintro ⟨t, i⟩ ht
  change columnName? i t = some (columnName i t)
  rw [columnName?, (hs t (List.fst_mem_of_mem_zipIdx ht)).print?]
  rfl

theorem columns?_eq_some_iff :
    s.columns? = some columns ↔ s.Printable ∧ s.columnNames = columns := by
  have hprintable : s.columns? = some columns → s.Printable := by
    intro h t ht
    obtain ⟨i, hi⟩ := List.getElem?_of_mem ht
    have hmem : (t, i) ∈ s.templates.zipIdx := List.mem_zipIdx_iff_getElem?.mpr hi
    obtain ⟨name, hname⟩ := exists_of_mapM_eq_some h hmem
    obtain ⟨text, htext, _⟩ := Option.map_eq_some_iff.mp hname
    exact Template.exists_print?_iff.mp ⟨text, htext⟩
  constructor
  · intro h
    have hs := hprintable h
    exact ⟨hs, Option.some.inj (hs.columns?.symm.trans h)⟩
  · rintro ⟨hs, rfl⟩
    exact hs.columns?

theorem columns?_eq_none (hs : ¬ s.Printable) : s.columns? = none :=
  Option.eq_none_iff_forall_ne_some.mpr fun _ h => hs (columns?_eq_some_iff.mp h).1

theorem length_columnNames (s : FeatureSet) : s.columnNames.length = s.size := by
  rw [columnNames, List.length_map, List.length_zipIdx, size]

/-- Before the first colon of a column's name stands the index. -/
theorem takeWhile_columnName (i : Nat) (t : Template) :
    (columnName i t).toList.takeWhile (· != ':') = Nat.toDigits 10 i := by
  have hcolon : ':' ∉ Nat.toDigits 10 i :=
    fun hmem => absurd (Numeral.isDigit_of_mem_toDigits hmem) (by decide)
  have hname : (columnName i t).toList = Nat.toDigits 10 i ++ ':' :: t.print.toList := by
    simp [columnName, Nat.toString_eq_repr, Nat.repr_eq_ofList_toDigits]
  rw [hname, Text.takeWhile_ne_append_cons hcolon]

theorem columnName_inj {i j : Nat} {t u : Template} (h : columnName i t = columnName j u) :
    i = j := by
  have hdigits : Nat.toDigits 10 i = Nat.toDigits 10 j := by
    rw [← takeWhile_columnName i t, h, takeWhile_columnName]
  have hvalue := congrArg (Nat.ofDigitChars 10 · 0) hdigits
  simpa [Nat.ofDigitChars_toDigits] using hvalue

theorem nodup_columnNames (s : FeatureSet) : s.columnNames.Nodup := by
  rw [columnNames, List.Nodup, List.pairwise_map]
  refine (pairwise_zipIdx s.templates).imp ?_
  intro x y hlt he
  exact absurd (columnName_inj he) (Nat.ne_of_lt hlt)

theorem not_mem_columnNames {name : String} {a : Char} (s : FeatureSet)
    (ha : a ∈ name.toList.takeWhile (· != ':')) (hdigit : a.isDigit = false) :
    name ∉ s.columnNames := by
  intro hmem
  obtain ⟨⟨t, i⟩, _, rfl⟩ := List.mem_map.mp hmem
  rw [takeWhile_columnName] at ha
  have hd : a.isDigit = true := Numeral.isDigit_of_mem_toDigits ha
  rw [hd] at hdigit
  cases hdigit

/-- The names of the columns of a table. -/
def tableColumns (s : FeatureSet) : List String :=
  ["sentence", "position"] ++ s.columnNames ++ ["outcome"]

theorem nodup_tableColumns (s : FeatureSet) : s.tableColumns.Nodup := by
  have hsentence : "sentence" ∉ s.columnNames :=
    s.not_mem_columnNames (a := 's') (by decide) (by decide)
  have hposition : "position" ∉ s.columnNames :=
    s.not_mem_columnNames (a := 'p') (by decide) (by decide)
  have houtcome : "outcome" ∉ s.columnNames :=
    s.not_mem_columnNames (a := 'o') (by decide) (by decide)
  have hothers : (s.columnNames ++ ["outcome"]).Nodup := by
    rw [List.nodup_append]
    refine ⟨s.nodup_columnNames, List.nodup_singleton _, ?_⟩
    intro name hname _ hlast
    rw [List.mem_singleton.mp hlast]
    rintro rfl
    exact houtcome hname
  simp [tableColumns, hothers, hsentence, hposition]

/-! ## Rows -/

theorem row_of_not_printable (hs : ¬ s.Printable) : s.row c h = .error .unprintable := by
  rw [row, columns?_eq_none hs]

theorem row_cases (hs : s.Printable) (c : Corpus) (h : Cursor) :
    (∃ ks tag, s.keys c h = .ok ks ∧ c.tagAt h 0 = .ok tag ∧
        s.row c h = .ok ⟨h, s.columnNames, ks, tag⟩) ∨
      ∃ e, (s.keys c h = .error e ∨ c.tagAt h 0 = .error e) ∧ s.row c h = .error e := by
  simp only [row, hs.columns?]
  cases s.keys c h with
  | error e => exact Or.inr ⟨e, Or.inl rfl, rfl⟩
  | ok ks =>
      cases c.tagAt h 0 with
      | error e => exact Or.inr ⟨e, Or.inr rfl, rfl⟩
      | ok tag => exact Or.inl ⟨ks, tag, rfl, rfl, rfl⟩

theorem row_eq_ok {row : FeatureRow} (hr : s.row c h = .ok row) :
    s.Printable ∧ row.cursor = h ∧ row.columns = s.columnNames ∧ s.keys c h = .ok row.keys ∧
      c.tagAt h 0 = .ok row.outcome := by
  by_cases hs : s.Printable
  · rcases row_cases hs c h with ⟨ks, tag, hk, ht, hok⟩ | ⟨e, _, herror⟩
    · rw [hok] at hr
      cases hr
      exact ⟨hs, rfl, rfl, hk, ht⟩
    · rw [herror] at hr
      cases hr
  · rw [row_of_not_printable hs] at hr
    cases hr

theorem row_ok_or_misses (hs : s.Printable) (hc : c.Aligned) (hk : c.Knows h.sentence) :
    (∃ row, s.row c h = .ok row) ∨ ∃ o, c.MissesAt h o (s.row c h) := by
  rcases row_cases hs c h with ⟨ks, tag, _, _, hok⟩ | ⟨e, hfailed, herror⟩
  · exact Or.inl ⟨_, hok⟩
  · rw [herror]
    rcases hfailed with hkeys | htag
    · rcases s.keys_ok_or_misses hc hk with ⟨ks, hks⟩ | ⟨_, _, o, _, hm⟩
      · rw [hkeys] at hks
        cases hks
      · exact Or.inr ⟨o, hm.error hkeys⟩
    · exact Or.inr ⟨0, Corpus.missesAt_of_tagAt hc hk htag⟩

/-! ## Tables -/

theorem table_of_not_printable (hs : ¬ s.Printable) : s.table c = .error .unprintable := by
  rw [table, columns?_eq_none hs]

theorem table_of_printable (hs : s.Printable) :
    s.table c = (c.cursors.mapM (s.row c)).map (⟨s.tableColumns, ·⟩) := by
  simp only [table, hs.columns?]
  cases c.cursors.mapM (s.row c) <;> rfl

theorem table_eq_ok {table : FeatureTable} (ht : s.table c = .ok table) :
    s.Printable ∧ table.columns = s.tableColumns ∧ c.cursors.mapM (s.row c) = .ok table.rows := by
  by_cases hs : s.Printable
  · rw [table_of_printable hs] at ht
    obtain ⟨rows, hrows, rfl⟩ := exists_of_map_ok ht
    exact ⟨hs, rfl, hrows⟩
  · rw [table_of_not_printable hs] at ht
    cases ht

theorem table_ok_or_misses (hs : s.Printable) (hc : c.Aligned) :
    (∃ table, s.table c = .ok table) ∨ ∃ h ∈ c.cursors, ∃ o, c.MissesAt h o (s.table c) := by
  rw [table_of_printable hs]
  cases hrows : c.cursors.mapM (s.row c) with
  | ok rows => exact Or.inl ⟨_, rfl⟩
  | error e =>
      obtain ⟨h, hmem, herror⟩ := exists_of_mapM_error hrows
      rcases row_ok_or_misses hs hc (Corpus.mem_cursors_iff.mp hmem).knows
        with ⟨row, hrow⟩ | ⟨o, hm⟩
      · rw [herror] at hrow
        cases hrow
      · exact Or.inr ⟨h, hmem, o, hm.error herror⟩

theorem fullyTagged_of_table (hc : c.Aligned) {table : FeatureTable} (ht : s.table c = .ok table) :
    c.FullyTagged := by
  intro p i hi
  obtain ⟨_, _, hrows⟩ := table_eq_ok ht
  obtain ⟨row, hrow⟩ := exists_mapM_ok_iff.mp ⟨_, hrows⟩ ⟨p, i⟩ (Corpus.mem_cursors_iff.mpr hi)
  obtain ⟨_, _, _, _, htag⟩ := row_eq_ok hrow
  exact ⟨row.outcome, Corpus.tagSlot?_of_tagAt (h := ⟨p, i⟩) hc hi htag⟩

theorem exists_table_iff (hc : c.Aligned) :
    (∃ table, s.table c = .ok table) ↔ s.Printable ∧ c.FullyTagged := by
  constructor
  · rintro ⟨table, htable⟩
    exact ⟨(table_eq_ok htable).1, fullyTagged_of_table hc htable⟩
  · rintro ⟨hs, hfull⟩
    rcases table_ok_or_misses hs hc with htable | ⟨h, _, o, ⟨hi, hno⟩, _⟩
    · exact htable
    · exact absurd (hfull _ _ hi) hno

theorem cursors_of_rows {rows : List FeatureRow} (hr : c.cursors.mapM (s.row c) = .ok rows) :
    rows.map (·.cursor) = c.cursors :=
  map_eq_of_mapM_ok hr fun _ _ hrow => (row_eq_ok hrow).2.1

/-! ## Records -/

/-- A number of the corpus, or a key or a tag. -/
inductive Cell
  | number (value : Int)
  | text (value : String)
deriving DecidableEq, Repr

/-- A row by names. Of several cells with one name the last one stays. -/
def record (row : FeatureRow) : SortedMap Cell :=
  .ofList ([("sentence", .number row.cursor.sentence), ("position", .number row.cursor.position)] ++
    row.cells.map fun (name, x) => (name, .text x))

/-- What a record has under each of some columns. -/
def display (columns : List String) (row : FeatureRow) : List (Option Cell) :=
  columns.map (record row).get?

/-- All that a row holds, in order. -/
def content (row : FeatureRow) : List Cell :=
  [.number row.cursor.sentence, .number row.cursor.position] ++ row.keys.map .text ++
    [.text row.outcome]

theorem record_eq {row : FeatureRow} (hcolumns : row.columns = s.columnNames)
    (hl : row.keys.length = s.size) : record row = .ofList (s.tableColumns.zip (content row)) := by
  have hlengths : s.columnNames.length = (row.keys.map Cell.text).length := by
    rw [length_columnNames, List.length_map, hl]
  have hcells : row.cells.map (fun x => (x.1, Cell.text x.2)) =
      s.columnNames.zip (row.keys.map .text) ++ [("outcome", .text row.outcome)] := by
    rw [FeatureRow.cells, List.map_append, hcolumns, List.zip_map_right]
    rfl
  simp only [record, hcells, tableColumns, content, List.zip_append hlengths, List.cons_append,
    List.nil_append, List.zip_cons_cons, List.zip_nil_left]

/-- No name is given twice, so each cell is found again. -/
theorem display_eq {row : FeatureRow} (hcolumns : row.columns = s.columnNames)
    (hl : row.keys.length = s.size) :
    display s.tableColumns row = (content row).map some := by
  have hcontent : s.tableColumns.length = (content row).length := by
    simp [tableColumns, content, length_columnNames, hl]
  rw [display, record_eq hcolumns hl]
  exact SortedMap.map_get?_ofList_zip s.nodup_tableColumns hcontent

/-! ## The training table -/

/-- The columns are those of the cursor, of the templates and of the tags, by different names. The
rows are those of the positions of the corpus, in order, with their keys and tags. -/
structure Tabulates (s : FeatureSet) (c : Corpus) (table : FeatureTable) : Prop where
  columns : table.columns = ["sentence", "position"] ++
    (s.templates.zipIdx.map fun (t, i) => toString i ++ ":" ++ t.print) ++ ["outcome"]
  distinct : table.columns.Nodup
  covers : ∀ p i, c.Inside p i ↔ ∃ row ∈ table.rows, row.cursor = ⟨p, i⟩
  ordered : table.rows.Pairwise fun row row' => row.cursor.Before row'.cursor
  keys : ∀ row ∈ table.rows, s.keys c row.cursor = .ok row.keys
  outcome : ∀ row ∈ table.rows,
    c.tagSlot? row.cursor.sentence row.cursor.position = some (some row.outcome)
  displayed : ∀ row ∈ table.rows, display table.columns row = (content row).map some

theorem tabulates_of_table (hc : c.Aligned) {table : FeatureTable} (ht : s.table c = .ok table) :
    s.Tabulates c table := by
  obtain ⟨_, hcolumns, hrows⟩ := table_eq_ok ht
  have hcursors := cursors_of_rows hrows
  have hrow : ∀ row ∈ table.rows, row.cursor ∈ c.cursors ∧ s.row c row.cursor = .ok row := by
    intro row hmem
    obtain ⟨h, hh, hok⟩ := exists_of_mem_of_mapM_ok hrows hmem
    obtain ⟨_, rfl, _⟩ := row_eq_ok hok
    exact ⟨hh, hok⟩
  constructor
  case columns => exact hcolumns
  case distinct =>
    rw [hcolumns]
    exact s.nodup_tableColumns
  case covers =>
    intro p i
    rw [← Corpus.mem_cursors_iff (h := ⟨p, i⟩), ← hcursors, List.mem_map]
  case ordered =>
    rw [← List.pairwise_map, hcursors]
    exact c.pairwise_cursors
  case keys =>
    intro row hmem
    obtain ⟨_, _, _, hkeys, _⟩ := row_eq_ok (hrow row hmem).2
    exact hkeys
  case outcome =>
    intro row hmem
    obtain ⟨hh, hok⟩ := hrow row hmem
    obtain ⟨_, _, _, _, htag⟩ := row_eq_ok hok
    exact Corpus.tagSlot?_of_tagAt hc (Corpus.mem_cursors_iff.mp hh) htag
  case displayed =>
    intro row hmem
    obtain ⟨_, _, hnames, hkeys, _⟩ := row_eq_ok (hrow row hmem).2
    rw [hcolumns]
    exact display_eq hnames (length_of_mapM_ok hkeys)

/-- Three tagged words, with an empty sentence between them. -/
def goldTagged : Corpus :=
  Corpus.empty.run [.add ["Birds", "sing"] (some [some "NNS", none]), .add [] none,
    .add ["So"] (some [some "RB"]), .assign ⟨0, 1⟩ (some "VBP")]

/-- Two templates that are equal, and one that looks beyond the sentence. -/
def repeatedTag : FeatureSet := ⟨[.tag (-1), .tag (-1), .word 1]⟩

/-- A template whose offset has too many digits to be printed. -/
def farWord : FeatureSet := ⟨[.word Numeral.limit]⟩

theorem not_printable_farWord : ¬ farWord.Printable :=
  fun h => h _ List.mem_cons_self _ rfl Numeral.wide_limit

end FeatureSet
end TaggerFeatures

import SmellRefactor.Proofs.Failure.Normalization
import SmellRefactor.Proofs.Text.ByteOrder

/-!
# The rows of a failure index

`FailureIndex.rows` lists what an index holds as one sequence.  The rows come in strict order, smell
names by their bytes and then paths by their components; so every list of the index occurs once
among them.  Lookups, the paths of a smell name and the number of failures can be read off the rows,
and a nested table that is made of the rows has the same index as the table they come from.
-/

namespace SmellRefactor

namespace FailureIndex

/-- A smell name and a path with the methods that failed there. -/
abbrev Row : Type := String × Path × List Method

/-- Whether a row comes before another: by the bytes of its smell name, and under one name by the
components of its path. -/
def Row.Precedes (a b : Row) : Prop :=
  Text.bytes a.1 < Text.bytes b.1 ∨
    a.1 = b.1 ∧ compare a.2.1.components b.2.1.components = .lt

/-- The rows of one smell name. -/
def rowsUnder (e : String × FailedMethods) : List Row :=
  e.2.entries.map fun failed => (e.1, failed.1, failed.2)

theorem rows_eq_flatMap (index : FailureIndex) :
    index.rows = index.table.entries.flatMap rowsUnder := rfl

theorem mem_rows_iff {index : FailureIndex} {row : Row} :
    row ∈ index.rows ↔
      ∃ methods, (row.1, methods) ∈ index.table.entries ∧ row.2 ∈ methods.entries := by
  rw [rows_eq_flatMap, List.mem_flatMap]
  constructor
  · rintro ⟨e, he, hrow⟩
    obtain ⟨failed, hfailed, rfl⟩ := List.mem_map.1 hrow
    exact ⟨e.2, he, hfailed⟩
  · rintro ⟨methods, hname, hpath⟩
    exact ⟨(row.1, methods), hname, List.mem_map_of_mem hpath⟩

/-- The rows come in strict order. -/
theorem pairwise_rows (index : FailureIndex) : index.rows.Pairwise Row.Precedes := by
  rw [rows_eq_flatMap, List.pairwise_flatMap]
  constructor
  · intro e _
    rw [rowsUnder, List.pairwise_map]
    exact e.2.ascending.imp fun hlt => .inr ⟨rfl, hlt⟩
  · refine index.table.ascending.imp ?_
    intro e f hlt a ha b hb
    obtain ⟨_, -, rfl⟩ := List.mem_map.1 ha
    obtain ⟨_, -, rfl⟩ := List.mem_map.1 hb
    exact .inl (Text.compare_eq_lt_iff_bytes_lt.1 hlt)

theorem Row.Precedes.ne {a b : Row} (h : a.Precedes b) : (a.1, a.2.1) ≠ (b.1, b.2.1) := by
  intro heq
  obtain ⟨hname, hpath⟩ := Prod.ext_iff.1 heq
  rcases h with hlt | ⟨-, hlt⟩
  · rw [show a.1 = b.1 from hname] at hlt
    exact List.lt_irrefl _ hlt
  · have hself : compare b.2.1.components b.2.1.components = .eq := Std.ReflCmp.compare_self
    rw [show a.2.1 = b.2.1 from hpath, hself] at hlt
    contradiction

/-- No smell name and path occur in two rows. -/
theorem nodup_rows (index : FailureIndex) :
    (index.rows.map fun row => (row.1, row.2.1)).Nodup := by
  rw [List.nodup_iff_pairwise_ne, List.pairwise_map]
  exact index.pairwise_rows.imp fun h => h.ne

/-! ## What can be read off the rows -/

theorem find?_eq_some_iff_mem_rows {index : FailureIndex} {name : String} {path : Path}
    {failed : List Method} :
    index.find? name path = some failed ↔
      ∃ own : Path, own.components = path.components ∧ (name, own, failed) ∈ index.rows := by
  rw [find?, Option.bind_eq_some_iff]
  constructor
  · rintro ⟨methods, hname, hpath⟩
    obtain ⟨e, he, hown, rfl⟩ := OrderedMap.exists_mem_of_find? hpath
    have hentry : index.table.pairAt? name = some (name, methods) := by
      rw [OrderedMap.pairAt?_eq_map_find?, hname, Option.map_some]
    refine ⟨e.1, (Path.compare_eq_iff.1 hown).symm, ?_⟩
    exact mem_rows_iff.2 ⟨methods, OrderedMap.mem_of_pairAt?_eq_some hentry, he⟩
  · rintro ⟨own, hown, hrow⟩
    obtain ⟨methods, hname, hpath⟩ := mem_rows_iff.1 hrow
    refine ⟨methods, ?_, ?_⟩
    · exact OrderedMap.find?_of_mem hname
    · rw [OrderedMap.find?_eq_map_pairAt?,
        methods.pairAt?_congr (Path.compare_eq_iff.2 hown.symm),
        OrderedMap.mem_entries_iff.1 hpath, Option.map_some]

theorem filter_rows (index : FailureIndex) (name : String) :
    index.rows.filter (fun row => row.1 = name) =
      ((index.table.find? name).map fun methods => rowsUnder (name, methods)).getD [] := by
  have hdistinct : index.table.entries.Pairwise fun a b => compare a.1 b.1 ≠ .eq :=
    index.table.ascending.imp fun hlt => by simp [hlt]
  have hother : ∀ e ∈ index.table.entries, compare name e.1 ≠ .eq →
      (rowsUnder e).filter (fun row => row.1 = name) = [] := by
    intro e _ hne
    have hname : e.1 ≠ name := fun h => hne (Std.compare_eq_iff_eq.2 h.symm)
    simp [rowsUnder, List.filter_map, Function.comp_def, hname]
  rw [rows_eq_flatMap, List.filter_flatMap, Entries.flatMap_eq_of_pairAt? hdistinct hother]
  change ((index.table.pairAt? name).map _).getD [] = _
  rw [OrderedMap.pairAt?_eq_map_find?]
  cases index.table.find? name with
  | none => rfl
  | some methods => simp [rowsUnder, List.filter_map, Function.comp_def]

theorem paths_eq_filter_rows (index : FailureIndex) (name : String) :
    index.paths name = (index.rows.filter fun row => row.1 = name).map fun row => row.2.1 := by
  rw [filter_rows, paths]
  cases index.table.find? name with
  | none => rfl
  | some methods => simp [rowsUnder, OrderedMap.keys, Function.comp_def]

theorem total_eq_tally_rows (index : FailureIndex) :
    index.total = tally (fun row => row.2.2.length) index.rows := by
  rw [total, rows_eq_flatMap, tally_flatMap, OrderedMap.values, tally_map]
  apply tally_congr
  intro e _
  rw [rowsUnder, OrderedMap.values, tally_map, tally_map]

/-! ## The table that is made of the rows -/

/-- Puts the methods of a row under its smell name and its path. -/
def putRow (table : OrderedMap String FailedMethods) (row : Row) :
    OrderedMap String FailedMethods :=
  table.upsert row.1 fun old => (old.getD .empty).insert row.2.1 row.2.2

/-- The nested table that is made of rows. -/
def tableOfRows (rows : List Row) : OrderedMap String FailedMethods := rows.foldl putRow .empty

/-- A nested table without the smell names that have no path. -/
def withoutBareNames (table : OrderedMap String FailedMethods) :
    OrderedMap String FailedMethods :=
  table.filterMap fun _ methods => if methods.isEmpty then none else some methods

/-- Rows of one smell name are put there together. -/
theorem foldl_putRow_cons (table : OrderedMap String FailedMethods) (name : String)
    (first : Path × List Method) (rest : List (Path × List Method)) :
    ((first :: rest).map fun failed => (name, failed.1, failed.2)).foldl putRow table =
      table.upsert name fun old =>
        (first :: rest).foldl (fun methods e => methods.insert e.1 e.2) (old.getD .empty) := by
  induction rest generalizing table first with
  | nil => rfl
  | cons second rest ih =>
      rw [List.map_cons, List.foldl_cons, ih, putRow, OrderedMap.upsert_upsert]
      rfl

/-- The rows of a smell name that is new to a table put all its methods there. -/
theorem foldl_putRow_rowsUnder {table : OrderedMap String FailedMethods}
    {e : String × FailedMethods} (hnew : table.find? e.1 = none) :
    (rowsUnder e).foldl putRow table =
      if e.2.isEmpty then table else table.insert e.1 e.2 := by
  obtain ⟨name, methods⟩ := e
  rw [rowsUnder, OrderedMap.isEmpty]
  cases hentries : methods.entries with
  | nil => rfl
  | cons first rest =>
      rw [foldl_putRow_cons, ← hentries, if_neg (by simp [hentries])]
      apply OrderedMap.upsert_congr
      rw [hnew]
      exact OrderedMap.ofList_entries methods

theorem foldl_putRow_flatMap {entries : List (String × FailedMethods)}
    (hasc : Ascending entries) {table : OrderedMap String FailedMethods}
    (hnew : ∀ e ∈ entries, table.find? e.1 = none) :
    (entries.flatMap rowsUnder).foldl putRow table =
      (entries.filterMap fun e =>
        (if e.2.isEmpty then none else some e.2).map fun methods => (e.1, methods)).foldl
          (fun table e => table.insert e.1 e.2) table := by
  induction entries generalizing table with
  | nil => rfl
  | cons e rest ih =>
      obtain ⟨hhead, hrest⟩ := List.pairwise_cons.1 hasc
      have hnewRest : ∀ f ∈ rest, table.find? f.1 = none := fun f hf => hnew f (by simp [hf])
      rw [List.flatMap_cons, List.foldl_append, foldl_putRow_rowsUnder (hnew e (by simp))]
      by_cases hempty : e.2.isEmpty = true
      · rw [if_pos hempty, ih hrest hnewRest, List.filterMap_cons_none (by simp [hempty])]
      · rw [if_neg hempty, ih hrest, List.filterMap_cons_some (by simp [hempty]; rfl),
          List.foldl_cons]
        intro f hf
        have hne : compare f.1 e.1 ≠ .eq := by
          rw [Std.OrientedCmp.gt_of_lt (hhead f hf)]
          simp
        rw [OrderedMap.insert, OrderedMap.find?_upsert, if_neg hne, hnewRest f hf]

/-- The rows of an index make up its table, but for the smell names without a path. -/
theorem tableOfRows_rows (index : FailureIndex) :
    tableOfRows index.rows = withoutBareNames index.table := by
  rw [tableOfRows, rows_eq_flatMap, foldl_putRow_flatMap index.table.ascending (by simp)]
  exact OrderedMap.ofList_entries (withoutBareNames index.table)

theorem pairAt?_withoutBareNames (table : OrderedMap String FailedMethods) (name : String)
    (path : Path) :
    (FailureIndex.mk (withoutBareNames table)).pairAt? name path =
      (FailureIndex.mk table).pairAt? name path := by
  simp only [pairAt?, withoutBareNames, OrderedMap.find?_eq_map_pairAt?,
    OrderedMap.pairAt?_filterMap]
  cases table.pairAt? name with
  | none => rfl
  | some e =>
      by_cases hempty : e.2.isEmpty = true
      · have hnone : e.2.pairAt? path = none := by
          rw [OrderedMap.pairAt?, List.isEmpty_iff.1 hempty, Entries.pairAt?_nil]
        simp [hempty, hnone]
      · simp [hempty]

/-- An index is the same with and without smell names that have no path. -/
theorem ofTable_withoutBareNames (table : OrderedMap String FailedMethods) :
    ofTable (withoutBareNames table) = ofTable table := by
  apply (canonical_ofTable _).ext (canonical_ofTable _)
  intro name path
  rw [pairAt?_ofTable, pairAt?_ofTable, pairAt?_withoutBareNames]

/-- The rows of an index come in strict order and hold each of its lists once.  A lookup finds a
list exactly if a row holds it under the name and a path of the same components, the paths of a
smell name are those of its rows, and the failures are counted by the rows.  The table that is made
of the rows has the index of the table they come from. -/
theorem views_agree (index : FailureIndex) :
    index.rows.Pairwise Row.Precedes ∧
      (index.rows.map fun row => (row.1, row.2.1)).Nodup ∧
      (∀ row : Row, row ∈ index.rows ↔
        ∃ methods, (row.1, methods) ∈ index.table.entries ∧ row.2 ∈ methods.entries) ∧
      (∀ name path failed, index.find? name path = some failed ↔
        ∃ own : Path, own.components = path.components ∧ (name, own, failed) ∈ index.rows) ∧
      (∀ name, index.paths name =
        (index.rows.filter fun row => row.1 = name).map fun row => row.2.1) ∧
      index.total = tally (fun row => row.2.2.length) index.rows ∧
      ofTable (tableOfRows index.rows) = ofTable index.table := by
  refine ⟨index.pairwise_rows, index.nodup_rows, fun _ => mem_rows_iff,
    fun _ _ _ => find?_eq_some_iff_mem_rows, index.paths_eq_filter_rows,
    index.total_eq_tally_rows, ?_⟩
  rw [tableOfRows_rows, ofTable_withoutBareNames]

end FailureIndex

end SmellRefactor

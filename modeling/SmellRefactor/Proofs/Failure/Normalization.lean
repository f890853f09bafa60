import SmellRefactor.Proofs.Failure.Construction
import SmellRefactor.Proofs.Failure.Content

/-!
# Normalizing nested tables

The index of a nested table keeps the lists of the table that hold something, each under its own
smell name and path, and drops everything else.  It follows which tables have the same index, that
no failure is lost, that an index without empty parts comes back as it is, and that it makes no
difference to the lists whether tables are normalized before or after they are merged.
-/

namespace SmellRefactor

namespace FailureIndex

/-- The failed methods without empty lists. -/
def withoutEmpty (methods : FailedMethods) : FailedMethods :=
  methods.filterMap fun _ failed => if failed.isEmpty then none else some failed

theorem ofTable_eq (table : OrderedMap String FailedMethods) :
    ofTable table = ⟨table.filterMap fun _ methods =>
      if (withoutEmpty methods).isEmpty then none else some (withoutEmpty methods)⟩ := rfl

/-! ## Lookups -/

theorem pairAt?_withoutEmpty (methods : FailedMethods) (path : Path) :
    (withoutEmpty methods).pairAt? path =
      (methods.pairAt? path).filter fun e => !e.2.isEmpty := by
  rw [withoutEmpty, OrderedMap.pairAt?_filterMap]
  rcases methods.pairAt? path with _ | ⟨own, _ | ⟨m, failed⟩⟩ <;> rfl

/-- An index of a table has the entries of the table that hold something, as they are spelled
there. -/
theorem pairAt?_ofTable (table : OrderedMap String FailedMethods) (name : String) (path : Path) :
    (ofTable table).pairAt? name path =
      ((FailureIndex.mk table).pairAt? name path).filter fun e => !e.2.isEmpty := by
  simp only [pairAt?, ofTable_eq, OrderedMap.find?_eq_map_pairAt?, OrderedMap.pairAt?_filterMap]
  cases table.pairAt? name with
  | none => rfl
  | some row =>
      rw [Option.bind_some, Option.map_some, Option.bind_some, ← pairAt?_withoutEmpty]
      -- where nothing is left under the name, nothing was to be found under the path
      by_cases hempty : (withoutEmpty row.2).isEmpty = true
      · have hnil : (withoutEmpty row.2).entries = [] := List.isEmpty_iff.1 hempty
        rw [if_pos hempty, OrderedMap.pairAt?, hnil]
        rfl
      · rw [if_neg hempty]
        rfl

theorem find?_ofTable (table : OrderedMap String FailedMethods) (name : String) (path : Path) :
    (ofTable table).find? name path =
      ((FailureIndex.mk table).find? name path).filter fun failed => !failed.isEmpty := by
  rw [find?_eq_map_pairAt?, find?_eq_map_pairAt?, pairAt?_ofTable]
  rcases (FailureIndex.mk table).pairAt? name path with _ | ⟨own, _ | ⟨m, failed⟩⟩ <;> rfl

theorem find?_ofTable_eq_some_iff {table : OrderedMap String FailedMethods} {name : String}
    {path : Path} {failed : List Method} :
    (ofTable table).find? name path = some failed ↔
      (FailureIndex.mk table).find? name path = some failed ∧ failed ≠ [] := by
  rw [find?_ofTable, Option.filter_eq_some_iff]
  simp

/-- What is listed under a name and a path, if nothing counts as the empty list, is the same in a
table and in its index. -/
theorem getD_find?_ofTable (table : OrderedMap String FailedMethods) (name : String)
    (path : Path) :
    ((ofTable table).find? name path).getD [] =
      ((FailureIndex.mk table).find? name path).getD [] := by
  rw [find?_ofTable]
  rcases (FailureIndex.mk table).find? name path with _ | _ | ⟨m, failed⟩ <;> rfl

/-! ## Indices without empty parts -/

theorem Canonical.find?_ne_some_nil {index : FailureIndex} (h : index.Canonical) (name : String)
    (path : Path) : index.find? name path ≠ some [] := by
  intro hfind
  rw [find?, Option.bind_eq_some_iff] at hfind
  obtain ⟨methods, hname, hpath⟩ := hfind
  exact (h.of_find? hname).2.find?_ne path hpath

/-- Without empty parts, an index is determined by its lists even if nothing counts as the empty
list. -/
theorem Canonical.equivalent_iff_getD {first second : FailureIndex} (h : first.Canonical)
    (h' : second.Canonical) :
    first.equivalent second = true ↔ ∀ name path,
      (first.find? name path).getD [] = (second.find? name path).getD [] := by
  rw [h.equivalent_iff h']
  apply forall₂_congr
  intro name path
  have hfirst := h.find?_ne_some_nil name path
  have hsecond := h'.find?_ne_some_nil name path
  generalize first.find? name path = x at hfirst ⊢
  generalize second.find? name path = y at hsecond ⊢
  rcases x with _ | _ | ⟨m, failed⟩ <;> rcases y with _ | _ | ⟨n, others⟩ <;> simp_all

/-- An index without empty parts is the index of its table. -/
theorem Canonical.ofTable_table {index : FailureIndex} (h : index.Canonical) :
    ofTable index.table = index := by
  apply (canonical_ofTable index.table).ext h
  intro name path
  rw [pairAt?_ofTable]
  change (index.pairAt? name path).filter _ = index.pairAt? name path
  have hne := h.find?_ne_some_nil name path
  rw [find?_eq_map_pairAt?] at hne
  cases hpair : index.pairAt? name path with
  | none => rfl
  | some e =>
      have hfull : e.2 ≠ [] := by
        intro hnil
        exact hne (by rw [hpair, Option.map_some, hnil])
      simp [hfull]

/-! ## The number of failures -/

theorem tally_withoutEmpty (methods : FailedMethods) :
    tally List.length (withoutEmpty methods).values = tally List.length methods.values := by
  apply OrderedMap.tally_filterMap
  rintro ⟨path, failed⟩ -
  cases failed <;> rfl

theorem total_ofTable (table : OrderedMap String FailedMethods) :
    (ofTable table).total = (FailureIndex.mk table).total := by
  rw [total, total, ofTable_eq]
  apply OrderedMap.tally_filterMap
  rintro ⟨name, methods⟩ -
  rw [← tally_withoutEmpty methods]
  by_cases hempty : (withoutEmpty methods).isEmpty = true
  · have hnil : (withoutEmpty methods).values = [] := by
      rw [OrderedMap.values, List.isEmpty_iff.1 hempty, List.map_nil]
    simp [hempty, hnil]
  · simp [hempty]

/-! ## Tables and merges -/

/-- The index of a nested table lists exactly the lists of the table that hold something, counts the
failures of the table, and is the index of its own table.  Two tables have equivalent indices
exactly when they agree under every smell name and path, where nothing counts as the empty list.
Normalizing a merge gives an index equivalent to the merge of the normalized indices. -/
theorem ofTable_normalizes (table other : OrderedMap String FailedMethods)
    (first second : FailureIndex) :
    (∀ name path failed, (ofTable table).find? name path = some failed ↔
        (FailureIndex.mk table).find? name path = some failed ∧ failed ≠ []) ∧
      (ofTable table).total = (FailureIndex.mk table).total ∧
      ofTable (ofTable table).table = ofTable table ∧
      ((ofTable table).equivalent (ofTable other) = true ↔ ∀ name path,
        ((FailureIndex.mk table).find? name path).getD [] =
          ((FailureIndex.mk other).find? name path).getD []) ∧
      (ofTable (first.merge second).table).equivalent
        ((ofTable first.table).merge (ofTable second.table)) = true := by
  have hfirst := canonical_ofTable first.table
  have hsecond := canonical_ofTable second.table
  refine ⟨fun name path failed => find?_ofTable_eq_some_iff, total_ofTable table,
    (canonical_ofTable table).ofTable_table, ?_, ?_⟩
  · rw [(canonical_ofTable table).equivalent_iff_getD (canonical_ofTable other)]
    simp only [getD_find?_ofTable]
  · rw [(canonical_ofTable _).equivalent_iff_getD (canonical_merge hfirst hsecond)]
    intro name path
    calc ((ofTable (first.merge second).table).find? name path).getD []
        = ((first.merge second).find? name path).getD [] := getD_find?_ofTable _ name path
      _ = (first.find? name path).getD [] ++ (second.find? name path).getD [] :=
          getD_find?_merge first second name path
      _ = ((ofTable first.table).find? name path).getD [] ++
            ((ofTable second.table).find? name path).getD [] := by
          rw [getD_find?_ofTable, getD_find?_ofTable]
      _ = (((ofTable first.table).merge (ofTable second.table)).find? name path).getD [] :=
          (getD_find?_merge _ _ name path).symm

/-- An empty list lends its spelling of the path to a merge, unless it is dropped before. -/
example :
    let load : Method := ⟨"load", [.deepNesting]⟩
    let first : FailureIndex := ⟨.ofList [("Deep Nesting", .ofList [(⟨"src//a.java"⟩, [])])]⟩
    let second : FailureIndex := ⟨.ofList [("Deep Nesting", .ofList [(⟨"src/a.java"⟩, [load])])]⟩
    ofTable (first.merge second).table ≠ (ofTable first.table).merge (ofTable second.table) := by
  decide

end FailureIndex

end SmellRefactor

import SmellRefactor.Proofs.Failure.Records

/-!
# Freezing what was recorded

While failures are recorded they may be kept in tables without order, which list their contents in
one order or another when they are frozen into an index.  The order does not show: the index lists
under every smell and path the methods that were recorded there, in the order of the records and
under the first spelling of the path, and nothing else.
-/

namespace SmellRefactor

namespace FailureIndex

/-! ## Tables without order -/

/-- Whether nested lists tell what a builder holds: its smell names in any order, and under each of
them its paths in any order, each with its methods. -/
def Builder.Lists (b : Builder) (contents : List (String × List (Path × List Method))) : Prop :=
  ∃ table : List (String × FailedMethods), table.Perm b.table.entries ∧
    List.Forall₂ (fun row e => row.1 = e.1 ∧ row.2.Perm e.2.entries) contents table

theorem Builder.lists_entries (b : Builder) :
    b.Lists (b.table.entries.map fun e => (e.1, e.2.entries)) := by
  refine ⟨b.table.entries, .refl _, ?_⟩
  rw [List.forall₂_map_left_iff, List.forall₂_same]
  exact fun _ _ => ⟨rfl, .refl _⟩

/-- The index of nested lists, with smell names and paths put into their order. -/
def freeze (contents : List (String × List (Path × List Method))) : FailureIndex :=
  ⟨.ofList (contents.map fun row => (row.1, .ofList row.2))⟩

/-- In whatever order the contents of a builder are listed, they freeze into the same index. -/
theorem freeze_eq_finish {b : Builder} {contents : List (String × List (Path × List Method))}
    (h : b.Lists contents) : freeze contents = b.finish := by
  obtain ⟨table, hperm, hrows⟩ := h
  have htable : (contents.map fun row => (row.1, OrderedMap.ofList row.2)) = table := by
    clear hperm
    induction hrows with
    | nil => rfl
    | cons hrow _ ih =>
        obtain ⟨hname, hpaths⟩ := hrow
        rw [List.map_cons, ih, hname, OrderedMap.ofList_of_perm hpaths]
  rw [freeze, htable, OrderedMap.ofList_of_perm hperm, Builder.finish]

/-! ## Records by smell and path -/

/-- Whether a record is for a smell at a path, however the path is spelled. -/
def Record.isFor (smell : CodeSmell) (path : Path) (r : Record) : Bool :=
  decide (r.smell = smell) && path.same r.path

theorem Record.isUnder_name (smell : CodeSmell) (path : Path) :
    isUnder smell.name path = isFor smell path := by
  funext r
  rw [Bool.eq_iff_iff, isUnder_name_iff]
  simp [isFor, Path.same]

/-- The spelling under which a path is listed. -/
theorem find?_paths (index : FailureIndex) (name : String) (path : Path) :
    (index.paths name).find? path.same = (index.pairAt? name path).map Prod.fst := by
  rw [paths, pairAt?]
  cases index.table.find? name with
  | none => rfl
  | some failed =>
      rw [Option.map_some, Option.getD_some, OrderedMap.keys, List.find?_map]
      rfl

/-- An index of records names the smells that were recorded. -/
theorem mem_keys_ofRecords {records : List Record} {name : String} :
    name ∈ (ofRecords records).table.keys ↔ ∃ r ∈ records, r.smell.name = name := by
  rw [OrderedMap.mem_keys_iff, (canonical_ofRecords records).isSome_find?_iff]
  simp only [pairAt?_ofRecords, listing, Option.isSome_map, List.isSome_head?]
  constructor
  · rintro ⟨path, hrecords⟩
    obtain ⟨r, hr⟩ := List.exists_mem_of_ne_nil _ hrecords
    obtain ⟨hmem, hunder⟩ := List.mem_filter.1 hr
    exact ⟨r, hmem, (Record.isUnder_iff.1 hunder).1⟩
  · rintro ⟨r, hmem, hname⟩
    have hunder : r.isUnder name r.path = true :=
      Record.isUnder_iff.2 ⟨hname, Std.ReflCmp.compare_self⟩
    exact ⟨r.path, List.ne_nil_of_mem (List.mem_filter.2 ⟨hmem, hunder⟩)⟩

/-- The index of what was recorded one after another lists something for a smell at a path exactly
when this was recorded for them, namely the methods in the order of the records, under the first
spelling of the path.  It names no other smell, lists no other path and counts every record once,
and it is the same in whatever order the contents of the builder are listed. -/
theorem finish_recordAll (records : List Record) :
    let builder := Builder.empty.recordAll records
    let index := builder.finish
    (∀ smell path,
      (index.find? smell.name path = none ↔ records.filter (Record.isFor smell path) = []) ∧
      (index.find? smell.name path).getD [] =
        (records.filter (Record.isFor smell path)).map Record.method ∧
      (index.paths smell.name).find? path.same =
        (records.find? (Record.isFor smell path)).map Record.path) ∧
    (∀ name, name ∈ index.table.keys ↔ ∃ r ∈ records, r.smell.name = name) ∧
    (∀ name, ∀ path ∈ index.paths name, ∃ r ∈ records, r.smell.name = name ∧ r.path = path) ∧
    index.total = records.length ∧
    ∀ contents, builder.Lists contents → freeze contents = index := by
  intro builder index
  refine ⟨?_, fun name => mem_keys_ofRecords, fun name path => exists_record_of_mem_paths,
    total_ofRecords records, fun contents => freeze_eq_finish⟩
  intro smell path
  refine ⟨?_, ?_, ?_⟩
  · rw [← Record.isUnder_name]
    change (ofRecords records).find? smell.name path = none ↔ _
    rw [find?_ofRecords, Option.map_eq_none_iff, listing, Option.map_eq_none_iff,
      List.head?_eq_none_iff]
  · rw [← Record.isUnder_name]
    exact getD_find?_ofRecords records smell.name path
  · rw [← Record.isUnder_name, find?_paths, ← List.head?_filter]
    change ((ofRecords records).pairAt? smell.name path).map Prod.fst = _
    rw [pairAt?_ofRecords, listing, Option.map_map]
    rfl

/-- The contents are listed backwards here, and one path was spelled in two ways. -/
theorem finish_recordAll_spellings :
    let load : Method := ⟨"load", [.deepNesting]⟩
    let save : Method := ⟨"save", [.deepNesting]⟩
    let near : Path := ⟨"a.java"⟩
    let far : Path := ⟨"src//b.java"⟩
    let records : List Record := [⟨.deepNesting, far, load⟩, ⟨.dataClump, near, load⟩,
      ⟨.deepNesting, ⟨"src/b.java"⟩, save⟩, ⟨.deepNesting, near, load⟩]
    let builder := Builder.empty.recordAll records
    let contents := [("Deep Nesting", [(far, [load, save]), (near, [load])]),
      ("Data Clump", [(near, [load])])]
    builder.Lists contents ∧ freeze contents = builder.finish ∧
      (builder.finish.find? "Deep Nesting" ⟨"src/./b.java"⟩).getD [] = [load, save] ∧
      builder.finish.find? "Data Clump" far = none ∧
      far ∈ builder.finish.paths "Deep Nesting" ∧
      (∃ r ∈ records, r.smell.name = "Deep Nesting" ∧ r.path = far) ∧
      builder.finish.total = 4 := by
  intro load save near far records builder contents
  have hlists : builder.Lists contents :=
    ⟨builder.table.entries.reverse, List.reverse_perm _, by decide⟩
  have hfar : far ∈ builder.finish.paths "Deep Nesting" := by decide
  obtain ⟨hfind, -, hpaths, htotal, hfreeze⟩ := finish_recordAll records
  obtain ⟨-, hmethods, -⟩ := hfind .deepNesting ⟨"src/./b.java"⟩
  obtain ⟨hnone, -⟩ := hfind .dataClump far
  exact ⟨hlists, hfreeze contents hlists, hmethods.trans (by decide), hnone.2 (by decide), hfar,
    hpaths "Deep Nesting" far hfar, htotal⟩

end FailureIndex

end SmellRefactor

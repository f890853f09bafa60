import Mathlib.Data.List.Induction
import SmellRefactor.Failure.Builder
import SmellRefactor.Proofs.Failure.Canonical

/-!
# Indices of recorded failures

A builder that takes a list of records and finishes gives the index of these records.  Under a
smell name and a path this index lists exactly the methods recorded there, in the order of the
records and under the first spelling of the path.  From this description it follows that the index
counts every record once, that records in two parts give the merge of two indices, and what
reordering the records does to an index.
-/

namespace SmellRefactor

theorem CodeSmell.name_injective : Function.Injective CodeSmell.name := by
  intro a b h
  cases a <;> cases b <;> first | rfl | simp [name] at h

namespace FailureIndex

/-- One failed method, as it is recorded. -/
structure Record where
  smell : CodeSmell
  path : Path
  method : Method
deriving DecidableEq, Repr

/-- Whether a record belongs under a smell name and a path. -/
def Record.isUnder (name : String) (path : Path) (r : Record) : Bool :=
  decide (r.smell.name = name) && compare path r.path == .eq

theorem Record.isUnder_iff {name : String} {path : Path} {r : Record} :
    r.isUnder name path = true ↔ r.smell.name = name ∧ compare path r.path = .eq := by
  simp [isUnder]

theorem Record.isUnder_name_iff {smell : CodeSmell} {path : Path} {r : Record} :
    r.isUnder smell.name path = true ↔ r.smell = smell ∧ compare path r.path = .eq := by
  rw [isUnder_iff, CodeSmell.name_injective.eq_iff]

/-- Takes records one after another. -/
def Builder.recordAll (b : Builder) (records : List Record) : Builder :=
  records.foldl (fun b r => b.record r.smell r.path r.method) b

@[simp]
theorem Builder.recordAll_nil (b : Builder) : b.recordAll [] = b := rfl

theorem Builder.recordAll_append (b : Builder) (xs ys : List Record) :
    b.recordAll (xs ++ ys) = (b.recordAll xs).recordAll ys :=
  List.foldl_append

/-- The index of a list of records. -/
def ofRecords (records : List Record) : FailureIndex := (Builder.empty.recordAll records).finish

/-- The entry that records of one smell name and one path make. -/
def listing (records : List Record) : Option (Path × List Method) :=
  records.head?.map fun first => (first.path, records.map Record.method)

theorem listing_append (xs ys : List Record) :
    listing (xs ++ ys) =
      Option.merge (OrderedMap.joinEntries (· ++ ·)) (listing xs) (listing ys) := by
  cases xs <;> cases ys <;> simp [listing, OrderedMap.joinEntries]

/-- The step of a builder: a record appends to the list under its own name and path. -/
theorem pairAt?_record (b : Builder) (r : Record) (name : String) (path : Path) :
    (b.record r.smell r.path r.method).finish.pairAt? name path =
      Option.merge (OrderedMap.joinEntries (· ++ ·)) (b.finish.pairAt? name path)
        (listing ([r].filter (Record.isUnder name path))) := by
  simp only [pairAt?, Builder.record, Builder.finish, OrderedMap.find?_upsert,
    Std.compare_eq_iff_eq]
  by_cases hname : name = r.smell.name
  · subst hname
    rw [if_pos rfl, Option.bind_some, appendAt, OrderedMap.pairAt?_upsert]
    by_cases hpath : compare path r.path = .eq
    · have hunder : r.isUnder r.smell.name path = true := Record.isUnder_iff.2 ⟨rfl, hpath⟩
      rw [if_pos hpath, List.filter_cons_of_pos hunder]
      cases b.table.find? r.smell.name with
      | none => simp [listing]
      | some failed =>
          rw [Option.getD_some, Option.bind_some, OrderedMap.find?_eq_map_pairAt?,
            ← failed.pairAt?_congr hpath]
          cases failed.pairAt? path <;> simp [listing, OrderedMap.joinEntries]
    · have hunder : ¬ r.isUnder r.smell.name path = true := by
        simp [Record.isUnder_iff, hpath]
      rw [if_neg hpath, List.filter_cons_of_neg hunder]
      cases b.table.find? r.smell.name <;> simp [listing]
  · have hunder : ¬ r.isUnder name path = true := by
      simp [Record.isUnder_iff, Ne.symm hname]
    rw [if_neg hname, List.filter_cons_of_neg hunder]
    simp [listing]

/-- Records add to what a builder listed before, each under its own name and path. -/
theorem pairAt?_recordAll (b : Builder) (records : List Record) (name : String) (path : Path) :
    (b.recordAll records).finish.pairAt? name path =
      Option.merge (OrderedMap.joinEntries (· ++ ·)) (b.finish.pairAt? name path)
        (listing (records.filter (Record.isUnder name path))) := by
  induction records using List.reverseRecOn with
  | nil => exact Option.merge_none_right.symm
  | append_singleton records r ih =>
      rw [List.filter_append, listing_append, Builder.recordAll_append]
      refine (pairAt?_record _ r name path).trans ?_
      rw [ih]
      exact Std.Associative.assoc _ _ _

/-- An index of records lists under a name and a path what was recorded there. -/
theorem pairAt?_ofRecords (records : List Record) (name : String) (path : Path) :
    (ofRecords records).pairAt? name path =
      listing (records.filter (Record.isUnder name path)) :=
  (pairAt?_recordAll .empty records name path).trans Option.merge_none_left

/-- Behind the methods that a builder listed before come those that were recorded. -/
theorem getD_find?_recordAll (b : Builder) (records : List Record) (name : String) (path : Path) :
    ((b.recordAll records).finish.find? name path).getD [] =
      (b.finish.find? name path).getD [] ++
        (records.filter (Record.isUnder name path)).map Record.method := by
  rw [find?_eq_map_pairAt?, find?_eq_map_pairAt?, pairAt?_recordAll]
  cases b.finish.pairAt? name path <;>
    cases records.filter (Record.isUnder name path) <;>
      simp [listing, OrderedMap.joinEntries]

theorem find?_ofRecords (records : List Record) (name : String) (path : Path) :
    (ofRecords records).find? name path =
      (listing (records.filter (Record.isUnder name path))).map Prod.snd := by
  rw [find?_eq_map_pairAt?, pairAt?_ofRecords]

/-- The methods recorded under a name and a path, where nothing is listed if there are none. -/
theorem getD_find?_ofRecords (records : List Record) (name : String) (path : Path) :
    ((ofRecords records).find? name path).getD [] =
      (records.filter (Record.isUnder name path)).map Record.method :=
  getD_find?_recordAll .empty records name path

/-! ## Canonical form and count -/

theorem Builder.canonical_record {b : Builder} (h : b.finish.Canonical) (smell : CodeSmell)
    (path : Path) (method : Method) : (b.record smell path method).finish.Canonical := by
  apply h.upsert
  constructor
  · exact OrderedMap.entries_upsert_ne_nil _ _ _
  · exact noEmptyList_appendAt (h.noEmptyList_getD smell.name) path (by simp)

theorem canonical_ofRecords (records : List Record) : (ofRecords records).Canonical := by
  induction records using List.reverseRecOn with
  | nil => exact canonical_empty
  | append_singleton records r ih =>
      rw [ofRecords, Builder.recordAll_append]
      exact Builder.canonical_record ih r.smell r.path r.method

theorem total_record (b : Builder) (smell : CodeSmell) (path : Path) (method : Method) :
    (b.record smell path method).finish.total = b.finish.total + 1 := by
  have houter := b.table.tally_upsert smell.name
    (fun old => appendAt (old.getD .empty) path [method])
    (fun failed => tally List.length failed.values)
  have hinner := ((b.table.find? smell.name).getD .empty).tally_upsert path
    (fun old => old.getD [] ++ [method]) List.length
  have hlength : ∀ old : Option (List Method),
      (old.getD [] ++ [method]).length = (old.map List.length).getD 0 + 1 := by
    rintro (_ | old) <;> simp
  rw [hlength] at hinner
  simp only [total, Builder.record, Builder.finish, appendAt] at houter hinner ⊢
  cases hfind : b.table.find? smell.name with
  | none =>
      simp only [hfind, Option.map_none, Option.getD_none] at houter hinner
      simp only [OrderedMap.values, OrderedMap.entries_empty, List.map_nil, tally_nil] at hinner
      simp only [OrderedMap.values] at houter ⊢
      omega
  | some failed =>
      simp only [hfind, Option.map_some, Option.getD_some] at houter hinner
      omega

/-- Every record counts once. -/
theorem total_recordAll (b : Builder) (records : List Record) :
    (b.recordAll records).finish.total = b.finish.total + records.length := by
  induction records using List.reverseRecOn with
  | nil => rfl
  | append_singleton records r ih =>
      calc (b.recordAll (records ++ [r])).finish.total
          = ((b.recordAll records).record r.smell r.path r.method).finish.total := by
            rw [Builder.recordAll_append]
            rfl
        _ = (b.recordAll records).finish.total + 1 := total_record _ _ _ _
        _ = b.finish.total + (records ++ [r]).length := by
            rw [ih, List.length_append, List.length_singleton, Nat.add_assoc]

theorem total_ofRecords (records : List Record) : (ofRecords records).total = records.length :=
  (total_recordAll .empty records).trans (Nat.zero_add _)

/-- Every path that is listed under a name is spelled as in one of the records there. -/
theorem exists_record_of_mem_paths {records : List Record} {name : String} {path : Path}
    (h : path ∈ (ofRecords records).paths name) :
    ∃ r ∈ records, r.smell.name = name ∧ r.path = path := by
  rw [paths] at h
  cases hfind : (ofRecords records).table.find? name with
  | none => simp [hfind] at h
  | some failed =>
      rw [hfind, Option.map_some, Option.getD_some, OrderedMap.keys] at h
      obtain ⟨e, he, rfl⟩ := List.mem_map.1 h
      have hlisting := pairAt?_ofRecords records name e.1
      rw [pairAt?, hfind, Option.bind_some, OrderedMap.mem_entries_iff.1 he, eq_comm, listing,
        Option.map_eq_some_iff] at hlisting
      obtain ⟨r, hr, hre⟩ := hlisting
      obtain ⟨hmem, hunder⟩ := List.mem_filter.1 (List.mem_of_head? hr)
      exact ⟨r, hmem, (Record.isUnder_iff.1 hunder).1, congrArg Prod.fst hre⟩

/-- Records at one path make an index that knows no other path, and no other smell names. -/
theorem keys_of_find?_ofRecords {records : List Record} {path : Path}
    (hpath : ∀ r ∈ records, r.path = path) {name : String} {failed : FailedMethods}
    (h : (ofRecords records).table.find? name = some failed) :
    (∃ r ∈ records, r.smell.name = name) ∧ failed.keys = [path] := by
  have hentry : ∀ e ∈ failed.entries,
      ∃ r ∈ records, r.smell.name = name ∧ r.path = e.1 := by
    intro e he
    apply exists_record_of_mem_paths
    rw [paths, h]
    exact List.mem_map_of_mem he
  have hkey : ∀ e ∈ failed.entries, e.1 = path := by
    intro e he
    obtain ⟨r, hr, -, hre⟩ := hentry e he
    rw [← hre, hpath r hr]
  obtain ⟨e, rest, hentries⟩ :=
    List.exists_cons_of_ne_nil ((canonical_ofRecords records).of_find? h).1
  constructor
  · obtain ⟨r, hr, hname, -⟩ := hentry e (by simp [hentries])
    exact ⟨r, hr, hname⟩
  · have hasc := failed.ascending
    rw [hentries] at hasc
    -- a second entry would stand at the same path, behind the first
    have hrest : rest = [] := by
      rw [List.eq_nil_iff_forall_not_mem]
      intro f hf
      have hlt : compare e.1 f.1 = .lt := (List.pairwise_cons.1 hasc).1 f hf
      rw [hkey e (by simp [hentries]), hkey f (by simp [hentries, hf])] at hlt
      simp at hlt
    rw [OrderedMap.keys, hentries, hrest, List.map_singleton, hkey e (by simp [hentries])]

/-! ## Records in parts and in other orders -/

namespace Builder

/-- A builder that holds what two builders hold, the first one first. -/
def join (first second : Builder) : Builder := ⟨(first.finish.merge second.finish).table⟩

theorem finish_join (first second : Builder) :
    (first.join second).finish = first.finish.merge second.finish := rfl

theorem join_assoc (first second third : Builder) :
    (first.join second).join third = first.join (second.join third) :=
  congrArg (fun index : FailureIndex => (⟨index.table⟩ : Builder)) (merge_assoc _ _ _)

@[simp]
theorem join_empty (b : Builder) : b.join empty = b :=
  congrArg (fun index : FailureIndex => (⟨index.table⟩ : Builder)) (merge_empty b.finish)

theorem record_eq_join (b : Builder) (smell : CodeSmell) (path : Path) (method : Method) :
    b.record smell path method = b.join (empty.record smell path method) := rfl

/-- What a builder takes besides what it held before may as well be taken by a new builder. -/
theorem recordAll_eq_join (b : Builder) (records : List Record) :
    b.recordAll records = b.join (empty.recordAll records) := by
  induction records using List.reverseRecOn with
  | nil => exact (join_empty b).symm
  | append_singleton records r ih =>
      have hlast : ∀ b : Builder, b.recordAll (records ++ [r]) =
          (b.recordAll records).join (empty.record r.smell r.path r.method) := by
        intro b
        rw [recordAll_append, ← record_eq_join]
        rfl
      rw [hlast, hlast, ih, join_assoc]

end Builder

/-- Records in two parts give the merge of the two indices. -/
theorem ofRecords_append (xs ys : List Record) :
    ofRecords (xs ++ ys) = (ofRecords xs).merge (ofRecords ys) := by
  rw [ofRecords, Builder.recordAll_append, Builder.recordAll_eq_join, Builder.finish_join]
  rfl

/-- An index depends only on the order of the records under each name and path. -/
theorem ofRecords_congr {xs ys : List Record}
    (h : ∀ name path,
      xs.filter (Record.isUnder name path) = ys.filter (Record.isUnder name path)) :
    ofRecords xs = ofRecords ys := by
  apply (canonical_ofRecords xs).ext (canonical_ofRecords ys)
  intro name path
  rw [pairAt?_ofRecords, pairAt?_ofRecords, h]

end FailureIndex

end SmellRefactor

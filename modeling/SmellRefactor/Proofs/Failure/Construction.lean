import SmellRefactor.Proofs.Failure.Records
import SmellRefactor.Proofs.Map.Equivalence

/-!
# Constructed failure indices

A failure index comes from records, from a nested table, or from the merge of other indices, and
these ways can be nested.  None of them leaves an empty part behind.  An index that was constructed
therefore names a smell only where it counts a failure, lists a path only with failed methods, and
is determined by its lists, up to the spelling of paths.
-/

namespace SmellRefactor

namespace FailureIndex

/-! ## Comparing indices without empty parts -/

/-- Indices are equivalent when each smell name occurs in both or in neither, with the same list
under every path. -/
theorem equivalent_iff_tables {first second : FailureIndex} :
    first.equivalent second = true ↔ ∀ name,
      Option.Rel (fun failed others : FailedMethods => ∀ path,
          failed.find? path = others.find? path)
        (first.table.find? name) (second.table.find? name) := by
  have hmethods : ∀ failed others : FailedMethods,
      failed.equivalent (fun x y => decide (x = y)) others = true ↔
        ∀ path, failed.find? path = others.find? path := by
    intro failed others
    rw [OrderedMap.equivalent_iff]
    apply forall_congr'
    intro path
    cases failed.find? path <;> cases others.find? path <;> simp
  rw [equivalent, OrderedMap.equivalent_iff]
  simp only [hmethods]

/-- Without empty parts, indices are equivalent when they answer every lookup alike. -/
theorem Canonical.equivalent_iff {first second : FailureIndex} (h : first.Canonical)
    (h' : second.Canonical) :
    first.equivalent second = true ↔
      ∀ name path, first.find? name path = second.find? name path := by
  rw [equivalent_iff_tables]
  constructor
  · intro htables name path
    have hname := htables name
    rw [find?, find?]
    cases hfirst : first.table.find? name <;> cases hsecond : second.table.find? name <;>
      simp_all
  · intro hfind name
    have hpairs : ∀ path,
        (first.pairAt? name path).isSome = (second.pairAt? name path).isSome := by
      intro path
      simpa [find?_eq_map_pairAt?] using congrArg Option.isSome (hfind name path)
    have hsome : (first.table.find? name).isSome = (second.table.find? name).isSome := by
      rw [Bool.eq_iff_iff, h.isSome_find?_iff, h'.isSome_find?_iff]
      simp only [hpairs]
    have hlists := hfind name
    simp only [find?] at hlists
    cases hfirst : first.table.find? name <;> cases hsecond : second.table.find? name <;>
      simp_all

/-- Every path that a canonical index lists under a smell name has failed methods there. -/
theorem Canonical.exists_find?_of_mem_paths {index : FailureIndex} (h : index.Canonical)
    {name : String} {path : Path} (hpath : path ∈ index.paths name) :
    ∃ failed, index.find? name path = some failed ∧ failed ≠ [] := by
  rw [paths] at hpath
  cases hfind : index.table.find? name with
  | none => simp [hfind] at hpath
  | some methods =>
      rw [hfind, Option.map_some, Option.getD_some, OrderedMap.keys] at hpath
      obtain ⟨e, he, rfl⟩ := List.mem_map.1 hpath
      refine ⟨e.2, ?_, (h.of_find? hfind).2 e he⟩
      rw [find?, hfind, Option.bind_some, OrderedMap.find?_of_mem he]

/-! ## Ways to construct an index -/

/-- The index of a nested table has no empty parts, whatever the table has. -/
theorem canonical_ofTable (table : OrderedMap String FailedMethods) :
    (ofTable table).Canonical := by
  intro e he
  obtain ⟨methods, -, hkept⟩ := OrderedMap.mem_filterMap.1 he
  obtain ⟨hne, hkept⟩ := Option.ite_none_left_eq_some.1 hkept
  rw [Option.some_inj] at hkept
  rw [hkept, Bool.not_eq_true] at hne
  refine ⟨List.isEmpty_eq_false_iff.1 hne, ?_⟩
  intro f hf
  rw [← hkept] at hf
  obtain ⟨failed, -, hlist⟩ := OrderedMap.mem_filterMap.1 hf
  obtain ⟨hfull, hlist⟩ := Option.ite_none_left_eq_some.1 hlist
  rw [Option.some_inj] at hlist
  rw [hlist, Bool.not_eq_true] at hfull
  exact List.isEmpty_eq_false_iff.1 hfull

/-- A way to construct an index: without failures, by recording methods one after another, from a
nested table, or by merging two indices that were constructed before. -/
inductive Construction where
  | nothing
  | recorded (records : List Record)
  | ofTable (table : OrderedMap String FailedMethods)
  | merged (first second : Construction)

namespace Construction

/-- The index that is constructed. -/
def index : Construction → FailureIndex
  | nothing => .empty
  | recorded records => ofRecords records
  | ofTable table => FailureIndex.ofTable table
  | merged first second => first.index.merge second.index

theorem canonical (c : Construction) : c.index.Canonical := by
  induction c with
  | nothing => exact canonical_empty
  | recorded records => exact canonical_ofRecords records
  | ofTable table => exact canonical_ofTable table
  | merged first second ihfirst ihsecond => exact canonical_merge ihfirst ihsecond

/-- However an index was constructed, it has no empty part, it is empty exactly when it counts no
failure, and each path that it lists under a smell name has failed methods there.  Two constructed
indices are equivalent exactly when they answer every lookup alike. -/
theorem index_faithful (c other : Construction) :
    c.index.Canonical ∧ (c.index.isEmpty = true ↔ c.index.total = 0) ∧
      (∀ name, ∀ path ∈ c.index.paths name,
        ∃ failed, c.index.find? name path = some failed ∧ failed ≠ []) ∧
      (c.index.equivalent other.index = true ↔
        ∀ name path, c.index.find? name path = other.index.find? name path) := by
  refine ⟨c.canonical, ?_, fun name path => c.canonical.exists_find?_of_mem_paths,
    c.canonical.equivalent_iff other.canonical⟩
  have hcount := c.canonical.total_pos_iff
  rw [← Bool.not_eq_false, ← hcount, Nat.pos_iff_ne_zero, not_not]

/-- The constructions differ in the spelling of a path, and the first one is given an empty list and
a smell name without paths. -/
theorem index_faithful_spellings :
    let load : Method := ⟨"load", [.deepNesting]⟩
    let path : Path := ⟨"src//a.java"⟩
    let hollow : OrderedMap String FailedMethods :=
      .ofList [("Deep Nesting", .ofList [(⟨"b.java"⟩, [])]), ("Data Clump", .empty)]
    let c : Construction := .merged (.recorded [⟨.deepNesting, path, load⟩]) (.ofTable hollow)
    let other : Construction :=
      .ofTable (.ofList [("Deep Nesting", .ofList [(⟨"src/./a.java"⟩, [load])])])
    path ∈ c.index.paths "Deep Nesting" ∧
      (∃ failed, c.index.find? "Deep Nesting" path = some failed ∧ failed ≠ []) ∧
      c.index.isEmpty = false ∧ c.index.total ≠ 0 ∧ c.index ≠ other.index ∧
      ∀ name p, c.index.find? name p = other.index.find? name p := by
  intro load path hollow c other
  have hpath : path ∈ c.index.paths "Deep Nesting" := by decide
  have hempty : c.index.isEmpty = false := by decide
  obtain ⟨-, hcount, hlists, hequivalent⟩ := index_faithful c other
  have hfailing : c.index.total ≠ 0 := hcount.not.1 (by simp [hempty])
  exact ⟨hpath, hlists _ path hpath, hempty, hfailing, by decide, hequivalent.1 (by decide)⟩

end Construction

end FailureIndex

end SmellRefactor

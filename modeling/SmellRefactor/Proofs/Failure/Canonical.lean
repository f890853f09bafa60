import SmellRefactor.Failure.Index
import SmellRefactor.Proofs.Map.Union

/-!
# Failure indices by their entries

A failure index is read through the entry under a smell name and a path, which keeps the spelling
of the path.  An index without empty parts is determined by these entries and counts its failures
faithfully; `FailureIndex.merge` joins entries and keeps indices free of empty parts.
-/

namespace SmellRefactor

namespace FailureIndex

/-- The failed methods under a smell name and a path, with the path as the index spells it. -/
def pairAt? (index : FailureIndex) (name : String) (path : Path) : Option (Path × List Method) :=
  (index.table.find? name).bind fun failed => failed.pairAt? path

theorem find?_eq_map_pairAt? (index : FailureIndex) (name : String) (path : Path) :
    index.find? name path = (index.pairAt? name path).map Prod.snd := by
  rw [find?, pairAt?, Option.map_bind]
  congr 1
  funext failed
  exact failed.find?_eq_map_pairAt? path

/-! ## Indices without empty parts -/

/-- Whether no list of failed methods is empty. -/
def NoEmptyList (failed : FailedMethods) : Prop :=
  ∀ e ∈ failed.entries, e.2 ≠ []

/-- Whether every smell name of an index has a path, and every path a failed method. -/
def Canonical (index : FailureIndex) : Prop :=
  ∀ e ∈ index.table.entries, e.2.entries ≠ [] ∧ NoEmptyList e.2

theorem noEmptyList_empty : NoEmptyList .empty := by
  simp [NoEmptyList]

theorem NoEmptyList.find?_ne {methods : FailedMethods} (h : NoEmptyList methods) (path : Path) :
    methods.find? path ≠ some [] := by
  intro hfind
  obtain ⟨e, he, -, hnil⟩ := OrderedMap.exists_mem_of_find? hfind
  exact h e he hnil

theorem canonical_empty : Canonical .empty := by
  simp [Canonical, empty]

/-- What a canonical index lists under a smell name. -/
theorem Canonical.of_find? {index : FailureIndex} (h : index.Canonical) {name : String}
    {failed : FailedMethods} (hfind : index.table.find? name = some failed) :
    failed.entries ≠ [] ∧ NoEmptyList failed := by
  obtain ⟨e, he, -, rfl⟩ := OrderedMap.exists_mem_of_find? hfind
  exact h e he

/-- What is listed under a smell name before an `upsert`, if nothing counts as the empty list. -/
theorem Canonical.noEmptyList_getD {index : FailureIndex} (h : index.Canonical) (name : String) :
    NoEmptyList ((index.table.find? name).getD .empty) := by
  cases hfind : index.table.find? name with
  | none => exact noEmptyList_empty
  | some failed => exact (h.of_find? hfind).2

theorem noEmptyList_appendAt {methods : FailedMethods} (h : NoEmptyList methods) (path : Path)
    {failed : List Method} (hfailed : failed ≠ []) :
    NoEmptyList (appendAt methods path failed) := by
  intro e he
  rcases OrderedMap.mem_upsert he with hold | hnew
  · exact h e hold
  · simp [hnew, hfailed]

/-- An index stays canonical when a smell name gets a listing without empty lists. -/
theorem Canonical.upsert {index : FailureIndex} (h : index.Canonical) (name : String)
    {change : Option FailedMethods → FailedMethods}
    (hchange : (change (index.table.find? name)).entries ≠ [] ∧
      NoEmptyList (change (index.table.find? name))) :
    Canonical ⟨index.table.upsert name change⟩ := by
  intro e he
  rcases OrderedMap.mem_upsert he with hold | hnew
  · exact h e hold
  · rw [hnew]
    exact hchange

/-- In a canonical index a smell name occurs exactly when it has an entry. -/
theorem Canonical.isSome_find?_iff {index : FailureIndex} (h : index.Canonical) {name : String} :
    (index.table.find? name).isSome ↔ ∃ path, (index.pairAt? name path).isSome := by
  constructor
  · intro hsome
    obtain ⟨failed, hfailed⟩ := Option.isSome_iff_exists.1 hsome
    obtain ⟨e, he⟩ := List.exists_mem_of_ne_nil _ (h.of_find? hfailed).1
    have hentry : failed.pairAt? e.1 = some e := OrderedMap.mem_entries_iff.1 he
    exact ⟨e.1, by simp [pairAt?, hfailed, hentry]⟩
  · rintro ⟨path, hsome⟩
    by_contra hnone
    rw [Option.not_isSome_iff_eq_none] at hnone
    simp [pairAt?, hnone] at hsome

/-- Canonical indices with the same entries are equal. -/
theorem Canonical.ext {first second : FailureIndex} (hfirst : first.Canonical)
    (hsecond : second.Canonical)
    (h : ∀ name path, first.pairAt? name path = second.pairAt? name path) : first = second := by
  have hfind : ∀ name, first.table.find? name = second.table.find? name := by
    intro name
    have hsome : (first.table.find? name).isSome ↔ (second.table.find? name).isSome := by
      rw [hfirst.isSome_find?_iff, hsecond.isSome_find?_iff]
      simp only [h]
    cases hf : first.table.find? name with
    | none =>
        rw [hf] at hsome
        exact (Option.not_isSome_iff_eq_none.1 fun hs => by simpa using hsome.2 hs).symm
    | some failed =>
        obtain ⟨others, ho⟩ := Option.isSome_iff_exists.1 (hsome.1 (by simp [hf]))
        rw [ho, Option.some_inj]
        apply OrderedMap.ext_pairAt?
        intro path
        simpa [pairAt?, hf, ho] using h name path
  have htable : first.table = second.table := OrderedMap.ext_find? hfind
  cases first
  cases second
  exact congrArg _ htable

/-- Canonical indices that spell the same paths under every name have the same keys. -/
theorem Canonical.keys_eq {first second : FailureIndex} (h : first.Canonical)
    (h' : second.Canonical)
    (hspelling : ∀ name path,
      (first.pairAt? name path).map Prod.fst = (second.pairAt? name path).map Prod.fst) :
    first.table.keys = second.table.keys ∧ ∀ name, first.paths name = second.paths name := by
  have htables : ∀ name,
      (first.table.find? name).isSome = (second.table.find? name).isSome := by
    intro name
    have hsome : ∀ path,
        (first.pairAt? name path).isSome = (second.pairAt? name path).isSome := by
      intro path
      simpa using congrArg Option.isSome (hspelling name path)
    rw [Bool.eq_iff_iff, h.isSome_find?_iff, h'.isSome_find?_iff]
    simp only [hsome]
  refine ⟨OrderedMap.keys_eq_of_isSome htables, ?_⟩
  intro name
  have htable := htables name
  rw [paths, paths]
  cases hfirst : first.table.find? name with
  | none =>
      rw [hfirst] at htable
      rw [Option.isNone_iff_eq_none.1 (Option.isSome_eq_false_iff.1 htable.symm)]
  | some failed =>
      rw [hfirst] at htable
      obtain ⟨others, hsecond⟩ := Option.isSome_iff_exists.1 htable.symm
      rw [hsecond]
      apply OrderedMap.keys_eq_of_pairAt?
      intro path
      simpa [pairAt?, hfirst, hsecond] using hspelling name path

theorem tally_pos_iff {α : Type u} {count : α → Nat} {xs : List α} :
    0 < tally count xs ↔ ∃ x ∈ xs, 0 < count x := by
  induction xs with
  | nil => simp
  | cons x rest ih =>
      simp only [tally_cons, List.mem_cons, exists_eq_or_imp, ← ih]
      omega

/-- A canonical index that names a smell counts a failure. -/
theorem Canonical.total_pos_iff {index : FailureIndex} (h : index.Canonical) :
    0 < index.total ↔ index.isEmpty = false := by
  rw [total, tally_pos_iff]
  constructor
  · rintro ⟨failed, hfailed, -⟩
    obtain ⟨e, he, -⟩ := List.mem_map.1 hfailed
    exact List.isEmpty_eq_false_iff.2 (List.ne_nil_of_mem he)
  · intro hne
    obtain ⟨e, he⟩ := List.exists_mem_of_ne_nil _ (List.isEmpty_eq_false_iff.1 hne)
    obtain ⟨hentries, hlists⟩ := h e he
    obtain ⟨f, hf⟩ := List.exists_mem_of_ne_nil _ hentries
    refine ⟨e.2, List.mem_map_of_mem he, tally_pos_iff.2 ⟨f.2, List.mem_map_of_mem hf, ?_⟩⟩
    exact List.length_pos_iff.2 (hlists f hf)

theorem Canonical.isEmpty_iff {index : FailureIndex} (h : index.Canonical) :
    index.isEmpty = true ↔ index.total = 0 := by
  rw [← Bool.not_eq_false, ← h.total_pos_iff, Nat.pos_iff_ne_zero, not_not]

/-! ## Merging -/

theorem mergeMethods_eq_union (first second : FailedMethods) :
    mergeMethods first second = OrderedMap.union (· ++ ·) first second := by
  rw [mergeMethods, OrderedMap.union]
  congr 1
  funext methods e
  rw [appendAt]
  congr 1
  funext old
  cases old <;> simp

theorem merge_eq_union (first second : FailureIndex) :
    first.merge second = ⟨OrderedMap.union mergeMethods first.table second.table⟩ := by
  rw [merge, OrderedMap.union]
  congr 2
  funext table e
  congr 1
  funext old
  cases old with
  | none => simp [mergeMethods_eq_union, OrderedMap.empty_union]
  | some methods => rfl

/-- An entry of a merged index is made of the entries of both indices. -/
theorem pairAt?_merge (first second : FailureIndex) (name : String) (path : Path) :
    (first.merge second).pairAt? name path =
      Option.merge (OrderedMap.joinEntries (· ++ ·)) (first.pairAt? name path)
        (second.pairAt? name path) := by
  simp only [pairAt?, merge_eq_union, OrderedMap.find?_union]
  cases first.table.find? name <;> cases second.table.find? name <;>
    simp [mergeMethods_eq_union, OrderedMap.pairAt?_union]

/-- Failed methods can be regrouped before they are merged. -/
instance : Std.Associative mergeMethods where
  assoc first second third := by
    simp only [mergeMethods_eq_union]
    exact Std.Associative.assoc _ _ _

/-- Indices can be regrouped before they are merged, whether or not they have empty parts. -/
theorem merge_assoc (first second third : FailureIndex) :
    (first.merge second).merge third = first.merge (second.merge third) := by
  simp only [merge_eq_union]
  exact congrArg FailureIndex.mk (Std.Associative.assoc _ _ _)

theorem empty_merge (index : FailureIndex) : FailureIndex.empty.merge index = index := by
  rw [merge_eq_union, empty, OrderedMap.empty_union]

theorem merge_empty (index : FailureIndex) : index.merge .empty = index := by
  rw [merge_eq_union, empty, OrderedMap.union_empty]

theorem noEmptyList_mergeMethods {first second : FailedMethods} (hfirst : NoEmptyList first)
    (hsecond : NoEmptyList second) : NoEmptyList (mergeMethods first second) := by
  rw [mergeMethods_eq_union]
  refine OrderedMap.forall_mem_union (P := fun failed => failed ≠ []) hfirst hsecond ?_
  intro u v hu _
  simp [hu]

/-- Merging keeps indices canonical. -/
theorem canonical_merge {first second : FailureIndex} (hfirst : first.Canonical)
    (hsecond : second.Canonical) : (first.merge second).Canonical := by
  rw [merge_eq_union]
  refine OrderedMap.forall_mem_union
    (P := fun failed : FailedMethods => failed.entries ≠ [] ∧ NoEmptyList failed)
    hfirst hsecond ?_
  rintro u v ⟨hu, hlists⟩ ⟨-, hlists'⟩
  refine ⟨?_, noEmptyList_mergeMethods hlists hlists'⟩
  rw [mergeMethods_eq_union]
  exact OrderedMap.entries_union_ne_nil hu v

end FailureIndex

end SmellRefactor

import SmellRefactor.Proofs.Failure.Records

/-!
# Reducing many indices to one

The indices of separate files are combined two at a time, in any grouping that keeps their order,
and an empty index may be thrown in anywhere.  A `Reduction` is such a grouping.  Indices that
agree up to the order of methods inside one list are compared by `FailureIndex.SameUpToOrder`.
-/

namespace SmellRefactor

namespace FailureIndex

/-- A grouping of indices that are to be merged. -/
inductive Reduction where
  | nothing
  | single (index : FailureIndex)
  | pair (left right : Reduction)

namespace Reduction

/-- The indices of a grouping, in order. -/
def leaves : Reduction → List FailureIndex
  | nothing => []
  | single index => [index]
  | pair left right => left.leaves ++ right.leaves

/-- The merge of a grouping. -/
def merged : Reduction → FailureIndex
  | nothing => .empty
  | single index => index
  | pair left right => left.merged.merge right.merged

/-- Indices merged one after another, from the last to the first. -/
def ofList : List FailureIndex → Reduction
  | [] => nothing
  | index :: indices => pair (single index) (ofList indices)

@[simp]
theorem leaves_ofList (indices : List FailureIndex) : (ofList indices).leaves = indices := by
  induction indices with
  | nil => rfl
  | cons index indices ih => rw [ofList, leaves, leaves, ih, List.singleton_append]

/-- What was merged so far can be put in front of a grouping or merged into its first leaf. -/
theorem foldl_merge_leaves (tree : Reduction) (index : FailureIndex) :
    tree.leaves.foldl merge index = index.merge tree.merged := by
  induction tree generalizing index with
  | nothing => exact (merge_empty index).symm
  | single other => rfl
  | pair left right ihleft ihright =>
      calc (pair left right).leaves.foldl merge index
          = right.leaves.foldl merge (left.leaves.foldl merge index) := List.foldl_append
        _ = (index.merge left.merged).merge right.merged := by rw [ihleft, ihright]
        _ = index.merge (pair left right).merged := merge_assoc _ _ _

/-- However indices of records are grouped, their merge is the index of all records together. -/
theorem merged_eq_ofRecords (tree : Reduction) {parts : List (List Record)}
    (h : tree.leaves = parts.map ofRecords) : tree.merged = ofRecords parts.flatten := by
  induction tree generalizing parts with
  | nothing =>
      have hparts : parts = [] := by simpa [leaves, eq_comm] using h
      rw [hparts]
      rfl
  | single index =>
      obtain ⟨records, rfl, hindex⟩ : ∃ records, parts = [records] ∧ ofRecords records = index := by
        simpa [leaves, eq_comm, List.map_eq_singleton_iff] using h
      simpa [merged] using hindex.symm
  | pair left right ihleft ihright =>
      obtain ⟨first, second, rfl, hfirst, hsecond⟩ := List.map_eq_append_iff.1 h.symm
      rw [merged, ihleft hfirst.symm, ihright hsecond.symm, List.flatten_append, ofRecords_append]

end Reduction

/-- Indices can be regrouped before they are merged and the index without failures changes nothing
on either side, so that every grouping of indices, wherever empty ones are thrown in, gives what
merging them one after another gives, down to the spelling of the paths. -/
theorem merge_regroups :
    (∀ first second third : FailureIndex,
      (first.merge second).merge third = first.merge (second.merge third)) ∧
    (∀ index : FailureIndex, FailureIndex.empty.merge index = index ∧ index.merge .empty = index) ∧
    ∀ tree : Reduction, tree.merged = tree.leaves.foldl merge .empty := by
  refine ⟨merge_assoc, fun index => ⟨empty_merge index, merge_empty index⟩, ?_⟩
  intro tree
  rw [tree.foldl_merge_leaves, empty_merge]

/-! ## Indices up to the order inside lists -/

/-- The same smell names and the same paths, with the same failed methods in some order. -/
structure SameUpToOrder (first second : FailureIndex) : Prop where
  names : first.table.keys = second.table.keys
  paths : ∀ name, first.paths name = second.paths name
  lists : ∀ name path, Option.Rel List.Perm (first.find? name path) (second.find? name path)

/-- Records of one spelling in another order make the same entry in another order. -/
theorem listing_perm {xs ys : List Record} (h : xs.Perm ys)
    (hspelling : ∀ r ∈ xs, ∀ r' ∈ xs, r.path = r'.path) :
    (listing xs).map Prod.fst = (listing ys).map Prod.fst ∧
      Option.Rel List.Perm ((listing xs).map Prod.snd) ((listing ys).map Prod.snd) := by
  cases xs with
  | nil =>
      rw [List.nil_perm.1 h]
      exact ⟨rfl, .none⟩
  | cons x xs =>
      cases ys with
      | nil => simp at h
      | cons y ys =>
          have hy : y ∈ x :: xs := h.symm.subset List.mem_cons_self
          have hpath : x.path = y.path := hspelling x List.mem_cons_self y hy
          exact ⟨congrArg some hpath, .some (h.map Record.method)⟩

/-- Indices without empty parts are the same up to the order inside lists, if under every key they
have the same spelling of the path and the same methods in some order. -/
theorem Canonical.sameUpToOrder {first second : FailureIndex} (h : first.Canonical)
    (h' : second.Canonical)
    (hspelling : ∀ name path,
      (first.pairAt? name path).map Prod.fst = (second.pairAt? name path).map Prod.fst)
    (hlists : ∀ name path,
      Option.Rel List.Perm (first.find? name path) (second.find? name path)) :
    SameUpToOrder first second := by
  obtain ⟨hnames, hpaths⟩ := h.keys_eq h' hspelling
  exact ⟨hnames, hpaths, hlists⟩

/-- Reordering records leaves their index the same up to the order inside lists, if no path is
spelled in two ways. -/
theorem sameUpToOrder_ofRecords {xs ys : List Record} (h : xs.Perm ys)
    (hspelling : ∀ r ∈ xs, ∀ r' ∈ xs, compare r.path r'.path = .eq → r.path = r'.path) :
    SameUpToOrder (ofRecords xs) (ofRecords ys) := by
  have hlisting : ∀ name path,
      (listing (xs.filter (Record.isUnder name path))).map Prod.fst =
          (listing (ys.filter (Record.isUnder name path))).map Prod.fst ∧
        Option.Rel List.Perm ((listing (xs.filter (Record.isUnder name path))).map Prod.snd)
          ((listing (ys.filter (Record.isUnder name path))).map Prod.snd) := by
    intro name path
    apply listing_perm (h.filter _)
    intro r hr r' hr'
    obtain ⟨hmem, hunder⟩ := List.mem_filter.1 hr
    obtain ⟨hmem', hunder'⟩ := List.mem_filter.1 hr'
    apply hspelling r hmem r' hmem'
    have hpath := (Record.isUnder_iff.1 hunder).2
    have hpath' := (Record.isUnder_iff.1 hunder').2
    exact Std.TransCmp.eq_trans (Std.OrientedCmp.eq_symm hpath) hpath'
  apply (canonical_ofRecords xs).sameUpToOrder (canonical_ofRecords ys)
  · intro name path
    rw [pairAt?_ofRecords, pairAt?_ofRecords]
    exact (hlisting name path).1
  · intro name path
    rw [find?_ofRecords, find?_ofRecords]
    exact (hlisting name path).2

/-! ## Indices up to the smells of methods -/

/-- The same smell names and the same paths, with methods of the same names in the same order. -/
structure SameMethodNames (first second : FailureIndex) : Prop where
  names : first.table.keys = second.table.keys
  paths : ∀ name, first.paths name = second.paths name
  lists : ∀ name path, (first.find? name path).map (List.map Method.name) =
    (second.find? name path).map (List.map Method.name)

/-- A record that tells nothing of the other smells of the method. -/
def Record.outline (r : Record) : Record := { r with method := .ofName r.method.name }

theorem listing_outline (records : List Record) :
    (listing records).map (fun e => (e.1, e.2.map Method.name)) =
      (listing (records.map Record.outline)).map fun e => (e.1, e.2.map Method.name) := by
  simp [listing, Record.outline, Method.ofName, Function.comp_def]

/-- Records with the same outlines make indices with the same method names. -/
theorem sameMethodNames_ofRecords {xs ys : List Record}
    (h : xs.map Record.outline = ys.map Record.outline) :
    SameMethodNames (ofRecords xs) (ofRecords ys) := by
  have hfilter : ∀ (records : List Record) (name : String) (path : Path),
      (records.filter (Record.isUnder name path)).map Record.outline =
        (records.map Record.outline).filter (Record.isUnder name path) := by
    intro records name path
    rw [List.filter_map]
    rfl
  have hlisting : ∀ name path,
      (listing (xs.filter (Record.isUnder name path))).map (fun e => (e.1, e.2.map Method.name)) =
        (listing (ys.filter (Record.isUnder name path))).map
          fun e => (e.1, e.2.map Method.name) := by
    intro name path
    rw [listing_outline, hfilter, h, ← hfilter, ← listing_outline]
  have hspelling : ∀ name path, ((ofRecords xs).pairAt? name path).map Prod.fst =
      ((ofRecords ys).pairAt? name path).map Prod.fst := by
    intro name path
    rw [pairAt?_ofRecords, pairAt?_ofRecords]
    simpa [Function.comp_def] using congrArg (Option.map Prod.fst) (hlisting name path)
  obtain ⟨hnames, hpaths⟩ := (canonical_ofRecords xs).keys_eq (canonical_ofRecords ys) hspelling
  refine ⟨hnames, hpaths, ?_⟩
  intro name path
  rw [find?_ofRecords, find?_ofRecords]
  simpa [Function.comp_def] using congrArg (Option.map Prod.snd) (hlisting name path)

end FailureIndex

end SmellRefactor

import Mathlib.Algebra.Order.Group.Multiset
import SmellRefactor.Proofs.Failure.Canonical
import SmellRefactor.Proofs.Map.Equivalence

/-!
# What merging adds up

The *content* of a failure index forgets in which order the methods of a list stand and how paths
are spelled.  Merging adds up contents, which is a commutative and associative operation on them;
so the order in which indices are merged shows only in what the content forgets.
-/

namespace SmellRefactor

/-! ## Adding up partial functions -/

/-- Two partial functions together, with both values joined where both are defined. -/
def addUp {α : Type u} {β : Type v} (join : β → β → β) (f g : α → Option β) : α → Option β :=
  fun a => Option.merge join (f a) (g a)

instance {α : Type u} {β : Type v} (join : β → β → β) [Std.Commutative join] :
    Std.Commutative (addUp join : (α → Option β) → (α → Option β) → α → Option β) where
  comm _ _ := funext fun _ => Std.Commutative.comm _ _

instance {α : Type u} {β : Type v} (join : β → β → β) [Std.Associative join] :
    Std.Associative (addUp join : (α → Option β) → (α → Option β) → α → Option β) where
  assoc _ _ _ := funext fun _ => Std.Associative.assoc _ _ _

namespace FailureIndex

/-! ## Lists and counts of a merge -/

/-- A merge lists the methods of both indices, those of the first one in front. -/
theorem find?_merge (first second : FailureIndex) (name : String) (path : Path) :
    (first.merge second).find? name path =
      Option.merge (· ++ ·) (first.find? name path) (second.find? name path) := by
  simp only [find?_eq_map_pairAt?, pairAt?_merge]
  cases first.pairAt? name path <;> cases second.pairAt? name path <;>
    simp [OrderedMap.joinEntries]

/-- The lists of a merge are those of both indices, one behind the other. -/
theorem getD_find?_merge (first second : FailureIndex) (name : String) (path : Path) :
    ((first.merge second).find? name path).getD [] =
      (first.find? name path).getD [] ++ (second.find? name path).getD [] := by
  rw [find?_merge]
  cases first.find? name path <;> cases second.find? name path <;> simp

theorem tally_mergeMethods (first second : FailedMethods) :
    tally List.length (mergeMethods first second).values =
      tally List.length first.values + tally List.length second.values := by
  rw [mergeMethods_eq_union]
  exact OrderedMap.tally_union (fun _ _ => List.length_append) first second

/-- A merge counts the failures of both indices. -/
theorem total_merge (first second : FailureIndex) :
    (first.merge second).total = first.total + second.total := by
  rw [merge_eq_union]
  exact OrderedMap.tally_union tally_mergeMethods first.table second.table

/-! ## Contents -/

/-- The failed methods by path, without their order. -/
def bags (failed : FailedMethods) : Path → Option (Multiset Method) :=
  fun path => (failed.find? path).map (↑)

/-- The failed methods by smell name and path, without their order. -/
def content (index : FailureIndex) : String → Option (Path → Option (Multiset Method)) :=
  fun name => (index.table.find? name).map bags

/-- Two contents together. -/
abbrev addContents :
    (String → Option (Path → Option (Multiset Method))) →
      (String → Option (Path → Option (Multiset Method))) →
        String → Option (Path → Option (Multiset Method)) :=
  addUp (addUp (· + ·))

theorem bags_mergeMethods (first second : FailedMethods) :
    bags (mergeMethods first second) = addUp (· + ·) (bags first) (bags second) := by
  funext path
  rw [bags, mergeMethods_eq_union, OrderedMap.find?_union, addUp, bags, bags]
  cases first.find? path <;> cases second.find? path <;> simp

/-- The content of a merge is that of both indices together. -/
theorem content_merge (first second : FailureIndex) :
    (first.merge second).content = addContents first.content second.content := by
  funext name
  rw [content, merge_eq_union, OrderedMap.find?_union, addContents, addUp, content, content]
  cases first.table.find? name <;> cases second.table.find? name <;>
    simp [bags_mergeMethods]

theorem content_foldl_merge (indices : List FailureIndex) (start : FailureIndex) :
    (indices.foldl merge start).content =
      (indices.map content).foldl addContents start.content := by
  induction indices generalizing start with
  | nil => rfl
  | cons index indices ih => rw [List.foldl_cons, ih, content_merge, List.map_cons, List.foldl_cons]

/-! ## Indices with the same content -/

/-- The same smell names and the same paths with the same failed methods, where the methods of a
list may stand in another order and a path may be spelled in another way. -/
structure Rearranged (first second : FailureIndex) : Prop where
  names : first.table.keys = second.table.keys
  paths : ∀ name,
    List.Forall₂ (fun p q => compare p q = .eq) (first.paths name) (second.paths name)
  lists : ∀ name path, Option.Rel List.Perm (first.find? name path) (second.find? name path)

theorem rel_of_map_eq {α : Type u} {β : Type v} {f : α → β} {x y : Option α}
    (h : x.map f = y.map f) : Option.Rel (fun a b => f a = f b) x y := by
  cases x <;> cases y <;> simp_all

theorem rel_find?_of_bags_eq {failed others : FailedMethods} (h : bags failed = bags others)
    (path : Path) : Option.Rel List.Perm (failed.find? path) (others.find? path) :=
  match failed.find? path, others.find? path, rel_of_map_eq (congrFun h path) with
  | _, _, .none => .none
  | _, _, .some hperm => .some (Multiset.coe_eq_coe.1 hperm)

/-- Paths with the same bags of failed methods are the same paths, in the same order. -/
theorem keys_of_bags_eq {failed others : FailedMethods} (h : bags failed = bags others) :
    List.Forall₂ (fun p q => compare p q = .eq) failed.keys others.keys := by
  have hentries : List.Forall₂ (Entries.Matches List.Perm) failed.entries others.entries :=
    Entries.forall₂_of_rel_find? failed.ascending others.ascending (rel_find?_of_bags_eq h)
  rw [OrderedMap.keys, OrderedMap.keys, List.forall₂_map_left_iff, List.forall₂_map_right_iff]
  exact hentries.imp fun _ _ hmatch => hmatch.1

/-- Indices with the same content differ in nothing but the order inside lists and the spelling of
paths. -/
theorem rearranged_of_content_eq {first second : FailureIndex}
    (h : first.content = second.content) : Rearranged first second := by
  have hname : ∀ name, Option.Rel (fun failed others => bags failed = bags others)
      (first.table.find? name) (second.table.find? name) :=
    fun name => rel_of_map_eq (congrFun h name)
  refine ⟨?_, ?_, ?_⟩
  · apply OrderedMap.keys_eq_of_isSome
    intro name
    simpa [content] using congrArg Option.isSome (congrFun h name)
  · intro name
    rw [paths, paths]
    have hrel := hname name
    generalize first.table.find? name = found, second.table.find? name = other at hrel
    cases hrel with
    | none => exact .nil
    | some hbags => exact keys_of_bags_eq hbags
  · intro name path
    rw [find?, find?]
    have hrel := hname name
    generalize first.table.find? name = found, second.table.find? name = other at hrel
    cases hrel with
    | none => exact .none
    | some hbags => exact rel_find?_of_bags_eq hbags path

/-- A merge lists something under a name and a path exactly when one of both indices does, namely
the methods of the first one and behind them those of the second one, and it counts the failures of
both.  However indices are arranged before they are merged one after another into what is there
already, the result has the same names and paths, and the same methods in every list up to their
order. -/
theorem merge_adds_up (first second start : FailureIndex) {indices order : List FailureIndex}
    (h : order.Perm indices) :
    (∀ name path, (first.merge second).find? name path = none ↔
      first.find? name path = none ∧ second.find? name path = none) ∧
    (∀ name path, ((first.merge second).find? name path).getD [] =
      (first.find? name path).getD [] ++ (second.find? name path).getD []) ∧
    (first.merge second).total = first.total + second.total ∧
    Rearranged (order.foldl merge start) (indices.foldl merge start) := by
  refine ⟨?_, ?_, total_merge first second, ?_⟩
  · intro name path
    rw [find?_merge, Option.merge_eq_none_iff]
  · intro name path
    rw [find?_merge]
    cases first.find? name path <;> cases second.find? name path <;> simp
  · apply rearranged_of_content_eq
    rw [content_foldl_merge, content_foldl_merge]
    exact (h.map content).foldl_eq _

/-- One path is spelled in two ways here, and one index has nothing but empty parts. -/
theorem merge_adds_up_spellings :
    let load : Method := ⟨"load", [.deepNesting]⟩
    let save : Method := ⟨"save", [.deepNesting]⟩
    let path : Path := ⟨"src/./a.java"⟩
    let first : FailureIndex := ⟨.ofList [("Deep Nesting", .ofList [(⟨"src//a.java"⟩, [load])])]⟩
    let second : FailureIndex := ⟨.ofList [("Deep Nesting", .ofList [(path, [save, load])])]⟩
    let hollow : FailureIndex :=
      ⟨.ofList [("Deep Nesting", .ofList [(⟨"b.java"⟩, [])]), ("Data Clump", .empty)]⟩
    let indices := [first, hollow, second]
    let order := [second, first, hollow]
    order.Perm indices ∧
      ((first.merge second).find? "Deep Nesting" path).getD [] = [load] ++ [save, load] ∧
      (first.merge second).total = 1 + 2 ∧
      (first.merge hollow).find? "Data Clump" path = none ∧
      Rearranged (order.foldl merge .empty) (indices.foldl merge .empty) ∧
      (order.foldl merge .empty).find? "Deep Nesting" path = some [save, load, load] ∧
      (order.foldl merge .empty).paths "Deep Nesting" ≠
        (indices.foldl merge .empty).paths "Deep Nesting" := by
  intro load save path first second hollow indices order
  have hperm : order.Perm indices := by decide
  obtain ⟨-, hlists, htotal, hsame⟩ := merge_adds_up first second .empty hperm
  obtain ⟨hnone, -⟩ := merge_adds_up first hollow .empty hperm
  exact ⟨hperm, (hlists "Deep Nesting" path).trans (by decide), htotal.trans (by decide),
    (hnone "Data Clump" path).2 ⟨by decide, by decide⟩, hsame, by decide, by decide⟩

end FailureIndex

end SmellRefactor

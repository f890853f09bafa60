import SmellRefactor.Proofs.Path.Ancestors
import SmellRefactor.Proofs.Path.Parent

/-!
# The way up from a directory

Going from a directory to its parent, and on from there, comes to an end at the root or at the path
without components, since every step takes off a component that is not the root.  The ancestors up
to some depth are the beginning of this way.
-/

namespace SmellRefactor.Path

variable {p q : Path}

/-! ## Components other than the root -/

/-- The components of a path other than the root. -/
def inner (p : Path) : List Component := p.components.filter (· ≠ .root)

/-- Whether a path is the root or has no components. -/
def IsTop (p : Path) : Prop := p.components = [.root] ∨ p.components = []

theorem IsTop.inner_eq_nil (h : p.IsTop) : p.inner = [] := by
  rcases h with h | h <;> rw [inner, h] <;> rfl

theorem isTop_of_parent?_eq_none (h : p.parent? = none) : p.IsTop := by
  rcases p.parent?_cases with ⟨-, htop⟩ | ⟨parent, c, hparent, -⟩
  · exact htop
  · rw [h] at hparent
    contradiction

theorem exists_components_eq_append (h : p.parent? = some q) :
    ∃ c ≠ Component.root, p.components = q.components ++ [c] := by
  rcases p.parent?_cases with ⟨hnone, -⟩ | ⟨parent, c, hparent, hc, hcomponents⟩
  · rw [h] at hnone
    contradiction
  · rw [h] at hparent
    obtain rfl := Option.some.inj hparent
    exact ⟨c, hc, hcomponents⟩

theorem inner_length_eq {removed : List Component} (hroot : .root ∉ removed)
    (h : p.components = q.components ++ removed) :
    p.inner.length = q.inner.length + removed.length := by
  have hremoved : removed.filter (· ≠ Component.root) = removed := by
    rw [List.filter_eq_self]
    intro c hc
    simpa using ne_of_mem_of_not_mem hc hroot
  rw [inner, h, List.filter_append, hremoved, List.length_append, inner]

theorem inner_length_of_parent? (h : p.parent? = some q) :
    p.inner.length = q.inner.length + 1 := by
  obtain ⟨c, hc, hcomponents⟩ := exists_components_eq_append h
  exact inner_length_eq (by simpa using Ne.symm hc) hcomponents

/-- So many steps up, so many of the last components are gone, and the root is none of them. -/
theorem exists_removed_of_up {steps : Nat} (h : p.up steps = some q) :
    ∃ removed : List Component, removed.length = steps ∧ .root ∉ removed ∧
      p.components = q.components ++ removed := by
  induction steps generalizing p with
  | zero =>
      obtain rfl := Option.some.inj h
      exact ⟨[], rfl, List.not_mem_nil, (List.append_nil _).symm⟩
  | succ steps ih =>
      obtain ⟨parent, hparent, hup⟩ := Option.bind_eq_some_iff.1 h
      obtain ⟨removed, hlength, hroot, hcomponents⟩ := ih hup
      obtain ⟨c, hc, hlast⟩ := exists_components_eq_append hparent
      refine ⟨removed ++ [c], by simp [hlength], ?_, ?_⟩
      · simpa [hroot] using Ne.symm hc
      · rw [hlast, hcomponents, List.append_assoc]

/-! ## The whole way up -/

/-- A directory, its parent, the parent of that, and so on while there is one. -/
def lineage (p : Path) : List Path :=
  p :: match _h : p.parent? with
    | none => []
    | some parent => parent.lineage
termination_by p.inner.length
decreasing_by
  rw [inner_length_of_parent? _h]
  exact Nat.lt_succ_self _

theorem lineage_of_none (h : p.parent? = none) : p.lineage = [p] := by
  rw [lineage]
  split
  · rfl
  · rename_i hsome
    rw [h] at hsome
    contradiction

theorem lineage_of_some (h : p.parent? = some q) : p.lineage = p :: q.lineage := by
  rw [lineage]
  split
  · rename_i hnone
    rw [h] at hnone
    contradiction
  · rename_i parent hsome
    rw [h] at hsome
    rw [Option.some.inj hsome]

theorem length_lineage (p : Path) : p.lineage.length = p.inner.length + 1 := by
  induction p using lineage.induct with
  | case1 p ih =>
      cases hparent : p.parent? with
      | none => rw [lineage_of_none hparent, (isTop_of_parent?_eq_none hparent).inner_eq_nil]; rfl
      | some parent =>
          rw [lineage_of_some hparent, List.length_cons, ih parent hparent,
            inner_length_of_parent? hparent]

/-- The way up ends at the root or at the path without components. -/
theorem exists_getLast?_lineage (p : Path) :
    ∃ top : Path, p.lineage.getLast? = some top ∧ top.IsTop := by
  induction p using lineage.induct with
  | case1 p ih =>
      cases hparent : p.parent? with
      | none => exact ⟨p, by rw [lineage_of_none hparent]; rfl, isTop_of_parent?_eq_none hparent⟩
      | some parent =>
          obtain ⟨top, hlast, htop⟩ := ih parent hparent
          exact ⟨top, by rw [lineage_of_some hparent, List.getLast?_cons, hlast]; rfl, htop⟩

/-- The ancestors up to a depth are the beginning of the way up. -/
theorem ancestors_eq_take (p : Path) (depth : Nat) :
    p.ancestors depth = p.lineage.take depth := by
  induction depth generalizing p with
  | zero => rfl
  | succ depth ih =>
      rw [ancestors]
      cases hparent : p.parent? with
      | none => rw [lineage_of_none hparent, List.take_succ_cons, List.take_nil]
      | some parent => rw [lineage_of_some hparent, List.take_succ_cons, ← ih parent]

/-! ## The ancestors up to a depth -/

theorem length_ancestors (p : Path) (depth : Nat) :
    (p.ancestors depth).length = min depth (p.inner.length + 1) := by
  rw [ancestors_eq_take, List.length_take, length_lineage]

theorem exists_removed {depth k : Nat} (h : (p.ancestors depth)[k]? = some q) :
    ∃ removed : List Component, removed.length = k ∧ .root ∉ removed ∧
      p.components = q.components ++ removed := by
  rw [getElem?_ancestors] at h
  exact exists_removed_of_up (Option.ite_none_right_eq_some.1 h).2

/-- No directory on the way up is the same path as another one, since their numbers of components
differ. -/
theorem pairwise_ancestors (p : Path) (depth : Nat) :
    (p.ancestors depth).Pairwise fun a b => a.same b = false := by
  rw [List.pairwise_iff_getElem]
  intro i j hi hj hlt
  obtain ⟨before, hbefore, -, hfirst⟩ := exists_removed (List.getElem?_eq_getElem hi)
  obtain ⟨behind, hbehind, -, hsecond⟩ := exists_removed (List.getElem?_eq_getElem hj)
  rw [same, beq_eq_false_iff_ne, ne_eq, compare_eq_iff]
  intro hsame
  have hlengths := congrArg List.length (hfirst.symm.trans hsecond)
  rw [List.length_append, List.length_append, hsame] at hlengths
  omega

/-- Only where the depth leaves room for the whole way up do the ancestors end at its end. -/
theorem inner_length_lt_iff (p : Path) (depth : Nat) :
    p.inner.length < depth ↔
      ∃ top : Path, (p.ancestors depth).getLast? = some top ∧ top.IsTop := by
  constructor
  · intro hdepth
    have hwhole : p.ancestors depth = p.lineage := by
      rw [ancestors_eq_take, List.take_of_length_le (by rw [length_lineage]; omega)]
    rw [hwhole]
    exact p.exists_getLast?_lineage
  · rintro ⟨top, hlast, htop⟩
    rw [List.getLast?_eq_getElem?] at hlast
    obtain ⟨hlength, -⟩ := List.getElem?_eq_some_iff.1 hlast
    obtain ⟨removed, hremoved, hroot, hcomponents⟩ := exists_removed hlast
    have hinner := inner_length_eq hroot hcomponents
    rw [htop.inner_eq_nil, List.length_nil] at hinner
    rw [length_ancestors] at hlength hremoved
    omega

/-- Whatever a directory is called, the way up from it is finite and ends at the root or at the path
without components.  Its ancestors up to a depth are the first directories of this way: as many as
the depth allows, but at most one more than there are components other than the root.  The directory
after so many steps is the first one without so many of its last components, none of them the root,
and no two of the directories are the same path.  They end where the way ends exactly if the depth
is greater than the number of components other than the root. -/
theorem ancestors_climb (start : Path) (depth : Nat) :
    let dirs := start.ancestors depth
    let n := start.inner.length
    dirs = start.lineage.take depth ∧
      dirs.length = min depth (n + 1) ∧
      (∀ k : Fin dirs.length, ∃ removed : List Component, removed.length = k ∧ .root ∉ removed ∧
        start.components = dirs[k].components ++ removed) ∧
      (∃ top : Path, start.lineage.getLast? = some top ∧ top.IsTop) ∧
      (n < depth ↔ ∃ top : Path, dirs.getLast? = some top ∧ top.IsTop) ∧
      dirs.Pairwise fun p q => p.same q = false :=
  ⟨start.ancestors_eq_take depth, start.length_ancestors depth,
    fun k => exists_removed (List.getElem?_eq_getElem k.isLt), start.exists_getLast?_lineage,
    start.inner_length_lt_iff depth, start.pairwise_ancestors depth⟩

example : (⟨"//a/./../b/."⟩ : Path).ancestors 9 =
    [⟨"//a/./../b/."⟩, ⟨"//a/./.."⟩, ⟨"//a"⟩, ⟨"/"⟩] := by decide

end SmellRefactor.Path

import SmellRefactor.Path.Ancestors

/-!
# Directories above a directory

One step leads from a directory to its parent, and `Path.up` takes so many steps at once.  The
ancestors of a directory are the directories that are fewer steps away than their depth.
-/

namespace SmellRefactor.Path

/-- The directory so many steps above a directory, if there is one. -/
def up : Nat → Path → Option Path
  | 0, p => some p
  | steps + 1, p => p.parent?.bind (up steps)

theorem getElem?_ancestors (start : Path) (depth steps : Nat) :
    (start.ancestors depth)[steps]? = if steps < depth then start.up steps else none := by
  induction depth generalizing start steps with
  | zero => rfl
  | succ depth ih =>
      rw [ancestors]
      cases steps with
      | zero => rfl
      | succ steps =>
          rw [List.getElem?_cons_succ, up]
          cases start.parent? with
          | none => simp
          | some parent => simpa using ih parent steps

end SmellRefactor.Path

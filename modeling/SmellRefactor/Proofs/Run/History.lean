import SmellRefactor.Proofs.Run.Treatment

/-!
# What every call keeps

The world of a run changes through the calls of strategies alone.  An invariant that ties the world
to the attempts made so far therefore holds when a run ends, if it holds when the run begins and
every call keeps it.
-/

namespace SmellRefactor

variable {σ : Type}

namespace Registry

/-- Whether every call of a registered strategy keeps an invariant of the attempts made so far and
the world. -/
def Keeps (r : Registry σ) (inv : List Attempt → σ → Prop) : Prop :=
  ∀ smell strategy, r.find? smell = some strategy → ∀ path m attempts world,
    inv attempts world →
      inv (attempts ++ [strategy.tryOn smell path m world]) (strategy.attempt path m world).world

variable {r : Registry σ} {inv : List Attempt → σ → Prop}

theorem Keeps.workOn (h : r.Keeps inv) (path : Path) (smells : List CodeSmell) (m : Method)
    {j : Journal σ} (hj : inv j.attempts j.world) :
    inv (r.workOn path smells m j).2.attempts (r.workOn path smells m j).2.world := by
  induction smells generalizing m j with
  | nil => exact hj
  | cons smell smells ih =>
      cases hfind : r.find? smell with
      | none =>
          simp only [Registry.workOn, hfind]
          exact ih m hj
      | some strategy =>
          rw [workOn_cons hfind]
          exact ih _ (h smell strategy hfind path m j.attempts j.world hj)

theorem Keeps.workOnMethods (h : r.Keeps inv) (path : Path) (methods : List Method)
    {j : Journal σ} (hj : inv j.attempts j.world) :
    inv (r.workOnMethods path methods j).2.attempts (r.workOnMethods path methods j).2.world := by
  induction methods generalizing j with
  | nil => exact hj
  | cons m methods ih => exact ih (h.workOn path (r.eligible m) m hj)

theorem Keeps.workOnFiles (h : r.Keeps inv) (files : List (Path × List Method))
    (index : FailureIndex) {j : Journal σ} (hj : inv j.attempts j.world) :
    inv (r.workOnFiles files index j).2.2.attempts (r.workOnFiles files index j).2.2.world := by
  induction files generalizing index j with
  | nil => exact hj
  | cons file files ih =>
      have hpage : inv j.turnPage.attempts j.turnPage.world := hj
      exact ih _ (h.workOnMethods file.1 file.2 hpage)

end Registry

/-- What every call keeps, a run on a workload keeps. -/
theorem Refactoring.refactorAll_keeps (r : Refactoring σ) {inv : List Attempt → σ → Prop}
    (h : r.registry.Keeps inv) (w : Workload) {world : σ} (hworld : inv [] world) :
    inv (r.refactorAll w world).attempts (r.refactorAll w world).world := by
  rw [refactorAll]
  split
  · exact hworld
  · exact h.workOnFiles w.files .empty hworld

end SmellRefactor

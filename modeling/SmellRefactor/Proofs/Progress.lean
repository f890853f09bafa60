import Mathlib.Logic.Relation

/-!
# Runs that come to an end

A system that can always make a step until it is done, and whose steps cannot go on for ever, can
be brought to its end from every state that satisfies its invariant.
-/

namespace SmellRefactor

theorem exists_reaches_done {α : Type} {Step : α → α → Prop} {Done : α → Prop}
    (Sound : α → Prop) (hends : WellFounded fun s' s => Step s s')
    (hkeep : ∀ {s s'}, Sound s → Step s s' → Sound s')
    (hgo : ∀ {s}, Sound s → ¬ Done s → ∃ s', Step s s') {s : α} (h : Sound s) :
    ∃ s', Relation.ReflTransGen Step s s' ∧ Done s' := by
  induction s using hends.induction with
  | _ s ih =>
      by_cases hdone : Done s
      · exact ⟨s, .refl, hdone⟩
      · obtain ⟨s', hstep⟩ := hgo h hdone
        obtain ⟨s'', hrun, hend⟩ := ih s' hstep (hkeep h hstep)
        exact ⟨s'', .head hstep hrun, hend⟩

end SmellRefactor

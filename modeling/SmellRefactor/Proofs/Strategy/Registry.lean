import Mathlib.Data.List.Dedup
import Mathlib.Data.List.Induction
import SmellRefactor.Proofs.Map.Lookup
import SmellRefactor.Strategy.Registry

/-!
# Strategies in a registry

A registry is determined by the strategy that it finds for each smell, and registering a strategy
changes what is found for the smell of this strategy alone; so after some registrations the last
one for a smell is found.  The smells that are handled are those for which a strategy is found; they
stand in the order of smells, each once.
-/

namespace SmellRefactor

namespace Registry

variable {σ : Type}

theorem find?_extend (r : Registry σ) (strategy : Strategy σ) (smell : CodeSmell) :
    (r.extend strategy).find? smell =
      if smell = strategy.smell then some strategy else r.find? smell := by
  rw [extend, register, find?, OrderedMap.insert, OrderedMap.find?_upsert]
  simp only [Std.compare_eq_iff_eq]
  rfl

/-- Registries with the same strategies are equal. -/
theorem ext_find? {r r' : Registry σ} (h : ∀ smell, r.find? smell = r'.find? smell) : r = r' := by
  have hstrategies : r.strategies = r'.strategies := OrderedMap.ext_find? h
  cases r
  cases r'
  exact congrArg _ hstrategies

/-! ## Registrations -/

/-- The strategy for a smell that was registered last. -/
def lastFor? (strategies : List (Strategy σ)) (smell : CodeSmell) : Option (Strategy σ) :=
  (strategies.filter fun strategy => strategy.smell = smell).getLast?

theorem lastFor?_append_singleton (strategies : List (Strategy σ)) (next : Strategy σ)
    (smell : CodeSmell) :
    lastFor? (strategies ++ [next]) smell =
      if smell = next.smell then some next else lastFor? strategies smell := by
  rw [lastFor?, List.filter_append]
  by_cases h : smell = next.smell
  · simp [h]
  · simp [h, Ne.symm h, lastFor?]

theorem isSome_lastFor?_iff {strategies : List (Strategy σ)} {smell : CodeSmell} :
    (lastFor? strategies smell).isSome ↔ smell ∈ strategies.map Strategy.smell := by
  simp [lastFor?]

theorem ofList_append_singleton (strategies : List (Strategy σ)) (next : Strategy σ) :
    ofList (strategies ++ [next]) = (ofList strategies).extend next := by
  rw [ofList, List.foldl_append]
  rfl

/-- Of the strategies that are registered for a smell, the last one is found. -/
theorem find?_ofList (strategies : List (Strategy σ)) (smell : CodeSmell) :
    (ofList strategies).find? smell = lastFor? strategies smell := by
  induction strategies using List.reverseRecOn with
  | nil => rfl
  | append_singleton strategies next ih =>
      rw [ofList_append_singleton, find?_extend, ih, lastFor?_append_singleton]

/-- Where strategies were registered, each one that is found is among them and stands under its own
smell. -/
theorem of_find?_ofList {strategies : List (Strategy σ)} {smell : CodeSmell}
    {strategy : Strategy σ} (h : (ofList strategies).find? smell = some strategy) :
    strategy ∈ strategies ∧ strategy.smell = smell := by
  rw [find?_ofList] at h
  simpa using List.mem_of_getLast? h

/-! ## Handled smells -/

theorem mem_handled {r : Registry σ} {smell : CodeSmell} :
    smell ∈ r.handled ↔ (r.find? smell).isSome :=
  OrderedMap.mem_keys_iff

theorem handled_pairwise (r : Registry σ) : r.handled.Pairwise fun a b => compare a b = .lt :=
  List.pairwise_map.2 r.strategies.ascending

theorem handled_nodup (r : Registry σ) : r.handled.Nodup := by
  refine r.handled_pairwise.imp ?_
  rintro a b hab rfl
  simp at hab

theorem length_handled (r : Registry σ) : r.handled.length = r.size :=
  List.length_map _

theorem mem_handled_ofList {strategies : List (Strategy σ)} {smell : CodeSmell} :
    smell ∈ (ofList strategies).handled ↔ smell ∈ strategies.map Strategy.smell := by
  rw [mem_handled, find?_ofList, isSome_lastFor?_iff]

/-- A registry is as large as there are different smells among its registrations. -/
theorem size_ofList (strategies : List (Strategy σ)) :
    (ofList strategies).size = (strategies.map Strategy.smell).dedup.length := by
  have hperm : (ofList strategies).handled.Perm (strategies.map Strategy.smell).dedup := by
    rw [List.perm_ext_iff_of_nodup (handled_nodup _) (List.nodup_dedup _)]
    intro smell
    rw [mem_handled_ofList, List.mem_dedup]
  rw [← length_handled, hperm.length_eq]

end Registry

end SmellRefactor

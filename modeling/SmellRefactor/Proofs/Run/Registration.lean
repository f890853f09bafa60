import SmellRefactor.Proofs.Run.Reference

/-!
# Runs and registrations

A run asks its registry for nothing but the strategies of the smells that its methods carry.  Two
registries that have the same strategies for these smells make the same run, down to its events.
Since the strategy that a registry has for a smell is the one that was registered last, the order of
registrations and the strategies that were replaced do not show in any run.
-/

namespace SmellRefactor

variable {σ : Type}

namespace Registry

/-! ## Registries that agree -/

/-- Whether two registries have the same strategy for every smell that a method carries. -/
def AgreeOn (r r' : Registry σ) (m : Method) : Prop :=
  ∀ smell, m.carries smell = true → r.find? smell = r'.find? smell

/-- Whether two registries have the same strategies for the smells of all methods of some files. -/
def AgreeOnFiles (r r' : Registry σ) (files : List (Path × List Method)) : Prop :=
  ∀ file ∈ files, ∀ m ∈ file.2, r.AgreeOn r' m

variable {r r' : Registry σ}

theorem AgreeOn.eligible_eq {m : Method} (h : r.AgreeOn r' m) : r.eligible m = r'.eligible m := by
  rw [eligible_eq_agenda, eligible_eq_agenda]
  apply List.filter_congr
  intro smell _
  by_cases hcarries : m.carries smell = true
  · rw [h smell hcarries]
  · rw [Bool.not_eq_true] at hcarries
    rw [hcarries, Bool.and_false, Bool.and_false]

/-! ## The same run by either registry -/

/-- Work on some smells asks for the strategies of these smells only. -/
theorem workOn_eq_of_find? {smells : List CodeSmell}
    (h : ∀ smell ∈ smells, r.find? smell = r'.find? smell) (path : Path) (m : Method)
    (j : Journal σ) : r.workOn path smells m j = r'.workOn path smells m j := by
  induction smells generalizing m j with
  | nil => rfl
  | cons smell smells ih =>
      obtain ⟨hsmell, hrest⟩ := List.forall_mem_cons.1 h
      cases hfind : r.find? smell with
      | none =>
          have hfind' : r'.find? smell = none := hsmell ▸ hfind
          simp only [workOn, hfind, hfind']
          exact ih hrest m j
      | some strategy =>
          have hfind' : r'.find? smell = some strategy := hsmell ▸ hfind
          rw [workOn_cons hfind, workOn_cons hfind', ih hrest]

theorem AgreeOn.workOnMethod_eq {m : Method} (h : r.AgreeOn r' m) (path : Path) (j : Journal σ) :
    r.workOnMethod path m j = r'.workOnMethod path m j := by
  have hfind : ∀ smell ∈ r'.eligible m, r.find? smell = r'.find? smell :=
    fun smell hsmell => h smell (mem_eligible.1 hsmell).2
  rw [workOnMethod, workOnMethod, h.eligible_eq, workOn_eq_of_find? hfind]

theorem workOnMethods_eq_of_agree {methods : List Method} (h : ∀ m ∈ methods, r.AgreeOn r' m)
    (path : Path) (j : Journal σ) :
    r.workOnMethods path methods j = r'.workOnMethods path methods j := by
  induction methods generalizing j with
  | nil => rfl
  | cons m methods ih =>
      obtain ⟨hm, hrest⟩ := List.forall_mem_cons.1 h
      simp only [workOnMethods, hm.workOnMethod_eq, ih hrest]

theorem AgreeOnFiles.workOnFiles_eq {files : List (Path × List Method)}
    (h : r.AgreeOnFiles r' files) (index : FailureIndex) (j : Journal σ) :
    r.workOnFiles files index j = r'.workOnFiles files index j := by
  induction files generalizing index j with
  | nil => rfl
  | cons file files ih =>
      obtain ⟨hfile, hrest⟩ := List.forall_mem_cons.1 h
      simp only [workOnFiles, workOnMethods_eq_of_agree hfile, ih hrest]

end Registry

namespace Refactoring

variable {r r' : Refactoring σ}

theorem refactor_eq_of_agree {methods : List Method}
    (h : ∀ m ∈ methods, r.registry.AgreeOn r'.registry m) (path : Path) (world : σ) :
    r.refactor path methods world = r'.refactor path methods world := by
  rw [refactor, refactor, Registry.workOnMethods_eq_of_agree h]

theorem refactorAll_eq_of_agree {w : Workload} (h : r.registry.AgreeOnFiles r'.registry w.files)
    (world : σ) : r.refactorAll w world = r'.refactorAll w world := by
  simp only [refactorAll, h.workOnFiles_eq]

end Refactoring

/-! ## Registrations -/

namespace Registry

/-- After any registrations, the last strategy for a smell is found, and the next registration
answers with the one that it replaces; the smells that are handled are those that strategies were
registered for, in their order and each once.  Registrations that end with the same strategies for
the smells that methods carry make the same runs on these methods, whatever else was registered and
in whatever order. -/
theorem last_registration_decides :
    (∀ strategies : List (Strategy σ),
      (∀ smell, (ofList strategies).find? smell = lastFor? strategies smell) ∧
      (∀ next : Strategy σ, (ofList strategies).register next =
        ((ofList strategies).find? next.smell, ofList (strategies ++ [next]))) ∧
      (ofList strategies).handled.Pairwise (fun a b => compare a b = .lt) ∧
      (∀ smell, smell ∈ (ofList strategies).handled ↔ smell ∈ strategies.map Strategy.smell) ∧
      (ofList strategies).size = (strategies.map Strategy.smell).dedup.length) ∧
    ∀ (strategies others : List (Strategy σ)) (parallel : Parallelism),
      (∀ methods : List Method,
        (∀ m ∈ methods, ∀ smell, m.carries smell = true →
          lastFor? strategies smell = lastFor? others smell) →
        ∀ path world, Refactoring.refactor ⟨ofList strategies, parallel⟩ path methods world =
          Refactoring.refactor ⟨ofList others, parallel⟩ path methods world) ∧
      ∀ w : Workload,
        (∀ file ∈ w.files, ∀ m ∈ file.2, ∀ smell, m.carries smell = true →
          lastFor? strategies smell = lastFor? others smell) →
        ∀ world, Refactoring.refactorAll ⟨ofList strategies, parallel⟩ w world =
          Refactoring.refactorAll ⟨ofList others, parallel⟩ w world := by
  refine ⟨?_, ?_⟩
  · intro strategies
    refine ⟨find?_ofList strategies, ?_, handled_pairwise _, fun smell => mem_handled_ofList,
      size_ofList strategies⟩
    intro next
    rw [ofList_append_singleton]
    rfl
  · intro strategies others parallel
    have hagree : ∀ m : Method, (∀ smell, m.carries smell = true →
        lastFor? strategies smell = lastFor? others smell) →
        (ofList strategies).AgreeOn (ofList others) m := by
      intro m hm smell hcarries
      rw [find?_ofList, find?_ofList, hm smell hcarries]
    refine ⟨?_, ?_⟩
    · intro methods h path world
      exact Refactoring.refactor_eq_of_agree (fun m hm => hagree m (h m hm)) path world
    · intro w h world
      exact Refactoring.refactorAll_eq_of_agree
        (fun file hfile m hm => hagree m (h file hfile m hm)) world

/-- The first registrations replace a strategy; the others do not, come in another order and have a
strategy for a smell that the method does not carry. -/
theorem last_registration_decides_replaced :
    let giveUp : Strategy Nat := ⟨.longMethod, "give up", fun _ _ n => ⟨.unresolved, [], n⟩⟩
    let extract : Strategy Nat := ⟨.longMethod, "extract", fun _ _ n => ⟨.resolved, [], n + 1⟩⟩
    let flatten : Strategy Nat :=
      ⟨.deepNesting, "flatten", fun _ m n =>
        ⟨if n = 1 ∧ m.carries .longMethod = false then .resolved else .unresolved, [], n + 1⟩⟩
    let split : Strategy Nat := ⟨.largeClass, "split", fun _ _ n => ⟨.fault (.panic none), [], n⟩⟩
    let draw : Method := ⟨"draw", [.deepNesting, .longMethod, .featureEnvy, .deepNesting]⟩
    let path : Path := ⟨"a.java"⟩
    let w : Workload := .ofList [(path, [draw]), (⟨"b.java"⟩, [⟨"load", [.longMethod]⟩])]
    let strategies := [giveUp, flatten, extract]
    let others := [split, extract, flatten]
    let r : Refactoring Nat := ⟨ofList strategies, .sequential⟩
    let r' : Refactoring Nat := ⟨ofList others, .sequential⟩
    ((∀ m ∈ [draw], ∀ smell, m.carries smell = true →
        lastFor? strategies smell = lastFor? others smell) ∧
      ∀ file ∈ w.files, ∀ m ∈ file.2, ∀ smell, m.carries smell = true →
        lastFor? strategies smell = lastFor? others smell) ∧
      ((ofList [giveUp, flatten]).register extract).1 = some giveUp ∧
      (ofList strategies).find? .longMethod = some extract ∧
      (ofList strategies).size = 2 ∧
      r.refactor path [draw] 0 = r'.refactor path [draw] 0 ∧
      (r.refactor path [draw] 0).left = [⟨"draw", [.featureEnvy]⟩] ∧
      r.refactorAll w 0 = r'.refactorAll w 0 := by
  intro giveUp extract flatten split draw path w strategies others r r'
  have hlast : ∀ m : Method, m.carries .largeClass = false → ∀ smell, m.carries smell = true →
      lastFor? strategies smell = lastFor? others smell := by
    intro m hm smell hcarries
    cases smell with
    | largeClass => simp [hm] at hcarries
    | _ => rfl
  have hdraw : ∀ m ∈ [draw], m.carries .largeClass = false := by decide
  have hall : ∀ file ∈ w.files, ∀ m ∈ file.2, m.carries .largeClass = false := by decide
  have hmethods : ∀ m ∈ [draw], ∀ smell, m.carries smell = true →
      lastFor? strategies smell = lastFor? others smell := fun m hm => hlast m (hdraw m hm)
  have hfiles : ∀ file ∈ w.files, ∀ m ∈ file.2, ∀ smell, m.carries smell = true →
      lastFor? strategies smell = lastFor? others smell :=
    fun file hfile m hm => hlast m (hall file hfile m hm)
  obtain ⟨hregistered, hruns⟩ := last_registration_decides (σ := Nat)
  obtain ⟨hfind, -, -, -, hsize⟩ := hregistered strategies
  obtain ⟨hbefore, hregister, -⟩ := hregistered [giveUp, flatten]
  obtain ⟨hrefactor, hrefactorAll⟩ := hruns strategies others .sequential
  refine ⟨⟨hmethods, hfiles⟩, ?_, hfind _, ?_, hrefactor _ hmethods path 0, ?_,
    hrefactorAll w hfiles 0⟩
  · rw [hregister, hbefore]
    rfl
  · rw [hsize]
    rfl
  · rw [hrefactor _ hmethods path 0]
    decide

end Registry

end SmellRefactor

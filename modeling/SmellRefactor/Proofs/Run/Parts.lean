import SmellRefactor.Proofs.Failure.Freezing
import SmellRefactor.Proofs.Run.Reference

/-!
# Runs in parts

The methods of a file may be worked on in two runs, the second of which starts where the first one
ended.  The two runs together do what one run on all methods does, and this run gives the merge of
their indices.  The reason is that recording a failure is the same as merging with the index of this
one failure, so that a journal continues another one as if it had been started afresh.
-/

namespace SmellRefactor

open FailureIndex

/-! ## Journals in parts -/

namespace Journal

variable {σ : Type}

/-- A journal continued by another one. -/
def join (first second : Journal σ) : Journal σ where
  failures := first.failures.join second.failures
  attempts := first.attempts ++ second.attempts
  events := first.events ++ second.events
  world := second.world

@[simp]
theorem world_join (first second : Journal σ) : (first.join second).world = second.world := rfl

theorem join_assoc (first second third : Journal σ) :
    (first.join second).join third = first.join (second.join third) := by
  simp only [join, Builder.join_assoc, List.append_assoc]

theorem join_start (j : Journal σ) : j.join (.start j.world) = j := by
  simp [join, start]

theorem enter_eq_join (j : Journal σ) (a : Attempt) (told : List Event) (world : σ) :
    j.enter a told world = j.join ((start j.world).enter a told world) := by
  by_cases h : a.outcome.isResolved = true
  · simp [enter, join, start, h]
  · simp only [enter, join, start, h]
    simp [← Builder.record_eq_join]

end Journal

/-! ## Work in parts -/

namespace Registry

variable {σ : Type}

/-- Work on a method adds to a journal what it enters into a fresh one. -/
theorem workOn_eq_join (r : Registry σ) (path : Path) (smells : List CodeSmell) (m : Method)
    (j : Journal σ) :
    r.workOn path smells m j =
      ((r.workOn path smells m (.start j.world)).1,
        j.join (r.workOn path smells m (.start j.world)).2) := by
  induction smells generalizing m j with
  | nil => rw [workOn, workOn, Journal.join_start]
  | cons smell smells ih =>
      cases hfind : r.find? smell with
      | none => simpa only [workOn, hfind] using ih m j
      | some strategy =>
          let a := strategy.tryOn smell path m j.world
          let j' := (Journal.start j.world).enter a (strategy.attempt path m j.world).events
            (strategy.attempt path m j.world).world
          -- both runs go on in the world that the attempt left, so that `ih` serves for both
          have hwhole := ih a.left (j.join j')
          have hfresh := ih a.left j'
          rw [Journal.world_join, Journal.join_assoc] at hwhole
          rw [workOn_cons hfind, workOn_cons hfind, Journal.enter_eq_join]
          change r.workOn path smells a.left (j.join j') =
            ((r.workOn path smells a.left j').1, j.join (r.workOn path smells a.left j').2)
          rw [hwhole, hfresh]

/-- Work on methods adds to a journal what it enters into a fresh one. -/
theorem workOnMethods_eq_join (r : Registry σ) (path : Path) (methods : List Method)
    (j : Journal σ) :
    r.workOnMethods path methods j =
      ((r.workOnMethods path methods (.start j.world)).1,
        j.join (r.workOnMethods path methods (.start j.world)).2) := by
  induction methods generalizing j with
  | nil => rw [workOnMethods, workOnMethods, Journal.join_start]
  | cons m methods ih =>
      have hmethod := r.workOn_eq_join path (r.eligible m) m j
      simp only [workOnMethods, workOnMethod]
      rw [hmethod, ih (j.join _), ih (r.workOn path (r.eligible m) m (.start j.world)).2,
        Journal.world_join, Journal.join_assoc]

theorem workOnMethods_append (r : Registry σ) (path : Path) (methods more : List Method)
    (j : Journal σ) :
    r.workOnMethods path (methods ++ more) j =
      ((r.workOnMethods path methods j).1 ++
          (r.workOnMethods path more (r.workOnMethods path methods j).2).1,
        (r.workOnMethods path more (r.workOnMethods path methods j).2).2) := by
  induction methods generalizing j with
  | nil => rfl
  | cons m methods ih => simp only [List.cons_append, workOnMethods, ih]

end Registry

/-! ## Runs in parts -/

variable {σ : Type}

/-- Two runs one after the other, taken as one.  It gives an index when both do. -/
def Run.followedBy (first second : Run σ (List Method)) : Run σ (List Method) where
  answer := do
    let index ← first.answer
    let others ← second.answer
    return index.merge others
  left := first.left ++ second.left
  attempts := first.attempts ++ second.attempts
  events := first.events ++ second.events
  world := second.world

theorem Run.answer_followedBy {first second : Run σ (List Method)} {index others : FailureIndex}
    (hfirst : first.answer = .ok index) (hsecond : second.answer = .ok others) :
    (first.followedBy second).answer = .ok (index.merge others) := by
  rw [followedBy, hfirst, hsecond]
  rfl

namespace Refactoring

/-- A run answers with the index of its failed attempts. -/
theorem answer_eq (r : Refactoring σ) {path : Path} (hpath : path.isEmpty = false)
    (methods : List Method) (world : σ) :
    (r.refactor path methods world).answer =
      .ok (ofRecords (failuresOf (r.refactor path methods world).attempts)) := by
  obtain ⟨_, -, -, hanswer, -, hattempts⟩ := r.refactor_treatments hpath methods world
  rw [hanswer, hattempts]

/-- Where verdicts determine how attempts end, it does not matter where a run starts. -/
theorem answer_eq_of_follows (r : Refactoring σ) {v : Verdicts} (hv : r.registry.Follows v)
    (path : Path) (methods : List Method) (world world' : σ) :
    (r.refactor path methods world).answer = (r.refactor path methods world').answer := by
  by_cases hpath : path.isEmpty = true
  · simp only [refactor, hpath, if_true]
    rfl
  · rw [Bool.not_eq_true] at hpath
    rw [(r.refactor_described hv hpath methods world).1,
      (r.refactor_described hv hpath methods world').1]

/-- A run on a file is the run on the first methods, followed by the run on the others. -/
theorem refactor_append (r : Refactoring σ) (path : Path) (methods more : List Method)
    (world : σ) :
    r.refactor path (methods ++ more) world =
      (r.refactor path methods world).followedBy
        (r.refactor path more (r.refactor path methods world).world) := by
  by_cases hpath : path.isEmpty = true
  · simp only [refactor, hpath, if_true]
    rfl
  · simp only [refactor, hpath, Registry.workOnMethods_append]
    rw [Registry.workOnMethods_eq_join r.registry path more]
    rfl

/-- However records are split in two, the index of all of them is the merge of the indices of the
two parts, with every path as it was spelled first, and it is the same in whatever order the
contents of the builders are listed.  Likewise a run on a file gives the merge of the indices of a
run on its first methods and of a run on the others that starts where the first one ended; where
strategies answer by the smell, the path and the method alone, it may start anywhere.  No record
and no failed attempt is lost. -/
theorem merge_of_parts (r : Refactoring σ) :
    (∀ xs ys : List Record,
      let former := Builder.empty.recordAll xs
      let latter := Builder.empty.recordAll ys
      let both := former.recordAll ys
      both.finish = former.finish.merge latter.finish ∧
        both.finish.total = xs.length + ys.length ∧
        ∀ front back contents, former.Lists front → latter.Lists back → both.Lists contents →
          freeze contents = (freeze front).merge (freeze back)) ∧
    ∀ (path : Path) (methods more : List Method) (world : σ),
      let first := r.refactor path methods world
      let second := r.refactor path more first.world
      let whole := r.refactor path (methods ++ more) world
      whole = first.followedBy second ∧
        (path.isEmpty = false →
          ∃ index others, first.answer = .ok index ∧ second.answer = .ok others ∧
            whole.answer = .ok (index.merge others) ∧
            (index.merge others).total = (failedAmong whole.attempts).length) ∧
        ∀ v, r.registry.Follows v → ∀ elsewhere,
          (r.refactor path more elsewhere).answer = second.answer := by
  constructor
  · intro xs ys former latter both
    have hfinish : both.finish = former.finish.merge latter.finish := by
      rw [← Builder.finish_join, ← Builder.recordAll_eq_join]
    have htotal : both.finish.total = xs.length + ys.length :=
      (total_recordAll former ys).trans (congrArg (· + ys.length) (total_ofRecords xs))
    refine ⟨hfinish, htotal, ?_⟩
    intro front back contents hfront hback hcontents
    rw [freeze_eq_finish hfront, freeze_eq_finish hback, freeze_eq_finish hcontents, hfinish]
  · intro path methods more world first second whole
    have hwhole : whole = first.followedBy second := r.refactor_append path methods more world
    refine ⟨hwhole, ?_, ?_⟩
    · intro hpath
      have hfirst := r.answer_eq hpath methods world
      have hsecond := r.answer_eq hpath more first.world
      refine ⟨_, _, hfirst, hsecond, hwhole ▸ Run.answer_followedBy hfirst hsecond, ?_⟩
      have hattempts : whole.attempts = first.attempts ++ second.attempts := by
        rw [hwhole, Run.followedBy]
      rw [← ofRecords_append, ← failuresOf_append, total_ofRecords, length_failuresOf, hattempts]
    · intro v hv elsewhere
      exact r.answer_eq_of_follows hv path more elsewhere first.world

/-- The parts spell one path in two ways, and the methods are cut where a fault stands on either
side. -/
theorem merge_of_parts_spellings :
    let load : Method := ⟨"load", [.deepNesting, .dataClump]⟩
    let save : Method := ⟨"save", [.deepNesting]⟩
    let near : Path := ⟨"a.java"⟩
    let far : Path := ⟨"src//b.java"⟩
    let xs : List Record := [⟨.deepNesting, far, load⟩, ⟨.dataClump, near, load⟩]
    let ys : List Record := [⟨.deepNesting, ⟨"src/b.java"⟩, save⟩, ⟨.deepNesting, near, load⟩]
    let former := Builder.empty.recordAll xs
    let latter := Builder.empty.recordAll ys
    let both := former.recordAll ys
    let contents := [("Deep Nesting", [(far, [load, save]), (near, [load])]),
      ("Data Clump", [(near, [load])])]
    let r : Refactoring Nat := ⟨pickyVerdicts.registry [.deepNesting, .dataClump], .standard⟩
    (both.Lists contents ∧ freeze contents = former.finish.merge latter.finish ∧
        both.finish.total = 4 ∧ both.finish.paths "Deep Nesting" = [near, far]) ∧
      (r.registry.Follows pickyVerdicts ∧ far.isEmpty = false) ∧
      ∃ index others, (r.refactor far [load] 0).answer = .ok index ∧
        (r.refactor far [save, load] 7).answer = .ok others ∧
        (r.refactor far [load, save, load] 0).answer = .ok (index.merge others) ∧
        (index.merge others).total = 3 ∧
        (index.merge others).find? "Deep Nesting" ⟨"src/./b.java"⟩ =
          some [⟨"load", [.deepNesting]⟩, save, ⟨"load", [.deepNesting]⟩] := by
  intro load save near far xs ys former latter both contents r
  have hcontents : both.Lists contents :=
    ⟨both.table.entries.reverse, List.reverse_perm _, by decide⟩
  have hfollows : r.registry.Follows pickyVerdicts := pickyVerdicts.registry_follows _
  have hpath : far.isEmpty = false := by decide
  obtain ⟨hrecords, hruns⟩ := merge_of_parts r
  obtain ⟨-, htotal, hfreeze⟩ := hrecords xs ys
  obtain ⟨-, hmerge, hanywhere⟩ := hruns far [load] [save, load] 0
  obtain ⟨index, others, hindex, hothers, hwhole, hfailed⟩ := hmerge hpath
  refine ⟨⟨hcontents, ?_, htotal, by decide⟩, ⟨hfollows, hpath⟩, index, others, hindex,
    (hanywhere _ hfollows 7).trans hothers, hwhole, hfailed.trans (by decide), ?_⟩
  · rw [hfreeze _ _ contents former.lists_entries latter.lists_entries hcontents,
      freeze_eq_finish former.lists_entries, freeze_eq_finish latter.lists_entries]
  · have hfind : (r.refactor far [load, save, load] 0).answer.toOption.map
        (FailureIndex.find? · "Deep Nesting" ⟨"src/./b.java"⟩) =
          some (some [⟨"load", [.deepNesting]⟩, save, ⟨"load", [.deepNesting]⟩]) := by
      decide
    have hanswer : (r.refactor far [load, save, load] 0).answer = .ok (index.merge others) := hwhole
    rw [hanswer] at hfind
    exact Option.some_inj.1 hfind

end Refactoring

end SmellRefactor

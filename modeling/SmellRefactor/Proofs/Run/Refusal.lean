import SmellRefactor.Proofs.Failure.Reduction
import SmellRefactor.Proofs.Path.Components
import SmellRefactor.Proofs.Run.Reference
import SmellRefactor.Proofs.Run.Workers

/-!
# Runs that are refused

A run is refused when a path has no components, and for no other reason.  All paths are checked
before any work, one after another in whatever order they come, so that a refused run has called no
strategy and changed no method.  Once the work has begun, the run gives an index, whatever the
strategies do: an attempt that fails, ends in an error or panics ends neither the attempts on its
own method nor those on the others.
-/

namespace SmellRefactor

variable {σ : Type}

/-! ## Answers -/

/-- The treatments of methods on which nothing was tried. -/
def Casebook.untouched (files : List (Path × List Method)) : Casebook :=
  files.map fun file => (file.1, file.2.map Treatment.start)

namespace Casebook

@[simp]
theorem given_untouched (files : List (Path × List Method)) : (untouched files).given = files := by
  simp [untouched, given, Function.comp_def, Treatment.start]

@[simp]
theorem left_untouched (files : List (Path × List Method)) : (untouched files).left = files := by
  simp [untouched, left, Function.comp_def, Treatment.start]

@[simp]
theorem attempts_untouched (files : List (Path × List Method)) :
    (untouched files).attempts = [] := by
  simp [untouched, attempts, List.flatMap_map, Treatment.start]

end Casebook

/-- What an answer for some files says about the treatments of their methods.  It refuses an
argument exactly when a path has no components, and then nothing was tried and no method was
changed.  Otherwise it is an index, every method got its complete treatment, and every failed
attempt counts. -/
structure Registry.AnswersFor (r : Registry σ) (files : List (Path × List Method)) (book : Casebook)
    (answer : Except Error FailureIndex) : Prop where
  given : book.given = files
  refused : (∃ text, answer = .error (.invalidArgument text)) ↔
    ∃ file ∈ files, file.1.components = []
  untouched : (∃ file ∈ files, file.1.components = []) → book.attempts = [] ∧ book.left = files
  answered : (∀ file ∈ files, file.1.components ≠ []) → book.Complete r ∧
    ∃ index, answer = .ok index ∧ index.total = (failedAmong book.attempts).length

namespace Registry

variable {r : Registry σ} {files : List (Path × List Method)}

theorem answers_refused (hempty : ∃ file ∈ files, file.1.components = []) :
    r.AnswersFor files (.untouched files) (.error .emptyPath) where
  given := Casebook.given_untouched files
  refused := ⟨fun _ => hempty, fun _ => ⟨_, rfl⟩⟩
  untouched := fun _ => ⟨Casebook.attempts_untouched files, Casebook.left_untouched files⟩
  answered := by
    intro hfull
    obtain ⟨file, hfile, hpath⟩ := hempty
    exact absurd hpath (hfull file hfile)

theorem answers_complete (hfull : ∀ file ∈ files, file.1.components ≠ []) {book : Casebook}
    (hcomplete : book.Complete r) (hgiven : book.given = files) {index : FailureIndex}
    (htotal : index.total = (failedAmong book.attempts).length) :
    r.AnswersFor files book (.ok index) where
  given := hgiven
  refused := by
    constructor
    · rintro ⟨text, hanswer⟩
      cases hanswer
    · rintro ⟨file, hfile, hpath⟩
      exact absurd hpath (hfull file hfile)
  untouched := by
    rintro ⟨file, hfile, hpath⟩
    exact absurd hpath (hfull file hfile)
  answered := fun _ => ⟨hcomplete, index, rfl, htotal⟩

end Registry

/-! ## Sequential runs -/

namespace Refactoring

theorem refactor_of_empty (r : Refactoring σ) {path : Path} (hpath : path.components = [])
    (methods : List Method) (world : σ) :
    r.refactor path methods world = .refused .emptyPath methods world := by
  rw [refactor, if_pos (Path.isEmpty_iff.2 hpath)]

theorem refactorAll_of_empty (r : Refactoring σ) {w : Workload}
    (hempty : ∃ file ∈ w.files, file.1.components = []) (world : σ) :
    r.refactorAll w world = .refused .emptyPath w world := by
  have hany : (w.files.any fun file => file.1.isEmpty) = true := by
    obtain ⟨file, hfile, hpath⟩ := hempty
    exact List.any_eq_true.2 ⟨file, hfile, Path.isEmpty_iff.2 hpath⟩
  rw [refactorAll, if_pos hany]

/-- A run on one file answers as it should, with the treatments that it gave. -/
theorem exists_refactor_answers (r : Refactoring σ) (path : Path) (methods : List Method)
    (world : σ) :
    ∃ treatments : List Treatment,
      (r.refactor path methods world).attempts = treatments.flatMap Treatment.attempts ∧
        (r.refactor path methods world).left = treatments.map Treatment.left ∧
        r.registry.AnswersFor [(path, methods)] [(path, treatments)]
          (r.refactor path methods world).answer := by
  by_cases hpath : path.components = []
  · have hempty : ∃ file ∈ [(path, methods)], file.1.components = [] :=
      ⟨(path, methods), by simp, hpath⟩
    rw [r.refactor_of_empty hpath]
    refine ⟨methods.map Treatment.start, ?_, ?_, Registry.answers_refused hempty⟩
    · simp [Run.refused, List.flatMap_map, Treatment.start]
    · simp [Run.refused, Function.comp_def, Treatment.start]
  · have htext : path.isEmpty = false := Path.isEmpty_eq_false_iff.2 hpath
    obtain ⟨treatments, hcomplete, hgiven, hanswer, hleft, hattempts⟩ :=
      r.refactor_treatments htext methods world
    refine ⟨treatments, hattempts, hleft, ?_⟩
    rw [hanswer]
    apply Registry.answers_complete
    · simpa using hpath
    · simpa [Casebook.Complete] using hcomplete
    · simp [Casebook.given, hgiven]
    · rw [FailureIndex.total_ofRecords, length_failuresOf]
      simp [Casebook.attempts]

/-- A run on a workload answers as it should, with the treatments that it gave. -/
theorem exists_refactorAll_answers (r : Refactoring σ) (w : Workload) (world : σ) :
    ∃ book : Casebook,
      (r.refactorAll w world).attempts = book.attempts ∧
        (r.refactorAll w world).left.files = book.left ∧
        r.registry.AnswersFor w.files book (r.refactorAll w world).answer := by
  by_cases hempty : ∃ file ∈ w.files, file.1.components = []
  · rw [r.refactorAll_of_empty hempty]
    exact ⟨.untouched w.files, by simp [Run.refused], by simp [Run.refused],
      Registry.answers_refused hempty⟩
  · have hfull : ∀ file ∈ w.files, file.1.components ≠ [] := by simpa using hempty
    have htexts : ∀ file ∈ w.files, file.1.isEmpty = false :=
      fun file hfile => Path.isEmpty_eq_false_iff.2 (hfull file hfile)
    obtain ⟨book, hcomplete, hgiven, hanswer, hleft, hattempts⟩ :=
      r.refactorAll_casebook htexts world
    refine ⟨book, hattempts, hleft, ?_⟩
    rw [hanswer]
    apply Registry.answers_complete hfull hcomplete hgiven
    rw [FailureIndex.total_ofRecords, length_failuresOf]

end Refactoring

/-! ## Parallel runs behind their check -/

/-- How far a parallel run has come: paths are still to be checked, one was refused, or the workers
are at work. -/
inductive Session.Stage where
  | checking (unchecked : List Path)
  | refused (error : Error)
  | working

/-- A parallel run with the check of its paths. -/
structure Session (σ : Type) where
  stage : Session.Stage
  run : ParallelRun σ

namespace Session

/-- The start of a session on a workload, with the paths in the order of their check. -/
def opening (r : Registry σ) (w : Workload) (order : List Path) (world : σ) : Session σ :=
  ⟨.checking order, .opening r w world⟩

/-- One path is checked, or a worker makes an attempt when all paths have passed. -/
inductive Step (r : Registry σ) : Session σ → Session σ → Prop
  | pass {path : Path} {unchecked : List Path} {run : ParallelRun σ}
      (hpath : path.isEmpty = false) :
      Step r ⟨.checking (path :: unchecked), run⟩ ⟨.checking unchecked, run⟩
  | refuse {path : Path} {unchecked : List Path} {run : ParallelRun σ}
      (hpath : path.isEmpty = true) :
      Step r ⟨.checking (path :: unchecked), run⟩ ⟨.refused .emptyPath, run⟩
  | begin {run : ParallelRun σ} : Step r ⟨.checking [], run⟩ ⟨.working, run⟩
  | work {run run' : ParallelRun σ} (hstep : ParallelRun.Step r run run') :
      Step r ⟨.working, run⟩ ⟨.working, run'⟩

/-- Whether a session may end with an answer: with the error of a refused path, or with the indices
of all files, merged in any grouping, when the work is done. -/
inductive Ends : Session σ → Except Error FailureIndex → Prop
  | refused (error : Error) (run : ParallelRun σ) : Ends ⟨.refused error, run⟩ (.error error)
  | finished {run : ParallelRun σ} (hdone : run.Finished) {tree : FailureIndex.Reduction}
      (hleaves : tree.leaves = run.indices) : Ends ⟨.working, run⟩ (.ok tree.merged)

/-- The invariant: before the work nothing has changed, a refusal has an empty path as its reason,
and the work goes on only when no path is empty. -/
inductive Sound (r : Registry σ) (start : ParallelRun σ) (order : List Path) : Session σ → Prop
  | checking {checked unchecked : List Path} (horder : checked ++ unchecked = order)
      (hchecked : ∀ path ∈ checked, path.isEmpty = false) :
      Sound r start order ⟨.checking unchecked, start⟩
  | refused {path : Path} (hpath : path ∈ order) (hempty : path.isEmpty = true) :
      Sound r start order ⟨.refused .emptyPath, start⟩
  | working {run : ParallelRun σ} (hall : ∀ path ∈ order, path.isEmpty = false)
      (hreach : Relation.ReflTransGen (ParallelRun.Step r) start run) :
      Sound r start order ⟨.working, run⟩

variable {r : Registry σ} {start : ParallelRun σ} {order : List Path} {s s' : Session σ}

/-- A step keeps the invariant. -/
theorem Sound.step (h : s.Sound r start order) (hstep : Step r s s') : s'.Sound r start order := by
  cases hstep with
  | @pass path unchecked run hpath =>
      cases h with
      | @checking checked _ horder hchecked =>
          have hnext : (checked ++ [path]) ++ unchecked = order := by simpa using horder
          refine .checking hnext ?_
          intro p hp
          rcases List.mem_append.1 hp with hp | hp
          · exact hchecked p hp
          · rwa [List.mem_singleton.1 hp]
  | refuse hpath =>
      cases h with
      | checking horder _ => exact .refused (by simp [← horder]) hpath
  | begin =>
      cases h with
      | checking horder hchecked =>
          rw [List.append_nil] at horder
          exact .working (horder ▸ hchecked) .refl
  | work hstep =>
      cases h with
      | working hall hreach => exact .working hall (hreach.tail hstep)

variable {w : Workload} {world : σ}

/-- Every state that a session reaches is sound. -/
theorem sound_of_reachable
    (h : Relation.ReflTransGen (Step r) (opening r w order world) s) :
    s.Sound r (.opening r w world) order := by
  induction h with
  | refl => exact .checking (List.nil_append order) (by simp)
  | tail _ hstep ih => exact ih.step hstep

/-! ## Progress of sessions -/

/-- The greatest number of steps that are still to be made. -/
def stepsLeft : Session σ → Nat
  | ⟨.checking unchecked, run⟩ => unchecked.length + 1 + run.pendingCount
  | ⟨.refused _, _⟩ => 0
  | ⟨.working, run⟩ => run.pendingCount

theorem Step.stepsLeft_lt (h : Step r s s') : s'.stepsLeft < s.stepsLeft := by
  cases h with
  | pass => simp [stepsLeft]
  | refuse =>
      simp only [stepsLeft]
      omega
  | begin => simp [stepsLeft]
  | work hstep => exact hstep.pendingCount_lt

/-- No session goes on for ever. -/
theorem step_wellFounded (r : Registry σ) : WellFounded fun s' s : Session σ => Step r s s' :=
  Subrelation.wf Step.stepsLeft_lt (measure stepsLeft).wf

/-- As long as a session has no answer, it can go on. -/
theorem Sound.exists_step (h : s.Sound r (.opening r w world) order)
    (hs : ¬ ∃ answer, s.Ends answer) : ∃ s', Step r s s' := by
  cases h with
  | @checking _ unchecked _ _ =>
      cases unchecked with
      | nil => exact ⟨_, .begin⟩
      | cons path unchecked =>
          cases hpath : path.isEmpty with
          | true => exact ⟨_, .refuse hpath⟩
          | false => exact ⟨_, .pass hpath⟩
  | refused => exact absurd ⟨_, .refused _ _⟩ hs
  | @working run _ hreach =>
      have hdone : ¬ run.Finished := fun hdone =>
        hs ⟨_, .finished hdone (FailureIndex.Reduction.leaves_ofList run.indices)⟩
      obtain ⟨run', hstep⟩ := (ParallelRun.sound_of_reachable hreach).1.exists_step hdone
      exact ⟨_, .work hstep⟩

/-- Every state that satisfies the invariant can be brought to an answer. -/
theorem Sound.exists_ends (h : s.Sound r (.opening r w world) order) :
    ∃ s', Relation.ReflTransGen (Step r) s s' ∧ ∃ answer, s'.Ends answer :=
  exists_reaches_done (Sound r (.opening r w world) order) (step_wellFounded r) Sound.step
    Sound.exists_step h

/-! ## Answers of sessions -/

/-- As long as a path is empty, whether it was checked or not, nothing has been done. -/
theorem Sound.run_eq (h : s.Sound r start order) (hempty : ∃ path ∈ order, path.isEmpty = true) :
    s.run = start := by
  cases h with
  | checking => rfl
  | refused => rfl
  | working hall _ =>
      obtain ⟨path, hpath, hempty⟩ := hempty
      rw [hall path hpath] at hempty
      cases hempty

/-- A session on a workload answers as it should, whatever the order of the check. -/
theorem Sound.answers (h : s.Sound r (.opening r w world) order)
    (horder : order.Perm (w.files.map Prod.fst)) {answer : Except Error FailureIndex}
    (hends : s.Ends answer) : r.AnswersFor w.files s.run.casebook answer := by
  cases h with
  | checking => cases hends
  | @refused path hpath hempty =>
      obtain ⟨file, hfile, rfl⟩ := List.mem_map.1 (horder.subset hpath)
      have huntouched : (ParallelRun.opening r w world).casebook = .untouched w.files := by
        simp [ParallelRun.casebook, ParallelRun.opening, Casebook.untouched, Function.comp_def]
      cases hends
      rw [huntouched]
      exact Registry.answers_refused ⟨file, hfile, Path.isEmpty_iff.1 hempty⟩
  | @working run hall hreach =>
      obtain ⟨hsound, hgiven⟩ := ParallelRun.sound_of_reachable hreach
      obtain ⟨parts, hparts, hperm⟩ := hsound.exists_records
      cases hends with
      | @finished _ hdone tree hleaves =>
          apply Registry.answers_complete _ (hsound.complete hdone) hgiven
          · rw [tree.merged_eq_ofRecords (hleaves.trans hparts), FailureIndex.total_ofRecords,
              hperm.length_eq, length_failuresOf]
          · intro file hfile
            have hmem : file.1 ∈ order := horder.symm.subset (List.mem_map_of_mem hfile)
            exact Path.isEmpty_eq_false_iff.1 (hall file.1 hmem)

end Session

/-! ## The only refusal -/

namespace Refactoring

/-- A path has no components exactly when its text is empty.  A run on a file or on a workload, be
it sequential or parallel, refuses an argument exactly when a path has no components, wherever it
comes in the check.  Then nothing was done, nothing told and no method changed.  No run goes on for
ever or gets stuck, whatever the strategies do, and in every other case it ends with an index and
with a complete treatment of every method. -/
theorem refuses_only_emptyPath (r : Refactoring σ) (world : σ) :
    (∀ path : Path, path.components = [] ↔ path.text = "") ∧
    (∀ (path : Path) (methods : List Method),
      let run := r.refactor path methods world
      (path.components = [] → run = .refused .emptyPath methods world) ∧
        ∃ treatments : List Treatment,
          run.attempts = treatments.flatMap Treatment.attempts ∧
          run.left = treatments.map Treatment.left ∧
          r.registry.AnswersFor [(path, methods)] [(path, treatments)] run.answer) ∧
    (∀ w : Workload,
      let run := r.refactorAll w world
      ((∃ file ∈ w.files, file.1.components = []) → run = .refused .emptyPath w world) ∧
        ∃ book : Casebook, run.attempts = book.attempts ∧ run.left.files = book.left ∧
          r.registry.AnswersFor w.files book run.answer) ∧
    (WellFounded fun s' s : Session σ => Session.Step r.registry s s') ∧
    ∀ (w : Workload) (order : List Path), order.Perm (w.files.map Prod.fst) → ∀ s,
      Relation.ReflTransGen (Session.Step r.registry)
        (Session.opening r.registry w order world) s →
      (∃ s', Relation.ReflTransGen (Session.Step r.registry) s s' ∧ ∃ answer, s'.Ends answer) ∧
        ((∃ file ∈ w.files, file.1.components = []) →
          s.run = .opening r.registry w world) ∧
        ∀ answer, s.Ends answer → r.registry.AnswersFor w.files s.run.casebook answer := by
  refine ⟨fun path => Path.components_eq_nil_iff, ?_, ?_, Session.step_wellFounded r.registry, ?_⟩
  · intro path methods run
    exact ⟨fun hpath => r.refactor_of_empty hpath methods world,
      r.exists_refactor_answers path methods world⟩
  · intro w run
    exact ⟨fun hempty => r.refactorAll_of_empty hempty world, r.exists_refactorAll_answers w world⟩
  · intro w order horder s hreach
    have hsound := Session.sound_of_reachable hreach
    refine ⟨hsound.exists_ends, ?_, fun answer hends => hsound.answers horder hends⟩
    rintro ⟨file, hfile, hpath⟩
    have hmem : file.1 ∈ order := horder.symm.subset (List.mem_map_of_mem hfile)
    exact hsound.run_eq ⟨file.1, hmem, Path.isEmpty_iff.2 hpath⟩

/-- Every call panics here.  The empty path comes last in the check, behind a path with work to
do. -/
theorem refuses_only_emptyPath_panics :
    let v : Verdicts := fun _ _ _ => .fault (.panic none)
    let r : Refactoring Unit := ⟨v.registry [.deepNesting, .dataClump], .standard⟩
    let load : Method := ⟨"load", [.deepNesting, .dataClump, .deepNesting]⟩
    let path : Path := ⟨"a.java"⟩
    let nowhere : Path := ⟨""⟩
    let w : Workload := .ofList [(nowhere, [load]), (path, [load])]
    let refused : Session Unit := ⟨.refused .emptyPath, .opening r.registry w ()⟩
    ([path, nowhere].Perm (w.files.map Prod.fst) ∧
        Relation.ReflTransGen (Session.Step r.registry)
          (Session.opening r.registry w [path, nowhere] ()) refused ∧
        refused.Ends (.error .emptyPath)) ∧
      refused.run.casebook.attempts = [] ∧ r.refactorAll w () = .refused .emptyPath w () ∧
      path.components ≠ [] ∧ (r.refactor path [load] ()).attempts.length = 2 ∧
      ∃ index : FailureIndex, (r.refactor path [load] ()).answer = .ok index ∧
        index.total = 2 := by
  intro v r load path nowhere w refused
  have hfiles : w.files.map Prod.fst = [nowhere, path] := by decide
  have horder : [path, nowhere].Perm (w.files.map Prod.fst) := hfiles ▸ .swap nowhere path []
  have hpass : Session.Step r.registry (Session.opening r.registry w [path, nowhere] ())
      ⟨.checking [nowhere], .opening r.registry w ()⟩ :=
    .pass (by decide)
  have hrefuse : Session.Step r.registry ⟨.checking [nowhere], .opening r.registry w ()⟩ refused :=
    .refuse (by decide)
  have hreach := (Relation.ReflTransGen.single hpass).tail hrefuse
  have hends : refused.Ends (.error .emptyPath) := .refused _ _
  have hempty : ∃ file ∈ w.files, file.1.components = [] :=
    ⟨(nowhere, [load]), by decide, by decide⟩
  have hpath : path.components ≠ [] := by decide
  obtain ⟨-, hsingle, hall, -, hsessions⟩ := refuses_only_emptyPath r ()
  obtain ⟨-, -, hanswers⟩ := hsessions w [path, nowhere] horder refused hreach
  obtain ⟨-, treatments, hattempts, -, hsingle⟩ := hsingle path [load]
  obtain ⟨-, index, hindex, htotal⟩ := hsingle.answered (by simpa using hpath)
  have hcount : (r.refactor path [load] ()).attempts.length = 2 := by decide
  have hfailed : (failedAmong (r.refactor path [load] ()).attempts).length = 2 := by decide
  refine ⟨⟨horder, hreach, hends⟩, ((hanswers _ hends).untouched hempty).1, (hall w).1 hempty,
    hpath, hcount, index, hindex, ?_⟩
  rw [htotal, ← hfailed, hattempts]
  simp [Casebook.attempts]

end Refactoring

end SmellRefactor

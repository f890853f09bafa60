import Mathlib.Data.List.Pairwise
import SmellRefactor.Proofs.Progress
import SmellRefactor.Proofs.Run.Treatment

/-!
# Parallel runs

In a parallel run every method of every file has a worker of its own.  A worker tries the eligible
smells of its method one after another: a step of the run is one attempt of one worker, which either
takes the smell off the worker's method or records the method with the failures of the file.  The
workers of a file share these failures and all workers share the world; the steps of different
workers may follow each other in any order.

The invariant of such runs relates three things: the treatment of each method is made by the
strategies, it has come as far along the eligible smells as the worker has, and the failures of a
file are the failed attempts of its workers in some order.
-/

namespace SmellRefactor

variable {σ : Type}

/-! ## States and steps -/

/-- A worker: the treatment of its method so far, and the smells that it has yet to try. -/
structure Worker where
  treatment : Treatment
  pending : List CodeSmell

/-- A file with the workers of its methods and the failures that they recorded so far. -/
structure SharedFile where
  path : Path
  workers : List Worker
  failures : FailureIndex.Builder

/-- The state of a parallel run. -/
structure ParallelRun (σ : Type) where
  files : List SharedFile
  world : σ

namespace ParallelRun

/-- The start of a parallel run on a workload. -/
def opening (r : Registry σ) (w : Workload) (world : σ) : ParallelRun σ where
  files := w.files.map fun file =>
    ⟨file.1, file.2.map fun m => ⟨.start m, r.eligible m⟩, .empty⟩
  world := world

/-- One attempt of one worker. -/
inductive Step (r : Registry σ) : ParallelRun σ → ParallelRun σ → Prop
  /-- A success takes the smell off the method of the worker. -/
  | resolve {before after : List SharedFile} {path : Path} {front back : List Worker}
      {given m : Method} {attempts : List Attempt} {smell : CodeSmell} {pending : List CodeSmell}
      {failures : FailureIndex.Builder} {world : σ} {strategy : Strategy σ}
      (hfind : r.find? smell = some strategy)
      (hresolved : (strategy.attempt path m world).outcome.isResolved = true) :
      Step r
        ⟨before ++ ⟨path, front ++ ⟨⟨given, attempts, m⟩, smell :: pending⟩ :: back,
          failures⟩ :: after, world⟩
        ⟨before ++ ⟨path, front ++ ⟨⟨given, attempts ++ [strategy.tryOn smell path m world],
          m.clear smell⟩, pending⟩ :: back, failures⟩ :: after,
          (strategy.attempt path m world).world⟩
  /-- Any other outcome records the method with the failures of the file. -/
  | fail {before after : List SharedFile} {path : Path} {front back : List Worker}
      {given m : Method} {attempts : List Attempt} {smell : CodeSmell} {pending : List CodeSmell}
      {failures : FailureIndex.Builder} {world : σ} {strategy : Strategy σ}
      (hfind : r.find? smell = some strategy)
      (hfailed : (strategy.attempt path m world).outcome.isResolved = false) :
      Step r
        ⟨before ++ ⟨path, front ++ ⟨⟨given, attempts, m⟩, smell :: pending⟩ :: back,
          failures⟩ :: after, world⟩
        ⟨before ++ ⟨path, front ++ ⟨⟨given, attempts ++ [strategy.tryOn smell path m world], m⟩,
          pending⟩ :: back, failures.record smell path m⟩ :: after,
          (strategy.attempt path m world).world⟩

/-- Whether no worker has a smell left to try. -/
def Finished (s : ParallelRun σ) : Prop :=
  ∀ file ∈ s.files, ∀ worker ∈ file.workers, worker.pending = []

instance (s : ParallelRun σ) : Decidable s.Finished :=
  inferInstanceAs (Decidable (∀ file ∈ s.files, ∀ worker ∈ file.workers, worker.pending = []))

/-- The treatments of all methods so far. -/
def casebook (s : ParallelRun σ) : Casebook :=
  s.files.map fun file => (file.path, file.workers.map Worker.treatment)

/-- The methods of all files as they stand. -/
def methods (s : ParallelRun σ) : List (Path × List Method) := s.casebook.left

/-- The indices of the single files, in the order of the files. -/
def indices (s : ParallelRun σ) : List FailureIndex :=
  s.files.map fun file => file.failures.finish

/-- The number of attempts that are still to be made. -/
def pendingCount (s : ParallelRun σ) : Nat :=
  tally (fun file => tally (fun worker => worker.pending.length) file.workers) s.files

/-- Everything that a step can do: one worker enters one attempt of a registered strategy, and its
file records the attempt if it failed. -/
theorem Step.exists_attempt {r : Registry σ} {s s' : ParallelRun σ} (h : Step r s s') :
    ∃ (before after : List SharedFile) (file : SharedFile) (front back : List Worker)
      (t : Treatment) (smell : CodeSmell) (pending : List CodeSmell) (strategy : Strategy σ),
      r.find? smell = some strategy ∧
      file.workers = front ++ ⟨t, smell :: pending⟩ :: back ∧
      s.files = before ++ file :: after ∧
      s'.files = before ++
        ⟨file.path,
          front ++ ⟨t.enter (strategy.tryOn smell file.path t.left s.world), pending⟩ :: back,
          file.failures.recordAll (failuresOf [strategy.tryOn smell file.path t.left s.world])⟩ ::
        after := by
  cases h with
  | @resolve before after path front back given m attempts smell pending failures world strategy
      hfind hresolved =>
      refine ⟨before, after, ⟨path, front ++ ⟨⟨given, attempts, m⟩, smell :: pending⟩ :: back,
        failures⟩, front, back, ⟨given, attempts, m⟩, smell, pending, strategy, hfind, rfl, rfl, ?_⟩
      simp [Treatment.enter, Attempt.left, Strategy.tryOn, failuresOf, failedAmong, hresolved]
  | @fail before after path front back given m attempts smell pending failures world strategy
      hfind hfailed =>
      refine ⟨before, after, ⟨path, front ++ ⟨⟨given, attempts, m⟩, smell :: pending⟩ :: back,
        failures⟩, front, back, ⟨given, attempts, m⟩, smell, pending, strategy, hfind, rfl, rfl, ?_⟩
      simp [Treatment.enter, Attempt.left, Strategy.tryOn, failuresOf, failedAmong, hfailed,
        Attempt.record, FailureIndex.Builder.recordAll]

end ParallelRun

/-! ## The invariant -/

/-- The worker made its attempts through the strategies, and what it tried and has yet to try are
the eligible smells of its method in their order. -/
structure Worker.Sound (r : Registry σ) (path : Path) (worker : Worker) : Prop where
  madeBy : worker.treatment.MadeBy r path
  plan : worker.treatment.tried ++ worker.pending = r.eligible worker.treatment.given

/-- The attempts of all workers of a file. -/
def SharedFile.attempts (file : SharedFile) : List Attempt :=
  file.workers.flatMap fun worker => worker.treatment.attempts

/-- All workers of the file are sound, and its failures are their failed attempts, each recorded
once, in some order. -/
structure SharedFile.Sound (r : Registry σ) (file : SharedFile) : Prop where
  workers : ∀ worker ∈ file.workers, worker.Sound r file.path
  failures : ∃ records : List FailureIndex.Record,
    file.failures = FailureIndex.Builder.empty.recordAll records ∧
      records.Perm (failuresOf file.attempts)

/-- When one worker enters an attempt, the failures of its file get those of this attempt. -/
theorem SharedFile.failuresOf_attempts_enter (file : SharedFile) {front back : List Worker}
    {t : Treatment} {pending pending' : List CodeSmell}
    (hworkers : file.workers = front ++ ⟨t, pending⟩ :: back) (a : Attempt)
    (failures : FailureIndex.Builder) :
    (failuresOf file.attempts ++ failuresOf [a]).Perm
      (failuresOf (SharedFile.attempts
        ⟨file.path, front ++ ⟨t.enter a, pending'⟩ :: back, failures⟩)) := by
  let others := front.flatMap fun worker => worker.treatment.attempts
  let rest := back.flatMap fun worker => worker.treatment.attempts
  have hbefore : failuresOf file.attempts =
      failuresOf others ++ (failuresOf t.attempts ++ failuresOf rest) := by
    simp [attempts, hworkers, others, rest]
  have hafter : failuresOf (SharedFile.attempts
      ⟨file.path, front ++ ⟨t.enter a, pending'⟩ :: back, failures⟩) =
        failuresOf others ++ (failuresOf t.attempts ++ (failuresOf [a] ++ failuresOf rest)) := by
    simp [attempts, others, rest, ← failuresOf_append]
  -- on the left the new failure stands last, on the right it stands with those of its worker
  rw [hbefore, hafter, List.append_assoc, List.append_assoc]
  exact (List.perm_append_comm.append_left _).append_left _

/-- The invariant goes on when one worker enters an attempt and its file records it if it failed. -/
theorem SharedFile.Sound.enter {r : Registry σ} {file : SharedFile} (h : file.Sound r)
    {front back : List Worker} {t : Treatment} {smell : CodeSmell} {pending : List CodeSmell}
    (hworkers : file.workers = front ++ ⟨t, smell :: pending⟩ :: back) {strategy : Strategy σ}
    (hfind : r.find? smell = some strategy) (world : σ) :
    SharedFile.Sound r
      ⟨file.path, front ++ ⟨t.enter (strategy.tryOn smell file.path t.left world), pending⟩ :: back,
        file.failures.recordAll (failuresOf [strategy.tryOn smell file.path t.left world])⟩ := by
  have hworker : Worker.Sound r file.path ⟨t, smell :: pending⟩ :=
    h.workers _ (by simp [hworkers])
  constructor
  · intro worker hmem
    rcases List.mem_append.1 hmem with hmem | hmem
    · exact h.workers worker (by simp [hworkers, hmem])
    · rcases List.mem_cons.1 hmem with rfl | hmem
      · refine ⟨hworker.madeBy.enter hfind world, ?_⟩
        have hplan : t.tried ++ smell :: pending = r.eligible t.given := hworker.plan
        simpa [Strategy.tryOn] using hplan
      · exact h.workers worker (by simp [hworkers, hmem])
  · obtain ⟨records, hrecords, hperm⟩ := h.failures
    refine ⟨records ++ failuresOf [strategy.tryOn smell file.path t.left world], ?_, ?_⟩
    · rw [hrecords, FailureIndex.Builder.recordAll_append]
    · exact (hperm.append_right _).trans (file.failuresOf_attempts_enter hworkers _ _)

namespace ParallelRun

/-- All files are sound. -/
def Sound (r : Registry σ) (s : ParallelRun σ) : Prop := ∀ file ∈ s.files, file.Sound r

theorem opening_sound (r : Registry σ) (w : Workload) (world : σ) :
    (opening r w world).Sound r := by
  intro file hfile
  obtain ⟨given, -, rfl⟩ := List.mem_map.1 hfile
  constructor
  · intro worker hworker
    obtain ⟨m, -, rfl⟩ := List.mem_map.1 hworker
    exact ⟨.start m, rfl⟩
  · refine ⟨[], rfl, ?_⟩
    simp [SharedFile.attempts, List.flatMap_map, Treatment.start, failuresOf, failedAmong]

theorem given_opening (r : Registry σ) (w : Workload) (world : σ) :
    (opening r w world).casebook.given = w.files := by
  simp [opening, casebook, Casebook.given, Function.comp_def, Treatment.start]

/-- A step keeps the invariant and the methods that were given. -/
theorem Sound.step {r : Registry σ} {s s' : ParallelRun σ} (h : s.Sound r) (hstep : Step r s s') :
    s'.Sound r ∧ s'.casebook.given = s.casebook.given := by
  obtain ⟨before, after, file, front, back, t, smell, pending, strategy, hfind, hworkers, hs,
    hs'⟩ := hstep.exists_attempt
  constructor
  · intro other hother
    rw [hs'] at hother
    rcases List.mem_append.1 hother with hother | hother
    · exact h other (by simp [hs, hother])
    · rcases List.mem_cons.1 hother with rfl | hother
      · exact (h file (by simp [hs])).enter hworkers hfind s.world
      · exact h other (by simp [hs, hother])
  · simp [casebook, Casebook.given, hs, hs', hworkers]

/-- Every state that a parallel run reaches is sound, and keeps the methods that were given. -/
theorem sound_of_reachable {r : Registry σ} {w : Workload} {world : σ} {s : ParallelRun σ}
    (h : Relation.ReflTransGen (Step r) (opening r w world) s) :
    s.Sound r ∧ s.casebook.given = w.files := by
  induction h with
  | refl => exact ⟨opening_sound r w world, given_opening r w world⟩
  | tail _ hstep ih =>
      obtain ⟨hsound, hgiven⟩ := ih.1.step hstep
      exact ⟨hsound, hgiven.trans ih.2⟩

/-! ## Progress -/

/-- Every step is one attempt less to make. -/
theorem Step.pendingCount_lt {r : Registry σ} {s s' : ParallelRun σ} (h : Step r s s') :
    s'.pendingCount < s.pendingCount := by
  obtain ⟨before, after, file, front, back, t, smell, pending, strategy, -, hworkers, hs, hs'⟩ :=
    h.exists_attempt
  simp [pendingCount, hs, hs', hworkers]

/-- As long as a worker has a smell to try, it can try it. -/
theorem Sound.exists_step {r : Registry σ} {s : ParallelRun σ} (h : s.Sound r)
    (hs : ¬ s.Finished) : ∃ s', Step r s s' := by
  simp only [Finished, not_forall] at hs
  obtain ⟨file, hfile, worker, hworker, hpending⟩ := hs
  obtain ⟨smell, pending, hcons⟩ := List.exists_cons_of_ne_nil hpending
  obtain ⟨before, after, hfiles⟩ := List.append_of_mem hfile
  obtain ⟨front, back, hworkers⟩ := List.append_of_mem hworker
  have hplan := ((h file hfile).workers worker hworker).plan
  have heligible : smell ∈ r.eligible worker.treatment.given := by
    rw [← hplan, hcons]
    simp
  obtain ⟨strategy, hfind⟩ := Option.isSome_iff_exists.1 (Registry.mem_eligible.1 heligible).1
  obtain ⟨files, world⟩ := s
  obtain ⟨path, workers, failures⟩ := file
  obtain ⟨⟨given, attempts, m⟩, todo⟩ := worker
  simp only at hfiles hworkers hcons
  subst hfiles hworkers hcons
  cases hout : (strategy.attempt path m world).outcome.isResolved with
  | true => exact ⟨_, .resolve hfind hout⟩
  | false => exact ⟨_, .fail hfind hout⟩

/-- No run goes on for ever. -/
theorem step_wellFounded (r : Registry σ) : WellFounded fun s' s : ParallelRun σ => Step r s s' :=
  Subrelation.wf Step.pendingCount_lt (measure pendingCount).wf

/-- Every state that satisfies the invariant can be brought to an end. -/
theorem Sound.exists_finished {r : Registry σ} {s : ParallelRun σ} (h : s.Sound r) :
    ∃ s', Relation.ReflTransGen (Step r) s s' ∧ s'.Finished := by
  exact exists_reaches_done (Sound r) (step_wellFounded r) (fun h hstep => (h.step hstep).1)
    (fun h hs => h.exists_step hs) h

/-! ## Finished runs -/

/-- At the end of a run every method has got a complete treatment. -/
theorem Sound.complete {r : Registry σ} {s : ParallelRun σ} (h : s.Sound r) (hdone : s.Finished) :
    s.casebook.Complete r := by
  intro entry hentry t ht
  obtain ⟨file, hfile, rfl⟩ := List.mem_map.1 hentry
  obtain ⟨worker, hworker, rfl⟩ := List.mem_map.1 ht
  have hsound := (h file hfile).workers worker hworker
  refine ⟨hsound.madeBy, ?_⟩
  rw [← hsound.plan, hdone file hfile worker hworker, List.append_nil]

/-- The indices of the files are made of the failed attempts of all workers, each recorded once. -/
theorem Sound.exists_records {r : Registry σ} {s : ParallelRun σ} (h : s.Sound r) :
    ∃ parts : List (List FailureIndex.Record),
      s.indices = parts.map FailureIndex.ofRecords ∧
        parts.flatten.Perm (failuresOf s.casebook.attempts) := by
  obtain ⟨files, world⟩ := s
  induction files with
  | nil => exact ⟨[], rfl, .refl _⟩
  | cons file files ih =>
      obtain ⟨parts, hparts, hperm⟩ := ih fun f hf => h f (by simp [hf])
      obtain ⟨records, hrecords, hfile⟩ := (h file (by simp)).failures
      refine ⟨records :: parts, ?_, ?_⟩
      · rw [List.map_cons, ← hparts, FailureIndex.ofRecords, ← hrecords]
        rfl
      · have hattempts : (casebook ⟨file :: files, world⟩).attempts =
            file.attempts ++ (casebook ⟨files, world⟩).attempts := by
          simp [casebook, Casebook.attempts, SharedFile.attempts, List.flatMap_map]
        rw [List.flatten_cons, hattempts, failuresOf_append]
        exact hfile.append hperm

end ParallelRun

end SmellRefactor

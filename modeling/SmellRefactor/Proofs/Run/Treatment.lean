import SmellRefactor.Proofs.Failure.Records
import SmellRefactor.Proofs.Strategy.Registry
import SmellRefactor.Run

/-!
# Treatments

A treatment is the story of one method in a run: the method as it was given, the attempts that were
made on it, and the method as they leave it.  This module shows that a sequential run gives every
method of every file a complete treatment, with an attempt for each eligible smell, whatever the
strategies answer, and that its journal and its index are those of the attempts in order.
-/

namespace SmellRefactor

/-! ## Smells taken off -/

namespace Method

/-- Takes every occurrence of some smells off the method; the other smells keep their order. -/
def without (m : Method) (smells : List CodeSmell) : Method :=
  { m with smells := m.smells.filter (· ∉ smells) }

@[simp]
theorem without_nil (m : Method) : m.without [] = m := by
  simp [without]

theorem without_append_singleton (m : Method) (smells : List CodeSmell) (smell : CodeSmell) :
    m.without (smells ++ [smell]) = (m.without smells).clear smell := by
  simp only [without, clear, List.filter_filter]
  congr 2
  funext s
  simp [and_comm]

theorem carries_without (m : Method) (smells : List CodeSmell) (smell : CodeSmell) :
    (m.without smells).carries smell = (m.carries smell && decide (smell ∉ smells)) := by
  rw [Bool.eq_iff_iff]
  simp [carries, without]

end Method

/-! ## Attempts and what they leave behind -/

/-- The method as an attempt leaves it. -/
def Attempt.left (a : Attempt) : Method :=
  if a.outcome.isResolved then a.method.clear a.smell else a.method

/-- An attempt as the record of a failure. -/
def Attempt.record (a : Attempt) : FailureIndex.Record := ⟨a.smell, a.path, a.method⟩

/-- The attempts that did not resolve their smell. -/
def failedAmong (attempts : List Attempt) : List Attempt :=
  attempts.filter fun a => !a.outcome.isResolved

/-- The records of the attempts that did not resolve their smell. -/
def failuresOf (attempts : List Attempt) : List FailureIndex.Record :=
  (failedAmong attempts).map Attempt.record

/-- The smells that attempts resolved. -/
def resolvedBy (attempts : List Attempt) : List CodeSmell :=
  (attempts.filter fun a => a.outcome.isResolved).map Attempt.smell

@[simp]
theorem failuresOf_append (xs ys : List Attempt) :
    failuresOf (xs ++ ys) = failuresOf xs ++ failuresOf ys := by
  simp [failuresOf, failedAmong]

theorem failuresOf_flatMap {α : Type} (f : α → List Attempt) (xs : List α) :
    failuresOf (xs.flatMap f) = xs.flatMap fun x => failuresOf (f x) := by
  simp only [failuresOf, failedAmong, List.filter_flatMap, List.map_flatMap]

theorem length_failuresOf (attempts : List Attempt) :
    (failuresOf attempts).length = (failedAmong attempts).length :=
  List.length_map _

/-- Among attempts at one path, the records under a smell are those of its failed attempts. -/
theorem filter_failuresOf_at {attempts : List Attempt} {own path : Path}
    (hown : ∀ a ∈ attempts, a.path = own) (hsame : compare path own = .eq) (smell : CodeSmell) :
    (failuresOf attempts).filter (FailureIndex.Record.isUnder smell.name path) =
      ((failedAmong attempts).filter fun a => a.smell = smell).map Attempt.record := by
  rw [failuresOf, List.filter_map]
  congr 1
  apply List.filter_congr
  intro a ha
  rw [Bool.eq_iff_iff, Function.comp_apply, FailureIndex.Record.isUnder_name_iff,
    decide_eq_true_eq, Attempt.record, hown a (List.mem_of_mem_filter ha)]
  exact and_iff_left hsame

/-- A strategy called for a smell of a method. -/
def Strategy.tryOn {σ : Type} (strategy : Strategy σ) (smell : CodeSmell) (path : Path)
    (m : Method) (world : σ) : Attempt :=
  ⟨path, m, smell, strategy.name, (strategy.attempt path m world).outcome⟩

/-- What attempts add to a journal: themselves, and the records of those that failed. -/
structure Journal.Adds {σ : Type} (attempts : List Attempt) (before after : Journal σ) : Prop where
  attempts_eq : after.attempts = before.attempts ++ attempts
  failures_eq : after.failures = before.failures.recordAll (failuresOf attempts)

namespace Journal

variable {σ : Type}

theorem adds_nil (j : Journal σ) : Adds [] j j :=
  ⟨by simp, rfl⟩

theorem adds_enter (j : Journal σ) (a : Attempt) (told : List Event) (world : σ) :
    Adds [a] j (j.enter a told world) := by
  refine ⟨rfl, ?_⟩
  by_cases h : a.outcome.isResolved = true
  · simp [enter, failuresOf, failedAmong, h]
  · simp [enter, failuresOf, failedAmong, h, FailureIndex.Builder.recordAll, Attempt.record]

theorem Adds.trans {xs ys : List Attempt} {j j' j'' : Journal σ} (h : Adds xs j j')
    (h' : Adds ys j' j'') : Adds (xs ++ ys) j j'' := by
  refine ⟨?_, ?_⟩
  · rw [h'.attempts_eq, h.attempts_eq, List.append_assoc]
  · rw [h'.failures_eq, h.failures_eq, failuresOf_append,
      FailureIndex.Builder.recordAll_append]

end Journal

/-! ## Treatments of one method -/

/-- A method as it was given, the attempts made on it in order, and the method as it is left. -/
structure Treatment where
  given : Method
  attempts : List Attempt
  left : Method

namespace Treatment

/-- The treatment in which nothing was tried yet. -/
def start (m : Method) : Treatment := ⟨m, [], m⟩

/-- The treatment with one more attempt. -/
def enter (t : Treatment) (a : Attempt) : Treatment := ⟨t.given, t.attempts ++ [a], a.left⟩

/-- The smells that were tried, in order. -/
def tried (t : Treatment) : List CodeSmell := t.attempts.map Attempt.smell

@[simp]
theorem given_enter (t : Treatment) (a : Attempt) : (t.enter a).given = t.given := rfl

@[simp]
theorem attempts_enter (t : Treatment) (a : Attempt) :
    (t.enter a).attempts = t.attempts ++ [a] := rfl

@[simp]
theorem left_enter (t : Treatment) (a : Attempt) : (t.enter a).left = a.left := rfl

@[simp]
theorem tried_enter (t : Treatment) (a : Attempt) : (t.enter a).tried = t.tried ++ [a.smell] := by
  simp [tried]

variable {σ : Type}

/-- Every attempt of the treatment is a call of a registered strategy, each on the method as the
attempt before it left it. -/
inductive MadeBy (r : Registry σ) (path : Path) : Treatment → Prop
  | start (m : Method) : MadeBy r path (start m)
  | enter {t : Treatment} {smell : CodeSmell} {strategy : Strategy σ} (ht : MadeBy r path t)
      (hfind : r.find? smell = some strategy) (world : σ) :
      MadeBy r path (t.enter (strategy.tryOn smell path t.left world))

/-- A treatment that tried every eligible smell of its method, in their order. -/
structure Complete (r : Registry σ) (path : Path) (t : Treatment) : Prop where
  madeBy : t.MadeBy r path
  tried_eq : t.tried = r.eligible t.given

/-- A treatment leaves its method without the resolved smells, and otherwise as it was given. -/
theorem MadeBy.left_eq {r : Registry σ} {path : Path} {t : Treatment} (h : t.MadeBy r path) :
    t.left = t.given.without (resolvedBy t.attempts) := by
  induction h with
  | start m => simp [Treatment.start, resolvedBy]
  | @enter t smell strategy _ _ world ih =>
      rw [left_enter, given_enter, attempts_enter, resolvedBy, List.filter_append, List.map_append,
        ← resolvedBy]
      by_cases hout : (strategy.attempt path t.left world).outcome.isResolved = true
      · simp [Attempt.left, Strategy.tryOn, hout, Method.without_append_singleton, ← ih]
      · simp [Attempt.left, Strategy.tryOn, hout, ← ih]

theorem MadeBy.path_eq {r : Registry σ} {path : Path} {t : Treatment} (h : t.MadeBy r path)
    {a : Attempt} (ha : a ∈ t.attempts) : a.path = path := by
  induction h with
  | start m => simp [Treatment.start] at ha
  | enter _ _ _ ih =>
      rcases List.mem_append.1 ha with ha | ha
      · exact ih ha
      · rw [List.mem_singleton.1 ha, Strategy.tryOn]

end Treatment

/-! ## Eligible smells -/

namespace Registry

variable {σ : Type}

theorem mem_eligible {r : Registry σ} {m : Method} {smell : CodeSmell} :
    smell ∈ r.eligible m ↔ (r.find? smell).isSome ∧ m.carries smell = true := by
  rw [eligible, List.mem_filter, mem_handled]

/-- Eligible smells stand in the order of smells, each once. -/
theorem eligible_pairwise (r : Registry σ) (m : Method) :
    (r.eligible m).Pairwise fun a b => compare a b = .lt :=
  r.handled_pairwise.filter _

theorem eligible_nodup (r : Registry σ) (m : Method) : (r.eligible m).Nodup :=
  r.handled_nodup.filter _

/-- Taking smells off a method takes just these off its eligible smells. -/
theorem eligible_without (r : Registry σ) (m : Method) (smells : List CodeSmell) :
    r.eligible (m.without smells) = (r.eligible m).filter (· ∉ smells) := by
  rw [eligible, eligible, List.filter_filter]
  congr 1
  funext smell
  rw [Method.carries_without, Bool.and_comm]

/-! ## The sequential run -/

theorem workOn_cons {r : Registry σ} {smell : CodeSmell} {strategy : Strategy σ}
    (hfind : r.find? smell = some strategy) (path : Path) (smells : List CodeSmell) (m : Method)
    (j : Journal σ) :
    r.workOn path (smell :: smells) m j =
      r.workOn path smells (strategy.tryOn smell path m j.world).left
        (j.enter (strategy.tryOn smell path m j.world) (strategy.attempt path m j.world).events
          (strategy.attempt path m j.world).world) := by
  rw [workOn, hfind]
  rfl

/-- Working on handled smells continues a treatment by an attempt for each of them. -/
theorem workOn_treatment {r : Registry σ} {path : Path} {smells : List CodeSmell}
    (hhandled : ∀ smell ∈ smells, (r.find? smell).isSome) {t : Treatment} (ht : t.MadeBy r path)
    (j : Journal σ) :
    ∃ (t' : Treatment) (attempts : List Attempt),
      t'.MadeBy r path ∧ t'.given = t.given ∧ t'.tried = t.tried ++ smells ∧
        t'.attempts = t.attempts ++ attempts ∧ (r.workOn path smells t.left j).1 = t'.left ∧
        Journal.Adds attempts j (r.workOn path smells t.left j).2 := by
  induction smells generalizing t j with
  | nil => exact ⟨t, [], ht, rfl, by simp, by simp, rfl, j.adds_nil⟩
  | cons smell smells ih =>
      obtain ⟨strategy, hfind⟩ := Option.isSome_iff_exists.1 (hhandled smell (by simp))
      let a := strategy.tryOn smell path t.left j.world
      let j' := j.enter a (strategy.attempt path t.left j.world).events
        (strategy.attempt path t.left j.world).world
      have hrest : ∀ s ∈ smells, (r.find? s).isSome := fun s hs => hhandled s (by simp [hs])
      obtain ⟨t', attempts, hmade, hgiven, htried, hattempts, hleft, hadds⟩ :=
        ih hrest (ht.enter hfind j.world) j'
      rw [workOn_cons hfind]
      refine ⟨t', a :: attempts, hmade, hgiven, ?_, ?_, hleft, ?_⟩
      · simpa [Strategy.tryOn] using htried
      · simpa [a] using hattempts
      · exact (j.adds_enter a _ _).trans hadds

/-- Working on a method gives it a complete treatment. -/
theorem workOnMethod_treatment (r : Registry σ) (path : Path) (m : Method) (j : Journal σ) :
    ∃ t : Treatment, t.Complete r path ∧ t.given = m ∧ (r.workOnMethod path m j).1 = t.left ∧
      Journal.Adds t.attempts j (r.workOnMethod path m j).2 := by
  have hhandled : ∀ smell ∈ r.eligible m, (r.find? smell).isSome :=
    fun smell h => (mem_eligible.1 h).1
  obtain ⟨t, attempts, hmade, hgiven, htried, hattempts, hleft, hadds⟩ :=
    workOn_treatment hhandled (Treatment.MadeBy.start m) j
  have hgiven' : t.given = m := hgiven
  refine ⟨t, ⟨hmade, ?_⟩, hgiven', hleft, ?_⟩
  · rw [htried, hgiven']
    rfl
  · have hall : t.attempts = attempts := hattempts
    rw [hall]
    exact hadds

/-- Working on the methods of a file gives each of them a complete treatment. -/
theorem workOnMethods_treatments (r : Registry σ) (path : Path) (methods : List Method)
    (j : Journal σ) :
    ∃ treatments : List Treatment,
      (∀ t ∈ treatments, t.Complete r path) ∧ treatments.map Treatment.given = methods ∧
        (r.workOnMethods path methods j).1 = treatments.map Treatment.left ∧
        Journal.Adds (treatments.flatMap Treatment.attempts) j
          (r.workOnMethods path methods j).2 := by
  induction methods generalizing j with
  | nil => exact ⟨[], by simp, rfl, rfl, j.adds_nil⟩
  | cons m methods ih =>
      obtain ⟨t, hcomplete, hgiven, hleft, hadds⟩ := r.workOnMethod_treatment path m j
      obtain ⟨treatments, hall, hgivens, hlefts, haddsRest⟩ := ih (r.workOnMethod path m j).2
      refine ⟨t :: treatments, ?_, ?_, ?_, ?_⟩
      · simpa using ⟨hcomplete, hall⟩
      · rw [List.map_cons, hgiven, hgivens]
      · rw [List.map_cons, ← hleft, ← hlefts]
        rfl
      · exact hadds.trans haddsRest

end Registry

/-! ## Treatments of all files -/

/-- The treatments of a run, file by file. -/
abbrev Casebook := List (Path × List Treatment)

namespace Casebook

/-- The methods of all files as they were given. -/
def given (book : Casebook) : List (Path × List Method) :=
  book.map fun file => (file.1, file.2.map Treatment.given)

/-- The methods of all files as they are left. -/
def left (book : Casebook) : List (Path × List Method) :=
  book.map fun file => (file.1, file.2.map Treatment.left)

/-- All attempts, file after file and method after method. -/
def attempts (book : Casebook) : List Attempt :=
  book.flatMap fun file => file.2.flatMap Treatment.attempts

/-- Whether every method got a complete treatment at the path of its own file. -/
def Complete {σ : Type} (r : Registry σ) (book : Casebook) : Prop :=
  ∀ file ∈ book, ∀ t ∈ file.2, t.Complete r file.1

theorem Complete.path_eq {σ : Type} {r : Registry σ} {book : Casebook} (h : book.Complete r)
    {file : Path × List Treatment} (hfile : file ∈ book) {a : Attempt}
    (ha : a ∈ file.2.flatMap Treatment.attempts) : a.path = file.1 := by
  obtain ⟨t, ht, hat⟩ := List.mem_flatMap.1 ha
  exact (h file hfile t ht).madeBy.path_eq hat

theorem distinct_of_given {book : Casebook} {w : Workload} (hgiven : book.given = w.files) :
    DistinctPaths book := by
  have hpaths : book.map Prod.fst = w.files.map Prod.fst := by
    rw [← hgiven, given, List.map_map]
    rfl
  exact Workload.distinct_of_paths_eq hpaths w.distinct

end Casebook

open FailureIndex

/-- The failures under a name and a path are those of the one file with this path. -/
theorem filter_failuresOf_files {ν : Type} {files : List (Path × ν)}
    (hdistinct : DistinctPaths files) {attemptsOf : Path × ν → List Attempt}
    (hpath : ∀ file ∈ files, ∀ a ∈ attemptsOf file, a.path = file.1) (name : String) (path : Path) :
    (failuresOf (files.flatMap attemptsOf)).filter (Record.isUnder name path) =
      ((Entries.pairAt? path files).map fun file =>
        (failuresOf (attemptsOf file)).filter (Record.isUnder name path)).getD [] := by
  rw [failuresOf_flatMap, List.filter_flatMap]
  apply Entries.flatMap_eq_of_pairAt? hdistinct
  intro file hfile hne
  rw [List.filter_eq_nil_iff]
  intro record hrecord hunder
  obtain ⟨a, ha, rfl⟩ := List.mem_map.1 hrecord
  have hsame : a.path = file.1 := hpath file hfile a (List.mem_of_mem_filter ha)
  exact hne (hsame ▸ (Record.isUnder_iff.1 hunder).2)

/-- Working on files gives every method a complete treatment, and the failures join those that were
recorded before. -/
theorem Registry.workOnFiles_casebook {σ : Type} (r : Registry σ)
    (files : List (Path × List Method)) (prior : List Record) (j : Journal σ) :
    ∃ book : Casebook, book.Complete r ∧ book.given = files ∧
      (r.workOnFiles files (ofRecords prior) j).1 = book.left ∧
      (r.workOnFiles files (ofRecords prior) j).2.1 =
        ofRecords (prior ++ failuresOf book.attempts) ∧
      (r.workOnFiles files (ofRecords prior) j).2.2.attempts = j.attempts ++ book.attempts := by
  induction files generalizing prior j with
  | nil =>
      refine ⟨[], by simp [Casebook.Complete], rfl, rfl, ?_, ?_⟩
      · simp [workOnFiles, Casebook.attempts, failuresOf, failedAmong]
      · simp [workOnFiles, Casebook.attempts]
  | cons file files ih =>
      obtain ⟨path, methods⟩ := file
      obtain ⟨treatments, hcomplete, hgiven, hleft, hadds⟩ :=
        r.workOnMethods_treatments path methods j.turnPage
      have hindex : (ofRecords prior).merge
            (r.workOnMethods path methods j.turnPage).2.failures.finish =
          ofRecords (prior ++ failuresOf (treatments.flatMap Treatment.attempts)) := by
        rw [hadds.failures_eq, ofRecords_append]
        rfl
      obtain ⟨book, hbook, hgivens, hlefts, hindices, hattempts⟩ :=
        ih (prior ++ failuresOf (treatments.flatMap Treatment.attempts))
          (r.workOnMethods path methods j.turnPage).2
      simp only [Registry.workOnFiles, hindex]
      refine ⟨(path, treatments) :: book, ?_, ?_, ?_, ?_, ?_⟩
      · intro file hfile
        rcases List.mem_cons.1 hfile with rfl | hfile
        · exact hcomplete
        · exact hbook file hfile
      · simp [Casebook.given, hgiven, ← hgivens]
      · rw [hleft, hlefts]
        rfl
      · rw [hindices]
        simp [Casebook.attempts]
      · rw [hattempts, hadds.attempts_eq]
        simp [Casebook.attempts, Journal.turnPage]

namespace Refactoring

variable {σ : Type}

/-- A sequential run on one file. -/
theorem refactor_treatments (r : Refactoring σ) {path : Path} (hpath : path.isEmpty = false)
    (methods : List Method) (world : σ) :
    ∃ treatments : List Treatment,
      (∀ t ∈ treatments, t.Complete r.registry path) ∧
        treatments.map Treatment.given = methods ∧
        (r.refactor path methods world).answer =
          .ok (ofRecords (failuresOf (treatments.flatMap Treatment.attempts))) ∧
        (r.refactor path methods world).left = treatments.map Treatment.left ∧
        (r.refactor path methods world).attempts = treatments.flatMap Treatment.attempts := by
  obtain ⟨treatments, hcomplete, hgiven, hleft, hadds⟩ :=
    r.registry.workOnMethods_treatments path methods (.start world)
  refine ⟨treatments, hcomplete, hgiven, ?_, ?_, ?_⟩
  · simp only [refactor, hpath, Bool.false_eq_true, if_false, hadds.failures_eq]
    rfl
  · simpa only [refactor, hpath, Bool.false_eq_true, if_false] using hleft
  · simp only [refactor, hpath, Bool.false_eq_true, if_false, hadds.attempts_eq]
    rfl

/-- A sequential run on a workload. -/
theorem refactorAll_casebook (r : Refactoring σ) {w : Workload}
    (hw : ∀ file ∈ w.files, file.1.isEmpty = false) (world : σ) :
    ∃ book : Casebook, book.Complete r.registry ∧ book.given = w.files ∧
      (r.refactorAll w world).answer = .ok (ofRecords (failuresOf book.attempts)) ∧
      (r.refactorAll w world).left.files = book.left ∧
      (r.refactorAll w world).attempts = book.attempts := by
  obtain ⟨book, hcomplete, hgiven, hleft, hindex, hattempts⟩ :=
    r.registry.workOnFiles_casebook w.files [] (.start world)
  have hnone : (w.files.any fun file => file.1.isEmpty) = false := by
    simpa using hw
  refine ⟨book, hcomplete, hgiven, ?_, ?_, ?_⟩
  · simp only [refactorAll, hnone, Bool.false_eq_true, if_false]
    exact congrArg Except.ok hindex
  · simp only [refactorAll, hnone, Bool.false_eq_true, if_false]
    exact hleft
  · simp only [refactorAll, hnone, Bool.false_eq_true, if_false]
    exact hattempts

end Refactoring

end SmellRefactor

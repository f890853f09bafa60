import SmellRefactor.Proofs.Report.Balance

/-!
# What strategies may rely on

A strategy is called only for a method that carries its smell, at the path of the file that the
method is in.  In a treatment each handled smell of the method gets its turn once, in the order of
smells, and nothing but handled smells is ever taken off.  All this holds whatever the strategies
answer, also where their answers depend on everything that happened before.
-/

namespace SmellRefactor

variable {σ : Type}

/-! ## The attempts of a treatment -/

theorem resolvedBy_subset (attempts : List Attempt) :
    resolvedBy attempts ⊆ attempts.map Attempt.smell :=
  List.map_subset _ (List.filter_subset_self _)

namespace Treatment

variable {r : Registry σ} {path : Path} {t : Treatment}

/-- Every attempt is a call on the method without the smells that were resolved before it. -/
theorem MadeBy.exists_call (h : t.MadeBy r path) {earlier later : List Attempt} {a : Attempt}
    (hsplit : t.attempts = earlier ++ a :: later) :
    ∃ strategy world, r.find? a.smell = some strategy ∧
      a = strategy.tryOn a.smell path (t.given.without (resolvedBy earlier)) world := by
  induction h generalizing earlier a later with
  | start m => simp [Treatment.start] at hsplit
  | @enter t smell strategy ht hfind world ih =>
      rw [attempts_enter] at hsplit
      -- either the attempt is the last one, or it was made before
      rcases List.eq_nil_or_concat later with rfl | ⟨later, last, rfl⟩
      · obtain ⟨rfl, hlast⟩ := List.append_inj' hsplit rfl
        obtain rfl : strategy.tryOn smell path t.left world = a := by simpa using hlast
        refine ⟨strategy, world, hfind, ?_⟩
        rw [given_enter, ← ht.left_eq]
        rfl
      · rw [List.concat_eq_append, ← List.cons_append, ← List.append_assoc] at hsplit
        exact ih (List.append_inj' hsplit rfl).1

/-- What holds of a treatment at any time.  Its attempts are calls of the strategies for their
smells, on a method that carries the smell at this moment; the smells come in ascending order; and
what is left differs from what was given by handled smells that are gone. -/
structure Orderly (r : Registry σ) (path : Path) (t : Treatment) : Prop where
  call : ∀ earlier a later, t.attempts = earlier ++ a :: later →
    a.method.carries a.smell = true ∧
      ∃ strategy world, r.find? a.smell = some strategy ∧
        a = strategy.tryOn a.smell path (t.given.without (resolvedBy earlier)) world
  ascending : t.tried.Pairwise fun s s' => compare s s' = .lt
  eligible : ∀ smell ∈ t.tried, (r.find? smell).isSome ∧ t.given.carries smell = true
  name_eq : t.left.name = t.given.name
  smells_eq : ∃ gone : List CodeSmell, (∀ smell ∈ gone, (r.find? smell).isSome) ∧
    t.left.smells = t.given.smells.filter (· ∉ gone)
  unhandled : (t.left.smells.filter fun smell => (r.find? smell).isNone) =
    t.given.smells.filter fun smell => (r.find? smell).isNone

/-- What holds of a treatment that has come to its end: besides, every handled smell of the method
was tried once, and no other. -/
structure Lawful (r : Registry σ) (path : Path) (t : Treatment) : Prop extends
    t.Orderly r path where
  once : ∀ smell, t.tried.count smell =
    if (r.find? smell).isSome ∧ t.given.carries smell = true then 1 else 0

theorem tried_of_split {earlier later : List Attempt} {a : Attempt}
    (hsplit : t.attempts = earlier ++ a :: later) :
    t.tried = earlier.map Attempt.smell ++ a.smell :: later.map Attempt.smell := by
  rw [tried, hsplit, List.map_append, List.map_cons]

/-- A treatment made by strategies along the eligible smells is orderly. -/
theorem MadeBy.orderly (h : t.MadeBy r path) {pending : List CodeSmell}
    (hplan : t.tried ++ pending = r.eligible t.given) : t.Orderly r path := by
  have hascending : t.tried.Pairwise fun s s' => compare s s' = .lt := by
    have hall := r.eligible_pairwise t.given
    rw [← hplan] at hall
    exact (List.pairwise_append.1 hall).1
  have heligible : ∀ smell ∈ t.tried, (r.find? smell).isSome ∧ t.given.carries smell = true := by
    intro smell hsmell
    apply Registry.mem_eligible.1
    rw [← hplan]
    exact List.mem_append_left _ hsmell
  have hgone : ∀ smell ∈ resolvedBy t.attempts, (r.find? smell).isSome :=
    fun smell hsmell => (heligible smell (resolvedBy_subset t.attempts hsmell)).1
  refine ⟨?_, hascending, heligible, ?_, ⟨resolvedBy t.attempts, hgone, ?_⟩, ?_⟩
  · intro earlier a later hsplit
    obtain ⟨strategy, world, hfind, ha⟩ := h.exists_call hsplit
    refine ⟨?_, strategy, world, hfind, ha⟩
    have htried := tried_of_split hsplit
    have hcarries : t.given.carries a.smell = true := (heligible a.smell (by simp [htried])).2
    -- the smell was not resolved before, as each smell has one turn only
    have hpresent : a.smell ∉ resolvedBy earlier := by
      intro hmem
      have hearlier : a.smell ∈ earlier.map Attempt.smell := resolvedBy_subset earlier hmem
      rw [htried, List.pairwise_append] at hascending
      have hlt := hascending.2.2 a.smell hearlier a.smell (by simp)
      simp at hlt
    have hmethod : a.method = t.given.without (resolvedBy earlier) := by
      rw [ha]
      rfl
    rw [hmethod, Method.carries_without, hcarries, decide_eq_true hpresent]
    rfl
  · rw [h.left_eq]
    rfl
  · rw [h.left_eq]
    rfl
  · rw [h.left_eq, Method.without, List.filter_filter]
    apply List.filter_congr
    intro smell _
    by_cases hmem : smell ∈ resolvedBy t.attempts
    · simpa [hmem] using hgone smell hmem
    · simp [hmem]

/-- A complete treatment tries every handled smell of its method once. -/
theorem Complete.lawful (h : t.Complete r path) : t.Lawful r path := by
  have hplan : t.tried ++ [] = r.eligible t.given := by rw [List.append_nil, h.tried_eq]
  refine ⟨h.madeBy.orderly hplan, ?_⟩
  intro smell
  rw [h.tried_eq, (r.eligible_nodup t.given).count]
  simp only [Registry.mem_eligible]

end Treatment

/-! ## Whole runs -/

namespace Casebook

/-- The paths of files with the names of their methods. -/
def outline (files : List (Path × List Method)) : List (Path × List String) :=
  files.map fun file => (file.1, file.2.map Method.name)

/-- Whether all treatments are orderly, each at the path of its own file. -/
def Orderly (r : Registry σ) (book : Casebook) : Prop :=
  ∀ file ∈ book, ∀ t ∈ file.2, t.Orderly r file.1

/-- Whether all treatments are lawful, each at the path of its own file. -/
def Lawful (r : Registry σ) (book : Casebook) : Prop :=
  ∀ file ∈ book, ∀ t ∈ file.2, t.Lawful r file.1

/-- Orderly treatments keep files and methods in their places. -/
theorem Orderly.outline_eq {r : Registry σ} {book : Casebook} (h : book.Orderly r) :
    outline book.left = outline book.given := by
  simp only [outline, left, given, List.map_map]
  apply List.map_congr_left
  intro file hfile
  have hnames : ∀ t ∈ file.2,
      (Method.name ∘ Treatment.left) t = (Method.name ∘ Treatment.given) t :=
    fun t ht => (h file hfile t ht).name_eq
  simp [List.map_congr_left hnames]

theorem Complete.lawful {r : Registry σ} {book : Casebook} (h : book.Complete r) :
    book.Lawful r :=
  fun file hfile t ht => (h file hfile t ht).lawful

theorem Lawful.orderly {r : Registry σ} {book : Casebook} (h : book.Lawful r) :
    book.Orderly r :=
  fun file hfile t ht => (h file hfile t ht).toOrderly

end Casebook

theorem ParallelRun.Sound.orderly {r : Registry σ} {s : ParallelRun σ} (h : s.Sound r) :
    s.casebook.Orderly r := by
  intro entry hentry t ht
  obtain ⟨file, hfile, rfl⟩ := List.mem_map.1 hentry
  obtain ⟨worker, hworker, rfl⟩ := List.mem_map.1 ht
  have hsound := (h file hfile).workers worker hworker
  exact hsound.madeBy.orderly hsound.plan

/-- Strategies stand under their own smells, and every run keeps to the rules: a sequential run to
its end, and a parallel run in every state that it reaches, with every eligible smell tried once
when it has ended. -/
theorem run_keeps_rules (r : Refactoring σ) {w : Workload}
    (hw : ∀ file ∈ w.files, file.1.isEmpty = false) (world : σ) :
    (∀ strategies, r.registry = .ofList strategies → ∀ smell strategy,
      r.registry.find? smell = some strategy → strategy.smell = smell) ∧
    (∃ book : Casebook, book.given = w.files ∧
      (r.refactorAll w world).attempts = book.attempts ∧
      (r.refactorAll w world).left.files = book.left ∧ book.Lawful r.registry ∧
      Casebook.outline (r.refactorAll w world).left.files = Casebook.outline w.files) ∧
    ∀ s, Relation.ReflTransGen (ParallelRun.Step r.registry)
        (ParallelRun.opening r.registry w world) s →
      s.casebook.given = w.files ∧ s.casebook.Orderly r.registry ∧
      Casebook.outline s.methods = Casebook.outline w.files ∧
      (∃ s', Relation.ReflTransGen (ParallelRun.Step r.registry) s s' ∧ s'.Finished) ∧
      (s.Finished → s.casebook.Lawful r.registry) := by
  refine ⟨?_, ?_, ?_⟩
  · intro strategies hregistry smell strategy hfind
    rw [hregistry] at hfind
    exact (Registry.of_find?_ofList hfind).2
  · obtain ⟨book, hcomplete, hgiven, -, hleft, hattempts⟩ := r.refactorAll_casebook hw world
    refine ⟨book, hgiven, hattempts, hleft, hcomplete.lawful, ?_⟩
    rw [hleft, hcomplete.lawful.orderly.outline_eq, hgiven]
  · intro s hreach
    obtain ⟨hsound, hgiven⟩ := ParallelRun.sound_of_reachable hreach
    refine ⟨hgiven, hsound.orderly, ?_, hsound.exists_finished, ?_⟩
    · rw [ParallelRun.methods, hsound.orderly.outline_eq, hgiven]
    · exact fun hdone => (hsound.complete hdone).lawful

/-- The answers depend on the number of calls here.  The first method repeats a smell and carries
one that nobody handles. -/
theorem run_keeps_rules_everySecond :
    let r : Refactoring Nat :=
      ⟨.ofList [everySecond .dataClump, everySecond .longMethod], .standard⟩
    let draw : Method := ⟨"draw", [.dataClump, .largeClass, .longMethod, .dataClump]⟩
    let path : Path := ⟨"a.java"⟩
    let w : Workload := .ofList [(path, [draw, ⟨"run", []⟩])]
    (∀ file ∈ w.files, file.1.isEmpty = false) ∧
      ∃ book : Casebook, book.given = w.files ∧ book.Lawful r.registry ∧
        (r.refactorAll w 0).attempts = book.attempts ∧
        book.attempts.map Attempt.smell = [.longMethod, .dataClump] ∧
        book.left = [(path, [⟨"draw", [.largeClass, .longMethod]⟩, ⟨"run", []⟩])] := by
  intro r draw path w
  have hw : ∀ file ∈ w.files, file.1.isEmpty = false := by decide
  obtain ⟨-, ⟨book, hgiven, hattempts, hleft, hlawful, -⟩, -⟩ := run_keeps_rules r hw 0
  refine ⟨hw, book, hgiven, hlawful, hattempts, ?_, ?_⟩
  · rw [← hattempts]
    decide
  · rw [← hleft]
    decide

end SmellRefactor

import Mathlib.Data.List.Count
import SmellRefactor.Proofs.Failure.Reduction
import SmellRefactor.Proofs.Run.Workers
import SmellRefactor.Request.Refactor

/-!
# The report of a run balances

The report of a run combines four counts that come from different places: the attempts counted
before the run, the attempts made, the failures in the index, and the smells that are left on the
methods.  For every method the smells whose attempts fail are exactly the eligible smells that it
keeps; all the counts agree because of this one fact, whatever the strategies answer and in whatever
order the attempts on different methods are made.
-/

namespace SmellRefactor

variable {σ : Type}

/-! ## What a complete treatment leaves -/

namespace Treatment

variable {r : Registry σ} {path : Path} {t : Treatment}

/-- An attempt of a complete treatment is the only one for its smell. -/
theorem Complete.mem_resolvedBy_iff (h : t.Complete r path) {a : Attempt}
    (ha : a ∈ t.attempts) : a.smell ∈ resolvedBy t.attempts ↔ a.outcome.isResolved = true := by
  have hnodup : (t.attempts.map Attempt.smell).Nodup := by
    have htried : t.attempts.map Attempt.smell = r.eligible t.given := h.tried_eq
    rw [htried]
    exact r.eligible_nodup t.given
  constructor
  · intro hmem
    obtain ⟨b, hb, hsmell⟩ := List.mem_map.1 hmem
    obtain ⟨hbt, hresolved⟩ := List.mem_filter.1 hb
    have hba : b = a := List.inj_on_of_nodup_map hnodup hbt ha hsmell
    rwa [hba] at hresolved
  · intro hresolved
    exact List.mem_map_of_mem (List.mem_filter.2 ⟨ha, hresolved⟩)

/-- The smells whose attempts failed are the eligible smells of the method as it is left. -/
theorem Complete.failed_smells (h : t.Complete r path) :
    (failedAmong t.attempts).map Attempt.smell = r.eligible t.left := by
  rw [h.madeBy.left_eq, r.eligible_without, ← h.tried_eq, tried, List.filter_map, failedAmong]
  congr 1
  apply List.filter_congr
  intro a ha
  rw [Bool.eq_iff_iff, Function.comp_apply, decide_eq_true_eq, h.mem_resolvedBy_iff ha]
  simp

/-- A handled smell fails once on a method that is left with it, and never on another one. -/
theorem Complete.length_failed (h : t.Complete r path) {smell : CodeSmell}
    (hhandled : (r.find? smell).isSome) :
    ((failedAmong t.attempts).filter fun a => a.smell = smell).length =
      if t.left.carries smell then 1 else 0 := by
  have hcount : ((failedAmong t.attempts).filter fun a => a.smell = smell).length =
      (r.eligible t.left).count smell := by
    rw [← h.failed_smells, List.count_eq_length_filter, List.filter_map, List.length_map]
    congr 2
  have hmem : smell ∈ r.eligible t.left ↔ t.left.carries smell = true := by
    rw [Registry.mem_eligible, and_iff_right hhandled]
  rw [hcount, (r.eligible_nodup t.left).count]
  simp only [hmem]

end Treatment

/-! ## Counting over all files -/

theorem length_filter_eq_tally {α : Type u} (p : α → Bool) (xs : List α) :
    (xs.filter p).length = tally (fun x => if p x then 1 else 0) xs := by
  induction xs with
  | nil => rfl
  | cons x rest ih =>
      rw [List.filter_cons, tally_cons, ← ih]
      split
      · rw [List.length_cons, Nat.add_comm]
      · rw [Nat.zero_add]

namespace Casebook

variable {r : Registry σ} {book : Casebook}

/-- As many attempts are made as eligible smells were counted beforehand. -/
theorem Complete.length_attempts (h : book.Complete r) {w : Workload}
    (hgiven : book.given = w.files) :
    book.attempts.length = r.countAttempts w := by
  rw [Registry.countAttempts, ← hgiven, given, tally_map, attempts, length_flatMap_eq_tally]
  apply tally_congr
  intro file hfile
  rw [tally_map, length_flatMap_eq_tally]
  apply tally_congr
  intro t ht
  rw [← (h file hfile t ht).tried_eq, Treatment.tried, List.length_map]

/-- As many attempts fail as eligible smells are left. -/
theorem Complete.length_failed (h : book.Complete r) {w : Workload}
    (hleft : w.files = book.left) :
    (failedAmong book.attempts).length = r.countAttempts w := by
  rw [Registry.countAttempts, hleft, left, tally_map, attempts, failedAmong, List.filter_flatMap,
    length_flatMap_eq_tally]
  apply tally_congr
  intro file hfile
  rw [tally_map, List.filter_flatMap, length_flatMap_eq_tally]
  apply tally_congr
  intro t ht
  rw [← (h file hfile t ht).failed_smells, List.length_map, failedAmong]

theorem find?_left (book : Casebook) (path : Path) :
    Entries.find? path book.left =
      (Entries.pairAt? path book).map fun file => file.2.map Treatment.left := by
  induction book with
  | nil => rfl
  | cons file book ih =>
      by_cases heq : compare path file.1 = .eq
      · rw [Entries.pairAt?_cons_of_eq heq, left, List.map_cons, Entries.find?, if_pos heq]
        rfl
      · rw [Entries.pairAt?_cons_of_ne heq, ← ih, left, List.map_cons, Entries.find?, if_neg heq]
        rfl

/-- At every path a handled smell fails as often as methods of the file there are left with it. -/
theorem Complete.length_failed_at (h : book.Complete r) (hdistinct : DistinctPaths book)
    (path : Path) {smell : CodeSmell} (hhandled : (r.find? smell).isSome) :
    ((failuresOf book.attempts).filter
        (FailureIndex.Record.isUnder smell.name path)).length =
      (((Entries.find? path book.left).getD []).filter fun m => m.carries smell).length := by
  have hpath : ∀ file ∈ book, ∀ a ∈ file.2.flatMap Treatment.attempts, a.path = file.1 :=
    fun _ hfile _ ha => h.path_eq hfile ha
  rw [attempts, filter_failuresOf_files hdistinct hpath, find?_left]
  cases hfile : Entries.pairAt? path book with
  | none => rfl
  | some file =>
      have hmem : file ∈ book := Entries.mem_of_pairAt?_eq_some hfile
      have hsame : compare path file.1 = .eq := Entries.compare_of_pairAt?_eq_some hfile
      simp only [Option.map_some, Option.getD_some]
      rw [failuresOf_flatMap, List.filter_flatMap, length_flatMap_eq_tally,
        length_filter_eq_tally, tally_map]
      apply tally_congr
      intro t ht
      have hcomplete := h file hmem t ht
      rw [filter_failuresOf_at (fun a ha => hcomplete.madeBy.path_eq ha) hsame, List.length_map,
        hcomplete.length_failed hhandled]

end Casebook

/-! ## The report -/

namespace Report

/-- The methods at a path that a report lists as unresolved are those that carry a smell. -/
theorem getD_find?_unresolvedOf (w : Workload) (path : Path) :
    ((unresolvedOf w).find? path).getD [] =
      ((Entries.find? path w.files).getD []).filter Method.isSmelly := by
  have hentry : (unresolvedOf w).pairAt? path =
      (Entries.pairAt? path w.files).bind fun file =>
        (if (file.2.filter Method.isSmelly).isEmpty then none
          else some (file.2.filter Method.isSmelly)).map fun methods => (file.1, methods) := by
    rw [unresolvedOf, OrderedMap.pairAt?_filterMap, Workload.ordered,
      OrderedMap.pairAt?_ofList w.distinct]
  rw [OrderedMap.find?_eq_map_pairAt?, hentry, Entries.find?_eq_map_pairAt?]
  cases Entries.pairAt? path w.files with
  | none => rfl
  | some file =>
      cases hsmelly : file.2.filter Method.isSmelly with
      | nil =>
          simp only [Option.bind_some, Option.map_some, Option.getD_some, hsmelly]
          rfl
      | cons m rest =>
          simp only [Option.bind_some, Option.map_some, Option.getD_some, hsmelly]
          rfl

theorem filter_carries_filter_isSmelly (methods : List Method) (smell : CodeSmell) :
    (methods.filter Method.isSmelly).filter (fun m => m.carries smell) =
      methods.filter fun m => m.carries smell := by
  rw [List.filter_filter]
  apply List.filter_congr
  intro m _
  rw [Bool.and_eq_left_iff_imp]
  intro hcarries
  rw [Method.carries, List.contains_iff_mem] at hcarries
  simp [Method.isSmelly, List.ne_nil_of_mem hcarries]

end Report

/-- The report on a run: attempts are counted beforehand, and the methods as the run leaves them. -/
def Refactoring.report (r : Refactoring σ) (w : Workload) (world : σ) : Except Error Report :=
  (r.refactorAll w world).answer.map
    (Report.ofRun (r.registry.countAttempts w) (r.refactorAll w world).left)

/-- A request that delivers a report delivers the report on its run. -/
theorem report_of_refactorWorkload {s : Settings} {r : Refactoring FileTree} {w : Workload}
    {told : List Event} {t : FileTree} {report : Report}
    (h : (refactorWorkload s r w told t).answer = .ok report) : r.report w t = .ok report := by
  rw [refactorWorkload] at h
  rw [Refactoring.report]
  cases hanswer : (r.refactorAll w t).answer with
  | error error => simp [hanswer] at h
  | ok index =>
      simp only [hanswer] at h
      rw [Except.map]
      cases hdelivered : (deliver s (Report.ofRun (r.registry.countAttempts w)
          (r.refactorAll w t).left index) (r.refactorAll w t).world).1 with
      | error error => simp [hdelivered, Except.map] at h
      | ok text => simpa [hdelivered, Except.map] using h

/-- Whether the numbers of a report balance: it counts the attempts that were made and those that
resolved their smell, the two differ by the failures, the failures are the handled smells that are
left, and so they are for each single path and smell. -/
structure Report.Balances (report : Report) (r : Registry σ) (attempts : List Attempt)
    (left : Workload) : Prop where
  attempted : report.summary.attempted = attempts.length
  resolved : report.summary.resolved = (attempts.filter fun a => a.outcome.isResolved).length
  split : report.summary.attempted = report.summary.resolved + report.summary.failed
  failed : report.summary.failed = r.countAttempts left
  failing : report.hasFailures = true ↔ 0 < report.summary.failed
  listed : ∀ path smell, (r.find? smell).isSome →
    ((report.failures.find? smell.name path).getD []).length =
      (((report.unresolved.find? path).getD []).filter fun m => m.carries smell).length

/-- The report on complete treatments balances, in whatever order the failures were recorded. -/
theorem Casebook.Complete.balances {r : Registry σ} {book : Casebook} (h : book.Complete r)
    {w left : Workload} (hgiven : book.given = w.files) (hleft : left.files = book.left)
    {records : List FailureIndex.Record} (hrecords : records.Perm (failuresOf book.attempts)) :
    (Report.ofRun (r.countAttempts w) left (FailureIndex.ofRecords records)).Balances r
      book.attempts left := by
  have hattempted : r.countAttempts w = book.attempts.length :=
    (h.length_attempts hgiven).symm
  have htotal : (FailureIndex.ofRecords records).total = (failedAmong book.attempts).length := by
    rw [FailureIndex.total_ofRecords, hrecords.length_eq, failuresOf, List.length_map]
  have hsplit : book.attempts.length =
      (book.attempts.filter fun a => a.outcome.isResolved).length +
        (failedAmong book.attempts).length :=
    List.length_eq_length_filter_add _
  constructor
  · exact hattempted
  · change r.countAttempts w - (FailureIndex.ofRecords records).total = _
    omega
  · change r.countAttempts w = r.countAttempts w - (FailureIndex.ofRecords records).total +
      (FailureIndex.ofRecords records).total
    omega
  · exact htotal.trans (h.length_failed hleft)
  · change (!(FailureIndex.ofRecords records).isEmpty) = true ↔
      0 < (FailureIndex.ofRecords records).total
    rw [(FailureIndex.canonical_ofRecords _).total_pos_iff, Bool.not_eq_true']
  · intro path smell hhandled
    change (((FailureIndex.ofRecords records).find? smell.name path).getD []).length =
      ((((Report.unresolvedOf left).find? path).getD []).filter fun m => m.carries smell).length
    rw [FailureIndex.getD_find?_ofRecords, List.length_map, (hrecords.filter _).length_eq,
      Report.getD_find?_unresolvedOf, Report.filter_carries_filter_isSmelly, hleft]
    exact h.length_failed_at (Casebook.distinct_of_given hgiven) path hhandled

/-- Whatever the strategies answer, the report on a run of a workload without empty paths balances,
and so does the report on every parallel run that is finished, however its steps followed each
other and its indices were merged. -/
theorem report_balances (r : Refactoring σ) {w : Workload}
    (hw : ∀ file ∈ w.files, file.1.isEmpty = false) (world : σ) :
    (∃ report : Report, r.report w world = .ok report ∧
      report.Balances r.registry (r.refactorAll w world).attempts (r.refactorAll w world).left) ∧
    (∀ s : ParallelRun σ,
      Relation.ReflTransGen (ParallelRun.Step r.registry) (.opening r.registry w world) s →
      s.Finished → ∀ tree : FailureIndex.Reduction, tree.leaves = s.indices →
      ∀ left : Workload, left.files = s.methods →
        (Report.ofRun (r.registry.countAttempts w) left tree.merged).Balances r.registry
          s.casebook.attempts left) := by
  constructor
  · obtain ⟨book, hcomplete, hgiven, hanswer, hleft, hattempts⟩ :=
      r.refactorAll_casebook hw world
    refine ⟨Report.ofRun (r.registry.countAttempts w) (r.refactorAll w world).left
      (.ofRecords (failuresOf book.attempts)), ?_, ?_⟩
    · rw [Refactoring.report, hanswer]
      rfl
    · rw [hattempts]
      exact hcomplete.balances hgiven hleft (.refl _)
  · intro s hreach hdone tree hleaves left hleft
    obtain ⟨hsound, hgiven⟩ := ParallelRun.sound_of_reachable hreach
    obtain ⟨parts, hparts, hperm⟩ := hsound.exists_records
    rw [tree.merged_eq_ofRecords (hleaves.trans hparts)]
    exact (hsound.complete hdone).balances hgiven hleft hperm

/-- A strategy that resolves its smell at every second call, counted over all strategies. -/
def everySecond (smell : CodeSmell) : Strategy Nat where
  smell := smell
  name := smell.label
  attempt := fun _ _ calls =>
    ⟨if calls % 2 = 0 then .unresolved else .resolved, [], calls + 1⟩

theorem report_balances_everySecond :
    let r : Refactoring Nat :=
      ⟨.ofList [everySecond .dataClump, everySecond .longMethod], .standard⟩
    let w : Workload :=
      .ofList [(⟨"a.java"⟩, [⟨"draw", [.dataClump, .longMethod, .dataClump]⟩, ⟨"run", []⟩]),
        (⟨"b.java"⟩, [⟨"read", [.longMethod, .largeClass]⟩])]
    (∀ file ∈ w.files, file.1.isEmpty = false) ∧
      ∃ report : Report, r.report w 0 = .ok report ∧ report.summary.attempted = 3 ∧
        report.summary.resolved = 1 ∧ report.summary.failed = 2 ∧ report.hasFailures = true ∧
        ((report.failures.find? "Long Method" ⟨"b.java"⟩).getD []).length =
          (((report.unresolved.find? ⟨"b.java"⟩).getD []).filter
            fun m => m.carries .longMethod).length := by
  intro r w
  have hw : ∀ file ∈ w.files, file.1.isEmpty = false := by decide
  obtain ⟨⟨report, hreport, hbalances⟩, -⟩ := report_balances r hw 0
  have hattempts : (r.refactorAll w 0).attempts.length = 3 := by decide
  have hresolving : ((r.refactorAll w 0).attempts.filter fun a =>
      a.outcome.isResolved).length = 1 := by
    decide
  have hattempted : report.summary.attempted = 3 := hbalances.attempted.trans hattempts
  have hresolved : report.summary.resolved = 1 := hbalances.resolved.trans hresolving
  have hsplit := hbalances.split
  have hfailed : report.summary.failed = 2 := by omega
  have hfailing : report.hasFailures = true := hbalances.failing.2 (by omega)
  exact ⟨hw, report, hreport, hattempted, hresolved, hfailed, hfailing,
    hbalances.listed ⟨"b.java"⟩ .longMethod (by decide)⟩

end SmellRefactor

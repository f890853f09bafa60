import SmellRefactor.Proofs.Report.Balance
import SmellRefactor.Proofs.Run.Interleaving
import SmellRefactor.Proofs.Run.SeparateFiles

/-!
# Reports can be reproduced

The files of a workload stand in an order that carries no meaning and that differs from one start
of the program to the next.  Where verdicts determine how attempts end, the report on a sequential
run is the same in every order of the files, and so is its text in every format.  Reports on
parallel runs agree up to the order of the failed methods at one path.
-/

namespace SmellRefactor

variable {σ : Type}

/-! ## Quantities that do not depend on the order of files -/

theorem tally_perm {α : Type u} {count : α → Nat} {xs ys : List α} (h : xs.Perm ys) :
    tally count xs = tally count ys := by
  induction h with
  | nil => rfl
  | cons x _ ih => rw [tally_cons, tally_cons, ih]
  | swap x y rest => simp only [tally_cons]; omega
  | trans _ _ ih ih' => exact ih.trans ih'

theorem Registry.countAttempts_perm (r : Registry σ) {w w' : Workload}
    (h : w.files.Perm w'.files) : r.countAttempts w = r.countAttempts w' :=
  tally_perm h

namespace Report

theorem unresolvedOf_perm {left left' : Workload} (h : left.files.Perm left'.files) :
    unresolvedOf left = unresolvedOf left' := by
  rw [unresolvedOf, unresolvedOf, Workload.ordered, Workload.ordered,
    OrderedMap.ofList_perm left.distinct left'.distinct h]

/-- A report does not depend on the order of the files that are left. -/
theorem ofRun_perm (attempted : Nat) {left left' : Workload} (h : left.files.Perm left'.files)
    (failures : FailureIndex) : ofRun attempted left failures = ofRun attempted left' failures := by
  have hsize : left.size = left'.size := h.length_eq
  have hmethods : left.methodCount = left'.methodCount := tally_perm h
  rw [ofRun, ofRun, hsize, hmethods, unresolvedOf_perm h]

/-- The same numbers and the same unresolved methods, and the same failures up to the order of the
methods in one list. -/
structure SameUpToOrder (report other : Report) : Prop where
  summary : report.summary = other.summary
  unresolved : report.unresolved = other.unresolved
  failures : report.failures.SameUpToOrder other.failures

/-- Reports whose failures agree up to order are the same up to order. -/
theorem sameUpToOrder_ofRun (attempted : Nat) (left : Workload) {failures others : FailureIndex}
    (htotal : failures.total = others.total) (h : failures.SameUpToOrder others) :
    (ofRun attempted left failures).SameUpToOrder (ofRun attempted left others) := by
  refine ⟨?_, rfl, h⟩
  simp only [ofRun, htotal]

end Report

/-! ## Sequential runs -/

namespace Refactoring

open FailureIndex

/-- The text of the report on a run. -/
def text (r : Refactoring σ) (w : Workload) (world : σ) (format : Report.Format)
    (style : Report.Style) : Except Error String :=
  (r.report w world).map fun report => report.render format style

/-- The report on a run, as the verdicts determine it. -/
theorem report_described (r : Refactoring σ) {v : Verdicts} (hv : r.registry.Follows v)
    {w : Workload} (hw : ∀ file ∈ w.files, file.1.isEmpty = false) (world : σ) :
    ∃ left : Workload,
      (left.files = w.files.map fun file =>
        (file.1, file.2.map fun m => (r.registry.described v file.1 m).left)) ∧
      r.report w world =
        .ok (.ofRun (r.registry.countAttempts w) left (r.registry.expectedIndex v w.files)) := by
  obtain ⟨hanswer, hleft⟩ := r.refactorAll_described hv hw world
  refine ⟨_, hleft, ?_⟩
  rw [report, hanswer]
  rfl

/-- Runs that take the same files in different orders end in the same report. -/
theorem exists_report_perm (r : Refactoring σ) {v : Verdicts} (hv : r.registry.Follows v)
    {w w' : Workload} (hperm : w'.files.Perm w.files)
    (hw : ∀ file ∈ w.files, file.1.isEmpty = false) (world world' : σ) :
    ∃ report, r.report w world = .ok report ∧ r.report w' world' = .ok report := by
  have hw' : ∀ file ∈ w'.files, file.1.isEmpty = false :=
    fun file hfile => hw file (hperm.subset hfile)
  obtain ⟨left, hleft, hreport⟩ := r.report_described hv hw world
  obtain ⟨left', hleft', hreport'⟩ := r.report_described hv hw' world'
  have hlefts : left'.files.Perm left.files := by
    rw [hleft, hleft']
    exact hperm.map _
  refine ⟨_, hreport, ?_⟩
  rw [hreport', r.registry.countAttempts_perm hperm, Report.ofRun_perm _ hlefts,
    Registry.expectedIndex_perm w.distinct hperm]

end Refactoring

/-! ## Parallel runs -/

namespace ParallelRun

open FailureIndex

/-- The reports on parallel runs of a workload: the steps of a run may follow each other in any
order until it is finished, and the indices of the files may be merged in any grouping. -/
inductive Reports (r : Registry σ) (w : Workload) : Report → Prop
  | finished {world : σ} {s : ParallelRun σ} {left : Workload} {tree : Reduction}
      (hreach : Relation.ReflTransGen (Step r) (opening r w world) s) (hdone : s.Finished)
      (hleft : left.files = s.methods) (htree : tree.leaves = s.indices) :
      Reports r w (.ofRun (r.countAttempts w) left tree.merged)

/-- Every parallel run can be brought to its end and reported on. -/
theorem exists_reports (r : Registry σ) (w : Workload) (world : σ) :
    ∃ report, Reports r w report := by
  obtain ⟨s, hreach, hdone⟩ := (opening_sound r w world).exists_finished
  obtain ⟨-, hgiven⟩ := sound_of_reachable hreach
  have hpaths : s.methods.map Prod.fst = w.files.map Prod.fst := by
    rw [← hgiven, methods, Casebook.left, Casebook.given, List.map_map, List.map_map]
    rfl
  have hleft : (w.withFiles s.methods hpaths).files = s.methods := rfl
  exact ⟨_, .finished hreach hdone hleft (Reduction.leaves_ofList s.indices)⟩

/-- The report on a parallel run, as the verdicts determine it up to the order of the records. -/
theorem Reports.described {r : Registry σ} {v : Verdicts} (hv : r.Follows v) {w : Workload}
    {report : Report} (h : Reports r w report) :
    ∃ (left : Workload) (records : List Record),
      (left.files = w.files.map fun file =>
        (file.1, file.2.map fun m => (r.described v file.1 m).left)) ∧
      records.Perm (failuresOf (r.expectedAll v w.files)) ∧
      (∀ record ∈ records, ∀ record' ∈ records,
        compare record.path record'.path = .eq → record.path = record'.path) ∧
      report = .ofRun (r.countAttempts w) left (ofRecords records) := by
  cases h with
  | @finished world s left tree hreach hdone hleft htree =>
      obtain ⟨hsound, hgiven⟩ := sound_of_reachable hreach
      have hcomplete := hsound.complete hdone
      have hattempts := hcomplete.attempts_eq hv
      obtain ⟨parts, hparts, hperm⟩ := hsound.exists_records
      have hspelling := hcomplete.spelling (Casebook.distinct_of_given hgiven)
      refine ⟨left, parts.flatten, ?_, ?_, ?_, ?_⟩
      · rw [hleft, methods, hcomplete.left_eq hv, hgiven]
      · rwa [← hgiven, ← hattempts]
      · intro record hrecord record' hrecord'
        exact hspelling record (hperm.subset hrecord) record' (hperm.subset hrecord')
      · rw [Reduction.merged_eq_ofRecords _ (htree.trans hparts)]

/-- Reports on parallel runs that take the same files in different orders are the same up to
order. -/
theorem Reports.sameUpToOrder {r : Registry σ} {v : Verdicts} (hv : r.Follows v) {w w' : Workload}
    (hperm : w'.files.Perm w.files) {report report' : Report} (h : Reports r w report)
    (h' : Reports r w' report') : report.SameUpToOrder report' := by
  obtain ⟨left, records, hleft, hrecords, hspelling, rfl⟩ := h.described hv
  obtain ⟨left', records', hleft', hrecords', -, rfl⟩ := h'.described hv
  have hlefts : left'.files.Perm left.files := by
    rw [hleft, hleft']
    exact hperm.map _
  have hattempts : (r.expectedAll v w'.files).Perm (r.expectedAll v w.files) :=
    hperm.flatMap_right _
  have hfailures : (failuresOf (r.expectedAll v w'.files)).Perm
      (failuresOf (r.expectedAll v w.files)) :=
    (hattempts.filter _).map _
  have hsame : records.Perm records' := (hrecords.trans hfailures.symm).trans hrecords'.symm
  rw [r.countAttempts_perm hperm, Report.ofRun_perm _ hlefts]
  apply Report.sameUpToOrder_ofRun
  · rw [total_ofRecords, total_ofRecords, hsame.length_eq]
  · exact sameUpToOrder_ofRecords hsame hspelling

end ParallelRun

/-- In whatever order the files of a workload stand, the report on a sequential run has one and the
same text in every format; the reports on parallel runs, of which there is at least one, have the
same numbers and unresolved methods, and failures that agree up to the order of the methods in one
list. -/
theorem report_reproducible (r : Refactoring σ) {v : Verdicts} (hv : r.registry.Follows v)
    {w w' : Workload} (hperm : w'.files.Perm w.files)
    (hw : ∀ file ∈ w.files, file.1.isEmpty = false) (world world' : σ) :
    (∀ format style, ∃ text, r.text w world format style = .ok text ∧
      r.text w' world' format style = .ok text) ∧
    (∃ report, ParallelRun.Reports r.registry w report) ∧
    ∀ report report', ParallelRun.Reports r.registry w report →
      ParallelRun.Reports r.registry w' report' → report.SameUpToOrder report' := by
  refine ⟨?_, ParallelRun.exists_reports r.registry w world,
    fun _ _ h h' => h.sameUpToOrder hv hperm h'⟩
  intro format style
  obtain ⟨report, hreport, hreport'⟩ := r.exists_report_perm hv hperm hw world world'
  refine ⟨report.render format style, ?_, ?_⟩
  · rw [Refactoring.text, hreport]
    rfl
  · rw [Refactoring.text, hreport']
    rfl

theorem report_reproducible_swapped :
    let r : Refactoring Unit := ⟨pickyVerdicts.registry [.deepNesting, .longMethod], .standard⟩
    let near : Path × List Method := (⟨"src/a.java"⟩, [⟨"load", [.deepNesting]⟩])
    let far : Path × List Method := (⟨"src/b.java"⟩, [⟨"save", [.longMethod, .deepNesting]⟩])
    let w : Workload := ⟨[near, far], List.pairwise_pair.2 (by decide)⟩
    let w' : Workload := ⟨[far, near], List.pairwise_pair.2 (by decide)⟩
    let shown := "Refactoring Report\n" ++
      "  2 files, 2 methods, 3 attempted\n  resolved: 1   failed: 2\n\n" ++
      "Deep Nesting src/a.java\n  ✗ load\n\nDeep Nesting src/b.java\n  ✗ save\n"
    (r.registry.Follows pickyVerdicts ∧ w'.files.Perm w.files ∧
        ∀ file ∈ w.files, file.1.isEmpty = false) ∧
      (∃ text, r.text w () .json .plain = .ok text ∧ r.text w' () .json .plain = .ok text) ∧
      r.text w' () .terminal .plain = .ok shown ∧
      ∃ report, ParallelRun.Reports r.registry w report ∧
        ∀ report', ParallelRun.Reports r.registry w' report' → report.SameUpToOrder report' := by
  intro r near far w w' shown
  have hfollows : r.registry.Follows pickyVerdicts := pickyVerdicts.registry_follows _
  have hpaths : ∀ file ∈ w.files, file.1.isEmpty = false := by decide
  have hswap : w'.files.Perm w.files := .swap near far []
  obtain ⟨htext, ⟨report, hreport⟩, hsame⟩ :=
    report_reproducible r hfollows hswap hpaths () ()
  obtain ⟨text, hfirst, hsecond⟩ := htext .terminal .plain
  have hshown : r.text w () .terminal .plain = .ok shown := by decide +kernel
  refine ⟨⟨hfollows, hswap, hpaths⟩, htext .json .plain, ?_, report, hreport,
    fun report' hreport' => hsame report report' hreport hreport'⟩
  rw [hsecond, ← hfirst, hshown]

end SmellRefactor

import SmellRefactor.Proofs.Failure.Reduction
import SmellRefactor.Proofs.Run.Reference
import SmellRefactor.Proofs.Run.Workers

/-!
# Interleavings agree with the sequential run

Where verdicts determine how attempts end, the order of the steps of a parallel run does not show
in its result.  Every finished run gave the same treatments to all methods as the sequential run,
and its indices are made of the same records; only the order of the methods inside a list of the
index may differ.
-/

namespace SmellRefactor

variable {σ : Type}

/-- Files at one path of a list with distinct paths are one and the same. -/
theorem DistinctPaths.eq_of_compare_eq {ν : Type} {files : List (Path × ν)}
    (h : DistinctPaths files) {file other : Path × ν} (hfile : file ∈ files)
    (hother : other ∈ files) (heq : compare file.1 other.1 = .eq) : file = other := by
  have hsymm : Std.Symm fun a b : Path × ν => compare a.1 b.1 ≠ .eq :=
    ⟨fun _ _ hab hba => hab (Std.OrientedCmp.eq_symm hba)⟩
  by_contra hne
  exact h.forall hfile hother hne heq

/-- The failures of a run on a workload spell every path in one way. -/
theorem Casebook.Complete.spelling {r : Registry σ} {book : Casebook} (h : book.Complete r)
    (hdistinct : DistinctPaths book) :
    ∀ record ∈ failuresOf book.attempts, ∀ record' ∈ failuresOf book.attempts,
      compare record.path record'.path = .eq → record.path = record'.path := by
  have hfile : ∀ record ∈ failuresOf book.attempts, ∃ file ∈ book, file.1 = record.path := by
    intro record hrecord
    obtain ⟨a, ha, rfl⟩ := List.mem_map.1 hrecord
    obtain ⟨file, hfile, hat⟩ := List.mem_flatMap.1 (List.mem_of_mem_filter ha)
    exact ⟨file, hfile, (h.path_eq hfile hat).symm⟩
  intro record hrecord record' hrecord' heq
  obtain ⟨file, hmem, hpath⟩ := hfile record hrecord
  obtain ⟨file', hmem', hpath'⟩ := hfile record' hrecord'
  rw [← hpath, ← hpath'] at heq ⊢
  exact congrArg Prod.fst (hdistinct.eq_of_compare_eq hmem hmem' heq)

namespace ParallelRun

open FailureIndex

/-- Every state that a parallel run reaches can be brought to an end, and at the end, however the
steps followed each other, all methods are as the sequential run leaves them.  However the indices
of the files are grouped, their merge knows the same smells and paths as the index of the
sequential run, lists the same failed methods up to their order, and counts as many. -/
theorem finished_eq_sequential (r : Refactoring σ) {v : Verdicts} (hv : r.registry.Follows v)
    {w : Workload} (hw : ∀ file ∈ w.files, file.1.isEmpty = false) (world world' : σ)
    {s : ParallelRun σ}
    (hreach : Relation.ReflTransGen (Step r.registry) (opening r.registry w world) s) :
    (∃ finish, Relation.ReflTransGen (Step r.registry) s finish ∧ finish.Finished) ∧
      (s.Finished →
        s.methods = (r.refactorAll w world').left.files ∧
        ∃ index : FailureIndex, (r.refactorAll w world').answer = .ok index ∧
          ∀ tree : Reduction, tree.leaves = s.indices →
            tree.merged.SameUpToOrder index ∧ tree.merged.total = index.total) := by
  obtain ⟨hsound, hgiven⟩ := sound_of_reachable hreach
  obtain ⟨finish, hrun, hend⟩ := hsound.exists_finished
  refine ⟨⟨finish, hrun, hend⟩, ?_⟩
  intro hdone
  have hcomplete := hsound.complete hdone
  have hattempts := hcomplete.attempts_eq hv
  rw [hgiven] at hattempts
  obtain ⟨hanswer, hleft⟩ := r.refactorAll_described hv hw world'
  refine ⟨?_, _, hanswer, ?_⟩
  · rw [methods, hcomplete.left_eq hv, hgiven, hleft]
  · intro tree hleaves
    obtain ⟨parts, hparts, hperm⟩ := hsound.exists_records
    have hspelling := hcomplete.spelling (Casebook.distinct_of_given hgiven)
    rw [hattempts] at hperm hspelling
    have hmerged : tree.merged = ofRecords parts.flatten :=
      tree.merged_eq_ofRecords (hleaves.trans hparts)
    constructor
    · rw [hmerged]
      apply sameUpToOrder_ofRecords hperm
      intro record hrecord record' hrecord'
      exact hspelling record (hperm.subset hrecord) record' (hperm.subset hrecord')
    · rw [hmerged, total_ofRecords, total_ofRecords, hperm.length_eq]

/-- The worker of the second method makes its attempts first here, so that the two methods swap
places in the list of the index. -/
theorem finished_eq_sequential_swapped :
    let r : Refactoring Unit := ⟨pickyVerdicts.registry [.deepNesting, .longMethod], .standard⟩
    let load : Method := ⟨"load", [.deepNesting]⟩
    let save : Method := ⟨"save", [.longMethod, .deepNesting]⟩
    let saved : Method := ⟨"save", [.deepNesting]⟩
    let path : Path := ⟨"a.java"⟩
    let w : Workload := ⟨[(path, [load, save])], List.pairwise_singleton _ _⟩
    (r.registry.Follows pickyVerdicts ∧ ∀ file ∈ w.files, file.1.isEmpty = false) ∧
      ∃ s : ParallelRun Unit,
        Relation.ReflTransGen (Step r.registry) (opening r.registry w ()) s ∧ s.Finished ∧
          s.methods = [(path, [load, saved])] ∧
          ∃ (tree : Reduction) (index : FailureIndex), tree.leaves = s.indices ∧
            (r.refactorAll w ()).answer = .ok index ∧ tree.merged.SameUpToOrder index ∧
            tree.merged.find? "Deep Nesting" path = some [saved, load] ∧
            index.find? "Deep Nesting" path = some [load, saved] := by
  intro r load save saved path w
  have hfollows : r.registry.Follows pickyVerdicts := pickyVerdicts.registry_follows _
  have hpaths : ∀ file ∈ w.files, file.1.isEmpty = false := by decide
  let nesting : Strategy Unit := pickyVerdicts.strategy .deepNesting
  let long : Strategy Unit := pickyVerdicts.strategy .longMethod
  let resolved : Attempt := long.tryOn .longMethod path save ()
  let failed : Attempt := nesting.tryOn .deepNesting path saved ()
  let failures : FailureIndex.Builder := .record .empty .deepNesting path saved
  have hnesting : r.registry.find? .deepNesting = some nesting := rfl
  have hlong : r.registry.find? .longMethod = some long := rfl
  have hfirst := @Step.resolve Unit r.registry [] [] path [⟨.start load, [.deepNesting]⟩] [] save
    save [] .longMethod [.deepNesting] .empty () long hlong rfl
  have hsecond := @Step.fail Unit r.registry [] [] path [⟨.start load, [.deepNesting]⟩] [] save
    saved [resolved] .deepNesting [] .empty () nesting hnesting rfl
  have hthird := @Step.fail Unit r.registry [] [] path []
    [⟨⟨save, [resolved, failed], saved⟩, []⟩] load load [] .deepNesting [] failures () nesting
    hnesting rfl
  let finish : ParallelRun Unit :=
    ⟨[⟨path, [⟨⟨load, [nesting.tryOn .deepNesting path load ()], load⟩, []⟩,
      ⟨⟨save, [resolved, failed], saved⟩, []⟩], failures.record .deepNesting path load⟩], ()⟩
  have hreach : Relation.ReflTransGen (Step r.registry) (opening r.registry w ()) finish :=
    ((Relation.ReflTransGen.single hfirst).tail hsecond).tail hthird
  have hdone : finish.Finished := by decide
  obtain ⟨-, hend⟩ := finished_eq_sequential r hfollows hpaths () () hreach
  obtain ⟨-, index, hanswer, hsame⟩ := hend hdone
  let tree : Reduction := .pair .nothing (.single (failures.record .deepNesting path load).finish)
  have hindex : (r.refactorAll w ()).answer.toOption.bind (·.find? "Deep Nesting" path) =
      some [load, saved] := by
    decide
  rw [hanswer] at hindex
  exact ⟨⟨hfollows, hpaths⟩, finish, hreach, hdone, rfl, tree, index, rfl, hanswer,
    (hsame tree rfl).1, by decide, hindex⟩

end ParallelRun

end SmellRefactor

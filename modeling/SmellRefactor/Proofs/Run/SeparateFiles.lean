import SmellRefactor.Proofs.Failure.Reduction
import SmellRefactor.Proofs.Run.Reference

/-!
# Files are worked on separately

The files of a workload have different paths, so no two of them meet under one key of the index.
Where verdicts determine how attempts end, a run on the workload therefore does to every file what
a run on this file alone does, and its index is the merge of the single indices in any order and
grouping.
-/

namespace SmellRefactor

variable {σ : Type}

namespace Registry

open FailureIndex

/-- The index of a run on some files, as the verdicts determine it. -/
def expectedIndex (r : Registry σ) (v : Verdicts) (files : List (Path × List Method)) :
    FailureIndex :=
  ofRecords (failuresOf (r.expectedAll v files))

variable {r : Registry σ} {v : Verdicts} {files order : List (Path × List Method)}

theorem expectedAll_singleton (file : Path × List Method) :
    r.expectedAll v [file] = file.2.flatMap (r.expected v file.1) :=
  List.flatMap_singleton ..

/-- Under every key the failures of several files are those of one file alone. -/
theorem filter_expectedAll (hdistinct : DistinctPaths files) (name : String) (path : Path) :
    (failuresOf (r.expectedAll v files)).filter (Record.isUnder name path) =
      ((Entries.pairAt? path files).map fun file =>
        (failuresOf (r.expectedAll v [file])).filter (Record.isUnder name path)).getD [] := by
  have hpath : ∀ file ∈ files, ∀ a ∈ file.2.flatMap (r.expected v file.1), a.path = file.1 :=
    fun _ _ _ ha => path_of_mem_flatMap_expected ha
  simp only [expectedAll_singleton]
  exact filter_failuresOf_files hdistinct hpath name path

/-- The index of several files does not depend on their order. -/
theorem expectedIndex_perm (hdistinct : DistinctPaths files) (h : order.Perm files) :
    r.expectedIndex v order = r.expectedIndex v files := by
  have hsymm : ∀ {a b : Path × List Method},
      compare a.1 b.1 ≠ .eq → compare b.1 a.1 ≠ .eq :=
    fun hab hba => hab (Std.OrientedCmp.eq_symm hba)
  have hdistinct' : DistinctPaths order := (h.pairwise_iff hsymm).2 hdistinct
  apply ofRecords_congr
  intro name path
  rw [filter_expectedAll hdistinct', filter_expectedAll hdistinct,
    Entries.pairAt?_eq_of_perm hdistinct' hdistinct h]

/-- At the path of a file the index of several files lists what the index of this file lists. -/
theorem find?_expectedIndex (hdistinct : DistinctPaths files) {file : Path × List Method}
    (hfile : file ∈ files) {path : Path} (hpath : compare path file.1 = .eq) (name : String) :
    (r.expectedIndex v files).find? name path = (r.expectedIndex v [file]).find? name path := by
  have hpair : Entries.pairAt? path files = some file :=
    (Entries.pairAt?_eq_some_iff hdistinct).2 ⟨hfile, hpath⟩
  rw [expectedIndex, find?_ofRecords, filter_expectedAll hdistinct, hpair, expectedIndex,
    find?_ofRecords]
  rfl

/-- The index of several files lists nothing but smells at the paths of these files. -/
theorem exists_file_of_find?_expectedIndex {name : String} {path : Path}
    (h : ((r.expectedIndex v files).find? name path).isSome) :
    ∃ smell, CodeSmell.name smell = name ∧ ∃ file ∈ files, compare path file.1 = .eq := by
  rw [expectedIndex, find?_ofRecords, Option.isSome_map] at h
  obtain ⟨entry, hentry⟩ := Option.isSome_iff_exists.1 h
  obtain ⟨record, hrecord, -⟩ := Option.map_eq_some_iff.1 hentry
  obtain ⟨hfailed, hunder⟩ := List.mem_filter.1 (List.mem_of_head? hrecord)
  obtain ⟨hname, hpath⟩ := Record.isUnder_iff.1 hunder
  obtain ⟨a, ha, rfl⟩ := List.mem_map.1 hfailed
  obtain ⟨file, hfile, hmade⟩ := List.mem_flatMap.1 (List.mem_of_mem_filter ha)
  refine ⟨a.smell, hname, file, hfile, ?_⟩
  rw [← path_of_mem_flatMap_expected hmade]
  exact hpath

/-- However the indices of single files are grouped, their merge is the index of all files. -/
theorem merged_eq_expectedIndex {tree : Reduction}
    (h : tree.leaves = files.map fun file => r.expectedIndex v [file]) :
    tree.merged = r.expectedIndex v files := by
  let parts := files.map fun file => failuresOf (r.expectedAll v [file])
  have hparts : tree.leaves = parts.map ofRecords := by
    rw [h, List.map_map]
    rfl
  have hflatten : parts.flatten = failuresOf (r.expectedAll v files) := by
    simp only [parts, expectedAll_singleton]
    rw [← List.flatMap_def, ← failuresOf_flatMap, expectedAll]
  rw [tree.merged_eq_ofRecords hparts, hflatten, expectedIndex]

end Registry

namespace Refactoring

open FailureIndex

/-- In whatever order a run takes the files of a workload, it leaves the methods of each file as a
run on this file alone leaves them, and gives one and the same index: that of the single indices
merged in any order and any grouping, which at the path of each file agrees with its single
index. -/
theorem refactorAll_eq_singles (r : Refactoring σ) {v : Verdicts} (hv : r.registry.Follows v)
    {w : Workload} (hw : ∀ file ∈ w.files, file.1.isEmpty = false) :
    ∃ (single : Path × List Method → FailureIndex) (index : FailureIndex),
      (∀ file ∈ w.files, ∀ world,
        (r.refactor file.1 file.2 world).answer = .ok (single file)) ∧
      (∀ w' : Workload, w'.files.Perm w.files → ∀ world,
        (r.refactorAll w' world).answer = .ok index ∧
        ∀ alone : Path × List Method → σ, (r.refactorAll w' world).left.files =
          w'.files.map fun file => (file.1, (r.refactor file.1 file.2 (alone file)).left)) ∧
      (∀ order : List (Path × List Method), order.Perm w.files →
        ∀ tree : Reduction, tree.leaves = order.map single → tree.merged = index) ∧
      (∀ file ∈ w.files, ∀ (smell : CodeSmell) (path : Path), compare path file.1 = .eq →
        index.find? smell.name path = (single file).find? smell.name path) := by
  refine ⟨fun file => r.registry.expectedIndex v [file], r.registry.expectedIndex v w.files,
    ?_, ?_, ?_, ?_⟩
  · intro file hfile world
    obtain ⟨hanswer, -, -⟩ := r.refactor_described hv (hw file hfile) file.2 world
    rw [hanswer, ← Registry.expectedAll_singleton]
    rfl
  · intro w' hperm world
    have hw' : ∀ file ∈ w'.files, file.1.isEmpty = false :=
      fun file hfile => hw file (hperm.subset hfile)
    obtain ⟨hanswer, hleft⟩ := r.refactorAll_described hv hw' world
    constructor
    · rw [hanswer, ← Registry.expectedIndex_perm w.distinct hperm]
      rfl
    · intro alone
      rw [hleft]
      apply List.map_congr_left
      intro file hfile
      obtain ⟨-, hsingle, -⟩ := r.refactor_described hv (hw' file hfile) file.2 (alone file)
      rw [hsingle]
  · intro order hperm tree hleaves
    rw [Registry.merged_eq_expectedIndex hleaves, Registry.expectedIndex_perm w.distinct hperm]
  · intro file hfile smell path hpath
    exact Registry.find?_expectedIndex w.distinct hfile hpath smell.name

theorem refactorAll_eq_singles_swapped :
    let r : Refactoring Unit := ⟨pickyVerdicts.registry [.deepNesting, .longMethod], .standard⟩
    let load : Method := ⟨"load", [.deepNesting]⟩
    let save : Method := ⟨"save", [.longMethod, .deepNesting]⟩
    let near : Path × List Method := (⟨"src/a.java"⟩, [load])
    let far : Path × List Method := (⟨"src/b.java"⟩, [save, load])
    let w : Workload := ⟨[near, far], List.pairwise_pair.2 (by decide)⟩
    let w' : Workload := ⟨[far, near], List.pairwise_pair.2 (by decide)⟩
    (r.registry.Follows pickyVerdicts ∧ ∀ file ∈ w.files, file.1.isEmpty = false) ∧
      ∃ one other index : FailureIndex,
        (r.refactor near.1 near.2 ()).answer = .ok one ∧
        (r.refactor far.1 far.2 ()).answer = .ok other ∧
        (r.refactorAll w ()).answer = .ok index ∧ (r.refactorAll w' ()).answer = .ok index ∧
        one.merge other = index ∧ other.merge one = index ∧
        index.find? "Deep Nesting" ⟨"src//a.java"⟩ = some [load] := by
  intro r load save near far w w'
  have hfollows : r.registry.Follows pickyVerdicts := pickyVerdicts.registry_follows _
  have hpaths : ∀ file ∈ w.files, file.1.isEmpty = false := by decide
  have hswap : w'.files.Perm w.files := .swap near far []
  obtain ⟨single, index, hsingle, hall, hmerge, hfind⟩ :=
    refactorAll_eq_singles r hfollows hpaths
  have hnear : (r.refactor near.1 near.2 ()).answer = .ok (single near) :=
    hsingle near (by simp [w]) ()
  have hlisted : (r.refactor near.1 near.2 ()).answer.toOption.bind
      (·.find? "Deep Nesting" ⟨"src//a.java"⟩) = some [load] := by
    decide
  rw [hnear] at hlisted
  refine ⟨⟨hfollows, hpaths⟩, single near, single far, index, hnear,
    hsingle far (by simp [w]) (), (hall w (.refl _) ()).1, (hall w' hswap ()).1, ?_, ?_, ?_⟩
  · exact hmerge w.files (.refl _) (.pair (.single (single near)) (.single (single far))) rfl
  · exact hmerge w'.files hswap (.pair (.single (single far)) (.single (single near))) rfl
  · exact (hfind near (by simp [w]) .deepNesting ⟨"src//a.java"⟩ (by decide)).trans hlisted

end Refactoring

end SmellRefactor

import SmellRefactor.Proofs.Run.Tools

/-!
# Runs repeated

A tool outside of the program is told the path and the name of a method and nothing of its smells,
so that it ends the same way whenever it is asked again.  With such strategies a run settles all
that it can: the next run on the methods that it leaves tries just the smells that stayed, resolves
none of them, and leaves every method as it is.  The indices of the two runs can still differ, since
the first run may list a method with a smell that it takes off later; they have the same keys and
the same method names, and from the second run on the index stays as it is.
-/

namespace SmellRefactor

variable {σ : Type}

/-- Verdicts that depend on nothing but the smell, the path and the name of the method. -/
def Verdicts.byName (answer : CodeSmell → Path → String → Outcome) : Verdicts :=
  fun smell path m => answer smell path m.name

/-- How the tools of a configuration end depends on the smell, the path and the name of the method
alone. -/
theorem Configuration.follows_byName {c : Configuration} {launch : Launcher σ} {r : Registry σ}
    {answers : Answers} (h : c.registry launch = .ok r) (hanswers : launch.Gives answers) :
    r.Follows (.byName fun smell path name => c.verdicts answers smell path (.ofName name)) := by
  have hverdicts : c.verdicts answers =
      .byName fun smell path name => c.verdicts answers smell path (.ofName name) := by
    funext smell path m
    rw [Verdicts.byName, verdicts, verdicts]
    rfl
  rw [← hverdicts]
  exact follows_verdicts h hanswers

theorem Workload.ext_files {w w' : Workload} (h : w.files = w'.files) : w = w' := by
  cases w
  cases w'
  cases h
  rfl

namespace Registry

open FailureIndex

variable {r : Registry σ} {answer : CodeSmell → Path → String → Outcome} {path : Path} {m : Method}

/-! ## Methods that a run leaves -/

/-- The method without the smells that attempts resolve for its name. -/
def settle (r : Registry σ) (answer : CodeSmell → Path → String → Outcome) (path : Path)
    (m : Method) : Method :=
  m.without ((r.agenda m).filter fun smell => (answer smell path m.name).isResolved)

/-- Whether no attempt resolves a smell of the method. -/
def Settled (r : Registry σ) (answer : CodeSmell → Path → String → Outcome) (path : Path)
    (m : Method) : Prop :=
  ∀ smell ∈ r.agenda m, (answer smell path m.name).isResolved = false

@[simp]
theorem settle_name : (r.settle answer path m).name = m.name := rfl

theorem agenda_settle : r.agenda (r.settle answer path m) =
    (r.agenda m).filter fun smell => !(answer smell path m.name).isResolved := by
  rw [← eligible_eq_agenda, settle, eligible_without, eligible_eq_agenda]
  apply List.filter_congr
  intro smell hsmell
  simp [hsmell]

theorem settled_settle : r.Settled answer path (r.settle answer path m) := by
  intro smell hsmell
  rw [agenda_settle] at hsmell
  simpa using (List.mem_filter.1 hsmell).2

theorem Settled.settle_eq (h : r.Settled answer path m) : r.settle answer path m = m := by
  have hnone : ((r.agenda m).filter fun smell => (answer smell path m.name).isResolved) = [] := by
    rw [List.filter_eq_nil_iff]
    intro smell hsmell
    simp [h smell hsmell]
  rw [settle, hnone, Method.without_nil]

theorem settle_settle :
    r.settle answer path (r.settle answer path m) = r.settle answer path m :=
  settled_settle.settle_eq

theorem Settled.passed_eq (h : r.Settled answer path m) (smell : CodeSmell) :
    r.passed (.byName answer) path m smell = m := by
  have hnone : (((r.agenda m).takeWhile (· ≠ smell)).filter fun s =>
      (Verdicts.byName answer s path (r.passed (.byName answer) path m s)).isResolved) = [] := by
    rw [List.filter_eq_nil_iff]
    intro s hs
    -- what is passed has the name of the method, so that the same answer comes back
    have hresolved : (answer s path m.name).isResolved = false :=
      h s ((List.takeWhile_sublist _).subset hs)
    exact Bool.eq_false_iff.1 hresolved
  rw [Registry.passed_eq, hnone, Method.without_nil]

/-! ## The failures of a run -/

/-- Among handled smells, the failures are those of the smells that are not resolved. -/
theorem failuresOf_expectedFor {v : Verdicts} {smells : List CodeSmell}
    (hhandled : ∀ smell ∈ smells, (r.find? smell).isSome) :
    failuresOf (smells.filterMap (r.expectedFor v path m)) =
      (smells.filter fun smell => !(v smell path (r.passed v path m smell)).isResolved).map
        fun smell => ⟨smell, path, r.passed v path m smell⟩ := by
  induction smells with
  | nil => rfl
  | cons smell smells ih =>
      obtain ⟨strategy, hfind⟩ := Option.isSome_iff_exists.1 (hhandled smell (by simp))
      have hexpected : r.expectedFor v path m smell = some ⟨path, r.passed v path m smell, smell,
          strategy.name, v smell path (r.passed v path m smell)⟩ := by
        rw [expectedFor, hfind]
        rfl
      have hrest := ih fun s hs => hhandled s (by simp [hs])
      rw [List.filterMap_cons_some hexpected, ← List.singleton_append, failuresOf_append, hrest,
        List.filter_cons]
      cases hresolved : (v smell path (r.passed v path m smell)).isResolved <;>
        simp [failuresOf, failedAmong, hresolved, Attempt.record]

/-- The failures on a method: the smells that stay, each with the method as it was passed. -/
theorem failuresOf_expected : failuresOf (r.expected (.byName answer) path m) =
    (r.agenda (r.settle answer path m)).map fun smell =>
      ⟨smell, path, r.passed (.byName answer) path m smell⟩ := by
  have hhandled : ∀ smell ∈ r.agenda m, (r.find? smell).isSome := by
    intro smell hsmell
    rw [← eligible_eq_agenda] at hsmell
    exact (mem_eligible.1 hsmell).1
  rw [expected, failuresOf_expectedFor hhandled, agenda_settle]
  rfl

/-- The smells that stay on the methods of some files, as records with the methods as shown. -/
def staying (r : Registry σ) (answer : CodeSmell → Path → String → Outcome)
    (shown : Path → Method → CodeSmell → Method) (files : List (Path × List Method)) :
    List Record :=
  files.flatMap fun file => file.2.flatMap fun m =>
    (r.agenda (r.settle answer file.1 m)).map fun smell => ⟨smell, file.1, shown file.1 m smell⟩

/-- All methods of some files as a run leaves them. -/
def settleAll (r : Registry σ) (answer : CodeSmell → Path → String → Outcome)
    (files : List (Path × List Method)) : List (Path × List Method) :=
  files.map fun file => (file.1, file.2.map (r.settle answer file.1))

variable {files : List (Path × List Method)}

/-- The index of a run lists the smells that stay, with the methods as they were passed. -/
theorem expectedIndex_eq : r.expectedIndex (.byName answer) files =
    ofRecords (r.staying answer (r.passed (.byName answer)) files) := by
  simp only [expectedIndex, expectedAll, staying, failuresOf_flatMap, failuresOf_expected]

/-- The index of a run on settled methods lists the same smells, with the methods as they are
left. -/
theorem expectedIndex_settleAll :
    r.expectedIndex (.byName answer) (r.settleAll answer files) =
      ofRecords (r.staying answer (fun path m _ => r.settle answer path m) files) := by
  simp only [expectedIndex_eq, staying, settleAll, List.flatMap_map, settle_settle,
    settled_settle.passed_eq]

theorem distinct_settleAll (h : DistinctPaths files) :
    DistinctPaths (r.settleAll answer files) := by
  apply Workload.distinct_of_paths_eq _ h
  simp [settleAll, Function.comp_def]

/-- Whether all methods of some files are settled. -/
def AllSettled (r : Registry σ) (answer : CodeSmell → Path → String → Outcome)
    (files : List (Path × List Method)) : Prop :=
  ∀ file ∈ files, ∀ m ∈ file.2, r.Settled answer file.1 m

theorem allSettled_settleAll : r.AllSettled answer (r.settleAll answer files) := by
  intro file hfile m hm
  obtain ⟨given, -, rfl⟩ := List.mem_map.1 hfile
  obtain ⟨m, -, rfl⟩ := List.mem_map.1 hm
  exact settled_settle

theorem AllSettled.settleAll_eq (h : r.AllSettled answer files) :
    r.settleAll answer files = files := by
  have hfile : ∀ file ∈ files, (file.1, file.2.map (r.settle answer file.1)) = file := by
    intro file hfile
    have hmethods : file.2.map (r.settle answer file.1) = file.2.map id :=
      List.map_congr_left fun m hm => (h file hfile m hm).settle_eq
    rw [hmethods, List.map_id]
  exact (List.map_congr_left hfile).trans (List.map_id files)

theorem AllSettled.failedAmong_eq (h : r.AllSettled answer files) :
    failedAmong (r.expectedAll (.byName answer) files) =
      r.expectedAll (.byName answer) files := by
  rw [failedAmong, List.filter_eq_self]
  intro a ha
  obtain ⟨file, hfile, hmade⟩ := List.mem_flatMap.1 ha
  obtain ⟨m, hm, hmade⟩ := List.mem_flatMap.1 hmade
  obtain ⟨smell, hsmell, hexpected⟩ := List.mem_filterMap.1 hmade
  obtain ⟨strategy, -, rfl⟩ := Option.map_eq_some_iff.1 hexpected
  have hresolved : (answer smell file.1 m.name).isResolved = false :=
    h file hfile m hm smell hsmell
  simp [Verdicts.byName, hresolved]

/-- Where nothing but the names of the methods is shown, all ways to show them look the same. -/
theorem outline_staying (r : Registry σ) (answer : CodeSmell → Path → String → Outcome)
    {shown shown' : Path → Method → CodeSmell → Method}
    (h : ∀ path m smell, (shown path m smell).name = (shown' path m smell).name)
    (files : List (Path × List Method)) :
    (r.staying answer shown files).map Record.outline =
      (r.staying answer shown' files).map Record.outline := by
  simp only [staying, List.map_flatMap, List.map_map, Function.comp_def, Record.outline, h]

theorem filter_records_agenda {own : Path} (hpath : compare path own = .eq)
    (shown : CodeSmell → Method) (smell : CodeSmell) :
    ((r.agenda m).map fun s => (⟨s, own, shown s⟩ : Record)).filter
        (Record.isUnder smell.name path) =
      if smell ∈ r.agenda m then [⟨smell, own, shown smell⟩] else [] := by
  have hunder : Record.isUnder smell.name path ∘ (fun s => ⟨s, own, shown s⟩) =
      fun s => decide (s = smell) := by
    funext s
    rw [Bool.eq_iff_iff, Function.comp_apply, Record.isUnder_name_iff, decide_eq_true_eq]
    exact and_iff_left hpath
  rw [List.filter_map, hunder, filter_agenda]
  split <;> rfl

/-- Under a smell and the path of a file stand the methods of the file on which the smell stays. -/
theorem filter_staying (hdistinct : DistinctPaths files) {file : Path × List Method}
    (hfile : file ∈ files) (hpath : compare path file.1 = .eq)
    (shown : Path → Method → CodeSmell → Method) (smell : CodeSmell) :
    (r.staying answer shown files).filter (Record.isUnder smell.name path) =
      (file.2.filter fun m => smell ∈ r.agenda (r.settle answer file.1 m)).map fun m =>
        ⟨smell, file.1, shown file.1 m smell⟩ := by
  have hpair : Entries.pairAt? path files = some file :=
    (Entries.pairAt?_eq_some_iff hdistinct).2 ⟨hfile, hpath⟩
  have hother : ∀ other ∈ files, compare path other.1 ≠ .eq →
      (other.2.flatMap fun m => (r.agenda (r.settle answer other.1 m)).map fun s =>
        (⟨s, other.1, shown other.1 m s⟩ : Record)).filter (Record.isUnder smell.name path) =
      [] := by
    intro other _ hne
    rw [List.filter_eq_nil_iff]
    intro record hrecord hunder
    obtain ⟨m, -, hm⟩ := List.mem_flatMap.1 hrecord
    obtain ⟨s, -, rfl⟩ := List.mem_map.1 hm
    exact hne (Record.isUnder_iff.1 hunder).2
  rw [staying, List.filter_flatMap, Entries.flatMap_eq_of_pairAt? hdistinct hother, hpair,
    Option.map_some, Option.getD_some]
  induction file.2 with
  | nil => rfl
  | cons m methods ih =>
      rw [List.flatMap_cons, List.filter_append, filter_records_agenda hpath, ih, List.filter_cons]
      split <;> simp_all

/-- At the path of a file, the index of such records lists the methods on which a smell stays. -/
theorem find?_staying (hdistinct : DistinctPaths files) {file : Path × List Method}
    (hfile : file ∈ files) (hpath : compare path file.1 = .eq)
    (shown : Path → Method → CodeSmell → Method) (smell : CodeSmell) :
    (ofRecords (r.staying answer shown files)).find? smell.name path =
      someIfAny ((file.2.filter fun m => smell ∈ r.agenda (r.settle answer file.1 m)).map fun m =>
        shown file.1 m smell) := by
  rw [find?_ofRecords, filter_staying hdistinct hfile hpath, map_snd_listing, List.map_map]
  rfl

end Registry

/-! ## Runs one after another -/

namespace Refactoring

open FailureIndex

variable {r : Refactoring σ} {answer : CodeSmell → Path → String → Outcome} {w : Workload}

/-- Runs one after another, counted from the first on a workload, each with the workload that it was
given: the methods that the run before it left, with the files in any order. -/
inductive Series (r : Refactoring σ) (w : Workload) : Nat → Workload → Run σ Workload → Prop
  | first (world : σ) : Series r w 0 w (r.refactorAll w world)
  | next {n : Nat} {given again : Workload} {run : Run σ Workload} (h : Series r w n given run)
      (hfiles : again.files.Perm run.left.files) (world : σ) :
      Series r w (n + 1) again (r.refactorAll again world)

theorem left_files_eq (hv : r.registry.Follows (.byName answer))
    (hw : ∀ file ∈ w.files, file.1.isEmpty = false) (world : σ) :
    (r.refactorAll w world).left.files = r.registry.settleAll answer w.files :=
  (r.refactorAll_described hv hw world).2

theorem left_eq_of_allSettled (hv : r.registry.Follows (.byName answer))
    (hw : ∀ file ∈ w.files, file.1.isEmpty = false)
    (hsettled : r.registry.AllSettled answer w.files) (world : σ) :
    (r.refactorAll w world).left = w := by
  apply Workload.ext_files
  rw [left_files_eq hv hw, hsettled.settleAll_eq]

/-- A workload of the methods that a run left has no empty path either, and they are settled. -/
theorem allSettled_of_perm (hw : ∀ file ∈ w.files, file.1.isEmpty = false) {again : Workload}
    (h : again.files.Perm (r.registry.settleAll answer w.files)) :
    (∀ file ∈ again.files, file.1.isEmpty = false) ∧
      r.registry.AllSettled answer again.files := by
  constructor
  · intro file hfile
    obtain ⟨given, hgiven, rfl⟩ := List.mem_map.1 (h.subset hfile)
    exact hw given hgiven
  · intro file hfile
    exact Registry.allSettled_settleAll file (h.subset hfile)

/-- Every run of a series leaves the methods as the first one leaves them. -/
theorem Series.left_perm (hv : r.registry.Follows (.byName answer))
    (hw : ∀ file ∈ w.files, file.1.isEmpty = false) {n : Nat} {given : Workload}
    {run : Run σ Workload} (h : r.Series w n given run) :
    run.left.files.Perm (r.registry.settleAll answer w.files) := by
  induction h with
  | first world => exact .of_eq (left_files_eq hv hw world)
  | next _ hfiles world ih =>
      obtain ⟨hagain, hsettled⟩ := allSettled_of_perm hw (hfiles.trans ih)
      rw [left_eq_of_allSettled hv hagain hsettled world]
      exact hfiles.trans ih

/-- Every run of a series after the first one gives the index of a run on the settled methods,
changes no method, and fails with every attempt. -/
theorem Series.next_run (hv : r.registry.Follows (.byName answer))
    (hw : ∀ file ∈ w.files, file.1.isEmpty = false) {n : Nat} {given : Workload}
    {run : Run σ Workload} (h : r.Series w (n + 1) given run) :
    let index := r.registry.expectedIndex (.byName answer) (r.registry.settleAll answer w.files)
    run.answer = .ok index ∧ run.left = given ∧ run.attempts.length = index.total := by
  intro index
  cases h with
  | next h hfiles world =>
      have hperm : given.files.Perm (r.registry.settleAll answer w.files) :=
        hfiles.trans (h.left_perm hv hw)
      obtain ⟨hgiven, hsettled⟩ := allSettled_of_perm hw hperm
      -- the methods are those of the first run, though the files may stand in another order
      have hindex : r.registry.expectedIndex (.byName answer) given.files = index :=
        Registry.expectedIndex_perm (Registry.distinct_settleAll w.distinct) hperm
      refine ⟨?_, left_eq_of_allSettled hv hgiven hsettled world, ?_⟩
      · rw [← hindex]
        exact (r.refactorAll_described hv hgiven world).1
      · rw [r.refactorAll_attempts hv hgiven, ← hindex, Registry.expectedIndex, total_ofRecords,
          failuresOf, List.length_map, hsettled.failedAmong_eq]

/-- Where the outcome of an attempt depends on nothing but the smell, the path and the name of the
method, every run after the first changes no method, calls a strategy as often as the first run
recorded a failure, and gives one and the same index.  This index has the keys of the first one,
which are smells at the paths of files, and under each key the same methods in the same order: as
they are left, where the first index has them as they were passed to the attempt. -/
theorem runs_settle (r : Refactoring σ) {answer : CodeSmell → Path → String → Outcome}
    (hv : r.registry.Follows (.byName answer)) {w : Workload}
    (hw : ∀ file ∈ w.files, file.1.isEmpty = false) :
    ∃ first second : FailureIndex,
      (∀ world, (r.refactorAll w world).answer = .ok first ∧
        (r.refactorAll w world).left.files = r.registry.settleAll answer w.files) ∧
      (∀ n given run, r.Series w (n + 1) given run →
        run.answer = .ok second ∧ run.left = given ∧ run.attempts.length = first.total) ∧
      first.SameMethodNames second ∧
      (∀ name path, (second.find? name path).isSome →
        ∃ smell, CodeSmell.name smell = name ∧ ∃ file ∈ w.files, compare path file.1 = .eq) ∧
      ∀ file ∈ w.files, ∀ (smell : CodeSmell) (path : Path), compare path file.1 = .eq →
        first.find? smell.name path = someIfAny ((file.2.filter fun m =>
          smell ∈ r.registry.agenda (r.registry.settle answer file.1 m)).map fun m =>
            r.registry.passed (.byName answer) file.1 m smell) ∧
        second.find? smell.name path = someIfAny ((file.2.filter fun m =>
          smell ∈ r.registry.agenda (r.registry.settle answer file.1 m)).map fun m =>
            r.registry.settle answer file.1 m) := by
  have hnames : ∀ path m smell, (r.registry.passed (.byName answer) path m smell).name =
      (r.registry.settle answer path m).name :=
    fun _ _ _ => rfl
  have houtline := r.registry.outline_staying answer hnames w.files
  have hlength := congrArg List.length houtline
  rw [List.length_map, List.length_map] at hlength
  refine ⟨r.registry.expectedIndex (.byName answer) w.files,
    r.registry.expectedIndex (.byName answer) (r.registry.settleAll answer w.files), ?_, ?_, ?_, ?_,
    ?_⟩
  · intro world
    exact r.refactorAll_described hv hw world
  · intro n given run hseries
    obtain ⟨hanswer, hleft, hattempts⟩ := hseries.next_run hv hw
    refine ⟨hanswer, hleft, ?_⟩
    rw [hattempts, Registry.expectedIndex_settleAll, Registry.expectedIndex_eq, total_ofRecords,
      total_ofRecords, hlength]
  · rw [Registry.expectedIndex_settleAll, Registry.expectedIndex_eq]
    exact sameMethodNames_ofRecords houtline
  · intro name path hsome
    obtain ⟨smell, hname, file, hfile, hpath⟩ :=
      Registry.exists_file_of_find?_expectedIndex hsome
    obtain ⟨given, hgiven, rfl⟩ := List.mem_map.1 hfile
    exact ⟨smell, hname, given, hgiven, hpath⟩
  · intro file hfile smell path hpath
    rw [Registry.expectedIndex_settleAll, Registry.expectedIndex_eq]
    exact ⟨Registry.find?_staying w.distinct hfile hpath _ smell,
      Registry.find?_staying w.distinct hfile hpath _ smell⟩

/-- The first index still shows the nesting that the same run takes off later. -/
theorem runs_settle_tools :
    let launch : Launcher Unit := fun program args world => (answersByName ⟨program, args⟩, world)
    let c : Configuration :=
      ⟨.sequential, [⟨"deep_nesting", "extract", [], none⟩, ⟨"Data Clump", "bundle", [], none⟩]⟩
    let answer : CodeSmell → Path → String → Outcome :=
      fun smell path name => c.verdicts answersByName smell path (.ofName name)
    let r : Refactoring Unit :=
      ⟨.ofList [Tool.strategy ⟨.deepNesting, "extract", "extract", []⟩ launch,
        Tool.strategy ⟨.dataClump, "bundle", "bundle", []⟩ launch], c.parallel⟩
    let draw : Method := ⟨"draw", [.deepNesting, .dataClump, .deepNesting]⟩
    let load : Method := ⟨"load", [.longMethod, .dataClump]⟩
    let path : Path := ⟨"src/a.java"⟩
    let w : Workload := .ofList [(path, [draw, load]), (⟨"b.java"⟩, [⟨"run", []⟩])]
    let again : Workload := (r.refactorAll w ()).left
    (c.refactoring launch = .ok r ∧ r.registry.Follows (.byName answer) ∧
        ∀ file ∈ w.files, file.1.isEmpty = false) ∧
      ∃ first second : FailureIndex, first.SameMethodNames second ∧
        (r.refactorAll w ()).answer = .ok first ∧ first.total = 2 ∧
        (r.refactorAll again ()).answer = .ok second ∧ (r.refactorAll again ()).left = again ∧
        (r.refactorAll again ()).attempts.length = 2 ∧
        first.find? "Data Clump" ⟨"src//a.java"⟩ = some [draw, load] ∧
        second.find? "Data Clump" ⟨"src//a.java"⟩ = some [⟨"draw", [.dataClump]⟩, load] ∧
        second.find? "Deep Nesting" path = none := by
  intro launch c answer r draw load path w again
  have hregistry : c.registry launch = .ok r.registry := by rfl
  have hrefactoring : c.refactoring launch = .ok r := by
    rw [Configuration.refactoring, hregistry]
    rfl
  have hfollows : r.registry.Follows (.byName answer) :=
    Configuration.follows_byName hregistry fun _ _ _ => rfl
  have hpaths : ∀ file ∈ w.files, file.1.isEmpty = false := by decide
  obtain ⟨first, second, hfirst, hnext, hnames, -, hfind⟩ := runs_settle r hfollows hpaths
  have hseries : r.Series w 1 again (r.refactorAll again ()) := .next (.first ()) (.refl _) ()
  obtain ⟨hanswer, hleft, hattempts⟩ := hnext 0 again _ hseries
  have htotal : (r.refactorAll w ()).answer.toOption.map FailureIndex.total = some 2 := by decide
  rw [(hfirst ()).1] at htotal
  have htotal : first.total = 2 := Option.some_inj.1 htotal
  have hfile : (path, [draw, load]) ∈ w.files := by decide
  have hsame : compare (⟨"src//a.java"⟩ : Path) path = .eq := by decide
  refine ⟨⟨hrefactoring, hfollows, hpaths⟩, first, second, hnames, (hfirst ()).1, htotal, hanswer,
    hleft, hattempts.trans htotal, ?_, ?_, ?_⟩
  · exact (hfind _ hfile .dataClump _ hsame).1.trans (by decide)
  · exact (hfind _ hfile .dataClump _ hsame).2.trans (by decide)
  · exact (hfind _ hfile .deepNesting _ (by decide)).2.trans (by decide)

end Refactoring

end SmellRefactor

import SmellRefactor.Proofs.Config.Tools
import SmellRefactor.Proofs.Run.History
import SmellRefactor.Proofs.Run.SeparateFiles

/-!
# Runs with external tools

A run with the tools of a configuration starts one program for every method and every smell that
the method carries and an entry names.  Where the end of a program depends on its command line, the
configuration alone tells which command lines a run uses, which smells it takes off the methods and
which failures it lists.
-/

namespace SmellRefactor

variable {σ : Type}

/-! ## Commands -/

/-- A command line. -/
structure Command where
  program : String
  args : List String
deriving DecidableEq, Repr

/-- How programs end, as far as this depends on the command line alone. -/
abbrev Answers := Command → Except SystemError Exit

/-- Whether a program was started and exited with status zero. -/
def succeeded : Except SystemError Exit → Bool
  | .ok exit => exit.status = .code 0
  | .error _ => false

namespace Launcher

/-- Whether programs end as the answers say, in every world. -/
def Gives (launch : Launcher σ) (answers : Answers) : Prop :=
  ∀ program args world, (launch program args world).1 = answers ⟨program, args⟩

/-- Whether a list that can be read off the world grows by the command line at every start of a
program. -/
def Logs (launch : Launcher σ) (log : σ → List Command) : Prop :=
  ∀ program args world, log (launch program args world).2 = log world ++ [⟨program, args⟩]

/-- Any launcher, in a world that lists the command lines besides. -/
def logged (launch : Launcher σ) : Launcher (σ × List Command) := fun program args world =>
  ((launch program args world.1).1, (launch program args world.1).2,
    world.2 ++ [⟨program, args⟩])

theorem logs_logged (launch : Launcher σ) : launch.logged.Logs Prod.snd :=
  fun _ _ _ => rfl

theorem Gives.logged {launch : Launcher σ} {answers : Answers} (h : launch.Gives answers) :
    launch.logged.Gives answers :=
  fun program args world => h program args world.1

end Launcher

/-! ## One call of a tool -/

/-- The command line of an entry for a method of a file. -/
def ToolEntry.command (entry : ToolEntry) (path : Path) (name : String) : Command :=
  ⟨entry.program, entry.args ++ [path.text, name]⟩

theorem ExitStatus.isSuccess_eq (status : ExitStatus) :
    status.isSuccess = decide (status = .code 0) := by
  cases status with
  | code number => cases number <;> simp [isSuccess]
  | signal number => rfl

namespace Tool

/-- How an attempt ends when the program of the tool ends in this way. -/
def outcomeOf (t : Tool) : Except SystemError Exit → Outcome
  | .error error => .fault (.error t.startFailure [error.message])
  | .ok exit => if exit.status.isSuccess then .resolved else .unresolved

theorem isResolved_outcomeOf (t : Tool) (answer : Except SystemError Exit) :
    (t.outcomeOf answer).isResolved = succeeded answer := by
  cases answer with
  | error error => rfl
  | ok exit =>
      rw [outcomeOf, succeeded, ← ExitStatus.isSuccess_eq]
      cases exit.status.isSuccess <;> rfl

/-- A tool starts its program once, and the attempt ends and leaves the world as the program
does. -/
theorem attempt_eq (t : Tool) (launch : Launcher σ) (path : Path) (m : Method) (world : σ) :
    (t.attempt launch path m world).outcome =
        t.outcomeOf (launch t.program (t.argumentsFor path m) world).1 ∧
      (t.attempt launch path m world).world =
        (launch t.program (t.argumentsFor path m) world).2 := by
  rw [attempt]
  cases hlaunch : launch t.program (t.argumentsFor path m) world with
  | mk answer after =>
      cases answer with
      | error error => exact ⟨rfl, rfl⟩
      | ok exit =>
          simp only [outcomeOf]
          split <;> exact ⟨rfl, rfl⟩

/-- The tool of an entry uses the command line of the entry. -/
theorem command_ofEntry (smell : CodeSmell) (entry : ToolEntry) (path : Path) (m : Method) :
    (⟨(ofEntry smell entry).program, (ofEntry smell entry).argumentsFor path m⟩ : Command) =
      entry.command path m.name := by
  rw [argumentsFor, program_ofEntry, args_ofEntry, ToolEntry.command]

end Tool

/-! ## What a configuration says about a method -/

/-- The attempt for a smell of the agenda is the only one for it. -/
theorem Registry.filter_expected (r : Registry σ) (v : Verdicts) (path : Path) (m : Method)
    (smell : CodeSmell) :
    (r.expected v path m).filter (fun a => a.smell = smell) =
      if smell ∈ r.agenda m then (r.expectedFor v path m smell).toList else [] := by
  have hown : ∀ s, (r.expectedFor v path m s).filter (fun a => decide (a.smell = smell)) =
      if decide (s = smell) = true then r.expectedFor v path m s else none := by
    intro s
    rw [expectedFor]
    cases r.find? s with
    | none => simp
    | some strategy => by_cases hs : s = smell <;> simp [hs]
  rw [expected, List.filter_filterMap]
  simp only [hown]
  rw [← List.filterMap_filter, filter_agenda]
  split
  · cases hexpected : r.expectedFor v path m smell <;> simp [hexpected]
  · rfl

namespace Configuration

/-- The command line for a smell of a method, if an entry names the smell. -/
def command? (c : Configuration) (path : Path) (name : String) (smell : CodeSmell) :
    Option Command :=
  (c.entryFor? smell).map fun entry => entry.command path name

/-- The command lines for a method of a file: one for each smell that it carries and that an entry
names, in the order of smells. -/
def commands (c : Configuration) (path : Path) (m : Method) : List Command :=
  (CodeSmell.all.filter m.carries).filterMap (c.command? path m.name)

/-- Whether a method carries a smell and the program for it succeeds. -/
def clears (c : Configuration) (answers : Answers) (path : Path) (m : Method)
    (smell : CodeSmell) : Bool :=
  m.carries smell && (c.command? path m.name smell).any fun command => succeeded (answers command)

/-- Whether a method carries a smell and the program for it does not succeed. -/
def misses (c : Configuration) (answers : Answers) (path : Path) (m : Method)
    (smell : CodeSmell) : Bool :=
  m.carries smell &&
    (c.command? path m.name smell).any fun command => !succeeded (answers command)

/-- The method as it is when the turn of a smell comes, without the smells in front of it whose
programs succeed. -/
def reached (c : Configuration) (answers : Answers) (path : Path) (m : Method)
    (smell : CodeSmell) : Method :=
  m.without ((CodeSmell.all.takeWhile (· ≠ smell)).filter (c.clears answers path m))

/-- How attempts end when programs end as the answers say. -/
def verdicts (c : Configuration) (answers : Answers) : Verdicts := fun smell path m =>
  match c.entryFor? smell with
  | some entry => (Tool.ofEntry smell entry).outcomeOf (answers (entry.command path m.name))
  | none => .unresolved

/-- The command line for an attempt. -/
def commandOf? (c : Configuration) (a : Attempt) : Option Command :=
  c.command? a.path a.method.name a.smell

theorem isResolved_verdicts (c : Configuration) (answers : Answers) (smell : CodeSmell)
    (path : Path) (m : Method) :
    (c.verdicts answers smell path m).isResolved =
      (c.command? path m.name smell).any fun command => succeeded (answers command) := by
  rw [verdicts, command?]
  cases c.entryFor? smell with
  | none => rfl
  | some entry => exact Tool.isResolved_outcomeOf _ _

/-! ## Registries of a configuration -/

variable {c : Configuration} {launch : Launcher σ} {r : Registry σ} {answers : Answers}

/-- The tools of a configuration end as its verdicts say. -/
theorem follows_verdicts (h : c.registry launch = .ok r) (hanswers : launch.Gives answers) :
    r.Follows (c.verdicts answers) := by
  intro smell strategy hfind path m world
  obtain ⟨entry, hentry, rfl⟩ := of_find?_registry h hfind
  rw [verdicts, hentry, Tool.strategy, (Tool.attempt_eq _ launch path m world).1, hanswers,
    Tool.command_ofEntry]

/-- Every call of a tool appends its command line to the log. -/
theorem keeps_log (h : c.registry launch = .ok r) {log : σ → List Command}
    (hlog : launch.Logs log) (before : List Command) :
    r.Keeps fun attempts world => log world = before ++ attempts.filterMap c.commandOf? := by
  intro smell strategy hfind path m attempts world hworld
  obtain ⟨entry, hentry, rfl⟩ := of_find?_registry h hfind
  have hcommand :
      c.commandOf? (((Tool.ofEntry smell entry).strategy launch).tryOn smell path m world) =
        some (entry.command path m.name) := by
    simp [commandOf?, command?, Strategy.tryOn, hentry]
  rw [List.filterMap_append, List.filterMap_cons_some hcommand, List.filterMap_nil,
    ← List.append_assoc, ← hworld, Tool.strategy, (Tool.attempt_eq _ launch path m world).2,
    hlog, Tool.command_ofEntry]

theorem agenda_eq (h : c.registry launch = .ok r) (m : Method) :
    r.agenda m =
      CodeSmell.all.filter fun smell => (c.entryFor? smell).isSome && m.carries smell := by
  simp only [Registry.agenda, find?_registry h, Option.isSome_map]

/-! ## The attempts on one method -/

theorem commands_eq (h : c.registry launch = .ok r) (v : Verdicts) (path : Path) (m : Method) :
    (r.expected v path m).filterMap c.commandOf? = c.commands path m := by
  have hcommand : ∀ smell, (r.expectedFor v path m smell).bind c.commandOf? =
      c.command? path m.name smell := by
    intro smell
    rw [Registry.expectedFor, find?_registry h, command?]
    cases hentry : c.entryFor? smell with
    | none => rfl
    | some entry => simp [commandOf?, command?, hentry]
  rw [Registry.expected, List.filterMap_filterMap, commands, agenda_eq h, List.filterMap_filter,
    List.filterMap_filter]
  apply List.filterMap_congr
  intro smell _
  rw [hcommand, command?]
  cases c.entryFor? smell <;> simp

/-- A smell on the agenda of a method is resolved if its program succeeds. -/
theorem resolved_eq_clears (r : Registry σ) (path : Path) (m : Method) (smell : CodeSmell) :
    ((c.verdicts answers smell path
        (r.passed (c.verdicts answers) path m smell)).isResolved &&
      ((c.entryFor? smell).isSome && m.carries smell)) = c.clears answers path m smell := by
  rw [isResolved_verdicts, Registry.name_passed, clears, command?]
  cases c.entryFor? smell with
  | none => simp
  | some entry => simp [Bool.and_comm]

theorem left_eq (h : c.registry launch = .ok r) (path : Path) (m : Method) :
    (r.described (c.verdicts answers) path m).left =
      m.without (CodeSmell.all.filter (c.clears answers path m)) := by
  rw [Registry.described, agenda_eq h, List.filter_filter]
  simp only [resolved_eq_clears]

theorem passed_eq_reached (h : c.registry launch = .ok r) (path : Path) {m : Method}
    {smell : CodeSmell} (hmem : smell ∈ r.agenda m) :
    r.passed (c.verdicts answers) path m smell = c.reached answers path m smell := by
  rw [agenda_eq h] at hmem
  have hagenda : ((c.entryFor? smell).isSome && m.carries smell) = true :=
    (List.mem_filter.1 hmem).2
  -- the smell is on the agenda itself, so both lists are cut at the same place
  have hfront : ∀ s, (!((c.entryFor? s).isSome && m.carries s) || decide (s ≠ smell)) =
      decide (s ≠ smell) := by
    intro s
    by_cases hs : s = smell
    · rw [hs, hagenda]
      rfl
    · simp [hs]
  rw [Registry.passed_eq, agenda_eq h, List.takeWhile_filter, List.filter_filter, reached]
  simp only [hfront, resolved_eq_clears]

/-- A smell of a method fails once if its program does not succeed, and otherwise never. -/
theorem failed_eq (h : c.registry launch = .ok r) (path : Path) (m : Method) (smell : CodeSmell) :
    ((failedAmong (r.expected (c.verdicts answers) path m)).filter fun a =>
        a.smell = smell).map Attempt.method =
      if c.misses answers path m smell then [c.reached answers path m smell] else [] := by
  rw [failedAmong, List.filter_comm, Registry.filter_expected]
  by_cases hmem : smell ∈ r.agenda m
  · have hpassed : r.passed (c.verdicts answers) path m smell = c.reached answers path m smell :=
      passed_eq_reached h path hmem
    rw [if_pos hmem, Registry.expectedFor, find?_registry h, hpassed]
    rw [agenda_eq h, List.mem_filter, Bool.and_eq_true] at hmem
    obtain ⟨-, hentry, hcarries⟩ := hmem
    obtain ⟨entry, hentry⟩ := Option.isSome_iff_exists.1 hentry
    have hresolved : (c.verdicts answers smell path (c.reached answers path m smell)).isResolved =
        succeeded (answers (entry.command path m.name)) := by
      rw [isResolved_verdicts, command?, hentry]
      rfl
    rw [misses, hcarries, command?, hentry]
    cases hanswer : succeeded (answers (entry.command path m.name)) <;>
      simp [hresolved, hanswer]
  · have hnone : c.misses answers path m smell = false := by
      rw [agenda_eq h, List.mem_filter] at hmem
      rw [misses, command?]
      cases hentry : c.entryFor? smell <;> simp_all
    rw [if_neg hmem, hnone]
    rfl

/-- At one path, a smell fails once for each method whose program does not succeed. -/
theorem allFailed_eq (h : c.registry launch = .ok r) (path : Path) (methods : List Method)
    (smell : CodeSmell) :
    ((failedAmong (methods.flatMap (r.expected (c.verdicts answers) path))).filter fun a =>
        a.smell = smell).map Attempt.method =
      (methods.filter fun m => c.misses answers path m smell).map fun m =>
        c.reached answers path m smell := by
  induction methods with
  | nil => rfl
  | cons m methods ih =>
      have hsplit : failedAmong ((m :: methods).flatMap (r.expected (c.verdicts answers) path)) =
          failedAmong (r.expected (c.verdicts answers) path m) ++
            failedAmong (methods.flatMap (r.expected (c.verdicts answers) path)) :=
        List.filter_append ..
      rw [hsplit, List.filter_append, List.map_append, ih, failed_eq h, List.filter_cons]
      split <;> rfl

/-- At the path of a file the index lists the methods whose programs do not succeed. -/
theorem find?_expectedIndex (h : c.registry launch = .ok r) {files : List (Path × List Method)}
    (hdistinct : DistinctPaths files) {file : Path × List Method} (hfile : file ∈ files)
    (smell : CodeSmell) :
    (r.expectedIndex (c.verdicts answers) files).find? smell.name file.1 =
      someIfAny ((file.2.filter fun m => c.misses answers file.1 m smell).map fun m =>
        c.reached answers file.1 m smell) := by
  have hown : ∀ a ∈ file.2.flatMap (r.expected (c.verdicts answers) file.1), a.path = file.1 :=
    fun _ ha => Registry.path_of_mem_flatMap_expected ha
  rw [Registry.find?_expectedIndex hdistinct hfile Std.ReflCmp.compare_self,
    Registry.expectedIndex, Registry.expectedAll_singleton, find?_ofRecords_failuresOf hown,
    allFailed_eq h]

end Configuration

/-! ## The run -/

/-- A run with the tools of an accepted configuration starts the programs of its entries, of which
there is one at most for each smell: file after file and method after method, one for each smell
that the method carries and an entry names, in the order of smells.  It takes off every method
exactly the smells whose programs succeed, and it lists each method once for each smell whose
program does not succeed, under the name of the smell and the path of the file, and nothing
else. -/
theorem tools_called {launch : Launcher σ} {answers : Answers} (hanswers : launch.Gives answers)
    {log : σ → List Command} (hlog : launch.Logs log) {c : Configuration}
    (hc : c.check = .ok ()) {w : Workload} (hw : ∀ file ∈ w.files, file.1.isEmpty = false)
    (world : σ) :
    (∀ smell, c.strategies.filter (ToolEntry.isFor smell) = (c.entryFor? smell).toList) ∧
    ∃ (r : Refactoring σ) (index : FailureIndex),
      c.refactoring launch = .ok r ∧
      (r.refactorAll w world).answer = .ok index ∧
      log (r.refactorAll w world).world =
        log world ++ w.files.flatMap (fun file => file.2.flatMap (c.commands file.1)) ∧
      (r.refactorAll w world).left.files = w.files.map (fun file => (file.1, file.2.map fun m =>
        m.without (CodeSmell.all.filter (c.clears answers file.1 m)))) ∧
      (∀ file ∈ w.files, ∀ smell, index.find? smell.name file.1 =
        someIfAny ((file.2.filter fun m => c.misses answers file.1 m smell).map fun m =>
          c.reached answers file.1 m smell)) ∧
      ∀ name path, (index.find? name path).isSome →
        ∃ smell, CodeSmell.name smell = name ∧ ∃ file ∈ w.files, compare path file.1 = .eq := by
  obtain ⟨registry, hregistry⟩ := Configuration.exists_registry hc launch
  let r : Refactoring σ := ⟨registry, c.parallel⟩
  have hr : c.refactoring launch = .ok r := by
    rw [Configuration.refactoring, hregistry]
    rfl
  have hfollows : r.registry.Follows (c.verdicts answers) :=
    Configuration.follows_verdicts hregistry hanswers
  obtain ⟨book, hcomplete, hgiven, -, -, hattempts⟩ := r.refactorAll_casebook hw world
  obtain ⟨hanswer, hleft⟩ := r.refactorAll_described hfollows hw world
  have hexpected : (r.refactorAll w world).attempts =
      registry.expectedAll (c.verdicts answers) w.files := by
    rw [hattempts, hcomplete.attempts_eq hfollows, hgiven]
  refine ⟨Configuration.filter_isFor hc, r, _, hr, hanswer, ?_, ?_, ?_, ?_⟩
  · have hkept := r.refactorAll_keeps (Configuration.keeps_log hregistry hlog (log world)) w
      (List.append_nil _).symm
    rw [hkept, hexpected, Registry.expectedAll, List.filterMap_flatMap]
    simp only [List.filterMap_flatMap, Configuration.commands_eq hregistry]
  · rw [hleft]
    simp only [r, Configuration.left_eq hregistry]
  · intro file hfile smell
    exact Configuration.find?_expectedIndex hregistry w.distinct hfile smell
  · intro name path hsome
    exact Registry.exists_file_of_find?_expectedIndex hsome

/-- One program succeeds, one is ended by a signal, and no other program can be started. -/
def answersByName : Answers
  | ⟨"extract", _⟩ => .ok ⟨.code 0, .empty⟩
  | ⟨"flatten", _⟩ => .ok ⟨.signal 9, .empty⟩
  | _ => .error .notFound

/-- Entries may stand in any order and spell their smells freely. -/
theorem tools_called_byName :
    let launch : Launcher (Unit × List Command) :=
      Launcher.logged fun program args world => (answersByName ⟨program, args⟩, world)
    let c : Configuration := ⟨.sequential, [⟨"deep_nesting", "flatten", [], none⟩,
      ⟨" long Method ", "extract", ["-q"], some "extraction"⟩, ⟨"Data Clump", "bundle", [], none⟩]⟩
    let draw : Method := ⟨"draw", [.deepNesting, .longMethod, .largeClass, .longMethod]⟩
    let path : Path := ⟨"src//a.java"⟩
    let w : Workload := .ofList [(path, [draw, ⟨"run", [.dataClump]⟩])]
    (launch.Gives answersByName ∧ launch.Logs Prod.snd ∧ c.check = .ok () ∧
        ∀ file ∈ w.files, file.1.isEmpty = false) ∧
      ∃ (r : Refactoring (Unit × List Command)) (index : FailureIndex),
        c.refactoring launch = .ok r ∧ (r.refactorAll w ((), [])).answer = .ok index ∧
        (r.refactorAll w ((), [])).world.2 =
          [⟨"extract", ["-q", "src//a.java", "draw"]⟩, ⟨"flatten", ["src//a.java", "draw"]⟩,
            ⟨"bundle", ["src//a.java", "run"]⟩] ∧
        (r.refactorAll w ((), [])).left.files =
          [(path, [⟨"draw", [.deepNesting, .largeClass]⟩, ⟨"run", [.dataClump]⟩])] ∧
        index.find? "Long Method" path = none ∧
        index.find? "Deep Nesting" path = some [⟨"draw", [.deepNesting, .largeClass]⟩] ∧
        index.find? "Data Clump" path = some [⟨"run", [.dataClump]⟩] := by
  intro launch c draw path w
  have hanswers : launch.Gives answersByName :=
    Launcher.Gives.logged fun _ _ _ => rfl
  have hlog : launch.Logs Prod.snd := Launcher.logs_logged _
  have hc : c.check = .ok () := by rfl
  have hw : ∀ file ∈ w.files, file.1.isEmpty = false := by decide
  obtain ⟨-, r, index, hr, hanswer, hstarted, hleft, hfind, -⟩ :=
    tools_called hanswers hlog hc hw ((), [])
  have hfile : (path, [draw, ⟨"run", [.dataClump]⟩]) ∈ w.files := by decide
  refine ⟨⟨hanswers, hlog, hc, hw⟩, r, index, hr, hanswer, ?_, ?_, ?_, ?_, ?_⟩
  · rw [hstarted]
    decide
  · rw [hleft]
    decide
  · exact (hfind _ hfile .longMethod).trans (by decide)
  · exact (hfind _ hfile .deepNesting).trans (by decide)
  · exact (hfind _ hfile .dataClump).trans (by decide)

end SmellRefactor

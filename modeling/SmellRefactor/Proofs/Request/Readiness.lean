import SmellRefactor.Proofs.Request.Resolution

/-!
# What comes before the first attempt

A request to refactor calls no strategy, and touches no file, before the configuration is resolved
and accepted, the input is read and decoded, and all its paths are seen to be non-empty.  This
module names the first of these steps that fails, and shows that a request fails with the error of
this step and leaves everything as it was.
-/

namespace SmellRefactor

/-! ## Steps that may fail -/

/-- What the steps before the first attempt have to establish: a configuration that is resolved and
accepted, and a workload that the input holds and in which no path is empty. -/
structure Ready (s : Settings) (t : FileTree) (c : Configuration) (w : Workload) : Prop where
  resolved : (s.resolve t).1 = .ok c
  accepted : c.check = .ok ()
  loaded : ∃ text, t.readText s.input = .ok text ∧ Json.workloadOfText text = .ok w
  named : ∀ file ∈ w.files, file.1.isEmpty = false

/-- The configuration and the workload are settled by the files. -/
theorem Ready.unique {s : Settings} {t : FileTree} {c c' : Configuration} {w w' : Workload}
    (h : Ready s t c w) (h' : Ready s t c' w') : c' = c ∧ w' = w := by
  obtain ⟨text, htext, hw⟩ := h.loaded
  obtain ⟨text', htext', hw'⟩ := h'.loaded
  obtain rfl : text' = text := Except.ok.inj (htext'.symm.trans htext)
  exact ⟨Except.ok.inj (h'.resolved.symm.trans h.resolved), Except.ok.inj (hw'.symm.trans hw)⟩

/-- The errors of the first step that fails, after all steps before it have succeeded. -/
inductive Obstacle (s : Settings) (t : FileTree) : RequestError → Prop
  | resolving {error : Error} (h : (s.resolve t).1 = .error error) : Obstacle s t (.error [] error)
  | registering {c : Configuration} {issue : Config.EntryIssue} (hc : (s.resolve t).1 = .ok c)
      (h : c.check = .error issue) : Obstacle s t (.error [] (.configuration (.entry issue)))
  | reading {c : Configuration} {error : SystemError} (hc : (s.resolve t).1 = .ok c)
      (hchecked : c.check = .ok ()) (h : t.readText s.input = .error error) :
      Obstacle s t (.error ["Failed to load methods from " ++ s.input.text]
        (.fileSystem "Failed to read file" s.input error))
  | decoding {c : Configuration} {text : String} {error : Json.Error}
      (hc : (s.resolve t).1 = .ok c) (hchecked : c.check = .ok ())
      (htext : t.readText s.input = .ok text) (h : Json.workloadOfText text = .error error) :
      Obstacle s t (.error ["Failed to load methods from " ++ s.input.text] (.json error))
  | naming {c : Configuration} {text : String} {w : Workload} (hc : (s.resolve t).1 = .ok c)
      (hchecked : c.check = .ok ()) (htext : t.readText s.input = .ok text)
      (hw : Json.workloadOfText text = .ok w) (h : ∃ file ∈ w.files, file.1.isEmpty = true) :
      Obstacle s t (.error [] .emptyPath)

/-- Either all steps succeed, or one of them is the first that fails. -/
theorem ready_or_obstacle (s : Settings) (t : FileTree) :
    (∃ c w, Ready s t c w) ∨ ∃ error, Obstacle s t error := by
  cases hc : (s.resolve t).1 with
  | error error => exact .inr ⟨_, .resolving hc⟩
  | ok c =>
      -- registering never fails first, because resolving has checked the entries before
      have hchecked := Settings.check_of_resolve hc
      cases htext : t.readText s.input with
      | error error => exact .inr ⟨_, .reading hc hchecked htext⟩
      | ok text =>
          cases hw : Json.workloadOfText text with
          | error error => exact .inr ⟨_, .decoding hc hchecked htext hw⟩
          | ok w =>
              by_cases hempty : ∃ file ∈ w.files, file.1.isEmpty = true
              · exact .inr ⟨_, .naming hc hchecked htext hw hempty⟩
              · refine .inl ⟨c, w, hc, hchecked, ⟨text, htext, hw⟩, ?_⟩
                intro file hfile
                exact Bool.eq_false_iff.2 fun h => hempty ⟨file, hfile, h⟩

/-! ## The request -/

section Request

variable {launch : Launcher FileTree} {s : Settings} {t : FileTree} {c : Configuration}

theorem loadWorkload_of_readText {path : Path} {text : String} (h : t.readText path = .ok text) :
    loadWorkload t path = (Json.workloadOfText text).mapError .json := by
  rw [loadWorkload, h]

/-- A text that is seen to give some files is the text of a workload of them. -/
theorem exists_workload_of_files {text : String} {files : List (Path × List Method)}
    (h : (Json.workloadOfText text).toOption.map Workload.files = some files) :
    ∃ w, Json.workloadOfText text = .ok w ∧ w.files = files := by
  cases hw : Json.workloadOfText text with
  | error error => simp [hw, Except.toOption] at h
  | ok w => exact ⟨w, rfl, by simpa [hw, Except.toOption] using h⟩

/-- With an accepted configuration a request goes on to load its workload, and ends early if this
fails. -/
theorem refactor_of_check (hc : (s.resolve t).1 = .ok c) (hchecked : c.check = .ok ()) :
    ∃ (r : Refactoring FileTree) (told : List Event), c.refactoring launch = .ok r ∧
      (∀ error, loadWorkload t s.input = .error error → refactor launch s t =
        .early (.error ["Failed to load methods from " ++ s.input.text] error) told t) ∧
      ∀ w, loadWorkload t s.input = .ok w →
        refactor launch s t = refactorWorkload s r w told t := by
  obtain ⟨registry, hregistry⟩ := Configuration.exists_registry hchecked launch
  have hr : c.refactoring launch = .ok ⟨registry, c.parallel⟩ := by
    rw [Configuration.refactoring, hregistry]
    rfl
  have hresolve : s.resolve t = (.ok c, (s.resolve t).2) := Prod.ext hc rfl
  refine ⟨_, (s.resolve t).2 ++ if registry.isEmpty then [.noStrategies] else [], hr, ?_, ?_⟩
  · intro error hload
    rw [refactor, hresolve]
    simp only [hr, hload]
  · intro w hload
    rw [refactor, hresolve]
    simp only [hr, hload]

/-- A request that meets an obstacle ends early, with its error. -/
theorem Obstacle.refactor_eq {error : RequestError} (h : Obstacle s t error) :
    ∃ told, refactor launch s t = .early error told t := by
  cases h with
  | @resolving error h =>
      have hresolve : s.resolve t = (.error error, (s.resolve t).2) := Prod.ext h rfl
      refine ⟨(s.resolve t).2, ?_⟩
      rw [refactor, hresolve]
  | @registering c issue hc h =>
      have hresolve : s.resolve t = (.ok c, (s.resolve t).2) := Prod.ext hc rfl
      have hissue : c.refactoring launch = .error issue := by
        rw [Configuration.refactoring, Configuration.registry_eq_error h]
        rfl
      refine ⟨(s.resolve t).2, ?_⟩
      rw [refactor, hresolve]
      simp only [hissue]
  | reading hc hchecked h =>
      obtain ⟨r, told, -, hfail, -⟩ := refactor_of_check hc hchecked
      exact ⟨told, hfail _ (by rw [loadWorkload, h])⟩
  | decoding hc hchecked htext h =>
      obtain ⟨r, told, -, hfail, -⟩ := refactor_of_check hc hchecked
      exact ⟨told, hfail _ (by rw [loadWorkload_of_readText htext, h]; rfl)⟩
  | @naming c text w hc hchecked htext hw h =>
      obtain ⟨r, told, -, -, hrun⟩ := refactor_of_check hc hchecked
      have hload : loadWorkload t s.input = .ok w := by
        rw [loadWorkload_of_readText htext, hw]
        rfl
      have hempty : (w.files.any fun file => file.1.isEmpty) = true := List.any_eq_true.2 h
      have hrefused : r.refactorAll w t = .refused .emptyPath w t := by
        rw [Refactoring.refactorAll, if_pos hempty]
      refine ⟨(refactorWorkload s r w told t).events, (hrun w hload).trans ?_⟩
      simp only [refactorWorkload, hrefused, Run.refused, Conclusion.early]

/-- A request that is ready runs on its workload. -/
theorem Ready.refactor_eq (launch : Launcher FileTree) {w : Workload} (h : Ready s t c w) :
    ∃ (r : Refactoring FileTree) (told : List Event), c.refactoring launch = .ok r ∧
      refactor launch s t = refactorWorkload s r w told t := by
  obtain ⟨text, htext, hw⟩ := h.loaded
  obtain ⟨r, told, hr, -, hrun⟩ := refactor_of_check h.resolved h.accepted
  have hload : loadWorkload t s.input = .ok w := by
    rw [loadWorkload_of_readText htext, hw]
    rfl
  exact ⟨r, told, hr, hrun w hload⟩

/-- A request that is ready makes the attempts of a run on its workload. -/
theorem Ready.attempts_eq {w : Workload} (h : Ready s t c w) :
    ∃ r : Refactoring FileTree, c.refactoring launch = .ok r ∧
      (refactor launch s t).attempts = (r.refactorAll w t).attempts := by
  obtain ⟨r, told, hr, heq⟩ := h.refactor_eq launch
  refine ⟨r, hr, ?_⟩
  rw [heq, refactorWorkload]
  cases (r.refactorAll w t).answer <;> rfl

end Request

/-- A request whose steps do not all succeed fails with the error of the first one that does not,
calls no strategy, prints nothing and leaves all files as they are; so whenever a strategy is
called or a file changes, all steps have succeeded and the attempts are those of the run on the
loaded workload. -/
theorem strategies_wait (launch : Launcher FileTree) (s : Settings) (t : FileTree) :
    ((∃ c w, Ready s t c w) ∨ ∃ error, Obstacle s t error) ∧
    (∀ error, Obstacle s t error →
      (refactor launch s t).answer = .error error ∧ (refactor launch s t).attempts = [] ∧
        (refactor launch s t).printed = "" ∧ (refactor launch s t).tree = t) ∧
    (∀ c w, Ready s t c w → ∃ r : Refactoring FileTree, c.refactoring launch = .ok r ∧
      (refactor launch s t).attempts = (r.refactorAll w t).attempts) ∧
    ((refactor launch s t).attempts ≠ [] ∨ (refactor launch s t).tree ≠ t →
      ∃ c w, Ready s t c w) := by
  have hearly : ∀ error, Obstacle s t error →
      (refactor launch s t).answer = .error error ∧ (refactor launch s t).attempts = [] ∧
        (refactor launch s t).printed = "" ∧ (refactor launch s t).tree = t := by
    intro error h
    obtain ⟨told, heq⟩ := h.refactor_eq
    rw [heq]
    exact ⟨rfl, rfl, rfl, rfl⟩
  refine ⟨ready_or_obstacle s t, hearly, fun c w h => h.attempts_eq, ?_⟩
  intro hactive
  rcases ready_or_obstacle s t with hready | ⟨error, hobstacle⟩
  · exact hready
  · obtain ⟨-, hattempts, -, htree⟩ := hearly error hobstacle
    rcases hactive with hcalled | hchanged
    · exact absurd hattempts hcalled
    · exact absurd htree hchanged

/-- The second path of the input is empty, and the report would replace a file. -/
theorem strategies_wait_emptyPath :
    let tools := "[[strategies]]\nsmell = \"long_method\"\nprogram = \"extract\"\n"
    let methods :=
      "\x7b\"a.java\": [\x7b\"name\": \"draw\", \"code_smells\": [\"long_method\"]\x7d], " ++
        "\"\": []\x7d"
    let t : FileTree :=
      ((FileTree.empty.place ["tools.toml"] (.file tools.toUTF8 .usual)).place ["methods.json"]
        (.file methods.toUTF8 .usual)).place ["report.md"] (.file "kept".toUTF8 .usual)
    let s : Settings :=
      { input := ⟨"methods.json"⟩
        config := some ⟨"tools.toml"⟩
        format := .markdown
        style := .plain
        output := some ⟨"report.md"⟩
        jobs := 0
        sequential := true }
    let launch : Launcher FileTree := fun program _ t =>
      (.ok ⟨.code 0, .empty⟩, t.place [program] .directory)
    Obstacle s t (.error [] .emptyPath) ∧
      (refactor launch s t).answer = .error (.error [] .emptyPath) ∧
      (refactor launch s t).attempts = [] ∧
      (refactor launch s t).tree.readText ⟨"report.md"⟩ = .ok "kept" := by
  intro tools methods t s launch
  have hcheck : ∀ path ∈ [⟨"tools.toml"⟩, ⟨"methods.json"⟩, (⟨"report.md"⟩ : Path)],
      FileTree.check path = .ok () ∧ FileTree.endsInDirectory path = false := by
    simp only [FileTree.check_eq]
    decide +kernel
  have htools : t.readText ⟨"tools.toml"⟩ = .ok tools :=
    FileTree.readText_of_file (hcheck _ (by simp)).1 rfl rfl (hcheck _ (by simp)).2
  have hmethods : t.readText ⟨"methods.json"⟩ = .ok methods :=
    FileTree.readText_of_file (hcheck _ (by simp)).1 rfl rfl (hcheck _ (by simp)).2
  have hreport : t.readText ⟨"report.md"⟩ = .ok "kept" :=
    FileTree.readText_of_file (hcheck _ (by simp)).1 rfl rfl (hcheck _ (by simp)).2
  have hparse : Config.parse tools = .ok ⟨.standard, [⟨"long_method", "extract", [], none⟩]⟩ := by
    decide +kernel
  have hresolve : (s.resolve t).1 = .ok ⟨.sequential, [⟨"long_method", "extract", [], none⟩]⟩ := by
    simp only [Settings.resolve, s, Config.load, htools, hparse]
    rfl
  have hfiles : (Json.workloadOfText methods).toOption.map Workload.files =
      some [(⟨"a.java"⟩, [⟨"draw", [.longMethod]⟩]), (⟨""⟩, [])] := by
    decide +kernel
  obtain ⟨w, hw, hwfiles⟩ := exists_workload_of_files hfiles
  have hempty : ∃ file ∈ w.files, file.1.isEmpty = true := by
    rw [hwfiles]
    decide
  have hobstacle : Obstacle s t (.error [] .emptyPath) :=
    .naming hresolve (Settings.check_of_resolve hresolve) hmethods hw hempty
  obtain ⟨-, hearly, -⟩ := strategies_wait launch s t
  obtain ⟨hanswer, hattempts, -, htree⟩ := hearly _ hobstacle
  exact ⟨hobstacle, hanswer, hattempts, by rw [htree, hreport]⟩

end SmellRefactor

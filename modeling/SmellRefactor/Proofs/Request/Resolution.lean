import SmellRefactor.Proofs.Config.Search
import SmellRefactor.Proofs.Config.Tools
import SmellRefactor.Request.Refactor

/-!
# Resolved configurations

A request uses the configuration file that it names, or else the first one that a search from the
current directory finds, or none; and it changes nothing but the settings of parallel work.  What a
file holds has been checked when it was read, so the tools of a resolved configuration can always be
registered.
-/

namespace SmellRefactor

namespace Settings

variable {s : Settings} {t : FileTree} {file? : Option Path} {own c : Configuration}

/-! ## Requested ways of working -/

@[simp]
theorem strategies_adjust (s : Settings) (c : Configuration) :
    (s.adjust c).strategies = c.strategies := by
  rw [adjust]
  split
  · rfl
  · split <;> rfl

theorem check_adjust (s : Settings) (c : Configuration) : (s.adjust c).check = c.check := by
  rw [Configuration.check, Configuration.registry, strategies_adjust]
  rfl

/-! ## Sources of configurations -/

/-- The file that a request takes its configuration from, if any, and this configuration: the named
file if there is one; otherwise the first file that holds a configuration among the candidates from
the current directory upwards; and otherwise no file and the standard configuration. -/
inductive Source (s : Settings) (t : FileTree) : Option Path → Configuration → Prop
  | given {path : Path} {c : Configuration} (hconfig : s.config = some path)
      (hfile : Config.Holds t path c) : Source s t (some path) c
  | found {here path : Path} {c : Configuration} (hconfig : s.config = none)
      (hhere : t.currentPath = .ok here)
      (hfirst : Config.FirstHolds t (Config.candidates here) path c) : Source s t (some path) c
  | missing {here : Path} (hconfig : s.config = none) (hhere : t.currentPath = .ok here)
      (hnone : ∀ path ∈ Config.candidates here, ∀ c, ¬ Config.Holds t path c) :
      Source s t none .standard
  | lost {error : SystemError} (hconfig : s.config = none)
      (hhere : t.currentPath = .error error) : Source s t none .standard

namespace Source

theorem holds {path : Path} (h : s.Source t (some path) own) : Config.Holds t path own := by
  cases h with
  | given hconfig hfile => exact hfile
  | found hconfig hhere hfirst => exact hfirst.holds

theorem eq_standard (h : s.Source t none own) : own = .standard := by
  cases h <;> rfl

theorem check (h : s.Source t file? own) : own.check = .ok () := by
  cases file? with
  | none =>
      rw [h.eq_standard]
      rfl
  | some path => exact h.holds.check

end Source

/-! ## Resolution -/

theorem resolve_of_named {path : Path} (hconfig : s.config = some path) :
    (s.resolve t).1 = (Config.load t path).map s.adjust := by
  rw [resolve, hconfig]

theorem resolve_of_search (hconfig : s.config = none) :
    (s.resolve t).1 = .ok (s.adjust (Config.searchHere t).1) := by
  rw [resolve, hconfig]

/-- What a search from the current directory finds has a source. -/
theorem exists_source (t : FileTree) (hconfig : s.config = none) :
    ∃ file?, s.Source t file? (Config.searchHere t).1 := by
  rw [Config.searchHere]
  cases hhere : t.currentPath with
  | error error => exact ⟨none, .lost hconfig hhere⟩
  | ok here =>
      rcases Config.search_cases t here with ⟨path, hfirst⟩ | ⟨hnone, hstandard⟩
      · exact ⟨some path, .found hconfig hhere hfirst⟩
      · exact ⟨none, hstandard ▸ .missing hconfig hhere hnone⟩

theorem Source.holds_of_named {path : Path} (h : s.Source t file? own)
    (hconfig : s.config = some path) : Config.Holds t path own := by
  cases h with
  | given hnamed hfile =>
      obtain rfl := Option.some.inj (hconfig.symm.trans hnamed)
      exact hfile
  | found hsearch => simp [hconfig] at hsearch
  | missing hsearch => simp [hconfig] at hsearch
  | lost hsearch => simp [hconfig] at hsearch

theorem Source.eq_searchHere (h : s.Source t file? own) (hconfig : s.config = none) :
    own = (Config.searchHere t).1 := by
  cases h with
  | given hnamed => simp [hconfig] at hnamed
  | found _ hhere hfirst => rw [Config.searchHere, hhere, hfirst.search_eq]
  | missing _ hhere hnone => rw [Config.searchHere, hhere, Config.search_eq_standard hnone]
  | lost _ hhere => rw [Config.searchHere, hhere]

/-- A request resolves to the configuration of its source, with the requested way of working. -/
theorem resolve_eq_ok_iff :
    (s.resolve t).1 = .ok c ↔ ∃ file? own, s.Source t file? own ∧ s.adjust own = c := by
  cases hconfig : s.config with
  | none =>
      rw [resolve_of_search hconfig]
      constructor
      · intro h
        obtain ⟨file?, hsource⟩ := exists_source t hconfig
        exact ⟨file?, _, hsource, Except.ok.inj h⟩
      · rintro ⟨file?, own, hsource, rfl⟩
        rw [hsource.eq_searchHere hconfig]
  | some path =>
      rw [resolve_of_named hconfig]
      constructor
      · intro h
        cases hload : Config.load t path with
        | error error =>
            rw [hload] at h
            cases h
        | ok own =>
            rw [hload] at h
            have hfile := Config.load_eq_ok_iff.1 hload
            exact ⟨some path, own, .given hconfig hfile, Except.ok.inj h⟩
      · rintro ⟨file?, own, hsource, rfl⟩
        rw [Config.load_eq_ok_iff.2 (hsource.holds_of_named hconfig)]
        rfl

/-- A configuration that was resolved has passed its check. -/
theorem check_of_resolve (h : (s.resolve t).1 = .ok c) : c.check = .ok () := by
  obtain ⟨file?, own, hsource, rfl⟩ := resolve_eq_ok_iff.1 h
  rw [check_adjust]
  exact hsource.check

/-- A resolution that fails does so because of the named file, and says so. -/
theorem resolve_ne_entry (s : Settings) (t : FileTree) (issue : Config.EntryIssue) :
    (s.resolve t).1 ≠ .error (.configuration (.entry issue)) := by
  cases hconfig : s.config with
  | none => simp [resolve_of_search hconfig]
  | some path =>
      rw [resolve_of_named hconfig, Config.load]
      cases t.readText path with
      | error error => simp [Except.map]
      | ok text => cases hparse : Config.parse text <;> simp [hparse, Except.map]

end Settings

/-! ## Requests -/

theorem deliver_ne_entry (s : Settings) (r : Report) (t : FileTree)
    (issue : Config.EntryIssue) :
    (deliver s r t).1 ≠ .error (.error [] (.configuration (.entry issue))) := by
  rw [deliver]
  split
  · simp
  · split
    · simp
    · split <;> simp

theorem refactorWorkload_ne_entry (s : Settings) (r : Refactoring FileTree) (w : Workload)
    (told : List Event) (t : FileTree) (issue : Config.EntryIssue) :
    (refactorWorkload s r w told t).answer ≠
      .error (.error [] (.configuration (.entry issue))) := by
  rw [refactorWorkload]
  cases hanswer : (r.refactorAll w t).answer with
  | error error =>
      rw [Refactoring.refactorAll] at hanswer
      split at hanswer
      · obtain rfl : Error.emptyPath = error := Except.error.inj hanswer
        simp [Error.emptyPath]
      · cases hanswer
  | ok index =>
      have hne := deliver_ne_entry s (.ofRun (r.registry.countAttempts w)
        (r.refactorAll w t).left index) (r.refactorAll w t).world issue
      cases hdeliver : (deliver s (.ofRun (r.registry.countAttempts w)
        (r.refactorAll w t).left index) (r.refactorAll w t).world).1 with
      | error error => simpa [hdeliver, Except.map] using hne
      | ok text => simp [hdeliver, Except.map]

/-- No request ends because a tool of its resolved configuration cannot be registered. -/
theorem refactor_ne_entry (launch : Launcher FileTree) (s : Settings) (t : FileTree)
    (issue : Config.EntryIssue) :
    (refactor launch s t).answer ≠ .error (.error [] (.configuration (.entry issue))) := by
  rw [refactor]
  cases hresolve : s.resolve t with
  | mk resolved told =>
      have hfst : (s.resolve t).1 = resolved := by rw [hresolve]
      cases resolved with
      | error error =>
          have hne := s.resolve_ne_entry t issue
          rw [hfst] at hne
          simpa [Conclusion.early] using hne
      | ok c =>
          obtain ⟨registry, hregistry⟩ :=
            Configuration.exists_registry (Settings.check_of_resolve hfst) launch
          simp only [Configuration.refactoring, hregistry, Except.map]
          cases loadWorkload t s.input with
          | error error => simp [Conclusion.early]
          | ok w => exact refactorWorkload_ne_entry s _ w _ t issue

/-- The tools of a resolved configuration can be registered, and they are those of the file that the
configuration comes from, or none if it comes from no file; so no request ends because a tool cannot
be registered.  A file is accepted under its name exactly when it is accepted in a search, with the
same configuration. -/
theorem resolved_registers (launch : Launcher FileTree) (s : Settings) (t : FileTree) :
    (∀ c, (s.resolve t).1 = .ok c →
      (∃ r, c.registry launch = .ok r ∧ c.refactoring launch = .ok ⟨r, c.parallel⟩) ∧
      ∃ file? own, s.Source t file? own ∧ s.adjust own = c ∧ c.strategies = own.strategies ∧
        (file? = none → c.strategies = [])) ∧
    (∀ issue, (refactor launch s t).answer ≠ .error (.error [] (.configuration (.entry issue)))) ∧
    ∀ path c, Config.load t path = .ok c ↔ (Config.consider t path).1 = some c := by
  refine ⟨?_, refactor_ne_entry launch s t, ?_⟩
  · intro c hc
    obtain ⟨r, hr⟩ := Configuration.exists_registry (Settings.check_of_resolve hc) launch
    obtain ⟨file?, own, hsource, rfl⟩ := Settings.resolve_eq_ok_iff.1 hc
    refine ⟨⟨r, hr, by rw [Configuration.refactoring, hr]; rfl⟩, file?, own, hsource, rfl,
      s.strategies_adjust own, ?_⟩
    rintro rfl
    rw [s.strategies_adjust own, hsource.eq_standard]
    rfl
  · intro path c
    rw [Config.load_eq_ok_iff, Config.consider_eq_some_iff]

/-- The file of the current directory names a smell that there is not, and the one above it is
used. -/
theorem resolved_registers_above :
    let good := "[[strategies]]\nsmell = \"Long Method\"\nprogram = \"extract\"\n"
    let bad := "[[strategies]]\nsmell = \"god_object\"\nprogram = \"split\"\n"
    let above : Path := ⟨"/.smellfix.toml"⟩
    let here : Path := ⟨"/work/.smellfix.toml"⟩
    let tools : List ToolEntry := [⟨"Long Method", "extract", [], none⟩]
    let c : Configuration := ⟨⟨true, some 3⟩, tools⟩
    let t : FileTree :=
      { ((FileTree.empty.place [".smellfix.toml"] (.file good.toUTF8 .usual)).place ["work"]
          .directory).place ["work", ".smellfix.toml"] (.file bad.toUTF8 .usual) with
        current := ["work"] }
    let s : Settings :=
      { input := ⟨"methods.json"⟩
        config := none
        format := .json
        style := .plain
        output := none
        jobs := 3
        sequential := false }
    let launch : Launcher FileTree := fun _ _ t => (.error .notFound, t)
    (s.resolve t).1 = .ok c ∧ (∃ r, c.registry launch = .ok r) ∧
      (∃ file? own, s.Source t file? own ∧ c.strategies = own.strategies) ∧
      (Config.consider t above).1 = some ⟨.standard, tools⟩ ∧
      (Config.consider t here).1 = none ∧ ∀ c', Config.load t here ≠ .ok c' := by
  intro good bad above here tools c t s launch
  have habove : Config.Holds t above ⟨.standard, tools⟩ := by
    have hfollow : t.follow above.components t.current = .ok [".smellfix.toml"] := by
      decide +kernel
    have htext : t.readText above = .ok good :=
      FileTree.readText_of_namesFile (by decide +kernel) hfollow rfl
    exact ⟨good, htext, by decide +kernel⟩
  have hhere : Config.IsInvalid t here := by
    have hfollow : t.follow here.components t.current = .ok ["work", ".smellfix.toml"] := by
      decide +kernel
    have htext : t.readText here = .ok bad :=
      FileTree.readText_of_namesFile (by decide +kernel) hfollow rfl
    exact ⟨bad, .entry (.unknownSmell "god_object"), htext, by decide +kernel⟩
  have hcurrent : t.currentPath = .ok ⟨"/work"⟩ := by decide +kernel
  have hcandidates : Config.candidates ⟨"/work"⟩ = [here] ++ above :: [] := by decide +kernel
  have hfirst : Config.FirstHolds t (Config.candidates ⟨"/work"⟩) above ⟨.standard, tools⟩ := by
    refine ⟨[here], [], hcandidates, ?_, habove⟩
    intro other hother c'
    rw [List.mem_singleton.1 hother]
    exact hhere.not_holds
  have hresolve : (s.resolve t).1 = .ok c :=
    Settings.resolve_eq_ok_iff.2 ⟨some above, _, .found rfl hcurrent hfirst, rfl⟩
  obtain ⟨hregisters, -, halike⟩ := resolved_registers launch s t
  obtain ⟨⟨r, hr, -⟩, file?, own, hsource, -, hstrategies, -⟩ := hregisters c hresolve
  refine ⟨hresolve, ⟨r, hr⟩, ⟨file?, own, hsource, hstrategies⟩,
    (halike above _).1 (Config.load_eq_ok_iff.2 habove),
    Config.consider_eq_none_iff.2 fun c' => hhere.not_holds, ?_⟩
  intro c' hload
  exact hhere.not_holds (Config.consider_eq_some_iff.1 ((halike here c').1 hload))

end SmellRefactor

import SmellRefactor.Proofs.Request.Resolution

/-!
# How many workers a request has

The number of workers can be limited by the configuration file and by the request.  A request that
asks for zero workers leaves the limit of the file as it is.  Zero is meant to be no limit, and the
number of workers to be positive; this is so except where the file itself gives zero for the limit
and the request neither replaces it nor asks for sequential work.
-/

namespace SmellRefactor

namespace Parallelism

theorem workers_eq (p : Parallelism) (processors : Nat) :
    p.workers processors = if p.enabled then p.limit.getD processors else 1 := by
  rw [workers, workers?]
  split <;> rfl

/-- The settings with a limit of zero taken for no limit. -/
def unlimitedAtZero (p : Parallelism) : Parallelism := p.withJobs (p.limit.getD 0)

theorem limit_unlimitedAtZero (p : Parallelism) :
    p.unlimitedAtZero.limit = if p.limit = some 0 then none else p.limit := by
  rw [unlimitedAtZero, withJobs]
  rcases p.limit with _ | _ | limit <;> simp

/-- With processors to work on, no worker at all means parallel work with a limit of zero. -/
theorem workers_pos_iff (p : Parallelism) {processors : Nat} (h : 1 ≤ processors) :
    1 ≤ p.workers processors ↔ p ≠ ⟨true, some 0⟩ := by
  rw [workers_eq]
  rcases p with ⟨_ | _, _ | _ | limit⟩ <;> simp [h]

/-- Taking zero for no limit makes a difference just where there would be no worker. -/
theorem workers_unlimitedAtZero_iff (p : Parallelism) {processors : Nat} (h : 1 ≤ processors) :
    p.workers processors = p.unlimitedAtZero.workers processors ↔ p ≠ ⟨true, some 0⟩ := by
  have hne : 0 ≠ processors := by omega
  rw [workers_eq, workers_eq, limit_unlimitedAtZero]
  rcases p with ⟨_ | _, _ | _ | limit⟩ <;> simp [unlimitedAtZero, withJobs, hne]

end Parallelism

namespace Settings

variable {s : Settings} {t : FileTree} {path : Path} {own : Configuration}

/-- The workers of a configuration with the requested way of working. -/
theorem workers_adjust (s : Settings) (c : Configuration) (processors : Nat) :
    (s.adjust c).parallel.workers processors =
      if s.sequential = true ∨ c.parallel.enabled = false then 1
      else if 0 < s.jobs then s.jobs
      else c.parallel.limit.getD processors := by
  rw [Parallelism.workers_eq, adjust]
  by_cases hsequential : s.sequential = true
  · simp [hsequential]
  · by_cases hjobs : 0 < s.jobs
    · have hne : s.jobs ≠ 0 := by omega
      cases henabled : c.parallel.enabled <;>
        simp [hsequential, hjobs, hne, henabled, Parallelism.withJobs]
    · cases henabled : c.parallel.enabled <;> simp [hsequential, hjobs, henabled]

theorem parallel_adjust_eq_iff (s : Settings) (c : Configuration) :
    (s.adjust c).parallel = ⟨true, some 0⟩ ↔
      s.sequential = false ∧ s.jobs = 0 ∧ c.parallel = ⟨true, some 0⟩ := by
  rw [adjust]
  by_cases hsequential : s.sequential = true
  · simp [hsequential]
  · by_cases hjobs : 0 < s.jobs
    · have hne : s.jobs ≠ 0 := by omega
      simp [hsequential, hjobs, hne, Parallelism.withJobs]
    · have hzero : s.jobs = 0 := by omega
      simp [hsequential, hzero]

/-- Whether a request takes its configuration from the file at a path. -/
def Uses (s : Settings) (t : FileTree) (path : Path) : Prop :=
  s.config = some path ∨ s.config = none ∧ ∃ here c, t.currentPath = .ok here ∧
    Config.FirstHolds t (Config.candidates here) path c

theorem Uses.source (h : s.Uses t path) (hholds : Config.Holds t path own) :
    s.Source t (some path) own := by
  rcases h with hnamed | ⟨hsearch, here, c, hhere, hfirst⟩
  · exact .given hnamed hholds
  · obtain rfl := hfirst.holds.unique hholds
    exact .found hsearch hhere hfirst

/-- A request that uses a file with an acceptable text resolves its configuration, with one worker
where work is sequential, otherwise with as many as the request asks for, and else with as many as
the file allows.  There is a worker, and zero is taken for no limit, unless the file gives zero for
the limit of parallel work and the request says nothing else. -/
theorem workers_positive_iff (hused : s.Uses t path) {text : String}
    (htext : t.readText path = .ok text) (hparse : Config.parse text = .ok own)
    {processors : Nat} (hprocessors : 1 ≤ processors) :
    ∃ c, (s.resolve t).1 = .ok c ∧
      (c.parallel.workers processors =
        if s.sequential = true ∨ own.parallel.enabled = false then 1
        else if 0 < s.jobs then s.jobs
        else own.parallel.limit.getD processors) ∧
      (1 ≤ c.parallel.workers processors ∧
          c.parallel.workers processors = c.parallel.unlimitedAtZero.workers processors ↔
        ¬ (s.sequential = false ∧ s.jobs = 0 ∧ own.parallel = ⟨true, some 0⟩)) := by
  have hsource : s.Source t (some path) own := hused.source ⟨text, htext, hparse⟩
  refine ⟨s.adjust own, resolve_eq_ok_iff.2 ⟨some path, own, hsource, rfl⟩,
    s.workers_adjust own processors, ?_⟩
  rw [Parallelism.workers_pos_iff _ hprocessors,
    Parallelism.workers_unlimitedAtZero_iff _ hprocessors, and_self, ne_eq, parallel_adjust_eq_iff]

/-- The file above the current directory limits the workers to four, and the request asks for
none. -/
theorem workers_positive_iff_four :
    let text := "[parallel]\nmax_concurrency = 4\n"
    let path : Path := ⟨"/.smellfix.toml"⟩
    let own : Configuration := ⟨⟨true, some 4⟩, []⟩
    let t : FileTree :=
      { (FileTree.empty.place [".smellfix.toml"] (.file text.toUTF8 .usual)).place ["work"]
          .directory with
        current := ["work"] }
    let s : Settings :=
      { input := ⟨"methods.json"⟩
        config := none
        format := .json
        style := .plain
        output := none
        jobs := 0
        sequential := false }
    s.Uses t path ∧ Config.parse text = .ok own ∧
      ∃ c, (s.resolve t).1 = .ok c ∧ c.parallel.workers 8 = 4 ∧ 1 ≤ c.parallel.workers 8 := by
  intro text path own t s
  have hfollow : t.follow path.components t.current = .ok [".smellfix.toml"] := by
    decide +kernel
  have htext : t.readText path = .ok text :=
    FileTree.readText_of_namesFile (by decide +kernel) hfollow rfl
  have hparse : Config.parse text = .ok own := by decide +kernel
  have hcurrent : t.currentPath = .ok ⟨"/work"⟩ := by decide +kernel
  have hcandidates : Config.candidates ⟨"/work"⟩ = [⟨"/work/.smellfix.toml"⟩] ++ path :: [] := by
    decide +kernel
  have hnowhere : t.exists? ⟨"/work/.smellfix.toml"⟩ = false :=
    FileTree.exists?_eq_false_of_follow (by decide +kernel)
  have hused : s.Uses t path := by
    refine .inr ⟨rfl, ⟨"/work"⟩, own, hcurrent, [⟨"/work/.smellfix.toml"⟩], [], hcandidates, ?_,
      text, htext, hparse⟩
    intro other hother c
    rw [List.mem_singleton.1 hother]
    exact Config.not_holds_of_missing hnowhere
  obtain ⟨c, hc, hworkers, hpositive⟩ :=
    workers_positive_iff hused htext hparse (show 1 ≤ 8 by omega)
  exact ⟨hused, hparse, c, hc, hworkers, (hpositive.2 (by decide)).1⟩

/-- A file may give zero for the limit.  The request says nothing of it and is left without any
worker, where eight processors would be free to use if zero were no limit. -/
theorem no_workers_zeroLimit :
    let text := "[parallel]\nmax_concurrency = 0\n"
    let own : Configuration := ⟨⟨true, some 0⟩, []⟩
    let t : FileTree := FileTree.empty.place ["smellfix.toml"] (.file text.toUTF8 .usual)
    let s : Settings :=
      { input := ⟨"methods.json"⟩
        config := some ⟨"smellfix.toml"⟩
        format := .json
        style := .plain
        output := none
        jobs := 0
        sequential := false }
    Config.parse text = .ok own ∧ (s.resolve t).1 = .ok own ∧ own.parallel.workers 8 = 0 ∧
      own.parallel.unlimitedAtZero.workers 8 = 8 := by
  intro text own t s
  have htext : t.readText ⟨"smellfix.toml"⟩ = .ok text :=
    FileTree.readText_of_namesFile (by decide +kernel) rfl rfl
  have hparse : Config.parse text = .ok own := by decide +kernel
  have hsource : s.Source t (some ⟨"smellfix.toml"⟩) own := .given rfl ⟨text, htext, hparse⟩
  exact ⟨hparse, resolve_eq_ok_iff.2 ⟨_, own, hsource, rfl⟩, rfl, rfl⟩

end Settings

end SmellRefactor

import SmellRefactor.Config.Load
import SmellRefactor.Proofs.FileTree.Reading
import SmellRefactor.Proofs.Path.Ancestors

/-!
# What the search for a configuration finds

The candidates of a search are the configuration files of the first ten directories from its start
upwards.  The search takes the first candidate that holds an acceptable configuration, and the
standard configuration if there is none; so it can tell two file trees apart only by what their
candidates hold.
-/

namespace SmellRefactor.Config

variable {t t' : FileTree} {path : Path} {paths : List Path} {c : Configuration} {start : Path}

/-! ## Files with a configuration -/

/-- Whether the file at a path can be read and holds an acceptable configuration. -/
def Holds (t : FileTree) (path : Path) (c : Configuration) : Prop :=
  ∃ text, t.readText path = .ok text ∧ parse text = .ok c

theorem Holds.unique {c' : Configuration} (h : Holds t path c) (h' : Holds t path c') :
    c = c' := by
  obtain ⟨text, htext, hparse⟩ := h
  obtain ⟨text', htext', hparse'⟩ := h'
  obtain rfl : text = text' := Except.ok.inj (htext.symm.trans htext')
  exact Except.ok.inj (hparse.symm.trans hparse')

/-- A file that is not there holds nothing. -/
theorem not_holds_of_missing (h : t.exists? path = false) : ¬ Holds t path c := by
  rintro ⟨text, htext, -⟩
  rw [FileTree.exists?_of_readText htext] at h
  cases h

/-- Whether the file at a path can be read, but holds no acceptable configuration. -/
def IsInvalid (t : FileTree) (path : Path) : Prop :=
  ∃ text rejection, t.readText path = .ok text ∧ parse text = .error rejection

theorem IsInvalid.not_holds (h : IsInvalid t path) : ¬ Holds t path c := by
  rintro ⟨text, htext, hparse⟩
  obtain ⟨text', rejection, htext', hparse'⟩ := h
  obtain rfl : text = text' := Except.ok.inj (htext.symm.trans htext')
  rw [hparse] at hparse'
  cases hparse'

/-- What a file holds depends on the text that it reads as. -/
theorem holds_congr
    (h : ∀ text, t.readText path = .ok text ↔ t'.readText path = .ok text) :
    Holds t path c ↔ Holds t' path c := by
  simp only [Holds, h]

theorem load_eq_ok_iff : load t path = .ok c ↔ Holds t path c := by
  rw [load, Holds]
  cases htext : t.readText path with
  | error error => simp
  | ok text => cases hparse : parse text <;> simp [hparse]

theorem consider_eq_some_iff : (consider t path).1 = some c ↔ Holds t path c := by
  rw [consider, Holds]
  cases htext : t.readText path with
  | error error => simp
  | ok text => cases hparse : parse text <;> simp [hparse]

theorem consider_congr (h : t.readText path = t'.readText path) :
    consider t path = consider t' path := by
  rw [consider, consider, h]

theorem consider_eq_none_iff : (consider t path).1 = none ↔ ∀ c, ¬ Holds t path c := by
  simp only [Option.eq_none_iff_forall_ne_some, ne_eq, consider_eq_some_iff]

theorem check_of_parse {text : String} (h : parse text = .ok c) : c.check = .ok () := by
  rw [parse] at h
  split at h
  · cases h
  · rename_i found hfound
    split at h
    · cases h
    · rename_i hcheck
      obtain rfl : found = c := Except.ok.inj h
      exact hcheck

/-- A configuration that a file holds has passed its check. -/
theorem Holds.check (h : Holds t path c) : c.check = .ok () := by
  obtain ⟨text, -, hparse⟩ := h
  exact check_of_parse hparse

/-! ## The first of several files -/

/-- Whether a file is the first of some that holds an acceptable configuration. -/
def FirstHolds (t : FileTree) (paths : List Path) (path : Path) (c : Configuration) : Prop :=
  ∃ nearer farther, paths = nearer ++ path :: farther ∧
    (∀ other ∈ nearer, ∀ c', ¬ Holds t other c') ∧ Holds t path c

theorem FirstHolds.holds (h : FirstHolds t paths path c) : Holds t path c := by
  obtain ⟨-, -, -, -, h⟩ := h
  exact h

theorem FirstHolds.mem (h : FirstHolds t paths path c) : path ∈ paths := by
  obtain ⟨nearer, farther, rfl, -, -⟩ := h
  simp

theorem FirstHolds.transport (h : FirstHolds t paths path c)
    (hsame : ∀ other ∈ paths, ∀ c', Holds t other c' ↔ Holds t' other c') :
    FirstHolds t' paths path c := by
  obtain ⟨nearer, farther, rfl, hnearer, hholds⟩ := h
  refine ⟨nearer, farther, rfl, ?_, (hsame path (by simp) c).1 hholds⟩
  intro other hother c' hc'
  exact hnearer other hother c' ((hsame other (by simp [hother]) c').2 hc')

theorem firstOf_fst (t : FileTree) (paths : List Path) :
    (firstOf t paths).1 = paths.findSome? fun path => (consider t path).1 := by
  induction paths with
  | nil => rfl
  | cons path paths ih =>
      rw [firstOf, List.findSome?_cons, ← ih]
      rcases consider t path with ⟨_ | found, told⟩ <;> rfl

theorem firstOf_eq_some_iff :
    (firstOf t paths).1 = some c ↔ ∃ path, FirstHolds t paths path c := by
  rw [firstOf_fst, List.findSome?_eq_some_iff]
  simp only [FirstHolds, consider_eq_some_iff, consider_eq_none_iff]
  constructor
  · rintro ⟨nearer, path, farther, hsplit, hholds, hnearer⟩
    exact ⟨path, nearer, farther, hsplit, hnearer, hholds⟩
  · rintro ⟨path, nearer, farther, hsplit, hnearer, hholds⟩
    exact ⟨nearer, path, farther, hsplit, hholds, hnearer⟩

theorem firstOf_eq_none_iff :
    (firstOf t paths).1 = none ↔ ∀ path ∈ paths, ∀ c, ¬ Holds t path c := by
  rw [firstOf_fst, List.findSome?_eq_none_iff]
  simp only [consider_eq_none_iff]

theorem firstOf_congr (h : ∀ path ∈ paths, t.readText path = t'.readText path) :
    firstOf t paths = firstOf t' paths := by
  induction paths with
  | nil => rfl
  | cons path paths ih =>
      have hrest := ih fun other hother => h other (List.mem_cons_of_mem _ hother)
      rw [firstOf, firstOf, consider_congr (h path List.mem_cons_self), hrest]

/-- The files that hold no configuration do not matter in front of others. -/
theorem firstOf_append_fst {nearer : List Path}
    (h : ∀ path ∈ nearer, ∀ c, ¬ Holds t path c) (farther : List Path) :
    (firstOf t (nearer ++ farther)).1 = (firstOf t farther).1 := by
  have hnone := firstOf_eq_none_iff.2 h
  rw [firstOf_fst] at hnone ⊢
  rw [List.findSome?_append, hnone, Option.none_or, firstOf_fst]

/-! ## The search -/

theorem search_fst (t : FileTree) (start : Path) :
    (search t start).1 = (firstOf t (candidates start)).1.getD .standard := by
  rw [search]
  rcases firstOf t (candidates start) with ⟨_ | found, told⟩ <;> rfl

/-- A search takes the first configuration that a candidate holds. -/
theorem FirstHolds.search_eq (h : FirstHolds t (candidates start) path c) :
    (search t start).1 = c := by
  rw [search_fst, firstOf_eq_some_iff.2 ⟨path, h⟩]
  rfl

/-- Without a candidate that holds a configuration, a search gives the standard one. -/
theorem search_eq_standard (h : ∀ path ∈ candidates start, ∀ c, ¬ Holds t path c) :
    (search t start).1 = .standard := by
  rw [search_fst, firstOf_eq_none_iff.2 h]
  rfl

theorem search_cases (t : FileTree) (start : Path) :
    (∃ path, FirstHolds t (candidates start) path (search t start).1) ∨
      (∀ path ∈ candidates start, ∀ c, ¬ Holds t path c) ∧ (search t start).1 = .standard := by
  cases hfirst : (firstOf t (candidates start)).1 with
  | none =>
      have hnone := firstOf_eq_none_iff.1 hfirst
      exact .inr ⟨hnone, search_eq_standard hnone⟩
  | some c =>
      obtain ⟨path, hpath⟩ := firstOf_eq_some_iff.1 hfirst
      rw [hpath.search_eq]
      exact .inl ⟨path, hpath⟩

/-- Where the candidates hold the same configurations, a search finds the same one. -/
theorem search_fst_congr
    (hsame : ∀ path ∈ candidates start, ∀ c, Holds t path c ↔ Holds t' path c) :
    (search t start).1 = (search t' start).1 := by
  rcases search_cases t start with ⟨path, hfirst⟩ | ⟨hnone, hstandard⟩
  · exact (hfirst.transport hsame).search_eq.symm
  · rw [hstandard, search_eq_standard]
    intro path hpath c hholds
    exact hnone path hpath c ((hsame path hpath c).2 hholds)

/-! ## Candidates -/

/-- Whether a path is the configuration file of the directory so many steps above a start, which is
among the first ten directories. -/
def IsCandidate (start : Path) (steps : Nat) (path : Path) : Prop :=
  steps < 10 ∧ ∃ directory, start.up steps = some directory ∧
    path = directory.join ".smellfix.toml"

theorem getElem?_candidates {steps : Nat} :
    (candidates start)[steps]? = some path ↔ IsCandidate start steps path := by
  rw [candidates, List.getElem?_map, Path.getElem?_ancestors, IsCandidate, searchDepth, fileName]
  split
  · rename_i hsteps
    simp [hsteps, eq_comm]
  · rename_i hsteps
    simp [hsteps]

theorem mem_candidates_iff : path ∈ candidates start ↔ ∃ steps, IsCandidate start steps path := by
  simp only [List.mem_iff_getElem?, getElem?_candidates]

/-- A candidate is taken if none of those before it holds a configuration. -/
theorem firstHolds_of_isCandidate {steps : Nat} (hpath : IsCandidate start steps path)
    (h : Holds t path c)
    (hnearer : ∀ fewer < steps, ∀ nearer, IsCandidate start fewer nearer →
      ∀ c', ¬ Holds t nearer c') :
    FirstHolds t (candidates start) path c := by
  obtain ⟨hsteps, heq⟩ := List.getElem?_eq_some_iff.1 (getElem?_candidates.2 hpath)
  refine ⟨(candidates start).take steps, (candidates start).drop (steps + 1), ?_, ?_, h⟩
  · rw [← heq, List.getElem_cons_drop, List.take_append_drop]
  · intro other hother
    obtain ⟨fewer, hfewer, rfl⟩ := List.mem_take_iff_getElem.1 hother
    refine hnearer fewer (by omega) _ (getElem?_candidates.1 ?_)
    exact List.getElem?_eq_getElem _

/-- A search depends on its candidates alone.  In two trees that have the same texts at the
candidates it finds the same configuration, and it tells the same too where the trees agree on the
trails that lead there.  What it finds is the standard configuration or that of a candidate; and a
candidate that holds a configuration is the one that is taken if no candidate exists before it. -/
theorem search_confined (start : Path) :
    (∀ t t' : FileTree,
      (∀ steps path, IsCandidate start steps path →
        ∀ text, t.readText path = .ok text ↔ t'.readText path = .ok text) →
      (search t start).1 = (search t' start).1) ∧
    (∀ t t' : FileTree,
      (∀ steps path, IsCandidate start steps path → FileTree.AgreesOn t t' path) →
      search t start = search t' start) ∧
    ∀ t : FileTree,
      ((search t start).1 = .standard ∨
        ∃ steps path, IsCandidate start steps path ∧ Holds t path (search t start).1) ∧
      ∀ steps path c, IsCandidate start steps path → Holds t path c →
        (∀ fewer < steps, ∀ nearer, IsCandidate start fewer nearer → t.exists? nearer = false) →
        (search t start).1 = c := by
  refine ⟨?_, ?_, ?_⟩
  · intro t t' hread
    apply search_fst_congr
    intro path hpath c
    obtain ⟨steps, hsteps⟩ := mem_candidates_iff.1 hpath
    exact holds_congr (hread steps path hsteps)
  · intro t t' hagree
    have hread : ∀ path ∈ candidates start, t.readText path = t'.readText path := by
      intro path hpath
      obtain ⟨steps, hsteps⟩ := mem_candidates_iff.1 hpath
      exact (hagree steps path hsteps).readText_eq
    rw [search, search, firstOf_congr hread]
  · intro t
    constructor
    · rcases search_cases t start with ⟨path, hfirst⟩ | ⟨-, hstandard⟩
      · obtain ⟨steps, hsteps⟩ := mem_candidates_iff.1 hfirst.mem
        exact .inr ⟨steps, path, hsteps, hfirst.holds⟩
      · exact .inl hstandard
    · intro steps path c hpath hholds hnearer
      have hfirst : FirstHolds t (candidates start) path c := by
        apply firstHolds_of_isCandidate hpath hholds
        intro fewer hfewer nearer hcandidate c'
        exact not_holds_of_missing (hnearer fewer hfewer nearer hcandidate)
      exact hfirst.search_eq

/-- The start lies ten steps below the root, so that the file of the root is no candidate and that
of `/a` is the last one. -/
theorem search_confined_tenSteps :
    let one := "[[strategies]]\nsmell = \"long_method\"\nprogram = \"one\"\n"
    let two := "[[strategies]]\nsmell = \"long_method\"\nprogram = \"two\"\n"
    let start : Path := ⟨"/a/b/c/d/e/f/g/h/i/j"⟩
    let last : Path := ⟨"/a/.smellfix.toml"⟩
    let found : Configuration := ⟨.standard, [⟨"long_method", "one", [], none⟩]⟩
    let t : FileTree := (FileTree.empty.place ["a"] .directory).place ["a", ".smellfix.toml"]
      (.file one.toUTF8 .usual)
    let beyond (t : FileTree) : FileTree :=
      t.place [".smellfix.toml"] (.file two.toUTF8 .usual)
    start.up 10 = some ⟨"/"⟩ ∧ (search (beyond .empty) start).1 = .standard ∧
      IsCandidate start 9 last ∧ (search t start).1 = found ∧
      search (beyond t) start = search t start := by
  intro one two start last found t beyond
  obtain ⟨-, hagree, hsearch⟩ := search_confined start
  have hlast : IsCandidate start 9 last :=
    ⟨by omega, ⟨"/a"⟩, by decide +kernel, by decide +kernel⟩
  -- what is put at the root is seen from no candidate
  have hbeyond : ∀ t : FileTree, t.current = [] → search (beyond t) start = search t start := by
    intro t hcurrent
    have htrail : ∀ steps < 10, ∀ directory ∈ start.up steps,
        [".smellfix.toml"] ∉
          FileTree.trail (directory.join ".smellfix.toml").components [] := by
      decide +kernel
    refine (hagree t (beyond t) ?_).symm
    rintro steps path ⟨hsteps, directory, hup, rfl⟩
    apply FileTree.AgreesOn.place
    rw [hcurrent]
    exact htrail steps hsteps directory hup
  have hempty : (search .empty start).1 = .standard := by
    have hnowhere : ∀ steps < 10, ∀ directory ∈ start.up steps,
        ((FileTree.empty.follow (directory.join ".smellfix.toml").components []).toOption.bind
          FileTree.empty.node?).isNone = true := by
      decide +kernel
    rcases (hsearch .empty).1 with hstandard | ⟨steps, path, ⟨hsteps, directory, hup, rfl⟩, hholds⟩
    · exact hstandard
    · have hmissing := FileTree.exists?_eq_false_of_follow (hnowhere steps hsteps directory hup)
      exact absurd hholds (not_holds_of_missing hmissing)
  have hfound : (search t start).1 = found := by
    have hfollow : t.follow last.components t.current = .ok ["a", ".smellfix.toml"] := by
      decide +kernel
    have htext : t.readText last = .ok one :=
      FileTree.readText_of_namesFile (by decide +kernel) hfollow rfl
    have hparse : parse one = .ok found := by decide +kernel
    have hnowhere : ∀ fewer < 9, ∀ directory ∈ start.up fewer,
        ((t.follow (directory.join ".smellfix.toml").components []).toOption.bind
          t.node?).isNone = true := by
      decide +kernel
    apply (hsearch t).2 9 last found hlast ⟨one, htext, hparse⟩
    rintro fewer hfewer nearer ⟨-, directory, hup, rfl⟩
    exact FileTree.exists?_eq_false_of_follow (hnowhere fewer hfewer directory hup)
  refine ⟨by decide +kernel, ?_, hlast, hfound, hbeyond t rfl⟩
  rw [hbeyond .empty rfl, hempty]

end SmellRefactor.Config

import SmellRefactor.Proofs.Config.Search

/-!
# The nearest configuration file

The nearest file that exists decides a search if it holds an acceptable configuration.  If it can be
read but holds none, it is told that the defaults are used, and yet the search goes on behind it: it
takes what the files farther away hold.  So the nearest file decides a search exactly when no
configuration but the standard one is found behind a file that holds none.
-/

namespace SmellRefactor.Config

variable {t : FileTree} {start path : Path} {farther : List Path} {c : Configuration}

/-- Whether a file is the nearest candidate that exists, with the others farther away. -/
def IsNearest (t : FileTree) (start path : Path) (farther : List Path) : Prop :=
  ∃ nearer, candidates start = nearer ++ path :: farther ∧
    (∀ other ∈ nearer, t.exists? other = false) ∧ t.exists? path = true

/-- Whether the nearest file that exists decides a search: what it holds is found, and if it can be
read but holds nothing acceptable, the standard configuration is. -/
def NearestDecides (t : FileTree) (start : Path) : Prop :=
  ∀ path farther, IsNearest t start path farther →
    (∀ c, Holds t path c → (search t start).1 = c) ∧
      (IsInvalid t path → (search t start).1 = .standard)

namespace IsNearest

/-- The nearest file is the first one that can hold a configuration. -/
theorem firstHolds (h : IsNearest t start path farther) (hholds : Holds t path c) :
    FirstHolds t (candidates start) path c := by
  obtain ⟨nearer, hsplit, hmissing, -⟩ := h
  refine ⟨nearer, farther, hsplit, ?_, hholds⟩
  intro other hother c'
  exact not_holds_of_missing (hmissing other hother)

/-- Behind a nearest file that holds no configuration, the search goes on. -/
theorem search_of_isInvalid (h : IsNearest t start path farther) (hinvalid : IsInvalid t path) :
    (search t start).1 = (firstOf t farther).1.getD .standard := by
  obtain ⟨nearer, hsplit, hmissing, -⟩ := h
  have hnone : ∀ other ∈ nearer ++ [path], ∀ c, ¬ Holds t other c := by
    intro other hother c
    rcases List.mem_append.1 hother with hother | hother
    · exact not_holds_of_missing (hmissing other hother)
    · rw [List.mem_singleton.1 hother]
      exact hinvalid.not_holds
  rw [search_fst, hsplit, List.append_cons, firstOf_append_fst hnone]

end IsNearest

/-- The nearest file that exists decides a search exactly when, behind a nearest file that can be
read but holds nothing acceptable, no configuration but the standard one is found.  A nearest file
that holds a configuration decides it always; behind one that holds none, the first configuration
farther away is taken, and without any the standard one. -/
theorem nearestDecides_iff (t : FileTree) (start : Path) :
    (NearestDecides t start ↔
      ∀ path farther, IsNearest t start path farther → IsInvalid t path →
        ∀ other c, FirstHolds t farther other c → c = .standard) ∧
    ∀ path farther, IsNearest t start path farther →
      (∀ c, Holds t path c → (search t start).1 = c) ∧
      (IsInvalid t path →
        (∀ other c, FirstHolds t farther other c → (search t start).1 = c) ∧
        ((∀ other ∈ farther, ∀ c, ¬ Holds t other c) → (search t start).1 = .standard)) := by
  have hsearch : ∀ path farther, IsNearest t start path farther → IsInvalid t path →
      (∀ other c, FirstHolds t farther other c → (search t start).1 = c) ∧
      ((∀ other ∈ farther, ∀ c, ¬ Holds t other c) → (search t start).1 = .standard) := by
    intro path farther hnearest hinvalid
    rw [hnearest.search_of_isInvalid hinvalid]
    constructor
    · intro other c hfirst
      rw [firstOf_eq_some_iff.2 ⟨other, hfirst⟩]
      rfl
    · intro hnone
      rw [firstOf_eq_none_iff.2 hnone]
      rfl
  refine ⟨⟨?_, ?_⟩, ?_⟩
  · intro hdecides path farther hnearest hinvalid other c hfirst
    rw [← (hdecides path farther hnearest).2 hinvalid]
    exact ((hsearch path farther hnearest hinvalid).1 other c hfirst).symm
  · intro hstandard path farther hnearest
    refine ⟨fun c hholds => (hnearest.firstHolds hholds).search_eq, ?_⟩
    intro hinvalid
    cases hfirst : (firstOf t farther).1 with
    | none => rw [hnearest.search_of_isInvalid hinvalid, hfirst, Option.getD_none]
    | some c =>
        obtain ⟨other, hother⟩ := firstOf_eq_some_iff.1 hfirst
        rw [hnearest.search_of_isInvalid hinvalid, hfirst, Option.getD_some]
        exact hstandard path farther hnearest hinvalid other c hother
  · intro path farther hnearest
    exact ⟨fun c hholds => (hnearest.firstHolds hholds).search_eq,
      hsearch path farther hnearest⟩

/-- The nearest file names a smell that there is not, and the tool of the file above it is used in
spite of it. -/
theorem not_nearestDecides_unknownSmell :
    let bad := "[[strategies]]\nsmell = \"nope\"\nprogram = \"x\"\n"
    let good := "[[strategies]]\nsmell = \"long_method\"\nprogram = \"extract\"\n"
    let near : Path := ⟨"sub/.smellfix.toml"⟩
    let far : Path := ⟨".smellfix.toml"⟩
    let t : FileTree := ((FileTree.empty.place [".smellfix.toml"] (.file good.toUTF8 .usual)).place
      ["sub"] .directory).place ["sub", ".smellfix.toml"] (.file bad.toUTF8 .usual)
    IsNearest t ⟨"sub"⟩ near [far] ∧ IsInvalid t near ∧
      (search t ⟨"sub"⟩).1 = ⟨.standard, [⟨"long_method", "extract", [], none⟩]⟩ ∧
      ¬ NearestDecides t ⟨"sub"⟩ := by
  intro bad good near far t
  have hnear : t.readText near = .ok bad := by
    have hfollow : t.follow near.components t.current = .ok ["sub", ".smellfix.toml"] := by
      decide +kernel
    exact FileTree.readText_of_namesFile (by decide +kernel) hfollow rfl
  have hfar : t.readText far = .ok good := by
    have hfollow : t.follow far.components t.current = .ok [".smellfix.toml"] := by
      decide +kernel
    exact FileTree.readText_of_namesFile (by decide +kernel) hfollow rfl
  have hcandidates : candidates ⟨"sub"⟩ = [] ++ near :: [far] := by decide +kernel
  have hnearest : IsNearest t ⟨"sub"⟩ near [far] :=
    ⟨[], hcandidates, by simp, FileTree.exists?_of_readText hnear⟩
  have hinvalid : IsInvalid t near :=
    ⟨bad, .entry (.unknownSmell "nope"), hnear, by decide +kernel⟩
  have hholds : Holds t far ⟨.standard, [⟨"long_method", "extract", [], none⟩]⟩ :=
    ⟨good, hfar, by decide +kernel⟩
  have hfirst : FirstHolds t [far] far ⟨.standard, [⟨"long_method", "extract", [], none⟩]⟩ :=
    ⟨[], [], rfl, by simp, hholds⟩
  have hsearch : (search t ⟨"sub"⟩).1 = ⟨.standard, [⟨"long_method", "extract", [], none⟩]⟩ := by
    rw [hnearest.search_of_isInvalid hinvalid, firstOf_eq_some_iff.2 ⟨far, hfirst⟩]
    rfl
  refine ⟨hnearest, hinvalid, hsearch, ?_⟩
  intro hdecides
  have hstandard := (hdecides near [far] hnearest).2 hinvalid
  rw [hsearch] at hstandard
  revert hstandard
  decide

end SmellRefactor.Config

import SmellRefactor.Proofs.Json.RoundTrip

/-!
# Configurations are read back

A configuration is written with all of its fields, but for the name of a tool, which is left out
when there is none; a missing limit is written as `null`.  Reading the text gives the configuration
back, so that neither an absent name nor an absent limit nor the default of a field is taken for
something else.  A limit is read as a word of 64 bits, so it has to fit into one.
-/

namespace SmellRefactor

/-- Whether the limit of workers, if there is one, fits into 64 bits. -/
def Parallelism.Fits (p : Parallelism) : Prop := ∀ n ∈ p.limit, n ≤ Decimal.maxWord

/-- Whether the numbers of a configuration fit into 64 bits. -/
def Configuration.Fits (c : Configuration) : Prop := c.parallel.Fits

namespace Json

variable {α : Type}

/-! ## Values that may be absent -/

theorem reads_boolean (value : Bool) : Reads readBoolean (.boolean value) value := by
  intro layout depth blanks rest p hblank _
  have htoken : atToken ((Document.boolean value).write layout depth ++ rest) = true := by
    cases value <;> rfl
  obtain ⟨p', hskip⟩ := Cursor.exists_skipGap hblank htoken p
  simp only [readBoolean, hskip]
  cases value <;> exact ⟨_, rfl⟩

/-- Only `null` begins with the letter that stands for a missing value. -/
theorem Document.head?_write_ne {d : Document} (hd : d ≠ .null) (layout : Layout) (depth : Nat) :
    (d.write layout depth).head? ≠ some 'n' := by
  cases d with
  | null => exact absurd rfl hd
  | boolean value => cases value <;> simp [write]
  | natural n =>
      obtain ⟨c, ds, hds, hc, -⟩ := exists_digits_eq_cons n
      rw [write, hds, List.head?_cons]
      rintro ⟨⟩
      exact absurd hc (by decide)
  | text s => simp [write, writeText]
  | list items => cases items <;> simp [write]
  | object members => cases members <;> simp [write]

theorem reads_none (item : Reader α) : Reads (readOptional item) .null none := by
  intro layout depth blanks rest p hblank _
  have htoken : atToken (Document.null.write layout depth ++ rest) = true := rfl
  obtain ⟨p', hskip⟩ := Cursor.exists_skipGap hblank htoken p
  simp only [readOptional, hskip]
  exact ⟨_, rfl⟩

theorem reads_some {item : Reader α} {d : Document} {a : α} (hitem : Reads item d a)
    (hd : d ≠ .null) : Reads (readOptional item) d (some a) := by
  intro layout depth blanks rest p hblank hrest
  obtain ⟨c, text, hwrite, hgap, -⟩ := exists_write_eq_cons d layout depth
  have hc : c ≠ 'n' := by
    rintro rfl
    exact Document.head?_write_ne hd layout depth (by rw [hwrite, List.head?_cons])
  have htoken : atToken (c :: (text ++ rest)) = true := by simp [atToken, hgap]
  obtain ⟨p', hskip⟩ := Cursor.exists_skipGap hblank htoken p
  obtain ⟨p'', hread⟩ := hitem layout depth [] rest p' (by simp [Blank]) hrest
  refine ⟨p'', ?_⟩
  rw [hwrite, List.nil_append, List.cons_append] at hread
  rw [hwrite, List.cons_append]
  simp [readOptional, hskip, hc, hread, Except.map]

/-! ## Settings and tools -/

theorem reads_parallelism {p : Parallelism} (h : p.Fits) :
    Reads parallelismShape.read (parallelismDocument p) p := by
  obtain ⟨d, hdocument, hlimit⟩ : ∃ d,
      parallelismDocument p = .object [("enabled", .boolean p.enabled), ("max_concurrency", d)] ∧
        Reads (readOptional readCount) d p.limit := by
    rcases p with ⟨enabled, _ | n⟩
    · exact ⟨_, rfl, reads_none readCount⟩
    · exact ⟨_, rfl, reads_some (reads_natural (h n rfl)) nofun⟩
  have hfills : Fills parallelismShape parallelismShape.blank
      [("enabled", .boolean p.enabled), ("max_concurrency", d)] ⟨some p.enabled, some p.limit⟩ :=
    .cons rfl rfl (reads_plain (reads_boolean p.enabled) _) <|
      .cons rfl rfl (reads_plain hlimit _) .nil
  rw [hdocument]
  exact hfills.reads rfl

/-- The members of a tool fill its fields, also where the name is left out. -/
theorem reads_tool (entry : ToolEntry) : Reads toolShape.read (toolDocument entry) entry := by
  obtain ⟨smell, program, args, name⟩ := entry
  have hargs : Reads (readList readString) (.list (args.map .text)) args :=
    reads_list fun text _ => reads_text text
  have hname : ∀ built : ToolDraft, built.name = none →
      Fills toolShape built (name.toList.map fun name => ("name", .text name))
        { built with name := name.map some } := by
    intro built hbuilt
    cases name with
    | none =>
        have hsame : { built with name := none } = built := by rw [← hbuilt]
        rw [Option.map_none, hsame]
        exact .nil
    | some name =>
        have hset : built.name.isSome = false := by rw [hbuilt]; rfl
        exact .cons rfl hset (reads_plain (reads_some (reads_text name) nofun) built) .nil
  have hfills : Fills toolShape toolShape.blank
      ([("smell", .text smell), ("program", .text program), ("args", .list (args.map .text))] ++
        name.toList.map fun name => ("name", .text name))
      ⟨some smell, some program, some args, name.map some⟩ :=
    .cons rfl rfl (reads_plain (reads_text smell) _) <|
      .cons rfl rfl (reads_plain (reads_text program) _) <|
      .cons rfl rfl (reads_plain hargs _) (hname _ rfl)
  refine hfills.reads ?_
  cases name <;> rfl

theorem reads_configuration {c : Configuration} (h : c.Fits) :
    Reads configurationShape.read (configurationDocument c) c := by
  have htools : Reads (readList toolShape.read) (.list (c.strategies.map toolDocument))
      c.strategies :=
    reads_list fun entry _ => reads_tool entry
  have hfills : Fills configurationShape configurationShape.blank
      [("parallel", parallelismDocument c.parallel),
        ("strategies", .list (c.strategies.map toolDocument))]
      ⟨some c.parallel, some c.strategies⟩ :=
    .cons rfl rfl (reads_plain (reads_parallelism h) _) <|
      .cons rfl rfl (reads_plain htools _) .nil
  exact hfills.reads rfl

end Json

open Json

/-- The text of a configuration on one line is read back as this configuration, and it is the text
of no other one. -/
theorem configuration_reads_back {c : Configuration} (h : c.Fits) :
    configurationOfText (configurationDocument c).compact = .ok c ∧
      ∀ other : Configuration, other.Fits →
        (configurationDocument other).compact = (configurationDocument c).compact → other = c := by
  have hread : ∀ c : Configuration, c.Fits →
      configurationOfText (configurationDocument c).compact = .ok c :=
    fun c hfits => readDocument_compact (reads_configuration hfits)
  refine ⟨hread c h, ?_⟩
  intro other hother htext
  have hsame : Except.ok other = (Except.ok c : Except Json.Error Configuration) :=
    calc
      Except.ok other = configurationOfText (configurationDocument other).compact :=
        (hread other hother).symm
      _ = configurationOfText (configurationDocument c).compact := by rw [htext]
      _ = .ok c := hread c h
  exact Except.ok.inj hsame

/-- The greatest limit, tools with and without a name and arguments, one of them with an empty name,
and texts with quotes, control characters and letters beyond ASCII. -/
theorem configuration_reads_back_odd :
    let extract : ToolEntry :=
      ⟨"Long Method", "\u00e9xtract \"all\"\x01", ["--in\\place", ""], none⟩
    let split : ToolEntry := ⟨"\u65e5\u672c", "", [], some ""⟩
    let c : Configuration := ⟨⟨true, some 18446744073709551615⟩, [extract, split, extract]⟩
    let other : Configuration := ⟨⟨true, none⟩, [extract, split, extract]⟩
    c.Fits ∧ other.Fits ∧ configurationOfText (configurationDocument c).compact = .ok c ∧
      (configurationDocument other).compact ≠ (configurationDocument c).compact := by
  intro extract split c other
  have hfits : c.Fits := by
    rintro n ⟨⟩
    decide
  have hother : other.Fits := nofun
  obtain ⟨hread, hinjective⟩ := configuration_reads_back hfits
  refine ⟨hfits, hother, hread, ?_⟩
  intro htext
  exact absurd (hinjective other hother htext) (by decide)

end SmellRefactor

import SmellRefactor.Proofs.Failure.Rows
import SmellRefactor.Report.Format

/-!
# The outline of a Markdown report

The failures of a report are written row by row, with a heading where the smell name changes.  This
module gives the outline of the nested index instead: under each smell name that has a path there is
one heading, and behind it one bullet for each failed method.  Both come to the same, because the
rows of one smell name stand together.
-/

namespace SmellRefactor.Report

open Decimal (naturalText)

/-- A part of the text behind the table of numbers. -/
inductive Block where
  /-- The line that says that nothing failed. -/
  | applied
  /-- The heading of all failures. -/
  | title
  /-- The heading of one smell. -/
  | heading (smell : String)
  /-- One failed method. -/
  | bullet (path : Path) (method : Method)
deriving DecidableEq

namespace Block

/-- The text of a part. -/
def text : Block → String
  | applied => "All attempted refactorings were applied.\n"
  | title => "## Failed Refactorings\n"
  | heading smell => "\n" ++ "### " ++ smell ++ "\n" ++ "\n"
  | bullet path method => "- `" ++ method.name ++ "` in `" ++ path.text ++ "`\n"

/-- The smell name of a heading. -/
def smell? : Block → Option String
  | heading smell => some smell
  | _ => none

/-- Whether a part is a bullet. -/
def isBullet : Block → Bool
  | bullet _ _ => true
  | _ => false

/-- The pieces in which a part is written. -/
def pieces : Block → List String
  | applied => ["All attempted refactorings were applied.\n"]
  | title => ["## Failed Refactorings\n"]
  | heading smell => markdownHeading smell
  | bullet path method => markdownBullet path method

theorem join_pieces (b : Block) : String.join b.pieces = b.text := by
  cases b <;>
    simp only [pieces, text, markdownHeading, markdownBullet, String.join_cons, String.join_nil,
      String.append_empty, String.append_assoc]

end Block

/-! ## The outline -/

/-- The bullets of the failed methods of a path. -/
def bulletsOf (failed : Path × List Method) : List Block := failed.2.map (.bullet failed.1)

/-- The heading and the bullets of a smell name that has a path. -/
def blocksOf (e : String × FailedMethods) : List Block :=
  if e.2.isEmpty then [] else .heading e.1 :: e.2.entries.flatMap bulletsOf

/-- The parts of a report behind its numbers. -/
def outline (index : FailureIndex) : List Block :=
  if index.isEmpty then [.applied] else .title :: index.table.entries.flatMap blocksOf

theorem outline_eq_cons (index : FailureIndex) :
    outline index =
      (if index.isEmpty then .applied else .title) :: index.table.entries.flatMap blocksOf := by
  rw [outline]
  by_cases hempty : index.isEmpty = true
  · have hentries : index.table.entries = [] := List.isEmpty_iff.1 hempty
    rw [if_pos hempty, if_pos hempty, hentries, List.flatMap_nil]
  · rw [if_neg hempty, if_neg hempty]

/-- One line of the table of numbers. -/
def lineOf (title : String) (n : Nat) : String := "| " ++ title ++ " | " ++ naturalText n ++ " |\n"

/-- The heading of a report and its table of numbers. -/
def summaryText (s : Summary) : String :=
  "# Refactoring Report\n\n| Metric | Value |\n|--------|-------|\n" ++
    lineOf "Files" s.files ++ lineOf "Methods" s.methods ++ lineOf "Attempted" s.attempted ++
    lineOf "Resolved" s.resolved ++ lineOf "Failed" s.failed ++ "\n"

theorem join_markdownRow (title : String) (n : Nat) :
    String.join (markdownRow title n) = lineOf title n := by
  simp only [markdownRow, lineOf, String.join_cons, String.join_nil, String.append_empty,
    String.append_assoc]

theorem join_markdownSummary (s : Summary) :
    String.join (markdownSummary s) = summaryText s := by
  have htop : String.join
      ["# Refactoring Report\n", "\n", "| Metric | Value |\n", "|--------|-------|\n"] =
        "# Refactoring Report\n\n| Metric | Value |\n|--------|-------|\n" := by
    decide +kernel
  have hend : String.join ["\n"] = "\n" := by decide +kernel
  simp only [markdownSummary, String.join_append, htop, hend, join_markdownRow]
  rfl

theorem join_flatMap {α : Type u} (f : α → List String) (xs : List α) :
    String.join (xs.flatMap f) = String.join (xs.map fun x => String.join (f x)) := by
  induction xs with
  | nil => rfl
  | cons x rest ih =>
      rw [List.flatMap_cons, List.map_cons, String.join_append, String.join_cons, ih]

/-! ## The rows one after another -/

/-- The parts that are written for rows, given the smell name of the row before them. -/
def blocksOfRows : Option String → List FailureIndex.Row → List Block
  | _, [] => []
  | current, (smell, failed) :: rows =>
    (if current = some smell then [] else [.heading smell]) ++ bulletsOf failed ++
      blocksOfRows (some smell) rows

theorem markdownRows_eq_flatMap (current : Option String) (rows : List FailureIndex.Row) :
    markdownRows current rows = (blocksOfRows current rows).flatMap Block.pieces := by
  induction rows generalizing current with
  | nil => rfl
  | cons row rows ih =>
      obtain ⟨smell, path, methods⟩ := row
      rw [markdownRows, blocksOfRows, List.flatMap_append, List.flatMap_append, ← ih, bulletsOf,
        List.flatMap_map]
      by_cases h : current = some smell
      · rw [if_pos h, if_pos h]
        rfl
      · rw [if_neg h, if_neg h]
        rfl

/-- Further rows under the smell name of the row before them need no heading. -/
theorem blocksOfRows_append (name : String) (lists : List (Path × List Method))
    (rows : List FailureIndex.Row) :
    blocksOfRows (some name) (lists.map (fun failed => (name, failed.1, failed.2)) ++ rows) =
      lists.flatMap bulletsOf ++ blocksOfRows (some name) rows := by
  induction lists with
  | nil => rfl
  | cons failed rest ih =>
      rw [List.map_cons, List.cons_append, blocksOfRows, if_pos rfl, ih, List.nil_append,
        List.flatMap_cons, List.append_assoc]

/-- The rows of one smell name after another are written in the blocks of the smell names, if none
of them is the name of the row before. -/
theorem blocksOfRows_flatMap {entries : List (String × FailedMethods)}
    (hasc : Ascending entries) {current : Option String}
    (hnew : ∀ e ∈ entries, current ≠ some e.1) :
    blocksOfRows current (entries.flatMap FailureIndex.rowsUnder) =
      entries.flatMap blocksOf := by
  induction entries generalizing current with
  | nil => rfl
  | cons e rest ih =>
      obtain ⟨hhead, hrest⟩ := List.pairwise_cons.1 hasc
      obtain ⟨name, methods⟩ := e
      rw [List.flatMap_cons, List.flatMap_cons, FailureIndex.rowsUnder, blocksOf,
        OrderedMap.isEmpty]
      cases methods.entries with
      | nil => exact ih hrest fun f hf => hnew f (by simp [hf])
      | cons first lists =>
          -- the names behind are greater, so none of them continues this one
          have hnext : ∀ f ∈ rest, some name ≠ some f.1 := by
            rintro f hf heq
            have hlt : compare name f.1 = .lt := hhead f hf
            rw [Option.some.inj heq, Std.compare_eq_iff_eq.2 rfl] at hlt
            contradiction
          rw [List.map_cons, List.cons_append, blocksOfRows,
            if_neg (hnew (name, methods) (by simp)), blocksOfRows_append, ih hrest hnext]
          simp

/-- The rows of an index are written in the blocks of its smell names. -/
theorem blocksOfRows_rows (index : FailureIndex) :
    blocksOfRows none index.rows = index.table.entries.flatMap blocksOf :=
  blocksOfRows_flatMap index.table.ascending (by simp)

/-- A report is written as its numbers and the parts of its outline. -/
theorem markdownPieces_eq (r : Report) :
    r.markdownPieces =
      markdownSummary r.summary ++ (outline r.failures).flatMap Block.pieces := by
  rw [markdownPieces, markdownFailures, outline, hasFailures]
  by_cases hempty : r.failures.isEmpty = true
  · simp [hempty, Block.pieces]
  · simp [hempty, Block.pieces, markdownRows_eq_flatMap, blocksOfRows_rows]

theorem render_markdown (r : Report) (style : Style) :
    r.render .markdown style =
      summaryText r.summary ++ String.join ((outline r.failures).map Block.text) := by
  rw [render, pieces, markdownPieces_eq, String.join_append, join_markdownSummary, join_flatMap]
  simp only [Block.join_pieces]

/-! ## Headings and bullets -/

/-- The smell names that have a path. -/
def namesWithPaths (index : FailureIndex) : List String :=
  (index.table.entries.filter fun e => !e.2.isEmpty).map Prod.fst

theorem smell?_of_mem_bulletsOf {lists : List (Path × List Method)} {b : Block}
    (h : b ∈ lists.flatMap bulletsOf) : b.smell? = none := by
  obtain ⟨failed, -, hb⟩ := List.mem_flatMap.1 h
  obtain ⟨m, -, rfl⟩ := List.mem_map.1 hb
  rfl

theorem filterMap_smell?_blocksOf (e : String × FailedMethods) :
    (blocksOf e).filterMap Block.smell? = if e.2.isEmpty then [] else [e.1] := by
  rw [blocksOf]
  split
  · rfl
  · have hbullets : (e.2.entries.flatMap bulletsOf).filterMap Block.smell? = [] :=
      List.filterMap_eq_nil_iff.2 fun _ hb => smell?_of_mem_bulletsOf hb
    have hheading : (Block.heading e.1).smell? = some e.1 := rfl
    rw [List.filterMap_cons_some hheading, hbullets]

/-- The headings are the smell names that have a path. -/
theorem filterMap_smell?_outline (index : FailureIndex) :
    (outline index).filterMap Block.smell? = namesWithPaths index := by
  have hfirst : (if index.isEmpty then Block.applied else .title).smell? = none := by
    split <;> rfl
  rw [outline_eq_cons, namesWithPaths, List.filterMap_cons_none hfirst, List.filterMap_flatMap]
  simp only [filterMap_smell?_blocksOf]
  induction index.table.entries with
  | nil => rfl
  | cons e rest ih =>
      rw [List.flatMap_cons, ih]
      by_cases hempty : e.2.isEmpty = true <;> simp [hempty]

/-- The headings are in the order of their bytes, and none is repeated. -/
theorem pairwise_namesWithPaths (index : FailureIndex) :
    (namesWithPaths index).Pairwise fun a b => Text.bytes a < Text.bytes b := by
  rw [namesWithPaths, List.pairwise_map]
  exact (index.table.ascending.filter _).imp Text.compare_eq_lt_iff_bytes_lt.1

theorem countP_isBullet_blocksOf (e : String × FailedMethods) :
    (blocksOf e).countP Block.isBullet = tally List.length e.2.values := by
  have hbullets : (e.2.entries.flatMap bulletsOf).countP Block.isBullet =
      tally List.length e.2.values := by
    rw [countP_flatMap_eq_tally, OrderedMap.values, tally_map]
    apply tally_congr
    intro failed _
    simp [bulletsOf, List.countP_map, Function.comp_def, Block.isBullet]
  rw [blocksOf, ← hbullets]
  split
  case isTrue hempty =>
    rw [List.isEmpty_iff.1 hempty]
    rfl
  case isFalse => rw [List.countP_cons_of_neg (by simp [Block.isBullet])]

/-- There are as many bullets as failures. -/
theorem countP_isBullet_outline (index : FailureIndex) :
    (outline index).countP Block.isBullet = index.total := by
  have hfirst : ¬ (if index.isEmpty then Block.applied else .title).isBullet = true := by
    split <;> decide
  rw [outline_eq_cons, List.countP_cons_of_neg hfirst, FailureIndex.total, OrderedMap.values,
    countP_flatMap_eq_tally, tally_map]
  exact tally_congr fun e _ => countP_isBullet_blocksOf e

/-! ## The line that says that nothing failed -/

theorem join_outline_eq_iff (index : FailureIndex) :
    String.join ((outline index).map Block.text) = Block.applied.text ↔ index.isEmpty = true := by
  rw [outline]
  by_cases hempty : index.isEmpty = true
  · rw [if_pos hempty]
    exact ⟨fun _ => hempty, fun _ => by simp [String.join_cons]⟩
  · rw [if_neg hempty]
    refine ⟨?_, fun h => absurd h hempty⟩
    intro htext
    have hfirst := congrArg (fun s => s.toList.head?) htext
    rw [List.map_cons, String.join_cons] at hfirst
    simp [Block.text] at hfirst

/-- A Markdown report is its table of numbers and, behind it, the parts of its outline, also where
the text is written piece by piece.  The headings of the outline are the smell names that have a
path, by their bytes and each once, and there is one bullet for each failure.  Without empty parts
in the index, the report says that nothing failed exactly when the report on a run with this index
counts no failure. -/
theorem markdown_nested (r : Report) (style : Style) :
    r.render .markdown style =
        summaryText r.summary ++ String.join ((outline r.failures).map Block.text) ∧
      r.markdownPieces =
        markdownSummary r.summary ++ (outline r.failures).flatMap Block.pieces ∧
      (outline r.failures).filterMap Block.smell? = namesWithPaths r.failures ∧
      (namesWithPaths r.failures).Pairwise (fun a b => Text.bytes a < Text.bytes b) ∧
      (outline r.failures).countP Block.isBullet = r.failures.total ∧
      (r.failures.Canonical → ∀ attempted w,
        (r.render .markdown style = summaryText r.summary ++ Block.applied.text ↔
          (ofRun attempted w r.failures).summary.failed = 0)) := by
  refine ⟨r.render_markdown style, r.markdownPieces_eq, filterMap_smell?_outline r.failures,
    pairwise_namesWithPaths r.failures, countP_isBullet_outline r.failures, ?_⟩
  intro hcanonical attempted w
  have hcount : (ofRun attempted w r.failures).summary.failed = r.failures.total := rfl
  rw [render_markdown, String.append_right_inj, join_outline_eq_iff, hcount,
    hcanonical.isEmpty_iff]

/-- Methods failed under two smell names, one of them at two paths. -/
theorem markdown_nested_smells :
    let load : Method := ⟨"load", [.deepNesting]⟩
    let save : Method := ⟨"save", [.deepNesting, .dataClump]⟩
    let failures : FailureIndex :=
      .ofTable (.ofList
        [("Deep Nesting", .ofList [(⟨"b.java"⟩, [load]), (⟨"a.java"⟩, [save, load])]),
          ("Data Clump", .ofList [(⟨"a.java"⟩, [save])])])
    let w : Workload := .ofList [(⟨"a.java"⟩, [save, load]), (⟨"b.java"⟩, [load])]
    let r : Report := ofRun 5 w failures
    r.failures.Canonical ∧ r.summary.failed = 4 ∧
      r.render .markdown .plain ≠ summaryText r.summary ++ Block.applied.text ∧
      outline r.failures =
        [.title, .heading "Data Clump", .bullet ⟨"a.java"⟩ save, .heading "Deep Nesting",
          .bullet ⟨"a.java"⟩ save, .bullet ⟨"a.java"⟩ load, .bullet ⟨"b.java"⟩ load] := by
  intro load save failures w r
  have hcanonical : r.failures.Canonical := FailureIndex.canonical_ofTable _
  have hfailed : r.summary.failed = 4 := by decide
  obtain ⟨-, -, -, -, -, hline⟩ := markdown_nested r .plain
  refine ⟨hcanonical, hfailed, ?_, by decide⟩
  intro htext
  have hnone : r.summary.failed = 0 := (hline hcanonical 5 w).1 htext
  omega

end SmellRefactor.Report

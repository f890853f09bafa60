import SmellRefactor.Proofs.Json.Group
import SmellRefactor.Proofs.Map.Lookup
import SmellRefactor.Json.Decode
import SmellRefactor.Report.Format

/-!
# Reports, indices and methods are read back

Whatever a method, a failure index or a report holds, reading its JSON text gives it back: every
name and every path as it was spelled, repeated smells, empty lists and empty groups included.  The
numbers of a report are read as words of 64 bits, so they have to fit into such words.
-/

namespace SmellRefactor

/-- Whether the numbers of a summary fit into 64 bits. -/
structure Summary.Fits (s : Summary) : Prop where
  files : s.files ≤ Decimal.maxWord
  methods : s.methods ≤ Decimal.maxWord
  attempted : s.attempted ≤ Decimal.maxWord
  resolved : s.resolved ≤ Decimal.maxWord
  failed : s.failed ≤ Decimal.maxWord

theorem CodeSmell.ofKey?_key (smell : CodeSmell) : ofKey? smell.key = some smell := by
  cases smell <;> decide

namespace Json

theorem reads_smell (smell : CodeSmell) : Reads readSmell (smellDocument smell) smell := by
  intro layout depth blanks rest p hblank _
  obtain ⟨text, p₁, p₂, hskip, hread⟩ := exists_skipGap_writeText smell.key hblank rest p
  refine ⟨p₂, ?_⟩
  rw [smellDocument, Document.write]
  simp [readSmell, hskip, Cursor.next, hread, CodeSmell.ofKey?_key]

variable {π α : Type}

/-- A plain field stores what its value is read back as. -/
theorem reads_plain {name : String} {get : π → Option α} {set : π → α → π} {item : Reader α}
    {optional : Bool} {d : Document} {a : α} (hitem : Reads item d a) (built : π) :
    Reads ((Field.plain name get set item optional).read built) d (set built a) :=
  hitem.map (set built)

theorem reads_method (m : Method) : Reads readMethod (methodDocument m) m := by
  have hsmells : Reads (readList readSmell) (.list (m.smells.map smellDocument)) m.smells :=
    reads_list fun smell _ => reads_smell smell
  have hfills : Fills methodShape methodShape.blank
      [("name", .text m.name), ("code_smells", .list (m.smells.map smellDocument))]
      ⟨some m.name, some m.smells⟩ :=
    .cons rfl rfl (reads_plain (reads_text m.name) _) <|
      .cons rfl rfl (reads_plain hsmells _) .nil
  exact hfills.reads rfl

/-- Members that are read back as files, one by one, are read back together in their order. -/
theorem reads_fileMembers {members : List (String × Document)}
    {files : List (Path × List Method)}
    (h : List.Forall₂ (fun member file =>
      ReadsMember (readList readMethod) member (file.1.text, file.2)) members files) :
    Reads readFiles (.object members) files := by
  let entries := files.map fun file => (file.1.text, file.2)
  have hentries : List.Forall₂ (ReadsMember (readList readMethod)) members entries :=
    List.forall₂_map_right_iff.2 h
  have hpaths : asPaths entries = files := by
    simp [asPaths, entries, Function.comp_def]
  have hread := (reads_members hentries).map asPaths
  rw [hpaths] at hread
  exact hread

theorem reads_files (files : List (Path × List Method)) :
    Reads readFiles (filesDocument files) files := by
  apply reads_fileMembers
  rw [List.forall₂_map_left_iff, List.forall₂_same]
  exact fun _ _ => ⟨rfl, reads_list fun m _ => reads_method m⟩

theorem reads_methodTable (table : OrderedMap Path (List Method)) :
    Reads readMethodTable (filesDocument table.entries) table := by
  have htable := (reads_files table.entries).map OrderedMap.ofList
  rw [OrderedMap.ofList_entries] at htable
  exact htable

theorem reads_index (index : FailureIndex) : Reads readIndex (indexDocument index) index := by
  have hentries : ∀ e ∈ index.table.entries,
      Reads readMethodTable (filesDocument e.2.entries) e.2 :=
    fun e _ => reads_methodTable e.2
  have hread := (reads_object (fun methods : FailedMethods => filesDocument methods.entries)
    hentries).map fun members => FailureIndex.mk (.ofList members)
  rw [OrderedMap.ofList_entries] at hread
  exact hread

theorem reads_summary {s : Summary} (h : s.Fits) :
    Reads summaryShape.read (summaryDocument s) s := by
  have hfills : Fills summaryShape summaryShape.blank
      [("files", .natural s.files), ("methods", .natural s.methods),
        ("attempted", .natural s.attempted), ("resolved", .natural s.resolved),
        ("failed", .natural s.failed)]
      ⟨some s.files, some s.methods, some s.attempted, some s.resolved, some s.failed⟩ :=
    .cons rfl rfl (reads_plain (reads_natural h.files) _) <|
      .cons rfl rfl (reads_plain (reads_natural h.methods) _) <|
      .cons rfl rfl (reads_plain (reads_natural h.attempted) _) <|
      .cons rfl rfl (reads_plain (reads_natural h.resolved) _) <|
      .cons rfl rfl (reads_plain (reads_natural h.failed) _) .nil
  exact hfills.reads rfl

theorem reads_report {r : Report} (h : r.summary.Fits) :
    Reads readReport (reportDocument r) r := by
  have hfills : Fills reportShape reportShape.blank
      [("summary", summaryDocument r.summary), ("failures", indexDocument r.failures),
        ("unresolved", filesDocument r.unresolved.entries)]
      ⟨some r.summary, some r.failures, some r.unresolved⟩ :=
    .cons rfl rfl (reads_plain (reads_summary h) _) <|
      .cons rfl rfl (reads_plain (reads_index r.failures) _) <|
      .cons rfl rfl (reads_plain (reads_methodTable r.unresolved) _) .nil
  exact hfills.reads rfl

/-- A whole text of a document, perhaps with blanks around it, is read back. -/
theorem readDocument_between {item : Reader α} {d : Document} {a : α} (h : Reads item d a)
    (layout : Layout) {before after : List Char} (hbefore : Blank before) (hafter : Blank after) :
    readDocument item (String.ofList (before ++ (d.write layout 0 ++ after))) = .ok a := by
  have hend : endsNumber (after ++ []) = true := endsNumber_append hafter rfl
  have htoken : atToken [] = true := rfl
  obtain ⟨p, hread⟩ := h layout 0 before (after ++ []) Position.start hbefore hend
  obtain ⟨p', hskip⟩ := Cursor.exists_skipGap hafter htoken p
  rw [List.append_nil] at hread hskip
  simp [readDocument, Cursor.ofText, hread, hskip, bind, Except.bind]
  rfl

/-- A whole text of a document, perhaps with blanks at its end, is read back. -/
theorem readDocument_eq {item : Reader α} {d : Document} {a : α} (h : Reads item d a)
    (layout : Layout) {blanks : List Char} (hblank : Blank blanks) :
    readDocument item (String.ofList (d.write layout 0 ++ blanks)) = .ok a := by
  have hread := readDocument_between h layout (by simp [Blank] : Blank []) hblank
  rwa [List.nil_append] at hread

theorem readDocument_compact {item : Reader α} {d : Document} {a : α} (h : Reads item d a) :
    readDocument item d.compact = .ok a := by
  have hread := readDocument_eq h .compact (by simp [Blank] : Blank [])
  rwa [List.append_nil] at hread

end Json

open Json

/-- The JSON text of a report is read back as this report, and the text of an index or of a method
on one line as this index or this method. -/
theorem json_reads_back :
    (∀ r : Report, r.summary.Fits → ∀ style, reportOfText (r.render .json style) = .ok r) ∧
      (∀ index : FailureIndex, indexOfText (indexDocument index).compact = .ok index) ∧
      ∀ m : Method, methodOfText (methodDocument m).compact = .ok m := by
  refine ⟨?_, ?_, ?_⟩
  · intro r hfits style
    have htext : r.render .json style =
        String.ofList ((reportDocument r).write .indented 0 ++ ['\n']) := by
      simp [Report.render, Report.pieces, Report.jsonPieces, Document.indented, String.join]
    have hnewline : Blank ['\n'] := by simp [Blank, Cursor.isGap]
    rw [htext]
    exact readDocument_eq (reads_report hfits) .indented hnewline
  · exact fun index => readDocument_compact (reads_index index)
  · exact fun m => readDocument_compact (reads_method m)

/-- A report with the greatest count, a repeated smell, an empty list and an empty group, whose
names hold quotes, backslashes, control characters and letters beyond ASCII. -/
theorem json_reads_back_odd :
    let load : Method := ⟨"l\u00f6ad \"all\"\t\x01", [.deepNesting, .longMethod, .deepNesting]⟩
    let failed : FailedMethods := .ofList [(⟨"src//a\\b.java"⟩, [load]), (⟨"b/./c"⟩, [])]
    let report : Report :=
      ⟨⟨2, 1, 3, 2, 18446744073709551615⟩, ⟨.ofList [("no\nname", failed), ("", .empty)]⟩,
        .ofList [(⟨"/\u65e5\u672c/"⟩, [load, load])]⟩
    report.summary.Fits ∧ reportOfText (report.render .json .plain) = .ok report ∧
      report.failures.table.size = 2 ∧ failed.size = 2 := by
  intro load failed report
  have hfits : report.summary.Fits := ⟨by decide, by decide, by decide, by decide, by decide⟩
  exact ⟨hfits, json_reads_back.1 report hfits .plain, by decide, by decide⟩

end SmellRefactor

import Mathlib.Data.List.Induction
import SmellRefactor.Proofs.Json.RoundTrip

/-!
# Workloads are read back

A workload is read from an object with a member for each file, whose key is the path and whose value
lists the methods.  Keys may be repeated, and different keys may be the same path.  The workload is
then the one that inserting the files one after another makes: the last list of a path wins, and the
first spelling of a path stays.
-/

namespace SmellRefactor

/-! ## Files inserted one after another -/

namespace Workload

/-- What a path finds after a `put`. -/
theorem pairAt?_put (path other : Path) (methods : List Method)
    (files : List (Path × List Method)) :
    Entries.pairAt? other (put path methods files) =
      if compare other path = .eq then
        some (((Entries.pairAt? path files).map Prod.fst).getD path, methods)
      else Entries.pairAt? other files := by
  induction files with
  | nil =>
      by_cases h : compare other path = .eq
      · simp [put, h, Entries.pairAt?_cons_of_eq]
      · simp [put, h, Entries.pairAt?_cons_of_ne]
  | cons file files ih =>
      obtain ⟨p, old⟩ := file
      by_cases hpath : compare path p = .eq
      · have hother : compare other path = compare other p := Std.TransCmp.congr_right hpath
        rw [put, if_pos hpath, Entries.pairAt?_cons_of_eq (e := (p, old)) hpath, hother]
        by_cases h : compare other p = .eq
        · simp [h, Entries.pairAt?_cons_of_eq]
        · simp [h, Entries.pairAt?_cons_of_ne]
      · rw [put, if_neg hpath, Entries.pairAt?_cons_of_ne (e := (p, old)) hpath]
        by_cases h : compare other p = .eq
        · have hother : compare other path ≠ .eq := by
            intro heq
            rw [← Std.TransCmp.congr_left heq] at hpath
            exact hpath h
          rw [if_neg hother, Entries.pairAt?_cons_of_eq (e := (p, old)) h,
            Entries.pairAt?_cons_of_eq (e := (p, old)) h]
        · rw [Entries.pairAt?_cons_of_ne (e := (p, old)) h,
            Entries.pairAt?_cons_of_ne (e := (p, old)) h, ih]

theorem files_ofList_append_singleton (files : List (Path × List Method))
    (file : Path × List Method) :
    (ofList (files ++ [file])).files = put file.1 file.2 (ofList files).files := by
  rw [ofList, List.foldl_append]
  rfl

/-- Of the lists that are inserted for a path, the last one is found. -/
theorem find?_ofList (files : List (Path × List Method)) (path : Path) :
    (ofList files).find? path = (Entries.pairAt? path files.reverse).map Prod.snd := by
  rw [find?, Entries.find?_eq_map_pairAt?]
  induction files using List.reverseRecOn with
  | nil => rfl
  | append_singleton files file ih =>
      rw [files_ofList_append_singleton, pairAt?_put, List.reverse_append, List.reverse_singleton,
        List.singleton_append]
      by_cases h : compare path file.1 = .eq
      · rw [if_pos h, Entries.pairAt?_cons_of_eq h]
        rfl
      · rw [if_neg h, Entries.pairAt?_cons_of_ne h, ih]

/-- Of the spellings of a path that are inserted, the first one stays. -/
theorem spelling_ofList (files : List (Path × List Method)) (path : Path) :
    (Entries.pairAt? path (ofList files).files).map Prod.fst =
      (Entries.pairAt? path files).map Prod.fst := by
  induction files using List.reverseRecOn with
  | nil => rfl
  | append_singleton files file ih =>
      have happend : Entries.pairAt? path (files ++ [file]) =
          (Entries.pairAt? path files).or (Entries.pairAt? path [file]) :=
        List.find?_append
      rw [files_ofList_append_singleton, pairAt?_put, happend]
      by_cases h : compare path file.1 = .eq
      · rw [if_pos h, Entries.pairAt?_cons_of_eq h, ← Entries.pairAt?_congr h, ih]
        cases Entries.pairAt? path files <;> rfl
      · rw [if_neg h, ih, Entries.pairAt?_cons_of_ne h, Entries.pairAt?_nil, Option.or_none]

end Workload

namespace Json

/-! ## Documents of methods and files -/

/-- The documents of a method: all of its fields, or its name alone when it has no smells. -/
inductive DescribesMethod : Document → Method → Prop
  | full (m : Method) : DescribesMethod (methodDocument m) m
  | bare (name : String) : DescribesMethod (.object [("name", .text name)]) ⟨name, []⟩

/-- The members for a file: the path as it is spelled, with documents of its methods. -/
inductive DescribesFile : String × Document → Path × List Method → Prop
  | intro {documents : List Document} {methods : List Method} (path : Path)
      (hmethods : List.Forall₂ DescribesMethod documents methods) :
      DescribesFile (path.text, .list documents) (path, methods)

theorem DescribesMethod.reads {d : Document} {m : Method} (h : DescribesMethod d m) :
    Reads readMethod d m := by
  cases h with
  | full => exact reads_method m
  | bare name =>
      have hfills : Fills methodShape methodShape.blank [("name", .text name)] ⟨some name, none⟩ :=
        .cons rfl rfl (reads_plain (reads_text name) _) .nil
      exact hfills.reads rfl

theorem DescribesFile.reads {member : String × Document} {file : Path × List Method}
    (h : DescribesFile member file) :
    ReadsMember (readList readMethod) member (file.1.text, file.2) := by
  cases h with
  | intro path hmethods =>
      exact ⟨rfl, reads_items (hmethods.imp fun _ _ hmethod => hmethod.reads)⟩

/-- Members for files are read back as these files, in their order. -/
theorem reads_described {members : List (String × Document)} {files : List (Path × List Method)}
    (h : List.Forall₂ DescribesFile members files) :
    Reads readFiles (.object members) files :=
  reads_fileMembers (h.imp fun _ _ hfile => hfile.reads)

end Json

open Json

/-- The text of an object that lists files one after another, in either layout and with blanks
around it, is read as the workload in which these files were inserted one after another.  A path
finds there the methods of the last file whose path has the same components, as they were listed,
and the path is spelled as in the first of these files. -/
theorem workload_reads_back {members : List (String × Document)}
    {files : List (Path × List Method)} (hmembers : List.Forall₂ DescribesFile members files)
    (layout : Layout) {before after : List Char} (hbefore : Blank before) (hafter : Blank after) :
    let w := Workload.ofList files
    let text := String.ofList (before ++ ((Document.object members).write layout 0 ++ after))
    workloadOfText text = .ok w ∧ ∀ path : Path,
      let isHere := fun file : Path × List Method => decide (file.1.components = path.components)
      w.find? path = (files.reverse.find? isHere).map Prod.snd ∧
        (w.files.find? isHere).map Prod.fst = (files.find? isHere).map Prod.fst := by
  intro w text
  constructor
  · have hread := (reads_described hmembers).map Workload.ofList
    exact readDocument_between hread layout hbefore hafter
  · intro path isHere
    have hhere : isHere = fun file => compare path file.1 == .eq := by
      funext file
      rw [Bool.eq_iff_iff, decide_eq_true_eq, beq_iff_eq, Path.compare_eq_iff, eq_comm]
    rw [hhere]
    exact ⟨Workload.find?_ofList files path, Workload.spelling_ofList files path⟩

/-- One key occurs twice and once more in another spelling, one method leaves out its smells and one
repeats them, and the texts hold quotes, control characters and letters beyond ASCII. -/
theorem workload_reads_back_odd :
    let load : Method := ⟨"l\u00f6ad \"all\"\x01", [.deepNesting, .longMethod, .deepNesting]⟩
    let odd : Method := ⟨"\u65e5\u672c", []⟩
    let files : List (Path × List Method) :=
      [(⟨"\u00e4//b"⟩, [odd]), (⟨""⟩, [load]), (⟨"\u00e4/./b/"⟩, [load, odd, odd, load]),
        (⟨""⟩, [])]
    let bare : Document := .object [("name", .text odd.name)]
    let members : List (String × Document) :=
      [("\u00e4//b", .list [bare]), ("", .list [methodDocument load]),
        ("\u00e4/./b/", .list [methodDocument load, bare, methodDocument odd, methodDocument load]),
        ("", .list [])]
    let w := Workload.ofList files
    let text := String.ofList ([' '] ++ ((Document.object members).write .indented 0 ++ ['\n']))
    (List.Forall₂ DescribesFile members files ∧ Blank [' '] ∧ Blank ['\n']) ∧
      workloadOfText text = .ok w ∧ w.find? ⟨"\u00e4/b"⟩ = some [load, odd, odd, load] ∧
      w.find? ⟨""⟩ = some [] ∧ w.files.map Prod.fst = [⟨"\u00e4//b"⟩, ⟨""⟩] := by
  intro load odd files bare members w text
  have hbare : DescribesMethod bare odd := .bare odd.name
  have hmembers : List.Forall₂ DescribesFile members files :=
    .cons (.intro ⟨"\u00e4//b"⟩ (.cons hbare .nil)) <|
      .cons (.intro ⟨""⟩ (.cons (.full load) .nil)) <|
      .cons (.intro ⟨"\u00e4/./b/"⟩
        (.cons (.full load) (.cons hbare (.cons (.full odd) (.cons (.full load) .nil))))) <|
      .cons (.intro ⟨""⟩ .nil) .nil
  have hspace : Blank [' '] := by simp [Blank, Cursor.isGap]
  have hnewline : Blank ['\n'] := by simp [Blank, Cursor.isGap]
  obtain ⟨hread, hfind⟩ := workload_reads_back hmembers .indented hspace hnewline
  refine ⟨⟨hmembers, hspace, hnewline⟩, hread, ?_, ?_, by decide⟩
  · exact (hfind ⟨"\u00e4/b"⟩).1.trans (by decide)
  · exact (hfind ⟨""⟩).1.trans (by decide)

end SmellRefactor

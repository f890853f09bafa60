import SmellRefactor.Proofs.Text.StyleCode
import SmellRefactor.Report.Format

/-!
# Colours of a terminal report

Whether a report is written for a terminal with colours or without them, the same is left when all
style codes are removed, also where names and paths hold codes of their own, whole or broken off.
Behind every text in a style and every name, path or number stands a piece that no code can reach
into or out of, so that the parts of a report between such pieces can be looked at one by one.
-/

namespace SmellRefactor.Report

open Decimal (naturalText)
open Text (isBreak isParameter separates IsCode behindCode? behindParameters? withoutCodes Alike)

/-! ## Texts in a style -/

theorem isCode_styleStart {codes : String} (h : ∀ c ∈ codes.toList, isParameter c = true) :
    IsCode (styleStart codes) :=
  ⟨codes.toList, h, rfl⟩

theorem isCode_styleEnd : IsCode styleEnd := ⟨['0'], List.forall_mem_singleton.2 rfl, rfl⟩

theorem resume_cons_of_ne {codes : String} {c : Char} {rest : List Char}
    (h : ∀ other, c = '\x1b' → rest ≠ '[' :: '0' :: 'm' :: other) :
    resume codes (c :: rest) = c :: resume codes rest := by
  rw [resume]
  exact h

theorem resume_cons {c : Char} (hc : c ≠ '\x1b') (codes : String) (rest : List Char) :
    resume codes (c :: rest) = c :: resume codes rest :=
  resume_cons_of_ne fun _ hescape => absurd hescape hc

theorem resume_append {codes : String} {front : List Char} (h : '\x1b' ∉ front)
    (rest : List Char) : resume codes (front ++ rest) = front ++ resume codes rest := by
  induction front with
  | nil => rfl
  | cons c front ih =>
      rw [List.mem_cons, not_or] at h
      rw [List.cons_append, resume_cons (Ne.symm h.1), ih h.2, List.cons_append]

theorem exists_resume_cons (codes : String) (c : Char) (rest : List Char) :
    ∃ others, resume codes (c :: rest) = c :: others := by
  have hhead : ∀ text, (resume codes text).head? = text.head? := by
    intro text
    fun_cases resume codes text <;> rfl
  exact List.head?_eq_some_iff.1 (hhead (c :: rest))

/-- A code of the text stays where it is, and the style is started again behind it or not. -/
theorem exists_resume_code_append (codes : String) {code : List Char} (h : IsCode code)
    (rest : List Char) :
    ∃ again, (again = [] ∨ again = styleStart codes) ∧
      resume codes (code ++ rest) = code ++ (again ++ resume codes rest) := by
  obtain ⟨parameters, hparameters, rfl⟩ := h
  by_cases hend : parameters = ['0']
  · refine ⟨styleStart codes, .inr rfl, ?_⟩
    rw [hend, ← List.append_assoc]
    rfl
  · refine ⟨[], .inl rfl, ?_⟩
    have hm : isParameter 'm' = false := by decide
    have hescape : '\x1b' ∉ '[' :: (parameters ++ ['m']) := by
      simp only [List.mem_cons, List.mem_append, List.not_mem_nil, or_false, not_or]
      refine ⟨by decide, fun hmem => ?_, by decide⟩
      exact absurd (hparameters _ hmem) (by decide)
    rw [List.cons_append, resume_cons_of_ne, resume_append hescape]
    · rfl
    · rintro other - htext
      -- only the code without other parameters than zero ends a style
      have htail : parameters ++ 'm' :: rest = '0' :: 'm' :: other := by simpa using htext
      rcases parameters with _ | ⟨c, _ | ⟨d, parameters⟩⟩
      · exact absurd (List.cons.inj htail).1 (by decide)
      · exact hend (by rw [(List.cons.inj htail).1])
      · have hd := hparameters d (by simp)
        rw [(List.cons.inj (List.cons.inj htail).2).1, hm] at hd
        contradiction

/-- The parameters of a code are no place where a style is started again. -/
theorem behindParameters?_resume (codes : String) (text : List Char) :
    behindParameters? (resume codes text) = (behindParameters? text).map (resume codes) := by
  induction text with
  | nil => rfl
  | cons c rest ih =>
      by_cases hc : c = '\x1b'
      · obtain ⟨others, hresume⟩ := exists_resume_cons codes c rest
        rw [hresume, hc]
        rfl
      · rw [resume_cons hc, behindParameters?, behindParameters?, ih]
        split
        · rfl
        · split <;> rfl

/-- Where no code begins, none begins when the style is started again further on. -/
theorem behindCode?_resume (codes : String) {c : Char} {rest : List Char}
    (h : behindCode? (c :: rest) = none) :
    resume codes (c :: rest) = c :: resume codes rest ∧
      behindCode? (c :: resume codes rest) = none := by
  constructor
  · rw [resume]
    rintro other rfl rfl
    contradiction
  · cases rest with
    | nil => exact h
    | cons d rest =>
        by_cases hcode : c = '\x1b' ∧ d = '['
        · obtain ⟨rfl, rfl⟩ := hcode
          have hnone : behindParameters? rest = none := h
          rw [resume_cons (by decide), behindCode?, behindParameters?_resume, hnone]
          rfl
        · obtain ⟨others, hresume⟩ := exists_resume_cons codes d rest
          rw [hresume]
          exact Text.behindCode?_eq_none (fun hc hd => hcode ⟨hc, hd⟩) others

/-- Starting a style again adds nothing but codes. -/
theorem withoutCodes_resume {codes : String} (h : ∀ c ∈ codes.toList, isParameter c = true)
    (text : List Char) : withoutCodes (resume codes text) = withoutCodes text := by
  induction text using Text.withoutCodes.induct with
  | case1 => rfl
  | case2 c rest behind hbehind ih =>
      obtain ⟨code, hcode, htext⟩ := Text.behindCode?_eq_some_iff.1 hbehind
      obtain ⟨again, hagain, hresume⟩ := exists_resume_code_append codes hcode behind
      rw [htext, hresume, Text.withoutCodes_code_append hcode, Text.withoutCodes_code_append hcode,
        ← ih]
      rcases hagain with rfl | rfl
      · rfl
      · exact Text.withoutCodes_code_append (isCode_styleStart h) _
  | case3 c rest hnone ih =>
      obtain ⟨hresume, hnone'⟩ := behindCode?_resume codes hnone
      rw [hresume, Text.withoutCodes_cons hnone', Text.withoutCodes_cons hnone, ih]

/-- A text in a style and the text itself differ in codes only. -/
theorem withoutCodes_paint (style : Style) {codes : String}
    (h : ∀ c ∈ codes.toList, isParameter c = true) (text : String) :
    withoutCodes (String.join (style.paint codes text)).toList = withoutCodes text.toList := by
  cases style with
  | plain => rw [Style.paint, String.join_cons, String.join_nil, String.append_empty]
  | colored =>
      have hend : withoutCodes styleEnd = [] := by
        have happend := Text.withoutCodes_code_append isCode_styleEnd []
        rwa [List.append_nil, withoutCodes] at happend
      have hbreak : isBreak '\x1b' = true := by decide
      have hjoin : (String.join (Style.colored.paint codes text)).toList =
          styleStart codes ++ (resume codes text.toList ++ styleEnd) := by
        simp [Style.paint]
      rw [hjoin, Text.withoutCodes_code_append (isCode_styleStart h), styleEnd,
        Text.withoutCodes_append hbreak, ← styleEnd, hend, List.append_nil, withoutCodes_resume h]

/-! ## The pieces of a report -/

variable (style style' : Style)

theorem alike_paint {codes : String} (h : codes.toList.all isParameter = true) (text : String)
    {next : String} {back back' : List String} (hnext : separates next = true)
    (hback : Alike back back') :
    Alike (style.paint codes text ++ next :: back) (style'.paint codes text ++ next :: back') := by
  have hparameters := List.all_eq_true.1 h
  apply Alike.part _ hnext hback
  rw [withoutCodes_paint style hparameters, withoutCodes_paint style' hparameters]

theorem alike_terminalSummary (s : Summary) :
    Alike (terminalSummary style s) (terminalSummary style' s) := by
  simp only [terminalSummary, List.append_assoc, List.cons_append, List.nil_append]
  exact alike_paint _ _ (by decide) _ (by decide) <| .separator (by decide) <|
    .piece _ (by decide) <| .piece _ (by decide) <| .piece _ (by decide) <|
    .separator (by decide) <| alike_paint _ _ (by decide) _ (by decide) <|
    .piece _ (by decide) <| alike_paint _ _ (by decide) _ (by decide) <|
    .piece _ (by decide) .nil

theorem alike_line {lead codes : String} (hlead : separates lead = true)
    (h : codes.toList.all isParameter = true) (text last : String) :
    Alike ([lead] ++ style.paint codes text ++ [" ", last, "\n"])
      ([lead] ++ style'.paint codes text ++ [" ", last, "\n"]) := by
  simp only [List.cons_append, List.nil_append]
  exact .separator hlead <| alike_paint _ _ h _ (by decide) <| .piece _ (by decide) .nil

theorem alike_terminalRow (row : String × Path × List Method) :
    Alike (terminalRow style row) (terminalRow style' row) := by
  apply Alike.append
  · exact alike_line _ _ (by decide) (by decide) row.1 row.2.1.text
  · apply Alike.flatMap
    exact fun m => alike_line _ _ (by decide) (by decide) "✗" m.name

theorem alike_terminalPieces (r : Report) :
    Alike (r.terminalPieces style) (r.terminalPieces style') :=
  (alike_terminalSummary style style' r.summary).append
    (Alike.flatMap (alike_terminalRow style style') r.failures.rows)

/-- A report in colours and the report without them are the same once all style codes are removed,
whatever codes the names and paths themselves hold; and if the report without colours holds no code,
this is what is left of the one in colours. -/
theorem withoutCodes_render_colored (r : Report) :
    withoutCodes (r.render .terminal .colored).toList =
        withoutCodes (r.render .terminal .plain).toList ∧
      (Text.CodeFree (r.render .terminal .plain).toList →
        withoutCodes (r.render .terminal .colored).toList =
          (r.render .terminal .plain).toList) := by
  have hsame : withoutCodes (r.render .terminal .colored).toList =
      withoutCodes (r.render .terminal .plain).toList :=
    (alike_terminalPieces .colored .plain r).withoutCodes_join
  exact ⟨hsame, fun hfree => hsame.trans hfree.withoutCodes_eq⟩

/-- A smell and a method whose names break off in the middle of a code. -/
theorem withoutCodes_render_colored_broken :
    let failures : FailureIndex :=
      .ofTable (.ofList [("Long\x1b[", .ofList [(⟨"0m.java"⟩, [⟨"load\x1b[31", []⟩])])])
    let r := ofRun 1 .empty failures
    Text.CodeFree (r.render .terminal .plain).toList ∧
      r.render .terminal .colored ≠ r.render .terminal .plain ∧
      withoutCodes (r.render .terminal .colored).toList = (r.render .terminal .plain).toList := by
  intro failures r
  have hfree : Text.CodeFree (r.render .terminal .plain).toList := by decide +kernel
  exact ⟨hfree, by decide, (withoutCodes_render_colored r).2 hfree⟩

end SmellRefactor.Report

import Mathlib.Data.List.TakeWhile
import SmellRefactor.Path.Ancestors
import SmellRefactor.Proofs.Path.Components

/-!
# The parent of a directory

The parent of a path has its components without the last one, however the path is spelled.  The root
and the path without components have no parent.
-/

namespace SmellRefactor

theorem Component.ofSegment?_ne_root (segment : List Char) : ofSegment? segment ≠ some root := by
  fun_cases ofSegment? segment <;> simp

namespace Path

/-! ## Bodies cut at a slash -/

theorem segments_append_slash (front back : List Char) :
    segments (front ++ '/' :: back) = segments front ++ segments back := by
  induction front with
  | nil => rfl
  | cons c front ih =>
      obtain ⟨first, others, hfront⟩ := exists_segments_eq_cons front
      rw [List.cons_append, segments, segments, ih, hfront]
      by_cases hc : c = '/'
      · rw [if_pos hc, if_pos hc]
        rfl
      · rw [if_neg hc, if_neg hc]
        rfl

theorem segments_of_not_mem {text : List Char} (h : '/' ∉ text) : segments text = [text] := by
  induction text with
  | nil => rfl
  | cons c text ih =>
      rw [List.mem_cons, not_or] at h
      rw [segments, if_neg (Ne.symm h.1), ih h.2]

/-- The components that the body of a path contributes. -/
def bodyComponents (body : List Char) : List Component :=
  (segments body).filterMap Component.ofSegment?

theorem componentsOf_eq {text body : List Char} {start : Start} (h : split text = (start, body)) :
    componentsOf text = start.component?.toList ++ bodyComponents body := by
  rw [componentsOf, h]
  rfl

theorem bodyComponents_append_slash (front back : List Char) :
    bodyComponents (front ++ '/' :: back) = bodyComponents front ++ bodyComponents back := by
  rw [bodyComponents, segments_append_slash, List.filterMap_append]
  rfl

theorem bodyComponents_of_not_mem {text : List Char} (h : '/' ∉ text) :
    bodyComponents text = (Component.ofSegment? text).toList := by
  rw [bodyComponents, segments_of_not_mem h]
  cases hcomponent : Component.ofSegment? text <;> simp [hcomponent]

/-- The components of a body are those up to its last slash and that of what stands behind it. -/
theorem bodyComponents_reverse (backwards : List Char) :
    bodyComponents backwards.reverse =
      bodyComponents (backwards.dropWhile (· ≠ '/')).reverse ++
        (Component.ofSegment? (backwards.takeWhile (· ≠ '/')).reverse).toList := by
  have hslash : '/' ∉ (backwards.takeWhile (· ≠ '/')).reverse := by
    rw [List.mem_reverse]
    intro hmem
    simpa using List.mem_takeWhile_imp hmem
  have hcut := List.takeWhile_append_dropWhile (p := (· ≠ '/')) (l := backwards)
  cases htail : backwards.dropWhile (· ≠ '/') with
  | nil =>
      rw [htail, List.append_nil] at hcut
      rw [hcut] at hslash ⊢
      exact bodyComponents_of_not_mem hslash
  | cons d tail =>
      obtain rfl : d = '/' := by
        have hpos : 0 < (backwards.dropWhile (· ≠ '/')).length := by
          rw [htail]
          exact Nat.succ_pos _
        have hfirst := List.dropWhile_get_zero_not (· ≠ '/') backwards hpos
        simp only [htail, List.get_eq_getElem, List.getElem_cons_zero] at hfirst
        simpa using hfirst
      have hblank : bodyComponents [] = [] := rfl
      rw [htail] at hcut
      rw [← bodyComponents_of_not_mem hslash, List.reverse_cons, bodyComponents_append_slash,
        hblank, List.append_nil, ← bodyComponents_append_slash]
      conv_lhs => rw [← hcut]
      rw [List.reverse_append, List.reverse_cons, List.append_assoc, List.singleton_append]

/-! ## Idle ends of a body -/

/-- Slashes and `.` segments at the end of a body contribute nothing. -/
theorem bodyComponents_dropIdle (backwards : List Char) :
    bodyComponents (dropIdle backwards).reverse = bodyComponents backwards.reverse := by
  have hblank : bodyComponents [] = [] := rfl
  have hdot : bodyComponents ['.'] = [] := rfl
  fun_induction dropIdle backwards with
  | case1 rest ih =>
      rw [ih, List.reverse_cons, bodyComponents_append_slash, hblank, List.append_nil]
  | case2 => rfl
  | case3 rest ih =>
      have hreverse : ('.' :: '/' :: rest).reverse = rest.reverse ++ '/' :: ['.'] := by simp
      rw [ih, hreverse, bodyComponents_append_slash, hdot, List.append_nil]
  | case4 => rfl

theorem dropIdle_suffix (backwards : List Char) : dropIdle backwards <:+ backwards := by
  fun_induction dropIdle backwards with
  | case1 rest ih => exact ih.trans (List.suffix_cons '/' rest)
  | case2 => exact List.nil_suffix
  | case3 rest ih =>
      exact (ih.trans (List.suffix_cons '/' rest)).trans (List.suffix_cons '.' _)
  | case4 => exact List.suffix_rfl

theorem dropIdle_ne_dot (backwards : List Char) : dropIdle backwards ≠ ['.'] := by
  fun_induction dropIdle backwards with
  | case1 rest ih => exact ih
  | case2 => exact nofun
  | case3 rest ih => exact ih
  | case4 other _ hdot _ => exact hdot

/-- Without idle ends, a body that is not empty ends in a segment that is a component. -/
theorem ofSegment?_takeWhile_ne_none {backwards : List Char} (h : dropIdle backwards ≠ []) :
    Component.ofSegment? ((dropIdle backwards).takeWhile (· ≠ '/')).reverse ≠ none := by
  fun_induction dropIdle backwards with
  | case1 rest ih => exact ih h
  | case2 => exact absurd rfl h
  | case3 rest ih => exact ih h
  | case4 other hslash hdot hcurrent =>
      obtain ⟨c, rest, rfl⟩ := List.exists_cons_of_ne_nil h
      have hc : c ≠ '/' := fun heq => hslash rest (by rw [heq])
      rw [List.takeWhile_cons_of_pos (by simpa using hc), ne_eq, Component.ofSegment?_eq_none_iff,
        List.reverse_eq_iff, List.reverse_eq_iff]
      rintro (hnil | hone)
      · exact absurd hnil (List.cons_ne_nil _ _)
      -- a last segment of one dot would be idle
      obtain ⟨rfl, hrest⟩ := List.cons.inj hone
      cases rest with
      | nil => exact hdot rfl
      | cons d rest =>
          by_cases hd : d = '/'
          · exact hcurrent rest (by rw [hd])
          · rw [List.takeWhile_cons_of_pos (by simpa using hd)] at hrest
            exact absurd hrest (List.cons_ne_nil _ _)

/-! ## The body of the parent -/

/-- The body of the parent, given the reversed body without its idle end. -/
def parentBody (last : List Char) : List Char := (dropIdle (last.dropWhile (· ≠ '/'))).reverse

/-- The body of the parent contributes the components of the body without the last one. -/
theorem exists_bodyComponents_eq_append {body : List Char} (h : dropIdle body.reverse ≠ []) :
    ∃ c ≠ Component.root,
      bodyComponents body = bodyComponents (parentBody (dropIdle body.reverse)) ++ [c] := by
  obtain ⟨c, hc⟩ := Option.ne_none_iff_exists'.1 (ofSegment?_takeWhile_ne_none h)
  refine ⟨c, fun hroot => Component.ofSegment?_ne_root _ (by rw [hc, hroot]), ?_⟩
  calc
    bodyComponents body = bodyComponents (dropIdle body.reverse).reverse := by
      rw [bodyComponents_dropIdle, List.reverse_reverse]
    _ = bodyComponents ((dropIdle body.reverse).dropWhile (· ≠ '/')).reverse ++ [c] := by
      rw [bodyComponents_reverse, hc, Option.toList_some]
    _ = bodyComponents (parentBody (dropIdle body.reverse)) ++ [c] := by
      rw [parentBody, bodyComponents_dropIdle]

theorem parentBody_prefix_body (body : List Char) :
    parentBody (dropIdle body.reverse) <+: body := by
  have hsuffix : dropIdle ((dropIdle body.reverse).dropWhile (· ≠ '/')) <:+ body.reverse :=
    ((dropIdle_suffix _).trans (List.dropWhile_suffix _)).trans (dropIdle_suffix _)
  rw [parentBody, ← List.reverse_suffix, List.reverse_reverse]
  exact hsuffix

theorem parentBody_ne_dot (last : List Char) : parentBody last ≠ ['.'] := by
  rw [parentBody, ne_eq, List.reverse_eq_iff]
  exact dropIdle_ne_dot _

/-- A path whose body is cut off somewhere still begins in the same way, unless a single dot is
left. -/
theorem split_of_prefix_body {text body front : List Char} {start : Start}
    (h : split text = (start, body)) (hfront : front <+: body) (hdot : front ≠ ['.']) :
    split (start.text ++ front) = (start, front) := by
  obtain ⟨back, rfl⟩ := hfront
  revert h
  fun_cases split text with
  | case1 rest =>
      rintro ⟨⟩
      rfl
  | case2 =>
      intro h
      obtain ⟨rfl, hnil⟩ := Prod.mk.inj h
      rw [(List.append_eq_nil_iff.1 hnil.symm).1]
      rfl
  | case3 rest =>
      intro h
      obtain ⟨rfl, hbody⟩ := Prod.mk.inj h
      cases front with
      | nil => rfl
      | cons c front =>
          rw [← (List.cons.inj hbody).1]
          rfl
  | case4 text hroot hsingle hcurrent =>
      rintro ⟨⟩
      change split front = (.name, front)
      fun_cases split front with
      | case1 rest => exact absurd rfl (hroot (rest ++ back))
      | case2 => exact absurd rfl hdot
      | case3 rest => exact absurd rfl (hcurrent (rest ++ back))
      | case4 => rfl

/-! ## Parents -/

theorem parentText?_eq {text body : List Char} {start : Start} (h : split text = (start, body)) :
    parentText? text =
      if dropIdle body.reverse = [] then if start = .current then some [] else none
      else some (start.text ++ parentBody (dropIdle body.reverse)) := by
  simp only [parentText?, h]
  cases dropIdle body.reverse with
  | nil => rw [if_pos rfl]
  | cons c last => rw [if_neg (List.cons_ne_nil c last), parentBody]

/-- A path that has a parent has one component more than it, which is not the root; and it is only
the root and the path without components that have no parent. -/
theorem parent?_cases (p : Path) :
    (p.parent? = none ∧ (p.components = [.root] ∨ p.components = [])) ∨
      ∃ parent c, p.parent? = some parent ∧ c ≠ Component.root ∧
        p.components = parent.components ++ [c] := by
  rcases hsplit : split p.text.toList with ⟨start, body⟩
  have hcomponents : p.components = start.component?.toList ++ bodyComponents body :=
    componentsOf_eq hsplit
  by_cases hidle : dropIdle body.reverse = []
  · have hbody : bodyComponents body = [] := by
      rw [← List.reverse_reverse body, ← bodyComponents_dropIdle, hidle]
      rfl
    rw [hbody, List.append_nil] at hcomponents
    rw [parent?, parentText?_eq hsplit, if_pos hidle, hcomponents]
    cases start with
    | root => exact .inl ⟨rfl, .inl rfl⟩
    | current => exact .inr ⟨⟨""⟩, .current, rfl, nofun, rfl⟩
    | name => exact .inl ⟨rfl, .inr rfl⟩
  · obtain ⟨c, hc, hbody⟩ := exists_bodyComponents_eq_append hidle
    have hparent := componentsOf_eq
      (split_of_prefix_body hsplit (parentBody_prefix_body body) (parentBody_ne_dot _))
    let parent : Path := ⟨String.ofList (start.text ++ parentBody (dropIdle body.reverse))⟩
    refine .inr ⟨parent, c, ?_, hc, ?_⟩
    · rw [parent?, parentText?_eq hsplit, if_neg hidle]
      rfl
    · rw [hcomponents, hbody, components, String.toList_ofList, hparent, List.append_assoc]

end Path

end SmellRefactor

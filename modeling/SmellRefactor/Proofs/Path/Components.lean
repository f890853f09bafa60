import Mathlib.Tactic.ByContra
import SmellRefactor.Path.Basic

/-!
# Components of paths

A path of any text has a component: its start is one, or its first piece that is neither blank nor a
single dot.  Only the path without text has none.
-/

namespace SmellRefactor

theorem Component.ofSegment?_eq_none_iff {segment : List Char} :
    ofSegment? segment = none ↔ segment = [] ∨ segment = ['.'] := by
  fun_cases ofSegment? segment with
  | case1 => simp
  | case2 => simp
  | case3 => simp
  | case4 _ hblank hdot => exact ⟨fun h => by simp at h, fun h => (h.elim hblank hdot).elim⟩

namespace Path

theorem exists_segments_eq_cons (text : List Char) :
    ∃ first others, segments text = first :: others := by
  fun_cases segments text with
  | case1 => exact ⟨_, _, rfl⟩
  | case2 => exact ⟨_, _, rfl⟩
  | case3 => exact ⟨_, _, rfl⟩
  | case4 => exact ⟨_, _, rfl⟩

/-- The first piece of a text without a leading slash holds its first character, and nothing else
only where the text ends or a slash follows. -/
theorem exists_segments_cons {c : Char} (hc : c ≠ '/') (rest : List Char) :
    ∃ first others, segments (c :: rest) = (c :: first) :: others ∧
      (first = [] → rest = [] ∨ ∃ text, rest = '/' :: text) := by
  obtain ⟨first, others, hrest⟩ := exists_segments_eq_cons rest
  refine ⟨first, others, by simp [segments, hc, hrest], ?_⟩
  intro hfirst
  cases rest with
  | nil => exact .inl rfl
  | cons d rest =>
      by_cases hd : d = '/'
      · exact .inr ⟨rest, by rw [hd]⟩
      · obtain ⟨first', others', hd'⟩ := exists_segments_eq_cons rest
        simp [segments, hd, hd', hfirst] at hrest

theorem componentsOf_ne_nil {text : List Char} (h : text ≠ []) : componentsOf text ≠ [] := by
  rw [componentsOf]
  fun_cases split text with
  | case1 rest => simp [Start.component?]
  | case2 => simp [Start.component?]
  | case3 rest => simp [Start.component?]
  | case4 text hroot hdot hcurrent =>
      obtain ⟨c, rest, rfl⟩ := List.exists_cons_of_ne_nil h
      have hc : c ≠ '/' := fun hslash => hroot rest (by rw [hslash])
      obtain ⟨first, others, hsegments, hfirst⟩ := exists_segments_cons hc rest
      -- the first piece is a name or `..`, as a single dot would be an explicit start
      have hcomponent : Component.ofSegment? (c :: first) ≠ none := by
        intro hnone
        obtain ⟨rfl, rfl⟩ : c = '.' ∧ first = [] := by
          simpa using Component.ofSegment?_eq_none_iff.1 hnone
        rcases hfirst rfl with rfl | ⟨text, rfl⟩
        · exact hdot rfl
        · exact hcurrent text rfl
      obtain ⟨component, hcomponent⟩ := Option.ne_none_iff_exists'.1 hcomponent
      simp [hsegments, List.filterMap_cons_some hcomponent]

/-- A path has no components exactly when its text is empty. -/
theorem components_eq_nil_iff {path : Path} : path.components = [] ↔ path.text = "" := by
  constructor
  · intro h
    by_contra hne
    exact componentsOf_ne_nil (by simpa using hne) h
  · intro h
    rw [components, h]
    rfl

theorem isEmpty_iff {path : Path} : path.isEmpty = true ↔ path.components = [] := by
  rw [components_eq_nil_iff, isEmpty, String.isEmpty_iff]

theorem isEmpty_eq_false_iff {path : Path} : path.isEmpty = false ↔ path.components ≠ [] := by
  rw [← Bool.not_eq_true, isEmpty_iff]

end Path

end SmellRefactor

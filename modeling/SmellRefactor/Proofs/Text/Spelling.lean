import Mathlib.Data.List.DropRight
import Mathlib.Data.List.Forall2
import SmellRefactor.Text.Blank
import SmellRefactor.Text.Letters

/-!
# Spellings of a word

A text spells a word when the part of it that has only white space around it, and none at its own
ends, is the word up to the case of letters: character by character both are the same, but for the
26 small letters and their capitals, which stand for one another.
-/

namespace SmellRefactor.Text

/-! ## White space at the ends -/

/-- Whether a text is a core with white space around it, which itself neither begins nor ends with
white space. -/
structure HasCore (text core : List Char) : Prop where
  around : ∃ before after, text = before ++ core ++ after ∧
    (∀ c ∈ before, isBlank c = true) ∧ ∀ c ∈ after, isBlank c = true
  first : ∀ c ∈ core.head?, isBlank c = false
  last : ∀ c ∈ core.getLast?, isBlank c = false

theorem trim_eq_nil_iff {text : List Char} : trim text = [] ↔ ∀ c ∈ text, isBlank c = true := by
  rw [trim, List.reverse_eq_nil_iff, List.dropWhile_eq_nil_iff]
  simp only [List.mem_reverse]
  constructor
  · intro h c hc
    rw [← List.takeWhile_append_dropWhile (p := isBlank) (l := text), List.mem_append] at hc
    rcases hc with hc | hc
    · exact List.mem_takeWhile_imp hc
    · exact h c hc
  · intro h c hc
    exact h c ((List.dropWhile_sublist _).subset hc)

theorem isBlank_of_mem_head?_dropWhile {text : List Char} {c : Char}
    (h : c ∈ (text.dropWhile isBlank).head?) : isBlank c = false := by
  rw [← List.find?_not_eq_head?_dropWhile] at h
  simpa using List.find?_some h

theorem dropWhile_append_of_blank {before core : List Char}
    (hbefore : ∀ c ∈ before, isBlank c = true) (hcore : ∀ c ∈ core.head?, isBlank c = false) :
    (before ++ core).dropWhile isBlank = core := by
  rw [List.dropWhile_append_of_pos hbefore]
  cases core with
  | nil => rfl
  | cons c core => exact List.dropWhile_cons_of_neg (by simp [hcore c rfl])

theorem hasCore_trim (text : List Char) : HasCore text (trim text) where
  around := by
    refine ⟨text.takeWhile isBlank, (text.dropWhile isBlank).rtakeWhile isBlank, ?_,
      fun c hc => List.mem_takeWhile_imp hc, fun c hc => List.mem_rtakeWhile_imp hc⟩
    have htrim : trim text = (text.dropWhile isBlank).rdropWhile isBlank := rfl
    rw [htrim, List.append_assoc, List.rdropWhile_append_rtakeWhile,
      List.takeWhile_append_dropWhile]
  first := by
    intro c hc
    obtain ⟨after, hafter⟩ : trim text <+: text.dropWhile isBlank :=
      List.rdropWhile_prefix _ _
    have hfirst : c ∈ (text.dropWhile isBlank).head? := by
      rw [← hafter, List.head?_append, Option.mem_def.1 hc]
      rfl
    exact isBlank_of_mem_head?_dropWhile hfirst
  last := by
    intro c hc
    rw [trim, List.getLast?_reverse] at hc
    exact isBlank_of_mem_head?_dropWhile hc

theorem HasCore.trim_eq {text core : List Char} (h : HasCore text core) : trim text = core := by
  obtain ⟨before, after, rfl, hbefore, hafter⟩ := h.around
  cases hcore : core with
  | nil =>
      rw [List.append_nil, trim_eq_nil_iff]
      intro c hc
      exact (List.mem_append.1 hc).elim (hbefore c) (hafter c)
  | cons first rest =>
      have hfirst : ∀ c ∈ (core ++ after).head?, isBlank c = false := by
        intro c hc
        rw [hcore] at hc
        exact h.first c (by rw [hcore]; exact hc)
      have hlast : ∀ c ∈ core.reverse.head?, isBlank c = false := by
        rw [List.head?_reverse]
        exact h.last
      have hafter : ∀ c ∈ after.reverse, isBlank c = true :=
        fun c hc => hafter c (List.mem_reverse.1 hc)
      rw [← hcore, trim, List.append_assoc, dropWhile_append_of_blank hbefore hfirst,
        List.reverse_append, dropWhile_append_of_blank hafter hlast, List.reverse_reverse]

/-- A text is trimmed to its core. -/
theorem trim_eq_iff {text core : List Char} : trim text = core ↔ HasCore text core := by
  constructor
  · rintro rfl
    exact hasCore_trim text
  · exact HasCore.trim_eq

/-! ## Letters without case -/

/-- Whether two characters are the same, or one of the 26 letters and its capital. -/
def SameLetter (c d : Char) : Prop :=
  c = d ∨ ∃ i < 26, c.toNat = 'a'.toNat + i ∧ d.toNat = 'A'.toNat + i ∨
    c.toNat = 'A'.toNat + i ∧ d.toNat = 'a'.toNat + i

theorem toNat_toLower (c : Char) :
    c.toLower.toNat = if 65 ≤ c.toNat ∧ c.toNat ≤ 90 then c.toNat + 32 else c.toNat := by
  by_cases hcapital : 65 ≤ c.toNat ∧ c.toNat ≤ 90
  · have hlower : c.toLower.val = c.val + 32 := congrArg Char.val (dif_pos hcapital)
    have hadd : (c.val + 32).toNat = (c.toNat + 32) % 2 ^ 32 := UInt32.toNat_add _ _
    rw [if_pos hcapital, Char.toNat, hlower, hadd]
    omega
  · have hlower : c.toLower = c := dif_neg hcapital
    rw [if_neg hcapital, hlower]

theorem toLower_eq_iff {c d : Char} : c.toLower = d.toLower ↔ SameLetter c d := by
  have ha : 'a'.toNat = 97 := rfl
  have hA : 'A'.toNat = 65 := rfl
  rw [← Char.toNat_inj, toNat_toLower, toNat_toLower, SameLetter, ← Char.toNat_inj, ha, hA]
  generalize c.toNat = m
  generalize d.toNat = n
  constructor
  · intro h
    by_cases hsame : m = n
    · exact .inl hsame
    -- one of the two is a capital, and its place in the alphabet is that of both
    by_cases hcapital : 65 ≤ m ∧ m ≤ 90
    · rw [if_pos hcapital] at h
      exact .inr ⟨m - 65, by split at h <;> omega⟩
    · rw [if_neg hcapital] at h
      exact .inr ⟨m - 97, by split at h <;> omega⟩
  · rintro (rfl | ⟨i, hi, h⟩)
    · rfl
    · split <;> split <;> omega

theorem sameLetters_iff {s t : List Char} :
    sameLetters s t = true ↔ List.Forall₂ SameLetter s t := by
  rw [sameLetters, beq_iff_eq, ← List.forall₂_eq_eq_eq, List.forall₂_map_left_iff,
    List.forall₂_map_right_iff]
  simp only [toLower_eq_iff]

/-! ## Spellings -/

/-- Whether a text is a word up to case, apart from the white space at its ends. -/
def Spells (text word : String) : Prop :=
  ∃ core, HasCore text.toList core ∧ List.Forall₂ SameLetter word.toList core

theorem spells_iff {text word : String} :
    Spells text word ↔ sameLetters word.toList (trim text.toList) = true := by
  simp only [Spells, sameLetters_iff, ← trim_eq_iff, exists_eq_left']

instance (text word : String) : Decidable (Spells text word) := decidable_of_iff' _ spells_iff

/-- Words that one text spells are the same up to case. -/
theorem Spells.sameLetters_eq {text v w : String} (hv : Spells text v) (hw : Spells text w) :
    sameLetters v.toList w.toList = true := by
  rw [spells_iff, sameLetters, beq_iff_eq] at hv hw
  rw [sameLetters, beq_iff_eq, hv, hw]

end SmellRefactor.Text

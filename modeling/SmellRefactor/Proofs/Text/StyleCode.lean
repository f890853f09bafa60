import Mathlib.Data.List.Infix

/-!
# Texts without style codes

A style code is the escape character, an opening bracket, digits and semicolons, and the letter `m`.
This module removes all style codes of a text in one pass from left to right.  As a code has its
escape character only in front, a text can be cut before every character that does not go on with a
code, and the codes of both parts removed apart.
-/

namespace SmellRefactor.Text

/-! ## Codes -/

/-- Whether a character may stand between the bracket and the last letter of a style code. -/
def isParameter (c : Char) : Bool := c.isDigit || c == ';'

/-- Whether a text is a style code. -/
def IsCode (text : List Char) : Prop :=
  ∃ parameters, (∀ c ∈ parameters, isParameter c = true) ∧
    text = '\x1b' :: '[' :: (parameters ++ ['m'])

/-- What is left of a text behind digits and semicolons and the letter that ends a code. -/
def behindParameters? : List Char → Option (List Char)
  | [] => none
  | c :: rest =>
    if c = 'm' then some rest else if isParameter c then behindParameters? rest else none

/-- What is left of a text that begins with a style code. -/
def behindCode? : List Char → Option (List Char)
  | '\x1b' :: '[' :: rest => behindParameters? rest
  | _ => none

theorem behindParameters?_eq_some_iff {text behind : List Char} :
    behindParameters? text = some behind ↔
      ∃ parameters, (∀ c ∈ parameters, isParameter c = true) ∧
        text = parameters ++ 'm' :: behind := by
  have hm : isParameter 'm' = false := by decide
  constructor
  · intro h
    fun_induction behindParameters? text with
    | case1 => contradiction
    | case2 rest => exact ⟨[], by simp, by rw [Option.some.inj h]; rfl⟩
    | case3 c rest _ hc ih =>
        obtain ⟨parameters, hparameters, rfl⟩ := ih h
        exact ⟨c :: parameters, by simpa [hc] using hparameters, rfl⟩
    | case4 => contradiction
  · rintro ⟨parameters, hparameters, rfl⟩
    induction parameters with
    | nil => rw [List.nil_append, behindParameters?, if_pos rfl]
    | cons c parameters ih =>
        have hc : isParameter c = true := hparameters c (by simp)
        have hne : c ≠ 'm' := by
          rintro rfl
          rw [hc] at hm
          contradiction
        rw [List.cons_append, behindParameters?, if_neg hne, if_pos hc]
        exact ih fun d hd => hparameters d (by simp [hd])

/-- A text begins with a code if something is behind it. -/
theorem behindCode?_eq_some_iff {text behind : List Char} :
    behindCode? text = some behind ↔ ∃ code, IsCode code ∧ text = code ++ behind := by
  constructor
  · fun_cases behindCode? text with
    | case1 rest =>
        intro h
        obtain ⟨parameters, hparameters, rfl⟩ := behindParameters?_eq_some_iff.1 h
        exact ⟨_, ⟨parameters, hparameters, rfl⟩, by simp⟩
    | case2 => exact nofun
  · rintro ⟨code, ⟨parameters, hparameters, rfl⟩, rfl⟩
    exact behindParameters?_eq_some_iff.2 ⟨parameters, hparameters, by simp⟩

theorem behindCode?_eq_none {c d : Char} (h : c = '\x1b' → d ≠ '[') (rest : List Char) :
    behindCode? (c :: d :: rest) = none := by
  rw [behindCode?]
  intro other htext
  obtain ⟨hc, htail⟩ := List.cons.inj htext
  exact h hc (List.cons.inj htail).1

theorem length_lt_of_behindCode? {text behind : List Char} (h : behindCode? text = some behind) :
    behind.length < text.length := by
  obtain ⟨code, ⟨parameters, -, rfl⟩, rfl⟩ := behindCode?_eq_some_iff.1 h
  simp only [List.length_append, List.length_cons]
  omega

/-! ## Removing codes -/

/-- A text without its style codes, removed in one pass from left to right. -/
def withoutCodes : List Char → List Char
  | [] => []
  | c :: rest =>
    match _h : behindCode? (c :: rest) with
    | some behind => withoutCodes behind
    | none => c :: withoutCodes rest
termination_by text => text.length
decreasing_by
  · exact length_lt_of_behindCode? _h
  · exact Nat.lt_succ_self _

theorem withoutCodes_of_behindCode? {text behind : List Char}
    (h : behindCode? text = some behind) : withoutCodes text = withoutCodes behind := by
  cases text with
  | nil => contradiction
  | cons c rest =>
      rw [withoutCodes]
      split
      case h_1 other hother => rw [Option.some.inj (h.symm.trans hother)]
      case h_2 hnone => exact absurd (h.symm.trans hnone) nofun

theorem withoutCodes_cons {c : Char} {rest : List Char} (h : behindCode? (c :: rest) = none) :
    withoutCodes (c :: rest) = c :: withoutCodes rest := by
  rw [withoutCodes]
  split
  case h_1 other hother => exact absurd (h.symm.trans hother) nofun
  case h_2 => rfl

theorem withoutCodes_code_append {code : List Char} (h : IsCode code) (rest : List Char) :
    withoutCodes (code ++ rest) = withoutCodes rest :=
  withoutCodes_of_behindCode? (behindCode?_eq_some_iff.2 ⟨code, h, rfl⟩)

/-- Whether no style code stands anywhere in a text. -/
def CodeFree (text : List Char) : Prop :=
  ∀ front code back, IsCode code → text ≠ front ++ code ++ back

theorem codeFree_iff {text : List Char} :
    CodeFree text ↔ ∀ tail ∈ text.tails, behindCode? tail = none := by
  constructor
  · intro h tail htail
    obtain ⟨front, rfl⟩ := (List.mem_tails _ _).1 htail
    rw [Option.eq_none_iff_forall_ne_some]
    intro behind hbehind
    obtain ⟨code, hcode, rfl⟩ := behindCode?_eq_some_iff.1 hbehind
    exact h front code behind hcode (List.append_assoc _ _ _).symm
  · rintro h front code back hcode rfl
    have htail : code ++ back ∈ (front ++ code ++ back).tails :=
      (List.mem_tails _ _).2 ⟨front, (List.append_assoc _ _ _).symm⟩
    have hbegins : behindCode? (code ++ back) = some back :=
      behindCode?_eq_some_iff.2 ⟨code, hcode, rfl⟩
    rw [h _ htail] at hbegins
    contradiction

instance (text : List Char) : Decidable (CodeFree text) := decidable_of_iff' _ codeFree_iff

/-- A text in which no code stands stays as it is. -/
theorem CodeFree.withoutCodes_eq {text : List Char} (h : CodeFree text) :
    withoutCodes text = text := by
  induction text with
  | nil => rw [withoutCodes]
  | cons c rest ih =>
      rw [codeFree_iff, List.tails_cons, List.forall_mem_cons] at h
      rw [withoutCodes_cons h.1, ih (codeFree_iff.2 h.2)]

/-! ## Cutting a text -/

/-- Whether no code goes on with a character. -/
def isBreak (c : Char) : Bool := !(c == '[' || c == 'm' || isParameter c)

theorem behindParameters?_append {c : Char} (hc : isBreak c = true) (front back : List Char) :
    behindParameters? (front ++ c :: back) =
      (behindParameters? front).map fun behind => behind ++ c :: back := by
  simp only [isBreak, Bool.not_eq_true', Bool.or_eq_false_iff, beq_eq_false_iff_ne] at hc
  obtain ⟨⟨-, hm⟩, hparameter⟩ := hc
  induction front with
  | nil => simp [behindParameters?, hm, hparameter]
  | cons d front ih =>
      rw [List.cons_append, behindParameters?, behindParameters?, ih]
      split
      · rfl
      · split <;> rfl

/-- A code at the front of a text does not reach beyond a break. -/
theorem behindCode?_append {c : Char} (hc : isBreak c = true) {front : List Char}
    (hfront : front ≠ []) (back : List Char) :
    behindCode? (front ++ c :: back) =
      (behindCode? front).map fun behind => behind ++ c :: back := by
  have hbracket : c ≠ '[' := by
    rintro rfl
    contradiction
  fun_cases behindCode? front with
  | case1 rest => exact behindParameters?_append hc rest back
  | case2 _ hcode =>
      rw [Option.map_none, Option.eq_none_iff_forall_ne_some]
      intro behind hbehind
      obtain ⟨code, ⟨parameters, -, rfl⟩, htext⟩ := behindCode?_eq_some_iff.1 hbehind
      obtain ⟨d, front, rfl⟩ := List.exists_cons_of_ne_nil hfront
      rw [List.cons_append, List.cons_append, List.cons_append] at htext
      obtain ⟨hd, htail⟩ := List.cons.inj htext
      cases front with
      | nil => exact hbracket (List.cons.inj htail).1
      | cons e rest =>
          rw [List.cons_append] at htail
          exact hcode rest (by rw [hd, (List.cons.inj htail).1])

/-- Before a break a text can be cut, and the codes of both parts removed apart. -/
theorem withoutCodes_append {c : Char} (hc : isBreak c = true) (front back : List Char) :
    withoutCodes (front ++ c :: back) = withoutCodes front ++ withoutCodes (c :: back) := by
  induction front using withoutCodes.induct with
  | case1 => rw [List.nil_append, withoutCodes, List.nil_append]
  | case2 d rest behind hbehind ih =>
      have happend := behindCode?_append hc (List.cons_ne_nil d rest) back
      rw [hbehind, Option.map_some] at happend
      rw [withoutCodes_of_behindCode? happend, withoutCodes_of_behindCode? hbehind, ih]
  | case3 d rest hnone ih =>
      have happend := behindCode?_append hc (List.cons_ne_nil d rest) back
      rw [hnone, Option.map_none, List.cons_append] at happend
      rw [List.cons_append, withoutCodes_cons happend, withoutCodes_cons hnone, ih,
        List.cons_append]

/-- Behind a break that is not the escape character a text can be cut as well. -/
theorem withoutCodes_append_of_getLast? {front : List Char} {c : Char}
    (hlast : front.getLast? = some c) (hc : isBreak c = true) (hescape : c ≠ '\x1b')
    (back : List Char) :
    withoutCodes (front ++ back) = withoutCodes front ++ withoutCodes back := by
  obtain ⟨front, rfl⟩ := List.getLast?_eq_some_iff.1 hlast
  have hplain : ∀ rest, withoutCodes (c :: rest) = c :: withoutCodes rest := by
    intro rest
    apply withoutCodes_cons
    rw [behindCode?]
    exact fun other htext => hescape (List.cons.inj htext).1
  have hnil : withoutCodes [] = [] := by rw [withoutCodes]
  rw [List.append_assoc, List.singleton_append, withoutCodes_append hc, withoutCodes_append hc,
    hplain, hplain, hnil, List.append_assoc, List.singleton_append]

/-! ## Pieces of a text -/

/-- Whether no code reaches into a piece of a text or out of it. -/
def separates (piece : String) : Bool :=
  piece.toList.head?.any isBreak && piece.toList.getLast?.any fun c => isBreak c && c != '\x1b'

theorem withoutCodes_separator_append {piece : String} (h : separates piece = true)
    (back : List Char) :
    withoutCodes (piece.toList ++ back) = withoutCodes piece.toList ++ withoutCodes back := by
  simp only [separates, Bool.and_eq_true, Option.any_eq_true, bne_iff_ne] at h
  obtain ⟨-, c, hlast, hc, hescape⟩ := h
  exact withoutCodes_append_of_getLast? hlast hc hescape back

theorem withoutCodes_append_separator {piece : String} (h : separates piece = true)
    (front back : List Char) :
    withoutCodes (front ++ (piece.toList ++ back)) =
      withoutCodes front ++ withoutCodes (piece.toList ++ back) := by
  simp only [separates, Bool.and_eq_true, Option.any_eq_true] at h
  obtain ⟨⟨c, hfirst, hc⟩, -⟩ := h
  obtain ⟨rest, hpiece⟩ := List.head?_eq_some_iff.1 hfirst
  rw [hpiece, List.cons_append, withoutCodes_append hc]

/-- Pieces of two texts that fall into parts, each of them ended by a piece that separates, such that
the parts differ in codes only. -/
inductive Alike : List String → List String → Prop
  | nil : Alike [] []
  | part {front front' : List String} {next : String} {back back' : List String}
      (hsame : withoutCodes (String.join front).toList = withoutCodes (String.join front').toList)
      (h : separates next = true) (hback : Alike back back') :
      Alike (front ++ next :: back) (front' ++ next :: back')

namespace Alike

variable {next : String} {front front' back back' : List String}

theorem separator (h : separates next = true) (hback : Alike back back') :
    Alike (next :: back) (next :: back') :=
  @part [] [] next back back' rfl h hback

theorem piece (piece : String) (h : separates next = true) (hback : Alike back back') :
    Alike (piece :: next :: back) (piece :: next :: back') :=
  @part [piece] [piece] next back back' rfl h hback

theorem append (hfront : Alike front front') (hback : Alike back back') :
    Alike (front ++ back) (front' ++ back') := by
  induction hfront with
  | nil => exact hback
  | part hsame h _ ih =>
      rw [List.append_assoc, List.append_assoc, List.cons_append, List.cons_append]
      exact .part hsame h ih

theorem flatMap {α : Type u} {f f' : α → List String} (h : ∀ a, Alike (f a) (f' a))
    (as : List α) : Alike (as.flatMap f) (as.flatMap f') := by
  induction as with
  | nil => exact .nil
  | cons a as ih => exact (h a).append ih

/-- Texts with such pieces are the same once their codes are removed. -/
theorem withoutCodes_join (h : Alike front front') :
    withoutCodes (String.join front).toList = withoutCodes (String.join front').toList := by
  induction h with
  | nil => rfl
  | part hsame h _ ih =>
      simp only [String.join_append, String.join_cons, String.toList_append,
        withoutCodes_append_separator h, withoutCodes_separator_append h, hsame, ih]

end Alike

end SmellRefactor.Text

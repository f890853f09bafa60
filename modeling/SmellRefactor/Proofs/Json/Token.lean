import Mathlib.Data.List.Basic
import SmellRefactor.Json.Document
import SmellRefactor.Json.Reader

/-!
# Tokens that are read back

What is written for a text or for a number is read back as that text or that number, whatever
follows it.  A number is the one token whose end is not marked, so that it matters there what
follows.
-/

namespace SmellRefactor.Json

/-! ## Blanks -/

/-- Whether only blanks stand in a text. -/
def Blank (text : List Char) : Prop := ∀ c ∈ text, Cursor.isGap c = true

/-- Whether a text does not begin with a blank. -/
def atToken (text : List Char) : Bool := text.head?.all fun c => !Cursor.isGap c

theorem Cursor.exists_skipGap {blanks text : List Char} (hblank : Blank blanks)
    (htext : atToken text = true) (p : Position) :
    ∃ p', Cursor.skipGap ⟨blanks ++ text, p⟩ = ⟨text, p'⟩ := by
  change ∃ p', skipGap.go (blanks ++ text) p = ⟨text, p'⟩
  induction blanks generalizing p with
  | nil =>
      refine ⟨p, ?_⟩
      cases text with
      | nil => rfl
      | cons c text =>
          have hc : isGap c = false := by simpa [atToken] using htext
          simp [skipGap.go, hc]
  | cons c blanks ih =>
      have hc : isGap c = true := hblank c (by simp)
      obtain ⟨p', hskip⟩ := ih (fun d hd => hblank d (by simp [hd])) (p.after c)
      exact ⟨p', by simpa [skipGap.go, hc] using hskip⟩

theorem blank_gap (layout : Layout) (depth : Nat) : Blank (layout.gap depth) := by
  intro c hc
  cases layout with
  | compact => simp [Layout.gap] at hc
  | indented =>
      rcases List.mem_cons.1 hc with rfl | hc
      · rfl
      · rw [List.eq_of_mem_replicate hc]
        rfl

/-! ## Texts -/

/-- Whether a character takes one byte of its line. -/
def isNarrow (c : Char) : Bool := c.utf8Size == 1 && c != '\n'

theorem exists_fourBytes {a b c d : Char} (ha : isNarrow a = true) (hb : isNarrow b = true)
    (hc : isNarrow c = true) (hd : isNarrow d = true) (rest : List Char) (p : Position) :
    ∃ p', fourBytes p 4 (a :: b :: c :: d :: rest) = (true, p') := by
  simp only [isNarrow, Bool.and_eq_true, beq_iff_eq, bne_iff_ne] at ha hb hc hd
  simp [fourBytes, ha, hb, hc, hd]

/-- The escape by the number of a character is read back as this character. -/
theorem exists_readEscape_number {n : Nat} (hn : n < 16) {high : Char}
    (hhigh : isNarrow high = true) {c : Char} (hc : c.toNat < 32)
    (hvalue : hexFour? '0' '0' high (Nat.digitChar n) = some c.toNat) (rest : List Char)
    (p : Position) :
    ∃ p', readEscape ('u' :: '0' :: '0' :: high :: Nat.digitChar n :: rest) p =
      .ok (c, rest, p') := by
  have hnarrow : ∀ n < 16, isNarrow (Nat.digitChar n) = true := by decide
  have hzero : isNarrow '0' = true := by decide
  obtain ⟨p', hbytes⟩ := exists_fourBytes hzero hzero hhigh (hnarrow n hn) rest (p.after 'u')
  have htrailing : isTrailing c.toNat = false := by
    simp only [isTrailing, Bool.and_eq_false_iff, decide_eq_false_iff_not]
    omega
  have hleading : isLeading c.toNat = false := by
    simp only [isLeading, Bool.and_eq_false_iff, decide_eq_false_iff_not]
    omega
  refine ⟨p', ?_⟩
  simp [readEscape, readHexFour, hbytes, hvalue, htrailing, hleading]

/-- A character between quotes stands for itself, or an escape stands for it. -/
theorem escapeChar_cases (c : Char) :
    (escapeChar c = [c] ∧ c ≠ '"' ∧ c ≠ '\\' ∧ ¬ c.toNat < 32) ∨
      ∃ code, escapeChar c = '\\' :: code ∧
        ∀ rest p, ∃ p', readEscape (code ++ rest) p = .ok (c, rest, p') := by
  have hshort : ∀ {d c : Char}, d ≠ 'u' → shortEscape? d = some c →
      ∀ rest p, ∃ p', readEscape ([d] ++ rest) p = .ok (c, rest, p') := by
    intro d c hd hc rest p
    refine ⟨p.after d, ?_⟩
    simp [readEscape, hc]
  have hlow : ∀ n < 16, hexFour? '0' '0' '0' (Nat.digitChar n) = some n ∧
      hexFour? '0' '0' '1' (Nat.digitChar n) = some (n + 16) := by
    decide
  -- the characters with an escape of their own first, then those that are written by number
  by_cases hspecial : c ∈ ['"', '\\', '\n', '\r', '\t', Char.ofNat 8, Char.ofNat 12]
  · simp only [List.mem_cons, List.not_mem_nil, or_false] at hspecial
    right
    rcases hspecial with rfl | rfl | rfl | rfl | rfl | rfl | rfl <;>
      exact ⟨_, rfl, hshort (by decide) rfl⟩
  simp only [List.mem_cons, List.not_mem_nil, or_false, not_or] at hspecial
  obtain ⟨hquote, hslash, hline, hreturn, htab, hback, hpage⟩ := hspecial
  have hback : c.toNat ≠ 8 := fun h => hback (by rw [← h, c.ofNat_toNat])
  have hpage : c.toNat ≠ 12 := fun h => hpage (by rw [← h, c.ofNat_toNat])
  have hescape : escapeChar c =
      if c.toNat < 16 then ['\\', 'u', '0', '0', '0', Nat.digitChar c.toNat]
      else if c.toNat < 32 then ['\\', 'u', '0', '0', '1', Nat.digitChar (c.toNat - 16)]
      else [c] := by
    simp only [escapeChar, hquote, hslash, hline, hreturn, htab, hback, hpage, if_false]
  by_cases h : c.toNat < 16
  · rw [hescape, if_pos h]
    exact .inr ⟨_, rfl, exists_readEscape_number h rfl (by omega) (hlow _ h).1⟩
  by_cases h' : c.toNat < 32
  · have hn : c.toNat - 16 < 16 := by omega
    have hvalue := (hlow _ hn).2
    rw [Nat.sub_add_cancel (by omega)] at hvalue
    rw [hescape, if_neg h, if_pos h']
    exact .inr ⟨_, rfl, exists_readEscape_number hn rfl h' hvalue⟩
  · rw [hescape, if_neg h, if_neg h']
    exact .inl ⟨rfl, hquote, hslash, h'⟩

/-- The characters between quotes are read back up to the closing quote. -/
theorem exists_readChars (text : List Char) {fuel : Nat} (hfuel : text.length < fuel)
    (rest : List Char) (p : Position) :
    ∃ p', readChars fuel (text.flatMap escapeChar ++ '"' :: rest) p = .ok (text, ⟨rest, p'⟩) := by
  induction text generalizing fuel p with
  | nil =>
      obtain ⟨fuel, rfl⟩ := Nat.exists_eq_add_one_of_ne_zero (Nat.ne_of_gt hfuel)
      exact ⟨p.after '"', rfl⟩
  | cons c text ih =>
      obtain ⟨fuel, rfl⟩ := Nat.exists_eq_add_one_of_ne_zero (Nat.ne_zero_of_lt hfuel)
      have hfuel' : text.length < fuel := by simpa using hfuel
      rcases escapeChar_cases c with ⟨hplain, hquote, hslash, hcontrol⟩ | ⟨code, hcode, hread⟩
      · obtain ⟨p', hrest⟩ := ih hfuel' (p.after c)
        refine ⟨p', ?_⟩
        rw [List.flatMap_cons, hplain]
        simp [readChars, hquote, hslash, hcontrol, hrest]
      · obtain ⟨p', hescape⟩ :=
          hread (text.flatMap escapeChar ++ '"' :: rest) (p.after '\\')
        obtain ⟨p'', hrest⟩ := ih hfuel' p'
        refine ⟨p'', ?_⟩
        rw [List.flatMap_cons, hcode, List.cons_append, List.cons_append, List.append_assoc]
        simp [readChars, hescape, hrest]

theorem length_le_flatMap_escapeChar (text : List Char) :
    text.length ≤ (text.flatMap escapeChar).length := by
  induction text with
  | nil => exact Nat.le_refl _
  | cons c text ih =>
      have hc : 1 ≤ (escapeChar c).length := by
        rcases escapeChar_cases c with ⟨hplain, -⟩ | ⟨code, hcode, -⟩
        · simp [hplain]
        · simp [hcode]
      rw [List.flatMap_cons, List.length_append, List.length_cons]
      omega

/-- A text behind its opening quote is read back. -/
theorem exists_readText (text : String) (rest : List Char) (p : Position) :
    ∃ p', readText ⟨text.toList.flatMap escapeChar ++ '"' :: rest, p⟩ = .ok (text, ⟨rest, p'⟩) := by
  have hfuel : text.toList.length < (text.toList.flatMap escapeChar ++ '"' :: rest).length + 1 := by
    have hlength := length_le_flatMap_escapeChar text.toList
    rw [List.length_append]
    omega
  obtain ⟨p', hread⟩ := exists_readChars text.toList hfuel rest p
  exact ⟨p', by simp only [readText, hread, String.ofList_toList]⟩

/-- Behind blanks a text is found by its opening quote. -/
theorem exists_skipGap_writeText (text : String) {blanks : List Char} (hblank : Blank blanks)
    (rest : List Char) (p : Position) :
    ∃ tail p₁ p₂,
      Cursor.skipGap ⟨blanks ++ (writeText text ++ rest), p⟩ = ⟨'"' :: tail, p₁⟩ ∧
      readText ⟨tail, p₁.after '"'⟩ = .ok (text, ⟨rest, p₂⟩) := by
  have htoken : atToken ('"' :: (text.toList.flatMap escapeChar ++ '"' :: rest)) = true := rfl
  obtain ⟨p₁, hskip⟩ := Cursor.exists_skipGap hblank htoken p
  obtain ⟨p₂, hread⟩ := exists_readText text rest (p₁.after '"')
  refine ⟨_, p₁, p₂, ?_, hread⟩
  rw [writeText, List.cons_append, List.append_assoc, List.singleton_append]
  exact hskip

/-! ## Numbers -/

/-- Whether a number that stands in front of this text ends there. -/
def endsNumber (text : List Char) : Bool :=
  text.head?.all fun c => !(isDigit c || c == '.' || c == 'e' || c == 'E')

theorem endsNumber_cons {c : Char} {text : List Char} :
    endsNumber (c :: text) = true ↔ isDigit c = false ∧ c ≠ '.' ∧ c ≠ 'e' ∧ c ≠ 'E' := by
  simp [endsNumber, and_assoc]

theorem isDigit_of_mem_digits {n : Nat} {c : Char} (h : c ∈ Decimal.digits n) :
    isDigit c = true := by
  have hdigit : c.isDigit = true := Nat.isDigit_of_mem_toDigits (by decide) (by decide) h
  simpa [isDigit, Char.isDigit, Char.le_def] using hdigit

theorem exists_takeDigits {ds rest : List Char} (hds : ∀ c ∈ ds, isDigit c = true)
    (hrest : endsNumber rest = true) (p : Position) :
    ∃ p', takeDigits ⟨ds ++ rest, p⟩ = (ds, ⟨rest, p'⟩) := by
  change ∃ p', takeDigits.go (ds ++ rest) p = (ds, ⟨rest, p'⟩)
  induction ds generalizing p with
  | nil =>
      refine ⟨p, ?_⟩
      cases rest with
      | nil => rfl
      | cons c rest =>
          simp [takeDigits.go, (endsNumber_cons.1 hrest).1]
  | cons d ds ih =>
      obtain ⟨p', htake⟩ := ih (fun c hc => hds c (by simp [hc])) (p.after d)
      exact ⟨p', by simp [takeDigits.go, hds d (by simp), htake]⟩

/-- Digits are gathered to their value if this stays within the bound. -/
theorem gather_eq {bound n : Nat} {ds : List Char} (h : Nat.ofDigitChars 10 ds n ≤ bound) :
    gather bound n ds = (Nat.ofDigitChars 10 ds n, []) := by
  have hgrows : ∀ (ds : List Char) (n : Nat), n ≤ Nat.ofDigitChars 10 ds n := by
    intro ds
    induction ds with
    | nil => exact fun n => Nat.le_refl n
    | cons d ds ih =>
        intro n
        rw [Nat.ofDigitChars_cons]
        exact Nat.le_trans (by omega) (ih _)
  induction ds generalizing n with
  | nil => rfl
  | cons d ds ih =>
      rw [Nat.ofDigitChars_cons, Nat.mul_comm] at h ⊢
      have hmore : ¬ bound < n * 10 + (d.toNat - '0'.toNat) :=
        Nat.not_lt.2 (Nat.le_trans (hgrows ds _) h)
      rw [gather, if_neg hmore, ih h]

/-- A number is written with digits, and without a leading zero unless it is zero. -/
theorem exists_digits_eq_cons (n : Nat) :
    ∃ d ds, Decimal.digits n = d :: ds ∧ isDigit d = true ∧ (n ≠ 0 → d ≠ '0') := by
  induction n using Nat.strongRecOn with
  | _ n ih =>
      rw [Decimal.digits, Nat.toDigits_eq_if (by decide)]
      split_ifs with hsmall
      · have hdigit : ∀ n < 10,
            isDigit (Nat.digitChar n) = true ∧ (n ≠ 0 → Nat.digitChar n ≠ '0') := by
          decide
        exact ⟨_, [], rfl, hdigit n hsmall⟩
      · obtain ⟨d, ds, hds, hdigit, hd⟩ := ih (n / 10) (by omega)
        rw [Decimal.digits] at hds
        exact ⟨d, _, by rw [hds]; rfl, hdigit, fun _ => hd (by omega)⟩

/-- No digit is a blank. -/
theorem isGap_of_isDigit {c : Char} (h : isDigit c = true) : Cursor.isGap c = false := by
  rw [← Bool.not_eq_true]
  intro hgap
  simp only [Cursor.isGap, Bool.or_eq_true, beq_iff_eq] at hgap
  rcases hgap with ((rfl | rfl) | rfl) | rfl <;> exact absurd h (by decide)

theorem readTail_eq {text : List Char} (htext : endsNumber text = true) (significand : Nat)
    (p : Position) :
    readTail false significand 0 ⟨text, p⟩ = .ok (.natural significand, ⟨text, p⟩) := by
  cases text with
  | nil => rfl
  | cons c text => simp [readTail, endsNumber_cons.1 htext]

/-- A number of 64 bits is read back. -/
theorem exists_readNumber {n : Nat} (hn : n ≤ Decimal.maxWord) {rest : List Char}
    (hrest : endsNumber rest = true) (p : Position) :
    ∃ p', readNumber false ⟨Decimal.digits n ++ rest, p⟩ = .ok (.natural n, ⟨rest, p'⟩) := by
  by_cases hzero : n = 0
  · subst hzero
    refine ⟨p.after '0', ?_⟩
    have htail := readTail_eq hrest 0 (p.after '0')
    cases rest with
    | nil => exact htail
    | cons c rest =>
        change (if isDigit c = true then _ else readTail false 0 0 _) = _
        rw [(endsNumber_cons.1 hrest).1]
        exact htail
  · obtain ⟨d, ds, hds, hdigit, hfirst⟩ := exists_digits_eq_cons n
    have hd := hfirst hzero
    obtain ⟨p', htake⟩ := exists_takeDigits (fun c hc => isDigit_of_mem_digits hc) hrest p
    have hgather : gather Decimal.maxWord 0 (Decimal.digits n) = (n, []) := by
      have hvalue : Nat.ofDigitChars 10 (Decimal.digits n) 0 = n := Nat.ofDigitChars_ten_toDigits
      rw [gather_eq (by rw [hvalue]; exact hn), hvalue]
    rw [hds] at htake hgather ⊢
    refine ⟨p', ?_⟩
    simp only [List.cons_append] at htake ⊢
    simp [readNumber, hdigit, htake, hgather, readTail_eq hrest]

end SmellRefactor.Json

import Mathlib.Data.List.Forall2
import SmellRefactor.Proofs.Json.Token

/-!
# Documents that are read back

A reader reads a document back as a value if it does so in every layout, at every depth and in
front of every text in which a number ends.  This module shows how it does so for lists, objects
and records when it does so for what is inside them.
-/

namespace SmellRefactor.Json

/-- Whether a reader takes a document for a value, wherever the document is written.  Blanks may
stand before it, as one does behind a colon. -/
def Reads {α : Type} (item : Reader α) (d : Document) (a : α) : Prop :=
  ∀ (layout : Layout) (depth : Nat) (blanks rest : List Char) (p : Position),
    Blank blanks → endsNumber rest = true →
      ∃ p', item ⟨blanks ++ (d.write layout depth ++ rest), p⟩ = .ok (a, ⟨rest, p'⟩)

variable {α β : Type}

theorem Reads.map {item : Reader α} {d : Document} {a : α} (h : Reads item d a) (f : α → β) :
    Reads (fun c => (item c).map fun (a, c) => (f a, c)) d (f a) := by
  intro layout depth blanks rest p hblank hrest
  obtain ⟨p', hitem⟩ := h layout depth blanks rest p hblank hrest
  exact ⟨p', by simp only [hitem]; rfl⟩

/-! ## Texts and numbers -/

theorem reads_text (text : String) : Reads readString (.text text) text := by
  intro layout depth blanks rest p hblank _
  obtain ⟨tail, p₁, p₂, hskip, hread⟩ := exists_skipGap_writeText text hblank rest p
  refine ⟨p₂, ?_⟩
  rw [Document.write]
  simp [readString, readTextAs, hskip, Cursor.next, hread]

theorem reads_natural {n : Nat} (hn : n ≤ Decimal.maxWord) : Reads readCount (.natural n) n := by
  intro layout depth blanks rest p hblank hrest
  obtain ⟨c, ds, hds, hc, -⟩ := exists_digits_eq_cons n
  have htoken : atToken (Decimal.digits n ++ rest) = true := by
    simp [hds, atToken, isGap_of_isDigit hc]
  obtain ⟨p', hskip⟩ := Cursor.exists_skipGap hblank htoken p
  obtain ⟨p'', hread⟩ := exists_readNumber hn hrest p'
  have hsign : c ≠ '-' := by
    rintro rfl
    exact absurd hc (by decide)
  refine ⟨p'', ?_⟩
  simp only [Document.write, readCount, hskip]
  rw [hds, List.cons_append] at hread ⊢
  simp [hc, hread, Except.bind, countOf]

/-! ## What stands between values -/

/-- What stands before a member of a group: blanks, behind a comma unless it is the first. -/
def lead (first : Bool) (blanks : List Char) : List Char := if first then blanks else ',' :: blanks

/-- A number ends in front of blanks, if it ends in front of what follows them. -/
theorem endsNumber_append {blanks text : List Char} (hblank : Blank blanks)
    (htext : endsNumber text = true) : endsNumber (blanks ++ text) = true := by
  cases blanks with
  | nil => exact htext
  | cons c blanks =>
      have hgap : Cursor.isGap c = true := hblank c (by simp)
      simp only [Cursor.isGap, Bool.or_eq_true, beq_iff_eq] at hgap
      rcases hgap with ((rfl | rfl) | rfl) | rfl <;> rfl

/-- No document begins with a blank or with a closing bracket. -/
theorem exists_write_eq_cons (d : Document) (layout : Layout) (depth : Nat) :
    ∃ c text, d.write layout depth = c :: text ∧ Cursor.isGap c = false ∧ c ≠ ']' := by
  cases d with
  | null => exact ⟨_, _, rfl, by decide⟩
  | boolean value => cases value <;> exact ⟨_, _, rfl, by decide⟩
  | natural n =>
      obtain ⟨c, ds, hds, hc, -⟩ := exists_digits_eq_cons n
      refine ⟨c, ds, hds, isGap_of_isDigit hc, ?_⟩
      rintro rfl
      exact absurd hc (by decide)
  | text s => exact ⟨_, _, rfl, by decide⟩
  | list items => cases items <;> exact ⟨_, _, rfl, by decide⟩
  | object members => cases members <;> exact ⟨_, _, rfl, by decide⟩

/-! ## Lists -/

section Lists

variable {blanks : List Char}

theorem exists_nextElement (hblank : Blank blanks) (first : Bool) {c : Char}
    (hgap : Cursor.isGap c = false) (hc : c ≠ ']') (text : List Char) (p : Position) :
    ∃ p', nextElement first ⟨lead first blanks ++ c :: text, p⟩ = .ok (true, ⟨c :: text, p'⟩) := by
  have htoken : atToken (c :: text) = true := by simp [atToken, hgap]
  cases first with
  | true =>
      obtain ⟨p', hskip⟩ := Cursor.exists_skipGap hblank htoken p
      exact ⟨p', by simp [nextElement, lead, hskip]⟩
  | false =>
      obtain ⟨p', hskip⟩ := Cursor.exists_skipGap hblank htoken (p.after ',')
      have hcomma : Cursor.skipGap ⟨',' :: (blanks ++ c :: text), p⟩ =
          ⟨',' :: (blanks ++ c :: text), p⟩ := rfl
      exact ⟨p', by simp [nextElement, lead, hcomma, Cursor.next, hskip, hc]⟩

theorem exists_nextElement_close (hblank : Blank blanks) (first : Bool) (rest : List Char)
    (p : Position) :
    ∃ p', nextElement first ⟨blanks ++ ']' :: rest, p⟩ = .ok (false, ⟨']' :: rest, p'⟩) := by
  have htoken : atToken (']' :: rest) = true := rfl
  obtain ⟨p', hskip⟩ := Cursor.exists_skipGap hblank htoken p
  exact ⟨p', by simp [nextElement, hskip]⟩

/-- The items of a list from the first one or from a later one on. -/
def itemsFrom (first : Bool) (layout : Layout) (depth : Nat) : List Document → List Char
  | [] => []
  | d :: ds =>
    lead first (layout.gap depth) ++
      (d.write layout depth ++ Document.writeItems layout depth ds)

theorem writeItems_eq (layout : Layout) (depth : Nat) (ds : List Document) :
    Document.writeItems layout depth ds = itemsFrom false layout depth ds := by
  cases ds with
  | nil => rfl
  | cons d ds => simp [Document.writeItems, itemsFrom, lead]

theorem endsNumber_itemsFrom (layout : Layout) (depth : Nat) (ds : List Document)
    {text : List Char} (htext : endsNumber text = true) :
    endsNumber (itemsFrom false layout depth ds ++ text) = true := by
  cases ds with
  | nil => exact htext
  | cons d ds => rfl

theorem exists_write_list (layout : Layout) (depth : Nat) (ds : List Document) :
    ∃ blanks, Blank blanks ∧
      (Document.list ds).write layout depth =
        '[' :: (itemsFrom true layout (depth + 1) ds ++ (blanks ++ [']'])) := by
  cases ds with
  | nil => exact ⟨[], by simp [Blank], rfl⟩
  | cons d ds => exact ⟨_, blank_gap layout depth, by simp [Document.write, itemsFrom, lead]⟩

theorem length_le_itemsFrom (first : Bool) (layout : Layout) (depth : Nat) (ds : List Document) :
    ds.length ≤ (itemsFrom first layout depth ds).length := by
  induction ds generalizing first with
  | nil => exact Nat.le_refl _
  | cons d ds ih =>
      obtain ⟨c, text, hwrite, -⟩ := exists_write_eq_cons d layout depth
      have hrest := ih false
      rw [itemsFrom, writeItems_eq, hwrite]
      simp only [List.length_append, List.length_cons]
      omega

theorem readElements_cons {item : Reader α} {fuel : Nat} {first : Bool} {c c₁ c₂ c₃ : Cursor}
    {a : α} {as : List α} (hnext : nextElement first c = .ok (true, c₁))
    (hitem : item c₁ = .ok (a, c₂)) (hrest : readElements item fuel false c₂ = .ok (as, c₃)) :
    readElements item (fuel + 1) first c = .ok (a :: as, c₃) := by
  simp only [readElements, hnext, bind, Except.bind, if_true, hitem, hrest]
  rfl

/-- The items of a list are read back up to the closing bracket. -/
theorem exists_readElements {item : Reader α} {ds : List Document} {as : List α}
    (hitems : List.Forall₂ (Reads item) ds as) (hblank : Blank blanks) {fuel : Nat}
    (hfuel : ds.length < fuel) (first : Bool) (layout : Layout) (depth : Nat) (rest : List Char)
    (p : Position) :
    ∃ p', readElements item fuel first
        ⟨itemsFrom first layout depth ds ++ (blanks ++ ']' :: rest), p⟩ =
      .ok (as, ⟨rest, p'⟩) := by
  induction hitems generalizing fuel first p with
  | nil =>
      obtain ⟨fuel, rfl⟩ := Nat.exists_eq_add_one_of_ne_zero (Nat.ne_of_gt hfuel)
      obtain ⟨p', hnext⟩ := exists_nextElement_close hblank first rest p
      refine ⟨p'.after ']', ?_⟩
      rw [itemsFrom, List.nil_append]
      simp only [readElements, hnext]
      rfl
  | @cons d a ds as hitem _ ih =>
      obtain ⟨fuel, rfl⟩ := Nat.exists_eq_add_one_of_ne_zero (Nat.ne_zero_of_lt hfuel)
      have hlater := ih (by simpa using hfuel) false
      -- what the first item has behind it never goes on with a number
      let behind := itemsFrom false layout depth ds ++ (blanks ++ ']' :: rest)
      have hbehind : endsNumber behind = true :=
        endsNumber_itemsFrom _ _ _ (endsNumber_append hblank rfl)
      obtain ⟨c, text, hwrite, hgap, hc⟩ := exists_write_eq_cons d layout depth
      obtain ⟨p₁, hnext⟩ :=
        exists_nextElement (blank_gap layout depth) first hgap hc (text ++ behind) p
      obtain ⟨p₂, hread⟩ := hitem layout depth [] behind p₁ (by simp [Blank]) hbehind
      obtain ⟨p₃, hrest⟩ := hlater p₂
      refine ⟨p₃, ?_⟩
      rw [hwrite] at hread
      rw [itemsFrom, writeItems_eq, hwrite, List.append_assoc, List.append_assoc]
      exact readElements_cons hnext hread hrest

/-- A list is read back if its items are, one by one. -/
theorem reads_items {item : Reader α} {ds : List Document} {as : List α}
    (hitems : List.Forall₂ (Reads item) ds as) : Reads (readList item) (.list ds) as := by
  intro layout depth blanks rest p hblank _
  obtain ⟨closing, hclosing, hwrite⟩ := exists_write_list layout depth ds
  let items := itemsFrom true layout (depth + 1) ds
  have htoken : atToken ('[' :: (items ++ (closing ++ ']' :: rest))) = true := rfl
  have hfuel : ds.length < ('[' :: (items ++ (closing ++ ']' :: rest))).length + 1 := by
    have hlength := length_le_itemsFrom true layout (depth + 1) ds
    simp only [items, List.length_cons, List.length_append]
    omega
  obtain ⟨p', hskip⟩ := Cursor.exists_skipGap hblank htoken p
  obtain ⟨p'', hread⟩ :=
    exists_readElements hitems hclosing hfuel true layout (depth + 1) rest (p'.after '[')
  refine ⟨p'', ?_⟩
  rw [hwrite, List.cons_append, List.append_assoc, List.append_assoc, List.singleton_append]
  simp only [readList, items, hskip] at hskip ⊢
  exact hread

/-- A list is read back if its items are. -/
theorem reads_list {item : Reader α} {write : α → Document} {as : List α}
    (hitem : ∀ a ∈ as, Reads item (write a) a) :
    Reads (readList item) (.list (as.map write)) as := by
  apply reads_items
  rw [List.forall₂_map_left_iff, List.forall₂_same]
  exact hitem

end Lists

/-! ## Objects -/

section Objects

variable {blanks : List Char}

theorem exists_nextMember (hblank : Blank blanks) (first : Bool) (text : List Char) (p : Position) :
    ∃ p', nextMember first ⟨lead first blanks ++ '"' :: text, p⟩ =
      .ok (true, ⟨'"' :: text, p'⟩) := by
  have htoken : atToken ('"' :: text) = true := rfl
  cases first with
  | true =>
      obtain ⟨p', hskip⟩ := Cursor.exists_skipGap hblank htoken p
      exact ⟨p', by simp [nextMember, lead, hskip]⟩
  | false =>
      obtain ⟨p', hskip⟩ := Cursor.exists_skipGap hblank htoken (p.after ',')
      have hcomma : Cursor.skipGap ⟨',' :: (blanks ++ '"' :: text), p⟩ =
          ⟨',' :: (blanks ++ '"' :: text), p⟩ := rfl
      exact ⟨p', by simp [nextMember, lead, hcomma, Cursor.next, hskip]⟩

theorem exists_nextMember_close (hblank : Blank blanks) (first : Bool) (rest : List Char)
    (p : Position) :
    ∃ p', nextMember first ⟨blanks ++ '\x7d' :: rest, p⟩ = .ok (false, ⟨'\x7d' :: rest, p'⟩) := by
  have htoken : atToken ('\x7d' :: rest) = true := rfl
  obtain ⟨p', hskip⟩ := Cursor.exists_skipGap hblank htoken p
  exact ⟨p', by simp [nextMember, hskip]⟩

theorem exists_readColon (layout : Layout) (text : List Char) (p : Position) :
    ∃ blanks p', Blank blanks ∧ readColon ⟨layout.colon ++ text, p⟩ = .ok ⟨blanks ++ text, p'⟩ := by
  cases layout with
  | compact => exact ⟨[], _, by simp [Blank], rfl⟩
  | indented => exact ⟨[' '], _, by simp [Blank, Cursor.isGap], rfl⟩

/-- The members of an object from the first one or from a later one on. -/
def membersFrom (first : Bool) (layout : Layout) (depth : Nat) :
    List (String × Document) → List Char
  | [] => []
  | (key, d) :: members =>
    lead first (layout.gap depth) ++ (writeText key ++ (layout.colon ++
      (d.write layout depth ++ Document.writeMembers layout depth members)))

theorem writeMembers_eq (layout : Layout) (depth : Nat) (members : List (String × Document)) :
    Document.writeMembers layout depth members = membersFrom false layout depth members := by
  cases members with
  | nil => rfl
  | cons member members => simp [Document.writeMembers, membersFrom, lead]

theorem endsNumber_membersFrom (layout : Layout) (depth : Nat) (members : List (String × Document))
    {text : List Char} (htext : endsNumber text = true) :
    endsNumber (membersFrom false layout depth members ++ text) = true := by
  cases members with
  | nil => exact htext
  | cons member members => rfl

theorem exists_write_object (layout : Layout) (depth : Nat) (members : List (String × Document)) :
    ∃ blanks, Blank blanks ∧
      (Document.object members).write layout depth =
        '\x7b' :: (membersFrom true layout (depth + 1) members ++ (blanks ++ ['\x7d'])) := by
  cases members with
  | nil => exact ⟨[], by simp [Blank], rfl⟩
  | cons member members =>
      exact ⟨_, blank_gap layout depth, by simp [Document.write, membersFrom, lead]⟩

theorem length_le_membersFrom (first : Bool) (layout : Layout) (depth : Nat)
    (members : List (String × Document)) :
    members.length ≤ (membersFrom first layout depth members).length := by
  induction members generalizing first with
  | nil => exact Nat.le_refl _
  | cons member members ih =>
      have hrest := ih false
      rw [membersFrom, writeMembers_eq, writeText]
      simp only [List.length_append, List.length_cons]
      omega

/-- One member of an object: its key, its colon and its value are read back. -/
theorem exists_readMember {item : Reader α} {d : Document} {a : α} (hitem : Reads item d a)
    (key : String) (members : List (String × Document)) (hblank : Blank blanks) (first : Bool)
    (layout : Layout) (depth : Nat) (rest : List Char) (p : Position) :
    ∃ c₁ c₂ c₃ p',
      nextMember first ⟨membersFrom first layout depth ((key, d) :: members) ++
        (blanks ++ '\x7d' :: rest), p⟩ = .ok (true, c₁) ∧
      readText c₁.next = .ok (key, c₂) ∧ readColon c₂ = .ok c₃ ∧
      item c₃ =
        .ok (a, ⟨membersFrom false layout depth members ++ (blanks ++ '\x7d' :: rest), p'⟩) := by
  let behind := membersFrom false layout depth members ++ (blanks ++ '\x7d' :: rest)
  have hbehind : endsNumber behind = true :=
    endsNumber_membersFrom _ _ _ (endsNumber_append hblank rfl)
  let value := layout.colon ++ (d.write layout depth ++ behind)
  obtain ⟨p₁, hnext⟩ := exists_nextMember (blank_gap layout depth) first
    (key.toList.flatMap escapeChar ++ '"' :: value) p
  obtain ⟨p₂, hkey⟩ := exists_readText key value (p₁.after '"')
  obtain ⟨space, p₃, hspace, hcolon⟩ := exists_readColon layout (d.write layout depth ++ behind) p₂
  obtain ⟨p₄, hread⟩ := hitem layout depth space behind p₃ hspace hbehind
  refine ⟨⟨'"' :: (key.toList.flatMap escapeChar ++ '"' :: value), p₁⟩, _, _, p₄, ?_, hkey, hcolon,
    hread⟩
  rw [membersFrom, writeMembers_eq, writeText]
  simpa only [List.append_assoc, List.cons_append, List.nil_append] using hnext

theorem readMembers_cons {item : Reader α} {fuel : Nat} {first : Bool} {c c₁ c₂ c₃ c₄ c₅ : Cursor}
    {key : String} {a : α} {entries : List (String × α)}
    (hnext : nextMember first c = .ok (true, c₁)) (hkey : readText c₁.next = .ok (key, c₂))
    (hcolon : readColon c₂ = .ok c₃) (hitem : item c₃ = .ok (a, c₄))
    (hrest : readMembers item fuel false c₄ = .ok (entries, c₅)) :
    readMembers item (fuel + 1) first c = .ok ((key, a) :: entries, c₅) := by
  simp only [readMembers, hnext, bind, Except.bind, if_true, hkey, hcolon, hitem, hrest]
  rfl

/-- Whether an entry is what a member of an object is read back as. -/
def ReadsMember (item : Reader α) (member : String × Document) (entry : String × α) : Prop :=
  member.1 = entry.1 ∧ Reads item member.2 entry.2

/-- The members of an object are read back up to the closing bracket. -/
theorem exists_readMembers {item : Reader α} {members : List (String × Document)}
    {entries : List (String × α)} (hmembers : List.Forall₂ (ReadsMember item) members entries)
    (hblank : Blank blanks) {fuel : Nat} (hfuel : members.length < fuel) (first : Bool)
    (layout : Layout) (depth : Nat) (rest : List Char) (p : Position) :
    ∃ p', readMembers item fuel first
        ⟨membersFrom first layout depth members ++ (blanks ++ '\x7d' :: rest), p⟩ =
      .ok (entries, ⟨rest, p'⟩) := by
  induction hmembers generalizing fuel first p with
  | nil =>
      obtain ⟨fuel, rfl⟩ := Nat.exists_eq_add_one_of_ne_zero (Nat.ne_of_gt hfuel)
      obtain ⟨p', hnext⟩ := exists_nextMember_close hblank first rest p
      refine ⟨p'.after '\x7d', ?_⟩
      rw [membersFrom, List.nil_append]
      simp only [readMembers, hnext]
      rfl
  | @cons member entry members entries hmember _ ih =>
      obtain ⟨fuel, rfl⟩ := Nat.exists_eq_add_one_of_ne_zero (Nat.ne_zero_of_lt hfuel)
      obtain ⟨hsame, hitem⟩ := hmember
      obtain ⟨c₁, c₂, c₃, p', hnext, hkey, hcolon, hread⟩ :=
        exists_readMember hitem member.1 members hblank first layout depth rest p
      obtain ⟨p'', hrest⟩ := ih (by simpa using hfuel) false p'
      rw [hsame] at hkey
      exact ⟨p'', readMembers_cons hnext hkey hcolon hread hrest⟩

/-- A reader that goes over the members behind an opening bracket reads an object back. -/
theorem reads_of_members {reader : Reader α} (body : Nat → Reader α)
    {members : List (String × Document)} {a : α}
    (hopen : ∀ c text p, Cursor.skipGap c = ⟨'\x7b' :: text, p⟩ →
      reader c = body (text.length + 2) ⟨text, p.after '\x7b'⟩)
    (hbody : ∀ closing, Blank closing → ∀ fuel, members.length < fuel → ∀ layout depth rest p,
      ∃ p', body fuel ⟨membersFrom true layout depth members ++ (closing ++ '\x7d' :: rest), p⟩ =
        .ok (a, ⟨rest, p'⟩)) :
    Reads reader (.object members) a := by
  intro layout depth blanks rest p hblank _
  obtain ⟨closing, hclosing, hwrite⟩ := exists_write_object layout depth members
  let text := membersFrom true layout (depth + 1) members ++ (closing ++ '\x7d' :: rest)
  -- every member takes up room in the text, so that the length of the text is fuel enough
  have hfuel : members.length < text.length + 2 := by
    have hlength := length_le_membersFrom true layout (depth + 1) members
    simp only [text, List.length_append]
    omega
  have htoken : atToken ('\x7b' :: text) = true := rfl
  obtain ⟨p', hskip⟩ := Cursor.exists_skipGap hblank htoken p
  obtain ⟨p'', hread⟩ := hbody closing hclosing _ hfuel layout (depth + 1) rest (p'.after '\x7b')
  refine ⟨p'', ?_⟩
  rw [hwrite, List.cons_append, List.append_assoc, List.append_assoc, List.singleton_append,
    hopen _ text p' hskip]
  exact hread

/-- An object with free keys is read back, in the order of its members, if its members are, one by
one. -/
theorem reads_members {item : Reader α} {members : List (String × Document)}
    {entries : List (String × α)} (hmembers : List.Forall₂ (ReadsMember item) members entries) :
    Reads (readObject item) (.object members) entries := by
  apply reads_of_members fun fuel => readMembers item fuel true
  · intro c text p hskip
    simp [readObject, hskip, Cursor.next]
  · intro closing hclosing fuel hfuel layout depth rest p
    exact exists_readMembers hmembers hclosing hfuel true layout depth rest p

/-- An object with free keys is read back, in the order of its members, if its values are. -/
theorem reads_object {item : Reader α} (write : α → Document) {entries : List (String × α)}
    (hitem : ∀ e ∈ entries, Reads item (write e.2) e.2) :
    Reads (readObject item) (.object (entries.map fun e => (e.1, write e.2))) entries := by
  apply reads_members
  rw [List.forall₂_map_left_iff, List.forall₂_same]
  exact fun e he => ⟨rfl, hitem e he⟩

end Objects

/-! ## Records -/

section Records

variable {π : Type} {shape : Shape π α} {blanks : List Char}

/-- Members that fill the fields of a record one after another, each a field that was not set. -/
inductive Fills (shape : Shape π α) : π → List (String × Document) → π → Prop
  | nil {built : π} : Fills shape built [] built
  | cons {built built' finished : π} {key : String} {d : Document}
      {members : List (String × Document)} {field : Field π}
      (hfield : shape.fields.find? (fun field => field.name == key) = some field)
      (hset : field.isSet built = false) (hread : Reads (field.read built) d built')
      (hrest : Fills shape built' members finished) :
      Fills shape built ((key, d) :: members) finished

theorem readFields_cons {fuel : Nat} {first : Bool} {c c₁ c₂ c₃ c₄ : Cursor} {key : String}
    {built built' : π} {field : Field π} {result : Except Error (α × Cursor)}
    (hnext : nextMember first c = .ok (true, c₁)) (hkey : readText c₁.next = .ok (key, c₂))
    (hfield : shape.fields.find? (fun field => field.name == key) = some field)
    (hset : field.isSet built = false) (hcolon : readColon c₂ = .ok c₃)
    (hread : field.read built c₃ = .ok (built', c₄))
    (hrest : shape.readFields fuel false built' c₄ = result) :
    shape.readFields (fuel + 1) first built c = result := by
  rw [← hrest]
  simp [Shape.readFields, hnext, bind, Except.bind, hkey, hfield, hset, hcolon, hread]

/-- The members of a record are read back up to the closing bracket. -/
theorem Fills.exists_readFields {built finished : π} {members : List (String × Document)}
    (h : Fills shape built members finished) {a : α} (hfinish : shape.finish finished = .ok a)
    (hblank : Blank blanks) {fuel : Nat} (hfuel : members.length < fuel) (first : Bool)
    (layout : Layout) (depth : Nat) (rest : List Char) (p : Position) :
    ∃ p', shape.readFields fuel first built
        ⟨membersFrom first layout depth members ++ (blanks ++ '\x7d' :: rest), p⟩ =
      .ok (a, ⟨rest, p'⟩) := by
  induction h generalizing fuel first p with
  | nil =>
      obtain ⟨fuel, rfl⟩ := Nat.exists_eq_add_one_of_ne_zero (Nat.ne_of_gt hfuel)
      obtain ⟨p', hnext⟩ := exists_nextMember_close hblank first rest p
      have hclose : Cursor.skipClose ⟨'\x7d' :: rest, p'⟩ '\x7d' = ⟨rest, p'.after '\x7d'⟩ := rfl
      refine ⟨p'.after '\x7d', ?_⟩
      rw [membersFrom, List.nil_append]
      simp [Shape.readFields, hnext, bind, Except.bind, Shape.close, hclose, hfinish]
  | @cons built built' finished key d members field hfield hset hread hrest ih =>
      obtain ⟨fuel, rfl⟩ := Nat.exists_eq_add_one_of_ne_zero (Nat.ne_zero_of_lt hfuel)
      obtain ⟨c₁, c₂, c₃, p', hnext, hkey, hcolon, hvalue⟩ :=
        exists_readMember hread key members hblank first layout depth rest p
      obtain ⟨p'', hlater⟩ := ih hfinish (by simpa using hfuel) false p'
      exact ⟨p'', readFields_cons hnext hkey hfield hset hcolon hvalue hlater⟩

/-- A record is read back from members that fill it. -/
theorem Fills.reads {finished : π} {members : List (String × Document)}
    (h : Fills shape shape.blank members finished) {a : α}
    (hfinish : shape.finish finished = .ok a) : Reads shape.read (.object members) a := by
  apply reads_of_members fun fuel => shape.readFields fuel true shape.blank
  · intro c text p hskip
    simp [Shape.read, hskip, Cursor.next]
  · intro closing hclosing fuel hfuel layout depth rest p
    exact h.exists_readFields hfinish hclosing hfuel true layout depth rest p

end Records

end SmellRefactor.Json

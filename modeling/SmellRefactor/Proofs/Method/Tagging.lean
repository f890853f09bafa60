import Mathlib.Data.List.Count
import Mathlib.Data.List.Induction
import Mathlib.Data.List.Nodup
import SmellRefactor.Method

/-!
# Tagging

Methods are tagged with smells, and smells are taken off them, in any order and any number of times.
The tags of a method that had none at first are the smells that were added and not removed since,
each once.  They stand in the order in which they came in; adding a smell that is there already does
not count, and a smell that was removed comes in anew.  A list of tags that was read from a file may
repeat smells; removing a smell then takes off all of its tags and leaves the others as they are.
-/

namespace SmellRefactor

namespace Method

/-! ## One change -/

theorem tag_of_mem {m : Method} {smell : CodeSmell} (h : smell ∈ m.smells) : m.tag smell = m := by
  simp [tag, carries, h]

theorem smells_tag_of_not_mem {m : Method} {smell : CodeSmell} (h : smell ∉ m.smells) :
    (m.tag smell).smells = m.smells ++ [smell] := by
  simp [tag, carries, h, push]

/-- Removing tells whether there was a tag to remove. -/
theorem remove_fst_iff {m : Method} {smell : CodeSmell} :
    (m.remove smell).1 = true ↔ smell ∈ m.smells := by
  rw [remove, bne_iff_ne, Ne, clear_smells, List.length_filter_eq_length_iff]
  simp

theorem count_clear (m : Method) (smell other : CodeSmell) :
    (m.clear smell).smells.count other = if other = smell then 0 else m.smells.count other := by
  rw [clear_smells]
  by_cases h : other = smell
  · rw [if_pos h, List.count_eq_zero]
    simp [h]
  · rw [if_neg h, List.count_filter (by simpa using h)]

/-! ## Sequences of changes -/

/-- A change of the tags of a method. -/
inductive Edit where
  | tag (smell : CodeSmell)
  | remove (smell : CodeSmell)

/-- The method after a change. -/
def edit (m : Method) : Edit → Method
  | .tag smell => m.tag smell
  | .remove smell => (m.remove smell).2

/-- The method after some changes, made one after another. -/
def editAll (m : Method) (edits : List Edit) : Method := edits.foldl edit m

theorem editAll_append_singleton (m : Method) (edits : List Edit) (e : Edit) :
    m.editAll (edits ++ [e]) = (m.editAll edits).edit e := by
  rw [editAll, List.foldl_append]
  rfl

namespace Edit

/-- Whether a smell was added and not removed since. -/
def Standing (edits : List Edit) (smell : CodeSmell) : Prop :=
  ∃ earlier later, edits = earlier ++ tag smell :: later ∧ remove smell ∉ later

/-- Whether a smell comes in by the edit at a time: it is added, and did not stand before. -/
def EntersAt (edits : List Edit) (smell : CodeSmell) (time : Nat) : Prop :=
  edits[time]? = some (tag smell) ∧ ¬ Standing (edits.take time) smell

/-- Whether a time is the latest at which a smell comes in. -/
def EntersLastAt (edits : List Edit) (smell : CodeSmell) (time : Nat) : Prop :=
  EntersAt edits smell time ∧ ∀ other, EntersAt edits smell other → other ≤ time

/-- Whether a smell came in last before another one did. -/
def EntersBefore (edits : List Edit) (smell other : CodeSmell) : Prop :=
  ∃ time time', EntersLastAt edits smell time ∧ EntersLastAt edits other time' ∧ time < time'

/-- Whether a list holds the smells that stand after some edits, each once and in the order in which
they came in. -/
structure Lists (edits : List Edit) (smells : List CodeSmell) : Prop where
  nodup : smells.Nodup
  standing : ∀ smell, smell ∈ smells ↔ Standing edits smell
  entered : ∀ smell ∈ smells, ∃ time, EntersLastAt edits smell time
  ordered : smells.Pairwise (EntersBefore edits)

variable {edits : List Edit} {e : Edit} {smell other : CodeSmell} {time : Nat}

theorem not_standing_nil : ¬ Standing [] smell := by
  rintro ⟨earlier, later, h, -⟩
  simp at h

theorem standing_append_singleton_iff :
    Standing (edits ++ [e]) smell ↔ e = tag smell ∨ Standing edits smell ∧ e ≠ remove smell := by
  constructor
  · rintro ⟨earlier, later, h, hkept⟩
    -- the smell is added by the last edit, or before it
    rcases List.eq_nil_or_concat later with rfl | ⟨later, last, rfl⟩
    · obtain ⟨-, hlast⟩ := List.append_inj' h rfl
      exact .inl (List.singleton_inj.1 hlast)
    · rw [List.concat_eq_append, ← List.cons_append, ← List.append_assoc] at h
      obtain ⟨hedits, hlast⟩ := List.append_inj' h rfl
      obtain rfl : e = last := List.singleton_inj.1 hlast
      simp only [List.concat_eq_append, List.mem_append, List.mem_singleton, not_or] at hkept
      exact .inr ⟨⟨earlier, later, hedits, hkept.1⟩, Ne.symm hkept.2⟩
  · rintro (rfl | ⟨⟨earlier, later, rfl, hkept⟩, hne⟩)
    · exact ⟨edits, [], rfl, by simp⟩
    · exact ⟨earlier, later ++ [e], by simp, by simp [hkept, Ne.symm hne]⟩

theorem standing_append_tag_iff :
    Standing (edits ++ [tag smell]) other ↔ Standing edits other ∨ other = smell := by
  rw [standing_append_singleton_iff]
  simp only [tag.injEq, ne_eq, reduceCtorEq, not_false_eq_true, and_true]
  rw [or_comm, eq_comm]

theorem standing_append_remove_iff :
    Standing (edits ++ [remove smell]) other ↔ Standing edits other ∧ other ≠ smell := by
  rw [standing_append_singleton_iff]
  simp only [remove.injEq, ne_eq, reduceCtorEq, false_or]
  rw [eq_comm]

/-! ### Times -/

theorem EntersAt.lt (h : EntersAt edits smell time) : time < edits.length :=
  (List.getElem?_eq_some_iff.1 h.1).1

/-- What comes in at a time does not depend on the edits behind it. -/
theorem entersAt_append_singleton_iff (h : time < edits.length) :
    EntersAt (edits ++ [e]) smell time ↔ EntersAt edits smell time := by
  rw [EntersAt, EntersAt, List.getElem?_append_left h,
    List.take_append_of_le_length (Nat.le_of_lt h)]

theorem entersAt_length_iff :
    EntersAt (edits ++ [e]) smell edits.length ↔ e = tag smell ∧ ¬ Standing edits smell := by
  simp [EntersAt]

/-- A smell that stands came in last when it did before the new edit. -/
theorem EntersLastAt.append_singleton (h : EntersLastAt edits smell time)
    (hstands : Standing edits smell) (e : Edit) : EntersLastAt (edits ++ [e]) smell time := by
  refine ⟨(entersAt_append_singleton_iff h.1.lt).2 h.1, ?_⟩
  intro other hother
  have hlength : other < (edits ++ [e]).length := hother.lt
  rw [List.length_append, List.length_singleton] at hlength
  rcases Nat.lt_or_ge other edits.length with hlt | hge
  · exact h.2 other ((entersAt_append_singleton_iff hlt).1 hother)
  · obtain rfl : other = edits.length := by omega
    exact absurd hstands (entersAt_length_iff.1 hother).2

/-- A smell that does not stand comes in when it is added. -/
theorem entersLastAt_length (h : ¬ Standing edits smell) :
    EntersLastAt (edits ++ [tag smell]) smell edits.length := by
  refine ⟨entersAt_length_iff.2 ⟨rfl, h⟩, ?_⟩
  intro other hother
  have hlt := hother.lt
  rw [List.length_append, List.length_singleton] at hlt
  omega

/-! ### Lists of standing smells -/

namespace Lists

variable {smells : List CodeSmell}

theorem nil : Lists [] [] :=
  ⟨List.nodup_nil, fun _ => by simp [not_standing_nil], by simp, List.Pairwise.nil⟩

theorem entered_append (h : Lists edits smells) (e : Edit) :
    ∀ smell ∈ smells, ∃ time, EntersLastAt (edits ++ [e]) smell time := by
  intro smell hsmell
  obtain ⟨time, htime⟩ := h.entered smell hsmell
  exact ⟨time, htime.append_singleton ((h.standing smell).1 hsmell) e⟩

/-- Listed smells keep their order under one more edit, as all of them stand. -/
theorem ordered_append (h : Lists edits smells) (e : Edit) :
    smells.Pairwise (EntersBefore (edits ++ [e])) := by
  refine h.ordered.imp_of_mem ?_
  rintro a b ha hb ⟨time, time', htime, htime', hlt⟩
  exact ⟨time, time', htime.append_singleton ((h.standing a).1 ha) e,
    htime'.append_singleton ((h.standing b).1 hb) e, hlt⟩

theorem sublist (h : Lists edits smells) {kept : List CodeSmell} (hkept : kept.Sublist smells)
    (hstanding : ∀ smell, smell ∈ kept ↔ Standing (edits ++ [e]) smell) :
    Lists (edits ++ [e]) kept where
  nodup := h.nodup.sublist hkept
  standing := hstanding
  entered := fun smell hsmell => h.entered_append e smell (hkept.subset hsmell)
  ordered := (h.ordered_append e).sublist hkept

/-- Adding a smell that stands changes nothing, and the smell keeps its time. -/
theorem again (h : Lists edits smells) (hmem : smell ∈ smells) :
    Lists (edits ++ [tag smell]) smells := by
  refine h.sublist (List.Sublist.refl smells) ?_
  intro other
  rw [standing_append_tag_iff, ← h.standing]
  exact (or_iff_left_of_imp fun heq => heq ▸ hmem).symm

theorem erase (h : Lists edits smells) (smell : CodeSmell) :
    Lists (edits ++ [remove smell]) (smells.filter (· ≠ smell)) := by
  refine h.sublist List.filter_sublist ?_
  intro other
  rw [List.mem_filter, h.standing, standing_append_remove_iff, decide_eq_true_eq]

/-- A smell that does not stand is listed last when it is added. -/
theorem concat (h : Lists edits smells) (hnew : smell ∉ smells) :
    Lists (edits ++ [tag smell]) (smells ++ [smell]) := by
  have hlast : EntersLastAt (edits ++ [tag smell]) smell edits.length :=
    entersLastAt_length (mt (h.standing smell).2 hnew)
  refine ⟨?_, ?_, ?_, ?_⟩
  · refine List.nodup_append.2 ⟨h.nodup, List.nodup_singleton _, ?_⟩
    rintro other hother last hmem rfl
    exact hnew (List.mem_singleton.1 hmem ▸ hother)
  · intro other
    rw [List.mem_append, List.mem_singleton, standing_append_tag_iff, h.standing]
  · intro other hother
    rcases List.mem_append.1 hother with hother | hother
    · exact h.entered_append _ other hother
    · rw [List.mem_singleton.1 hother]
      exact ⟨_, hlast⟩
  · refine List.pairwise_append.2 ⟨h.ordered_append _, List.pairwise_singleton _ _, ?_⟩
    intro other hother last hmem
    obtain ⟨time, htime⟩ := h.entered other hother
    rw [List.mem_singleton.1 hmem]
    exact ⟨time, edits.length, htime.append_singleton ((h.standing other).1 hother) _, hlast,
      htime.1.lt⟩

/-- A change of a method keeps its tags the list of the smells that stand. -/
theorem edit {m : Method} (h : Lists edits m.smells) (e : Edit) :
    Lists (edits ++ [e]) (m.edit e).smells := by
  cases e with
  | tag smell =>
      by_cases hmem : smell ∈ m.smells
      · rw [Method.edit, tag_of_mem hmem]
        exact h.again hmem
      · rw [Method.edit, smells_tag_of_not_mem hmem]
        exact h.concat hmem
  | remove smell => exact h.erase smell

end Lists

/-- After any changes of a method without smells its tags are the list of the smells that stand. -/
theorem lists_editAll (name : String) (edits : List Edit) :
    Lists edits ((ofName name).editAll edits).smells := by
  induction edits using List.reverseRecOn with
  | nil => exact Lists.nil
  | append_singleton edits e ih =>
      rw [editAll_append_singleton]
      exact ih.edit e

end Edit

/-! ## All changes -/

/-- Whatever is added to a method without smells and removed from it, its tags list the smells that
stand, each once and in the order in which they came in, and removing a smell tells whether it
stands.  On any list of tags, removing a smell takes off all of its tags, keeps the others in their
order and number, and tells whether there was one to take off. -/
theorem tags_follow_edits :
    (∀ (name : String) (edits : List Edit),
      ((ofName name).editAll edits).smells.Nodup ∧
      (∀ smell, smell ∈ ((ofName name).editAll edits).smells ↔ Edit.Standing edits smell) ∧
      ((ofName name).editAll edits).smells.Pairwise (Edit.EntersBefore edits) ∧
      (∀ smell ∈ ((ofName name).editAll edits).smells,
        ∃ time, Edit.EntersLastAt edits smell time) ∧
      ∀ smell, (((ofName name).editAll edits).remove smell).1 = true ↔
        Edit.Standing edits smell) ∧
    ∀ (m : Method) (smell : CodeSmell),
      (m.remove smell).2.smells.Sublist m.smells ∧
      (∀ other, (m.remove smell).2.smells.count other =
        if other = smell then 0 else m.smells.count other) ∧
      ((m.remove smell).1 = true ↔ smell ∈ m.smells) := by
  refine ⟨?_, ?_⟩
  · intro name edits
    have hlists := Edit.lists_editAll name edits
    refine ⟨hlists.nodup, hlists.standing, hlists.ordered, hlists.entered, ?_⟩
    intro smell
    rw [remove_fst_iff, hlists.standing]
  · intro m smell
    exact ⟨List.filter_sublist, count_clear m smell, remove_fst_iff⟩

/-- One smell is added twice before it is removed, and once more after that; another method repeats
it in its tags. -/
theorem tags_follow_edits_again :
    let edits : List Edit := [.tag .longMethod, .tag .dataClump, .tag .longMethod,
      .remove .longMethod, .tag .deepNesting, .tag .longMethod, .tag .dataClump]
    let draw := (ofName "draw").editAll edits
    let load : Method := ⟨"load", [.longMethod, .dataClump, .longMethod, .largeClass]⟩
    draw.smells = [.dataClump, .deepNesting, .longMethod] ∧
      Edit.EntersBefore edits .dataClump .longMethod ∧
      (.deepNesting ∈ draw.smells ∧ ∃ time, Edit.EntersLastAt edits .deepNesting time) ∧
      Edit.Standing edits .longMethod ∧ ¬ Edit.Standing edits .largeClass ∧
      (load.remove .longMethod).2.smells = [.dataClump, .largeClass] ∧
      (load.remove .longMethod).1 = true := by
  intro edits draw load
  obtain ⟨hedits, hremove⟩ := tags_follow_edits
  obtain ⟨-, hstanding, hordered, hentered, hanswer⟩ := hedits "draw" edits
  obtain ⟨-, -, hthere⟩ := hremove load .longMethod
  have hsmells : draw.smells = [.dataClump, .deepNesting, .longMethod] := by decide
  have hdeep : .deepNesting ∈ draw.smells := by decide
  refine ⟨hsmells, ?_, ⟨hdeep, hentered _ hdeep⟩, (hanswer _).1 (by decide), ?_, by decide,
    hthere.2 (by decide)⟩
  · have hpairs : draw.smells.Pairwise (Edit.EntersBefore edits) := hordered
    rw [hsmells] at hpairs
    exact (List.pairwise_cons.1 hpairs).1 _ (by simp)
  · rw [← hstanding]
    decide

end Method

end SmellRefactor

import SmellRefactor.Proofs.Failure.Normalization
import SmellRefactor.Proofs.Json.RoundTrip

/-!
# Failure indices that are read

Reading a text gives an index as it stands there, with its empty parts, whereas an index of a nested
table has none.  So what an index says of itself, that it names a smell only where it counts a
failure, that a path it lists has a failed method, and that its lists determine it, holds of an
index that was read exactly when the text happens to give one without empty parts.
-/

namespace SmellRefactor

namespace FailureIndex

/-- Whether a text is accepted as an index or as a report, and this is the index. -/
def IsReadFrom (index : FailureIndex) (text : String) : Prop :=
  Json.indexOfText text = .ok index ∨
    ∃ r : Report, Json.reportOfText text = .ok r ∧ r.failures = index

/-- Whether an index is empty only where it counts no failure, and lists a path under a smell name
only where a method failed. -/
structure Faithful (index : FailureIndex) : Prop where
  counted : index.isEmpty = true ↔ index.total = 0
  listed : ∀ name, ∀ path ∈ index.paths name,
    ∃ failed, index.find? name path = some failed ∧ failed ≠ []

/-- Whether two indices give the same list for every smell name and path, if nothing counts as the
empty list. -/
def Alike (first second : FailureIndex) : Prop :=
  ∀ name path, (first.find? name path).getD [] = (second.find? name path).getD []

/-- Whether an index is equivalent to every other one that is like it and has no empty parts, as far
as both are read from texts. -/
def Determined (index : FailureIndex) : Prop :=
  ∀ text other, IsReadFrom other text → other.Canonical → index.Alike other →
    index.equivalent other = true

theorem alike_ofTable (index : FailureIndex) : index.Alike (ofTable index.table) :=
  fun name path => (getD_find?_ofTable index.table name path).symm

/-! ## Every index is read from some text -/

theorem isReadFrom_compact (index : FailureIndex) :
    index.IsReadFrom (Json.indexDocument index).compact :=
  .inl (Json.readDocument_compact (Json.reads_index index))

/-- Every index is also the index of a report that is read from some text. -/
theorem exists_report_isReadFrom (index : FailureIndex) :
    ∃ text r, Json.reportOfText text = .ok r ∧ r.failures = index := by
  have hfits : (⟨0, 0, 0, 0, 0⟩ : Summary).Fits := by constructor <;> exact Nat.zero_le _
  exact ⟨_, ⟨⟨0, 0, 0, 0, 0⟩, index, .empty⟩,
    Json.readDocument_compact (Json.reads_report hfits), rfl⟩

/-! ## What holds without empty parts -/

theorem Canonical.faithful {index : FailureIndex} (h : index.Canonical) : index.Faithful :=
  ⟨h.isEmpty_iff, fun _ _ => h.exists_find?_of_mem_paths⟩

theorem Canonical.determined {index : FailureIndex} (h : index.Canonical) : index.Determined :=
  fun _ _ _ hother halike => (h.equivalent_iff_getD hother).2 halike

/-- What is equivalent to an index without empty parts has none. -/
theorem Canonical.of_equivalent {index other : FailureIndex} (h : other.Canonical)
    (hequivalent : index.equivalent other = true) : index.Canonical := by
  rintro ⟨name, methods⟩ he
  have htables := equivalent_iff_tables.1 hequivalent name
  have hname : index.table.find? name = some methods := OrderedMap.find?_of_mem he
  rw [hname] at htables
  cases hothers : other.table.find? name with
  | none => rw [hothers] at htables; cases htables
  | some others =>
      rw [hothers] at htables
      cases htables with
      | some hlists =>
          obtain ⟨hne, hfull⟩ := h.of_find? hothers
          constructor
          · -- a path of the other index is found here too
            obtain ⟨f, hf⟩ := List.exists_mem_of_ne_nil _ hne
            have hlist := hlists f.1
            rw [OrderedMap.find?_of_mem hf] at hlist
            obtain ⟨e, he, -⟩ := OrderedMap.exists_mem_of_find? hlist
            exact List.ne_nil_of_mem he
          · intro e he hnil
            have hlist := hlists e.1
            rw [OrderedMap.find?_of_mem he, hnil] at hlist
            exact hfull.find?_ne e.1 hlist.symm

theorem Determined.canonical {index : FailureIndex} (h : index.Determined) : index.Canonical := by
  have hnormal := canonical_ofTable index.table
  exact hnormal.of_equivalent (h _ _ (isReadFrom_compact _) hnormal (alike_ofTable index))

/-- What is read from a text is faithful and determined by its lists exactly when it has no empty
parts.  The index of its table is so always, and is like it.  The texts do not exclude anything:
every index is read from one, alone and as part of a report. -/
theorem read_faithful_iff (text : String) :
    ((∀ index : FailureIndex, index.IsReadFrom text → index.Faithful ∧ index.Determined) ↔
        ∀ index : FailureIndex, index.IsReadFrom text → index.Canonical) ∧
      ∀ index : FailureIndex,
        (ofTable index.table).Faithful ∧ (ofTable index.table).Determined ∧
          index.Alike (ofTable index.table) ∧
          (∃ own, Json.indexOfText own = .ok index) ∧
          ∃ own r, Json.reportOfText own = .ok r ∧ r.failures = index := by
  refine ⟨⟨?_, ?_⟩, ?_⟩
  · exact fun h index hread => (h index hread).2.canonical
  · intro h index hread
    have hcanonical := h index hread
    exact ⟨hcanonical.faithful, hcanonical.determined⟩
  · intro index
    have hnormal := canonical_ofTable index.table
    exact ⟨hnormal.faithful, hnormal.determined, alike_ofTable index,
      ⟨_, Json.readDocument_compact (Json.reads_index index)⟩, exists_report_isReadFrom index⟩

/-- A smell name without paths is read as it stands: the index is not empty and counts no failure,
although it is like the empty index.  A path without methods is read too, and is listed. -/
theorem not_faithful_emptyParts :
    let bare : FailureIndex := ⟨.ofList [("Long Method", .empty)]⟩
    let hollow : FailureIndex := ⟨.ofList [("Long Method", .ofList [(⟨"a.java"⟩, [])])]⟩
    let bareText := "\x7b\"Long Method\":\x7b\x7d\x7d"
    let hollowText := "\x7b\"Long Method\":\x7b\"a.java\":[]\x7d\x7d"
    Json.indexOfText bareText = .ok bare ∧ bare.isEmpty = false ∧ bare.total = 0 ∧
      Json.indexOfText hollowText = .ok hollow ∧
      ⟨"a.java"⟩ ∈ hollow.paths "Long Method" ∧
      hollow.find? "Long Method" ⟨"a.java"⟩ = some [] ∧
      Json.indexOfText "\x7b\x7d" = .ok .empty ∧ bare.Alike .empty ∧
      bare.equivalent .empty = false ∧
      ¬ ∀ index : FailureIndex, index.IsReadFrom bareText → index.Faithful := by
  intro bare hollow bareText hollowText
  have hbare : Json.indexOfText bareText = .ok bare := by decide +kernel
  have hempty : bare.isEmpty = false := by decide
  have hnormal : ofTable bare.table = .empty := by decide
  have halike : bare.Alike .empty := by
    rw [← hnormal]
    exact alike_ofTable bare
  refine ⟨hbare, hempty, by decide, by decide +kernel, by decide, by decide, by decide +kernel,
    halike, by decide, ?_⟩
  intro hfaithful
  have hcounted := (hfaithful bare (.inl hbare)).counted
  rw [hempty] at hcounted
  exact absurd (hcounted.2 (by decide)) (by decide)

end FailureIndex

end SmellRefactor

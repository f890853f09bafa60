import SmellRefactor.Proofs.Map.Lookup

/-!
# Unions of ordered maps

`OrderedMap.union` adds the entries of a second map to a first one, one after another, and joins
the two values under a key that occurs in both.  A lookup in a union is the union of the lookups.
-/

namespace SmellRefactor

namespace OrderedMap

variable {κ : Type u} {ν : Type v} [Ord κ] [Std.TransOrd κ]

/-- Both maps together; a key of both keeps its first spelling and its values are joined. -/
def union (join : ν → ν → ν) (first second : OrderedMap κ ν) : OrderedMap κ ν :=
  second.entries.foldl (fun m e => m.upsert e.1 fun old => old.elim e.2 fun v => join v e.2) first

/-- Two entries under one key: the spelling of the first, and both values joined. -/
def joinEntries (join : ν → ν → ν) (first second : κ × ν) : κ × ν :=
  (first.1, join first.2 second.2)

/-- Adding ascending entries one after another, as seen by a lookup. -/
theorem pairAt?_foldl_upsert {entries : List (κ × ν)} (hasc : Ascending entries)
    (join : ν → ν → ν) (m : OrderedMap κ ν) (key : κ) :
    (entries.foldl
        (fun m e => m.upsert e.1 fun old => old.elim e.2 fun v => join v e.2) m).pairAt? key =
      Option.merge (joinEntries join) (m.pairAt? key) (Entries.pairAt? key entries) := by
  induction entries generalizing m with
  | nil => simp
  | cons e rest ih =>
      have hrest : Ascending rest := (List.pairwise_cons.1 hasc).2
      rw [List.foldl_cons, ih hrest, pairAt?_upsert]
      by_cases h : compare key e.1 = .eq
      · have hnone := Entries.pairAt?_tail_eq_none hasc h
        rw [if_pos h, hnone, Entries.pairAt?_cons_of_eq h, m.pairAt?_congr h,
          find?_eq_map_pairAt?]
        cases m.pairAt? e.1 <;> simp [joinEntries]
      · rw [if_neg h, Entries.pairAt?_cons_of_ne h]

theorem pairAt?_union (join : ν → ν → ν) (first second : OrderedMap κ ν) (key : κ) :
    (union join first second).pairAt? key =
      Option.merge (joinEntries join) (first.pairAt? key) (second.pairAt? key) :=
  pairAt?_foldl_upsert second.ascending join first key

theorem find?_union (join : ν → ν → ν) (first second : OrderedMap κ ν) (key : κ) :
    (union join first second).find? key =
      Option.merge join (first.find? key) (second.find? key) := by
  simp only [find?_eq_map_pairAt?, pairAt?_union]
  cases first.pairAt? key <;> cases second.pairAt? key <;> simp [joinEntries]

/-- What holds of the values of both maps and of joined values holds of the values of the union. -/
theorem forall_mem_union {P : ν → Prop} {join : ν → ν → ν} {first second : OrderedMap κ ν}
    (hfirst : ∀ e ∈ first.entries, P e.2) (hsecond : ∀ e ∈ second.entries, P e.2)
    (hjoin : ∀ u v, P u → P v → P (join u v)) :
    ∀ e ∈ (union join first second).entries, P e.2 := by
  intro e he
  rw [mem_entries_iff, pairAt?_union, Option.merge_eq_some_iff] at he
  rcases he with ⟨hf, -⟩ | ⟨-, hs⟩ | ⟨a, b, hf, hs, rfl⟩
  · exact hfirst e (mem_of_pairAt?_eq_some hf)
  · exact hsecond e (mem_of_pairAt?_eq_some hs)
  · exact hjoin _ _ (hfirst a (mem_of_pairAt?_eq_some hf)) (hsecond b (mem_of_pairAt?_eq_some hs))

theorem entries_union_ne_nil {join : ν → ν → ν} {first : OrderedMap κ ν}
    (h : first.entries ≠ []) (second : OrderedMap κ ν) :
    (union join first second).entries ≠ [] := by
  intro hnil
  obtain ⟨e, he⟩ := List.exists_mem_of_ne_nil _ h
  have hentry := pairAt?_union join first second e.1
  rw [mem_entries_iff.1 he, pairAt?, hnil] at hentry
  cases hs : second.pairAt? e.1 <;> simp [hs] at hentry

/-- Adding entries one after another, as counted over the values. -/
theorem tally_foldl_upsert {join : ν → ν → ν} {count : ν → Nat}
    (hjoin : ∀ u v, count (join u v) = count u + count v) (entries : List (κ × ν))
    (m : OrderedMap κ ν) :
    tally count (entries.foldl
        (fun m e => m.upsert e.1 fun old => old.elim e.2 fun v => join v e.2) m).values =
      tally count m.values + tally count (entries.map Prod.snd) := by
  induction entries generalizing m with
  | nil => rfl
  | cons e rest ih =>
      have hstep := m.tally_upsert e.1 (fun old => old.elim e.2 fun v => join v e.2) count
      rw [List.foldl_cons, ih, List.map_cons, tally_cons]
      cases hfind : m.find? e.1 with
      | none =>
          simp only [hfind, Option.map_none, Option.getD_none, Option.elim_none] at hstep
          omega
      | some v =>
          simp only [hfind, Option.map_some, Option.getD_some, Option.elim_some, hjoin] at hstep
          omega

/-- Where joined values count as both, a union counts as both maps. -/
theorem tally_union {join : ν → ν → ν} {count : ν → Nat}
    (hjoin : ∀ u v, count (join u v) = count u + count v) (first second : OrderedMap κ ν) :
    tally count (union join first second).values =
      tally count first.values + tally count second.values :=
  tally_foldl_upsert hjoin second.entries first

/-- The union with a map that has no entry in front. -/
theorem empty_union (join : ν → ν → ν) (m : OrderedMap κ ν) : union join empty m = m := by
  apply ext_pairAt?
  intro key
  simp [pairAt?_union]

/-- The union with a map that has no entry behind. -/
theorem union_empty (join : ν → ν → ν) (m : OrderedMap κ ν) : union join m empty = m := by
  apply ext_pairAt?
  intro key
  simp [pairAt?_union]

/-- Where values can be regrouped, so can the entries that hold them. -/
instance (join : ν → ν → ν) [Std.Associative join] :
    Std.Associative (joinEntries join : κ × ν → κ × ν → κ × ν) where
  assoc first second third := by
    simp only [joinEntries, Std.Associative.assoc]

/-- Where values can be regrouped, so can unions, the spelling of every key included. -/
instance (join : ν → ν → ν) [Std.Associative join] :
    Std.Associative (union join : OrderedMap κ ν → OrderedMap κ ν → OrderedMap κ ν) where
  assoc first second third := by
    apply ext_pairAt?
    intro key
    simp only [pairAt?_union]
    exact Std.Associative.assoc _ _ _

end OrderedMap

end SmellRefactor

import Mathlib.Data.List.Sort
import SmellRefactor.OrderedMap.Basic
import SmellRefactor.Tally

/-!
# Looking up keys in ordered maps

`OrderedMap.find?` forgets how the key of an entry is spelled.  This module looks up whole entries
instead, with the spelling that the map keeps, and shows that these lookups determine an ordered
map: two maps in which every key finds the same entry are equal.  The laws of `upsert`,
`filterMap` and `ofList` are stated through such lookups.
-/

namespace SmellRefactor

/-- Lists in strict order with the same members are equal. -/
theorem eq_of_pairwise_of_mem_iff {α : Type u} {R : α → α → Prop}
    (hasymm : ∀ a b, R a b → ¬ R b a) {xs ys : List α} (hx : xs.Pairwise R)
    (hy : ys.Pairwise R) (hmem : ∀ a, a ∈ xs ↔ a ∈ ys) : xs = ys := by
  have hnodup : ∀ {zs : List α}, zs.Pairwise R → zs.Nodup := by
    intro zs hz
    refine hz.imp ?_
    rintro a b hab rfl
    exact hasymm a a hab hab
  have hperm : xs.Perm ys := (List.perm_ext_iff_of_nodup (hnodup hx) (hnodup hy)).2 hmem
  exact hperm.eq_of_pairwise (fun a b _ _ hab hba => absurd hba (hasymm a b hab)) hx hy

theorem not_lt_of_compare_eq_lt {κ : Type u} [Ord κ] [Std.OrientedOrd κ] {a b : κ}
    (h : compare a b = .lt) : compare b a ≠ .lt := by
  rw [Std.OrientedCmp.gt_of_lt h]
  simp

namespace Entries

variable {κ : Type u} {ν : Type v} {μ : Type w} [Ord κ]

/-- The first entry whose key is the same key as `key`. -/
def pairAt? (key : κ) (entries : List (κ × ν)) : Option (κ × ν) :=
  entries.find? fun e => compare key e.1 == .eq

@[simp]
theorem pairAt?_nil (key : κ) : pairAt? key ([] : List (κ × ν)) = none := rfl

theorem pairAt?_cons_of_eq {key : κ} {e : κ × ν} (h : compare key e.1 = .eq)
    (entries : List (κ × ν)) : pairAt? key (e :: entries) = some e := by
  simp [pairAt?, h]

theorem pairAt?_cons_of_ne {key : κ} {e : κ × ν} (h : compare key e.1 ≠ .eq)
    (entries : List (κ × ν)) : pairAt? key (e :: entries) = pairAt? key entries := by
  simp [pairAt?, h]

theorem find?_eq_map_pairAt? (key : κ) (entries : List (κ × ν)) :
    find? key entries = (pairAt? key entries).map Prod.snd := by
  induction entries with
  | nil => rfl
  | cons e rest ih =>
      by_cases h : compare key e.1 = .eq
      · simp [find?, h, pairAt?_cons_of_eq h]
      · simp [find?, h, pairAt?_cons_of_ne h, ih]

theorem mem_of_pairAt?_eq_some {key : κ} {e : κ × ν} {entries : List (κ × ν)}
    (h : pairAt? key entries = some e) : e ∈ entries :=
  List.mem_of_find?_eq_some h

theorem compare_of_pairAt?_eq_some {key : κ} {e : κ × ν} {entries : List (κ × ν)}
    (h : pairAt? key entries = some e) : compare key e.1 = .eq := by
  simpa using List.find?_some h

theorem pairAt?_eq_none_iff {key : κ} {entries : List (κ × ν)} :
    pairAt? key entries = none ↔ ∀ e ∈ entries, compare key e.1 ≠ .eq := by
  simp [pairAt?]

/-- In a list of pairs of different keys, a key finds the one member that it is the key of. -/
theorem pairAt?_eq_some_iff [Std.TransOrd κ] {pairs : List (κ × ν)}
    (hdistinct : pairs.Pairwise fun a b => compare a.1 b.1 ≠ .eq) {key : κ} {e : κ × ν} :
    pairAt? key pairs = some e ↔ e ∈ pairs ∧ compare key e.1 = .eq := by
  refine ⟨fun h => ⟨mem_of_pairAt?_eq_some h, compare_of_pairAt?_eq_some h⟩, ?_⟩
  rintro ⟨he, hkey⟩
  induction pairs with
  | nil => simp at he
  | cons first rest ih =>
      obtain ⟨hfirst, hrest⟩ := List.pairwise_cons.1 hdistinct
      rcases List.mem_cons.1 he with rfl | he
      · exact pairAt?_cons_of_eq hkey rest
      · have hne : compare key first.1 ≠ .eq := by
          intro heq
          rw [Std.TransCmp.congr_left heq] at hkey
          exact hfirst e he hkey
        rw [pairAt?_cons_of_ne hne]
        exact ih hrest he

/-- Lookups in a list of pairs of different keys do not depend on its order. -/
theorem pairAt?_eq_of_perm [Std.TransOrd κ] {pairs others : List (κ × ν)}
    (hdistinct : pairs.Pairwise fun a b => compare a.1 b.1 ≠ .eq)
    (hdistinct' : others.Pairwise fun a b => compare a.1 b.1 ≠ .eq) (h : pairs.Perm others)
    (key : κ) : pairAt? key pairs = pairAt? key others := by
  ext e
  rw [pairAt?_eq_some_iff hdistinct, pairAt?_eq_some_iff hdistinct', h.mem_iff]

/-- Lists made of pairs of different keys, where only the pairs under one key count. -/
theorem flatMap_eq_of_pairAt? {β : Type w} [Std.TransOrd κ] {pairs : List (κ × ν)}
    (hdistinct : pairs.Pairwise fun a b => compare a.1 b.1 ≠ .eq) {key : κ}
    {make : κ × ν → List β} (hmake : ∀ e ∈ pairs, compare key e.1 ≠ .eq → make e = []) :
    pairs.flatMap make = ((pairAt? key pairs).map make).getD [] := by
  induction pairs with
  | nil => rfl
  | cons e rest ih =>
      have hrest := ih (List.pairwise_cons.1 hdistinct).2 fun f hf => hmake f (by simp [hf])
      rw [List.flatMap_cons, hrest]
      by_cases h : compare key e.1 = .eq
      · have hnone : pairAt? key rest = none := by
          rw [pairAt?_eq_none_iff]
          intro f hf heq
          rw [Std.TransCmp.congr_left h] at heq
          exact (List.pairwise_cons.1 hdistinct).1 f hf heq
        rw [pairAt?_cons_of_eq h, hnone]
        simp
      · rw [pairAt?_cons_of_ne h, hmake e (by simp) h, List.nil_append]

section Order

variable [Std.TransOrd κ]

/-- A lookup depends on the key only up to its spelling. -/
theorem pairAt?_congr {key other : κ} (h : compare key other = .eq) (entries : List (κ × ν)) :
    pairAt? key entries = pairAt? other entries := by
  simp only [pairAt?, Std.TransCmp.congr_left h]

/-- A key that is the same key as the first one of an ascending list occurs nowhere behind it. -/
theorem pairAt?_tail_eq_none {key : κ} {e : κ × ν} {rest : List (κ × ν)}
    (hasc : Ascending (e :: rest)) (h : compare key e.1 = .eq) : pairAt? key rest = none := by
  rw [pairAt?_eq_none_iff]
  intro f hf heq
  have hlt : compare e.1 f.1 = .lt := (List.pairwise_cons.1 hasc).1 f hf
  rw [Std.TransCmp.congr_left h, hlt] at heq
  contradiction

/-- A key before the first one of an ascending list does not occur in it. -/
theorem pairAt?_eq_none_of_lt {key : κ} {e : κ × ν} {rest : List (κ × ν)}
    (hasc : Ascending (e :: rest)) (h : compare key e.1 = .lt) :
    pairAt? key (e :: rest) = none := by
  rw [pairAt?_eq_none_iff]
  intro f hf heq
  have hlt : compare key f.1 = .lt := by
    rcases List.mem_cons.1 hf with rfl | hf
    · exact h
    · exact Std.TransCmp.lt_trans h ((List.pairwise_cons.1 hasc).1 f hf)
  rw [hlt] at heq
  contradiction

/-- The members of an ascending list are the entries that its keys find. -/
theorem mem_iff_pairAt?_eq_some {e : κ × ν} {entries : List (κ × ν)} (hasc : Ascending entries) :
    e ∈ entries ↔ pairAt? e.1 entries = some e := by
  have hdistinct : entries.Pairwise fun a b => compare a.1 b.1 ≠ .eq :=
    hasc.imp fun hlt => by simp [hlt]
  rw [pairAt?_eq_some_iff hdistinct, and_iff_left Std.ReflCmp.compare_self]

/-- The entry that a key finds after an `upsert`. -/
theorem pairAt?_upsert {entries : List (κ × ν)} (hasc : Ascending entries) (key other : κ)
    (change : Option ν → ν) :
    pairAt? other (upsert key change entries) =
      if compare other key = .eq then
        some (((pairAt? key entries).map Prod.fst).getD key, change (find? key entries))
      else pairAt? other entries := by
  induction entries with
  | nil =>
      by_cases h : compare other key = .eq
      · simp [upsert, find?, h, pairAt?_cons_of_eq]
      · simp [upsert, h, pairAt?_cons_of_ne]
  | cons e rest ih =>
      obtain ⟨k, v⟩ := e
      have hrest : Ascending rest := (List.pairwise_cons.1 hasc).2
      cases hcmp : compare key k with
      | lt =>
          have hnone := pairAt?_eq_none_of_lt hasc hcmp
          simp only [upsert, hcmp, find?_eq_map_pairAt?, hnone]
          by_cases h : compare other key = .eq
          · simp [h, pairAt?_cons_of_eq]
          · simp [h, pairAt?_cons_of_ne]
      | eq =>
          have hsome := pairAt?_cons_of_eq (e := (k, v)) hcmp rest
          simp only [upsert, hcmp, find?_eq_map_pairAt?, hsome]
          have hk : compare other key = compare other k := Std.TransCmp.congr_right hcmp
          by_cases h : compare other k = .eq
          · simp [hk, h, pairAt?_cons_of_eq]
          · simp [hk, h, pairAt?_cons_of_ne]
      | gt =>
          have hne : compare key k ≠ .eq := by simp [hcmp]
          simp only [upsert, hcmp, find?_eq_map_pairAt?, pairAt?_cons_of_ne (e := (k, v)) hne]
          by_cases h : compare other k = .eq
          · have hother : compare other key ≠ .eq := by
              intro heq
              rw [← Std.TransCmp.congr_left heq] at hne
              exact hne h
            simp [hother, pairAt?_cons_of_eq (e := (k, v)) h]
          · rw [pairAt?_cons_of_ne (e := (k, v)) h, pairAt?_cons_of_ne (e := (k, v)) h, ih hrest,
              find?_eq_map_pairAt?]

/-- An `upsert` moves a tally by what it does to the one value. -/
theorem tally_upsert {entries : List (κ × ν)} (hasc : Ascending entries) (key : κ)
    (change : Option ν → ν) (count : ν → Nat) :
    tally count ((upsert key change entries).map Prod.snd) +
        ((find? key entries).map count).getD 0 =
      tally count (entries.map Prod.snd) + count (change (find? key entries)) := by
  induction entries with
  | nil => simp [upsert, find?]
  | cons e rest ih =>
      obtain ⟨k, v⟩ := e
      have hrest : Ascending rest := (List.pairwise_cons.1 hasc).2
      cases hcmp : compare key k with
      | lt =>
          have hnone := pairAt?_eq_none_of_lt hasc hcmp
          simp only [upsert, hcmp, find?_eq_map_pairAt?, hnone]
          simp
          omega
      | eq =>
          simp [upsert, hcmp, find?]
          omega
      | gt =>
          have h := ih hrest
          simp only [upsert, hcmp, find?, List.map_cons, tally_cons, reduceCtorEq, if_false]
          omega

/-- The entry that a key finds after a `filterMap`. -/
theorem pairAt?_filterMap {entries : List (κ × ν)} (hasc : Ascending entries)
    (change : κ → ν → Option μ) (key : κ) :
    pairAt? key (entries.filterMap fun e => (change e.1 e.2).map fun v => (e.1, v)) =
      (pairAt? key entries).bind fun e => (change e.1 e.2).map fun v => (e.1, v) := by
  induction entries with
  | nil => rfl
  | cons e rest ih =>
      have hrest : Ascending rest := (List.pairwise_cons.1 hasc).2
      by_cases h : compare key e.1 = .eq
      · have hnone := pairAt?_tail_eq_none hasc h
        rw [pairAt?_cons_of_eq h]
        cases hchange : change e.1 e.2 with
        | none =>
            have hskip := ih hrest
            rw [hnone] at hskip
            simpa [hchange] using hskip
        | some v => simp [hchange, pairAt?_cons_of_eq (e := (e.1, v)) h]
      · rw [pairAt?_cons_of_ne h, ← ih hrest]
        cases hchange : change e.1 e.2 with
        | none => simp [hchange]
        | some v => simp [hchange, pairAt?_cons_of_ne (e := (e.1, v)) h]

end Order

end Entries

namespace OrderedMap

variable {κ : Type u} {ν : Type v} {μ : Type w} [Ord κ]

/-- The entry under a key, with the key as the map spells it. -/
def pairAt? (m : OrderedMap κ ν) (key : κ) : Option (κ × ν) := Entries.pairAt? key m.entries

@[simp]
theorem pairAt?_empty (key : κ) : (empty : OrderedMap κ ν).pairAt? key = none := rfl

theorem find?_eq_map_pairAt? (m : OrderedMap κ ν) (key : κ) :
    m.find? key = (m.pairAt? key).map Prod.snd :=
  Entries.find?_eq_map_pairAt? key m.entries

theorem compare_of_pairAt?_eq_some {m : OrderedMap κ ν} {key : κ} {e : κ × ν}
    (h : m.pairAt? key = some e) : compare key e.1 = .eq :=
  Entries.compare_of_pairAt?_eq_some h

theorem mem_of_pairAt?_eq_some {m : OrderedMap κ ν} {key : κ} {e : κ × ν}
    (h : m.pairAt? key = some e) : e ∈ m.entries :=
  Entries.mem_of_pairAt?_eq_some h

theorem exists_mem_of_find? {m : OrderedMap κ ν} {key : κ} {v : ν} (h : m.find? key = some v) :
    ∃ e ∈ m.entries, compare key e.1 = .eq ∧ e.2 = v := by
  rw [find?_eq_map_pairAt?, Option.map_eq_some_iff] at h
  obtain ⟨e, he, rfl⟩ := h
  exact ⟨e, mem_of_pairAt?_eq_some he, compare_of_pairAt?_eq_some he, rfl⟩

/-- Where every key has one spelling, a lookup of the value gives the whole entry. -/
theorem pairAt?_eq_map_find? [Std.LawfulEqOrd κ] (m : OrderedMap κ ν) (key : κ) :
    m.pairAt? key = (m.find? key).map fun v => (key, v) := by
  rw [find?_eq_map_pairAt?]
  cases h : m.pairAt? key with
  | none => rfl
  | some e =>
      have hkey : key = e.1 := Std.LawfulEqOrd.eq_of_compare (compare_of_pairAt?_eq_some h)
      rw [hkey]
      rfl

/-- The entries after a `filterMap` are those with a value that was kept. -/
theorem mem_filterMap {m : OrderedMap κ ν} {change : κ → ν → Option μ} {e : κ × μ} :
    e ∈ (m.filterMap change).entries ↔
      ∃ v, (e.1, v) ∈ m.entries ∧ change e.1 v = some e.2 := by
  rw [filterMap, List.mem_filterMap]
  constructor
  · rintro ⟨f, hf, he⟩
    obtain ⟨v, hv, rfl⟩ := Option.map_eq_some_iff.1 he
    exact ⟨f.2, hf, hv⟩
  · rintro ⟨v, hmem, hv⟩
    exact ⟨(e.1, v), hmem, by rw [hv, Option.map_some]⟩

/-- A `filterMap` that drops only what does not count keeps a tally. -/
theorem tally_filterMap {m : OrderedMap κ ν} {change : κ → ν → Option μ} {count : ν → Nat}
    {count' : μ → Nat}
    (h : ∀ e ∈ m.entries, ((change e.1 e.2).map count').getD 0 = count e.2) :
    tally count' (m.filterMap change).values = tally count m.values := by
  calc tally count' (m.filterMap change).values
      = tally (fun e => count' e.2) (m.filterMap change).entries := tally_map count' _ _
    _ = tally (fun e => count e.2) m.entries := by
        apply SmellRefactor.tally_filterMap
        intro e he
        rw [← h e he, Option.map_map]
        rfl
    _ = tally count m.values := (tally_map count _ _).symm

section Order

variable [Std.TransOrd κ]

theorem pairAt?_congr (m : OrderedMap κ ν) {key other : κ} (h : compare key other = .eq) :
    m.pairAt? key = m.pairAt? other :=
  Entries.pairAt?_congr h m.entries

theorem mem_entries_iff {m : OrderedMap κ ν} {e : κ × ν} :
    e ∈ m.entries ↔ m.pairAt? e.1 = some e :=
  Entries.mem_iff_pairAt?_eq_some m.ascending

theorem find?_of_mem {m : OrderedMap κ ν} {e : κ × ν} (h : e ∈ m.entries) :
    m.find? e.1 = some e.2 := by
  rw [find?_eq_map_pairAt?, mem_entries_iff.1 h, Option.map_some]

theorem pairAt?_upsert (m : OrderedMap κ ν) (key other : κ) (change : Option ν → ν) :
    (m.upsert key change).pairAt? other =
      if compare other key = .eq then
        some (((m.pairAt? key).map Prod.fst).getD key, change (m.find? key))
      else m.pairAt? other :=
  Entries.pairAt?_upsert m.ascending key other change

theorem find?_upsert (m : OrderedMap κ ν) (key other : κ) (change : Option ν → ν) :
    (m.upsert key change).find? other =
      if compare other key = .eq then some (change (m.find? key)) else m.find? other := by
  rw [find?_eq_map_pairAt?, pairAt?_upsert]
  split
  · rfl
  · exact (find?_eq_map_pairAt? m other).symm

theorem tally_upsert (m : OrderedMap κ ν) (key : κ) (change : Option ν → ν) (count : ν → Nat) :
    tally count (m.upsert key change).values + ((m.find? key).map count).getD 0 =
      tally count m.values + count (change (m.find? key)) :=
  Entries.tally_upsert m.ascending key change count

theorem pairAt?_filterMap (m : OrderedMap κ ν) (change : κ → ν → Option μ) (key : κ) :
    (m.filterMap change).pairAt? key =
      (m.pairAt? key).bind fun e => (change e.1 e.2).map fun v => (e.1, v) :=
  Entries.pairAt?_filterMap m.ascending change key

/-- An entry after an `upsert` was there before or holds the changed value. -/
theorem mem_upsert {m : OrderedMap κ ν} {key : κ} {change : Option ν → ν} {e : κ × ν}
    (h : e ∈ (m.upsert key change).entries) :
    e ∈ m.entries ∨ e.2 = change (m.find? key) := by
  rw [mem_entries_iff, pairAt?_upsert] at h
  split at h
  · right
    rw [← Option.some.inj h]
  · exact Or.inl (mem_entries_iff.2 h)

/-- An `upsert` leaves at least one entry. -/
theorem entries_upsert_ne_nil (m : OrderedMap κ ν) (key : κ) (change : Option ν → ν) :
    (m.upsert key change).entries ≠ [] := by
  intro hnil
  have h := m.pairAt?_upsert key key change
  rw [if_pos Std.ReflCmp.compare_self, pairAt?, hnil] at h
  simp at h

/-- Maps in which every key finds the same entry are equal. -/
theorem ext_pairAt? {m n : OrderedMap κ ν} (h : ∀ key, m.pairAt? key = n.pairAt? key) : m = n := by
  apply ext
  apply eq_of_pairwise_of_mem_iff (fun _ _ => not_lt_of_compare_eq_lt) m.ascending n.ascending
  intro e
  rw [mem_entries_iff, mem_entries_iff, h]

/-- An `upsert` depends on what it makes of the value that is there. -/
theorem upsert_congr (m : OrderedMap κ ν) {key : κ} {change change' : Option ν → ν}
    (h : change (m.find? key) = change' (m.find? key)) :
    m.upsert key change = m.upsert key change' := by
  apply ext_pairAt?
  intro other
  rw [pairAt?_upsert, pairAt?_upsert, h]

/-- An `upsert` that gives back the value that is there changes nothing. -/
theorem upsert_eq_self {m : OrderedMap κ ν} {key : κ} {change : Option ν → ν} {v : ν}
    (hfind : m.find? key = some v) (h : change (some v) = v) : m.upsert key change = m := by
  rw [find?_eq_map_pairAt?, Option.map_eq_some_iff] at hfind
  obtain ⟨e, he, rfl⟩ := hfind
  apply ext_pairAt?
  intro other
  rw [pairAt?_upsert]
  by_cases hother : compare other key = .eq
  · rw [if_pos hother, m.pairAt?_congr hother, find?_eq_map_pairAt?, he]
    exact congrArg some (Prod.ext rfl h)
  · rw [if_neg hother]

/-- The second of two `upsert`s of one key goes on from the value of the first. -/
theorem upsert_upsert (m : OrderedMap κ ν) (key : κ) (first second : Option ν → ν) :
    (m.upsert key first).upsert key second =
      m.upsert key fun old => second (some (first old)) := by
  apply ext_pairAt?
  intro other
  simp only [pairAt?_upsert, find?_upsert, Std.ReflCmp.compare_self, if_true]
  split
  · rfl
  · rfl

/-- Maps that spell the same keys have the same list of keys, whatever their values. -/
theorem keys_eq_of_pairAt? {m : OrderedMap κ ν} {n : OrderedMap κ μ}
    (h : ∀ key, (m.pairAt? key).map Prod.fst = (n.pairAt? key).map Prod.fst) :
    m.keys = n.keys := by
  have hunits : (m.filterMap fun _ _ => some ()) = n.filterMap fun _ _ => some () := by
    apply ext_pairAt?
    intro key
    have hkey := h key
    rw [pairAt?_filterMap, pairAt?_filterMap]
    cases hm : m.pairAt? key <;> cases hn : n.pairAt? key <;> simp_all
  have hkeys := congrArg keys hunits
  simpa [keys, filterMap, List.map_filterMap, Function.comp_def] using hkeys

section Lawful

variable [Std.LawfulEqOrd κ]

/-- Where every key has one spelling, the keys are those that find a value. -/
theorem mem_keys_iff {m : OrderedMap κ ν} {key : κ} :
    key ∈ m.keys ↔ (m.find? key).isSome := by
  rw [keys, List.mem_map]
  constructor
  · rintro ⟨e, he, rfl⟩
    rw [find?_of_mem he]
    rfl
  · intro hsome
    obtain ⟨v, hv⟩ := Option.isSome_iff_exists.1 hsome
    have hentry : m.pairAt? key = some (key, v) := by rw [pairAt?_eq_map_find?, hv]; rfl
    exact ⟨(key, v), mem_of_pairAt?_eq_some hentry, rfl⟩

/-- Where every key has one spelling, maps with the same values under all keys are equal. -/
theorem ext_find? {m n : OrderedMap κ ν} (h : ∀ key, m.find? key = n.find? key) : m = n := by
  apply ext_pairAt?
  intro key
  rw [pairAt?_eq_map_find?, pairAt?_eq_map_find?, h]

/-- Where every key has one spelling, maps that hold the same keys list the same keys. -/
theorem keys_eq_of_isSome {m : OrderedMap κ ν} {n : OrderedMap κ μ}
    (h : ∀ key, (m.find? key).isSome = (n.find? key).isSome) : m.keys = n.keys := by
  apply keys_eq_of_pairAt?
  intro key
  have hkey := h key
  rw [pairAt?_eq_map_find?, pairAt?_eq_map_find?]
  cases hm : m.find? key <;> cases hn : n.find? key <;> simp_all

end Lawful

/-- Inserting pairs of different keys that are new to a map adds exactly these pairs. -/
theorem pairAt?_foldl_insert {pairs : List (κ × ν)} {m : OrderedMap κ ν}
    (hdistinct : pairs.Pairwise fun a b => compare a.1 b.1 ≠ .eq)
    (hnew : ∀ e ∈ pairs, m.pairAt? e.1 = none) (key : κ) :
    (pairs.foldl (fun m e => m.insert e.1 e.2) m).pairAt? key =
      (Entries.pairAt? key pairs).or (m.pairAt? key) := by
  induction pairs generalizing m with
  | nil => rfl
  | cons e rest ih =>
      have hhead := (List.pairwise_cons.1 hdistinct).1
      have hinsert : ∀ other, (m.insert e.1 e.2).pairAt? other =
          if compare other e.1 = .eq then some e else m.pairAt? other := by
        intro other
        simp [insert, pairAt?_upsert, hnew e (by simp)]
      have hrest : ∀ f ∈ rest, (m.insert e.1 e.2).pairAt? f.1 = none := by
        intro f hf
        rw [hinsert, if_neg]
        · exact hnew f (by simp [hf])
        · intro heq
          exact hhead f hf (Std.OrientedCmp.eq_symm heq)
      rw [List.foldl_cons, ih (List.pairwise_cons.1 hdistinct).2 hrest, hinsert]
      by_cases h : compare key e.1 = .eq
      · have hnone : Entries.pairAt? key rest = none := by
          rw [Entries.pairAt?_eq_none_iff]
          intro f hf heq
          rw [Std.TransCmp.congr_left h] at heq
          exact hhead f hf heq
        simp [h, hnone, Entries.pairAt?_cons_of_eq h]
      · simp [h, Entries.pairAt?_cons_of_ne h]

/-- A map made of pairs of different keys holds exactly these pairs. -/
theorem pairAt?_ofList {pairs : List (κ × ν)}
    (hdistinct : pairs.Pairwise fun a b => compare a.1 b.1 ≠ .eq) (key : κ) :
    (ofList pairs).pairAt? key = Entries.pairAt? key pairs := by
  rw [ofList, pairAt?_foldl_insert hdistinct (by simp)]
  simp

/-- A map made of pairs of different keys does not depend on their order. -/
theorem ofList_perm {pairs others : List (κ × ν)}
    (hdistinct : pairs.Pairwise fun a b => compare a.1 b.1 ≠ .eq)
    (hdistinct' : others.Pairwise fun a b => compare a.1 b.1 ≠ .eq) (h : pairs.Perm others) :
    ofList pairs = ofList others := by
  apply ext_pairAt?
  intro key
  rw [pairAt?_ofList hdistinct, pairAt?_ofList hdistinct',
    Entries.pairAt?_eq_of_perm hdistinct hdistinct' h]

/-- A map made of the entries of a map is that map. -/
theorem ofList_entries (m : OrderedMap κ ν) : ofList m.entries = m := by
  apply ext_pairAt?
  intro key
  exact pairAt?_ofList (m.ascending.imp fun hlt => by simp [hlt]) key

/-- A map made of the entries of a map in any order is that map. -/
theorem ofList_of_perm {m : OrderedMap κ ν} {pairs : List (κ × ν)} (h : pairs.Perm m.entries) :
    ofList pairs = m := by
  have hdistinct : m.entries.Pairwise fun a b => compare a.1 b.1 ≠ .eq :=
    m.ascending.imp fun hlt => by simp [hlt]
  have hsymm : ∀ {a b : κ × ν}, compare a.1 b.1 ≠ .eq → compare b.1 a.1 ≠ .eq :=
    fun hab hba => hab (Std.OrientedCmp.eq_symm hba)
  rw [ofList_perm ((h.pairwise_iff hsymm).2 hdistinct) hdistinct h, ofList_entries]

end Order

end OrderedMap

end SmellRefactor

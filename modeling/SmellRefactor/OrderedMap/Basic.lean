/-!
# Ordered maps

A finite map kept as a list of entries in strictly ascending key order.  Two keys are the same key
when `compare` answers `.eq`; they may still be spelled differently, and then the map keeps the
spelling that it saw first.  Because the entries are sorted and free of repeated keys, two maps
with the same entries are the same map.
-/

namespace SmellRefactor

/-- Entries in strictly ascending key order. -/
def Ascending {κ : Type u} {ν : Type v} [Ord κ] (entries : List (κ × ν)) : Prop :=
  entries.Pairwise fun a b => compare a.1 b.1 = .lt

namespace Entries

variable {κ : Type u} {ν : Type v} {μ : Type w} [Ord κ]

/-- The value under the first entry whose key is the same key as `key`. -/
def find? (key : κ) : List (κ × ν) → Option ν
  | [] => none
  | (k, v) :: rest => if compare key k = .eq then some v else find? key rest

/-- Replaces the value under `key` by `change` of it, or adds a new entry at its sorted place.  An
entry that is already there keeps its key. -/
def upsert (key : κ) (change : Option ν → ν) : List (κ × ν) → List (κ × ν)
  | [] => [(key, change none)]
  | (k, v) :: rest =>
    match compare key k with
    | .lt => (key, change none) :: (k, v) :: rest
    | .eq => (k, change (some v)) :: rest
    | .gt => (k, v) :: upsert key change rest

/-- Every key after an `upsert` is the new key or was a key before. -/
theorem fst_mem_upsert {key : κ} {change : Option ν → ν} {entries : List (κ × ν)} {e : κ × ν}
    (h : e ∈ upsert key change entries) : e.1 = key ∨ ∃ e' ∈ entries, e'.1 = e.1 := by
  induction entries with
  | nil => simp_all [upsert]
  | cons head rest ih =>
    obtain ⟨k, v⟩ := head
    simp only [upsert] at h
    split at h
    · simp only [List.mem_cons] at h
      rcases h with rfl | rfl | h
      · exact .inl rfl
      · exact .inr ⟨_, by simp, rfl⟩
      · exact .inr ⟨e, by simp [h], rfl⟩
    · simp only [List.mem_cons] at h
      rcases h with rfl | h
      · exact .inr ⟨(k, v), by simp, rfl⟩
      · exact .inr ⟨e, by simp [h], rfl⟩
    · simp only [List.mem_cons] at h
      rcases h with rfl | h
      · exact .inr ⟨(k, v), by simp, rfl⟩
      · rcases ih h with h | ⟨e', he, h⟩
        · exact .inl h
        · exact .inr ⟨e', by simp [he], h⟩

/-- An `upsert` keeps the entries ascending. -/
theorem ascending_upsert [Std.TransOrd κ] {key : κ} {change : Option ν → ν}
    {entries : List (κ × ν)} (h : Ascending entries) : Ascending (upsert key change entries) := by
  induction entries with
  | nil => simp [upsert, Ascending]
  | cons head rest ih =>
    obtain ⟨k, v⟩ := head
    have hrest : Ascending rest := (List.pairwise_cons.1 h).2
    have hhead := (List.pairwise_cons.1 h).1
    simp only [upsert]
    split
    · rename_i hlt
      refine List.pairwise_cons.2 ⟨?_, h⟩
      intro e he
      rcases List.mem_cons.1 he with rfl | he
      · exact hlt
      · exact Std.TransCmp.lt_trans hlt (hhead e he)
    · exact List.pairwise_cons.2 ⟨hhead, hrest⟩
    · rename_i hgt
      refine List.pairwise_cons.2 ⟨?_, ih hrest⟩
      intro e he
      rcases fst_mem_upsert he with h' | ⟨e', he', h'⟩
      · rw [h']; exact Std.OrientedCmp.gt_iff_lt.1 hgt
      · rw [← h']; exact hhead e' he'

/-- Keeping some entries and changing values leaves the keys ascending. -/
theorem ascending_filterMap {change : κ → ν → Option μ} {entries : List (κ × ν)}
    (h : Ascending entries) :
    Ascending (entries.filterMap fun e => (change e.1 e.2).map fun v => (e.1, v)) := by
  refine List.Pairwise.filterMap _ ?_ h
  intro a b hab x hx y hy
  simp only [Option.map_eq_some_iff] at hx hy
  obtain ⟨_, _, rfl⟩ := hx
  obtain ⟨_, _, rfl⟩ := hy
  exact hab

end Entries

/-- A finite map with strictly ascending keys. -/
structure OrderedMap (κ : Type u) (ν : Type v) [Ord κ] where
  /-- The entries, smallest key first. -/
  entries : List (κ × ν)
  ascending : Ascending entries

namespace OrderedMap

variable {κ : Type u} {ν : Type v} {μ : Type w} [Ord κ]

instance [DecidableEq κ] [DecidableEq ν] : DecidableEq (OrderedMap κ ν) := fun m n =>
  decidable_of_iff (m.entries = n.entries) (by cases m; cases n; simp)

/-- The map with no entry. -/
def empty : OrderedMap κ ν := ⟨[], List.Pairwise.nil⟩

instance : Inhabited (OrderedMap κ ν) := ⟨empty⟩

/-- Whether the map has no entry. -/
def isEmpty (m : OrderedMap κ ν) : Bool := m.entries.isEmpty

/-- The number of entries. -/
def size (m : OrderedMap κ ν) : Nat := m.entries.length

/-- The keys, in ascending order. -/
def keys (m : OrderedMap κ ν) : List κ := m.entries.map Prod.fst

/-- The values, in ascending order of their keys. -/
def values (m : OrderedMap κ ν) : List ν := m.entries.map Prod.snd

/-- The value under a key. -/
def find? (m : OrderedMap κ ν) (key : κ) : Option ν := Entries.find? key m.entries

/-- Replaces the value under `key` by `change` of it; `change none` is the value of a new entry. -/
def upsert [Std.TransOrd κ] (m : OrderedMap κ ν) (key : κ) (change : Option ν → ν) :
    OrderedMap κ ν :=
  ⟨Entries.upsert key change m.entries, Entries.ascending_upsert m.ascending⟩

/-- Puts a value under a key.  A key that is already there keeps its spelling. -/
def insert [Std.TransOrd κ] (m : OrderedMap κ ν) (key : κ) (value : ν) : OrderedMap κ ν :=
  m.upsert key fun _ => value

/-- Inserts the pairs one after another, so that the last value under a key wins. -/
def ofList [Std.TransOrd κ] (pairs : List (κ × ν)) : OrderedMap κ ν :=
  pairs.foldl (fun m e => m.insert e.1 e.2) empty

/-- Keeps the entries for which `change` gives a value, with that value. -/
def filterMap (m : OrderedMap κ ν) (change : κ → ν → Option μ) : OrderedMap κ μ :=
  ⟨m.entries.filterMap fun e => (change e.1 e.2).map fun v => (e.1, v),
    Entries.ascending_filterMap m.ascending⟩

/-- Whether two maps have the same keys, up to spelling, with equivalent values. -/
def equivalent (same : ν → ν → Bool) (m n : OrderedMap κ ν) : Bool :=
  m.entries.length == n.entries.length &&
    (m.entries.zip n.entries).all fun (a, b) => compare a.1 b.1 == .eq && same a.2 b.2

@[simp]
theorem find?_empty (key : κ) : (empty : OrderedMap κ ν).find? key = none := rfl

@[simp]
theorem entries_empty : (empty : OrderedMap κ ν).entries = [] := rfl

@[ext]
theorem ext {m n : OrderedMap κ ν} (h : m.entries = n.entries) : m = n := by
  cases m; cases n; simp_all

end OrderedMap

end SmellRefactor

import Mathlib.Data.List.Forall2
import SmellRefactor.Proofs.Map.Lookup

/-!
# Ordered maps up to the spelling of keys

`OrderedMap.equivalent` walks through the entries of two maps side by side.  This module shows that
it decides whether every key finds related values in both maps, or no value in either.
-/

namespace SmellRefactor

namespace Entries

variable {κ : Type u} {ν : Type v} [Ord κ] [Std.TransOrd κ] {same : ν → ν → Prop}

/-- Whether two entries have the same key, up to spelling, and related values. -/
def Matches (same : ν → ν → Prop) (a b : κ × ν) : Prop :=
  compare a.1 b.1 = .eq ∧ same a.2 b.2

/-- Where entries match one by one, every key finds related values. -/
theorem rel_find? {entries others : List (κ × ν)}
    (h : List.Forall₂ (Matches same) entries others) (key : κ) :
    Option.Rel same (find? key entries) (find? key others) := by
  induction h with
  | nil => exact .none
  | @cons a b entries others hab _ ih =>
      have hkey : compare key a.1 = compare key b.1 := Std.TransCmp.congr_right hab.1
      by_cases h : compare key a.1 = .eq
      · simp only [find?, ← hkey, h, if_true]
        exact .some hab.2
      · simp only [find?, ← hkey, h, if_false]
        exact ih

/-- No key of an ascending list comes before its first one. -/
theorem find?_eq_none_of_lt {key : κ} {e : κ × ν} {rest : List (κ × ν)}
    (hasc : Ascending (e :: rest)) (h : compare key e.1 = .lt) : find? key (e :: rest) = none := by
  rw [find?_eq_map_pairAt?, pairAt?_eq_none_of_lt hasc h, Option.map_none]

/-- Ascending lists in which every key finds related values begin with the same key. -/
theorem compare_heads {a b : κ × ν} {entries others : List (κ × ν)}
    (hasc : Ascending (a :: entries)) (hasc' : Ascending (b :: others))
    (h : ∀ key, Option.Rel same (find? key (a :: entries)) (find? key (b :: others))) :
    compare a.1 b.1 = .eq := by
  cases hcmp : compare a.1 b.1 with
  | eq => rfl
  | lt =>
      have hfirst := h a.1
      rw [find?_eq_none_of_lt hasc' hcmp, find?, if_pos Std.ReflCmp.compare_self] at hfirst
      cases hfirst
  | gt =>
      have hfirst := h b.1
      rw [find?_eq_none_of_lt hasc (Std.OrientedCmp.gt_iff_lt.1 hcmp), find?,
        if_pos Std.ReflCmp.compare_self] at hfirst
      cases hfirst

/-- Ascending lists in which every key finds related values match one by one. -/
theorem forall₂_of_rel_find? {entries others : List (κ × ν)} (hasc : Ascending entries)
    (hasc' : Ascending others)
    (h : ∀ key, Option.Rel same (find? key entries) (find? key others)) :
    List.Forall₂ (Matches same) entries others := by
  induction entries generalizing others with
  | nil =>
      cases others with
      | nil => exact .nil
      | cons b others =>
          have hfirst := h b.1
          rw [find?, find?, if_pos Std.ReflCmp.compare_self] at hfirst
          cases hfirst
  | cons a entries ih =>
      cases others with
      | nil =>
          have hfirst := h a.1
          rw [find?, find?, if_pos Std.ReflCmp.compare_self] at hfirst
          cases hfirst
      | cons b others =>
          have hheads : compare a.1 b.1 = .eq := compare_heads hasc hasc' h
          have hvalues : same a.2 b.2 := by
            have hfirst := h a.1
            rw [find?, find?, if_pos Std.ReflCmp.compare_self, if_pos hheads] at hfirst
            exact Option.rel_some_some.1 hfirst
          refine .cons ⟨hheads, hvalues⟩ (ih (List.pairwise_cons.1 hasc).2
            (List.pairwise_cons.1 hasc').2 ?_)
          intro key
          -- a key of the first entries occurs nowhere behind them
          by_cases hkey : compare key a.1 = .eq
          · have hkey' : compare key b.1 = .eq := Std.TransCmp.eq_trans hkey hheads
            rw [find?_eq_map_pairAt?, find?_eq_map_pairAt?, pairAt?_tail_eq_none hasc hkey,
              pairAt?_tail_eq_none hasc' hkey']
            exact .none
          · have hkey' : compare key b.1 ≠ .eq := by
              rwa [← Std.TransCmp.congr_right hheads]
            have hrest := h key
            rwa [find?, find?, if_neg hkey, if_neg hkey'] at hrest

end Entries

namespace OrderedMap

variable {κ : Type u} {ν : Type v} [Ord κ] [Std.TransOrd κ]

/-- Maps are equivalent when every key finds related values in both of them, or nothing. -/
theorem equivalent_iff {same : ν → ν → Bool} {m n : OrderedMap κ ν} :
    m.equivalent same n = true ↔
      ∀ key, Option.Rel (fun u v => same u v = true) (m.find? key) (n.find? key) := by
  have hentries : m.equivalent same n = true ↔
      List.Forall₂ (Entries.Matches fun u v => same u v = true) m.entries n.entries := by
    rw [List.forall₂_iff_zip]
    simp [equivalent, Entries.Matches]
  rw [hentries]
  constructor
  · exact fun h key => Entries.rel_find? h key
  · exact fun h => Entries.forall₂_of_rel_find? m.ascending n.ascending h

end OrderedMap

end SmellRefactor

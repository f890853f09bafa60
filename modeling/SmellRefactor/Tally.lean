/-!
# Tallies

The sum of a number over the members of a list.
-/

namespace SmellRefactor

/-- The sum of `count` over the members of a list. -/
def tally {α : Type u} (count : α → Nat) : List α → Nat
  | [] => 0
  | a :: rest => count a + tally count rest

@[simp]
theorem tally_nil {α : Type u} (count : α → Nat) : tally count [] = 0 := rfl

@[simp]
theorem tally_cons {α : Type u} (count : α → Nat) (a : α) (rest : List α) :
    tally count (a :: rest) = count a + tally count rest := rfl

/-- The tally of two lists together is the sum of their tallies. -/
@[simp]
theorem tally_append {α : Type u} (count : α → Nat) (xs ys : List α) :
    tally count (xs ++ ys) = tally count xs + tally count ys := by
  induction xs with
  | nil => simp
  | cons a rest ih => simp [ih, Nat.add_assoc]

theorem tally_congr {α : Type u} {count count' : α → Nat} {xs : List α}
    (h : ∀ x ∈ xs, count x = count' x) : tally count xs = tally count' xs := by
  induction xs with
  | nil => rfl
  | cons x rest ih =>
    rw [tally_cons, tally_cons, h x (by simp), ih fun y hy => h y (by simp [hy])]

theorem tally_map {α : Type u} {β : Type v} (count : β → Nat) (f : α → β) (xs : List α) :
    tally count (xs.map f) = tally (fun x => count (f x)) xs := by
  induction xs with
  | nil => rfl
  | cons x rest ih => rw [List.map_cons, tally_cons, tally_cons, ih]

theorem tally_flatMap {α : Type u} {β : Type v} (count : β → Nat) (f : α → List β)
    (xs : List α) : tally count (xs.flatMap f) = tally (fun x => tally count (f x)) xs := by
  induction xs with
  | nil => rfl
  | cons x rest ih => rw [List.flatMap_cons, tally_append, ih, tally_cons]

theorem length_flatMap_eq_tally {α : Type u} {β : Type v} (f : α → List β) (xs : List α) :
    (xs.flatMap f).length = tally (fun x => (f x).length) xs := by
  induction xs with
  | nil => rfl
  | cons x rest ih => rw [List.flatMap_cons, List.length_append, tally_cons, ih]

theorem countP_flatMap_eq_tally {α : Type u} {β : Type v} (p : β → Bool) (f : α → List β)
    (xs : List α) : (xs.flatMap f).countP p = tally (fun x => (f x).countP p) xs := by
  induction xs with
  | nil => rfl
  | cons x rest ih => rw [List.flatMap_cons, List.countP_append, ih, tally_cons]

/-- A tally of what is made of the members, where a member counts for nothing if nothing is made of
it. -/
theorem tally_filterMap {α : Type u} {β : Type v} {change : α → Option β} {count : α → Nat}
    {count' : β → Nat} {xs : List α} (h : ∀ x ∈ xs, ((change x).map count').getD 0 = count x) :
    tally count' (xs.filterMap change) = tally count xs := by
  induction xs with
  | nil => rfl
  | cons x rest ih =>
    have hrest := ih fun y hy => h y (by simp [hy])
    rw [tally_cons, ← h x (by simp), ← hrest]
    cases hchange : change x with
    | none => simp [hchange]
    | some y => simp [hchange]

end SmellRefactor

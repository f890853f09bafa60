import SmellRefactor.Proofs.Map.Lookup
import SmellRefactor.FileTree.Basic

/-!
# Appending to files

Bytes can be appended to a file in parts.  As long as none of them is refused this is the same as
appending all of them at once, and the first part that is refused leaves the file with nothing more
to take; so what the file holds in the end does not depend on the parts.
-/

namespace SmellRefactor.FileTree

variable {t : FileTree} {location : Location} {x y : ByteArray}

/-- Whether a file takes all of some bytes. -/
def Takes (t : FileTree) (location : Location) (bytes : ByteArray) : Prop :=
  (t.append location bytes).1 = .ok ()

instance : Decidable (t.Takes location x) := inferInstanceAs (Decidable (_ = _))

/-- How many bytes can be appended to a file, if there is a limit. -/
def capacity? (t : FileTree) (location : Location) : Option Nat :=
  match t.node? location with
  | some (.file _ _) => t.room
  | some (.device .full) => some 0
  | _ => none

theorem takes_iff : t.Takes location x ↔ ∀ n, t.capacity? location = some n → x.size ≤ n := by
  rw [Takes, append, capacity?]
  cases t.node? location with
  | none => simp
  | some node =>
      cases node with
      | file content mode => cases t.room <;> simp
      | device device => cases device <;> simp [ByteArray.isEmpty]
      | _ => simp

theorem place_with_room (t : FileTree) (room : Option Nat) (location : Location)
    (node : FileNode) :
    ({ t with room := room } : FileTree).place location node =
      { t.place location node with room := room } := rfl

theorem place_place (t : FileTree) (location : Location) (first second : FileNode) :
    (t.place location first).place location second = t.place location second := by
  rw [place, place, place, OrderedMap.insert, OrderedMap.insert, OrderedMap.insert,
    OrderedMap.upsert_upsert]

theorem node?_place_self {location : Location} (h : location ≠ []) (t : FileTree)
    (node : FileNode) : (t.place location node).node? location = some node := by
  obtain ⟨name, rest, rfl⟩ := List.exists_cons_of_ne_nil h
  change (t.nodes.insert _ node).find? _ = _
  rw [OrderedMap.insert, OrderedMap.find?_upsert, if_pos Std.ReflCmp.compare_self]

theorem ne_nil_of_node? {node : FileNode} (h : t.node? location = some node)
    (hnode : node ≠ .directory) : location ≠ [] := by
  rintro rfl
  exact hnode (Option.some.inj h).symm

theorem place_self {node : FileNode} (h : t.node? location = some node)
    (hnode : node ≠ .directory) : t.place location node = t := by
  obtain ⟨name, rest, rfl⟩ := List.exists_cons_of_ne_nil (ne_nil_of_node? h hnode)
  rw [place, OrderedMap.insert, OrderedMap.upsert_eq_self (v := node) h rfl]

/-! ## What an append does -/

theorem append_of_unlimited {content : ByteArray} {mode : Mode}
    (h : t.node? location = some (.file content mode)) (hroom : t.room = none) :
    t.append location x = (.ok (), t.place location (.file (content ++ x) mode)) := by
  rw [append, h]
  simp only [hroom]

theorem append_of_limited {content : ByteArray} {mode : Mode} {room : Nat}
    (h : t.node? location = some (.file content mode)) (hroom : t.room = some room) :
    t.append location x =
      (if x.size ≤ room then .ok () else .error .noSpace,
        { t.place location (.file (content ++ x.extract 0 room) mode) with
          room := some (room - x.size) }) := by
  rw [append, h]
  simp only [hroom]

theorem append_of_full (h : t.node? location = some (.device .full)) :
    t.append location x = (if x.isEmpty then .ok () else .error .noSpace, t) := by
  rw [append, h]

theorem append_of_outlet {written : ByteArray} (h : t.node? location = some (.outlet written)) :
    t.append location x = (.ok (), t.place location (.outlet (written ++ x))) := by
  rw [append, h]

/-- What bytes can be appended to. -/
inductive Sink (t : FileTree) (location : Location) : Prop
  | unlimited {content : ByteArray} {mode : Mode}
      (h : t.node? location = some (.file content mode)) (hroom : t.room = none)
  | limited {content : ByteArray} {mode : Mode} {room : Nat}
      (h : t.node? location = some (.file content mode)) (hroom : t.room = some room)
  | full (h : t.node? location = some (.device .full))
  | outlet {written : ByteArray} (h : t.node? location = some (.outlet written))
  | swallowing (h : ∀ x, t.append location x = (.ok (), t))

theorem sink (t : FileTree) (location : Location) : Sink t location := by
  cases hnode : t.node? location with
  | none => exact .swallowing fun x => by rw [append, hnode]
  | some node =>
      cases node with
      | directory => exact .swallowing fun x => by rw [append, hnode]
      | file content mode =>
          cases hroom : t.room with
          | none => exact .unlimited hnode hroom
          | some room => exact .limited hnode hroom
      | device device =>
          cases device with
          | full => exact .full hnode
          | null => exact .swallowing fun x => by rw [append, hnode]
          | zero => exact .swallowing fun x => by rw [append, hnode]
          | terminal => exact .swallowing fun x => by rw [append, hnode]
      | outlet written => exact .outlet hnode
      | program name => exact .swallowing fun x => by rw [append, hnode]

theorem takes_iff_of_limited {content : ByteArray} {mode : Mode} {room : Nat}
    (h : t.node? location = some (.file content mode)) (hroom : t.room = some room) :
    t.Takes location x ↔ x.size ≤ room := by
  rw [Takes, append_of_limited h hroom]
  simp

theorem takes_iff_of_full (h : t.node? location = some (.device .full)) :
    t.Takes location x ↔ x.size = 0 := by
  rw [Takes, append_of_full h]
  simp [ByteArray.isEmpty]

/-- Bytes are refused only where the space ends before they do. -/
theorem limited_or_full_of_not_takes (h : ¬ t.Takes location x) :
    (∃ content mode room, t.node? location = some (.file content mode) ∧ t.room = some room ∧
      room < x.size) ∨ t.node? location = some (.device .full) ∧ x.size ≠ 0 := by
  cases t.sink location with
  | unlimited hnode hroom => exact absurd (by rw [Takes, append_of_unlimited hnode hroom]) h
  | limited hnode hroom =>
      rw [takes_iff_of_limited hnode hroom, Nat.not_le] at h
      exact .inl ⟨_, _, _, hnode, hroom, h⟩
  | full hnode =>
      rw [takes_iff_of_full hnode] at h
      exact .inr ⟨hnode, h⟩
  | outlet hnode => exact absurd (by rw [Takes, append_of_outlet hnode]) h
  | swallowing happend => exact absurd (by rw [Takes, happend]) h

/-! ## Appending in parts -/

/-- Nothing is always taken, and changes nothing. -/
theorem append_empty (t : FileTree) (location : Location) :
    t.append location .empty = (.ok (), t) := by
  cases t.sink location with
  | unlimited hnode hroom =>
      rw [append_of_unlimited hnode hroom, ByteArray.append_empty, place_self hnode (by simp)]
  | @limited content mode room hnode hroom =>
      have hextract : ByteArray.empty.extract 0 room = .empty := by simp
      rw [append_of_limited hnode hroom, hextract, ByteArray.append_empty,
        place_self hnode (by simp), ByteArray.size_empty, Nat.sub_zero, ← hroom]
      rfl
  | full hnode => exact append_of_full hnode
  | outlet hnode =>
      rw [append_of_outlet hnode, ByteArray.append_empty, place_self hnode (by simp)]
  | swallowing happend => exact happend _

/-- What a file holds after an append, and the space that is left then. -/
theorem node?_append_of_limited {content : ByteArray} {mode : Mode} {room : Nat}
    (h : t.node? location = some (.file content mode)) (hroom : t.room = some room) :
    (t.append location x).2.node? location =
        some (.file (content ++ x.extract 0 room) mode) ∧
      (t.append location x).2.room = some (room - x.size) := by
  rw [append_of_limited h hroom]
  exact ⟨node?_place_self (ne_nil_of_node? h (by simp)) t _, rfl⟩

/-- An empty file holds some bytes after an append exactly when it takes them. -/
theorem contentAt_append_eq_iff {mode : Mode} (h : t.node? location = some (.file .empty mode)) :
    (t.append location x).2.contentAt location = x ↔ t.Takes location x := by
  have hne := ne_nil_of_node? h (by simp)
  cases hroom : t.room with
  | none =>
      rw [Takes, append_of_unlimited h hroom, contentAt, node?_place_self hne]
      simp
  | some room =>
      rw [takes_iff_of_limited h hroom, contentAt, (node?_append_of_limited h hroom).1]
      simp only [ByteArray.empty_append]
      constructor
      · intro hall
        have hsize := congrArg ByteArray.size hall
        rw [ByteArray.size_extract] at hsize
        omega
      · intro hfits
        apply ByteArray.ext
        rw [ByteArray.data_extract]
        exact Array.extract_eq_self_of_le hfits

/-- Behind bytes that were taken, further bytes are appended as if all came at once. -/
theorem append_append_of_takes (h : t.Takes location x) (y : ByteArray) :
    (t.append location x).2.append location y = t.append location (x ++ y) := by
  cases t.sink location with
  | unlimited hnode hroom =>
      have hne := ne_nil_of_node? hnode (by simp)
      rw [append_of_unlimited hnode hroom, append_of_unlimited hnode hroom,
        append_of_unlimited (node?_place_self hne _ _) hroom, place_place, ByteArray.append_assoc]
  | @limited content mode room hnode hroom =>
      have hsize : x.size ≤ room := (takes_iff_of_limited hnode hroom).1 h
      obtain ⟨hnext, hleft⟩ := node?_append_of_limited (x := x) hnode hroom
      have hbytes : (x ++ y).extract 0 room =
          x.extract 0 room ++ y.extract 0 (room - x.size) := by
        simp [ByteArray.extract_append]
      have hfits : x.size + y.size ≤ room ↔ y.size ≤ room - x.size := by omega
      rw [append_of_limited hnext hleft, append_of_limited hnode hroom,
        append_of_limited hnode hroom]
      simp only [place_with_room, place_place, hbytes, hfits, ByteArray.append_assoc,
        ByteArray.size_append, Nat.sub_sub]
  | full hnode =>
      have hempty : x = .empty := ByteArray.size_eq_zero_iff.1 ((takes_iff_of_full hnode).1 h)
      rw [hempty, append_empty, ByteArray.empty_append]
  | outlet hnode =>
      have hne := ne_nil_of_node? hnode (by simp)
      rw [append_of_outlet hnode, append_of_outlet hnode,
        append_of_outlet (node?_place_self hne _ _), place_place, ByteArray.append_assoc]
  | swallowing happend => rw [happend, happend, happend]

/-- What is not taken is refused for want of space, and then neither further bytes nor bytes behind
the refused ones change anything. -/
theorem append_of_not_takes (h : ¬ t.Takes location x) (y : ByteArray) :
    (t.append location x).1 = .error .noSpace ∧
      ((t.append location x).2.append location y).2 = (t.append location x).2 ∧
      t.append location (x ++ y) = t.append location x := by
  rcases limited_or_full_of_not_takes h with ⟨content, mode, room, hnode, hroom, hlt⟩ | ⟨hnode, hne⟩
  · have hrefused : ¬ x.size ≤ room := by omega
    have hover : room - x.size = 0 := by omega
    obtain ⟨hnext, hleft⟩ := node?_append_of_limited (x := x) hnode hroom
    rw [hover] at hleft
    refine ⟨by rw [append_of_limited hnode hroom, if_neg hrefused], ?_, ?_⟩
    · have hextract : y.extract 0 0 = .empty := by simp
      rw [append_of_limited hnext hleft, hextract, ByteArray.append_empty,
        place_self hnext (by simp), Nat.zero_sub, ← hleft]
    · have hbytes : (x ++ y).extract 0 room = x.extract 0 room := by
        simp [ByteArray.extract_append, hover]
      have hsize : room - (x.size + y.size) = room - x.size := by omega
      have hrefused' : ¬ x.size + y.size ≤ room := by omega
      rw [append_of_limited hnode hroom, append_of_limited hnode hroom, hbytes,
        ByteArray.size_append, hsize, if_neg hrefused, if_neg hrefused']
  · have hempty : x.isEmpty = false := by simp [ByteArray.isEmpty, hne]
    have hempty' : (x ++ y).isEmpty = false := by simp [ByteArray.isEmpty, hne]
    rw [append_of_full hnode, append_of_full hnode, append_of_full hnode, hempty, hempty']
    exact ⟨rfl, rfl, rfl⟩

/-- The parts in which bytes are appended make no difference to what the tree holds in the end. -/
theorem append_append_snd (t : FileTree) (location : Location) (x y : ByteArray) :
    ((t.append location x).2.append location y).2 = (t.append location (x ++ y)).2 := by
  by_cases h : t.Takes location x
  · rw [append_append_of_takes h]
  · obtain ⟨-, hstuck, hsame⟩ := append_of_not_takes h y
    rw [hstuck, hsame]

end SmellRefactor.FileTree

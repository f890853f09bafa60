/-!
# Reading bytes as text

Bytes that are not UTF-8 can still be shown: `Text.lenient` puts the replacement character U+FFFD in
place of every longest run of bytes that begins a character without completing it.
-/

namespace SmellRefactor.Text

/-- The bytes that may follow a leading byte, as closed ranges; `none` for a byte that begins no
character. -/
def followers? (lead : UInt8) : Option (List (UInt8 × UInt8)) :=
  let any : UInt8 × UInt8 := (0x80, 0xBF)
  if lead < 0x80 then some []
  else if lead < 0xC2 then none
  else if lead < 0xE0 then some [any]
  else if lead = 0xE0 then some [(0xA0, 0xBF), any]
  else if lead = 0xED then some [(0x80, 0x9F), any]
  else if lead < 0xF0 then some [any, any]
  else if lead = 0xF0 then some [(0x90, 0xBF), any, any]
  else if lead < 0xF4 then some [any, any, any]
  else if lead = 0xF4 then some [(0x80, 0x8F), any, any]
  else none

/-- Takes bytes that lie in the ranges, one for each; the first component tells whether there was a
byte for every range. -/
def takeFollowers : List (UInt8 × UInt8) → List UInt8 → Bool × List UInt8 × List UInt8
  | [], bytes => (true, [], bytes)
  | _ :: _, [] => (false, [], [])
  | (low, high) :: ranges, byte :: bytes =>
    if low ≤ byte ∧ byte ≤ high then
      let (complete, taken, rest) := takeFollowers ranges bytes
      (complete, byte :: taken, rest)
    else (false, [], byte :: bytes)

/-- What is left is no longer than what was there. -/
theorem length_takeFollowers (ranges : List (UInt8 × UInt8)) (bytes : List UInt8) :
    (takeFollowers ranges bytes).2.2.length ≤ bytes.length := by
  fun_induction takeFollowers with
  | case1 => simp
  | case2 => simp
  | case3 _ _ _ _ _ _ _ _ _ h ih =>
    rw [h] at ih
    exact Nat.le_succ_of_le ih
  | case4 => simp

/-- The character of a leading byte and the bytes that follow it. -/
def assemble (lead : UInt8) (taken : List UInt8) : Char :=
  let head := match taken.length with
    | 0 => lead.toNat
    | 1 => lead.toNat % 32
    | 2 => lead.toNat % 16
    | _ => lead.toNat % 8
  Char.ofNat (taken.foldl (fun n byte => n * 64 + byte.toNat % 64) head)

/-- The characters of some bytes, with the replacement character for what is not UTF-8. -/
def lenientChars : List UInt8 → List Char
  | [] => []
  | lead :: bytes =>
    match followers? lead with
    | none => '\uFFFD' :: lenientChars bytes
    | some ranges =>
      have := length_takeFollowers ranges bytes
      match takeFollowers ranges bytes, this with
      | (complete, taken, rest), _ =>
        (if complete then assemble lead taken else '\uFFFD') :: lenientChars rest
termination_by bytes => bytes.length
decreasing_by
  · simp
  · rename_i h
    exact Nat.lt_succ_of_le h

/-- The text of some bytes, with the replacement character for what is not UTF-8. -/
def lenient (bytes : ByteArray) : String := String.ofList (lenientChars bytes.toList)

end SmellRefactor.Text

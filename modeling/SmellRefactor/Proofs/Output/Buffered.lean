import SmellRefactor.Output.Buffered
import SmellRefactor.Proofs.FileTree.Appending

/-!
# What a buffered output tells

While pieces are written some bytes are handed over to the file and the others are held back;
which ones depends on the sizes of the pieces only.  In the end the file holds what it would hold
if the whole text had been appended at once, but the answer tells only of the bytes that were handed
over before the end.
-/

namespace SmellRefactor.Output

open FileTree (Takes append_empty append_append_of_takes append_of_not_takes append_append_snd)

/-! ## What is handed over -/

/-- What is handed over when bytes are written behind others that are held back, and what is held
back then. -/
def handOne (held bytes : ByteArray) : ByteArray × ByteArray :=
  if bufferSize ≤ bytes.size then (held ++ bytes, .empty)
  else if held.size + bytes.size ≤ bufferSize then (.empty, held ++ bytes)
  else (held, bytes)

/-- What is handed over while pieces are written, and what is held back in the end. -/
def handOver : ByteArray → List String → ByteArray × ByteArray
  | held, [] => (.empty, held)
  | held, piece :: pieces =>
    let next := handOne held piece.toUTF8
    let later := handOver next.2 pieces
    (next.1 ++ later.1, later.2)

theorem handOne_append (held bytes : ByteArray) :
    (handOne held bytes).1 ++ (handOne held bytes).2 = held ++ bytes := by
  rw [handOne]
  split
  · simp
  · split <;> simp

theorem size_handOne_le {held : ByteArray} (bytes : ByteArray) :
    (handOne held bytes).2.size ≤ bufferSize := by
  rw [handOne]
  split
  · simp
  · split
    case isTrue hfits => rwa [ByteArray.size_append]
    case isFalse hfull =>
      simp only
      omega

/-- Where the bytes do not fit behind those that are held back, these are handed over first. -/
theorem handOne_of_full {held bytes : ByteArray} (h : ¬ held.size + bytes.size ≤ bufferSize) :
    handOne held bytes = (held ++ (handOne .empty bytes).1, (handOne .empty bytes).2) := by
  rw [handOne, handOne, if_neg h]
  by_cases hlarge : bufferSize ≤ bytes.size
  · simp [hlarge]
  · have hfits : bytes.size ≤ bufferSize := by omega
    simp [hlarge, hfits]

/-- Nothing is lost: what was handed over and what is held back make up the text. -/
theorem handOver_append (held : ByteArray) (pieces : List String) :
    (handOver held pieces).1 ++ (handOver held pieces).2 =
      held ++ (String.join pieces).toUTF8 := by
  induction pieces generalizing held with
  | nil => simp [handOver]
  | cons piece pieces ih =>
      rw [handOver, ByteArray.append_assoc, ih, ← ByteArray.append_assoc, handOne_append,
        ByteArray.append_assoc, String.join_cons]
      simp [String.toUTF8_eq_toByteArray, String.toByteArray_append]

/-- No more is held back than the buffer has room for. -/
theorem size_handOver_le {held : ByteArray} (h : held.size ≤ bufferSize) (pieces : List String) :
    (handOver held pieces).2.size ≤ bufferSize := by
  induction pieces generalizing held with
  | nil => exact h
  | cons piece pieces ih => exact ih (size_handOne_le piece.toUTF8)

/-- A text that is smaller than the buffer is held back as a whole. -/
theorem handOver_of_size_lt {held : ByteArray} {pieces : List String}
    (h : held.size + (String.join pieces).utf8ByteSize < bufferSize) :
    handOver held pieces = (.empty, held ++ (String.join pieces).toUTF8) := by
  induction pieces generalizing held with
  | nil => simp [handOver]
  | cons piece pieces ih =>
      rw [String.join_cons, String.utf8ByteSize_append] at h
      have hsize : piece.toUTF8.size = piece.utf8ByteSize := rfl
      have hone : handOne held piece.toUTF8 = (.empty, held ++ piece.toUTF8) := by
        rw [handOne, if_neg (by omega), if_pos (by omega)]
      have hrest :
          (held ++ piece.toUTF8).size + (String.join pieces).utf8ByteSize < bufferSize := by
        rw [ByteArray.size_append]
        omega
      rw [handOver, hone, ih hrest, String.join_cons]
      simp [String.toUTF8_eq_toByteArray, String.toByteArray_append, ByteArray.append_assoc]

/-! ## One step after another -/

namespace Buffered

variable {t : FileTree} {target : Location} {sent held : ByteArray}

/-- An output to a file that was sent some bytes, while others are held back. -/
def after (t : FileTree) (target : Location) (sent held : ByteArray) : Buffered :=
  ⟨(t.append target sent).2, target, held⟩

theorem after_held : (after t target sent held).held = held := rfl

/-- What comes of sending bytes to a file: where it took them, the output goes on with others held
back, and otherwise it ends for want of space. -/
inductive Ends (t : FileTree) (target : Location) (sent held : ByteArray) :
    Except SystemError Unit × Buffered → Prop
  | taken (h : t.Takes target sent) : Ends t target sent held (.ok (), after t target sent held)
  | refused (h : ¬ t.Takes target sent) (rest : ByteArray) :
      Ends t target sent held (.error .noSpace, after t target sent rest)

theorem Ends.answer_eq {result : Except SystemError Unit × Buffered}
    (h : Ends t target sent held result) : result.1 = (t.append target sent).1 := by
  cases h with
  | taken h => exact h.symm
  | refused h rest => exact (append_of_not_takes h .empty).1.symm

/-- What would follow refused bytes makes no difference. -/
theorem Ends.extend {rest : ByteArray} (hrefused : ¬ t.Takes target sent)
    (bytes other : ByteArray) :
    Ends t target (sent ++ bytes) other (.error .noSpace, after t target sent rest) := by
  obtain ⟨-, -, hsame⟩ := append_of_not_takes hrefused bytes
  have hafter : after t target sent rest = after t target (sent ++ bytes) rest := by
    rw [after, after, hsame]
  rw [hafter]
  refine .refused ?_ rest
  rwa [Takes, hsame]

theorem ends_deliver (hsent : t.Takes target sent) (held bytes : ByteArray) :
    Ends t target (sent ++ bytes) held ((after t target sent held).deliver bytes) := by
  have hdeliver : (after t target sent held).deliver bytes =
      ((t.append target (sent ++ bytes)).1, after t target (sent ++ bytes) held) := by
    rw [deliver, after, after, append_append_of_takes hsent bytes]
  rw [hdeliver]
  by_cases htakes : t.Takes target (sent ++ bytes)
  · rw [htakes]
    exact .taken htakes
  · rw [(append_of_not_takes htakes .empty).1]
    exact .refused htakes held

theorem ends_flush (hsent : t.Takes target sent) (held : ByteArray) :
    Ends t target (sent ++ held) .empty (after t target sent held).flush := by
  have hdeliver := ends_deliver hsent held held
  rw [flush, after_held]
  generalize (after t target sent held).deliver held = result at hdeliver
  cases hdeliver with
  | taken h => exact .taken h
  | refused h rest => exact .refused h _

theorem ends_accept (hsent : t.Takes target sent) {bytes : ByteArray}
    (hfits : held.size + bytes.size ≤ bufferSize ∨ held = .empty) :
    Ends t target (sent ++ (handOne held bytes).1) (handOne held bytes).2
      ((after t target sent held).accept bytes) := by
  rw [accept, handOne]
  split
  case isTrue hlarge =>
    -- beside bytes that fill the buffer nothing else fits into it
    have hheld : held = .empty := by
      refine hfits.elim (fun hfits => ByteArray.size_eq_zero_iff.1 ?_) id
      omega
    subst hheld
    rw [ByteArray.empty_append]
    exact ends_deliver hsent .empty bytes
  case isFalse hsmall =>
    have hfits' : held.size + bytes.size ≤ bufferSize := by
      rcases hfits with hfits | rfl
      · exact hfits
      · rw [ByteArray.size_empty]
        omega
    rw [if_pos hfits', ByteArray.append_empty]
    exact .taken hsent

/-- Writing hands over and holds back what the sizes say. -/
theorem ends_write (hsent : t.Takes target sent) (held bytes : ByteArray) :
    Ends t target (sent ++ (handOne held bytes).1) (handOne held bytes).2
      ((after t target sent held).write bytes) := by
  rw [write, after_held]
  split
  case isTrue hfits => exact ends_accept hsent (.inl hfits)
  case isFalse hfull =>
    have hflush := ends_flush hsent held
    rw [handOne_of_full hfull, ← ByteArray.append_assoc]
    generalize (after t target sent held).flush = result at hflush
    cases hflush with
    | taken h => exact ends_accept h (.inr rfl)
    | refused h rest => exact .extend h _ _

/-- By induction on the pieces, from any output whose file took all that it was sent so far. -/
theorem ends_writeAll (hsent : t.Takes target sent) (held : ByteArray) (pieces : List String) :
    Ends t target (sent ++ (handOver held pieces).1) (handOver held pieces).2
      ((after t target sent held).writeAll pieces) := by
  induction pieces generalizing sent held with
  | nil =>
      rw [handOver, ByteArray.append_empty]
      exact .taken hsent
  | cons piece pieces ih =>
      have hwrite := ends_write hsent held piece.toUTF8
      rw [writeAll, handOver, ← ByteArray.append_assoc]
      generalize (after t target sent held).write piece.toUTF8 = result at hwrite
      cases hwrite with
      | taken h => exact ih h _
      | refused h rest => exact .extend h _ _

/-- Closing an output hands over what it holds, whatever comes of it. -/
theorem close_eq (b : Buffered) : b.close = (b.tree.append b.target b.held).2 := by
  rw [close, flush]
  have hdeliver : b.deliver b.held =
      ((b.tree.append b.target b.held).1, ⟨(b.tree.append b.target b.held).2, b.target, b.held⟩) :=
    rfl
  rw [hdeliver]
  cases (b.tree.append b.target b.held).1 <;> rfl

/-- After closing the file has got all bytes, or as many of them as it takes. -/
theorem Ends.close_eq {result : Except SystemError Unit × Buffered}
    (h : Ends t target sent held result) :
    result.2.close = (t.append target (sent ++ held)).2 := by
  rw [Buffered.close_eq]
  cases h with
  | taken h => exact append_append_snd t target sent held
  | refused h rest =>
      obtain ⟨-, hstuck, -⟩ := append_of_not_takes h rest
      obtain ⟨-, -, hsame⟩ := append_of_not_takes h held
      rw [hsame]
      exact hstuck

end Buffered

/-- Pieces that are written leave behind what the whole text would, were it appended at once; but
the answer is the one that the file gives to what it is handed before the end. -/
theorem writePieces_eq (t : FileTree) (target : Location) (pieces : List String) :
    writePieces t target pieces =
      ((t.append target (handOver .empty pieces).1).1,
        (t.append target (String.join pieces).toUTF8).2) := by
  have hsent : t.Takes target .empty := by rw [Takes, append_empty]
  have hends := Buffered.ends_writeAll hsent .empty pieces
  have hstart : Buffered.after t target .empty .empty = Buffered.ofLocation t target := by
    rw [Buffered.after, append_empty, Buffered.ofLocation]
  rw [ByteArray.empty_append, hstart] at hends
  rw [writePieces]
  refine Prod.ext hends.answer_eq (hends.close_eq.trans ?_)
  rw [handOver_append, ByteArray.empty_append]

end SmellRefactor.Output

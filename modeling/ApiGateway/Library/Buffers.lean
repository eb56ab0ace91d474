import Mathlib.Data.List.Basic

/-!
# Buffers of fixed length

A buffer is a list whose length its operations do not change. A range of it and a
copy into it exist only where every index they touch is inside.

A buffer that is filled from the front, piece by piece, ends as the pieces one
after another. Conversely the ranges up to a length, from a length before the end
and between the two are the front, the back and the middle of the buffer.
-/

namespace ApiGateway.Buffers

universe u
variable {α : Type u}

/-- The elements from a start up to a stop. -/
def range (start stop : Nat) (buffer : List α) : Option (List α) :=
  if start ≤ stop ∧ stop ≤ buffer.length then some ((buffer.take stop).drop start) else none

/-- Overwrite a number of elements from a start on with elements of a source. -/
def copy (source : List α) (sourceStart : Nat) (target : List α) (targetStart length : Nat) :
    Option (List α) :=
  if sourceStart + length ≤ source.length ∧ targetStart + length ≤ target.length then
    some (target.take targetStart ++ (source.drop sourceStart).take length ++
      target.drop (targetStart + length))
  else none

/-- The range between a piece before it and a piece after it. -/
theorem range_between (before part after : List α) :
    range before.length (before.length + part.length) (before ++ part ++ after) = some part := by
  have inside : before.length ≤ before.length + part.length ∧
      before.length + part.length ≤ (before ++ part ++ after).length := by
    simp
  have taken : (before ++ part ++ after).take (before.length + part.length) = before ++ part := by
    rw [← List.length_append, List.take_left]
  rw [range, if_pos inside, taken, List.drop_left]

theorem range_front (front rest : List α) : range 0 front.length (front ++ rest) = some front := by
  simpa using range_between [] front rest

theorem range_middle (front middle back : List α) :
    range front.length ((front ++ middle ++ back).length - back.length) (front ++ middle ++ back) =
      some middle := by
  have stop : (front ++ middle ++ back).length - back.length = front.length + middle.length := by
    simp only [List.length_append]
    omega
  rw [stop, range_between]

theorem range_back (front back : List α) :
    range ((front ++ back).length - back.length) (front ++ back).length (front ++ back) = some back := by
  have start : (front ++ back).length - back.length = front.length := by simp
  have whole := range_between front back []
  rw [List.append_nil, ← List.length_append] at whole
  rw [start, whole]

/-- A buffer that is long enough is a front, a middle and a back. -/
theorem exists_framed {before after : Nat} {buffer : List α} (long : before + after ≤ buffer.length) :
    ∃ front middle back, buffer = front ++ middle ++ back ∧ front.length = before ∧
      back.length = after := by
  refine ⟨buffer.take before, (buffer.drop before).take (buffer.length - before - after),
    (buffer.drop before).drop (buffer.length - before - after), ?_, ?_, ?_⟩
  · rw [List.append_assoc, List.take_append_drop, List.take_append_drop]
  · rw [List.length_take]
    omega
  · rw [List.length_drop, List.length_drop]
    omega

/-- A copy from the front of a source overwrites a gap with what the source
begins with. -/
theorem copy_front {before gap piece : List α} (junk after : List α)
    (fits : gap.length = piece.length) :
    copy (piece ++ junk) 0 (before ++ gap ++ after) before.length piece.length =
      some (before ++ piece ++ after) := by
  have beyond : (before ++ gap ++ after).drop (before.length + piece.length) = after := by
    rw [← fits, ← List.length_append, List.drop_left]
  have front : (before ++ gap ++ after).take before.length = before := by
    rw [List.append_assoc, List.take_left]
  have enough : 0 + piece.length ≤ (piece ++ junk).length := by
    simp
  have inside : before.length + piece.length ≤ (before ++ gap ++ after).length := by
    simp only [List.length_append]
    omega
  rw [copy, if_pos ⟨enough, inside⟩, List.drop_zero, List.take_left, beyond, front]

/-- A copy to the front of a longer buffer leaves the rest of it. -/
theorem copy_span {piece buffer : List α} (fits : piece.length ≤ buffer.length) :
    copy piece 0 buffer 0 piece.length = some (piece ++ buffer.drop piece.length) := by
  have copied := @copy_front α [] (buffer.take piece.length) piece []
    (buffer.drop piece.length) (by rw [List.length_take]; omega)
  simpa using copied

section Filling

variable {fill : α} {former middle latter junk : List α}

/-- The front of a fresh buffer is filled first. -/
theorem copy_first (room : Nat) :
    copy (former ++ junk) 0 (List.replicate (former.length + room) fill) 0 former.length =
      some (former ++ List.replicate room fill) := by
  have copied := @copy_front α [] (List.replicate former.length fill) former junk
    (List.replicate room fill) (by simp)
  simpa [List.replicate_append_replicate] using copied

/-- A further piece follows what was filled before it. -/
theorem copy_next (room : Nat) :
    copy (latter ++ junk) 0 (former ++ List.replicate (latter.length + room) fill) former.length
        latter.length =
      some (former ++ latter ++ List.replicate room fill) := by
  have copied := @copy_front α former (List.replicate latter.length fill) latter junk
    (List.replicate room fill) (by simp)
  simpa [List.replicate_append_replicate, List.append_assoc] using copied

end Filling

end ApiGateway.Buffers

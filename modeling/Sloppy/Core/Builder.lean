import Sloppy.Core.Status
import Sloppy.Lib.Copy

/-! # Byte builders over fixed storage

A builder over a caller's buffer (`builder.c`): an append that does not fit leaves the buffer as it was. Its source may
be a range of the buffer itself, so the copy picks the direction of its loop as `memmove` does.
-/

namespace Sloppy

open Lib.Copy

inductive ByteSpan where
  | outside (bytes : List UInt8)
  | within (offset length : Nat)

def ByteSpan.length : ByteSpan → Nat
  | .outside bytes => bytes.length
  | .within _ length => length

structure ByteBuilder where
  data : List UInt8
  capacity : Nat
  length : Nat

def byteBuilderCopy (data : List UInt8) (dst : Nat) : ByteSpan → List UInt8
  | .outside bytes => store data dst bytes
  | .within src length =>
    if length = 0 ∨ dst = src then data
    else if src < dst ∧ dst < src + length then moveDown data dst src length
    else moveUp data dst src length

def byteBuilderInitFixed (buffer : List UInt8) (capacity : Nat) : ByteBuilder :=
  ⟨buffer, capacity, 0⟩

def byteBuilderReserve (builder : ByteBuilder) (additional : Nat) : Except StatusCode Unit :=
  match checkedAddSize builder.length additional with
  | .error e => .error e
  | .ok required => if required ≤ builder.capacity then .ok () else .error .capacityExceeded

def byteBuilderAppendBytes (builder : ByteBuilder) (span : ByteSpan) : Except StatusCode ByteBuilder :=
  match byteBuilderReserve builder span.length with
  | .error e => .error e
  | .ok () => .ok { builder with
      data := byteBuilderCopy builder.data builder.length span
      length := builder.length + span.length }

lemma byteBuilderCopy_length (data : List UInt8) (dst : Nat) (span : ByteSpan) :
    (byteBuilderCopy data dst span).length = data.length := by
  cases span with
  | outside bytes => exact store_length data dst bytes
  | within src length =>
    simp only [byteBuilderCopy]
    split
    · rfl
    · split
      · exact moveDown_length data dst src length
      · exact moveUp_length data dst src length

lemma byteBuilderCopy_self (data : List UInt8) (dst len : Nat) :
    byteBuilderCopy data dst (.within dst len) = data := by
  rw [byteBuilderCopy, if_pos (Or.inr rfl)]

/-- Inside the buffer the copy is exact however source and destination overlap. -/
lemma byteBuilderCopy_within (data : List UInt8) (dst src len : Nat)
    (hSrc : src + len ≤ data.length) (hDst : dst + len ≤ data.length) (i : Nat) :
    (byteBuilderCopy data dst (.within src len))[i]? =
      if dst ≤ i ∧ i < dst + len then data[src + (i - dst)]? else data[i]? := by
  simp only [byteBuilderCopy]
  split
  next hNone =>
    rcases hNone with rfl | rfl
    · rw [if_neg (by omega)]
    · split
      · rw [show dst + (i - dst) = i by omega]
      · rfl
  · split
    · exact moveDown_getElem? data dst src len (by omega) hDst i
    · exact moveUp_getElem? data dst src len (by omega) hSrc hDst i

lemma byteBuilderAppendBytes_ok {builder builder' : ByteBuilder} {span : ByteSpan}
    (h : byteBuilderAppendBytes builder span = .ok builder') :
    builder.length + span.length ≤ builder.capacity ∧ builder' = { builder with
        data := byteBuilderCopy builder.data builder.length span
        length := builder.length + span.length } := by
  unfold byteBuilderAppendBytes at h
  split at h
  · cases h
  rename_i hReserve
  refine ⟨?_, (Except.ok.inj h).symm⟩
  unfold byteBuilderReserve at hReserve
  split at hReserve
  · cases hReserve
  rename_i hAdd
  rw [← checkedAddSize_ok hAdd]
  split at hReserve
  · assumption
  · cases hReserve

end Sloppy

import Mathlib.Algebra.Order.BigOperators.Group.List
import Mathlib.Algebra.Order.Ring.Nat
import Mathlib.Tactic.Common

/-! # Frames in a byte stream

A reader keeps the bytes it has not used and parses them again from the start whenever more arrive. If the
parser takes a whole frame off the front and waits on every proper beginning of one, then the frames come
out as they went in, wherever the stream is cut.
-/

namespace Sloppy.Lib.Framing

open List

variable {Byte Frame Value Error : Type}

/-- Parsing until nothing comes out; every value takes a byte at least. -/
def drain (parse : List Byte → Except Error (Option (Value × List Byte))) :
    Nat → List Byte → Except Error (List Value × List Byte)
  | 0, buffer => .ok ([], buffer)
  | fuel + 1, buffer =>
    match parse buffer with
    | .error error => .error error
    | .ok none => .ok ([], buffer)
    | .ok (some (value, rest)) =>
      match drain parse fuel rest with
      | .error error => .error error
      | .ok (values, left) => .ok (value :: values, left)

/-- Each chunk is added to the buffer, which is then drained. -/
def receiveAll (accept : List Byte → List Byte → Except Error (List Byte))
    (parse : List Byte → Except Error (Option (Value × List Byte))) :
    List Byte → List (List Byte) → Except Error (List Value × List Byte)
  | buffer, [] => .ok ([], buffer)
  | buffer, chunk :: chunks =>
    match accept buffer chunk with
    | .error error => .error error
    | .ok fed =>
      match drain parse (fed.length + 1) fed with
      | .error error => .error error
      | .ok (values, left) =>
        match receiveAll accept parse left chunks with
        | .error error => .error error
        | .ok (more, last) => .ok (values ++ more, last)

/-- The frames that are not complete after so many bytes, by their lengths, and the bytes behind those
that are. -/
def afterWhole : List Nat → Nat → List Nat × Nat
  | [], count => ([], count)
  | length :: lengths, count =>
    if length ≤ count then afterWhole lengths (count - length) else (length :: lengths, count)

/-- Never more than the limit is kept, when complete frames are taken off between the chunks. -/
def StaysWithin (limit : Nat) : List Nat → Nat → List (List Byte) → Prop
  | _, _, [] => True
  | lengths, kept, chunk :: chunks =>
    kept + chunk.length ≤ limit ∧ StaysWithin limit (afterWhole lengths (kept + chunk.length)).1
        (afterWhole lengths (kept + chunk.length)).2 chunks

/-- The parser reads these frames. -/
structure Framed (parse : List Byte → Except Error (Option (Value × List Byte))) (encode : Frame → List Byte)
    (value : Frame → Value) (good : Frame → Prop) : Prop where
  nothing : parse [] = .ok none
  whole : ∀ frame, good frame → ∀ rest, parse (encode frame ++ rest) = .ok (some (value frame, rest))
  cut : ∀ frame, good frame → ∀ part rest, part ++ rest = encode frame → rest ≠ [] → parse part = .ok none

lemma afterWhole_spec (lengths : List Nat) (count : Nat) :
    ∃ taken, lengths = taken ++ (afterWhole lengths count).1 ∧ taken.sum + (afterWhole lengths count).2 = count ∧
      ∀ length ∈ (afterWhole lengths count).1.head?, (afterWhole lengths count).2 < length := by
  induction lengths generalizing count with
  | nil => exact ⟨[], rfl, Nat.zero_add count, fun _ h => by cases h⟩
  | cons length lengths ih =>
    rw [afterWhole]
    split
    · obtain ⟨taken, hTaken, hSum, hHead⟩ := ih (count - length)
      refine ⟨length :: taken, ?_, ?_, hHead⟩
      · rw [cons_append, ← hTaken]
      · rw [sum_cons]
        omega
    next hShort =>
      refine ⟨[], rfl, Nat.zero_add count, ?_⟩
      rintro other ⟨⟩
      exact Nat.not_le.mp hShort

lemma all_le_of_staysWithin {limit kept : Nat} {lengths : List Nat} {chunks : List (List Byte)}
    (hWithin : StaysWithin limit lengths kept chunks) (hKept : ∀ length ∈ lengths.head?, kept < length)
    (hTotal : kept + chunks.flatten.length = lengths.sum) : ∀ length ∈ lengths, length ≤ limit := by
  induction chunks generalizing lengths kept with
  | nil =>
    cases lengths with
    | nil => exact fun _ h => by cases h
    | cons first =>
      have hFirst := hKept first rfl
      rw [flatten_nil, length_nil, sum_cons] at hTotal
      omega
  | cons chunk chunks ih =>
    obtain ⟨hNow, hLater⟩ := hWithin
    obtain ⟨taken, hTaken, hSum, hHead⟩ := afterWhole_spec lengths (kept + chunk.length)
    have hSums := congrArg sum hTaken
    rw [sum_append] at hSums
    rw [flatten_cons, length_append] at hTotal
    intro length hLen
    rw [hTaken, mem_append] at hLen
    obtain hDone | hOpen := hLen
    · have hLe := single_le_sum (fun _ _ => Nat.zero_le _) length hDone
      omega
    · exact ih hLater hHead (by omega) length hOpen

lemma cut_append {part rest front back : List Byte} (h : part ++ rest = front ++ back) :
    (∃ missing, missing ≠ [] ∧ part ++ missing = front) ∨ ∃ more, part = front ++ more ∧ more ++ rest = back := by
  obtain ⟨missing, hFront, hRest⟩ | ⟨more, hPart, hBack⟩ := append_eq_append_iff.mp h
  · cases missing with
    | nil => exact Or.inr ⟨[], by rw [hFront, append_nil, append_nil], by rw [hRest]; rfl⟩
    | cons b missing => exact Or.inl ⟨b :: missing, cons_ne_nil _ _, hFront.symm⟩
  · exact Or.inr ⟨more, hPart, hBack.symm⟩

namespace Framed

variable {parse : List Byte → Except Error (Option (Value × List Byte))} {encode : Frame → List Byte}
  {value : Frame → Value} {good : Frame → Prop}

lemma encode_ne_nil (h : Framed parse encode value good) {frame : Frame} (hGood : good frame) :
    encode frame ≠ [] := by
  intro hEmpty
  have hWhole := h.whole frame hGood []
  rw [hEmpty, append_nil, h.nothing] at hWhole
  cases hWhole

variable {frames : List Frame}

lemma drain_eq (h : Framed parse encode value good) (hGood : ∀ frame ∈ frames, good frame) {buf rest : List Byte}
    (hStream : buf ++ rest = frames.flatMap encode) {fuel : Nat} (hFuel : buf.length < fuel) :
    ∃ done later left, frames = done ++ later ∧ drain parse fuel buf = .ok (done.map value, left) ∧
      left ++ rest = later.flatMap encode ∧ (rest = [] → later = [] ∧ left = []) ∧
      afterWhole (frames.map fun frame => (encode frame).length) buf.length =
        (later.map fun frame => (encode frame).length, left.length) := by
  induction frames generalizing buf fuel with
  | nil =>
    rw [flatMap_nil, append_eq_nil_iff] at hStream
    obtain ⟨rfl, rfl⟩ := hStream
    refine ⟨[], [], [], rfl, ?_, rfl, fun _ => ⟨rfl, rfl⟩, rfl⟩
    cases fuel with
    | zero => rfl
    | succ =>
      rw [drain, h.nothing]
      rfl
  | cons frame frames ih =>
    obtain ⟨fuel, rfl⟩ : ∃ less, fuel = less + 1 := ⟨fuel - 1, by omega⟩
    have hFrame := hGood frame (mem_cons_self ..)
    have hPositive := length_pos_of_ne_nil (h.encode_ne_nil hFrame)
    rw [flatMap_cons] at hStream
    obtain ⟨missing, hMissing, hFront⟩ | ⟨tail, rfl, hTail⟩ := cut_append hStream
    · -- The frame is not complete, so the parser waits.
      have hShort : buf.length < (encode frame).length := by
        have hMore := length_pos_of_ne_nil hMissing
        rw [← hFront, length_append]
        omega
      refine ⟨[], frame :: frames, buf, rfl, ?_, hStream, ?_, ?_⟩
      · rw [drain, h.cut frame hFrame buf missing hFront hMissing]
        rfl
      · rintro rfl
        have hLen := congrArg List.length hStream
        rw [append_nil, length_append] at hLen
        omega
      · rw [map_cons, afterWhole, if_neg (Nat.not_le.mpr hShort)]
    · rw [length_append] at hFuel
      obtain ⟨done, later, left, hFrames, hDrain, hLeft, hAll, hLengths⟩ :=
        ih (fun other hOther => hGood other (mem_cons_of_mem _ hOther)) hTail
          (Nat.lt_of_lt_of_le (by omega) (Nat.le_refl fuel))
      refine ⟨frame :: done, later, left, by rw [hFrames, cons_append], ?_, hLeft, hAll, ?_⟩
      · rw [drain, h.whole frame hFrame tail]
        dsimp only
        rw [hDrain]
        rfl
      · rw [map_cons, afterWhole, length_append, if_pos (Nat.le_add_right ..), Nat.add_sub_cancel_left, hLengths]

lemma receiveAll_eq (h : Framed parse encode value good) {accept : List Byte → List Byte → Except Error (List Byte)}
    {limit : Nat} (hAccept : ∀ buf chunk, buf.length + chunk.length ≤ limit →
      accept buf chunk = .ok (buf ++ chunk)) (hGood : ∀ frame ∈ frames, good frame) {buf : List Byte}
    {chunks : List (List Byte)} (hStream : buf ++ chunks.flatten = frames.flatMap encode)
    (hEmpty : chunks = [] → frames = [] ∧ buf = [])
    (hWithin : StaysWithin limit (frames.map fun frame => (encode frame).length) buf.length chunks) :
    receiveAll accept parse buf chunks = .ok (frames.map value, []) := by
  induction chunks generalizing buf frames with
  | nil =>
    obtain ⟨rfl, rfl⟩ := hEmpty rfl
    rfl
  | cons chunk chunks ih =>
    obtain ⟨hNow, hLater⟩ := hWithin
    rw [flatten_cons, ← append_assoc] at hStream
    obtain ⟨done, later, left, rfl, hDrain, hLeft, hAll, hLengths⟩ := h.drain_eq hGood hStream (Nat.lt_succ_self _)
    rw [← length_append, hLengths] at hLater
    have hRest := ih (fun frame hFrame => hGood frame (mem_append_right _ hFrame)) hLeft
      (by rintro rfl; exact hAll rfl) hLater
    rw [receiveAll, hAccept buf chunk hNow]
    dsimp only
    rw [hDrain]
    dsimp only
    rw [hRest, map_append]

end Framed

end Sloppy.Lib.Framing

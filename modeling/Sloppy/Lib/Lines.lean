import Mathlib.Tactic.Common

/-! # Lines of a text protocol

A block of lines, each ended by a carriage return and a line feed, and an empty line after the last.
Reading a block gives back its lines and the bytes behind it.
-/

namespace Sloppy.Lib.Lines

open List

def crlf : List UInt8 := [13, 10]

def ended (line : List UInt8) : List UInt8 := line ++ crlf

def block (lines : List (List UInt8)) : List UInt8 := lines.flatMap ended ++ crlf

def splitLine : List UInt8 → Option (List UInt8 × List UInt8)
  | [] => none
  | b :: rest =>
    if b = 13 ∧ rest.head? = some 10 then some ([], rest.tail)
    else (splitLine rest).map fun split => (b :: split.1, split.2)

/-- The lines up to the first empty one; every line takes at least one byte. -/
def readBlock : Nat → List UInt8 → Option (List (List UInt8) × List UInt8)
  | 0, _ => none
  | fuel + 1, text =>
    match splitLine text with
    | none => none
    | some ([], rest) => some ([], rest)
    | some (b :: line, rest) => (readBlock fuel rest).map fun read => ((b :: line) :: read.1, read.2)

variable {line : List UInt8}

lemma splitLine_eq_none_of_not_mem (hLine : 13 ∉ line) : splitLine line = none := by
  induction line with
  | nil => rfl
  | cons b line ih =>
    rw [mem_cons, not_or] at hLine
    have hNe : ¬(b = 13 ∧ line.head? = some 10) := fun h => hLine.1 h.1.symm
    rw [splitLine, if_neg hNe, ih hLine.2, Option.map_none]

lemma splitLine_cons_eq_none {b : UInt8} :
    splitLine (b :: line) = none ↔ ¬(b = 13 ∧ line.head? = some 10) ∧ splitLine line = none := by
  rw [splitLine]
  split
  next h =>
    exact ⟨fun hNone => (by cases hNone), fun hBoth => absurd h hBoth.1⟩
  next h =>
    exact ⟨fun hNone => ⟨h, Option.map_eq_none_iff.mp hNone⟩, fun hBoth => by rw [hBoth.2, Option.map_none]⟩

lemma splitLine_ended (hLine : splitLine line = none) (rest : List UInt8) :
    splitLine (ended line ++ rest) = some (line, rest) := by
  induction line with
  | nil => rfl
  | cons b line ih =>
    obtain ⟨hHead, hTail⟩ := splitLine_cons_eq_none.mp hLine
    have hNe : ¬(b = 13 ∧ (ended line ++ rest).head? = some 10) := by
      cases line with
      | nil =>
        rintro ⟨-, hNext⟩
        cases hNext
      | cons => exact hHead
    change splitLine (b :: (ended line ++ rest)) = _
    rw [splitLine, if_neg hNe, ih hTail, Option.map_some]

lemma splitLine_cut {part rest : List UInt8} (hLine : splitLine line = none) (hPart : part ++ rest = ended line)
    (hRest : rest ≠ []) : splitLine part = none := by
  induction part generalizing line with
  | nil => rfl
  | cons b part ih =>
    cases line with
    | nil =>
      -- Only the carriage return can have come.
      have hShort : (b :: part).length < 2 := by
        have hLen := congrArg List.length hPart
        have hMissing := length_pos_iff.mpr hRest
        rw [length_append] at hLen
        change _ = 2 at hLen
        omega
      cases part with
      | nil => exact splitLine_cons_eq_none.mpr ⟨fun h => (by cases h.2), rfl⟩
      | cons =>
        rw [length_cons, length_cons] at hShort
        omega
    | cons first line =>
      obtain ⟨rfl, hMore⟩ := List.cons.inj hPart
      obtain ⟨hHead, hTail⟩ := splitLine_cons_eq_none.mp hLine
      refine splitLine_cons_eq_none.mpr ⟨?_, ih hTail hMore⟩
      rintro ⟨rfl, hNext⟩
      cases part with
      | nil => cases hNext
      | cons =>
        cases line with
        | nil =>
          obtain ⟨rfl, -⟩ := List.cons.inj hMore
          cases hNext
        | cons =>
          obtain ⟨rfl, -⟩ := List.cons.inj hMore
          exact hHead ⟨rfl, hNext⟩

lemma splitLine_eq_some {text rest : List UInt8} (h : splitLine text = some (line, rest)) :
    text = ended line ++ rest ∧ splitLine line = none := by
  induction text generalizing line with
  | nil => cases h
  | cons b text ih =>
    rw [splitLine] at h
    split at h
    next hEnd =>
      cases h
      obtain ⟨rfl, hNext⟩ := hEnd
      obtain ⟨text, rfl⟩ := head?_eq_some_iff.mp hNext
      exact ⟨rfl, rfl⟩
    next hNot =>
      obtain ⟨⟨line, rest⟩, hSplit, hEq⟩ := Option.map_eq_some_iff.mp h
      cases hEq
      obtain ⟨rfl, hNone⟩ := ih hSplit
      refine ⟨rfl, splitLine_cons_eq_none.mpr ⟨?_, hNone⟩⟩
      rintro ⟨hReturn, hNext⟩
      obtain ⟨line, rfl⟩ := head?_eq_some_iff.mp hNext
      exact hNot ⟨hReturn, rfl⟩

lemma readBlock_block {lines : List (List UInt8)} (hLines : ∀ line ∈ lines, line ≠ [] ∧ 13 ∉ line)
    {fuel : Nat} (hFuel : lines.length < fuel) (rest : List UInt8) :
    readBlock fuel (block lines ++ rest) = some (lines, rest) := by
  induction lines generalizing fuel with
  | nil =>
    obtain ⟨fuel, rfl⟩ := Nat.exists_eq_succ_of_ne_zero (Nat.ne_of_gt hFuel)
    rfl
  | cons line lines ih =>
    obtain ⟨fuel, rfl⟩ := Nat.exists_eq_succ_of_ne_zero (Nat.ne_of_gt (Nat.zero_lt_of_lt hFuel))
    obtain ⟨hSome, hNone⟩ := hLines line (mem_cons_self ..)
    obtain ⟨b, line, rfl⟩ := exists_cons_of_ne_nil hSome
    have hBlock : block ((b :: line) :: lines) ++ rest = ended (b :: line) ++ (block lines ++ rest) := by
      rw [block, block, flatMap_cons]
      simp only [append_assoc]
    rw [hBlock, readBlock, splitLine_ended (splitLine_eq_none_of_not_mem hNone)]
    dsimp only
    rw [ih (fun other hOther => hLines other (mem_cons_of_mem _ hOther)) (Nat.lt_of_succ_lt_succ hFuel)]
    rfl

lemma length_lt_length_block (lines : List (List UInt8)) : lines.length < (block lines).length := by
  induction lines with
  | nil => decide
  | cons line lines =>
    have hBlock : block (line :: lines) = ended line ++ block lines := by
      rw [block, block, flatMap_cons, append_assoc]
    rw [hBlock, length_append, ended, length_append, length_cons, crlf]
    simp only [length_cons, length_nil]
    omega

section Patterns

def splitFirst (pattern : List UInt8) : List UInt8 → Option (List UInt8 × List UInt8)
  | [] => none
  | b :: rest =>
    if pattern.isPrefixOf (b :: rest) then some ([], (b :: rest).drop pattern.length)
    else (splitFirst pattern rest).map fun split => (b :: split.1, split.2)

def splitAll (pattern : List UInt8) : Nat → List UInt8 → List (List UInt8)
  | 0, text => [text]
  | fuel + 1, text =>
    match splitFirst pattern text with
    | none => [text]
    | some (piece, rest) => piece :: splitAll pattern fuel rest

variable {b : UInt8} {pat : List UInt8}

lemma splitFirst_cons_ne {c : UInt8} (h : c ≠ b) (rest : List UInt8) :
    splitFirst (b :: pat) (c :: rest) = (splitFirst (b :: pat) rest).map fun split => (c :: split.1, split.2) := by
  have hOther : (b :: pat).isPrefixOf (c :: rest) = false := by
    rw [isPrefixOf, beq_false_of_ne (Ne.symm h), Bool.false_and]
  rw [splitFirst, hOther, if_neg nofun]

lemma splitFirst_append {front : List UInt8} (h : b ∉ front) (rest : List UInt8) :
    splitFirst (b :: pat) (front ++ rest) =
      (splitFirst (b :: pat) rest).map fun split => (front ++ split.1, split.2) := by
  induction front with
  | nil => simp
  | cons c front ih =>
    rw [mem_cons, not_or] at h
    rw [cons_append, splitFirst_cons_ne (Ne.symm h.1), ih h.2, Option.map_map]
    rfl

lemma splitFirst_pattern (rest : List UInt8) :
    splitFirst (b :: pat) (b :: pat ++ rest) = some ([], rest) := by
  have hHere : (b :: pat).isPrefixOf (b :: pat ++ rest) = true := isPrefixOf_iff_prefix.mpr ⟨rest, rfl⟩
  rw [cons_append] at hHere ⊢
  rw [splitFirst, if_pos hHere, ← cons_append, drop_left]

variable {text : List UInt8}

lemma splitFirst_eq_none (h : b ∉ text) : splitFirst (b :: pat) text = none := by
  have hAll := @splitFirst_append b pat text h []
  rwa [append_nil, splitFirst, Option.map_none] at hAll

lemma splitFirst_eq_some {front rest : List UInt8} (h : splitFirst pat text = some (front, rest)) :
    text = front ++ (pat ++ rest) := by
  induction text generalizing front with
  | nil => cases h
  | cons c text ih =>
    rw [splitFirst] at h
    split at h
    next hHere =>
      obtain ⟨tail, hTail⟩ := isPrefixOf_iff_prefix.mp hHere
      cases h
      rw [← hTail, drop_left]
      rfl
    · obtain ⟨⟨front, rest⟩, hSplit, hEq⟩ := Option.map_eq_some_iff.mp h
      cases hEq
      rw [ih hSplit]
      rfl

lemma splitFirst_append_right {front rest : List UInt8} (h : splitFirst pat text = some (front, rest))
    (more : List UInt8) : splitFirst pat (text ++ more) = some (front, rest ++ more) := by
  induction text generalizing front with
  | nil => cases h
  | cons c text ih =>
    rw [splitFirst] at h
    rw [cons_append, splitFirst, ← cons_append]
    split at h
    next hHere =>
      obtain ⟨tail, hTail⟩ := isPrefixOf_iff_prefix.mp hHere
      cases h
      have hStill : pat.isPrefixOf (c :: text ++ more) = true :=
        isPrefixOf_iff_prefix.mpr ⟨tail ++ more, by rw [← hTail, append_assoc]⟩
      rw [if_pos hStill, ← hTail, append_assoc, drop_left, drop_left]
    next hNot =>
      obtain ⟨⟨front, rest⟩, hSplit, hEq⟩ := Option.map_eq_some_iff.mp h
      cases hEq
      have hLong : pat.length ≤ (c :: text).length := by
        rw [splitFirst_eq_some hSplit]
        simp only [length_cons, length_append]
        omega
      have hStill : ¬pat.isPrefixOf (c :: text ++ more) = true := by
        intro hStart
        have hHere := isPrefixOf_iff_prefix.mp hStart
        apply hNot
        apply isPrefixOf_iff_prefix.mpr
        exact prefix_of_prefix_length_le hHere ⟨more, rfl⟩ hLong
      rw [if_neg hStill, ih hSplit]
      rfl

lemma splitFirst_cut {front rest : List UInt8} (h : splitFirst (b :: pat) text = some (front, rest)) :
    splitFirst (b :: pat) (front ++ b :: pat) = some (front, []) := by
  induction text generalizing front with
  | nil => cases h
  | cons c text ih =>
    rw [splitFirst] at h
    split at h
    · cases h
      have hHere := @splitFirst_pattern b pat []
      rwa [append_nil] at hHere
    next hNot =>
      obtain ⟨⟨front, rest⟩, hSplit, hEq⟩ := Option.map_eq_some_iff.mp h
      cases hEq
      have hStill : ¬(b :: pat).isPrefixOf (c :: (front ++ b :: pat)) = true := by
        intro hStart
        have hHere := isPrefixOf_iff_prefix.mp hStart
        apply hNot
        apply isPrefixOf_iff_prefix.mpr
        refine hHere.trans ⟨rest, ?_⟩
        rw [splitFirst_eq_some hSplit, cons_append, append_assoc]
      rw [cons_append, splitFirst, if_neg hStill, ih hSplit]
      rfl

def joined (lines : List (List UInt8)) : List UInt8 := List.intercalate crlf lines

lemma joined_cons (line next : List UInt8) (lines : List (List UInt8)) :
    joined (line :: next :: lines) = line ++ (crlf ++ joined (next :: lines)) := by
  simp [joined]

variable {line : List UInt8} {lines : List (List UInt8)}

lemma splitFirst_block (hLines : ∀ other ∈ line :: lines, other ≠ [] ∧ 13 ∉ other) (rest : List UInt8) :
    splitFirst (crlf ++ crlf) (block (line :: lines) ++ rest) = some (joined (line :: lines), rest) := by
  induction lines generalizing line with
  | nil =>
    have hText : block [line] ++ rest = line ++ (13 :: [10, 13, 10] ++ rest) := by
      simp [block, ended, crlf]
    have hJoined : joined [line] = line := by simp [joined]
    obtain ⟨-, hNone⟩ := hLines line mem_cons_self
    rw [hText, hJoined]
    refine (splitFirst_append hNone _).trans ?_
    refine (congrArg (Option.map _) (splitFirst_pattern rest)).trans ?_
    rw [Option.map_some, append_nil]
  | cons next lines ih =>
    obtain ⟨-, hNone⟩ := hLines line mem_cons_self
    obtain ⟨hSome, hNext⟩ := hLines next (mem_cons_of_mem _ mem_cons_self)
    have hRest := ih fun other hOther => hLines other (mem_cons_of_mem _ hOther)
    have hText : block (line :: next :: lines) ++ rest = line ++ (13 :: 10 :: (block (next :: lines) ++ rest)) := by
      simp [block, ended, crlf]
    -- Behind the line end stands the first byte of a line, so the pattern does not begin there.
    have hPast : splitFirst (crlf ++ crlf) (13 :: 10 :: (block (next :: lines) ++ rest)) =
        (splitFirst (crlf ++ crlf) (block (next :: lines) ++ rest)).map fun split =>
          (13 :: 10 :: split.1, split.2) := by
      obtain ⟨c, tail, rfl⟩ := exists_cons_of_ne_nil hSome
      have hFirst : c ≠ 13 := fun hSame => hNext (hSame ▸ mem_cons_self)
      have hNot : (crlf ++ crlf).isPrefixOf (13 :: 10 :: (block ((c :: tail) :: lines) ++ rest)) = false := by
        simp [block, ended, crlf, isPrefixOf, Ne.symm hFirst]
      rw [splitFirst, hNot, if_neg nofun]
      refine (congrArg (Option.map _) (splitFirst_cons_ne (by decide) _)).trans ?_
      rw [Option.map_map]
      rfl
    rw [hText, joined_cons]
    refine (splitFirst_append hNone _).trans ?_
    refine (congrArg (Option.map _) hPast).trans ?_
    rw [hRest]
    rfl

lemma splitAll_joined (hLines : ∀ other ∈ line :: lines, 13 ∉ other) {fuel : Nat} (hFuel : lines.length ≤ fuel) :
    splitAll crlf fuel (joined (line :: lines)) = line :: lines := by
  induction lines generalizing line fuel with
  | nil =>
    have hJoined : joined [line] = line := by simp [joined]
    have hNone : splitFirst crlf line = none := splitFirst_eq_none (hLines line mem_cons_self)
    cases fuel with
    | zero => rw [splitAll, hJoined]
    | succ => rw [splitAll, hJoined, hNone]
  | cons next lines ih =>
    obtain ⟨fuel, rfl⟩ := Nat.exists_eq_succ_of_ne_zero (Nat.ne_of_gt (Nat.lt_of_lt_of_le (by simp) hFuel))
    have hRest := ih (fun other hOther => hLines other (mem_cons_of_mem _ hOther)) (Nat.le_of_succ_le_succ hFuel)
    have hSplit : splitFirst crlf (line ++ (crlf ++ joined (next :: lines))) = some (line, joined (next :: lines)) := by
      refine (splitFirst_append (hLines line mem_cons_self) _).trans ?_
      refine (congrArg (Option.map _) (splitFirst_pattern _)).trans ?_
      rw [Option.map_some, append_nil]
    rw [joined_cons, splitAll, hSplit]
    exact congrArg (line :: ·) hRest

lemma length_le_length_joined (line : List UInt8) (lines : List (List UInt8)) :
    lines.length ≤ (joined (line :: lines)).length := by
  induction lines generalizing line with
  | nil => exact Nat.zero_le _
  | cons next lines ih =>
    have hRest := ih next
    rw [joined_cons]
    simp only [length_append, length_cons, crlf, length_nil] at hRest ⊢
    omega

end Patterns

end Sloppy.Lib.Lines

import Mathlib.Data.List.Nodup
import Sloppy.Core.HashIndex
import Sloppy.Lib.Run

/-! # Interned texts

The bounded symbol table of `intern.c`. A symbol is the number of an entry and the generation of its table. What a
table holds is the list of its texts in the order of their symbols.
-/

namespace Sloppy

open Lib List

structure Symbol where
  index : Nat
  generation : Nat
  deriving DecidableEq

structure InternedString where
  symbol : Symbol
  text : List UInt8
  hash : Nat
  deriving DecidableEq

structure InternEntry where
  text : List UInt8
  hash : Nat
  deriving DecidableEq

structure InternTable where
  entries : List InternEntry
  index : HashIndex
  capacity : Nat
  count : Nat
  generation : Nat
  initialized : Bool
  deriving DecidableEq

def InternTable.zero : InternTable := ⟨[], .zero, 0, 0, 0, false⟩

structure Interner where
  table : InternTable
  arena : Arena
  deriving DecidableEq

def symbolIsValid (symbol : Symbol) : Bool := symbol.index != 0 && symbol.generation != 0

def internTableInit (table : InternTable) (capacity bucketCount : Nat) : Action Arena StatusCode InternTable :=
  if capacity = 0 ∨ bucketCount = 0 then Action.fail .invalidArgument
  else if table.initialized then Action.fail .invalidState
  else do
    arenaArrayAlloc capacity 48 8
    let index ← hashIndexInit capacity bucketCount
    pure
      { entries := List.replicate capacity ⟨[], 0⟩
        index := index
        capacity := capacity
        count := 0
        generation := if table.generation ≠ 0 then nextGeneration table.generation else 1
        initialized := true }

def internTableValidate (table : InternTable) : Except StatusCode Unit :=
  if table.initialized = false ∨ table.index.bucketCount = 0 then .error .invalidState else .ok ()

def InternTable.entry (table : InternTable) (index : Nat) : InternEntry := table.entries.getD (index - 1) ⟨[], 0⟩

def internedFromEntry (table : InternTable) (index : Nat) : InternedString :=
  ⟨⟨index, table.generation⟩, (table.entry index).text, (table.entry index).hash⟩

def entryMatches (table : InternTable) (text : List UInt8) (hash index : Nat) : Bool :=
  index != 0 && decide (index ≤ table.count) && (table.entry index).hash == hash && (table.entry index).text == text

/-- Short texts are kept in the entry itself. -/
def strCopyToArena (text : List UInt8) : Action Arena StatusCode (List UInt8) :=
  if text.length ≤ 15 then pure text
  else do
    arenaTake text.length 8
    pure text

section Calls

variable (hash : List UInt8 → Nat)

def internTableFind (table : InternTable) (text : List UInt8) : Except StatusCode InternedString :=
  match internTableValidate table with
  | .error code => .error code
  | .ok () =>
    match hashIndexFind table.index (hash text) (entryMatches table text (hash text)) with
    | .error code => .error code
    | .ok index => .ok (internedFromEntry table index)

def addEntry (table : InternTable) (text : List UInt8) : InternTable × Except StatusCode InternedString :=
  let written := { table with entries := table.entries.set table.count ⟨text, hash text⟩ }
  match hashIndexInsert table.index (hash text) (table.count + 1) with
  | .error code => (written, .error code)
  | .ok index =>
    let added := { written with index := index, count := table.count + 1 }
    (added, .ok (internedFromEntry added (table.count + 1)))

def internTableIntern (s : Interner) (text : List UInt8) : Interner × Except StatusCode InternedString :=
  match internTableFind hash s.table text with
  | .ok existing => (s, .ok existing)
  | .error .outOfRange =>
    if s.table.count ≥ s.table.capacity then (s, .error .capacityExceeded)
    else
      match strCopyToArena text s.arena with
      | (arena, .error code) => ({ s with arena := arena }, .error code)
      | (arena, .ok copied) =>
        match addEntry hash s.table copied with
        | (table, result) => (⟨table, arena⟩, result)
  | .error code => (s, .error code)

def internTableGet (table : InternTable) (symbol : Symbol) : Except StatusCode InternedString :=
  match internTableValidate table with
  | .error code => .error code
  | .ok () =>
    if symbolIsValid symbol = false ∨ symbol.index > table.count then .error .invalidArgument
    else if symbol.generation ≠ table.generation then .error .staleResource
    else .ok (internedFromEntry table symbol.index)

inductive InternCall where
  | intern (text : List UInt8)
  | find (text : List UInt8)
  | get (symbol : Symbol)
  deriving DecidableEq

def internStep (s : Interner) : InternCall → Interner × Except StatusCode InternedString
  | .intern text => internTableIntern hash s text
  | .find text => (s, internTableFind hash s.table text)
  | .get symbol => (s, internTableGet s.table symbol)

end Calls

section Contents

variable {hash : List UInt8 → Nat}

/-- The table holds these texts, in the order of their symbols. -/
structure InternTable.Holds (hash : List UInt8 → Nat) (table : InternTable) (texts : List (List UInt8)) : Prop where
  initialized : table.initialized = true
  generation : table.generation ≠ 0
  index : table.index.Holds (texts.map hash)
  capacity : table.index.capacity = table.capacity
  count : table.count = texts.length
  size : table.entries.length = table.capacity
  entries : ∀ (place : Nat) (text : List UInt8), texts[place]? = some text →
    table.entries[place]? = some ⟨text, hash text⟩
  nodup : texts.Nodup

def internedAs (hash : List UInt8 → Nat) (generation place : Nat) (text : List UInt8) : InternedString :=
  ⟨⟨place + 1, generation⟩, text, hash text⟩

lemma nextGeneration_ne_zero (gen : Nat) : nextGeneration gen ≠ 0 := by
  rw [nextGeneration]
  split
  · exact Nat.one_ne_zero
  · assumption

variable {text : List UInt8}

lemma strCopyToArena_ok {arena after : Arena} {copied : List UInt8}
    (h : strCopyToArena text arena = (after, .ok copied)) : copied = text := by
  rw [strCopyToArena] at h
  split at h
  · exact (Action.pure_ok h).2
  · obtain ⟨mid, value, -, hCopied⟩ := Action.bind_ok h
    exact (Action.pure_ok hCopied).2

lemma internTableInit_holds {initial table : InternTable} {cap bucketCount : Nat} {arena after : Arena}
    (h : internTableInit initial cap bucketCount arena = (after, .ok table)) : table.Holds hash [] := by
  rw [internTableInit] at h
  split at h
  · cases h
  split at h
  · cases h
  obtain ⟨mid, _, -, h⟩ := Action.bind_ok h
  obtain ⟨mid, index, hIndex, h⟩ := Action.bind_ok h
  obtain ⟨hHolds, hCap⟩ := hashIndexInit_ok hIndex
  obtain ⟨-, rfl⟩ := Action.pure_ok h
  refine ⟨rfl, ?_, hHolds, hCap, rfl, length_replicate, ?_, nodup_nil⟩
  · split
    · exact nextGeneration_ne_zero _
    · exact Nat.one_ne_zero
  · intro place text hText
    cases hText

variable {table : InternTable} {texts : List (List UInt8)}

lemma InternTable.Holds.validate (h : table.Holds hash texts) : internTableValidate table = .ok () := by
  rw [internTableValidate, h.initialized, if_neg]
  rintro (hFalse | hZero)
  · cases hFalse
  · exact Nat.ne_of_gt h.index.positive hZero

variable {place : Nat}

lemma InternTable.Holds.entry (h : table.Holds hash texts) (hText : texts[place]? = some text) :
    table.entry (place + 1) = ⟨text, hash text⟩ := by
  rw [InternTable.entry, Nat.add_sub_cancel, getD_eq_getElem?_getD, h.entries place text hText]
  rfl

lemma InternTable.Holds.interned (h : table.Holds hash texts) (hText : texts[place]? = some text) :
    internedFromEntry table (place + 1) = internedAs hash table.generation place text := by
  rw [internedFromEntry, h.entry hText]
  rfl

lemma InternTable.Holds.matches_iff (h : table.Holds hash texts) :
    entryMatches table text (hash text) (place + 1) = true ↔ texts[place]? = some text := by
  simp only [entryMatches, Bool.and_eq_true, bne_iff_ne, ne_eq, decide_eq_true_eq, beq_iff_eq, h.count]
  constructor
  · rintro ⟨⟨⟨-, hRange⟩, -⟩, hText⟩
    obtain ⟨other, hOther⟩ : ∃ other, texts[place]? = some other := ⟨_, getElem?_eq_getElem hRange⟩
    rw [h.entry hOther] at hText
    rw [hOther, ← hText]
  · intro hText
    rw [h.entry hText]
    exact ⟨⟨⟨Nat.succ_ne_zero _, (List.getElem_of_getElem? hText).1⟩, rfl⟩, rfl⟩

lemma mem_chainOf_hash {bucketCount : Nat} (hText : texts[place]? = some text) :
    place + 1 ∈ chainOf bucketCount (texts.map hash) (hash text % bucketCount) := by
  rw [mem_chainOf, length_map, Nat.add_sub_cancel, getD_eq_getElem?_getD, getElem?_map, hText]
  exact ⟨⟨Nat.succ_pos _, (List.getElem_of_getElem? hText).1⟩, rfl⟩

section

variable (h : table.Holds hash texts)
include h

lemma InternTable.Holds.find_mem (hText : texts[place]? = some text) :
    internTableFind hash table text = .ok (internedAs hash table.generation place text) := by
  rw [internTableFind, h.validate]
  rw [hashIndexFind_holds h.index]
  cases hFind : (chainOf table.index.bucketCount (texts.map hash) (hash text % table.index.bucketCount)).find?
      (entryMatches table text (hash text)) with
  | none =>
    have hMiss := find?_eq_none.mp hFind _ (mem_chainOf_hash hText)
    exact absurd (h.matches_iff.mpr hText) hMiss
  | some entry =>
    have hPositive := (mem_chainOf.mp (mem_of_find?_eq_some hFind)).1.1
    have hMatch := find?_some hFind
    obtain ⟨other, rfl⟩ : ∃ other, entry = other + 1 := ⟨entry - 1, by omega⟩
    have hOther := h.matches_iff.mp hMatch
    -- Texts are held once, so the match is the place of the text.
    obtain rfl : other = place := by
      obtain ⟨hLeft, hLeftText⟩ := List.getElem_of_getElem? hOther
      obtain ⟨hRight, hRightText⟩ := List.getElem_of_getElem? hText
      exact (List.Nodup.getElem_inj_iff h.nodup).mp (hLeftText.trans hRightText.symm)
    exact congrArg Except.ok (h.interned hText)

lemma InternTable.Holds.find_not_mem (hText : text ∉ texts) :
    internTableFind hash table text = .error .outOfRange := by
  rw [internTableFind, h.validate]
  rw [hashIndexFind_holds h.index, find?_eq_none.mpr]
  · rfl
  · intro entry hEntry hMatch
    obtain ⟨other, rfl⟩ : ∃ other, entry = other + 1 := ⟨entry - 1, by
      have hPositive := (mem_chainOf.mp hEntry).1.1
      omega⟩
    exact hText (mem_of_getElem? (h.matches_iff.mp hMatch))

lemma InternTable.Holds.find_iff :
    (∃ found, internTableFind hash table text = .ok found) ↔ text ∈ texts := by
  constructor
  · rintro ⟨found, hFound⟩
    by_contra hText
    rw [h.find_not_mem hText] at hFound
    cases hFound
  · intro hText
    obtain ⟨place, hPlace⟩ := getElem?_of_mem hText
    exact ⟨_, h.find_mem hPlace⟩

lemma InternTable.Holds.get (hText : texts[place]? = some text) :
    internTableGet table ⟨place + 1, table.generation⟩ = .ok (internedAs hash table.generation place text) := by
  have hRange := (List.getElem_of_getElem? hText).1
  have hValid : symbolIsValid ⟨place + 1, table.generation⟩ = true := by
    simp [symbolIsValid, h.generation]
  rw [internTableGet, h.validate]
  rw [hValid, h.count, if_neg, if_neg (not_not.mpr rfl), h.interned hText]
  rintro (hFalse | hOver)
  · cases hFalse
  · exact Nat.not_lt.mpr hRange hOver

lemma InternTable.Holds.get_ok {symbol : Symbol} {found : InternedString}
    (hGet : internTableGet table symbol = .ok found) :
    ∃ place text, texts[place]? = some text ∧ found = internedAs hash table.generation place text := by
  rw [internTableGet, h.validate] at hGet
  dsimp only at hGet
  split at hGet
  · cases hGet
  rename_i hSymbol
  rw [not_or, Bool.not_eq_false, h.count] at hSymbol
  split at hGet
  · cases hGet
  have hPositive : symbol.index ≠ 0 := by
    have hValid := hSymbol.1
    rw [symbolIsValid, Bool.and_eq_true, bne_iff_ne] at hValid
    exact hValid.1
  obtain ⟨place, hPlace⟩ : ∃ place, symbol.index = place + 1 := ⟨symbol.index - 1, by omega⟩
  obtain ⟨text, hText⟩ : ∃ text, texts[place]? = some text := ⟨_, getElem?_eq_getElem (by omega)⟩
  cases hGet
  refine ⟨place, _, hText, ?_⟩
  rw [hPlace, h.interned hText]

lemma InternTable.Holds.add (hNew : text ∉ texts)
    (hRoom : table.count < table.capacity) :
    ∃ added, addEntry hash table text = (added, .ok (internedAs hash table.generation texts.length text)) ∧
      added.Holds hash (texts ++ [text]) ∧ added.generation = table.generation ∧
      added.index.bucketCount = table.index.bucketCount := by
  have hLen : (texts.map hash).length = table.count := by rw [length_map, h.count]
  have hSpace : (texts.map hash).length < table.index.capacity := by rw [hLen, h.capacity]; exact hRoom
  have hIndex := h.index.link (hash text) hSpace
  have hInsert := hashIndexInsert_holds h.index (hash text) hSpace
  rw [hLen] at hIndex hInsert
  have hHolds : InternTable.Holds hash
      { table with
        entries := table.entries.set table.count ⟨text, hash text⟩
        index := table.index.link (hash text) (table.count + 1)
        count := table.count + 1 } (texts ++ [text]) := by
    refine ⟨h.initialized, h.generation, ?_, h.capacity, ?_, length_set.trans h.size, ?_, ?_⟩
    · rw [map_append]
      exact hIndex
    · rw [length_append, length_singleton, ← h.count]
    · intro place other hOther
      have hSet : (table.entries.set table.count ⟨text, hash text⟩)[place]? =
          if table.count = place then some ⟨text, hash text⟩ else table.entries[place]? := by
        rw [getElem?_set]
        split
        · rw [if_pos (h.size ▸ hRoom)]
        · rfl
      rw [hSet]
      rw [getElem?_append] at hOther
      split at hOther
      · rw [if_neg (by rw [h.count]; omega)]
        exact h.entries place other hOther
      · obtain ⟨hZero, hLast⟩ := List.getElem_of_getElem? hOther
        rw [length_singleton] at hZero
        rw [if_pos (by rw [h.count]; omega), ← hLast, getElem_singleton]
    · rw [nodup_append]
      refine ⟨h.nodup, nodup_singleton text, ?_⟩
      intro other hOther last hLast hSame
      rw [mem_singleton] at hLast
      exact hNew (hLast ▸ hSame ▸ hOther)
  refine ⟨_, ?_, hHolds, rfl, rfl⟩
  have hLast : (texts ++ [text])[table.count]? = some text := by
    rw [h.count]
    exact getElem?_concat_length
  rw [addEntry, hInsert]
  dsimp only
  rw [hHolds.interned hLast, h.count]

end

variable {s : Interner}

/-- What an intern can do: return the symbol of a text held, fail and leave the table as it is, or add the
text under the next symbol. -/
lemma internTableIntern_cases (h : s.table.Holds hash texts) (text : List UInt8) :
    (∃ place, texts[place]? = some text ∧
      internTableIntern hash s text = (s, .ok (internedAs hash s.table.generation place text))) ∨
    (∃ code arena, internTableIntern hash s text = (⟨s.table, arena⟩, .error code)) ∨
    ∃ table arena, internTableIntern hash s text =
        (⟨table, arena⟩, .ok (internedAs hash s.table.generation texts.length text)) ∧
      table.Holds hash (texts ++ [text]) ∧ table.generation = s.table.generation ∧
      table.index.bucketCount = s.table.index.bucketCount := by
  by_cases hText : text ∈ texts
  · obtain ⟨place, hPlace⟩ := getElem?_of_mem hText
    refine Or.inl ⟨place, hPlace, ?_⟩
    rw [internTableIntern, h.find_mem hPlace]
  · rw [internTableIntern, h.find_not_mem hText]
    refine Or.inr ?_
    dsimp only
    split
    · exact Or.inl ⟨_, s.arena, rfl⟩
    rename_i hRoom
    split
    · exact Or.inl ⟨_, _, rfl⟩
    rename_i arena copied hCopy
    obtain ⟨table, hAdded, hHolds, hGen, hBuckets⟩ := h.add hText (Nat.lt_of_not_le hRoom)
    rw [strCopyToArena_ok hCopy, hAdded]
    exact Or.inr ⟨table, arena, rfl, hHolds, hGen, hBuckets⟩

lemma internTableIntern_failed (h : s.table.Holds hash texts) {code : StatusCode}
    (hFailed : (internTableIntern hash s text).2 = .error code) :
    (internTableIntern hash s text).1.table = s.table := by
  obtain ⟨place, -, hCall⟩ | ⟨other, arena, hCall⟩ | ⟨table, arena, hCall, -⟩ := internTableIntern_cases h text
  · rw [hCall]
  · rw [hCall]
  · rw [hCall] at hFailed
    cases hFailed

end Contents

section Runs

variable {hash : List UInt8 → Nat}

/-- What every run keeps: the table holds exactly the texts interned so far, and each answer given is still
the one the table gives for its symbol. -/
structure InternedSoFar (hash : List UInt8 → Nat) (generation bucketCount : Nat) (texts : List (List UInt8))
    (table : InternTable) (events : List (InternCall × Except StatusCode InternedString)) : Prop where
  holds : table.Holds hash texts
  sameGeneration : table.generation = generation
  buckets : table.index.bucketCount = bucketCount
  answers : ∀ call found, (call, .ok found) ∈ events →
    ∃ place : Nat, texts[place]? = some found.text ∧ found = internedAs hash generation place found.text
  own : ∀ text found, (.intern text, .ok found) ∈ events → found.text = text
  only : ∀ text ∈ texts, ∃ found, (.intern text, .ok found) ∈ events

variable {gen bucketCount : Nat} {texts : List (List UInt8)} {table : InternTable}
  {events : List (InternCall × Except StatusCode InternedString)}

lemma InternedSoFar.keep (h : InternedSoFar hash gen bucketCount texts table events) (call : InternCall)
    (answer : Except StatusCode InternedString)
    (hAnswer : ∀ found, answer = .ok found →
      ∃ place text, texts[place]? = some text ∧ found = internedAs hash gen place text)
    (hOwn : ∀ text found, call = .intern text → answer = .ok found → found.text = text) :
    InternedSoFar hash gen bucketCount texts table ((call, answer) :: events) where
  holds := h.holds
  sameGeneration := h.sameGeneration
  buckets := h.buckets
  answers := by
    intro other found hMem
    rcases mem_cons.mp hMem with hNew | hOld
    · cases hNew
      obtain ⟨place, text, hText, rfl⟩ := hAnswer found rfl
      exact ⟨place, hText, rfl⟩
    · exact h.answers other found hOld
  own := by
    intro text found hMem
    rcases mem_cons.mp hMem with hNew | hOld
    · cases hNew
      exact hOwn text found rfl rfl
    · exact h.own text found hOld
  only := by
    intro text hText
    obtain ⟨found, hFound⟩ := h.only text hText
    exact ⟨found, mem_cons_of_mem _ hFound⟩

lemma InternedSoFar.add (h : InternedSoFar hash gen bucketCount texts table events) {text : List UInt8}
    {added : InternTable} (hHolds : added.Holds hash (texts ++ [text])) (hGen : added.generation = gen)
    (hBuckets : added.index.bucketCount = bucketCount) :
    InternedSoFar hash gen bucketCount (texts ++ [text]) added
      ((.intern text, .ok (internedAs hash gen texts.length text)) :: events) where
  holds := hHolds
  sameGeneration := hGen
  buckets := hBuckets
  answers := by
    intro other found hMem
    rcases mem_cons.mp hMem with hNew | hOld
    · cases hNew
      exact ⟨texts.length, getElem?_concat_length, rfl⟩
    · obtain ⟨place, hText, hFound⟩ := h.answers other found hOld
      refine ⟨place, ?_, hFound⟩
      rw [getElem?_append_left (List.getElem_of_getElem? hText).1, hText]
  own := by
    intro other found hMem
    rcases mem_cons.mp hMem with hNew | hOld
    · cases hNew
      rfl
    · exact h.own other found hOld
  only := by
    intro other hOther
    rcases mem_append.mp hOther with hOld | hNew
    · obtain ⟨found, hFound⟩ := h.only other hOld
      exact ⟨found, mem_cons_of_mem _ hFound⟩
    · rw [mem_singleton.mp hNew]
      exact ⟨_, mem_cons_self⟩

lemma internStep_keeps (s : Interner) (events : List (InternCall × Except StatusCode InternedString))
    (call : InternCall) (h : ∃ texts, InternedSoFar hash gen bucketCount texts s.table events) :
    ∃ texts, InternedSoFar hash gen bucketCount texts (internStep hash s call).1.table
      ((call, (internStep hash s call).2) :: events) := by
  obtain ⟨texts, h⟩ := h
  have hHolds := h.holds
  have hGen := h.sameGeneration
  cases call with
  | intern text =>
    rw [internStep]
    obtain ⟨place, hPlace, hCall⟩ | ⟨code, arena, hCall⟩ | ⟨table, arena, hCall, hAdded, hSame, hBuckets⟩ :=
      internTableIntern_cases hHolds text
    · rw [hCall, hGen]
      refine ⟨texts, h.keep _ _ ?_ ?_⟩
      · rintro found hFound
        cases hFound
        exact ⟨place, text, hPlace, rfl⟩
      · rintro other found hCall hFound
        cases hCall
        cases hFound
        rfl
    · rw [hCall]
      refine ⟨texts, h.keep _ _ ?_ ?_⟩
      · rintro found hFound
        cases hFound
      · rintro other found - hFound
        cases hFound
    · rw [hCall, hGen]
      exact ⟨_, h.add hAdded (hSame.trans hGen) (hBuckets.trans h.buckets)⟩
  | find text =>
    rw [internStep]
    refine ⟨texts, h.keep _ _ ?_ ?_⟩
    · rintro found hFound
      obtain ⟨place, hPlace⟩ := getElem?_of_mem (hHolds.find_iff.mp ⟨found, hFound⟩)
      rw [hHolds.find_mem hPlace] at hFound
      cases hFound
      exact ⟨place, text, hPlace, hGen ▸ rfl⟩
    · rintro other found hCall
      cases hCall
  | get =>
    refine ⟨texts, h.keep _ _ ?_ ?_⟩
    · rintro found hFound
      obtain ⟨place, text, hPlace, rfl⟩ := hHolds.get_ok hFound
      exact ⟨place, text, hPlace, hGen ▸ rfl⟩
    · rintro other found hCall
      cases hCall

lemma internRun_keeps {s : Interner} (h : s.table.Holds hash []) (calls : List InternCall) :
    ∃ texts, InternedSoFar hash s.table.generation s.table.index.bucketCount texts
      (Run.run (internStep hash) s calls).1.table (Run.run (internStep hash) s calls).2 := by
  apply Run.run_invariant (internStep hash) (fun state events => ∃ texts,
      InternedSoFar hash s.table.generation s.table.index.bucketCount texts state.table events)
    internStep_keeps
  refine ⟨[], h, rfl, rfl, ?_, ?_, ?_⟩
  · rintro call found hMem
    cases hMem
  · rintro text found hMem
    cases hMem
  · rintro text hMem
    cases hMem

/-- Interning over a whole run: equal symbols are equal texts, an answer stays the answer for its symbol, the
texts found are the texts interned, a failed intern changes nothing that get or find returns, and the chains
end. -/
theorem intern_run {initial table : InternTable} {capacity bucketCount : Nat} {arena after : Arena}
    (hInit : internTableInit initial capacity bucketCount arena = (after, .ok table)) (calls : List InternCall) :
    let reached := Run.run (internStep hash) ⟨table, after⟩ calls
    (∀ first second found found', (.intern first, .ok found) ∈ reached.2 → (.intern second, .ok found') ∈ reached.2 →
      (found.symbol = found'.symbol ↔ first = second)) ∧
    (∀ call found, (call, .ok found) ∈ reached.2 → internTableGet reached.1.table found.symbol = .ok found) ∧
    (∀ text found, (.intern text, .ok found) ∈ reached.2 → found.text = text) ∧
    (∀ text, (∃ found, internTableFind hash reached.1.table text = .ok found) ↔
      ∃ found, (.intern text, .ok found) ∈ reached.2) ∧
    (∀ text found found', (.intern text, .ok found) ∈ reached.2 →
      internTableFind hash reached.1.table text = .ok found' → found' = found) ∧
    (∀ text code, (internTableIntern hash reached.1 text).2 = .error code →
      (∀ symbol, internTableGet (internTableIntern hash reached.1 text).1.table symbol =
        internTableGet reached.1.table symbol) ∧
      ∀ other, internTableFind hash (internTableIntern hash reached.1 text).1.table other =
        internTableFind hash reached.1.table other) ∧
    ∀ place < reached.1.table.index.bucketCount,
      ∃ path, Path reached.1.table.index.next (reached.1.table.index.bucket place) path := by
  intro reached
  obtain ⟨texts, h⟩ := @internRun_keeps hash ⟨table, after⟩ (internTableInit_holds hInit) calls
  have hAnswer : ∀ text found, (InternCall.intern text, .ok found) ∈ reached.2 →
      ∃ place : Nat, texts[place]? = some text ∧ found = internedAs hash table.generation place text := by
    intro text found hMem
    obtain ⟨place, hText, hFound⟩ := h.answers _ _ hMem
    rw [h.own text found hMem] at hText hFound
    exact ⟨place, hText, hFound⟩
  refine ⟨?_, ?_, h.own, ?_, ?_, ?_, ?_⟩
  · intro first second found found' hFirst hSecond
    obtain ⟨place, hText, rfl⟩ := hAnswer first found hFirst
    obtain ⟨place', hText', rfl⟩ := hAnswer second found' hSecond
    constructor
    · intro hSame
      have hPlace : place = place' := Nat.succ.inj (congrArg Symbol.index hSame)
      rw [hPlace] at hText
      exact Option.some.inj (hText.symm.trans hText')
    · rintro rfl
      have hFind := h.holds.find_mem hText
      rw [h.holds.find_mem hText', h.sameGeneration] at hFind
      exact congrArg InternedString.symbol (Except.ok.inj hFind).symm
  · intro call found hMem
    obtain ⟨place, hText, hFound⟩ := h.answers call found hMem
    rw [hFound]
    have hGet := h.holds.get hText
    rw [h.sameGeneration] at hGet
    exact hGet
  · intro text
    rw [h.holds.find_iff]
    constructor
    · exact h.only text
    · rintro ⟨found, hMem⟩
      obtain ⟨place, hText, -⟩ := hAnswer text found hMem
      exact mem_of_getElem? hText
  · intro text found found' hMem hFind
    obtain ⟨place, hText, rfl⟩ := hAnswer text found hMem
    rw [h.holds.find_mem hText, h.sameGeneration] at hFind
    exact (Except.ok.inj hFind).symm
  · intro text code hFailed
    rw [internTableIntern_failed h.holds hFailed]
    exact ⟨fun _ => rfl, fun _ => rfl⟩
  · intro place hPlace
    exact ⟨_, h.holds.index.chains place hPlace⟩

def internArena : Arena := ⟨4096, 256, 0, 0, 1⟩

theorem intern_run_colliding :
    ∃ table after, internTableInit .zero 2 1 internArena = (after, .ok table) ∧
      let reached := Run.run (internStep fun _ => 7) ⟨table, after⟩
        [.intern [1], .intern [2], .intern [3], .intern [1]]
      (reached.2.map fun event => event.2.toOption.map fun found => found.symbol.index) =
        [some 1, none, some 2, some 1] ∧
      ∀ first second found found', (.intern first, .ok found) ∈ reached.2 →
        (.intern second, .ok found') ∈ reached.2 → (found.symbol = found'.symbol ↔ first = second) := by
  obtain ⟨table, hTable, -⟩ := @exists_ok StatusCode InternTable (internTableInit .zero 2 1 internArena).2
    (fun table => table.count == 0) (by decide +kernel)
  have hInit : internTableInit .zero 2 1 internArena =
      ((internTableInit .zero 2 1 internArena).1, .ok table) := Prod.ext rfl hTable
  refine ⟨table, _, hInit, ?_, (intern_run hInit _).1⟩
  rw [show table = (internTableInit .zero 2 1 internArena).2.toOption.getD .zero by rw [hTable]; rfl]
  decide +kernel

end Runs

end Sloppy

import Mathlib.Data.List.Forall2
import Sloppy.HttpClient.Response

/-! # Reused connections stay in step

What one complete response is, by its framing. A response that gives its connection back is one, and a final one that
nobody asked to close, exactly if the server keeps to a few rules that the client does not check.
-/

namespace Sloppy.HttpClient

open Http (literal Header)
open Lib.Decimal (readDecimal)
open Lib.Lines List

/-! ## Complete responses -/

/-- A response that ends with its head. -/
def Bodiless (method : String) (status : Nat) : Prop :=
  method = "HEAD" ∨ 100 ≤ status ∧ status ≤ 199 ∨ status = 204 ∨ status = 304

def Blanks (text : List UInt8) : Prop := ∀ b ∈ text, isWhiteSpace b = true

/-- A hexadecimal number between blanks, and an extension behind a semicolon. -/
def SizeLine (line : List UInt8) (size : Nat) : Prop :=
  ∃ before number after extension digits, line = before ++ (number ++ after) ++ extension ∧
    Blanks before ∧ Blanks after ∧ (extension = [] ∨ extension.head? = some ';'.toUInt8) ∧
    number.map Percent.hexValue = digits.map some ∧ digits ≠ [] ∧ size = Nat.ofDigits 16 digits.reverse

def Trailer (rest : List UInt8) : Prop :=
  rest = crlf ∨ rest.take 2 ≠ crlf ∧ ∃ front, splitFirst (crlf ++ crlf) rest = some (front, [])

inductive ChunkedBody : List UInt8 → Prop where
  | last {line rest : List UInt8} (hLine : splitLine line = none) (hSize : SizeLine line 0)
      (hRest : Trailer rest) : ChunkedBody (ended line ++ rest)
  | chunk {line data rest : List UInt8} (hLine : splitLine line = none) (hData : data ≠ [])
      (hSize : SizeLine line data.length) (hRest : ChunkedBody rest) :
      ChunkedBody (ended line ++ (data ++ (crlf ++ rest)))

def Head.values (head : Head) (name : List UInt8) : List (List UInt8) :=
  (head.headers.filter fun header => toLowerCase header.name == name).map Header.value

def Head.lengths (head : Head) : List Nat := (head.values contentLengthName).map readDecimal

def Head.codings (head : Head) : List (List UInt8) := (head.values transferEncodingName).map toLowerCase

def Head.options (head : Head) : List (List UInt8) := (head.values connectionName).map toLowerCase

/-- The bytes behind the head are the body of the response, whole and nothing else. -/
inductive Complete (method : String) (head : Head) : List UInt8 → Prop where
  | bodiless (hBodiless : Bodiless method head.line.status) : Complete method head []
  | chunked {body : List UInt8} (hAllowed : ¬Bodiless method head.line.status)
      (hCoding : head.codings.getLast? = some (literal "chunked")) (hBody : ChunkedBody body) :
      Complete method head body
  | measured {body : List UInt8} (hAllowed : ¬Bodiless method head.line.status)
      (hCodings : ∀ coding ∈ head.codings, coding = literal "identity") (hSome : head.lengths ≠ [])
      (hLengths : ∀ length ∈ head.lengths, body.length = length) : Complete method head body

def AsksToClose (option : List UInt8) : Prop := httpConnectionHeaderHas option (literal "close") = true

/-- Of several lines for one of these fields the client keeps the last. -/
structure Head.Last (head : Head) : Prop where
  length : head.contentLength = head.lengths.getLast?
  coding : head.transferEncoding = head.codings.getLast?
  option : head.connection = head.options.getLast?.getD []

/-- A name, a colon, blanks and a value. -/
def Field (line : List UInt8) (header : Header) : Prop :=
  ∃ blanks, line = header.name ++ (':'.toUInt8 :: (blanks ++ header.value)) ∧ header.name ≠ [] ∧
    ':'.toUInt8 ∉ header.name ∧ Blanks blanks ∧ ∀ b ∈ header.value.head?, isWhiteSpace b = false

/-- A status line and a line for each field; the empty lines are those that end the head. -/
structure Head.Spelt (head : Head) (text : List UInt8) : Prop where
  lines : ∃ status fields, splitAll crlf text.length text = status :: fields ∧
    matchStatusLine status = some head.line ∧ Forall₂ Field (fields.filter (· ≠ [])) head.headers
  last : head.Last

def Exchange.Opens (exchange : Exchange) (head : Head) (body : List UInt8) : Prop :=
  ∃ headerEnd, findHttpHeaderEnd exchange.received = some headerEnd ∧
    head.Spelt (exchange.received.take headerEnd) ∧ body = exchange.received.drop headerEnd

/-- The bytes read are one complete final response, and no Connection line of it asked to close. -/
def Exchange.Exact (exchange : Exchange) : Prop :=
  ∃ head body, exchange.Opens head body ∧ isInterim head.line.status = false ∧
    Complete exchange.limits.method head body ∧ ∀ option ∈ head.options, ¬AsksToClose option

/-- What the server has to keep to. -/
structure Head.Plain (head : Head) (method : String) (body : List UInt8) : Prop where
  /-- no interim response comes first -/
  final : isInterim head.line.status = false
  /-- nothing was sent behind the end of the response when it was read -/
  ends : ∀ part more, body = part ++ more → Complete method head part → more = []
  /-- codings are not followed by `identity`, and lengths not contradicted -/
  codings : ¬Bodiless method head.line.status → head.codings.getLast? = some (literal "identity") →
    ∀ coding ∈ head.codings, coding = literal "identity"
  lengths : ¬Bodiless method head.line.status → head.codings.getLast? ≠ some (literal "chunked") →
    ∀ length ∈ head.lengths, head.lengths.getLast? = some length
  /-- a line that asks to close is the last Connection line, and the version is 1.1 -/
  options : ∀ option ∈ head.options, AsksToClose option → head.line.minor = 1 ∧ option ∉ head.options.dropLast

def Exchange.Plain (exchange : Exchange) : Prop :=
  ∃ head body, exchange.Opens head body ∧ head.Plain exchange.limits.method body

/-! ## Lines of sizes and fields -/

lemma bodyForbidden_iff {method : String} {status : Nat} :
    bodyForbidden method status = true ↔ Bodiless method status := by
  simp only [bodyForbidden, isHttpBodyForbiddenStatus, isInterim, Bodiless, Bool.or_eq_true, Bool.and_eq_true,
    decide_eq_true_eq, beq_iff_eq, or_assoc]

lemma blanks_takeWhile (text : List UInt8) : Blanks (text.takeWhile isWhiteSpace) := fun _ => mem_takeWhile_imp

lemma trim_surrounded (text : List UInt8) :
    ∃ before after, text = before ++ (trim text ++ after) ∧ Blanks before ∧ Blanks after := by
  refine ⟨text.takeWhile isWhiteSpace, ((trimStart text).reverse.takeWhile isWhiteSpace).reverse, ?_,
    blanks_takeWhile text, fun b hb => blanks_takeWhile _ b (mem_reverse.mp hb)⟩
  rw [trim, ← reverse_append, takeWhile_append_dropWhile, reverse_reverse, trimStart, takeWhile_append_dropWhile]

lemma trim_eq {before number after : List UInt8} (hBefore : Blanks before) (hAfter : Blanks after)
    (hNumber : ∀ b ∈ number, isWhiteSpace b = false) (hSome : number ≠ []) :
    trim (before ++ (number ++ after)) = number := by
  have hStart {text more : List UInt8} (hText : ∀ b ∈ text, isWhiteSpace b = false) (hSome : text ≠ []) :
      (text ++ more).dropWhile isWhiteSpace = text ++ more := by
    obtain ⟨first, text, rfl⟩ := exists_cons_of_ne_nil hSome
    rw [cons_append, dropWhile_cons_of_neg (by simp [hText first mem_cons_self])]
  rw [trim, trimStart, dropWhile_append_of_pos hBefore, hStart hNumber hSome, reverse_append,
    dropWhile_append_of_pos (fun b hb => hAfter b (mem_reverse.mp hb)), ← append_nil number.reverse,
    hStart (fun b hb => hNumber b (mem_reverse.mp hb)) (reverse_ne_nil_iff.mpr hSome), append_nil, reverse_reverse]

lemma mapM_hexValue {number : List UInt8} {digits : List Nat} :
    number.mapM Percent.hexValue = some digits ↔ number.map Percent.hexValue = digits.map some := by
  induction number generalizing digits with
  | nil => cases digits <;> simp
  | cons b number ih =>
    cases digits with
    | nil => simp [Option.bind_eq_some_iff]
    | cons digit digits => simp [Option.bind_eq_some_iff, ih]

lemma not_isWhiteSpace_of_hexValue {b : UInt8} {digit : Nat} (h : Percent.hexValue b = some digit) :
    isWhiteSpace b = false ∧ b ≠ ';'.toUInt8 := by
  have hRange : (48 ≤ b.toNat ∧ b.toNat ≤ 57) ∨ (65 ≤ b.toNat ∧ b.toNat ≤ 70) ∨ 97 ≤ b.toNat ∧ b.toNat ≤ 102 := by
    rw [Percent.hexValue] at h
    split at h
    next hDigit => exact .inl hDigit
    split at h
    next hUpper => exact .inr (.inl hUpper)
    split at h
    next hLower => exact .inr (.inr hLower)
    cases h
  constructor
  · simp only [isWhiteSpace, Bool.or_eq_false_iff, Bool.and_eq_false_iff, decide_eq_false_iff_not, beq_eq_false_iff_ne,
      UInt8.le_iff_toNat_le, ne_eq, ← UInt8.toNat_inj, UInt8.reduceToNat]
    omega
  · rintro rfl
    revert hRange
    decide

lemma chunkSize_eq_some {line : List UInt8} {size : Nat} : chunkSize line = some size ↔ SizeLine line size := by
  have hDigits (digits : List Nat) :
      digits.foldl (fun value digit => value * 16 + digit) 0 = Nat.ofDigits 16 digits.reverse := by
    rw [Nat.ofDigits_eq_foldr, foldr_reverse]
    simp only [Nat.cast_id, Nat.mul_comm, Nat.add_comm]
  constructor
  · intro h
    obtain ⟨digits, hNumber, hSize⟩ := Option.bind_eq_some_iff.mp h
    split at hSize
    · cases hSize
    rename_i hSome
    cases hSize
    obtain ⟨before, after, hFront, hBefore, hAfter⟩ := trim_surrounded (line.takeWhile (· != ';'.toUInt8))
    refine ⟨before, _, after, line.dropWhile (· != ';'.toUInt8), digits, ?_, hBefore, hAfter, ?_,
      mapM_hexValue.mp hNumber,
      hSome, hDigits digits⟩
    · rw [← hFront, takeWhile_append_dropWhile]
    · have hNext := head?_dropWhile_not (· != ';'.toUInt8) line
      cases hRest : line.dropWhile (· != ';'.toUInt8) with
      | nil => exact .inl rfl
      | cons next =>
        rw [hRest] at hNext
        exact .inr (congrArg some (bne_eq_false_iff_eq.mp hNext))
  · rintro ⟨before, number, after, extension, digits, rfl, hBefore, hAfter, hExtension, hNumber, hSome, rfl⟩
    have hHex : ∀ b ∈ number, isWhiteSpace b = false ∧ b ≠ ';'.toUInt8 := by
      intro b hb
      have hValue := mem_map_of_mem hb (f := Percent.hexValue)
      rw [hNumber] at hValue
      obtain ⟨digit, -, hDigit⟩ := mem_map.mp hValue
      exact not_isWhiteSpace_of_hexValue hDigit.symm
    have hFront : (before ++ (number ++ after) ++ extension).takeWhile (· != ';'.toUInt8) =
        before ++ (number ++ after) := by
      have hBlank {text : List UInt8} (hText : Blanks text) : ∀ b ∈ text, b ≠ ';'.toUInt8 := by
        rintro b hb rfl
        cases hText _ hb
      rw [takeWhile_append_of_pos]
      · rcases hExtension with rfl | hHead
        · rw [takeWhile_nil, append_nil]
        · obtain ⟨rest, rfl⟩ := head?_eq_some_iff.mp hHead
          rw [takeWhile_cons_of_neg (by decide), append_nil]
      · simp only [mem_append, bne_iff_ne]
        rintro b (hb | hb | hb)
        · exact hBlank hBefore b hb
        · exact (hHex b hb).2
        · exact hBlank hAfter b hb
    have hNe : number ≠ [] := by
      rintro rfl
      exact hSome (map_eq_nil_iff.mp hNumber.symm)
    rw [chunkSize, hFront, trim_eq hBefore hAfter (fun b hb => (hHex b hb).1) hNe, mapM_hexValue.mpr hNumber,
      Option.bind_some, if_neg hSome, hDigits]

lemma SizeLine.unique {line : List UInt8} {size other : Nat} (h : SizeLine line size) (hOther : SizeLine line other) :
    size = other :=
  Option.some.inj ((chunkSize_eq_some.mpr h).symm.trans (chunkSize_eq_some.mpr hOther))

lemma field_iff {line name value : List UInt8} : Field line ⟨name, value⟩ ↔
    name ≠ [] ∧ ':'.toUInt8 ∈ line ∧ name = line.takeWhile (· != ':'.toUInt8) ∧
      value = trimStart (line.drop (name.length + 1)) := by
  constructor
  · rintro ⟨blanks, rfl, hName, hColon, hBlanks, hValue⟩
    refine ⟨hName, by simp, ?_, ?_⟩
    · rw [takeWhile_append_of_pos, takeWhile_cons_of_neg (by simp), append_nil]
      exact fun b hb => bne_iff_ne.mpr (ne_of_mem_of_not_mem hb hColon)
    · rw [← singleton_append, ← append_assoc, drop_left' (by simp), trimStart, dropWhile_append_of_pos hBlanks]
      cases value with
      | nil => rfl
      | cons b => rw [dropWhile_cons_of_neg (by simp [hValue b rfl])]
  · rintro ⟨hName, hColon, hFront, rfl⟩
    have hLine := takeWhile_append_dropWhile (p := (· != ':'.toUInt8)) (l := line)
    have hNext := head?_dropWhile_not (· != ':'.toUInt8) line
    have hFree : ':'.toUInt8 ∉ name := by
      intro hMem
      rw [hFront] at hMem
      exact absurd (mem_takeWhile_imp hMem) (by decide)
    rw [← hFront] at hLine
    cases hRest : line.dropWhile (· != ':'.toUInt8) with
    | nil => exact absurd (dropWhile_eq_nil_iff.mp hRest _ hColon) (by decide)
    | cons colon rest =>
      rw [hRest] at hNext hLine
      cases bne_eq_false_iff_eq.mp hNext
      have hDrop : line.drop (name.length + 1) = rest := by
        rw [← hLine, ← singleton_append, ← append_assoc, drop_left' (by simp)]
      have hStart := head?_dropWhile_not isWhiteSpace rest
      rw [hDrop, trimStart]
      refine ⟨rest.takeWhile isWhiteSpace, ?_, hName, hFree, blanks_takeWhile rest, fun b hb => ?_⟩
      · rw [takeWhile_append_dropWhile, hLine]
      · rwa [Option.mem_def.mp hb] at hStart

lemma Field.unique : Relator.RightUnique Field := by
  rintro line ⟨name, value⟩ ⟨other, rest⟩ h hOther
  obtain ⟨-, -, rfl, rfl⟩ := field_iff.mp h
  obtain ⟨-, -, rfl, rfl⟩ := field_iff.mp hOther
  rfl

lemma Head.Spelt.unique {head other : Head} {text : List UInt8} (h : head.Spelt text) (hOther : other.Spelt text) :
    other = head := by
  obtain ⟨status, fields, hLines, hStatus, hFields⟩ := h.lines
  obtain ⟨_, _, hSame, hOtherStatus, hOtherFields⟩ := hOther.lines
  cases hLines.symm.trans hSame
  have hLine : other.line = head.line := Option.some.inj (hOtherStatus.symm.trans hStatus)
  have hHeaders : other.headers = head.headers := Field.unique.forall₂ hOtherFields hFields
  have hValues : other.values = head.values := by
    funext name
    rw [Head.values, Head.values, hHeaders]
  obtain ⟨hLength, hCoding, hOption⟩ := h.last
  obtain ⟨hOtherLength, hOtherCoding, hOtherOption⟩ := hOther.last
  rw [Head.lengths, hValues, ← Head.lengths, ← hLength] at hOtherLength
  rw [Head.codings, hValues, ← Head.codings, ← hCoding] at hOtherCoding
  rw [Head.options, hValues, ← Head.options, ← hOption] at hOtherOption
  cases other
  cases head
  congr

/-! ## A complete body ends where it ends -/

variable {more part : List UInt8}

lemma Trailer.ends (h : Trailer part) (hAll : Trailer (part ++ more)) : more = [] := by
  rcases h with rfl | ⟨-, front, hSplit⟩
  · rcases hAll with hAll | ⟨hNot, -⟩
    · exact append_right_eq_self.mp hAll
    · exact absurd rfl hNot
  · have hMoved := splitFirst_append_right hSplit more
    rcases hAll with hAll | ⟨-, other, hOther⟩
    · rw [hAll] at hMoved
      cases hMoved
    · rw [hMoved] at hOther
      cases hOther
      rfl

variable {rest : List UInt8}

lemma ChunkedBody.cut {line : List UInt8} (h : ChunkedBody (ended line ++ rest)) (hLine : splitLine line = none) :
    (SizeLine line 0 ∧ Trailer rest) ∨
      ∃ data tail, data ≠ [] ∧ SizeLine line data.length ∧ rest = data ++ (crlf ++ tail) ∧ ChunkedBody tail := by
  generalize hText : ended line ++ rest = text at h
  have hSplit := splitLine_ended hLine rest
  cases h with
  | last hOther hSize hRest =>
    rw [hText, splitLine_ended hOther] at hSplit
    cases hSplit
    exact .inl ⟨hSize, hRest⟩
  | chunk hOther hData hSize hRest =>
    rw [hText, splitLine_ended hOther] at hSplit
    cases hSplit
    exact .inr ⟨_, _, hData, hSize, rfl, hRest⟩

lemma ChunkedBody.ends (h : ChunkedBody part) (hAll : ChunkedBody (part ++ more)) : more = [] := by
  induction h with
  | last hLine hSize hRest =>
    rw [append_assoc] at hAll
    rcases hAll.cut hLine with ⟨-, hTrailer⟩ | ⟨data, tail, hData, hOther, -⟩
    · exact hRest.ends hTrailer
    · exact absurd (length_eq_zero_iff.mp (hOther.unique hSize)) hData
  | chunk hLine hData hSize hRest ih =>
    rw [append_assoc] at hAll
    rcases hAll.cut hLine with ⟨hOther, -⟩ | ⟨data, tail, -, hOther, hText, hTail⟩
    · exact absurd (length_eq_zero_iff.mp (hSize.unique hOther)) hData
    rw [append_assoc, append_assoc] at hText
    obtain ⟨-, hText⟩ := append_inj hText (hSize.unique hOther)
    rw [append_cancel_left_eq] at hText
    rw [← hText] at hTail
    exact ih hTail

variable {head : Head} {method : String}

lemma Complete.ends (h : Complete method head part) (hAll : Complete method head (part ++ more)) : more = [] := by
  have hApart (hCoding : head.codings.getLast? = some (literal "chunked"))
      (hCodings : ∀ coding ∈ head.codings, coding = literal "identity") : False :=
    absurd (hCodings _ (mem_of_getLast? hCoding)) (by decide)
  generalize hBody : part ++ more = body at hAll
  cases hAll with
  | bodiless => exact (append_eq_nil_iff.mp hBody).2
  | chunked hAllowed hCoding hChunked =>
    cases h with
    | bodiless hBodiless => exact absurd hBodiless hAllowed
    | chunked _ _ hPart => exact hPart.ends (hBody ▸ hChunked)
    | measured _ hCodings => exact (hApart hCoding hCodings).elim
  | measured hAllowed hCodings hSome hLengths =>
    cases h with
    | bodiless hBodiless => exact absurd hBodiless hAllowed
    | chunked _ hCoding => exact (hApart hCoding hCodings).elim
    | measured _ _ _ hPart =>
      obtain ⟨length, hLen⟩ := exists_mem_of_ne_nil _ hSome
      have hTotal := (hLengths length hLen).trans (hPart length hLen).symm
      rw [← hBody, length_append, Nat.add_eq_left] at hTotal
      exact length_eq_zero_iff.mp hTotal

/-! ## What the client reads -/

lemma trailer_of_headerEnd {headerEnd : Nat} (hNot : rest.take 2 ≠ crlf) (h : findHttpHeaderEnd rest = some headerEnd) :
    ∃ trailer more, rest = trailer ++ more ∧ Trailer trailer := by
  obtain ⟨⟨front, more⟩, hFound, -⟩ := Option.map_eq_some_iff.mp h
  have hRest := splitFirst_eq_some hFound
  rw [← append_assoc] at hRest
  refine ⟨front ++ (crlf ++ crlf), more, hRest, .inr ⟨?_, front, splitFirst_cut hFound⟩⟩
  rwa [hRest, take_append_of_le_length (by simp [crlf])] at hNot

variable {complete : Bool} {maxResponseBytes : Nat} {fuel : Nat}

lemma parseChunks_sound {bytes decoded result : List UInt8}
    (h : parseChunks maxResponseBytes complete fuel bytes decoded = .ok (some result)) :
    ∃ part more, bytes = part ++ more ∧ ChunkedBody part := by
  have hIncomplete (msg : String) : incompleteHttpChunk complete msg ≠ .ok (some result) := by
    rw [incompleteHttpChunk]
    split
    · rintro ⟨⟩
    · rintro ⟨⟩
  induction fuel generalizing bytes decoded with
  | zero => cases h
  | succ fuel ih =>
    rw [parseChunks] at h
    split at h
    · exact absurd h (hIncomplete _)
    rename_i line rest hSplit
    obtain ⟨rfl, hLine⟩ := splitLine_eq_some hSplit
    split at h
    · cases h
    rename_i size hSize
    split at h
    · cases h
    split at h
    next hZero =>
      rw [hZero] at hSize
      have hLast {trailer more : List UInt8} (hRest : rest = trailer ++ more) (hTrailer : Trailer trailer) :
          ∃ part more, ended line ++ rest = part ++ more ∧ ChunkedBody part :=
        ⟨ended line ++ trailer, more, by rw [hRest, append_assoc], .last hLine (chunkSize_eq_some.mp hSize) hTrailer⟩
      split at h
      · exact absurd h (hIncomplete _)
      split at h
      next hEmpty =>
        exact hLast (take_append_drop 2 rest).symm (.inl hEmpty)
      rename_i hNot
      split at h
      · exact absurd h (hIncomplete _)
      next hEnd =>
        obtain ⟨trailer, more, hRest, hTrailer⟩ := trailer_of_headerEnd hNot hEnd
        exact hLast hRest hTrailer
    · split at h
      · cases h
      split at h
      · exact absurd h (hIncomplete _)
      split at h
      · cases h
      rename_i hEnd
      obtain ⟨part, more, hPart, hChunked⟩ := ih h
      have hData : (rest.take size).length = size := length_take_of_le (by omega)
      have hRest : rest = rest.take size ++ (crlf ++ (part ++ more)) := by
        rw [← hPart, ← not_not.mp hEnd, ← drop_drop, take_append_drop, take_append_drop]
      refine ⟨ended line ++ (rest.take size ++ (crlf ++ part)), more, ?_, .chunk hLine ?_ ?_ hChunked⟩
      · rw [append_assoc, append_assoc, append_assoc, ← hRest]
      · exact ne_nil_of_length_pos (by omega)
      · rw [hData]
        exact chunkSize_eq_some.mp hSize

lemma values_add (head : Head) (name value other : List UInt8) :
    (head.add name value).values other = head.values other ++ if toLowerCase name = other then [value] else [] := by
  rw [Head.values, Head.add, filter_append, map_append, Head.values]
  by_cases hNamed : toLowerCase name = other <;> simp [hNamed]

lemma Head.Last.add (h : head.Last) (name value : List UInt8) : (head.add name value).Last := by
  constructor
  · rw [Head.lengths, values_add, map_append]
    by_cases hNamed : toLowerCase name = contentLengthName
    · simp [Head.add, hNamed]
    · simp [Head.add, hNamed, h.length, Head.lengths]
  · rw [Head.codings, values_add, map_append]
    by_cases hNamed : toLowerCase name = transferEncodingName
    · simp [Head.add, hNamed]
    · simp [Head.add, hNamed, h.coding, Head.codings]
  · rw [Head.options, values_add, map_append]
    by_cases hNamed : toLowerCase name = connectionName
    · simp [Head.add, hNamed]
    · simp [Head.add, hNamed, h.option, Head.options]

lemma readHeaderLines_spelt {after : Head} {lines : List (List UInt8)} (h : head.Last)
    (hRead : readHeaderLines head lines = .ok after) : after.Last ∧ after.line = head.line ∧
      ∃ headers, after.headers = head.headers ++ headers ∧ Forall₂ Field (lines.filter (· ≠ [])) headers := by
  induction lines generalizing head with
  | nil =>
    cases hRead
    exact ⟨h, rfl, [], (append_nil _).symm, .nil⟩
  | cons line lines ih =>
    rw [readHeaderLines] at hRead
    split at hRead
    · cases hRead
    rename_i hNext
    rw [readHeaderLine] at hNext
    split at hNext
    next hEmpty =>
      cases hNext
      rw [filter_cons_of_neg (by simp [hEmpty])]
      exact ih h hRead
    rename_i hSome
    dsimp only at hNext
    split at hNext
    · cases hNext
    rename_i hNamed
    split at hNext
    · cases hNext
    · cases hNext
      obtain ⟨hLast, hLine, headers, hHeaders, hFields⟩ := ih (h.add _ _) hRead
      rw [not_or, not_not] at hNamed
      refine ⟨hLast, hLine, _ :: headers, hHeaders.trans (append_assoc _ [_] _), ?_⟩
      rw [filter_cons_of_pos (by simp [hSome])]
      exact .cons (field_iff.mpr ⟨hNamed.1, hNamed.2, rfl, rfl⟩) hFields

variable {headBytes : List UInt8}

lemma parseHead_spelt (h : parseHead headBytes = .ok head) : head.Spelt headBytes := by
  rw [parseHead] at h
  cases hLines : splitAll crlf headBytes.length headBytes with
  | nil =>
    rw [hLines] at h
    cases h
  | cons status fields =>
    rw [hLines] at h
    dsimp only [headD_cons, tail_cons] at h
    split at h
    · cases h
    next hStatus =>
      obtain ⟨hLast, hLine, headers, hHeaders, hFields⟩ := readHeaderLines_spelt ⟨rfl, rfl, rfl⟩ h
      rw [nil_append] at hHeaders
      rw [← hHeaders] at hFields
      exact ⟨⟨status, fields, hLines, hStatus.trans (congrArg some hLine.symm), hFields⟩, hLast⟩

structure Framed (method : String) (head : Head) (body : List UInt8) : Prop where
  alive : head.connectionReusable = true
  body : (Bodiless method head.line.status ∧ body = []) ∨ ¬Bodiless method head.line.status ∧
      ((head.transferEncoding = some (literal "chunked") ∧ ∃ part more, body = part ++ more ∧ ChunkedBody part) ∨
        (head.transferEncoding = none ∨ head.transferEncoding = some (literal "identity")) ∧
          ∃ length, head.contentLength = some length ∧ length ≤ body.length)

variable {body : List UInt8} {resp : ClientResponse}

lemma frameResponse_reusable (h : frameResponse head body maxResponseBytes complete method = .ok (some resp))
    (hReusable : resp.connectionReusable = true) : complete = false ∧ Framed method head body := by
  rw [frameResponse] at h
  split at h
  next hForbidden =>
    cases h
    simp only [Head.respond, Bool.and_eq_true, Bool.not_eq_true', List.isEmpty_iff] at hReusable
    obtain ⟨⟨⟨hOpen, hAlive⟩, -⟩, hEmpty⟩ := hReusable
    exact ⟨hOpen, hAlive, .inl ⟨bodyForbidden_iff.mp hForbidden, hEmpty⟩⟩
  next hAllowed =>
    rw [bodyForbidden_iff] at hAllowed
    split at h
    next hCoding =>
      split at h
      · cases h
      · cases h
      next hParsed =>
        cases h
        simp only [Head.respond, Bool.and_eq_true, Bool.not_eq_true'] at hReusable
        exact ⟨hReusable.1, hReusable.2, .inr ⟨hAllowed, .inl ⟨hCoding, parseChunks_sound hParsed⟩⟩⟩
    · split at h
      · cases h
      rename_i hCoding
      split at h
      next length hLen =>
        split at h
        · cases h
        split at h
        · split at h <;> cases h
        rename_i hLong
        cases h
        simp only [Head.respond, Bool.and_eq_true, Bool.not_eq_true'] at hReusable
        refine ⟨hReusable.1, hReusable.2, .inr ⟨hAllowed, .inr ⟨?_, length, hLen, Nat.le_of_not_lt hLong⟩⟩⟩
        rwa [not_and_or, not_not, not_not] at hCoding
      · split at h
        · cases h
        split at h
        · cases h
          cases hReusable
        · cases h

lemma parseHttpResponse_reusable
    (h : parseHttpResponse headBytes body maxResponseBytes complete method = .ok (some resp))
    (hReusable : resp.connectionReusable = true) :
    complete = false ∧ ∃ head, parseHead headBytes = .ok head ∧ Framed method head body := by
  rw [parseHttpResponse] at h
  split at h
  · cases h
  next head hHead =>
    obtain ⟨hOpen, hFramed⟩ := frameResponse_reusable h hReusable
    exact ⟨hOpen, head, hHead, hFramed⟩

def sent (reads : List Read) : List UInt8 :=
  reads.flatMap fun
    | .chunk bytes => bytes
    | .failed => []

variable {limits : Limits} {reads : List Read}

lemma readHttpResponse_returned {received all : List UInt8} {headerEnd : Option Nat} {rest : List Read}
    (h : readHttpResponse limits received headerEnd reads = .returned resp all rest) :
    (∃ consumed, all = received ++ consumed ∧ sent reads = consumed ++ sent rest) ∧
      (resp.connectionReusable = true → ∃ headerEnd head, findHttpHeaderEnd all = some headerEnd ∧
        parseHead (all.take headerEnd) = .ok head ∧ Framed limits.method head (all.drop headerEnd)) := by
  induction reads generalizing received headerEnd with
  | nil => cases h
  | cons read reads ih =>
    cases read with
    | failed =>
      cases headerEnd with
      | none => cases h
      | some =>
        rw [readHttpResponse] at h
        split at h
        · cases h
        · cases h
        next hParsed =>
          cases h
          refine ⟨⟨[], (append_nil _).symm, rfl⟩, fun hReusable => ?_⟩
          cases (parseHttpResponse_reusable hParsed hReusable).1
    | chunk bytes =>
      have hSent : sent (.chunk bytes :: reads) = bytes ++ sent reads := rfl
      have hContinue {next : Option Nat}
          (hRest : readHttpResponse limits (received ++ bytes) next reads = .returned resp all rest) :
          (∃ consumed, all = received ++ consumed ∧ sent (.chunk bytes :: reads) = consumed ++ sent rest) ∧
            (resp.connectionReusable = true → ∃ headerEnd head, findHttpHeaderEnd all = some headerEnd ∧
              parseHead (all.take headerEnd) = .ok head ∧ Framed limits.method head (all.drop headerEnd)) := by
        obtain ⟨⟨consumed, rfl, hConsumed⟩, hRead⟩ := ih hRest
        refine ⟨⟨bytes ++ consumed, append_assoc .., ?_⟩, hRead⟩
        rw [hSent, hConsumed, append_assoc]
      rw [readHttpResponse] at h
      split at h
      · cases h
      split at h
      · split at h
        · cases h
        · exact hContinue h
      next last hEnd =>
        split at h
        · cases h
        split at h
        · cases h
        · exact hContinue h
        next hParsed =>
          cases h
          refine ⟨⟨bytes, rfl, hSent⟩, fun hReusable => ?_⟩
          obtain ⟨-, head, hHead, hFramed⟩ := parseHttpResponse_reusable hParsed hReusable
          exact ⟨last, head, hEnd, hHead, hFramed⟩

lemma Framed.exact_iff (h : Framed method head body) (hLast : head.Last) :
    (isInterim head.line.status = false ∧ Complete method head body ∧ ∀ option ∈ head.options, ¬AsksToClose option) ↔
      head.Plain method body := by
  constructor
  · rintro ⟨hFinal, hComplete, hOpts⟩
    refine ⟨hFinal, ?_, ?_, ?_, fun option hOption hAsks => absurd hAsks (hOpts option hOption)⟩
    · rintro part more rfl hPart
      exact hPart.ends hComplete
    · intro hAllowed hIdentity
      cases hComplete with
      | bodiless hBodiless => exact absurd hBodiless hAllowed
      | chunked _ hCoding => exact absurd (hCoding.symm.trans hIdentity) (by decide)
      | measured _ hCodings => exact hCodings
    · intro hAllowed hOther
      cases hComplete with
      | bodiless hBodiless => exact absurd hBodiless hAllowed
      | chunked _ hCoding => exact absurd hCoding hOther
      | measured _ _ _ hLengths =>
        intro length hLen
        obtain ⟨last, hLast⟩ := getLast?_isSome.mpr (ne_nil_of_mem hLen) |> Option.isSome_iff_exists.mp
        rw [hLast, ← hLengths length hLen, ← hLengths last (mem_of_getLast? hLast)]
  · intro hPlain
    refine ⟨hPlain.final, ?_, ?_⟩
    · have hWhole {part more : List UInt8} (hBody : body = part ++ more) (hPart : Complete method head part) :
          Complete method head body := by
        rw [hPlain.ends part more hBody hPart, append_nil] at hBody
        rw [hBody]
        exact hPart
      rcases h.body with
        ⟨hBodiless, rfl⟩ | ⟨hAllowed, ⟨hCoding, part, more, hBody, hPart⟩ | ⟨hCoding, length, hLen, hLong⟩⟩
      · exact .bodiless hBodiless
      · rw [hLast.coding] at hCoding
        exact hWhole hBody (.chunked hAllowed hCoding hPart)
      · rw [hLast.coding] at hCoding
        rw [hLast.length] at hLen
        refine hWhole (take_append_drop length body).symm (.measured hAllowed ?_ ?_ ?_)
        · rcases hCoding with hNone | hIdentity
          · rw [getLast?_eq_none_iff.mp hNone]
            exact forall_mem_nil _
          · exact hPlain.codings hAllowed hIdentity
        · rintro hNone
          rw [hNone] at hLen
          cases hLen
        · intro other hOther
          have hEveryLast := hPlain.lengths hAllowed (by rcases hCoding with h | h <;> rw [h] <;> decide) other hOther
          rw [hLen] at hEveryLast
          rw [length_take_of_le hLong]
          exact Option.some.inj hEveryLast
    · intro option hOption hAsks
      obtain ⟨hMinor, hNot⟩ := hPlain.options option hOption hAsks
      have hAlive := h.alive
      rw [Head.connectionReusable, if_pos hMinor, Bool.not_eq_true', hLast.option] at hAlive
      have hSome := ne_nil_of_mem hOption
      rw [← dropLast_append_getLast hSome, mem_append, mem_singleton] at hOption
      rw [getLast?_eq_some_getLast hSome, Option.getD_some, ← hOption.resolve_left hNot] at hAlive
      exact absurd (hAsks.symm.trans hAlive) (by decide)

lemma Exchange.exact_iff {exchange : Exchange} (hOpens : exchange.Opens head body)
    (h : Framed exchange.limits.method head body) : exchange.Exact ↔ exchange.Plain := by
  have hSame {other : Head} {rest : List UInt8} (hOther : exchange.Opens other rest) : other = head ∧ rest = body := by
    obtain ⟨headerEnd, hEnd, hHead, rfl⟩ := hOpens
    obtain ⟨otherEnd, hOtherEnd, hOtherHead, rfl⟩ := hOther
    cases hEnd.symm.trans hOtherEnd
    exact ⟨hHead.unique hOtherHead, rfl⟩
  have hIff := h.exact_iff hOpens.choose_spec.2.1.last
  constructor
  · rintro ⟨other, rest, hOther, hExact⟩
    obtain ⟨rfl, rfl⟩ := hSame hOther
    exact ⟨other, rest, hOther, hIff.mp hExact⟩
  · rintro ⟨other, rest, hOther, hPlain⟩
    obtain ⟨rfl, rfl⟩ := hSame hOther
    exact ⟨other, rest, hOther, hIff.mpr hPlain⟩

lemma exchanges_cons {reqs : List Limits} {first : Exchange} {others : List Exchange}
    (h : exchanges (limits :: reqs) reads = first :: others) :
    (first.response.connectionReusable = true → (first.Exact ↔ first.Plain)) ∧
      ∃ rest, sent reads = first.received ++ sent rest ∧
        others = if first.response.connectionReusable = true then exchanges reqs rest else [] := by
  rw [exchanges] at h
  split at h
  next rest hRead =>
    cases h
    obtain ⟨⟨consumed, rfl, hSent⟩, hReusable⟩ := readHttpResponse_returned hRead
    refine ⟨fun hBack => ?_, rest, hSent, rfl⟩
    obtain ⟨headerEnd, head, hEnd, hHead, hFramed⟩ := hReusable hBack
    exact Exchange.exact_iff ⟨headerEnd, hEnd, parseHead_spelt hHead, rfl⟩ hFramed
  · cases h

/-- On one connection a response that gives it back is read exactly if the server kept to the rules. If it always
does, a later request reads on right behind one complete final response for each earlier request. -/
theorem reused_connection_in_step (requests : List Limits) (reads : List Read) :
    (∀ exchange ∈ exchanges requests reads, exchange.response.connectionReusable = true →
      (exchange.Exact ↔ exchange.Plain)) ∧
    ((∀ exchange ∈ exchanges requests reads, exchange.response.connectionReusable = true → exchange.Plain) →
      ∀ before next after, exchanges requests reads = before ++ next :: after → (∀ earlier ∈ before, earlier.Exact) ∧
          ∃ unread, sent reads = before.flatMap Exchange.received ++ (next.received ++ unread)) := by
  induction requests generalizing reads with
  | nil => exact ⟨forall_mem_nil _, fun _ before next after h => by simp [exchanges] at h⟩
  | cons limits requests ih =>
    cases hRun : exchanges (limits :: requests) reads with
    | nil => exact ⟨forall_mem_nil _, fun _ before next after h => by simp at h⟩
    | cons first =>
      obtain ⟨hFirst, rest, hSent, hOthers⟩ := exchanges_cons hRun
      obtain ⟨hEach, hStep⟩ := ih rest
      constructor
      · rintro exchange (_ | ⟨_, hOther⟩) hBack
        · exact hFirst hBack
        · rw [hOthers] at hOther
          split at hOther
          · exact hEach exchange hOther hBack
          · cases hOther
      · intro hPlain before next after hCut
        cases before with
        | nil =>
          cases hCut
          exact ⟨forall_mem_nil _, sent rest, hSent⟩
        | cons _ before =>
          obtain ⟨rfl, hTail⟩ := List.cons.inj hCut
          by_cases hBack : first.response.connectionReusable = true
          · rw [if_pos hBack] at hOthers
            rw [hOthers] at hTail hPlain
            obtain ⟨hExact, unread, hUnread⟩ :=
              hStep (fun exchange h => hPlain exchange (mem_cons_of_mem _ h)) before next after hTail
            refine ⟨forall_mem_cons.mpr ⟨(hFirst hBack).mpr (hPlain _ mem_cons_self hBack), hExact⟩, unread, ?_⟩
            rw [hSent, hUnread, flatMap_cons, append_assoc]
          · rw [if_neg hBack] at hOthers
            rw [hOthers] at hTail
            simp at hTail

def answerBytes : List UInt8 := literal "HTTP/1.1 200 OK\r\nContent-Length: 1\r\n\r\na"

def chunkedBytes : List UInt8 :=
  literal "HTTP/1.1 200 OK\r\nTransfer-Encoding: chunked\r\n\r\n2;x\r\nbc\r\n0\r\n\r\n"

def getLimits : Limits := ⟨"GET", 16384, 1048576⟩

def answered : Exchange :=
  ⟨getLimits, answerBytes, ⟨200, literal "OK", [⟨literal "Content-Length", literal "1"⟩], literal "a", true⟩⟩

def answeredInChunks : Exchange := ⟨getLimits, chunkedBytes,
  ⟨200, literal "OK", [⟨literal "Transfer-Encoding", literal "chunked"⟩], literal "bc", true⟩⟩

lemma chunkedBody_bc : ChunkedBody (literal "2;x\r\nbc\r\n0\r\n\r\n") := by
  have hEnd : ChunkedBody (ended (literal "0") ++ crlf) := .last rfl (chunkSize_eq_some.mp rfl) (.inl rfl)
  exact @ChunkedBody.chunk (literal "2;x") (literal "bc") _ rfl (by decide) (chunkSize_eq_some.mp rfl) hEnd

/-- Two answers that come in one after the other, the second in chunks and cut between two reads. -/
theorem reused_connection_in_step_twice :
    exchanges [getLimits, getLimits]
        [.chunk answerBytes, .chunk (chunkedBytes.take 50), .chunk (chunkedBytes.drop 50)] =
      [answered, answeredInChunks] ∧
      (answered.Exact ∧ answered.Plain) ∧ answeredInChunks.Exact ∧ answeredInChunks.Plain := by
  have hRun : exchanges [getLimits, getLimits]
      [.chunk answerBytes, .chunk (chunkedBytes.take 50), .chunk (chunkedBytes.drop 50)] =
      [answered, answeredInChunks] := by decide +kernel
  obtain ⟨hIff, -⟩ := reused_connection_in_step [getLimits, getLimits]
    [.chunk answerBytes, .chunk (chunkedBytes.take 50), .chunk (chunkedBytes.drop 50)]
  rw [hRun] at hIff
  have hAllowed : ¬Bodiless "GET" 200 := by simp [Bodiless]
  have hExact : answered.Exact :=
    ⟨⟨⟨1, 200, literal "OK"⟩, [⟨literal "Content-Length", literal "1"⟩], some 1, none, []⟩, literal "a",
      ⟨38, by decide +kernel, parseHead_spelt rfl, by decide +kernel⟩, rfl,
      .measured hAllowed (by decide) (by decide) (by decide), forall_mem_nil _⟩
  have hChunked : answeredInChunks.Exact :=
    ⟨⟨⟨1, 200, literal "OK"⟩, [⟨literal "Transfer-Encoding", literal "chunked"⟩], none, some (literal "chunked"), []⟩,
      _, ⟨47, by decide +kernel, parseHead_spelt rfl, rfl⟩, rfl, .chunked hAllowed (by decide) chunkedBody_bc,
      forall_mem_nil _⟩
  exact ⟨hRun, ⟨hExact, (hIff answered (by simp) rfl).mp hExact⟩, hChunked,
    (hIff answeredInChunks (by simp) rfl).mp hChunked⟩

def interimBytes : List UInt8 := literal "HTTP/1.1 100 Continue\r\n\r\n"

/-- The interim response is taken for the answer, and the answer for that of the next request. -/
theorem interim_taken_for_answer : exchanges [getLimits, getLimits] [.chunk interimBytes, .chunk answerBytes] =
        [⟨getLimits, interimBytes, ⟨100, literal "Continue", [], [], true⟩⟩, ⟨getLimits, answerBytes,
            ⟨200, literal "OK", [⟨literal "Content-Length", literal "1"⟩], literal "a", true⟩⟩] ∧
      ¬(⟨getLimits, interimBytes, ⟨100, literal "Continue", [], [], true⟩⟩ : Exchange).Exact := by
  refine ⟨by decide +kernel, ?_⟩
  rintro ⟨head, body, ⟨headerEnd, hEnd, hSpelt, -⟩, hFinal, -⟩
  have hAt : findHttpHeaderEnd interimBytes = some 25 := by decide +kernel
  have hHead : parseHead (interimBytes.take 25) = .ok ⟨⟨1, 100, literal "Continue"⟩, [], none, none, []⟩ := rfl
  cases hAt.symm.trans hEnd
  rw [(parseHead_spelt hHead).unique hSpelt] at hFinal
  cases hFinal

end Sloppy.HttpClient

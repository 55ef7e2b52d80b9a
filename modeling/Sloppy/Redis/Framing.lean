import Sloppy.Redis.Resp

/-! # Replies come out as they went in

The RESP2 syntax of a reply, its bytes and the value it stands for. The parser takes the bytes of a reply
off the front and waits while some of them are missing, so replies survive every cut of the stream; a
command is itself an array of bulk strings.
-/

namespace Sloppy.Redis

open Lib.Decimal Lib.Lines Lib.Framing Codec List

inductive Reply
  | simple (line : List UInt8)
  | error (line : List UInt8)
  | integer (value : Int)
  | nullBulk
  | nullArray
  | bulk (content : List UInt8)
  | array (items : List Reply)

namespace Reply

def head (kind : UInt8) (value : Int) : List UInt8 := kind :: ended (intText value)

mutual

def encode : Reply → List UInt8
  | simple line => 43 :: ended line
  | error line => 45 :: ended line
  | integer value => head 58 value
  | nullBulk => head 36 (-1)
  | nullArray => head 42 (-1)
  | bulk content => head 36 content.length ++ ended content
  | array items => head 42 items.length ++ encodeAll items

def encodeAll : List Reply → List UInt8
  | [] => []
  | item :: items => item.encode ++ encodeAll items

end

mutual

def value : Reply → Value
  | simple line => .text (decodeUtf8 line)
  | error line => redisErrorReply (decodeUtf8 line)
  | integer value => .number value
  | nullBulk | nullArray => .null
  | bulk content => .bytes content
  | array items => .array (valueAll items)

def valueAll : List Reply → List Value
  | [] => []
  | item :: items => item.value :: valueAll items

end

/-- The reply keeps to the limits, with so many levels of nesting allowed: lines hold no line end,
integers are safe and arrays are not too long or too deep. -/
def Within (limits : Limits) : Nat → Reply → Prop
  | 0, _ => False
  | _ + 1, simple line | _ + 1, error line => splitLine line = none
  | _ + 1, integer value => value.natAbs ≤ maxSafeInteger
  | _ + 1, nullBulk | _ + 1, nullArray | _ + 1, bulk _ => True
  | levels + 1, array items => items.length ≤ limits.maxArrayItems ∧ ∀ item ∈ items, Within limits levels item

lemma encodeAll_eq (items : List Reply) : encodeAll items = items.flatMap encode := by
  induction items with
  | nil => rfl
  | cons item items ih => rw [encodeAll, ih, flatMap_cons]

lemma valueAll_eq (items : List Reply) : valueAll items = items.map value := by
  induction items with
  | nil => rfl
  | cons item items ih => rw [valueAll, ih, map_cons]

end Reply

section Integers

variable {b : UInt8}

lemma natText_digits {n : Nat} (h : b ∈ natText n) : 48 ≤ b.toNat ∧ b.toNat ≤ 57 := by
  have hDigit := mem_decimal h
  exact hDigit

lemma natText_ne_nil (n : Nat) : natText n ≠ [] := by
  rw [natText, decimal, reversedDigits, map_cons, reverse_cons]
  exact append_ne_nil_of_right_ne_nil _ (cons_ne_nil _ _)

lemma readDigits_natText (n : Nat) : readDigits ((natText n).map UInt8.toNat) = n := by
  have hBound : n < 10 ^ (n + 1) :=
    Nat.lt_of_lt_of_le (Nat.lt_pow_self (by decide)) (Nat.pow_le_pow_right (by decide) (Nat.le_succ n))
  have hRead := readDecimal_decimal hBound
  rw [readDigits, natText, ← map_reverse, map_map]
  exact hRead

variable {n : Int}

lemma intText_ascii (h : b ∈ intText n) : b.toNat ≤ 0x7f ∧ b ≠ 13 := by
  have hDigits : ∀ b ∈ natText n.natAbs, b.toNat ≤ 0x7f ∧ b ≠ 13 := by
    intro b hMem
    have hDigit := natText_digits hMem
    refine ⟨by omega, ?_⟩
    rintro rfl
    have hLow : 48 ≤ (13 : UInt8).toNat := hDigit.1
    exact absurd hLow (by decide)
  rw [intText] at h
  split at h
  · obtain rfl | hMem := mem_cons.mp h
    · decide
    · exact hDigits b hMem
  · exact hDigits b h

lemma parseDigits_natText {sign : Int} {n : Nat} (hSafe : (sign * n).natAbs ≤ maxSafeInteger) (subject : String) :
    parseDigits sign ((natText n).map UInt8.toNat) subject = .ok (sign * n) := by
  have hDigits : ((natText n).map UInt8.toNat).all isDigit = true := by
    rw [all_eq_true]
    intro point hPoint
    obtain ⟨b, hMem, rfl⟩ := mem_map.mp hPoint
    have hDigit := natText_digits hMem
    rw [isDigit, Bool.and_eq_true, decide_eq_true_eq, decide_eq_true_eq]
    exact hDigit
  have hReads : ¬((natText n).map UInt8.toNat = [] ∨ ((natText n).map UInt8.toNat).all isDigit = false) := by
    rw [hDigits, map_eq_nil_iff]
    rintro (hNil | hFalse)
    · exact natText_ne_nil n hNil
    · cases hFalse
  rw [parseDigits, if_neg hReads, safeInteger, readDigits_natText, if_pos hSafe]

lemma parseIntegerText_intText (hSafe : n.natAbs ≤ maxSafeInteger) (subject : String) :
    parseIntegerText ((intText n).map UInt8.toNat) subject = .ok n := by
  rw [intText]
  split
  · have hValue : (-1 : Int) * (n.natAbs : Int) = n := by omega
    change parseDigits (-1) _ subject = _
    rw [parseDigits_natText (by rw [hValue]; exact hSafe), hValue]
  · have hValue : (1 : Int) * (n.natAbs : Int) = n := by omega
    rw [parseIntegerText.eq_2]
    · rw [parseDigits_natText (by rw [hValue]; exact hSafe), hValue]
    · -- The text of a number without a sign starts with a digit.
      intro digits hText
      have hMem : (45 : Nat) ∈ (natText n.natAbs).map UInt8.toNat := hText ▸ mem_cons_self ..
      obtain ⟨b, hByte, hEq⟩ := mem_map.mp hMem
      have hDigit := natText_digits hByte
      omega

lemma parseLine_intText (n : Int) (rest : List UInt8) :
    parseLine (ended (intText n) ++ rest) = some ((intText n).map UInt8.toNat, rest) := by
  have hLine : splitLine (intText n) = none := splitLine_eq_none_of_not_mem fun hMem => (intText_ascii hMem).2 rfl
  rw [parseLine, splitLine_ended hLine, Option.map_some, decodeUtf8_ascii fun b hMem => (intText_ascii hMem).1]

lemma parseLine_cut {line part rest : List UInt8} (hLine : splitLine line = none)
    (hPart : part ++ rest = ended line) (hRest : rest ≠ []) : parseLine part = none := by
  rw [parseLine, splitLine_cut hLine hPart hRest, Option.map_none]

lemma parseLine_intText_cut {part rest : List UInt8} (hPart : part ++ rest = ended (intText n)) (hRest : rest ≠ []) :
    parseLine part = none :=
  parseLine_cut (splitLine_eq_none_of_not_mem fun hMem => (intText_ascii hMem).2 rfl) hPart hRest

end Integers

section Items

variable {parse : List UInt8 → Except RedisError (Option (Value × List UInt8))} {good : Reply → Prop}

variable {items : List Reply}

section

variable (h : Framed parse Reply.encode Reply.value good) (hGood : ∀ item ∈ items, good item)
include h hGood

lemma parseItems_whole (rest : List UInt8) :
    parseItems parse items.length (Reply.encodeAll items ++ rest) = .ok (some (Reply.valueAll items, rest)) := by
  induction items with
  | nil => rfl
  | cons item items ih =>
    rw [length_cons, parseItems, Reply.encodeAll, append_assoc, h.whole item (hGood item (mem_cons_self ..))]
    dsimp only
    rw [ih fun other hOther => hGood other (mem_cons_of_mem _ hOther), Reply.valueAll]

lemma parseItems_cut {part rest : List UInt8} (hPart : part ++ rest = Reply.encodeAll items) (hRest : rest ≠ []) :
    parseItems parse items.length part = .ok none := by
  induction items generalizing part with
  | nil =>
    rw [Reply.encodeAll, append_eq_nil_iff] at hPart
    exact absurd hPart.2 hRest
  | cons item items ih =>
    have hItem := hGood item (mem_cons_self ..)
    rw [length_cons, parseItems]
    obtain ⟨missing, hMissing, hFront⟩ | ⟨more, rfl, hMore⟩ := cut_append hPart
    · rw [h.cut item hItem part missing hFront hMissing]
    · rw [h.whole item hItem more]
      dsimp only
      rw [ih (fun other hOther => hGood other (mem_cons_of_mem _ hOther)) hMore]

end

end Items

section Replies

lemma parseBulk_null (limits : Limits) (rest : List UInt8) :
    parseBulk limits (ended (intText (-1)) ++ rest) = .ok (some (.null, rest)) := by
  rfl

lemma parseArray_null (limits : Limits) (parse : List UInt8 → Except RedisError (Option (Value × List UInt8)))
    (rest : List UInt8) : parseArray limits parse (ended (intText (-1)) ++ rest) = .ok (some (.null, rest)) := by
  rfl

variable {limits : Limits} {len : Nat}

lemma parseBulk_length (hLen : len ≤ limits.maxResponseBytes) (rest : List UInt8) :
    parseBulk limits (ended (intText len) ++ rest) =
      if rest.length < len + 2 then .ok none
      else if rest[len]? ≠ some 13 ∨ rest[len + 1]? ≠ some 10 then
        .error (protocolError "Redis bulk response is missing CRLF terminator.")
      else .ok (some (.bytes (rest.take len), rest.drop (len + 2))) := by
  have hSafe := limits.bytesSafe
  rw [parseBulk, parseLine_intText]
  dsimp only
  rw [parseIntegerText_intText (by omega)]
  dsimp only
  rw [if_neg (by omega), if_neg (by omega), if_neg (by omega), Int.toNat_natCast]

lemma parseBulk_whole {content : List UInt8} (hLen : content.length ≤ limits.maxResponseBytes) (rest : List UInt8) :
    parseBulk limits (ended (intText content.length) ++ (ended content ++ rest)) =
      .ok (some (.bytes content, rest)) := by
  rw [parseBulk_length hLen, ended, crlf, append_assoc]
  rw [if_neg (by simp only [length_append, length_cons]; omega)]
  rw [if_neg (by simp), take_left, ← drop_drop, drop_left]
  rfl

variable {rest : List UInt8}

lemma parseArray_length (hLen : len ≤ limits.maxArrayItems)
    {parse : List UInt8 → Except RedisError (Option (Value × List UInt8))} {result : Option (List Value × List UInt8)}
    (hItems : parseItems parse len rest = .ok result) :
    parseArray limits parse (ended (intText len) ++ rest) =
      .ok (result.map fun items => (.array items.1, items.2)) := by
  have hSafe := limits.itemsSafe
  rw [parseArray, parseLine_intText]
  dsimp only
  rw [parseIntegerText_intText (by omega)]
  dsimp only
  rw [if_neg (by omega), if_neg (by omega), Int.toNat_natCast, hItems]
  cases result <;> rfl

/-- The replies the parser reads with so many levels of nesting allowed. -/
def Readable (limits : Limits) (levels : Nat) (reply : Reply) : Prop :=
  reply.Within limits levels ∧ reply.encode.length ≤ limits.maxResponseBytes

variable {levels : Nat}

lemma Readable.item {items : List Reply} (h : Readable limits (levels + 1) (.array items)) :
    ∀ item ∈ items, Readable limits levels item := by
  intro item hItem
  obtain ⟨⟨-, hWithin⟩, hLen⟩ := h
  refine ⟨hWithin item hItem, Nat.le_trans ?_ hLen⟩
  rw [Reply.encode, Reply.encodeAll_eq, length_append]
  exact Nat.le_add_left_of_le (sublist_flatten_of_mem (mem_map_of_mem hItem)).length_le

variable {reply : Reply}

section

variable (ih : Framed (parseAt limits levels) Reply.encode Reply.value (Readable limits levels))
  (h : Readable limits (levels + 1) reply)
include ih h

lemma parseAt_whole (rest : List UInt8) :
    parseAt limits (levels + 1) (reply.encode ++ rest) = .ok (some (reply.value, rest)) := by
  obtain ⟨hWithin, hLen⟩ := id h
  cases reply with
  | simple line | error line =>
    change Except.ok ((parseLine (ended line ++ rest)).map _) = _
    rw [parseLine, splitLine_ended hWithin]
    rfl
  | integer =>
    rw [Reply.encode, Reply.head, cons_append, parseAt, if_neg (by decide), if_neg (by decide),
      if_pos rfl, parseLine_intText]
    dsimp only
    rw [parseIntegerText_intText hWithin]
    rfl
  | nullBulk => exact parseBulk_null limits rest
  | nullArray => exact parseArray_null limits (parseAt limits levels) rest
  | bulk content =>
    have hContent : content.length ≤ limits.maxResponseBytes := by
      rw [Reply.encode, ended, length_append, length_append] at hLen
      omega
    change parseBulk limits (ended (intText content.length) ++ ended content ++ rest) = _
    rw [append_assoc, parseBulk_whole hContent]
    rfl
  | array items =>
    change parseArray limits (parseAt limits levels) (ended (intText items.length) ++ Reply.encodeAll items ++ rest) = _
    rw [append_assoc, parseArray_length hWithin.1 (parseItems_whole ih h.item rest)]
    rfl

lemma parseAt_cut {part : List UInt8} (hPart : part ++ rest = reply.encode)
    (hRest : rest ≠ []) : parseAt limits (levels + 1) part = .ok none := by
  obtain ⟨hWithin, hLen⟩ := id h
  cases part with
  | nil => rfl
  | cons kind part =>
    cases reply with
    | simple =>
      obtain ⟨rfl, hLine⟩ := List.cons.inj hPart
      change Except.ok ((parseLine part).map _) = _
      rw [parseLine_cut hWithin hLine hRest]
      rfl
    | error =>
      obtain ⟨rfl, hLine⟩ := List.cons.inj hPart
      change Except.ok ((parseLine part).map _) = _
      rw [parseLine_cut hWithin hLine hRest]
      rfl
    | integer =>
      obtain ⟨rfl, hLine⟩ := List.cons.inj hPart
      rw [parseAt, if_neg (by decide), if_neg (by decide), if_pos rfl, parseLine_intText_cut hLine hRest]
    | nullBulk =>
      obtain ⟨rfl, hLine⟩ := List.cons.inj hPart
      change parseBulk limits part = _
      rw [parseBulk, parseLine_intText_cut hLine hRest]
    | nullArray =>
      obtain ⟨rfl, hLine⟩ := List.cons.inj hPart
      change parseArray limits (parseAt limits levels) part = _
      rw [parseArray, parseLine_intText_cut hLine hRest]
    | bulk content =>
      obtain ⟨rfl, hBytes⟩ := List.cons.inj hPart
      change parseBulk limits part = _
      obtain ⟨missing, hMissing, hFront⟩ | ⟨more, rfl, hMore⟩ := cut_append hBytes
      · rw [parseBulk, parseLine_intText_cut hFront hMissing]
      -- The length is known, and the content or its line end is not all there.
      have hContent : content.length ≤ limits.maxResponseBytes := by
        rw [Reply.encode, ended, length_append, length_append] at hLen
        omega
      have hShort : more.length < content.length + 2 := by
        have hLengths := congrArg List.length hMore
        have hPositive := length_pos_of_ne_nil hRest
        rw [ended, length_append, length_append, crlf, length_cons, length_singleton] at hLengths
        omega
      rw [parseBulk_length hContent, if_pos hShort]
    | array =>
      obtain ⟨rfl, hBytes⟩ := List.cons.inj hPart
      change parseArray limits (parseAt limits levels) part = _
      obtain ⟨missing, hMissing, hFront⟩ | ⟨more, rfl, hMore⟩ := cut_append hBytes
      · rw [parseArray, parseLine_intText_cut hFront hMissing]
      · rw [parseArray_length hWithin.1 (parseItems_cut ih h.item hMore hRest)]
        rfl

end

lemma framed_parseAt (limits : Limits) (levels : Nat) :
    Framed (parseAt limits levels) Reply.encode Reply.value (Readable limits levels) := by
  induction levels with
  | zero =>
    exact ⟨rfl, fun _ hGood => hGood.1.elim, fun _ hGood => hGood.1.elim⟩
  | succ levels ih =>
    refine ⟨rfl, ?_, ?_⟩
    · intro reply hGood rest
      exact parseAt_whole ih hGood rest
    · intro reply hGood part rest hPart hRest
      exact parseAt_cut ih hGood hPart hRest

lemma receiveAll_replies (limits : Limits) {replies : List Reply}
    (hReplies : ∀ reply ∈ replies, reply.Within limits (limits.maxArrayDepth + 1)) {chunks : List (List UInt8)}
    (hCut : chunks.flatten = replies.flatMap Reply.encode)
    (hKept : StaysWithin limits.maxResponseBytes (replies.map fun reply => reply.encode.length) 0 chunks) :
    receiveAll (feed limits) (read limits) [] chunks = .ok (replies.map Reply.value, []) := by
  have hPositive : ∀ reply : Reply, 0 < reply.encode.length := by
    intro reply
    cases reply <;> exact Nat.succ_pos _
  have hLengths := all_le_of_staysWithin hKept (by
      intro length hFirst
      obtain ⟨reply, -, rfl⟩ := mem_map.mp (mem_of_mem_head? hFirst)
      exact hPositive reply)
    (by rw [Nat.zero_add, hCut, length_flatMap])
  have hReadable : ∀ reply ∈ replies, Readable limits (limits.maxArrayDepth + 1) reply := fun reply hReply =>
    ⟨hReplies reply hReply, hLengths _ (mem_map_of_mem hReply)⟩
  refine (framed_parseAt limits (limits.maxArrayDepth + 1)).receiveAll_eq ?_ hReadable ?_ ?_ hKept
  · intro buf chunk hFits
    rw [feed, if_neg (Nat.not_lt.mpr hFits)]
  · rw [nil_append, hCut]
  · rintro rfl
    refine ⟨?_, rfl⟩
    cases replies with
    | nil => rfl
    | cons reply =>
      have hNone := congrArg List.length hCut
      rw [flatMap_cons, length_append] at hNone
      have hSome := hPositive reply
      rw [flatten_nil, length_nil] at hNone
      omega

end Replies

section Commands

lemma encodeHead_eq {kind : Nat} (hKind : kind ≤ 0x7f) (len : Nat) :
    encodeHead kind len = Reply.head (UInt8.ofNat kind) len := by
  have hText : intText len = natText len := by
    rw [intText, if_neg (by omega), Int.natAbs_natCast]
  have hPoints : kind :: (natText len).map UInt8.toNat ++ [13, 10] =
      (Reply.head (UInt8.ofNat kind) len).map UInt8.toNat := by
    rw [Reply.head, ended, crlf, hText, map_cons, map_append, byte_of_lt (by omega)]
    rfl
  rw [encodeHead, hPoints, encodeUtf8_ascii]
  intro b hMem
  rw [Reply.head, ended, crlf, mem_cons, mem_append] at hMem
  obtain rfl | hDigit | hEnd := hMem
  · rw [byte_of_lt (by omega)]
    exact hKind
  · exact (intText_ascii hDigit).1
  · revert hEnd
    simp only [mem_cons, not_mem_nil, or_false]
    rintro (rfl | rfl) <;> decide

variable {args : List Argument}

lemma encodeArguments_eq {parts : List UInt8} (h : encodeArguments args = .ok parts) :
    ∃ contents, List.Forall₂ (fun arg content => bytesFromArgument arg = .ok content) args contents ∧
      parts = Reply.encodeAll (contents.map .bulk) := by
  induction args generalizing parts with
  | nil =>
    cases h
    exact ⟨[], .nil, rfl⟩
  | cons arg args ih =>
    rw [encodeArguments] at h
    split at h
    · cases h
    rename_i content hContent
    split at h
    · cases h
    rename_i hParts
    obtain ⟨contents, hContents, rfl⟩ := ih hParts
    cases h
    refine ⟨content :: contents, .cons hContent hContents, ?_⟩
    rw [map_cons, Reply.encodeAll, Reply.encode, encodeHead_eq (by decide), ended]
    simp only [append_assoc]
    rfl

lemma encodeCommand_eq {bytes : List UInt8} (h : encodeCommand args = .ok bytes) :
    ∃ contents, List.Forall₂ (fun arg content => bytesFromArgument arg = .ok content) args contents ∧
      bytes = (Reply.array (contents.map .bulk)).encode := by
  rw [encodeCommand] at h
  split at h
  · cases h
  split at h
  · cases h
  rename_i hParts
  obtain ⟨contents, hContents, rfl⟩ := encodeArguments_eq hParts
  cases h
  refine ⟨contents, hContents, ?_⟩
  rw [Reply.encode, encodeHead_eq (by decide), length_map, hContents.length_eq]
  rfl

lemma bulk_array_within {limits : Limits} {contents : List (List UInt8)}
    (hItems : contents.length ≤ limits.maxArrayItems) :
    (Reply.array (contents.map .bulk)).Within limits (limits.maxArrayDepth + 1) := by
  refine ⟨by rw [length_map]; exact hItems, ?_⟩
  intro item hItem
  obtain ⟨content, -, rfl⟩ := mem_map.mp hItem
  obtain ⟨levels, hLevels⟩ := Nat.exists_eq_add_of_lt (Nat.lt_of_succ_le limits.depthPositive)
  rw [hLevels]
  trivial

end Commands

/-- Replies within the limits come out in order wherever their bytes are cut, with nothing kept behind;
texts keep their code points, and a command is read back as the bytes of its arguments. -/
theorem replies_survive_every_cut (limits : Limits) : (∀ (replies : List Reply) (chunks : List (List UInt8)),
      (∀ reply ∈ replies, reply.Within limits (limits.maxArrayDepth + 1)) →
      chunks.flatten = replies.flatMap Reply.encode →
      StaysWithin limits.maxResponseBytes (replies.map fun reply => reply.encode.length) 0 chunks →
      receiveAll (feed limits) (read limits) [] chunks = .ok (replies.map Reply.value, [])) ∧
    (∀ text : List Nat, (∀ point ∈ text, IsScalar point) → decodeUtf8 (encodeUtf8 text) = text) ∧
    ∀ (args : List Argument) (bytes : List UInt8), encodeCommand args = .ok bytes → args.length ≤ limits.maxArrayItems →
      ∃ contents, List.Forall₂ (fun arg content => bytesFromArgument arg = .ok content) args contents ∧
        ∀ chunks : List (List UInt8), chunks.flatten = bytes →
          StaysWithin limits.maxResponseBytes [bytes.length] 0 chunks →
          receiveAll (feed limits) (read limits) [] chunks = .ok ([.array (contents.map .bytes)], []) := by
  refine ⟨?_, fun _ hText => decodeUtf8_encodeUtf8 hText, ?_⟩
  · intro replies chunks hReplies hCut hKept
    exact receiveAll_replies limits hReplies hCut hKept
  · intro args bytes hCommand hItems
    obtain ⟨contents, hContents, rfl⟩ := encodeCommand_eq hCommand
    refine ⟨contents, hContents, ?_⟩
    intro chunks hCut hKept
    have hWithin : ∀ reply ∈ [Reply.array (contents.map .bulk)], reply.Within limits (limits.maxArrayDepth + 1) := by
      intro reply hReply
      rw [mem_singleton.mp hReply]
      exact bulk_array_within (hContents.length_eq ▸ hItems)
    have hReceived := receiveAll_replies limits hWithin (by rw [hCut, flatMap_singleton]) hKept
    rw [hReceived, map_singleton, Reply.value, Reply.valueAll_eq, map_map]
    rfl

/-- A simple string cut in its line end, and a command whose argument holds a line end itself. -/
theorem replies_survive_every_cut_in_line_end :
    receiveAll (feed defaultLimits) (read defaultLimits) [] [[43, 79], [75, 13], [10, 58, 55, 13, 10]] =
        .ok ([.text [79, 75], .number 7], []) ∧
      decodeUtf8 (encodeUtf8 [0x20ac]) = [0x20ac] ∧
      receiveAll (feed defaultLimits) (read defaultLimits) []
          [[42, 49, 13, 10, 36, 50, 13], [10, 13, 10, 13], [10]] = .ok ([.array [.bytes [13, 10]]], []) := by
  obtain ⟨hReplies, hText, hCommand⟩ := replies_survive_every_cut defaultLimits
  refine ⟨hReplies [.simple [79, 75], .integer 7] _ ?_ (by decide) ⟨by decide, by decide, by decide, trivial⟩,
    hText _ ?_, ?_⟩
  · intro reply hReply
    simp only [mem_cons, not_mem_nil, or_false] at hReply
    obtain rfl | rfl := hReply
    · exact (by decide : splitLine [79, 75] = none)
    · exact (by decide : (7 : Int).natAbs ≤ maxSafeInteger)
  · intro point hPoint
    rw [mem_singleton.mp hPoint]
    exact Or.inl (by decide)
  · obtain ⟨contents, hContents, hReceived⟩ :=
      hCommand [.bytes [13, 10]] [42, 49, 13, 10, 36, 50, 13, 10, 13, 10, 13, 10] (by decide) (by decide)
    obtain _ | ⟨hContent, hRest⟩ := hContents
    cases hRest
    cases hContent
    exact hReceived _ (by decide) ⟨by decide, by decide, by decide, trivial⟩

end Sloppy.Redis

import Sloppy.Http2.BodyAgreement

/-! # What an accepted list of request fields says

A field that may stand once is recognised as repeated by the value read before, so an empty value leaves its place
open: the values of one name are empty up to the last.
-/

namespace Sloppy.Http2

open Http Backend Lib List

section Slots

def fieldValues (named : HeaderField → Bool) (list : List HeaderField) : List (List UInt8) :=
  (list.filter named).map HeaderField.value

def pseudoNamed (name : String) (field : HeaderField) : Bool := field.name == literal name

def pseudoNames : List (List UInt8) := [":method", ":scheme", ":path", ":authority"].map literal

structure FieldTaken (before : RequestFields) (field : HeaderField) (after : RequestFields) : Prop where
  method : SlotRead (pseudoNamed ":method" field) before.method field.value after.method
  scheme : SlotRead (pseudoNamed ":scheme" field) before.scheme field.value after.scheme
  target : SlotRead (pseudoNamed ":path" field) before.target field.value after.target
  authority : SlotRead (pseudoNamed ":authority" field) before.authority field.value after.authority
  host : SlotRead (fieldNamed (literal "host") field) before.host field.value after.host
  contentLength : fieldNamed (literal "content-length") field = true →
    before.contentLength = none ∧ after.contentLength = parseDecimalSize field.value ∧ after.contentLength ≠ none
  otherLength : fieldNamed (literal "content-length") field = false → after.contentLength = before.contentLength
  order : isPseudo field.name = true → before.regularSeen = false
  seen : after.regularSeen = (before.regularSeen || !isPseudo field.name)
  known : isPseudo field.name = true → field.name ∈ pseudoNames
  value : isPseudo field.name = false → fieldValueValid field.value = true
  count : after.regularCount = before.regularCount + if isPseudo field.name then 0 else 1

variable {field : HeaderField}

lemma readRegular_taken {before after : RequestFields} (h : readRegular before field = .ok after) :
    FieldTaken before field after := by
  rw [readRegular] at h
  split at h
  · cases h
  rename_i hChecked
  simp only [Bool.or_eq_true, not_or, Bool.not_eq_true, Bool.not_eq_true', Bool.not_eq_false] at hChecked
  obtain ⟨⟨⟨hRegular, -⟩, hValue⟩, -⟩ := hChecked
  have hOther (name : String) (hPseudo : isPseudo (literal name) = true) : pseudoNamed name field = false := by
    rw [pseudoNamed, beq_eq_false_iff_ne]
    rintro hName
    rw [hName, hPseudo] at hRegular
    cases hRegular
  split at h
  · cases h
  rename_i hLen
  split at h
  · cases h
  rename_i hHost
  obtain ⟨hLengthRest, hDeclared, hUndeclared⟩ := readContentLength_taken hLen
  obtain ⟨hHostRest, hSlot⟩ := readHost_taken hHost
  have hType : ∀ fields : RequestFields, readContentType fields field =
      { fields with contentType := (readContentType fields field).contentType } := by
    intro fields
    rw [readContentType]
    split <;> rfl
  rw [hType] at hLengthRest hDeclared hUndeclared
  cases h
  rw [hLengthRest] at hSlot
  rw [hHostRest, hLengthRest]
  constructor
  · rw [hOther ":method" rfl]
    rfl
  · rw [hOther ":scheme" rfl]
    rfl
  · rw [hOther ":path" rfl]
    rfl
  · rw [hOther ":authority" rfl]
    rfl
  · exact hSlot
  · exact hDeclared
  · exact hUndeclared
  · intro hPseudo
    exact absurd (hRegular.symm.trans hPseudo) (by decide)
  · rw [hRegular, Bool.not_false, Bool.or_true]
  · intro hPseudo
    exact absurd (hRegular.symm.trans hPseudo) (by decide)
  · intro _
    exact hValue
  · rw [hRegular]
    rfl

lemma FieldTaken.pseudo {before after : RequestFields} {name : String} (hName : field.name = literal name)
    (hKnown : literal name ∈ pseudoNames) (hFirst : before.regularSeen = false)
    (hRest : after.host = before.host ∧ after.contentLength = before.contentLength ∧
      after.regularSeen = before.regularSeen ∧ after.regularCount = before.regularCount)
    (hMethod : SlotRead (literal name == literal ":method") before.method field.value after.method)
    (hScheme : SlotRead (literal name == literal ":scheme") before.scheme field.value after.scheme)
    (hTarget : SlotRead (literal name == literal ":path") before.target field.value after.target)
    (hAuth : SlotRead (literal name == literal ":authority") before.authority field.value after.authority) :
    FieldTaken before field after := by
  have hPseudo : ∀ other ∈ pseudoNames, isPseudo other = true ∧ equalCiAscii other (literal "host") = false ∧
      equalCiAscii other (literal "content-length") = false := by decide
  obtain ⟨hPseudo, hNoHost, hNoLength⟩ := hPseudo _ hKnown
  obtain ⟨hHost, hLen, hSeen, hCount⟩ := hRest
  rw [← hName] at hMethod hScheme hTarget hAuth hPseudo hNoHost hNoLength hKnown
  refine ⟨hMethod, hScheme, hTarget, hAuth, ?_, ?_, fun _ => hLen, fun _ => hFirst, ?_, fun _ => hKnown, ?_, ?_⟩
  · rw [fieldNamed, hNoHost]
    exact hHost
  · intro hNamed
    exact absurd (hNamed.symm.trans hNoLength) (by decide)
  · rw [hSeen, hPseudo, Bool.not_true, Bool.or_false]
  · intro hRegular
    exact absurd (hPseudo.symm.trans hRegular) (by decide)
  · rw [hCount, hPseudo]
    rfl

lemma readField_taken {limits : ParseOptions} {before after : RequestFields}
    (h : readField limits before field = .ok after) : FieldTaken before field after := by
  rw [readField] at h
  split at h
  · cases h
  split at h
  · cases h
  split at h
  next hName =>
    obtain ⟨hFirst, hOpen, rfl⟩ := readPseudo_taken h
    exact .pseudo hName (by decide) hFirst ⟨rfl, rfl, rfl, rfl⟩ ⟨hOpen, rfl⟩ rfl rfl rfl
  · split at h
    next hName =>
      obtain ⟨hFirst, hOpen, rfl⟩ := readPseudo_taken h
      exact .pseudo hName (by decide) hFirst ⟨rfl, rfl, rfl, rfl⟩ rfl ⟨hOpen, rfl⟩ rfl rfl
    · split at h
      next hName =>
        obtain ⟨hFirst, hOpen, rfl⟩ := readPseudo_taken h
        exact .pseudo hName (by decide) hFirst ⟨rfl, rfl, rfl, rfl⟩ rfl rfl ⟨hOpen, rfl⟩ rfl
      · split at h
        next hName =>
          obtain ⟨hFirst, hOpen, rfl⟩ := readPseudo_taken h
          exact .pseudo hName (by decide) hFirst ⟨rfl, rfl, rfl, rfl⟩ rfl rfl rfl ⟨hOpen, rfl⟩
        · obtain ⟨hMethod, hScheme, hTarget, hAuth, hHost, hLen, hOther, hOrder, hSeen, hKnown, hValue,
            hCount⟩ := readRegular_taken h
          exact ⟨hMethod, hScheme, hTarget, hAuth, hHost, hLen, hOther, hOrder, hSeen, hKnown, hValue, hCount⟩

lemma readFields_slot {limits : ParseOptions} {named : HeaderField → Bool} {place : RequestFields → List UInt8}
    (hPlace : ∀ {before : RequestFields} {field : HeaderField} {after : RequestFields},
      FieldTaken before field after → SlotRead (named field) (place before) field.value (place after))
    {before after : RequestFields} {list : List HeaderField} (h : readFields limits before list = .ok after) :
    place before :: fieldValues named list = List.replicate (fieldValues named list).length [] ++ [place after] := by
  induction list generalizing before with
  | nil =>
    cases h
    rfl
  | cons field list ih =>
    rw [readFields] at h
    split at h
    · cases h
    rename_i hNext
    have hRest := ih h
    have hRead := hPlace (readField_taken hNext)
    rw [SlotRead] at hRead
    rw [fieldValues, filter_cons]
    split at hRead
    next hNamed =>
      rw [hRead.2] at hRest
      rw [if_pos hNamed, map_cons, length_cons, replicate_succ, cons_append, hRead.1]
      exact congrArg _ hRest
    next hOther =>
      rw [hRead] at hRest
      rw [if_neg hOther]
      exact hRest

end Slots

section Lists

structure EmptyBefore (values : List (List UInt8)) (last : List UInt8) : Prop where
  shape : [] :: values = List.replicate values.length [] ++ [last]

variable {values : List (List UInt8)} {last : List UInt8}

section

variable (h : EmptyBefore values last)
include h

lemma EmptyBefore.mem {value : List UInt8} (hMem : value ∈ values) : value = [] ∨ value = last := by
  have hShape : value ∈ replicate values.length [] ++ [last] := h.shape ▸ mem_cons_of_mem _ hMem
  rw [mem_append, mem_replicate, mem_singleton] at hShape
  exact hShape.imp_left And.right

lemma EmptyBefore.last_mem (hSome : last ≠ []) : last ∈ values := by
  have hMem : last ∈ [] :: values := by
    rw [h.shape]
    exact mem_append_right _ (mem_singleton_self _)
  exact (mem_cons.mp hMem).resolve_left hSome

lemma EmptyBefore.once_iff : values.length ≤ 1 ↔ [] ∉ values.dropLast := by
  obtain ⟨hShape⟩ := h
  match values with
  | [] | [value] => simp
  | first :: second :: rest =>
    injection hShape with _ hShape
    injection hShape with hFirst
    rw [dropLast_cons_cons, hFirst]
    simp

lemma EmptyBefore.find : values.find? (!·.isEmpty) = if last.isEmpty then none else some last := by
  have hSkip : values.find? (!·.isEmpty) = ([] :: values).find? (!·.isEmpty) := rfl
  rw [hSkip, h.shape, find?_append, find?_replicate]
  cases last with
  | nil | cons => simp

end

end Lists

section Laws

def effectiveAuthority (list : List HeaderField) : List UInt8 :=
  ((fieldValues (pseudoNamed ":authority") list ++ fieldValues (fieldNamed (literal "host")) list).find?
    (!·.isEmpty)).getD []

/-- What a list and the head of its request should be like. -/
structure RequestLaws (list : List HeaderField) (body : List UInt8) (head : RequestHead) : Prop where
  method : (fieldValues (pseudoNamed ":method") list).length = 1
  scheme : (fieldValues (pseudoNamed ":scheme") list).length = 1
  target : (fieldValues (pseudoNamed ":path") list).length = 1
  authority : (fieldValues (pseudoNamed ":authority") list).length ≤ 1
  host : (fieldValues (fieldNamed (literal "host")) list).length ≤ 1
  pseudoFirst : list.Pairwise fun earlier later => isPseudo later.name = true → isPseudo earlier.name = true
  known : ∀ field ∈ list, isPseudo field.name = true → field.name ∈ pseudoNames
  contentLength : ∀ field ∈ list, fieldNamed (literal "content-length") field = true →
    parseDecimalSize field.value = some body.length
  headers : head.headers = requestHeaders (effectiveAuthority list) list
  fits : ∀ limits fields, readFields limits .zero list = .ok fields →
    head.headers.length ≤ fields.regularCount + if fields.effectiveAuthority.isEmpty then 0 else 1
  values : ∀ header ∈ head.headers, fieldValueValid header.value = true
  rawTarget : fieldValueValid head.rawTarget = true
  path : fieldValueValid head.path = true

/-- No empty value of a name that may stand once is followed by another, and no path or authority has a control
character. -/
structure PlainFields (list : List HeaderField) : Prop where
  once : ∀ named ∈ [pseudoNamed ":method", pseudoNamed ":scheme", pseudoNamed ":path", pseudoNamed ":authority",
    fieldNamed (literal "host")], [] ∉ (fieldValues named list).dropLast
  targets : ∀ value ∈ fieldValues (pseudoNamed ":path") list, fieldValueValid value = true
  authorities : ∀ value ∈ fieldValues (pseudoNamed ":authority") list, fieldValueValid value = true

variable {limits : ParseOptions} {before after fields : RequestFields} {list : List HeaderField} {body : List UInt8}

section

variable (h : readFields limits before list = .ok after)
include h

lemma readFields_pseudoFirst : (before.regularSeen = true → ∀ field ∈ list, isPseudo field.name = false) ∧
      list.Pairwise fun earlier later => isPseudo later.name = true → isPseudo earlier.name = true := by
  induction list generalizing before with
  | nil => exact ⟨fun _ => forall_mem_nil _, .nil⟩
  | cons field list ih =>
    rw [readFields] at h
    split at h
    · cases h
    rename_i hNext
    have hTaken := readField_taken hNext
    obtain ⟨hRegular, hOrdered⟩ := ih h
    rw [hTaken.seen] at hRegular
    refine ⟨?_, .cons ?_ hOrdered⟩
    · intro hSeen
      rw [hSeen, Bool.true_or] at hRegular
      rintro other (_ | ⟨_, hOther⟩)
      · rw [Bool.eq_false_iff]
        intro hPseudo
        exact absurd (hSeen.symm.trans (hTaken.order hPseudo)) (by decide)
      · exact hRegular rfl other hOther
    · intro later hLater hPseudo
      rw [← Bool.not_eq_false]
      intro hEarlier
      rw [hEarlier, Bool.not_false, Bool.or_true] at hRegular
      exact absurd ((hRegular rfl later hLater).symm.trans hPseudo) (by decide)

lemma readFields_taken : ∀ field ∈ list, (isPseudo field.name = true → field.name ∈ pseudoNames) ∧
      (isPseudo field.name = false → fieldValueValid field.value = true) :=
  readFields_forall (fun hNext => ⟨(readField_taken hNext).known, (readField_taken hNext).value⟩) h

lemma readFields_contentLength :
    (∀ length, before.contentLength = some length → after.contentLength = some length) ∧
      ∀ field ∈ list, fieldNamed (literal "content-length") field = true →
        parseDecimalSize field.value = after.contentLength ∧ after.contentLength ≠ none := by
  induction list generalizing before with
  | nil =>
    cases h
    exact ⟨fun _ hSome => hSome, forall_mem_nil _⟩
  | cons field list ih =>
    rw [readFields] at h
    split at h
    · cases h
    rename_i hNext
    have hTaken := readField_taken hNext
    obtain ⟨hKept, hRest⟩ := ih h
    constructor
    · intro length hSome
      apply hKept
      rw [hTaken.otherLength, hSome]
      rw [Bool.eq_false_iff]
      intro hNamed
      exact absurd (hSome.symm.trans (hTaken.contentLength hNamed).1) (Option.some_ne_none _)
    · rintro other (_ | ⟨_, hOther⟩) hNamed
      · obtain ⟨-, hParsed, hSome⟩ := hTaken.contentLength hNamed
        obtain ⟨length, hLen⟩ := Option.ne_none_iff_exists'.mp hSome
        rw [hKept length hLen, ← hParsed, hLen]
        exact ⟨rfl, Option.some_ne_none _⟩
      · exact hRest other hOther hNamed

lemma readFields_regularCount :
    after.regularCount = before.regularCount + list.countP fun field => !isPseudo field.name := by
  induction list generalizing before with
  | nil =>
    cases h
    rfl
  | cons field list ih =>
    rw [readFields] at h
    split at h
    · cases h
    rename_i hNext
    rw [ih h, (readField_taken hNext).count, countP_cons]
    cases isPseudo field.name with
    | true => simp
    | false => simp [Nat.add_assoc, Nat.add_comm 1]

end

lemma requestHeaders_length (auth : List UInt8) (list : List HeaderField) :
    (requestHeaders auth list).length ≤ (list.countP fun field => !isPseudo field.name) + 1 := by
  rw [requestHeaders, length_cons, length_map]
  apply Nat.succ_le_succ
  rw [← countP_eq_length_filter]
  apply countP_mono_left
  intro field _ hCopied
  rw [isCopied, Bool.and_eq_true] at hCopied
  exact hCopied.1

/-- What the places hold after an accepted list. -/
structure PlacesFilled (list : List HeaderField) (fields : RequestFields) : Prop where
  method : EmptyBefore (fieldValues (pseudoNamed ":method") list) fields.method
  scheme : EmptyBefore (fieldValues (pseudoNamed ":scheme") list) fields.scheme
  target : EmptyBefore (fieldValues (pseudoNamed ":path") list) fields.target
  authority : EmptyBefore (fieldValues (pseudoNamed ":authority") list) fields.authority
  host : EmptyBefore (fieldValues (fieldNamed (literal "host")) list) fields.host

lemma placesFilled_of_readFields (h : readFields limits .zero list = .ok fields) : PlacesFilled list fields :=
  ⟨⟨readFields_slot FieldTaken.method h⟩, ⟨readFields_slot FieldTaken.scheme h⟩, ⟨readFields_slot FieldTaken.target h⟩,
    ⟨readFields_slot FieldTaken.authority h⟩, ⟨readFields_slot FieldTaken.host h⟩⟩

lemma PlacesFilled.effectiveAuthority_eq (h : PlacesFilled list fields) :
    effectiveAuthority list = fields.effectiveAuthority := by
  rw [effectiveAuthority, find?_append, h.authority.find, h.host.find, RequestFields.effectiveAuthority]
  cases hAuthority : fields.authority with
  | cons => rfl
  | nil =>
    cases hHost : fields.host with
    | nil => rfl
    | cons => rfl

lemma EmptyBefore.length_eq_one_iff {values : List (List UInt8)} {last : List UInt8} (h : EmptyBefore values last)
    (hSome : last ≠ []) : values.length = 1 ↔ [] ∉ values.dropLast := by
  have hPos := length_pos_of_mem (h.last_mem hSome)
  rw [← h.once_iff]
  omega

lemma EmptyBefore.valid_iff {values : List (List UInt8)} {last : List UInt8} (h : EmptyBefore values last) :
    (∀ value ∈ values, fieldValueValid value = true) ↔ fieldValueValid last = true := by
  constructor
  · intro hValues
    cases last with
    | nil => rfl
    | cons => exact hValues _ (h.last_mem nofun)
  · intro hLast value hMem
    obtain rfl | rfl := h.mem hMem
    · rfl
    · exact hLast

lemma fieldValueValid_path {target : List UInt8} (h : fieldValueValid target = true) :
    fieldValueValid (pathFromTarget target) = true := by
  rw [fieldValueValid, headerValueValid, all_eq_true] at h ⊢
  intro b hMem
  exact h b ((takeWhile_sublist _).subset hMem)

lemma regular_of_host {field : HeaderField} (hKnown : isPseudo field.name = true → field.name ∈ pseudoNames)
    (hHost : fieldNamed (literal "host") field = true) : isPseudo field.name = false := by
  have hNoHost : ∀ name ∈ pseudoNames, equalCiAscii name (literal "host") = false := by decide
  rw [Bool.eq_false_iff]
  intro hPseudo
  exact absurd (hHost.symm.trans (hNoHost _ (hKnown hPseudo))) nofun

lemma requestHeaders_valid_iff (hRead : readFields limits .zero list = .ok fields) :
    (∀ hdr ∈ requestHeaders fields.effectiveAuthority list, fieldValueValid hdr.value = true) ↔
      fieldValueValid fields.authority = true := by
  have hTaken := readFields_taken hRead
  have hPlaces := placesFilled_of_readFields hRead
  have hHost : fieldValueValid fields.host = true := by
    rw [← hPlaces.host.valid_iff]
    intro value hMem
    rw [fieldValues, mem_map] at hMem
    obtain ⟨field, hField, rfl⟩ := hMem
    obtain ⟨hField, hNamed⟩ := mem_filter.mp hField
    exact (hTaken field hField).2 (regular_of_host (hTaken field hField).1 hNamed)
  constructor
  · intro hHeaders
    have hFirst := hHeaders _ mem_cons_self
    dsimp only [RequestFields.effectiveAuthority] at hFirst
    split at hFirst
    next hEmpty =>
      rw [List.isEmpty_iff.mp hEmpty]
      rfl
    · exact hFirst
  · intro hAuth
    rintro hdr (_ | ⟨_, hRest⟩)
    · dsimp only [RequestFields.effectiveAuthority]
      split
      · exact hHost
      · exact hAuth
    · obtain ⟨field, hField, rfl⟩ := mem_map.mp hRest
      obtain ⟨hField, hCopied⟩ := mem_filter.mp hField
      rw [isCopied, Bool.and_eq_true, Bool.not_eq_true'] at hCopied
      exact (hTaken field hField).2 hCopied.1

theorem request_laws_iff (places : Places) (list : List HeaderField) (body : List UInt8) (s after : ReaderScope)
    (hAccepted : requestFromHeaders places list body s = (after, .ok ())) :
    RequestLaws list body after.scope.request.head ↔ PlainFields list := by
  obtain ⟨connection, hConnection⟩ : ∃ connection, s.scope.connection = some connection := by
    cases hConnection : s.scope.connection with
    | none =>
      rw [requestFromHeaders, hConnection] at hAccepted
      cases hAccepted
    | some connection => exact ⟨connection, rfl⟩
  obtain ⟨fields, begun, hRead, -, hValid, hFilled⟩ := requestFromHeaders_filled hConnection hAccepted
  have hAuthority := effectiveAuthority_some hValid
  obtain ⟨hHeaders, hRawTarget, hPath, -⟩ := fillRequest_ok hAuthority hFilled
  have hPlaces := placesFilled_of_readFields hRead
  simp only [requestFieldsValid, Bool.and_eq_true, Bool.not_eq_true', isEmpty_eq_false_iff] at hValid
  obtain ⟨⟨⟨⟨⟨⟨⟨⟨⟨⟨hMethod, hScheme⟩, hTarget⟩, -⟩, -⟩, -⟩, -⟩, -⟩, -⟩, -⟩, hLength⟩ := hValid
  constructor
  · intro h
    refine ⟨?_, ?_, ?_⟩
    · simp only [forall_mem_cons]
      exact ⟨(hPlaces.method.length_eq_one_iff hMethod).mp h.method,
        (hPlaces.scheme.length_eq_one_iff hScheme).mp h.scheme, (hPlaces.target.length_eq_one_iff hTarget).mp h.target,
        hPlaces.authority.once_iff.mp h.authority, hPlaces.host.once_iff.mp h.host, forall_mem_nil _⟩
    · rw [hPlaces.target.valid_iff, ← hRawTarget]
      exact h.rawTarget
    · rw [hPlaces.authority.valid_iff, ← requestHeaders_valid_iff hRead, ← hHeaders]
      exact h.values
  · intro h
    have hOnce := h.once
    simp only [forall_mem_cons] at hOnce
    obtain ⟨hMethods, hSchemes, hTargets, hAuthorities, hHosts, -⟩ := hOnce
    have hTargetValid := hPlaces.target.valid_iff.mp h.targets
    constructor
    · exact (hPlaces.method.length_eq_one_iff hMethod).mpr hMethods
    · exact (hPlaces.scheme.length_eq_one_iff hScheme).mpr hSchemes
    · exact (hPlaces.target.length_eq_one_iff hTarget).mpr hTargets
    · exact hPlaces.authority.once_iff.mpr hAuthorities
    · exact hPlaces.host.once_iff.mpr hHosts
    · exact (readFields_pseudoFirst hRead).2
    · intro field hField
      exact (readFields_taken hRead field hField).1
    · intro field hField hNamed
      obtain ⟨hParsed, hSome⟩ := (readFields_contentLength hRead).2 field hField hNamed
      obtain ⟨length, hEq⟩ := Option.ne_none_iff_exists'.mp hSome
      rw [hEq, Option.all_some, beq_iff_eq] at hLength
      rw [hParsed, hEq, hLength]
    · rw [hHeaders, hPlaces.effectiveAuthority_eq]
    · intro otherLimits others hOthers
      have hSame : others.effectiveAuthority = fields.effectiveAuthority := by
        rw [← (placesFilled_of_readFields hOthers).effectiveAuthority_eq, hPlaces.effectiveAuthority_eq]
      have hLengths := requestHeaders_length fields.effectiveAuthority list
      rw [hHeaders, readFields_regularCount hOthers, hSame, hAuthority, if_neg Bool.false_ne_true,
        RequestFields.zero, Nat.zero_add]
      exact hLengths
    · rw [hHeaders, requestHeaders_valid_iff hRead, ← hPlaces.authority.valid_iff]
      exact h.authorities
    · rw [hRawTarget]
      exact hTargetValid
    · rw [hPath]
      exact fieldValueValid_path hTargetValid

theorem request_laws_declared :
    ∃ after, requestFromHeaders ⟨0, 0, 0⟩ sampleDeclared (literal "hi") sampleScope = (after, .ok ()) ∧
      RequestLaws sampleDeclared (literal "hi") after.scope.request.head := by
  obtain ⟨after, hAfter⟩ := @exists_accepted ⟨0, 0, 0⟩ sampleDeclared (literal "hi") sampleScope (by decide +kernel)
  refine ⟨after, hAfter, (request_laws_iff ⟨0, 0, 0⟩ sampleDeclared (literal "hi") sampleScope after hAfter).mpr ?_⟩
  refine ⟨?_, by decide +kernel, by decide +kernel⟩
  simp only [forall_mem_cons]
  exact ⟨by decide +kernel, by decide +kernel, by decide +kernel, by decide +kernel, by decide +kernel, nofun⟩

def sampleRepeated : List HeaderField :=
  [⟨literal ":method", literal "GET", false⟩, ⟨literal ":scheme", literal "http", false⟩,
    ⟨literal ":path", [], false⟩, ⟨literal ":path", literal "/", false⟩,
    ⟨literal ":authority", literal "a\r\nx-y: z", false⟩]

theorem repeated_path_accepted :
    ∃ after, requestFromHeaders ⟨0, 0, 0⟩ sampleRepeated [] sampleScope = (after, .ok ()) ∧
      (fieldValues (pseudoNamed ":path") sampleRepeated).length = 2 ∧
      after.scope.request.head.headers = [⟨literal "host", literal "a\r\nx-y: z"⟩] ∧
      fieldValueValid (literal "a\r\nx-y: z") = false := by
  obtain ⟨after, hAfter⟩ := @exists_accepted ⟨0, 0, 0⟩ sampleRepeated [] sampleScope (by decide +kernel)
  obtain ⟨fields, hFields⟩ := @requestFromHeaders_ok _ _ _ sampleScope after sampleConnection rfl hAfter
  refine ⟨after, hAfter, by decide +kernel, ?_, by decide +kernel⟩
  rw [hFields.headers, ← (placesFilled_of_readFields hFields.reads).effectiveAuthority_eq]
  decide +kernel

end Laws

end Sloppy.Http2

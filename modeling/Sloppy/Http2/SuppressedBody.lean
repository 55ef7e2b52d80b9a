import Sloppy.Http2.ResponseFields

/-! # Suppressed bodies over HTTP/2

A response is mapped twice from one arena, with its body and without. The run without a body takes less from the
arena; its fields are the same unless the response is a stream.
-/

namespace Sloppy.Http2

open Http Growing Lib Lib.Decimal Sloppy.Stream List

lemma lighter_drainReadable (rounds : Nat) (readable : ReadableStream) (state : BuilderState) :
    Lighter state.arena (drainReadable rounds readable state).1.arena := by
  induction rounds generalizing readable state with
  | zero => exact .refl _
  | succ rounds ih =>
    obtain ⟨status, bytes, next, hRead⟩ : ∃ status bytes next,
      readableStreamRead readable none = (status, bytes, next) := ⟨_, _, _, rfl⟩
    rw [drainReadable, hRead]
    cases status with
    | eof => exact .refl _
    | ok =>
      have hKeeps : Action.Keeps (fun after : BuilderState => Lighter state.arena after.arena) (do
          appendStr bytes
          drainReadable rounds next : Action BuilderState StatusCode Unit) := by
        refine Action.Keeps.bind (fun before hBefore => ?_) fun _ before hBefore => hBefore.trans (ih next before)
        exact hBefore.trans (lighter_byteBuilderAppendBytes before bytes)
      exact hKeeps state (.refl _)
    | _ => exact .refl _

lemma lighter_responseBody (resp : Response) (suppress : Bool) (maxBody : Nat) (arena : Arena) :
    Lighter arena (responseBody resp suppress maxBody arena).1 := by
  rw [responseBody]
  split
  · exact .refl _
  split
  · have hKeeps : Action.Keeps (Lighter arena) (responseStreamBody resp maxBody) := by
      refine Action.Keeps.bind (fun before hBefore => ?_) fun builder => ?_
      · rw [byteBuilderInitArena]
        split
        · exact hBefore
        split
        · have hAlloc := hBefore.trans (lighter_arenaAlloc before 256 1)
          split
          next hFailed =>
            rwa [hFailed] at hAlloc
          next hDone =>
            rwa [hDone] at hAlloc
        · exact hBefore
      · refine Action.Keeps.bind (fun before hBefore => hBefore) fun readable before hBefore => ?_
        have hDrain := lighter_drainReadable (resp.streamChunks.flatten.length + 1) readable ⟨builder, before⟩
        rw [inBuilder]
        split
        next hFailed =>
          rw [hFailed] at hDrain
          exact hBefore.trans hDrain
        next hDone =>
          rw [hDone] at hDrain
          exact hBefore.trans hDrain
    exact hKeeps arena (.refl _)
  split
  · exact .refl _
  · exact .refl _

lemma responseBody_follows (resp : Response) (maxBody : Nat) :
    Action.Follows Lighter (responseBody resp false maxBody) (responseBody resp true maxBody)
      fun body suppressed => body = resp.carried false ∧ suppressed = [] := by
  intro arena lighter after body hLighter hBody
  have hAfter := lighter_responseBody resp false maxBody arena
  rw [hBody] at hAfter
  refine ⟨lighter, [], ?_, ⟨(responseBody_ok hBody).1, rfl⟩, hLighter.trans hAfter⟩
  rfl

lemma copyH2Header_follows (name value : List UInt8) :
    Action.Follows Lighter (copyH2Header name value) (copyH2Header name value) Eq := by
  refine (strCopyViewToArena_follows name).bind ?_
  rintro copiedName _ rfl
  refine (strCopyViewToArena_follows value).bind ?_
  rintro copiedValue _ rfl
  exact .pure rfl

lemma copyFieldIf_follows (condition : Bool) (name : List UInt8) {value other : Except StatusCode (List UInt8)}
    (h : condition = true → other = value) :
    Action.Follows Lighter (copyFieldIf condition name value) (copyFieldIf condition name other) Eq := by
  cases condition with
  | false => exact .pure rfl
  | true =>
    rw [h rfl]
    refine (Action.Follows.ofExcept value).bind ?_
    rintro text _ rfl
    refine (copyH2Header_follows name text).bind ?_
    rintro field _ rfl
    exact .pure rfl

lemma copyResponseHeaders_follows (headers : List Header) :
    Action.Follows Lighter (copyResponseHeaders headers) (copyResponseHeaders headers) Eq := by
  induction headers with
  | nil => exact .pure rfl
  | cons hdr headers ih =>
    rw [copyResponseHeaders]
    split
    · exact fun _ _ _ _ _ hFail => absurd hFail Action.fail_ok
    refine (copyH2Header_follows _ _).bind ?_
    rintro field _ rfl
    refine ih.bind ?_
    rintro fields _ rfl
    exact .pure rfl

def SameLength (response : Response) : Prop :=
  statusHasNoBody response.status = false → (response.carried false).length = response.body.length

lemma responseToHeaders_follows {resp : Response} (hLen : SameLength resp) (maxBody : Nat) :
    Action.Follows Lighter (responseToHeaders resp false maxBody)
      (responseToHeaders resp true maxBody) fun given suppressed => suppressed = (given.1, []) := by
  rw [responseToHeaders, responseToHeaders]
  split
  · exact fun _ _ _ _ _ hFail => absurd hFail Action.fail_ok
  refine (responseBody_follows resp maxBody).bind ?_
  rintro _ _ ⟨rfl, rfl⟩
  refine (Action.Follows.ofExcept _).bind ?_
  rintro size _ rfl
  refine (arenaTake_follows size 8).bind ?_
  rintro _ _ rfl
  refine (copyFieldIf_follows _ _ fun _ => rfl).bind ?_
  rintro status _ rfl
  refine (copyFieldIf_follows _ _ fun _ => rfl).bind ?_
  rintro type _ rfl
  refine (copyResponseHeaders_follows resp.headers).bind ?_
  rintro headers _ rfl
  refine (copyFieldIf_follows _ _ fun hBody => ?_).bind ?_
  · rw [if_pos rfl, if_neg Bool.false_ne_true, hLen (by simpa using hBody)]
  · rintro length _ rfl
    exact .pure rfl

section Suppressed

variable {resp : Response}

lemma carried_length_le_sizeMax {maxBody : Nat} {before after : Arena} {body : List UInt8}
    (h : responseBody resp false maxBody before = (after, .ok body)) : (resp.carried false).length ≤ sizeMax := by
  rw [responseBody] at h
  rw [Response.carried]
  split at h
  next hNone =>
    rw [if_pos hNone]
    exact Nat.zero_le _
  next hSome =>
    rw [if_neg hSome]
    split at h
    · obtain ⟨arena, builder, -, h⟩ := Action.bind_ok h
      obtain ⟨mid, readable, hReadable, -⟩ := Action.bind_ok h
      have hInit := Action.ofExcept_ok hReadable
      rw [responseStreamReadableInit] at hInit
      split at hInit
      · cases hInit
      split at hInit
      · cases hInit
      next hMeasured =>
        obtain ⟨hLen, hFits⟩ := streamValidateAndMeasure_ok hMeasured
        omega
    next hKind =>
      rw [Response.content, if_neg hKind]
      exact resp.bodySize

lemma responseFields_length (hBody : statusHasNoBody resp.status = false) (suppress : Bool) :
    (responseFields resp suppress).getLast? =
      some ⟨literal "content-length", decimal 20 (declaredLength resp suppress), false⟩ := by
  rw [responseFields, Response.described, hBody, Bool.not_false, if_pos rfl, ← append_assoc, map_append, ← cons_append]
  exact getLast?_concat

def StreamMeasured (response : Response) : Prop :=
  response.kind = .stream → statusHasNoBody response.status = false →
    response.streamChunks.flatten.length = response.body.length

instance (response : Response) : Decidable (StreamMeasured response) := inferInstanceAs (Decidable (_ → _ → _))

lemma sameLength_iff (resp : Response) : SameLength resp ↔ StreamMeasured resp := by
  unfold SameLength StreamMeasured Response.carried Response.content
  constructor
  · intro h hKind hBody
    simpa [hKind, hBody] using h hBody
  · intro h hBody
    by_cases hKind : resp.kind = .stream
    · simpa [hKind, hBody] using h hKind hBody
    · simp [hKind, hBody]

/-- A response that is mapped with its body is mapped to the same fields without it exactly when the chunks
of a stream are as long as its plain body. -/
theorem suppressed_same_fields_iff (response : Response) (maxBodyBytes : Nat) (arena after : Arena)
    (fields : List HeaderField) (body : List UInt8)
    (h : responseToHeaders response false maxBodyBytes arena = (after, .ok (fields, body))) :
    (∃ left, responseToHeaders response true maxBodyBytes arena = (left, .ok (fields, []))) ↔
      StreamMeasured response := by
  constructor
  · rintro ⟨left, hLeft⟩
    refine (sameLength_iff response).mp fun hBody => ?_
    obtain ⟨-, hGiven, -⟩ := responseToHeaders_ok h
    obtain ⟨-, hSuppressed, -⟩ := responseToHeaders_ok hLeft
    have hLast := congrArg getLast? (hGiven.symm.trans hSuppressed)
    rw [responseFields_length hBody, responseFields_length hBody, Option.some.injEq, HeaderField.mk.injEq] at hLast
    have hCarried : (response.carried false).length ≤ sizeMax := by
      rw [responseToHeaders] at h
      split at h
      · exact absurd h Action.fail_ok
      · obtain ⟨mid, carried, hCarried, -⟩ := Action.bind_ok h
        exact carried_length_le_sizeMax hCarried
    have hSize := response.bodySize
    rw [sizeMax] at hCarried hSize
    have hRead := congrArg readDecimal hLast.2.1
    rwa [readDecimal_decimal, readDecimal_decimal] at hRead
    · change response.body.length < _
      omega
    · change (response.carried false).length < _
      omega
  · intro hMeasured
    obtain ⟨left, result, hLeft, rfl, -⟩ := responseToHeaders_follows ((sameLength_iff response).mpr hMeasured)
      maxBodyBytes arena arena after _ (.refl arena) h
    exact ⟨left, hLeft⟩

lemma streamBody_size : (literal "abc").length ≤ sizeMax ∧ ([] : List UInt8).length ≤ sizeMax := by decide

lemma streamChunk_sizes : ∀ chunk ∈ [literal "ab", literal "c"], chunk.length ≤ sizeMax := by decide

def streamedResponse (withBody : Bool) : Response where
  status := 200
  kind := .stream
  contentType := literal "text/plain"
  headers := []
  body := if withBody then literal "abc" else []
  streamChunks := [literal "ab", literal "c"]
  bodySize := by cases withBody; exacts [streamBody_size.2, streamBody_size.1]
  chunkSizes := streamChunk_sizes

def roomyArena : Arena := ⟨4096, 1024, 0, 0, 1⟩

/-- The value of the last field, which declares the length. -/
def declared (response : Response) (suppressBody : Bool) : Option (List UInt8) :=
  (responseToHeaders response suppressBody 256 roomyArena).2.toOption.bind fun result =>
    result.1.getLast?.map HeaderField.value

theorem suppressed_same_fields_text :
    ∃ after fields body, responseToHeaders (streamedResponse true) false 256 roomyArena = (after, .ok (fields, body)) ∧
      ∃ left, responseToHeaders (streamedResponse true) true 256 roomyArena = (left, .ok (fields, [])) := by
  obtain ⟨⟨fields, body⟩, hMapped, -⟩ := @exists_ok _ _
    (responseToHeaders (streamedResponse true) false 256 roomyArena).2 (fun _ => true) (by decide +kernel)
  have hRun : responseToHeaders (streamedResponse true) false 256 roomyArena =
      ((responseToHeaders (streamedResponse true) false 256 roomyArena).1, .ok (fields, body)) := by
    rw [← hMapped]
  exact ⟨_, fields, body, hRun, (suppressed_same_fields_iff _ _ _ _ _ _ hRun).mpr (by decide)⟩

/-- A stream declares its own length with its body and 0 without. -/
theorem suppressed_stream_declares_zero : declared (streamedResponse false) false = some (literal "3") ∧
      declared (streamedResponse false) true = some (literal "0") := by
  decide +kernel

end Suppressed

end Sloppy.Http2

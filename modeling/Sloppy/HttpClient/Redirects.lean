import Sloppy.HttpClient.Response
import Sloppy.Lib.CodeUnits

/-! # Redirects of the HTTP client

`sendHttpRequestWithRedirects` of `net.js`, as the requests it sends for the answers it gets. Where a `Location`
leads (`resolveHttpRedirectUrl`) and `toLowerCase` are parameters: the results hold for every one of them.
-/

namespace Sloppy.HttpClient.Redirects

open List
open Lib.CodeUnits (Text asciiText isSpace)

/-- The part of a URL that the redirects read. -/
structure Url where
  scheme : Text
  hostHeader : Text
  target : Text
  deriving DecidableEq

/-- An entry of the header map: the lower-cased name is the key. -/
structure Entry where
  key : Text
  name : Text
  value : Text
  deriving DecidableEq

structure Policy where
  enabled : Bool
  max : Nat
  allowPost : Bool
  deny : Bool
  secretHeaders : List Text
  deriving DecidableEq

structure Request where
  url : Url
  headers : List Entry
  method : String
  body : List UInt8
  redirects : Policy
  deriving DecidableEq

structure Answer where
  status : Nat
  location : Option Text

def isHttpRedirectStatus (status : Nat) : Bool := [301, 302, 303, 307, 308].contains status

def httpUrlToString (url : Url) : Text := url.scheme ++ asciiText "://" ++ url.hostHeader ++ url.target

variable (toLowerCase : Text → Text)

def normalizeHttpHostHeaderForOrigin (hostHeader : Text) : Text :=
  let beforeColon := (hostHeader.reverse.dropWhile (· != 58)).tail.reverse
  if hostHeader.head? = some 91 ∧ 93 ∈ hostHeader then
    91 :: toLowerCase (hostHeader.tail.takeWhile (· != 93)) ++ hostHeader.dropWhile (· != 93)
  else if beforeColon ≠ [] then toLowerCase beforeColon ++ hostHeader.drop beforeColon.length
  else toLowerCase hostHeader

def httpOriginKey (url : Url) : Text :=
  url.scheme ++ asciiText "://" ++ normalizeHttpHostHeaderForOrigin toLowerCase url.hostHeader

def sensitiveHeaders : List Text :=
  ["authorization", "cookie", "proxy-authorization", "x-api-key", "api-key"].map asciiText

def ignoreCase (text : Text) : Text := text.map fun unit => if 65 ≤ unit ∧ unit ≤ 90 then unit + 32 else unit

def isHttpSensitiveHeader (secretHeaders : List Text) (name value : Text) : Bool :=
  sensitiveHeaders.contains (toLowerCase name) || secretHeaders.contains (toLowerCase name) ||
    (ignoreCase name).tails.any (fun rest =>
      ["token", "secret", "apikey", "api-key", "api_key"].any fun word => (asciiText word).isPrefixOf rest) ||
    (ignoreCase value).tails.any fun rest =>
      (asciiText "bearer").isPrefixOf rest && (rest.drop 6).head?.any (isSpace ·.toNat)

def stripHttpSensitiveHeaders (headers : List Entry) (policy : Policy) : Except ClientError (List Entry) :=
  let kept := headers.filter fun entry => !isHttpSensitiveHeader toLowerCase policy.secretHeaders entry.key entry.value
  if kept.length < headers.length ∧ policy.deny then
    .error ⟨"HttpClientSensitiveHeaderError", "SLOPPY_E_HTTP_CLIENT_SENSITIVE_HEADER_STRIPPED",
      "HTTP client cross-origin redirect refused sensitive headers."⟩
  else .ok kept

def redirected (current : Request) (status : Nat) (url : Url) (headers : List Entry) : Request :=
  if current.method ≠ "HEAD" ∧ (status = 303 ∨ (status = 301 ∨ status = 302) ∧
      (current.body ≠ [] ∨ current.method ∈ ["POST", "PUT", "PATCH"])) then
    { current with
      url, method := "GET", body := [],
      headers := headers.filter fun entry =>
        entry.key ≠ asciiText "content-length" ∧ entry.key ≠ asciiText "content-type" }
  else { current with url, headers }

variable (resolve : Url → Text → Except ClientError Url)

/-- One turn of the loop after an answer: the request that is sent next, if one is. -/
def follow (visited : List Text) (redirectCount : Nat) (current : Request) (answer : Answer) :
    Except ClientError (Option Request) :=
  if ¬ (current.redirects.enabled ∧ isHttpRedirectStatus answer.status) then .ok none
  else answer.location.elim (.ok none) fun location =>
    if current.redirects.max ≤ redirectCount then
      .error ⟨"HttpClientMaxRedirectsError", "SLOPPY_E_HTTP_CLIENT_MAX_REDIRECTS_EXCEEDED",
        "HTTP client exceeded the configured redirect limit."⟩
    else if current.method ≠ "GET" ∧ current.method ≠ "HEAD" ∧ ¬ current.redirects.allowPost then
      .error ⟨"HttpClientInvalidOptionsError", "SLOPPY_E_HTTP_CLIENT_INVALID_OPTIONS",
        "HTTP client redirect for request body methods requires redirects.allowPost."⟩
    else (resolve current.url location).bind fun nextUrl =>
      if visited.contains (httpUrlToString nextUrl) then
        .error ⟨"HttpClientRedirectLoopError", "SLOPPY_E_HTTP_CLIENT_REDIRECT_LOOP",
          "HTTP client detected a redirect loop."⟩
      else if httpOriginKey toLowerCase current.url = httpOriginKey toLowerCase nextUrl then
        .ok (some (redirected current answer.status nextUrl current.headers))
      else (stripHttpSensitiveHeaders toLowerCase current.headers current.redirects).map fun headers =>
        some (redirected current answer.status nextUrl headers)

/-- The requests sent behind the one in hand, when the server answers one after the other. -/
def followAll (visited : List Text) (redirectCount : Nat) (current : Request) : List Answer → List Request
  | [] => []
  | answer :: rest =>
    match follow toLowerCase resolve visited redirectCount current answer with
    | .ok (some next) => next :: followAll (httpUrlToString next.url :: visited) (redirectCount + 1) next rest
    | _ => []

/-- The requests that are sent, the first one included. -/
def sendHttpRequestWithRedirects (request : Request) (answers : List Answer) : List Request :=
  request :: followAll toLowerCase resolve [httpUrlToString request.url] 0 request answers

variable {toLowerCase : Text → Text} {resolve : Url → Text → Except ClientError Url}
variable {visited : List Text} {redirectCount : Nat} {current next : Request} {answer : Answer}

lemma strip_ok {headers kept : List Entry} {policy : Policy}
    (h : stripHttpSensitiveHeaders toLowerCase headers policy = .ok kept) :
    kept ⊆ headers ∧ ∀ entry ∈ kept,
      isHttpSensitiveHeader toLowerCase policy.secretHeaders entry.key entry.value = false := by
  unfold stripHttpSensitiveHeaders at h
  dsimp only at h
  split at h
  · cases h
  · cases h
    exact ⟨filter_subset_self _, fun _ hEntry => by simpa using of_mem_filter hEntry⟩

lemma redirected_eq (current : Request) (status : Nat) (url : Url) (headers : List Entry) :
    (redirected current status url headers).url = url ∧
      (redirected current status url headers).redirects = current.redirects ∧
      (redirected current status url headers).headers ⊆ headers := by
  unfold redirected
  split
  · exact ⟨rfl, rfl, filter_subset_self _⟩
  · exact ⟨rfl, rfl, Subset.refl _⟩

/-- What a turn that sends a next request has made sure of. -/
structure Followed (toLowerCase : Text → Text) (visited : List Text) (redirectCount : Nat)
    (current next : Request) : Prop where
  counted : redirectCount < current.redirects.max
  method : current.method = "GET" ∨ current.method = "HEAD" ∨ current.redirects.allowPost
  fresh : httpUrlToString next.url ∉ visited
  redirects : next.redirects = current.redirects
  headers : next.headers ⊆ current.headers
  stripped : httpOriginKey toLowerCase current.url ≠ httpOriginKey toLowerCase next.url → ∀ entry ∈ next.headers,
    isHttpSensitiveHeader toLowerCase current.redirects.secretHeaders entry.key entry.value = false

lemma follow_some (h : follow toLowerCase resolve visited redirectCount current answer = .ok (some next)) :
    Followed toLowerCase visited redirectCount current next := by
  unfold follow at h
  split at h
  · cases h
  obtain hNone | ⟨location, hSome⟩ := Option.eq_none_or_eq_some answer.location
  · rw [hNone] at h
    cases h
  rw [hSome, Option.elim_some] at h
  split at h
  · cases h
  rename_i hCount
  split at h
  · cases h
  have hAllowed : current.method = "GET" ∨ current.method = "HEAD" ∨ current.redirects.allowPost := by
    grind
  cases hUrl : resolve current.url location with
  | error => simp [hUrl, Except.bind] at h
  | ok nextUrl =>
    simp only [hUrl, Except.bind] at h
    split at h
    · cases h
    rename_i hFresh
    rw [List.contains_iff_mem] at hFresh
    split at h
    next hSame =>
      cases h
      obtain ⟨hNext, hPolicy, hHeaders⟩ := redirected_eq current answer.status nextUrl current.headers
      rw [← hNext] at hFresh hSame
      exact ⟨not_le.mp hCount, hAllowed, hFresh, hPolicy, hHeaders, fun hOther => absurd hSame hOther⟩
    · cases hStrip : stripHttpSensitiveHeaders toLowerCase current.headers current.redirects with
      | error => simp [hStrip, Except.map] at h
      | ok kept =>
        simp only [hStrip, Except.map, Except.ok.injEq, Option.some.injEq] at h
        subst h
        obtain ⟨hNext, hPolicy, hHeaders⟩ := redirected_eq current answer.status nextUrl kept
        obtain ⟨hKept, hClean⟩ := strip_ok hStrip
        rw [← hNext] at hFresh
        exact ⟨not_le.mp hCount, hAllowed, hFresh, hPolicy, List.Subset.trans hHeaders hKept,
          fun _ entry hEntry => hClean entry (hHeaders hEntry)⟩

/-! ## The chain -/

/-- Requests behind the one in hand, each followed from the one before it. -/
inductive Hops (toLowerCase : Text → Text) : List Text → Nat → Request → List Request → Prop where
  | last {visited : List Text} {redirectCount : Nat} {current : Request} :
      Hops toLowerCase visited redirectCount current []
  | next {visited : List Text} {redirectCount : Nat} {current next : Request} {rest : List Request}
      (hFollowed : Followed toLowerCase visited redirectCount current next)
      (hRest : Hops toLowerCase (httpUrlToString next.url :: visited) (redirectCount + 1) next rest) :
      Hops toLowerCase visited redirectCount current (next :: rest)

lemma hops_followAll (answers : List Answer) : Hops toLowerCase visited redirectCount current
      (followAll toLowerCase resolve visited redirectCount current answers) := by
  induction answers generalizing visited redirectCount current with
  | nil => exact .last
  | cons answer rest ih =>
    rw [followAll]
    split
    next next hNext =>
      exact .next (follow_some hNext) ih
    · exact .last

variable {hops : List Request} (h : Hops toLowerCase visited redirectCount current hops)
include h

lemma Hops.carried : ∀ hop ∈ hops, hop.headers ⊆ current.headers := by
  induction h with
  | last => exact forall_mem_nil _
  | next hFollowed _ ih =>
    refine forall_mem_cons.mpr ⟨hFollowed.headers, fun hop hHop => ?_⟩
    exact List.Subset.trans (ih hop hHop) hFollowed.headers

lemma Hops.counted (hCount : redirectCount ≤ current.redirects.max) :
    hops.length + redirectCount ≤ current.redirects.max := by
  induction h with
  | last => simpa using hCount
  | next hFollowed _ ih =>
    have hRest := ih (hFollowed.redirects ▸ hFollowed.counted)
    rw [hFollowed.redirects] at hRest
    rw [length_cons]
    omega

/-- The URLs behind the one in hand are none of the visited ones, and they all differ. -/
lemma Hops.fresh :
    (∀ hop ∈ hops, httpUrlToString hop.url ∉ visited) ∧ (hops.map (httpUrlToString ·.url)).Nodup := by
  induction h with
  | last => exact ⟨forall_mem_nil _, nodup_nil⟩
  | next hFollowed _ ih =>
    obtain ⟨hNew, hNodup⟩ := ih
    refine ⟨forall_mem_cons.mpr ⟨hFollowed.fresh, fun hop hHop hOld => hNew hop hHop (mem_cons_of_mem _ hOld)⟩,
      nodup_cons.mpr ⟨fun hMem => ?_, hNodup⟩⟩
    obtain ⟨hop, hHop, hSame⟩ := mem_map.mp hMem
    exact hNew hop hHop (hSame ▸ mem_cons_self)

/-- Two neighbours of the chain are followed one from the other, and the rest of the chain from the second. -/
lemma Hops.split {front back : List Request} {first second : Request}
    (hSplit : current :: hops = front ++ first :: second :: back) :
    first.redirects = current.redirects ∧ ∃ visited redirectCount,
      Followed toLowerCase visited redirectCount first second ∧
        Hops toLowerCase (httpUrlToString second.url :: visited) (redirectCount + 1) second back := by
  induction h generalizing front with
  | last => simp [cons_eq_append_iff] at hSplit
  | next hFollowed hRest ih =>
    obtain ⟨rfl, hCons⟩ | ⟨tail, rfl, hTail⟩ := cons_eq_append_iff.mp hSplit
    · cases hCons
      exact ⟨rfl, _, _, hFollowed, hRest⟩
    · obtain ⟨hPolicy, hPair⟩ := ih hTail
      exact ⟨hPolicy.trans hFollowed.redirects, hPair⟩

omit h

/-- Behind a hop to another origin no request carries a sensitive header; the redirects are counted, never lead to a
URL twice, and a method other than `GET` and `HEAD` is redirected only with `allowPost`. -/
theorem redirects_safe (toLowerCase : Text → Text) (resolve : Url → Text → Except ClientError Url)
    (request : Request) (answers : List Answer) :
    (∀ front first second back,
      sendHttpRequestWithRedirects toLowerCase resolve request answers = front ++ first :: second :: back →
        (httpOriginKey toLowerCase first.url ≠ httpOriginKey toLowerCase second.url →
          ∀ later ∈ second :: back, ∀ entry ∈ later.headers,
            isHttpSensitiveHeader toLowerCase request.redirects.secretHeaders entry.key entry.value = false) ∧
        (first.method = "GET" ∨ first.method = "HEAD" ∨ request.redirects.allowPost)) ∧
      (sendHttpRequestWithRedirects toLowerCase resolve request answers).length ≤ request.redirects.max + 1 ∧
      ((sendHttpRequestWithRedirects toLowerCase resolve request answers).map (httpUrlToString ·.url)).Nodup := by
  have hHops := @hops_followAll toLowerCase resolve [httpUrlToString request.url] 0 request answers
  refine ⟨fun front first second back hSplit => ?_, Nat.succ_le_succ (hHops.counted (Nat.zero_le _)), ?_⟩
  · obtain ⟨hPolicy, _, _, hFollowed, hBack⟩ := hHops.split hSplit
    rw [← hPolicy]
    refine ⟨fun hOther => ?_, hFollowed.method⟩
    have hClean := hFollowed.stripped hOther
    exact forall_mem_cons.mpr
      ⟨hClean, fun later hLater entry hEntry => hClean entry (hBack.carried later hLater hEntry)⟩
  · obtain ⟨hNew, hNodup⟩ := hHops.fresh
    refine nodup_cons.mpr ⟨fun hMem => ?_, hNodup⟩
    obtain ⟨hop, hHop, hSame⟩ := mem_map.mp hMem
    exact hNew hop hHop (hSame ▸ mem_singleton_self _)

/-- A cookie does not come back with the return to the first origin. -/
example : (sendHttpRequestWithRedirects id
    (fun url location => .ok { url with hostHeader := location.take 1, target := location })
    ⟨⟨asciiText "http", asciiText "a", asciiText "/"⟩, [⟨asciiText "cookie", asciiText "Cookie", []⟩], "GET", [],
      ⟨true, 5, false, false, []⟩⟩
    [⟨302, some (asciiText "b")⟩, ⟨302, some (asciiText "a/x")⟩]).map (·.headers.length) = [1, 0, 0] := by
  decide

end Sloppy.HttpClient.Redirects

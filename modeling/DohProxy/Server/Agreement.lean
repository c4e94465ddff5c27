import DohProxy.Server.Request

/-!
# The same request over two protocols

A request can come over HTTP/1 or HTTP/2, or over HTTP/3. Both ways of handling it should lead to
the same: the same query is worked on, or the request is rejected.

## The model

A `ClientRequest` is what a client asks, and `http1` and `http3Headers` are how it comes. `decision`
forgets with which error a request is rejected. `queryDecision` says for both protocols what becomes
of a request at the path of the queries.

## What is proved

`handled_alike_iff` — **when both protocols handle a request alike**. They do not when the content
type has parameters or blanks, when there are several question marks, when the body is empty or has
512 bytes, and when the two paths are the same.
-/

namespace DohProxy.Server

open Lib Text

/-- A request of a client. -/
structure ClientRequest where
  /-- The method. -/
  method : List Char
  /-- The path. -/
  path : List Char
  /-- The query, if there is one. -/
  query : Option (List Char)
  /-- The content type. -/
  contentType : Option (List Char)
  /-- The types that the client accepts. -/
  accept : Option (List Char)
  /-- The body. -/
  body : List UInt8
  /-- The path begins with a slash. -/
  path_absolute : path.head? = some '/'
  /-- The query begins at the first question mark. -/
  path_ends : '?' ∉ path
  /-- There is no fragment. -/
  no_fragment : '#' ∉ path ∧ ∀ text ∈ query, '#' ∉ text
  /-- The header values are of visible ASCII characters. -/
  contentType_visible : ∀ value ∈ contentType, value.all isVisibleAscii = true
  /-- The header values are of visible ASCII characters. -/
  accept_visible : ∀ value ∈ accept, value.all isVisibleAscii = true

namespace ClientRequest

/-- The path with the query. -/
def target (r : ClientRequest) : List Char :=
  match r.query with
  | none => r.path
  | some query => r.path ++ '?' :: query

/-- The request over HTTP/1 or HTTP/2, with the length of the body told before or not. -/
def http1 (r : ClientRequest) (known : Bool) : Request where
  method := r.method
  uri := ⟨r.path, r.query⟩
  contentType := r.contentType.map some
  accept := r.accept.map some
  body := ⟨if known then some r.body.length else none, some r.body⟩

/-- The headers of the request over HTTP/3. -/
def http3Headers (r : ClientRequest) : List Header :=
  ⟨":method", some r.method⟩ :: ⟨":path", some r.target⟩ ::
    ((r.contentType.map fun value => ⟨"content-type", some value⟩).toList ++
      (r.accept.map fun value => ⟨"accept", some value⟩).toList)

end ClientRequest

/-- The body that comes in over a stream. -/
def bodyOf : List InboundFrame → List UInt8
  | [] => []
  | .body data fin :: frames => data ++ if fin then [] else bodyOf frames
  | .datagram _ :: frames => bodyOf frames

/-- What is worked on, if anything is. -/
def Handling.decision (h : Handling) : Option Handling := if h.rejects then none else some h

namespace ClientRequest

/-- The parameters: all that is after the first question mark. -/
def params (r : ClientRequest) : List Char := r.query.getD []

/-- The parameters up to a second question mark. -/
def paramsCut (r : ClientRequest) : List Char := firstPart '?' r.params

/-- The type that is asked for, parameters of the content type and blanks around it aside. -/
def type (r : ClientRequest) : Option DoHType :=
  match r.contentType with
  | some value => DoHType.ofStr (toAsciiLowercase (trim (firstPart ';' value)))
  | none => (r.accept.bind (acceptable contentTypes)).bind DoHType.ofStr

/-- Whether the content type, if there is one, has no parameters and no blanks around it. -/
def plain (r : ClientRequest) : Bool :=
  r.contentType.all fun value => trim (firstPart ';' value) = value

end ClientRequest

/-- Whether a message of a type may be posted. -/
def Globals.mayPost (globals : Globals) : DoHType → Bool
  | .standard => !globals.disablePost
  | .oblivious => !globals.disablePost || globals.allowOdohPost
  | .json => false

/-- What becomes of a request at the path of the queries, by its type, its parameters and whether its
body is of a length that will do. -/
def queryDecision (globals : Globals) (decode : List Char → Option (List UInt8)) (r : ClientRequest)
    (type : Option DoHType) (params : List Char) (fits : Bool) : Option Handling :=
  type.bind fun type =>
    if r.method = "POST".toList then
      if globals.mayPost type && fits then some (.payload type r.body) else none
    else if r.method = "GET".toList then
      if type = .json then some (.json params) else (dnsQuery decode params).map (.payload type)
    else none

/-- What becomes of a request at the path of the keys. -/
def odohConfigsDecision (r : ClientRequest) : Option Handling :=
  if r.method = "GET".toList then some .odohConfigs else none

/-! ## The two protocols -/

variable {globals : Globals} {decode : List Char → Option (List UInt8)} {r : ClientRequest}

theorem HeaderValue.toStr_some {text : List Char} (h : text.all isVisibleAscii = true) :
    HeaderValue.toStr (some text) = some text := by
  simp only [HeaderValue.toStr, Option.filter_some, h, if_true]

theorem eq_asStr_of_ofStr {text : List Char} {type : DoHType} (h : DoHType.ofStr text = some type) :
    text = type.asStr := by
  unfold DoHType.ofStr at h
  split at h
  · next heq => rw [heq, ← Option.some.inj h]
  · split at h
    · next heq => rw [heq, ← Option.some.inj h]
    · split at h
      · next heq => rw [heq, ← Option.some.inj h]
      · cases h

/-- There is no semicolon and no blank in a content type. -/
theorem asStr_plain (type : DoHType) : ∀ c ∈ type.asStr, c ≠ ';' ∧ isWhiteSpace c = false := by
  have hall : type.asStr.all (fun c => c ≠ ';' ∧ isWhiteSpace c = false) = true := by
    cases type <;> decide
  exact fun c hc => of_decide_eq_true (List.all_eq_true.mp hall c hc)

/-- A text that is a content type but for its case has no parameters and no blanks around it. -/
theorem plain_of_ofStr {text : List Char} {type : DoHType}
    (h : DoHType.ofStr (toAsciiLowercase text) = some type) :
    trim (firstPart ';' text) = text := by
  have hlower := eq_asStr_of_ofStr h
  have hplain : ∀ c ∈ text, c.toLower ≠ ';' ∧ isWhiteSpace c.toLower = false := by
    intro c hc
    apply asStr_plain type
    rw [← hlower]
    exact List.mem_map_of_mem hc
  have hsemicolon : ';' ∉ text := fun hmem => (hplain ';' hmem).1 rfl
  rw [firstPart_of_notMem hsemicolon]
  apply trim_eq_self
  intro c hc
  rw [Bool.eq_false_iff]
  intro hspace
  have := (hplain c hc).2
  rw [toLower_of_isWhiteSpace hspace, hspace] at this
  cases this

/-- The content types are as they are looked for. -/
theorem contentTypes_plain : ∀ text ∈ contentTypes,
    toAsciiLowercase (trim (firstPart ';' text)) = text ∧ toAsciiLowercase text = text := by
  decide

theorem mem_of_acceptable {accept text : List Char}
    (h : acceptable contentTypes accept = some text) :
    text ∈ contentTypes := by
  obtain ⟨part, -, hpart⟩ := List.exists_of_findSome?_eq_some h
  exact List.mem_of_find?_eq_some hpart

/-- The type over HTTP/1 and HTTP/2. -/
theorem parseContentType_http1 (r : ClientRequest) (known : Bool) :
    (parseContentType (r.http1 known)).toOption = (if r.plain then r.type else none) ∧
      ∀ response, parseContentType (r.http1 known) = .error response → response.rejects = true := by
  cases hct : r.contentType with
  | none =>
    have hplain : r.plain = true := by simp [ClientRequest.plain, hct]
    have haccept : acceptableContentType (r.http1 known).accept contentTypes =
        r.accept.bind (acceptable contentTypes) := by
      cases ha : r.accept with
      | none => simp [acceptableContentType, ClientRequest.http1, ha]
      | some value =>
        simp [acceptableContentType, ClientRequest.http1, ha,
          HeaderValue.toStr_some (r.accept_visible value ha)]
    have hnone : (r.http1 known).contentType = none := by simp [ClientRequest.http1, hct]
    simp only [parseContentType, hnone, haccept, hplain, if_true, ClientRequest.type, hct]
    cases hfound : r.accept.bind (acceptable contentTypes) with
    | none => exact ⟨rfl, fun response h => by cases h; rfl⟩
    | some text =>
      obtain ⟨accept, -, hacc⟩ := Option.bind_eq_some_iff.mp hfound
      simp only [pure_bind, (contentTypes_plain text (mem_of_acceptable hacc)).2, Option.bind_some]
      cases DoHType.ofStr text with
      | none => exact ⟨rfl, fun response h => by cases h; rfl⟩
      | some type => exact ⟨rfl, fun response h => by cases h⟩
  | some value =>
    have hsome : (r.http1 known).contentType = some (some value) := by
      simp [ClientRequest.http1, hct]
    simp only [parseContentType, hsome, HeaderValue.toStr_some
      (r.contentType_visible value hct), pure_bind,
      ClientRequest.plain, ClientRequest.type, hct, Option.all_some, decide_eq_true_eq]
    cases htype : DoHType.ofStr (toAsciiLowercase value) with
    | none =>
      refine ⟨?_, fun response h => by cases h; rfl⟩
      by_cases hplain : trim (firstPart ';' value) = value
      · rw [if_pos hplain, hplain, htype]
        rfl
      · rw [if_neg hplain]
        rfl
    | some type =>
      rw [plain_of_ofStr htype, htype]
      exact ⟨by simp; rfl, fun response h => by cases h⟩

/-- The type over HTTP/3. -/
theorem parseH3ContentType_eq (r : ClientRequest) :
    (parseH3ContentType r.contentType r.accept).toOption = r.type := by
  cases hct : r.contentType with
  | none =>
    simp only [parseH3ContentType, ClientRequest.type, hct]
    cases ha : r.accept with
    | none => rfl
    | some accept =>
      cases hfound : acceptable contentTypes accept with
      | none => simp only [Option.bind_some, hfound]; rfl
      | some text =>
        simp only [Option.bind_some, hfound, pure_bind,
          (contentTypes_plain text (mem_of_acceptable hfound)).1]
        cases DoHType.ofStr text <;> rfl
  | some value =>
    simp only [parseH3ContentType, ClientRequest.type, hct, pure_bind]
    cases DoHType.ofStr (toAsciiLowercase (trim (firstPart ';' value))) <;> rfl

/-- The body over HTTP/3. -/
theorem readH3Body_eq (frames : List InboundFrame) (body : List UInt8) :
    body.length ≤ maxDnsQuestionLen →
    readH3Body body frames =
      if body.length + (bodyOf frames).length ≤ maxDnsQuestionLen then some (body ++ bodyOf frames)
      else none := by
  induction frames generalizing body with
  | nil =>
    intro h
    simp [readH3Body, bodyOf, h]
  | cons frame frames ih =>
    intro h
    cases frame with
    | datagram data =>
      simp only [readH3Body, bodyOf]
      exact ih body h
    | body data fin =>
      simp only [readH3Body, bodyOf, List.length_append]
      by_cases hover : body.length + data.length > maxDnsQuestionLen
      · rw [if_pos hover, if_neg (by omega)]
      · rw [if_neg hover]
        cases fin with
        | true => simp; omega
        | false =>
          simp only [Bool.false_eq_true, if_false]
          rw [ih (body ++ data) (by simp; omega), List.length_append,
            List.append_assoc, Nat.add_assoc]

theorem decision_of_rejects {h : Handling} (hr : h.rejects = true) : h.decision = none := by
  rw [Handling.decision, if_pos hr]

@[simp] theorem decision_error (status : StatusCode) (longCache : Bool) :
    (Handling.error status longCache).decision = none :=
  rfl

@[simp] theorem decision_payload (type : DoHType) (query : List UInt8) :
    (Handling.payload type query).decision = some (.payload type query) := rfl

theorem readBody_http1 (r : ClientRequest) (known : Bool) :
    readBody (r.http1 known).body =
      if r.body.length < maxDnsQuestionLen then .ok r.body else .error .tooLarge := by
  by_cases hfits : r.body.length < maxDnsQuestionLen
  · cases known <;> simp [readBody, ClientRequest.http1, hfits, Nat.not_le.mpr hfits] <;> rfl
  · cases known <;> simp [readBody, ClientRequest.http1, hfits, Nat.not_lt.mp hfits] <;> rfl

theorem serveQueryGet_decision (type : DoHType) (r : ClientRequest) (known : Bool) :
    (serveQueryGet decode type (r.http1 known)).decision = (dnsQuery decode r.params).map
      (.payload type) := by
  have hquery : queryFromQueryString decode (r.http1 known) = dnsQuery decode r.params := rfl
  rw [serveQueryGet, hquery]
  cases dnsQuery decode r.params <;> rfl

theorem serveQueryPost_decision (type : DoHType) (r : ClientRequest) (known : Bool) :
    (serveQueryPost type (r.http1 known)).decision =
      if r.body.length < maxDnsQuestionLen then some (.payload type r.body) else none := by
  rw [serveQueryPost, readBody_http1]
  by_cases hfits : r.body.length < maxDnsQuestionLen
  · simp only [if_pos hfits, decision_payload]
  · simp only [if_neg hfits, decision_error]

theorem servePost_decision {type : DoHType} {known : Bool}
    (hparse : parseContentType (r.http1 known) = .ok type) :
    (servePost globals (r.http1 known)).decision =
      if globals.mayPost type && decide (r.body.length < maxDnsQuestionLen) then
        some (.payload type r.body)
      else none := by
  cases type with
  | standard =>
    cases hdisable : globals.disablePost <;>
      simp [servePost, hparse, serveDohPost, hdisable, Globals.mayPost, serveQueryPost_decision]
  | oblivious =>
    cases hdisable : globals.disablePost <;> cases hallow : globals.allowOdohPost <;>
      simp [servePost, hparse, serveOdohPost, hdisable, hallow, Globals.mayPost,
        serveQueryPost_decision]
  | json => simp [servePost, hparse, Globals.mayPost]

theorem serveGet_decision {type : DoHType} {known : Bool}
    (hparse : parseContentType (r.http1 known) = .ok type) :
    (serveGet decode (r.http1 known)).decision =
      if type = .json then some (.json r.params)
      else (dnsQuery decode r.params).map (.payload type) := by
  cases type with
  | standard => simp [serveGet, hparse, serveQueryGet_decision]
  | oblivious => simp [serveGet, hparse, serveQueryGet_decision]
  | json =>
    rw [serveGet, hparse, if_pos rfl]
    rfl

/-- What becomes of a request over HTTP/1 or HTTP/2. -/
theorem call_decision (r : ClientRequest) (known : Bool) :
    (call globals decode (r.http1 known)).decision =
      if r.path = globals.path then
        queryDecision globals decode r (if r.plain then r.type else none) r.params
          (r.body.length < maxDnsQuestionLen)
      else if r.path = globals.odohConfigsPath then odohConfigsDecision r
      else none := by
  obtain ⟨htype, hrejects⟩ := parseContentType_http1 r known
  have hpath : (r.http1 known).uri.path = r.path := rfl
  have hmethod : (r.http1 known).method = r.method := rfl
  simp only [call, hpath, hmethod]
  by_cases hquery : r.path = globals.path
  · simp only [hquery, if_true]
    rw [← htype]
    cases hparse : parseContentType (r.http1 known) with
    | error response =>
      have hresponse := decision_of_rejects (hrejects response hparse)
      have hpost : servePost globals (r.http1 known) = response := by rw [servePost, hparse]
      have hget : serveGet decode (r.http1 known) = response := by rw [serveGet, hparse]
      rw [hpost, hget]
      split
      · exact hresponse
      · split
        · exact hresponse
        · rfl
    | ok type =>
      simp only [queryDecision, Except.toOption, Option.bind_some]
      split
      · exact servePost_decision hparse
      · split
        · exact serveGet_decision hparse
        · rfl
  · simp only [hquery, if_false]
    by_cases hkeys : r.path = globals.odohConfigsPath
    · simp only [hkeys, if_true, odohConfigsDecision]
      split <;> rfl
    · simp only [hkeys, if_false]
      rfl

theorem h3HeaderValue_http3Headers (r : ClientRequest) :
    h3HeaderValue r.http3Headers ":method" = some r.method ∧
      h3HeaderValue r.http3Headers ":path" = some r.target ∧
      h3HeaderValue r.http3Headers "content-type" = r.contentType ∧
        h3HeaderValue r.http3Headers "accept" = r.accept := by
  refine ⟨rfl, ?_, ?_, ?_⟩
  · simp [h3HeaderValue, ClientRequest.http3Headers]
  · cases hct : r.contentType <;> cases ha : r.accept <;>
      simp [h3HeaderValue, ClientRequest.http3Headers, hct, ha]
  · cases hct : r.contentType <;> cases ha : r.accept <;>
      simp [h3HeaderValue, ClientRequest.http3Headers, hct, ha]

theorem firstPart_target (r : ClientRequest) : firstPart '?' r.target = r.path := by
  cases hquery : r.query <;> simp [ClientRequest.target, hquery, r.path_ends]

theorem secondPart_target (r : ClientRequest) :
    (secondPart '?' r.target).getD [] = r.paramsCut := by
  cases hquery : r.query with
  | none => simp [ClientRequest.target, ClientRequest.paramsCut, ClientRequest.params,
    hquery, r.path_ends]
  | some query => simp [ClientRequest.target, ClientRequest.paramsCut, ClientRequest.params,
    hquery, r.path_ends]

/-- What becomes of a posted query over HTTP/3. -/
theorem h3Post_decision (type : DoHType) (body : List UInt8) :
    (if type = .json then .error 405 false
      else if type = .standard ∧ globals.disablePost then .error 405 false
      else if type = .oblivious ∧ globals.disablePost ∧
        ¬ globals.allowOdohPost then .error 405 false
      else match (if body.length ≤ maxDnsQuestionLen then some body
        else none : Option (List UInt8)) with
        | none => .error 413 false
        | some [] => .error 400 true
        | some query => .payload type query : Handling).decision =
      if globals.mayPost type && decide (body.length ≠ 0 ∧ body.length ≤ maxDnsQuestionLen) then
        some (.payload type body)
      else none := by
  have hread : (match (if body.length ≤ maxDnsQuestionLen then some body
    else none : Option (List UInt8)) with
        | none => .error 413 false
        | some [] => .error 400 true
        | some query => .payload type query : Handling).decision =
      if body.length ≠ 0 ∧ body.length ≤ maxDnsQuestionLen then some (.payload type body)
      else none := by
    by_cases hfits : body.length ≤ maxDnsQuestionLen
    · rw [if_pos hfits]
      cases body with
      | nil => rfl
      | cons b bs =>
        rw [if_pos ⟨by simp, hfits⟩]
        rfl
    · simp [hfits]
  cases type with
  | standard => cases hdisable : globals.disablePost <;> simp [hdisable, Globals.mayPost, hread]
  | oblivious =>
    cases hdisable : globals.disablePost <;> cases hallow : globals.allowOdohPost <;>
      simp [hdisable, hallow, Globals.mayPost, hread]
  | json => simp [Globals.mayPost]

/-- What becomes of a request over HTTP/3. -/
theorem h3Handling_decision (r : ClientRequest) {frames : List InboundFrame}
    (hframes : bodyOf frames = r.body) :
    (h3Handling globals decode r.http3Headers frames).decision =
      if r.path = globals.odohConfigsPath then odohConfigsDecision r
      else if r.path = globals.path then
        queryDecision globals decode r r.type r.paramsCut
          (r.body.length ≠ 0 ∧ r.body.length ≤ maxDnsQuestionLen)
      else none := by
  obtain ⟨hmethod, hpath, hct, haccept⟩ := h3HeaderValue_http3Headers r
  have hbody : readH3Body [] frames = if r.body.length ≤ maxDnsQuestionLen then some r.body
    else none := by
    have := readH3Body_eq frames [] (Nat.zero_le _)
    simpa [hframes] using this
  simp only [h3Handling, hmethod, hpath, hct, haccept, Option.getD_some,
    firstPart_target, secondPart_target,
    queryFromPath, hbody, ← parseH3ContentType_eq r]
  by_cases hkeys : r.path = globals.odohConfigsPath
  · simp only [hkeys, if_true, odohConfigsDecision]
    split <;> rfl
  · simp only [hkeys, if_false]
    by_cases hquery : r.path = globals.path
    · simp only [hquery, ne_eq, not_true_eq_false, if_false, if_true]
      cases hparse : parseH3ContentType r.contentType r.accept with
      | error status => rfl
      | ok type =>
        simp only [queryDecision, Except.toOption, Option.bind_some]
        by_cases hget : r.method = "GET".toList
        · simp only [hget, true_and, if_true]
          split
          · rfl
          · cases dnsQuery decode r.paramsCut <;> rfl
        · simp only [hget, false_and, if_false]
          by_cases hpost : r.method = "POST".toList
          · simp only [hpost, true_and, if_true]
            exact h3Post_decision type r.body
          · simp only [hpost, false_and, if_false, decision_error]
    · simp only [hquery, ne_eq, not_false_eq_true, if_true, if_false]
      rfl

/-! ## When they agree -/

/-- When both protocols handle a query of a type alike: where HTTP/1 does not know its content type,
HTTP/3 rejects it for something else; a second question mark makes no difference; and the body is
not at one of the limits. -/
def ClientRequest.AlikeQuery (globals : Globals) (decode : List Char → Option (List UInt8))
    (r : ClientRequest) (type : DoHType) : Prop :=
  (r.method = "GET".toList → type = .json → r.plain = true ∧ '?' ∉ r.params) ∧
  (r.method = "GET".toList → type ≠ .json →
    dnsQuery decode r.paramsCut = if r.plain then dnsQuery decode r.params else none) ∧
  (r.method = "POST".toList → globals.mayPost type = true →
    if r.plain then r.body.length ≠ 0 ∧ r.body.length ≠ maxDnsQuestionLen
    else r.body.length = 0 ∨ maxDnsQuestionLen < r.body.length)

/-- When both protocols handle a request alike: it is not one for the queries, or none of the
differences matters. -/
def ClientRequest.Alike (globals : Globals) (decode : List Char → Option (List UInt8))
    (r : ClientRequest) : Prop :=
  r.path = globals.path →
    if globals.path = globals.odohConfigsPath then
      -- over HTTP/3 it is one for the keys
      r.method ≠ "GET".toList ∧ (r.method = "POST".toList → r.plain = true →
        r.body.length < maxDnsQuestionLen →
        ∀ type, r.type = some type → globals.mayPost type = false)
    else ∀ type, r.type = some type → r.AlikeQuery globals decode type

theorem get_ne_post : "GET".toList ≠ "POST".toList := by decide

section

variable {type : DoHType} {params : List Char} {fits : Bool}

theorem queryDecision_none : queryDecision globals decode r none params fits = none := rfl

theorem queryDecision_post (hpost : r.method = "POST".toList) :
    queryDecision globals decode r (some type) params fits =
    if globals.mayPost type && fits then some (.payload type r.body) else none := by
  rw [queryDecision, Option.bind_some, if_pos hpost]

theorem queryDecision_get (hget : r.method = "GET".toList) :
    queryDecision globals decode r (some type) params fits =
    if type = .json then some (.json params) else (dnsQuery decode params).map (.payload type) := by
  rw [queryDecision, Option.bind_some, if_neg (by rw [hget]; exact get_ne_post), if_pos hget]

theorem queryDecision_other (hget : r.method ≠ "GET".toList) (hpost : r.method ≠ "POST".toList) :
    queryDecision globals decode r (some type) params fits = none := by
  rw [queryDecision, Option.bind_some, if_neg hpost, if_neg hget]

end

/-- The keys are not what becomes of a query. -/
theorem queryDecision_ne_odohConfigs {type : Option DoHType} {params : List Char} {fits : Bool} :
    queryDecision globals decode r type params fits ≠ some .odohConfigs := by
  cases type with
  | none => simp [queryDecision_none]
  | some type =>
    by_cases hpost : r.method = "POST".toList
    · rw [queryDecision_post hpost]
      split <;> simp
    · by_cases hget : r.method = "GET".toList
      · rw [queryDecision_get hget]
        split
        · simp
        · cases dnsQuery decode params <;> simp
      · simp [queryDecision_other hget hpost]

/-- Where the paths are the same. -/
theorem agree_same_path (r : ClientRequest) (fits : Bool) :
    queryDecision globals decode r (if r.plain then r.type else none) r.params fits =
        odohConfigsDecision r ↔
      r.method ≠ "GET".toList ∧ (r.method = "POST".toList → r.plain = true → fits = true →
        ∀ type, r.type = some type → globals.mayPost type = false) := by
  by_cases hget : r.method = "GET".toList
  · rw [odohConfigsDecision, if_pos hget]
    exact iff_of_false queryDecision_ne_odohConfigs fun h => h.1 hget
  · rw [odohConfigsDecision, if_neg hget, and_iff_right hget]
    cases hplain : r.plain with
    | false => simp [queryDecision_none]
    | true =>
      cases htype : r.type with
      | none => simp [queryDecision_none]
      | some type =>
        by_cases hpost : r.method = "POST".toList
        · rw [if_pos rfl, queryDecision_post hpost]
          cases hmay : globals.mayPost type <;> cases fits <;> simp [hpost, hmay]
        · rw [if_pos rfl, queryDecision_other hget hpost]
          exact iff_of_true rfl fun h => absurd h hpost

/-- A posted query, where the paths are not the same. -/
theorem agree_post {type : DoHType} (hpost : r.method = "POST".toList) (plain : Bool) :
    queryDecision globals decode r (if plain then some type else none) r.params
        (r.body.length < maxDnsQuestionLen) =
      queryDecision globals decode r (some type) r.paramsCut
        (r.body.length ≠ 0 ∧ r.body.length ≤ maxDnsQuestionLen) ↔
      (globals.mayPost type = true →
        if plain then r.body.length ≠ 0 ∧ r.body.length ≠ maxDnsQuestionLen
        else r.body.length = 0 ∨ maxDnsQuestionLen < r.body.length) := by
  have hmax : maxDnsQuestionLen = 512 := rfl
  rw [queryDecision_post hpost]
  generalize r.body.length = n
  cases hmay : globals.mayPost type with
  | false => cases plain <;> simp [queryDecision_none, queryDecision_post hpost, hmay]
  | true =>
    cases plain with
    | false =>
      simp only [Bool.false_eq_true, if_false, queryDecision_none, Bool.true_and,
        decide_eq_true_eq, true_imp_iff]
      split <;> simp <;> omega
    | true =>
      simp only [if_true, queryDecision_post hpost, hmay, Bool.true_and,
        decide_eq_true_eq, true_imp_iff]
      split <;> split <;> simp <;> omega

/-- A query in the parameters, where the paths are not the same. -/
theorem agree_get {type : DoHType} (hget : r.method = "GET".toList) (plain fits fits' : Bool) :
    queryDecision globals decode r (if plain then some type else none) r.params fits =
        queryDecision globals decode r (some type) r.paramsCut fits' ↔
      (type = .json → plain = true ∧ '?' ∉ r.params) ∧
        (type ≠ .json →
          dnsQuery decode r.paramsCut = if plain then dnsQuery decode r.params else none) := by
  rw [queryDecision_get hget]
  by_cases hjson : type = .json
  · cases plain with
    | false => simp [hjson, queryDecision_none]
    | true =>
      simp only [hjson, if_true, queryDecision_get hget, Option.some.injEq, Handling.json.injEq,
        true_imp_iff, true_and,
        ne_eq, not_true_eq_false, false_imp_iff, and_true]
      rw [eq_comm, ClientRequest.paramsCut, firstPart_eq_self_iff]
  · cases plain with
    | false =>
      simp only [hjson, Bool.false_eq_true, if_false, queryDecision_none,
        false_imp_iff, true_and, ne_eq,
        not_false_eq_true, true_imp_iff]
      rw [eq_comm, Option.map_eq_none_iff]
    | true =>
      simp only [hjson, if_true, if_false, queryDecision_get hget, false_imp_iff, true_and, ne_eq,
        not_false_eq_true, true_imp_iff]
      rw [eq_comm]
      refine ⟨fun h => ?_, fun h => by rw [h]⟩
      exact Option.map_injective (fun _ _ heq => (Handling.payload.inj heq).2) h

/-- Where the paths are not the same. -/
theorem agree_other_path (r : ClientRequest) :
    queryDecision globals decode r (if r.plain then r.type else none) r.params
        (r.body.length < maxDnsQuestionLen) =
      queryDecision globals decode r r.type r.paramsCut
        (r.body.length ≠ 0 ∧ r.body.length ≤ maxDnsQuestionLen) ↔
      ∀ type, r.type = some type → r.AlikeQuery globals decode type := by
  cases htype : r.type with
  | none => simp [queryDecision_none]
  | some type =>
    simp only [Option.some.injEq, forall_eq', ClientRequest.AlikeQuery]
    by_cases hpost : r.method = "POST".toList
    · have hget : r.method ≠ "GET".toList := by rw [hpost]; exact get_ne_post.symm
      rw [agree_post hpost]
      exact ⟨fun h => ⟨fun hg => absurd hg hget, fun hg => absurd hg hget, fun _ => h⟩,
        fun h => h.2.2 hpost⟩
    · by_cases hget : r.method = "GET".toList
      · rw [agree_get hget]
        exact ⟨fun h => ⟨fun _ => h.1, fun _ => h.2, fun hp => absurd hp hpost⟩,
          fun h => ⟨h.1 hget, h.2.1 hget⟩⟩
      · rw [queryDecision_other hget hpost]
        refine iff_of_true ?_
          ⟨fun hg => absurd hg hget, fun hg => absurd hg hget, fun hp => absurd hp hpost⟩
        cases r.plain
        · exact queryDecision_none
        · exact queryDecision_other hget hpost

/-- **When both protocols handle a request alike.** -/
theorem handled_alike_iff (globals : Globals) (decode : List Char → Option (List UInt8))
    (r : ClientRequest)
    (known : Bool) (frames : { frames : List InboundFrame // bodyOf frames = r.body }) :
    (call globals decode (r.http1 known)).decision =
      (h3Handling globals decode r.http3Headers frames).decision ↔
      r.Alike globals decode := by
  rw [call_decision, h3Handling_decision r frames.property, ClientRequest.Alike]
  by_cases hquery : r.path = globals.path
  · simp only [hquery, if_true, true_imp_iff]
    by_cases hsame : globals.path = globals.odohConfigsPath
    · simp only [hsame, if_true]
      rw [agree_same_path]
      simp only [decide_eq_true_eq]
    · simp only [hsame, if_false]
      exact agree_other_path r
  · simp only [hquery, if_false, false_imp_iff]

/-- A query is posted with a parameter in its content type, and the type is not known over HTTP/1. -/
theorem not_alike_parameter :
    ∃ (globals : Globals) (r : ClientRequest) (frames : List InboundFrame), bodyOf frames = r.body ∧
      r.contentType = some "application/dns-message; charset=utf-8".toList ∧
      ∀ decode known, call globals decode (r.http1 known) = .error 415 true ∧
        h3Handling globals decode r.http3Headers frames = .payload .standard r.body := by
  refine ⟨⟨"/dns-query".toList, "/odohconfigs".toList, false, false, false⟩,
    { method := "POST".toList, path := "/dns-query".toList, query := none
      contentType := some "application/dns-message; charset=utf-8".toList, accept := none
      body := List.replicate 17 0
      path_absolute := rfl, path_ends := by decide, no_fragment := by decide
      contentType_visible := by decide, accept_visible := by decide },
    [.body (List.replicate 17 0) true], by decide, rfl, ?_⟩
  intro decode known
  constructor
  · cases known <;> rfl
  · rfl

end DohProxy.Server

import DohProxy.Json.Query
import DohProxy.Json.Response
import DohProxy.Server.Request

/-!
# Answering over HTTP/3

`handle_h3_request` and `handle_doh_payload` of `lib.rs`, with `serve_json_query`,
`send_h3_response` and `send_h3_error`, and next to them `serve_doh_query` and `serve_odoh` of
HTTP/1 and HTTP/2.

## The model

A request is worked on by what the `Services` do: the upstream exchange, the cryptography of
oblivious queries and the libraries. What is sent is a list of frames; every frame can be sent.
Nobody looks at the result of `handle_h3_request`: what counts are the frames.

## What is proved

`answered_iff` — **when a request is answered over HTTP/3 with exactly one response**, and with the
status of the error if one of the steps fails. An error of a query that is no JSON query is lost:
nothing is sent.
-/

namespace DohProxy.Server

open Lib Outcome Text Net Json

/-- A response of the upstream. -/
structure DnsResponse where
  /-- The packet. -/
  packet : List UInt8
  /-- How long it may be kept, in seconds. -/
  ttl : UInt32

/-- What a request is worked on with. -/
structure Services (Context : Type) where
  /-- `proxy`. -/
  proxy : List UInt8 → Option IpAddr → Except DoHError DnsResponse
  /-- `decrypt_query`. -/
  decryptQuery : List UInt8 → Except DoHError (List UInt8 × Context)
  /-- `encrypt_response`. -/
  encryptResponse : Context → List UInt8 → Except DoHError (List UInt8)
  /-- `into_config` of the public key. -/
  odohConfigs : List UInt8
  /-- `BASE64_URL_SAFE_NO_PAD.decode`. -/
  decode : List Char → Option (List UInt8)
  /-- `BASE64_STANDARD.encode`, for the JSON answer. -/
  base64 : List UInt8 → String
  /-- `urlencoding::decode`. -/
  urlDecode : List Char → Option (List Char)
  /-- The random transaction id. -/
  transactionId : UInt8 × UInt8
  /-- A status and a comment as JSON. -/
  commentJson : ℕ → String → List UInt8
  /-- An answer as JSON. -/
  responseJson : DnsJsonResponse → Option (List UInt8)

/-- `parse::<u16>().ok()`. -/
def parseU16 (text : List Char) : Option UInt16 :=
  let digits : List Char := match text with
    | '+' :: rest => rest
    | text => text
  let n := digits.foldl (fun n c => n * 10 + (c.toNat - '0'.toNat)) 0
  if digits ≠ [] ∧ digits.all Char.isDigit ∧ n < 65536 then some (UInt16.ofNat n) else none

/-- Whether a flag is set. -/
def isSet (value : List Char) : Bool := value = ['1'] || value = "true".toList

/-- The parameters of a JSON query. -/
def jsonQuery (urlDecode : List Char → Option (List Char)) (queryParams : List Char) :
    DnsJsonQuery :=
  (queryParams.splitOn '&').foldl (fun query part =>
    match secondPart '=' part with
    | none => query
    | some v =>
      let k := firstPart '=' part
      if k = "name".toList then { query with name := utf8 ((urlDecode v).getD []) }
      else if k = "type".toList then { query with qtype := parseU16 v }
      else if k = "cd".toList then { query with cd := some (isSet v) }
      else if k = "do".toList then { query with do_ := some (isSet v) }
      else if k = "edns_client_subnet".toList then { query with ednsClientSubnet := some (utf8 v) }
      else query) ⟨[], none, none, none, none⟩

/-- How long an answer may be kept, as a header value. -/
def cacheControl (maxAge : ℕ) : String :=
  "max-age=" ++ maxAge.repr ++ ", stale-if-error=" ++ staleIfErrorSecs.repr ++
    ", stale-while-revalidate=" ++
    staleWhileRevalidateSecs.repr

/-- The value of the header that tells for how long an error may be kept. -/
def longCacheControl : String := "max-age=31536000, immutable"

/-- A response to a JSON query. -/
structure H3Response where
  /-- The status. -/
  status : StatusCode
  /-- The content type. -/
  contentType : List Char
  /-- The body. -/
  body : List UInt8
  /-- How long it may be kept. -/
  cacheControl : Option String

/-- A response that tells what is wrong. -/
def commentResponse {Context : Type} (services : Services Context) (status : StatusCode)
    (comment : String) : H3Response :=
  ⟨status, DoHType.json.asStr, services.commentJson status.toNat comment, none⟩

section

variable {Context : Type} (globals : Globals) (services : Services Context)

/-- `serve_json_query`. -/
def serveJsonQuery (fuel : ℕ) (queryParams : List Char) (clientIp : Option IpAddr) :
    Outcome DoHError H3Response :=
  let query := jsonQuery services.urlDecode queryParams
  if query.name.isEmpty then .ok (commentResponse services 400 "Missing 'name' parameter")
  else match buildDnsQuery query services.transactionId.1 services.transactionId.2 with
    | .err e => .ok (commentResponse services 400 ("Invalid query: " ++ e))
    | .panic => .panic
    | .timeout => .timeout
    | .ok packet =>
      match services.proxy packet clientIp with
      | .error e => .err e
      | .ok response =>
        match parseDnsToJson services.base64 fuel response.packet with
        | .err e => .ok (commentResponse services 500 ("Failed to parse DNS response: " ++ e))
        | .panic => .panic
        | .timeout => .timeout
        | .ok json =>
          match services.responseJson json with
          | none => .err .invalidData
          | some body => .ok ⟨200, DoHType.json.asStr, body, some (cacheControl response.ttl.toNat)⟩

/-! ## HTTP/1 and HTTP/2 -/

/-- A response over HTTP/1 or HTTP/2. -/
structure Response where
  /-- The status. -/
  status : StatusCode
  /-- The headers. -/
  headers : List (String × String)
  /-- The body. -/
  body : List UInt8

/-- `http_error`. -/
def httpError (status : StatusCode) : Response := ⟨status, [], []⟩

/-- `build_response`. -/
def buildResponse (packet : List UInt8) (ttl : ℕ) (contentType : List Char)
    (cors : Bool) : Response where
  status := 200
  headers := [("content-length", packet.length.repr), ("content-type", String.ofList contentType),
    ("cache-control", cacheControl ttl)] ++
      if cors then [("access-control-allow-origin", "*")] else []
  body := packet

/-- `serve_doh_query`. -/
def serveDohQuery (query : List UInt8) (clientIp : Option IpAddr) : Response :=
  match services.proxy query clientIp with
  | .ok response => buildResponse response.packet response.ttl.toNat DoHType.standard.asStr true
  | .error e => httpError (StatusCode.ofDohError e)

/-- `serve_odoh`. -/
def serveOdoh (encryptedQuery : List UInt8) : Response :=
  match services.decryptQuery encryptedQuery with
  | .error e => httpError (StatusCode.ofDohError e)
  | .ok (query, context) =>
    match services.proxy query none with
    | .error e => httpError (StatusCode.ofDohError e)
    | .ok response =>
      match services.encryptResponse context response.packet with
      | .error e => httpError (StatusCode.ofDohError e)
      | .ok encryptedResponse => buildResponse encryptedResponse 0 DoHType.oblivious.asStr false

/-! ## HTTP/3 -/

/-- What goes out over a stream. -/
inductive OutboundFrame where
  /-- A block of headers. -/
  | headers (fields : List (String × String))
  /-- A piece of the body, and whether it is the last one. -/
  | body (data : List UInt8) (fin : Bool)
  deriving DecidableEq

/-- A computation that sends frames. -/
abbrev Sending := Proc (List OutboundFrame) DoHError

/-- A step that may fail, with the `?` after it. -/
def tries {α : Type} (x : Except DoHError α) : Sending α :=
  Proc.lift (match x with
    | .ok a => .ok a
    | .error e => .err e)

/-- `send.send`. -/
def sendFrame (frame : OutboundFrame) : Sending Unit :=
  Proc.modifies fun sent => .ok (sent ++ [frame])

/-- The headers of a response. -/
def h3ResponseHeaders (status : StatusCode) (contentType : String) (body : List UInt8)
    (cacheControl : Option String)
    (cors : Bool) : List (String × String) :=
  (":status", status.toNat.repr) :: ("content-type", contentType) ::
    ("content-length", body.length.repr) ::
    ((cacheControl.map fun value => ("cache-control", value)).toList ++
      if cors then [("access-control-allow-origin", "*")] else [])

/-- `send_h3_response`. -/
def sendH3Response (status : StatusCode) (contentType : String) (body : List UInt8)
    (cacheControl : Option String)
    (cors : Bool) : Sending Unit := do
  sendFrame (.headers (h3ResponseHeaders status contentType body cacheControl cors))
  if body ≠ [] then sendFrame (.body body true)

/-- `send_h3_error`. -/
def sendH3Error (status : StatusCode) (longCache : Bool) : Sending Unit :=
  sendH3Response status "text/plain" [] (if longCache then some longCacheControl else none) false

/-- `handle_doh_payload`. -/
def handleDohPayload (payload : List UInt8) (dohType : DoHType) (clientIp : Option IpAddr)
    (cors : Bool) :
    Sending Unit :=
  match dohType with
  | .standard => do
    let response ← tries (services.proxy payload clientIp)
    sendH3Response 200 (String.ofList DoHType.standard.asStr) response.packet
      (some (cacheControl response.ttl.toNat)) cors
  | .oblivious => do
    let (query, context) ← tries (services.decryptQuery payload)
    let response ← tries (services.proxy query none)
    let encryptedResponse ← tries (services.encryptResponse context response.packet)
    sendH3Response 200 (String.ofList DoHType.oblivious.asStr) encryptedResponse
      (some (cacheControl 0)) false
  | .json => sendH3Error 405 false

/-- What `handle_h3_request` does with a JSON query. -/
def handleJsonQuery (fuel : ℕ) (queryParams : List Char) (clientIp : Option IpAddr) : Sending Unit :=
  match serveJsonQuery services fuel queryParams clientIp with
  | .ok response =>
    sendH3Response response.status (String.ofList response.contentType) response.body
      response.cacheControl true
  | .err e => sendH3Error (StatusCode.ofDohError e) false
  | .panic => Proc.lift .panic
  | .timeout => Proc.lift .timeout

/-- What `handle_h3_request` sends for what a request comes to. -/
def h3Respond (fuel : ℕ) (clientIp : Option IpAddr) : Handling → Sending Unit
  | .odohConfigs =>
    sendH3Response 200 "application/octet-stream" services.odohConfigs
      (some (cacheControl odohKeyRotationSecs)) true
  | .error status longCache => sendH3Error status longCache
  | .json params => handleJsonQuery services fuel params clientIp
  | .payload dohType query => handleDohPayload services query dohType clientIp (dohType = .standard)

/-- `handle_h3_request`. -/
def handleH3Request (remoteAddr : Option SocketAddr) (fuel : ℕ) (headers : List Header)
    (frames : List InboundFrame) : Sending Unit :=
  h3Respond services fuel (if globals.enableEcs then remoteAddr.map SocketAddr.ip else none)
    (h3Handling globals services.decode headers frames)

end

/-! ## What is sent -/

/-- The blocks of headers among some frames. -/
def headerBlocks (sent : List OutboundFrame) : List (List (String × String)) :=
  sent.filterMap fun
    | .headers fields => some fields
    | .body .. => none

/-- The error of a step. -/
def errorOf {α : Type} : Except DoHError α → Option DoHError
  | .ok _ => none
  | .error e => some e

section

variable {Context : Type} (services : Services Context) (clientIp : Option IpAddr)

/-- What the upstream says to a JSON query, if it is asked. -/
def jsonReply (params : List Char) : Option (Except DoHError DnsResponse) :=
  let query := jsonQuery services.urlDecode params
  if query.name.isEmpty then none
  else match buildDnsQuery query services.transactionId.1 services.transactionId.2 with
    | .ok packet => some (services.proxy packet clientIp)
    | _ => none

/-- The error of the first step that fails: of the decryption, of the exchange or of the encryption. -/
def failure : Handling → Option DoHError
  | .payload .standard query => errorOf (services.proxy query clientIp)
  | .payload .oblivious query =>
    match services.decryptQuery query with
    | .error e => some e
    | .ok (query, context) =>
      match services.proxy query none with
      | .error e => some e
      | .ok response => errorOf (services.encryptResponse context response.packet)
  | .json params => (jsonReply services clientIp params).bind errorOf
  | _ => none

/-- What a request needs to be answered: no step fails where `handle_doh_payload` is called, and the
packet of a JSON query can be read to its end. -/
def Answerable : Handling → Prop
  | .payload dohType query => failure services clientIp (.payload dohType query) = none
  | .json params => ∀ response, jsonReply services clientIp params = some (.ok response) →
      ∃ fuel, (parseDnsToJson services.base64 fuel response.packet).Finished
  | _ => True

end

/-- Whether a request is answered with one response, which has the status of an error. -/
def Answered (run : Outcome DoHError Unit × List OutboundFrame)
    (failure : Option DoHError) : Prop :=
  run.1.Finished ∧ ∃ fields, headerBlocks run.2 = [fields] ∧
    ∀ e, failure = some e → fields.lookup ":status" = some (StatusCode.ofDohError e).toNat.repr

variable {Context : Type} {services : Services Context} {clientIp : Option IpAddr}
    {sent : List OutboundFrame}

theorem sendFrame_apply (frame : OutboundFrame) :
    sendFrame frame sent = (.ok (), sent ++ [frame]) := rfl

theorem sendH3Response_apply (status : StatusCode) (contentType : String) (body : List UInt8)
    (cacheControl : Option String) (cors : Bool) :
    sendH3Response status contentType body cacheControl cors sent =
      (.ok (), sent ++ .headers (h3ResponseHeaders status contentType body cacheControl cors) ::
        if body = [] then [] else [.body body true]) := by
  rw [sendH3Response, Proc.bind_apply, sendFrame_apply, Proc.next_ok]
  by_cases hbody : body = []
  · rw [if_pos hbody, if_neg (not_not_intro hbody)]
    rfl
  · rw [if_neg hbody, if_pos hbody, sendFrame_apply, List.append_assoc]
    rfl

/-- A response is one block of headers, with its status. -/
theorem answered_sendH3Response {status : StatusCode} {contentType : String} {body : List UInt8}
    {cacheControl : Option String} {cors : Bool} {failure : Option DoHError}
    (h : ∀ e, failure = some e → status = StatusCode.ofDohError e) :
    Answered (sendH3Response status contentType body cacheControl cors []) failure := by
  rw [sendH3Response_apply]
  refine ⟨trivial, h3ResponseHeaders status contentType body cacheControl cors, ?_, ?_⟩
  · by_cases hbody : body = [] <;> simp [headerBlocks, hbody]
  · intro e he
    rw [← h e he]
    rfl

/-- Where a step fails with `?` after it, nothing is sent. -/
theorem not_answered_nil {x : Outcome DoHError Unit} {failure : Option DoHError} :
    ¬ Answered (x, []) failure := by
  intro h
  obtain ⟨-, fields, hfields, -⟩ := h
  cases hfields

/-- **A query** that is no JSON query is answered exactly when no step fails. -/
theorem answered_handleDohPayload (payload : List UInt8) (dohType : DoHType) (cors : Bool) :
    Answered (handleDohPayload services payload dohType clientIp cors [])
      (failure services clientIp (.payload dohType payload)) ↔
      failure services clientIp (.payload dohType payload) = none := by
  cases dohType with
  | standard =>
    simp only [handleDohPayload, failure, Proc.bind_apply, tries, Proc.lift_apply]
    cases services.proxy payload clientIp with
    | error e => simpa [errorOf] using not_answered_nil
    | ok response =>
      refine iff_of_true ?_ rfl
      exact answered_sendH3Response fun e he => by cases he
  | oblivious =>
    simp only [handleDohPayload, failure, Proc.bind_apply, tries, Proc.lift_apply]
    cases services.decryptQuery payload with
    | error e => simpa using not_answered_nil
    | ok decrypted =>
      obtain ⟨query, context⟩ := decrypted
      simp only [Proc.next_ok, Proc.bind_apply, Proc.lift_apply]
      cases services.proxy query none with
      | error e => simpa using not_answered_nil
      | ok response =>
        simp only [Proc.next_ok, Proc.bind_apply, Proc.lift_apply]
        cases services.encryptResponse context response.packet with
        | error e => simpa [errorOf] using not_answered_nil
        | ok encryptedResponse =>
          refine iff_of_true ?_ rfl
          exact answered_sendH3Response fun e he => by cases he
  | json =>
    refine iff_of_true ?_ rfl
    exact answered_sendH3Response fun e he => by cases he

/-- What a JSON query comes to, by what the upstream says. -/
theorem serveJsonQuery_cases (services : Services Context) (clientIp : Option IpAddr) (fuel : ℕ)
    (params : List Char) :
    match jsonReply services clientIp params with
    | none => ∃ response, serveJsonQuery services fuel params clientIp = .ok response
    | some (.error e) => serveJsonQuery services fuel params clientIp = .err e
    | some (.ok response) => (serveJsonQuery services fuel params clientIp).Finished ↔
        (parseDnsToJson services.base64 fuel response.packet).Finished := by
  unfold jsonReply serveJsonQuery
  by_cases hname : (jsonQuery services.urlDecode params).name.isEmpty = true
  · simp only [if_pos hname]
    exact ⟨_, rfl⟩
  · simp only [if_neg hname, buildDnsQuery_eq]
    generalize services.proxy _ clientIp = reply
    cases reply with
    | error e => rfl
    | ok response =>
      dsimp only
      cases parseDnsToJson services.base64 fuel response.packet with
      | ok json =>
        dsimp only
        cases services.responseJson json <;> exact Iff.rfl
      | err e => exact Iff.rfl
      | panic => exact Iff.rfl
      | timeout => exact Iff.rfl

/-- A JSON query is answered exactly when `serve_json_query` comes to an end. -/
theorem answered_handleJsonQuery_iff {fuel : ℕ} {params : List Char} {failure : Option DoHError}
    (hfailure : ∀ e, failure = some e → serveJsonQuery services fuel params clientIp = .err e) :
    Answered (handleJsonQuery services fuel params clientIp []) failure ↔
      (serveJsonQuery services fuel params clientIp).Finished := by
  unfold handleJsonQuery
  cases hserve : serveJsonQuery services fuel params clientIp with
  | ok response =>
    refine iff_of_true (answered_sendH3Response fun e he => ?_) trivial
    have := hfailure e he
    rw [hserve] at this
    cases this
  | err e =>
    refine iff_of_true (answered_sendH3Response fun e' he => ?_) trivial
    have := hfailure e' he
    rw [hserve] at this
    cases this
    rfl
  | panic => exact iff_of_false not_answered_nil id
  | timeout => exact iff_of_false not_answered_nil id

/-- **A JSON query** is answered exactly when what comes back for it can be read to its end. -/
theorem answered_json (params : List Char) :
    (∃ fuel, Answered (handleJsonQuery services fuel params clientIp [])
      (failure services clientIp (.json params))) ↔ Answerable services clientIp (.json params) := by
  have hcases := fun fuel => serveJsonQuery_cases services clientIp fuel params
  simp only [failure, Answerable]
  cases hreply : jsonReply services clientIp params with
  | none =>
    simp only [hreply] at hcases
    refine iff_of_true ⟨0, (answered_handleJsonQuery_iff fun e he => by cases he).mpr ?_⟩
      fun response h => by cases h
    obtain ⟨response, hserve⟩ := hcases 0
    rw [hserve]
    trivial
  | some reply =>
    cases reply with
    | error e =>
      simp only [hreply] at hcases
      refine iff_of_true ⟨0, (answered_handleJsonQuery_iff fun e' he => ?_).mpr ?_⟩
        fun response h => by cases h
      · rw [hcases 0, ← Option.some.inj he]
      · rw [hcases 0]
        trivial
    | ok response =>
      simp only [hreply] at hcases
      simp only [Option.some.injEq, Except.ok.injEq, forall_eq']
      refine exists_congr fun fuel => Iff.trans ?_ (hcases fuel)
      exact answered_handleJsonQuery_iff fun e he => by cases he

/-- **When a request is answered with one response**: exactly when no step fails for a query that is
no JSON query, and when what comes back for a JSON query can be read to its end. -/
theorem answered_iff (globals : Globals) (services : Services Context)
    (remoteAddr : Option SocketAddr) (headers : List Header) (frames : List InboundFrame) :
    let clientIp := if globals.enableEcs then remoteAddr.map SocketAddr.ip else none
    let handling := h3Handling globals services.decode headers frames
    (∃ fuel, Answered (handleH3Request globals services remoteAddr fuel headers frames [])
      (failure services clientIp handling)) ↔ Answerable services clientIp handling := by
  intro clientIp handling
  have hrun : ∀ fuel, handleH3Request globals services remoteAddr fuel headers frames =
      h3Respond services fuel clientIp handling := fun _ => rfl
  simp only [hrun]
  cases handling with
  | odohConfigs => exact iff_of_true ⟨0, answered_sendH3Response fun e he => by cases he⟩ trivial
  | error status longCache =>
    exact iff_of_true ⟨0, answered_sendH3Response fun e he => by cases he⟩ trivial
  | json params => exact answered_json params
  | payload dohType query =>
    simp only [h3Respond, exists_const]
    exact answered_handleDohPayload query dohType _

/-- Over HTTP/1 and HTTP/2 the error of a step is answered with its status. -/
theorem serveDohQuery_failure {query : List UInt8} {e : DoHError}
    (h : failure services clientIp (.payload .standard query) = some e) :
    (serveDohQuery services query clientIp).status = StatusCode.ofDohError e := by
  simp only [failure] at h
  unfold serveDohQuery
  cases hproxy : services.proxy query clientIp with
  | ok response => simp [hproxy, errorOf] at h
  | error e' =>
    rw [hproxy] at h
    exact congrArg StatusCode.ofDohError (Option.some.inj h)

theorem serveOdoh_failure {query : List UInt8} {e : DoHError}
    (h : failure services clientIp (.payload .oblivious query) = some e) :
    (serveOdoh services query).status = StatusCode.ofDohError e := by
  simp only [failure] at h
  unfold serveOdoh
  cases hdecrypt : services.decryptQuery query with
  | error e' =>
    rw [hdecrypt] at h
    exact congrArg StatusCode.ofDohError (Option.some.inj h)
  | ok decrypted =>
    obtain ⟨inner, context⟩ := decrypted
    simp only [hdecrypt] at h ⊢
    cases hproxy : services.proxy inner none with
    | error e' =>
      rw [hproxy] at h
      exact congrArg StatusCode.ofDohError (Option.some.inj h)
    | ok response =>
      simp only [hproxy] at h ⊢
      cases hencrypt : services.encryptResponse context response.packet with
      | error e' =>
        rw [hencrypt] at h
        exact congrArg StatusCode.ofDohError (Option.some.inj h)
      | ok encryptedResponse => simp [hencrypt, errorOf] at h

/-- A query is posted and the upstream does not answer in time: over HTTP/3 nothing is sent, over
HTTP/1 and HTTP/2 the status is 502. -/
theorem not_answered_upstreamTimeout :
    ∃ (globals : Globals) (services : Services Unit) (headers : List Header) (query : List UInt8),
      services.proxy query none = .error .upstreamTimeout ∧
      h3Handling globals services.decode headers [.body query true] = .payload .standard query ∧
      (∀ fuel, (handleH3Request globals services none fuel headers [.body query true] []).2 = []) ∧
      (serveDohQuery services query none).status = 502 := by
  refine ⟨⟨"/dns-query".toList, "/odohconfigs".toList, false, false, false⟩,
    { proxy := fun _ _ => .error .upstreamTimeout
      decryptQuery := fun _ => .error .invalidData
      encryptResponse := fun _ _ => .error .invalidData
      odohConfigs := []
      decode := fun _ => none
      base64 := fun _ => ""
      urlDecode := some
      transactionId := (0, 0)
      commentJson := fun _ _ => []
      responseJson := fun _ => none },
    [⟨":method", some "POST".toList⟩, ⟨":path", some "/dns-query".toList⟩,
      ⟨"content-type", some "application/dns-message".toList⟩],
    List.replicate 17 0, rfl, rfl, fun fuel => rfl, rfl⟩

end DohProxy.Server

import DohProxy.Net.IpText
import DohProxy.Server.Agreement
import DohProxy.Server.H3Request

/-!
# The same response over two protocols

What a request comes to is sent as a response over HTTP/1 or HTTP/2, and as frames over HTTP/3. This
is what is left of `Service::call` in `lib.rs`, with `extract_client_ip` of `edns_ecs.rs`, next to
`handle_h3_request`.

## The model

`Seen` is what a client can see of a response. An error has no content type over HTTP/1 and HTTP/2;
over HTTP/3 it is an empty text, of the type `text/plain`.

## What is proved

* `responses_alike_iff` — **when a client sees the same over both protocols** for what its request
  has come to: where no step fails for a query that is no JSON query.
* `same_response_iff` — the same of whole requests, which come to the same and are told apart by no
  header on the way.
-/

namespace DohProxy.Server

open Lib Outcome Text Net Json

/-! ### The client -/

/-- The headers that tell from where a request has been forwarded. -/
structure Forwarded where
  /-- `x-forwarded-for`. -/
  xForwardedFor : Option HeaderValue
  /-- `x-real-ip`. -/
  xRealIp : Option HeaderValue

/-- `extract_client_ip`. -/
def extractClientIp (headers : Forwarded) (remoteAddr : Option SocketAddr) : Option IpAddr :=
  let xff := do
    let value ← headers.xForwardedFor
    let text ← HeaderValue.toStr value
    IpAddr.fromStr (trim (firstPart ',' text))
  let xri := do
    let value ← headers.xRealIp
    let text ← HeaderValue.toStr value
    IpAddr.fromStr text
  (xff.or xri).or (remoteAddr.map SocketAddr.ip)

section

variable {Context : Type} (globals : Globals) (services : Services Context)

/-! ### HTTP/1 and HTTP/2 -/

/-- `http_error_with_cache`. -/
def httpErrorWithCache (status : StatusCode) : Response :=
  ⟨status, [("cache-control", longCacheControl)], []⟩

/-- `serve_json_get`. -/
def serveJsonGet (fuel : ℕ) (queryParams : List Char) (clientIp : Option IpAddr) :
    Outcome DoHError Response :=
  match serveJsonQuery services fuel queryParams clientIp with
  | .err e => .ok (httpError (StatusCode.ofDohError e))
  | .panic => .panic
  | .timeout => .timeout
  | .ok response => .ok
    { status := response.status
      headers := ("content-type", String.ofList response.contentType) ::
        ((response.cacheControl.map fun value => ("cache-control", value)).toList ++
          [("access-control-allow-origin", "*")])
      body := response.body }

/-- What is sent for what a request comes to. -/
def respond (fuel : ℕ) (clientIp : Option IpAddr) : Handling → Outcome DoHError Response
  | .odohConfigs => .ok
    (buildResponse services.odohConfigs odohKeyRotationSecs "application/octet-stream".toList true)
  | .error status longCache =>
    .ok (if longCache then httpErrorWithCache status else httpError status)
  | .json params => serveJsonGet services fuel params clientIp
  | .payload .standard query => .ok (serveDohQuery services query clientIp)
  | .payload .oblivious query => .ok (serveOdoh services query)
  | .payload .json _ => .ok (httpError 405)

/-- The response to a request. -/
def serve (forwarded : Forwarded) (remoteAddr : Option SocketAddr) (fuel : ℕ) (req : Request) :
    Outcome DoHError Response :=
  let clientIp := if globals.enableEcs then extractClientIp forwarded remoteAddr else none
  respond services fuel clientIp (call globals services.decode req)

end

/-! ### What a client sees -/

/-- What a client sees of a response. -/
structure Seen where
  /-- The status. -/
  status : Option String
  /-- The content type. -/
  contentType : Option String
  /-- How long it may be kept. -/
  cacheControl : Option String
  /-- Whether other sites may read it. -/
  cors : Option String
  /-- The body. -/
  body : List UInt8

/-- What a client sees of some headers and a body. -/
def Seen.ofFields (fields : List (String × String)) (body : List UInt8) : Seen where
  status := fields.lookup ":status"
  contentType := fields.lookup "content-type"
  cacheControl := fields.lookup "cache-control"
  cors := fields.lookup "access-control-allow-origin"
  body := body

/-- What a client sees of a response over HTTP/1 or HTTP/2. -/
def Response.seen (response : Response) : Seen :=
  .ofFields ((":status", response.status.toNat.repr) :: response.headers) response.body

/-- The body that goes out over a stream. -/
def sentBody (sent : List OutboundFrame) : List UInt8 :=
  sent.flatMap fun
    | .headers _ => []
    | .body data _ => data

/-- What a client sees of a response over HTTP/3, if there is one. -/
def seenOf (sent : List OutboundFrame) : Option Seen :=
  match headerBlocks sent with
  | [fields] => some (.ofFields fields (sentBody sent))
  | _ => none

/-- A client sees the same, but that what has no content type over HTTP/1 and HTTP/2 is of the type
`text/plain` over HTTP/3. -/
structure Seen.Alike (seen seen' : Seen) : Prop where
  /-- The status. -/
  status : seen.status = seen'.status
  /-- The content type. -/
  contentType : seen'.contentType = some (seen.contentType.getD "text/plain")
  /-- How long it may be kept. -/
  cacheControl : seen.cacheControl = seen'.cacheControl
  /-- Whether other sites may read it. -/
  cors : seen.cors = seen'.cors
  /-- The body. -/
  body : seen.body = seen'.body

/-- Both responses are seen alike. -/
def SeenAlike (x : Outcome DoHError Response) (run : Outcome DoHError Unit × List OutboundFrame) :
    Prop :=
  ∃ response seen, x = .ok response ∧ seenOf run.2 = some seen ∧ response.seen.Alike seen

variable {Context : Type} {services : Services Context} {clientIp : Option IpAddr}

/-- What is seen of a response that is sent over HTTP/3. -/
theorem seenOf_sendH3Response (status : StatusCode) (contentType : String) (body : List UInt8)
    (cacheControl : Option String) (cors : Bool) :
    seenOf (sendH3Response status contentType body cacheControl cors []).2 = some
      { status := some status.toNat.repr
        contentType := some contentType
        cacheControl
        cors := if cors then some "*" else none
        body } := by
  have hfields : Seen.ofFields (h3ResponseHeaders status contentType body cacheControl cors) body =
      { status := some status.toNat.repr
        contentType := some contentType
        cacheControl
        cors := if cors then some "*" else none
        body } := by
    cases cacheControl <;> cases cors <;> rfl
  rw [sendH3Response_apply, ← hfields]
  by_cases hbody : body = []
  · rw [if_pos hbody, hbody]
    rfl
  · rw [if_neg hbody]
    simp [seenOf, headerBlocks, sentBody]

/-- A response is seen like the one that is sent over HTTP/3. -/
theorem seenAlike_send {response : Response} {status : StatusCode} {contentType : String}
    {contentType' : Option String} {body : List UInt8} {cacheControl : Option String} {cors : Bool}
    (hseen : response.seen =
      { status := some status.toNat.repr
        contentType := contentType'
        cacheControl
        cors := if cors then some "*" else none
        body })
    (htype : contentType = contentType'.getD "text/plain") :
    SeenAlike (.ok response) (sendH3Response status contentType body cacheControl cors []) := by
  refine ⟨response, _, rfl, seenOf_sendH3Response status contentType body cacheControl cors, ?_⟩
  rw [hseen]
  exact ⟨rfl, congrArg some htype, rfl, rfl, rfl⟩

/-- Where nothing is sent, nothing is seen. -/
theorem not_seenAlike_nil {x : Outcome DoHError Response} {y : Outcome DoHError Unit} :
    ¬ SeenAlike x (y, []) := by
  rintro ⟨response, seen, -, hseen, -⟩
  cases hseen

theorem seen_buildResponse (packet : List UInt8) (ttl : ℕ) (contentType : List Char) (cors : Bool) :
    (buildResponse packet ttl contentType cors).seen =
      { status := some (200 : StatusCode).toNat.repr
        contentType := some (String.ofList contentType)
        cacheControl := some (cacheControl ttl)
        cors := if cors then some "*" else none
        body := packet } := by
  cases cors <;> rfl

/-- A body that has been built. -/
theorem seenAlike_buildResponse {packet : List UInt8} {ttl : ℕ} {contentType : List Char}
    {cors : Bool} : SeenAlike (.ok (buildResponse packet ttl contentType cors))
      (sendH3Response 200 (String.ofList contentType) packet (some (cacheControl ttl)) cors []) :=
  seenAlike_send (seen_buildResponse packet ttl contentType cors) rfl

/-- An error. -/
theorem seenAlike_error (status : StatusCode) (longCache : Bool) :
    SeenAlike (.ok (if longCache then httpErrorWithCache status else httpError status))
      (sendH3Error status longCache []) := by
  cases longCache <;> exact seenAlike_send rfl rfl

/-- **A query** that is no JSON query is answered alike exactly when no step fails. -/
theorem payload_alike_iff (fuel : ℕ) (dohType : DoHType) (query : List UInt8) :
    SeenAlike (respond services fuel clientIp (.payload dohType query))
      (h3Respond services fuel clientIp (.payload dohType query) []) ↔
      failure services clientIp (.payload dohType query) = none := by
  cases dohType with
  | standard =>
    simp only [respond, h3Respond, handleDohPayload, serveDohQuery, failure, Proc.bind_apply, tries,
      Proc.lift_apply]
    cases services.proxy query clientIp with
    | error e => simpa [errorOf] using not_seenAlike_nil
    | ok response => exact iff_of_true seenAlike_buildResponse rfl
  | oblivious =>
    simp only [respond, h3Respond, handleDohPayload, serveOdoh, failure, Proc.bind_apply, tries,
      Proc.lift_apply]
    cases services.decryptQuery query with
    | error e => simpa using not_seenAlike_nil
    | ok decrypted =>
      obtain ⟨inner, context⟩ := decrypted
      simp only [Proc.next_ok, Proc.bind_apply, Proc.lift_apply]
      cases services.proxy inner none with
      | error e => simpa using not_seenAlike_nil
      | ok response =>
        simp only [Proc.next_ok, Proc.bind_apply, Proc.lift_apply]
        cases services.encryptResponse context response.packet with
        | error e => simpa [errorOf] using not_seenAlike_nil
        | ok encryptedResponse => exact iff_of_true seenAlike_buildResponse rfl
  | json => exact iff_of_true (seenAlike_error 405 false) rfl

/-- **A JSON query** is answered alike whenever it is answered. -/
theorem json_alike_iff (fuel : ℕ) (params : List Char) :
    SeenAlike (respond services fuel clientIp (.json params))
      (h3Respond services fuel clientIp (.json params) []) ↔
      (respond services fuel clientIp (.json params)).Finished := by
  simp only [respond, h3Respond, serveJsonGet, handleJsonQuery]
  cases serveJsonQuery services fuel params clientIp with
  | ok response =>
    refine iff_of_true (seenAlike_send ?_ Option.getD_some.symm) trivial
    cases response.cacheControl <;> rfl
  | err e => exact iff_of_true (seenAlike_error (StatusCode.ofDohError e) false) trivial
  | panic | timeout => exact iff_of_false not_seenAlike_nil id

/-- **When both responses are seen alike**: where no step fails for a query that is no JSON query,
and where the packet for a JSON query can be read to its end. -/
theorem responses_alike_iff (services : Services Context) (clientIp : Option IpAddr) (fuel : ℕ)
    (handling : Handling) :
    SeenAlike (respond services fuel clientIp handling)
      (h3Respond services fuel clientIp handling []) ↔
      (respond services fuel clientIp handling).Finished ∧
        ∀ dohType query, handling = .payload dohType query →
          failure services clientIp handling = none := by
  cases handling with
  | odohConfigs => exact iff_of_true seenAlike_buildResponse ⟨trivial, nofun⟩
  | error status longCache => exact iff_of_true (seenAlike_error status longCache) ⟨trivial, nofun⟩
  | json params =>
    rw [json_alike_iff]
    exact ⟨fun h => ⟨h, nofun⟩, fun h => h.1⟩
  | payload dohType query =>
    rw [payload_alike_iff]
    refine ⟨fun h => ⟨?_, fun _ _ _ => h⟩, fun h => h.2 dohType query rfl⟩
    cases dohType <;> trivial

/-- **The same request is answered alike over both protocols**, if both come to the same with it and
no header tells another client, exactly where it is answered over HTTP/1 and HTTP/2 and no step
fails for a query that is no JSON query. -/
theorem same_response_iff (globals : Globals) (services : Services Context) (forwarded : Forwarded)
    (remoteAddr : Option SocketAddr) (fuel : ℕ) (req : Request) (headers : List Header)
    (frames : List InboundFrame)
    (hsame : call globals services.decode req = h3Handling globals services.decode headers frames)
    (hclient : globals.enableEcs = true →
      extractClientIp forwarded remoteAddr = remoteAddr.map SocketAddr.ip) :
    SeenAlike (serve globals services forwarded remoteAddr fuel req)
      (handleH3Request globals services remoteAddr fuel headers frames []) ↔
      (serve globals services forwarded remoteAddr fuel req).Finished ∧
        ∀ dohType query, call globals services.decode req = .payload dohType query →
          failure services (if globals.enableEcs then remoteAddr.map SocketAddr.ip else none)
            (.payload dohType query) = none := by
  have hip : (if globals.enableEcs then extractClientIp forwarded remoteAddr else none) =
      if globals.enableEcs then remoteAddr.map SocketAddr.ip else none := by
    split
    · next hecs => exact hclient hecs
    · rfl
  rw [handleH3Request, ← hsame, serve, hip, responses_alike_iff]
  refine and_congr_right fun _ => forall₂_congr fun dohType query => imp_congr_right fun h => ?_
  rw [h]

/-- A query is posted over both protocols, and the upstream sends it back. -/
theorem same_response_posted :
    ∃ (globals : Globals) (services : Services Unit) (remoteAddr : SocketAddr) (req : Request)
      (headers : List Header) (frames : List InboundFrame), globals.enableEcs = true ∧
      call globals services.decode req = .payload .standard (List.replicate 17 0) ∧
      SeenAlike (serve globals services ⟨none, none⟩ (some remoteAddr) 0 req)
        (handleH3Request globals services (some remoteAddr) 0 headers frames []) := by
  refine ⟨⟨"/dns-query".toList, "/odohconfigs".toList, false, false, true⟩,
    { proxy := fun query _ => .ok ⟨query, 60⟩
      decryptQuery := fun _ => .error .invalidData
      encryptResponse := fun _ _ => .error .invalidData
      odohConfigs := []
      decode := fun _ => none
      base64 := fun _ => ""
      urlDecode := some
      transactionId := (0, 0)
      commentJson := fun _ _ => []
      responseJson := fun _ => none },
    .v4 #v[198, 51, 100, 9] 50000,
    ⟨"POST".toList, ⟨"/dns-query".toList, none⟩, some (some "application/dns-message".toList), none,
      ⟨none, some (List.replicate 17 0)⟩⟩,
    [⟨":method", some "POST".toList⟩, ⟨":path", some "/dns-query".toList⟩,
      ⟨"content-type", some "application/dns-message".toList⟩],
    [.body (List.replicate 17 0) true], rfl, rfl, ?_⟩
  exact (same_response_iff _ _ _ _ _ _ _ _ rfl fun _ => rfl).mpr
    ⟨trivial, fun dohType query h => by cases h; rfl⟩

end DohProxy.Server

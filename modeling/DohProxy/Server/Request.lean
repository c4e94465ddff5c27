import DohProxy.Constants
import DohProxy.Errors
import DohProxy.Lib.Text

/-!
# What a request asks for

A client asks over HTTP/1 and HTTP/2, or over HTTP/3, and each of the two has its own code for
finding out what it asks for: `Service::call` of `lib.rs` with what it calls, and the first part of
`handle_h3_request`.

## The model

Both lead to a `Handling`: an error, or what is to be worked on. What a library does before is done:
the path and the query of a URI are apart over HTTP/1 and HTTP/2, and a header value is its text, if
it is in UTF-8. The decoder of base64 is the parameter `decode`.
-/

namespace DohProxy.Server

open Lib Text

/-- The type of a message. -/
inductive DoHType where
  | standard
  | oblivious
  | json
  deriving DecidableEq

/-- Its content type. -/
def DoHType.asStr : DoHType → List Char
  | .standard => "application/dns-message".toList
  | .oblivious => "application/oblivious-dns-message".toList
  | .json => "application/dns-json".toList

/-- The content types. -/
def contentTypes : List (List Char) :=
  [DoHType.standard.asStr, DoHType.oblivious.asStr, DoHType.json.asStr]

/-- The type that a content type stands for. -/
def DoHType.ofStr (text : List Char) : Option DoHType :=
  if text = DoHType.standard.asStr then some .standard
  else if text = DoHType.oblivious.asStr then some .oblivious
  else if text = DoHType.json.asStr then some .json
  else none

/-- What is configured. -/
structure Globals where
  /-- The path of the queries. -/
  path : List Char
  /-- The path of the keys for oblivious queries. -/
  odohConfigsPath : List Char
  /-- Whether queries may not be posted. -/
  disablePost : Bool
  /-- Whether oblivious queries may be posted all the same. -/
  allowOdohPost : Bool
  /-- Whether the upstream is told the address of the client. -/
  enableEcs : Bool

/-- What is done with a request. -/
inductive Handling where
  /-- The keys for oblivious queries are sent. -/
  | odohConfigs
  /-- An error is sent, and may be kept for a year or not. -/
  | error (status : StatusCode) (longCache : Bool)
  /-- A query with parameters is worked on. -/
  | json (params : List Char)
  /-- A query is worked on. -/
  | payload (type : DoHType) (query : List UInt8)
  deriving DecidableEq

/-- Whether it is an error. -/
def Handling.rejects : Handling → Bool
  | .error .. => true
  | _ => false

/-- A header value: its text, unless its bytes are not UTF-8. -/
abbrev HeaderValue := Option (List Char)

/-- Whether a character is a visible one of ASCII, as `HeaderValue::to_str` takes it. -/
def isVisibleAscii (c : Char) : Bool := (32 ≤ c.toNat && c.toNat < 127) || c == '\t'

/-- `HeaderValue::to_str`: the text, if it is of visible ASCII characters. -/
def HeaderValue.toStr (value : HeaderValue) : Option (List Char) :=
  value.filter fun text => text.all isVisibleAscii

/-- The message in the last parameter `dns`. -/
def dnsQuery (decode : List Char → Option (List UInt8)) (httpQuery : List Char) :
    Option (List UInt8) :=
  let questionStr := (httpQuery.splitOn '&').foldl (fun questionStr part =>
    if firstPart '=' part = dnsQueryParam then secondPart '=' part else questionStr) none
  match questionStr with
  | some questionStr =>
    if byteLength questionStr > maxDnsQuestionLen * 4 / 3 then none else decode questionStr
  | none => none

/-- The first of some content types that is named in a list of them. -/
def acceptable (contentTypes : List (List Char)) (accept : List Char) : Option (List Char) :=
  (accept.splitOn ',').findSome? fun part =>
    let found := toAsciiLowercase (trim (firstPart ';' (trim part)))
    contentTypes.find? (· = found)

/-! ## HTTP/1 and HTTP/2 -/

/-- A URI. -/
structure Uri where
  /-- The path. -/
  path : List Char
  /-- What is after the question mark, if there is one. -/
  query : Option (List Char)
  deriving DecidableEq

/-- A body. -/
structure Body where
  /-- The most bytes it can have, if that is known before. -/
  upper : Option ℕ
  /-- Its bytes, if all of them come. -/
  collected : Option (List UInt8)

/-- A request over HTTP/1 or HTTP/2. -/
structure Request where
  /-- The method. -/
  method : List Char
  /-- The URI. -/
  uri : Uri
  /-- The content type. -/
  contentType : Option HeaderValue
  /-- The types that the client accepts. -/
  accept : Option HeaderValue
  /-- The body. -/
  body : Body

/-- `acceptable_content_type`. -/
def acceptableContentType (accept : Option HeaderValue) (contentTypes : List (List Char)) :
    Option (List Char) :=
  accept.bind fun value => acceptable contentTypes (value.toStr.getD [])

/-- `parse_content_type`: the type, or the error that is sent. -/
def parseContentType (req : Request) : Except Handling DoHType := do
  let contentType ← match req.contentType with
    | none =>
      match acceptableContentType req.accept contentTypes with
      | none => throw (.error 406 true)
      | some contentType => pure contentType
    | some value =>
      match value.toStr with
      | none => throw (.error 400 true)
      | some contentType => pure contentType
  match DoHType.ofStr (toAsciiLowercase contentType) with
  | some type => pure type
  | none => throw (.error 415 true)

/-- `read_body`. -/
def readBody (body : Body) : Except DoHError (List UInt8) :=
  if body.upper.any (· ≥ maxDnsQuestionLen) then throw .tooLarge
  else match body.collected with
    | none => throw .tooLarge
    | some bytes => if bytes.length ≥ maxDnsQuestionLen then throw .tooLarge else pure bytes

section

variable (globals : Globals) (decode : List Char → Option (List UInt8))

/-- `query_from_query_string`. -/
def queryFromQueryString (req : Request) : Option (List UInt8) :=
  dnsQuery decode (req.uri.query.getD [])

/-- `serve_doh_get` and `serve_odoh_get`. -/
def serveQueryGet (type : DoHType) (req : Request) : Handling :=
  match queryFromQueryString decode req with
  | some query => .payload type query
  | none => .error 400 true

/-- What `serve_doh_post` and `serve_odoh_post` do when posting is allowed. -/
def serveQueryPost (type : DoHType) (req : Request) : Handling :=
  match readBody req.body with
  | .ok query => .payload type query
  | .error e => .error (StatusCode.ofDohError e) false

/-- `serve_doh_post`. -/
def serveDohPost (req : Request) : Handling :=
  if globals.disablePost then .error 405 false else serveQueryPost .standard req

/-- `serve_odoh_post`. -/
def serveOdohPost (req : Request) : Handling :=
  if globals.disablePost ∧ ¬ globals.allowOdohPost then .error 405 false
  else serveQueryPost .oblivious req

/-- `serve_get`. -/
def serveGet (req : Request) : Handling :=
  match parseContentType req with
  | .ok .standard => serveQueryGet decode .standard req
  | .ok .oblivious => serveQueryGet decode .oblivious req
  | .ok .json => .json (req.uri.query.getD [])
  | .error response => response

/-- `serve_post`. -/
def servePost (req : Request) : Handling :=
  match parseContentType req with
  | .ok .standard => serveDohPost globals req
  | .ok .oblivious => serveOdohPost globals req
  | .ok .json => .error 405 false
  | .error response => response

/-- `Service::call`. -/
def call (req : Request) : Handling :=
  if req.uri.path = globals.path then
    if req.method = "POST".toList then servePost globals req
    else if req.method = "GET".toList then serveGet decode req
    else .error 405 false
  else if req.uri.path = globals.odohConfigsPath then
    if req.method = "GET".toList then .odohConfigs else .error 405 false
  else .error 404 false

end

/-! ## HTTP/3 -/

/-- A header. -/
structure Header where
  /-- Its name. -/
  name : String
  /-- Its value. -/
  value : HeaderValue

/-- What comes in over a stream. -/
inductive InboundFrame where
  /-- A piece of the body, and whether it is the last one. -/
  | body (data : List UInt8) (fin : Bool)
  /-- A datagram. -/
  | datagram (data : List UInt8)

/-- `h3_header_value`. -/
def h3HeaderValue (headers : List Header) (name : String) : Option (List Char) :=
  (headers.find? (·.name = name)).bind (·.value)

/-- `parse_h3_content_type`. -/
def parseH3ContentType (contentType accept : Option (List Char)) : Except StatusCode DoHType := do
  let contentType ← match contentType with
    | some value => pure value
    | none =>
      match accept with
      | none => throw 406
      | some accept =>
        match acceptable contentTypes accept with
        | some contentType => pure contentType
        | none => throw 406
  match DoHType.ofStr (toAsciiLowercase (trim (firstPart ';' contentType))) with
  | some type => pure type
  | none => throw 415

/-- `query_from_path`. -/
def queryFromPath (decode : List Char → Option (List UInt8)) (path : List Char) :
    Option (List UInt8) :=
  dnsQuery decode ((secondPart '?' path).getD [])

/-- The loop that reads the body, after what it has read: nothing when that is too much. -/
def readH3Body (body : List UInt8) : List InboundFrame → Option (List UInt8)
  | [] => some body
  | .body data fin :: frames =>
    if body.length + data.length > maxDnsQuestionLen then none
    else if fin then some (body ++ data)
    else readH3Body (body ++ data) frames
  | .datagram _ :: frames => readH3Body body frames

/-- What `handle_h3_request` finds out. -/
def h3Handling (globals : Globals) (decode : List Char → Option (List UInt8))
    (headers : List Header)
    (frames : List InboundFrame) : Handling :=
  let method := (h3HeaderValue headers ":method").getD "GET".toList
  let path := (h3HeaderValue headers ":path").getD "/".toList
  let pathOnly := firstPart '?' path
  let contentType := h3HeaderValue headers "content-type"
  let accept := h3HeaderValue headers "accept"
  if pathOnly = globals.odohConfigsPath then
    if method = "GET".toList then .odohConfigs else .error 405 false
  else if pathOnly ≠ globals.path then .error 404 true
  else match parseH3ContentType contentType accept with
    | .error status => .error status true
    | .ok type =>
      if method = "GET".toList ∧ type = .json then .json ((secondPart '?' path).getD [])
      else if method = "GET".toList then
        match queryFromPath decode path with
        | some query => .payload type query
        | none => .error 400 true
      else if method = "POST".toList ∧ type = .json then .error 405 false
      else if method = "POST".toList then
        if type = .standard ∧ globals.disablePost then .error 405 false
        else if type = .oblivious ∧ globals.disablePost ∧ ¬ globals.allowOdohPost then
          .error 405 false
        else match readH3Body [] frames with
          | none => .error 413 false
          | some [] => .error 400 true
          | some query => .payload type query
      else .error 405 false

end DohProxy.Server

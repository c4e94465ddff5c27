/-!
# Errors

The errors of the proxy, as in `errors.rs`: what is kept of an attempt that failed, the text of an
error, and the status it is answered with. Errors of other libraries are their texts.
-/

namespace DohProxy

/-- `io::ErrorKind`. -/
inductive ErrorKind where
  | notFound | permissionDenied | connectionRefused | connectionReset | connectionAborted
  | notConnected | addrInUse | addrNotAvailable | brokenPipe | alreadyExists | wouldBlock
  | invalidInput | invalidData | timedOut | writeZero | interrupted | unsupported | unexpectedEof
  | outOfMemory | other
  deriving DecidableEq

/-- `io::Error`. -/
structure IoError where
  /-- Its kind. -/
  kind : ErrorKind
  /-- Its text. -/
  text : String
  deriving DecidableEq

/-- The kind of an error. -/
inductive UpstreamErrorKind where
  | incomplete | invalidData | tooLarge | upstreamIssue | upstreamTimeout | staleKey | hyper | io | odohConfigError
  | tooManyTcpSessions
  deriving DecidableEq

/-- Its text. -/
def UpstreamErrorKind.toString : UpstreamErrorKind → String
  | .incomplete => "incomplete"
  | .invalidData => "invalid_data"
  | .tooLarge => "too_large"
  | .upstreamIssue => "upstream_issue"
  | .upstreamTimeout => "upstream_timeout"
  | .staleKey => "stale_key"
  | .hyper => "hyper"
  | .io => "io"
  | .odohConfigError => "odoh_config_error"
  | .tooManyTcpSessions => "too_many_tcp_sessions"

/-- An attempt that failed. -/
structure UpstreamAttemptError where
  /-- The address of the upstream. -/
  address : String
  /-- How long it took, in nanoseconds. -/
  duration : Nat
  /-- The kind of the error. -/
  errorKind : UpstreamErrorKind
  /-- The text of the error. -/
  errorMessage : String
  deriving DecidableEq

/-- An error. -/
inductive DoHError where
  | incomplete
  | invalidData
  | tooLarge
  | upstreamIssue
  | upstreamTimeout
  | staleKey
  | hyper (e : String)
  | io (e : String)
  | odohConfigError (e : String)
  | tooManyTcpSessions
  | upstreamJoined (attempts : List UpstreamAttemptError)
  deriving DecidableEq

/-- The kind of an error. -/
def UpstreamErrorKind.fromDohError : DoHError → UpstreamErrorKind
  | .incomplete => .incomplete
  | .invalidData => .invalidData
  | .tooLarge => .tooLarge
  | .upstreamIssue => .upstreamIssue
  | .upstreamTimeout => .upstreamTimeout
  | .staleKey => .staleKey
  | .hyper _ => .hyper
  | .io _ => .io
  | .odohConfigError _ => .odohConfigError
  | .tooManyTcpSessions => .tooManyTcpSessions
  | .upstreamJoined _ => .upstreamIssue

/-- What is shown of an attempt that failed. -/
def UpstreamAttemptError.toString (attempt : UpstreamAttemptError) : String :=
  "; " ++ attempt.address ++ " (kind=" ++ attempt.errorKind.toString ++ ", duration_ms=" ++
    Nat.repr (attempt.duration / 1000000) ++ "): " ++ attempt.errorMessage

/-- The text of an error. -/
def DoHError.toString : DoHError → String
  | .incomplete => "Incomplete"
  | .invalidData => "Invalid data"
  | .tooLarge => "Too large"
  | .upstreamIssue => "Upstream error"
  | .upstreamTimeout => "Upstream timeout"
  | .staleKey => "Stale key material"
  | .hyper e => "HTTP error: " ++ e
  | .io e => "IO error: " ++ e
  | .odohConfigError e => "ODoH config error: " ++ e
  | .tooManyTcpSessions => "Too many TCP sessions"
  | .upstreamJoined attempts => "All upstreams failed" ++
    String.join (attempts.map UpstreamAttemptError.toString)

/-- What is kept of an error. -/
def UpstreamAttemptError.fromDohError (address : String) (duration : Nat) (err : DoHError) :
    UpstreamAttemptError :=
  ⟨address, duration, .fromDohError err, err.toString⟩

/-- The error when all attempts failed. -/
def DoHError.fromUpstreamAttempts (attempts : List UpstreamAttemptError) : DoHError :=
  if attempts.isEmpty then .upstreamIssue else .upstreamJoined attempts

/-- A status code. -/
abbrev StatusCode := UInt16

/-- The status an error is answered with. -/
def StatusCode.ofDohError : DoHError → StatusCode
  | .incomplete => 422
  | .invalidData => 400
  | .tooLarge => 413
  | .upstreamIssue => 502
  | .upstreamTimeout => 502
  | .staleKey => 401
  | .hyper _ => 503
  | .io _ => 500
  | .odohConfigError _ => 500
  | .tooManyTcpSessions => 503
  | .upstreamJoined _ => 502

end DohProxy

import DohProxy.Errors

/-!
# Which failures are worth another try

A request to a DoH upstream fails in many ways, and some are worth another connection: those the
functions at the end of `lib.rs` call retryable. An error of `std` may hold the error it was made
from, and that one another: its sources. The code asks an I/O error for its source, and no other
error. Of the errors of other libraries the model has what the code asks them.

## What is proved

`retryable_iff` — which failures are retryable, for each way a failure is made. **Of the errors that
are reached through I/O errors alone, none may be one that no connection mends**, whatever the
sources of the others are. A `DoHError` is taken as it is, an error of hyper is never held against a
QUIC connection, and one of the client that could not connect is retryable whatever it was made from.
-/

namespace DohProxy.Upstream.Retryable

/-! ### Errors -/

/-- What `hyper::Error` tells of itself. -/
structure HyperError where
  /-- `is_parse`. -/
  isParse : Bool
  /-- `is_parse_too_large`. -/
  isParseTooLarge : Bool
  /-- `is_parse_status`. -/
  isParseStatus : Bool
  /-- `is_user`. -/
  isUser : Bool
  /-- `is_timeout`. -/
  isTimeout : Bool
  /-- Its text. -/
  text : String
  deriving DecidableEq

/-- `quiche::Error`. -/
inductive QuicheError where
  | tlsFail
  | cryptoFail
  /-- Any other one. -/
  | other
  deriving DecidableEq

/-- `h3::Error`. -/
inductive H3Error where
  | transportError (err : QuicheError)
  /-- Any other one. -/
  | other
  deriving DecidableEq

/-- `H3ConnectionError`. -/
inductive H3ConnectionError where
  | h3 (err : H3Error)
  | nonexistentStream
  /-- Any other one. -/
  | other
  deriving DecidableEq

/-- An error apart from its source, by the types that the code looks for. The errors of QUIC and the
rest come with their texts. -/
inductive Cause where
  | io (err : IoError)
  | hyper (err : HyperError)
  /-- `HandshakeError`. -/
  | handshake (text : String)
  | h3Connection (err : H3ConnectionError) (text : String)
  | h3 (err : H3Error) (text : String)
  /-- Any other one. -/
  | other (text : String)
  deriving DecidableEq

/-- `dyn Error`. -/
structure StdError where
  /-- The error itself. -/
  cause : Cause
  /-- Its source, the source of that, and so on. That of an I/O error is what `get_ref` gives, and
  that of any other one what `source` gives. -/
  sources : List Cause
  deriving DecidableEq

/-- `hyper_util::client::legacy::Error`. -/
structure HyperLegacyError where
  /-- `is_connect`. -/
  isConnect : Bool
  /-- `source`. -/
  source : Option StdError

/-- A `DoHError` with what it holds. -/
inductive DoHFailure where
  | incomplete
  | invalidData
  | tooLarge
  | upstreamIssue
  | upstreamTimeout
  | staleKey
  | hyper (err : HyperError)
  | io (err : IoError)
  | odohConfigError (text : String)
  | tooManyTcpSessions
  | upstreamJoined (attempts : List UpstreamAttemptError)

/-! ### What the code says of them -/

/-- `is_no_rebuild_io_error`. -/
def isNoRebuildIoError (err : IoError) : Bool :=
  match err.kind with
  | .invalidInput | .invalidData | .unsupported => true
  | .permissionDenied | .alreadyExists | .addrInUse => true
  | _ => false

/-- `is_no_rebuild_hyper_error`. -/
def isNoRebuildHyperError (err : HyperError) : Bool :=
  err.isParse || err.isParseTooLarge || err.isParseStatus || err.isUser

/-- `is_retryable_hyper_error`. -/
def isRetryableHyperError (err : HyperError) : Bool := !isNoRebuildHyperError err

/-- `is_no_rebuild_h3_error`. -/
def isNoRebuildH3Error : H3Error → Bool
  | .transportError .tlsFail => true
  | .transportError .cryptoFail => true
  | _ => false

/-- `is_retryable_h3_error`. -/
def isRetryableH3Error (err : H3Error) : Bool := !isNoRebuildH3Error err

/-- `is_no_rebuild_h3_connection_error`. -/
def isNoRebuildH3ConnectionError : H3ConnectionError → Bool
  | .h3 err => isNoRebuildH3Error err
  | .nonexistentStream => true
  | _ => false

/-- `is_retryable_h3_connection_error`. -/
def isRetryableH3ConnectionError (err : H3ConnectionError) : Bool :=
  !isNoRebuildH3ConnectionError err

mutual

/-- `is_retryable_io_error`, for an error with these sources. -/
def isRetryableIoError (err : IoError) : List Cause → Bool
  | [] => if isNoRebuildIoError err then false else true
  | source :: sources =>
    if isNoRebuildIoError err then false else isRetryableCause source sources

/-- `is_retryable_std_error`, for an error with these sources. Of its call of
`is_retryable_quic_error` only what that does for the three types is left. -/
def isRetryableCause : Cause → List Cause → Bool
  | .io err, sources => isRetryableIoError err sources
  | .hyper err, _ => isRetryableHyperError err
  | .handshake _, _ => true
  | .h3Connection err _, _ => isRetryableH3ConnectionError err
  | .h3 err _, _ => isRetryableH3Error err
  | .other _, _ => true

end

/-- `is_retryable_std_error`. -/
def isRetryableStdError (err : StdError) : Bool := isRetryableCause err.cause err.sources

/-- `is_retryable_quic_error`. -/
def isRetryableQuicError (err : StdError) : Bool :=
  match err.cause with
  | .handshake _ => true
  | .h3Connection err _ => isRetryableH3ConnectionError err
  | .io ioErr => isRetryableIoError ioErr err.sources
  | .h3 err _ => isRetryableH3Error err
  | _ => true

/-- `is_retryable_h2_client_error`. -/
def isRetryableH2ClientError (err : HyperLegacyError) : Bool :=
  if err.isConnect then true else (err.source.map isRetryableStdError).getD true

/-- `is_no_rebuild_doh_error`. -/
def isNoRebuildDohError : DoHFailure → Bool
  | .incomplete | .invalidData | .tooLarge | .staleKey | .tooManyTcpSessions => true
  | .hyper err => isNoRebuildHyperError err
  | .io err => isNoRebuildIoError err
  | _ => false

/-- `is_retryable_doh_error`. -/
def isRetryableDohError (err : DoHFailure) : Bool := !isNoRebuildDohError err

/-! ### Failures -/

/-- The error without what it holds. -/
def DoHFailure.toDohError : DoHFailure → DoHError
  | .incomplete => .incomplete
  | .invalidData => .invalidData
  | .tooLarge => .tooLarge
  | .upstreamIssue => .upstreamIssue
  | .upstreamTimeout => .upstreamTimeout
  | .staleKey => .staleKey
  | .hyper err => .hyper err.text
  | .io err => .io err.text
  | .odohConfigError text => .odohConfigError text
  | .tooManyTcpSessions => .tooManyTcpSessions
  | .upstreamJoined attempts => .upstreamJoined attempts

/-- `H2Failure` and `H3Failure`. -/
structure Failure where
  /-- The error. -/
  err : DoHError
  /-- Whether another try may help. -/
  retryable : Bool
  deriving DecidableEq

namespace Failure

/-- `from_doh_error`. -/
def fromDohError (err : DoHFailure) : Failure := ⟨err.toDohError, isRetryableDohError err⟩

/-- `from_hyper_legacy_error`. -/
def fromHyperLegacyError (err : HyperLegacyError) : Failure :=
  let timeout := match err.source with
    | some ⟨.hyper source, _⟩ => source.isTimeout
    | _ => false
  ⟨if timeout then .upstreamTimeout else .upstreamIssue, isRetryableH2ClientError err⟩

/-- `from_hyper_error`. -/
def fromHyperError (err : HyperError) : Failure :=
  ⟨if err.isTimeout then .upstreamTimeout else .upstreamIssue, isRetryableHyperError err⟩

/-- `from_io`, for an error with these sources. -/
def fromIo (err : IoError) (sources : List Cause) : Failure :=
  ⟨.io err.text, isRetryableIoError err sources⟩

/-- `from_boxed_sync`. -/
def fromBoxedSync (err : StdError) : Failure :=
  match err.cause with
  | .io ioErr => ⟨.io ioErr.text, isRetryableQuicError err⟩
  | _ => ⟨.upstreamIssue, isRetryableQuicError err⟩

/-- `from_send_error`. -/
def fromSendError (err : StdError) : Failure :=
  match err.cause with
  | .io ioErr => ⟨.io ioErr.text, isRetryableStdError err⟩
  | _ => ⟨.upstreamIssue, isRetryableStdError err⟩

end Failure

/-! ### What it comes to -/

/-- An error of `io`. -/
def Cause.IsIo : Cause → Prop
  | .io _ => True
  | _ => False

/-- No other connection mends the error, whatever it was made from. -/
def Cause.isNoRebuild : Cause → Bool
  | .io err => isNoRebuildIoError err
  | .hyper err => isNoRebuildHyperError err
  | .h3Connection err _ => isNoRebuildH3ConnectionError err
  | .h3 err _ => isNoRebuildH3Error err
  | .handshake _ | .other _ => false

/-- An error and its sources. -/
def StdError.chain (err : StdError) : List Cause := err.cause :: err.sources

/-- Another connection may mend the error and each one of its sources that is reached through I/O
errors alone. -/
def StdError.Mendable (err : StdError) : Prop :=
  ∀ before cause after, err.chain = before ++ cause :: after → (∀ e ∈ before, e.IsIo) →
    cause.isNoRebuild = false

section

variable {cause source : Cause} {sources : List Cause} {err : IoError}

theorem mendable_nil : StdError.Mendable ⟨cause, []⟩ ↔ cause.isNoRebuild = false := by
  constructor
  · exact fun h => h [] cause [] rfl nofun
  · intro hcause before e after hchain _
    obtain ⟨-, rfl, -⟩ := List.append_eq_singleton_iff.mp hchain.symm |>.resolve_right nofun
    exact hcause

/-- The source of an error counts if it is one of `io`. -/
theorem mendable_cons : StdError.Mendable ⟨cause, source :: sources⟩ ↔
    cause.isNoRebuild = false ∧ (cause.IsIo → StdError.Mendable ⟨source, sources⟩) := by
  constructor
  · refine fun h => ⟨h [] cause _ rfl nofun, fun hio before e after hchain hbefore => ?_⟩
    refine h (cause :: before) e after (congrArg (cause :: ·) hchain) fun x hx => ?_
    rcases List.mem_cons.mp hx with rfl | hx
    · exact hio
    · exact hbefore x hx
  · intro ⟨hcause, hsource⟩ before e after hchain hbefore
    cases before with
    | nil =>
      cases hchain
      exact hcause
    | cons x before =>
      obtain ⟨rfl, htail⟩ := List.cons.inj hchain
      exact hsource (hbefore _ List.mem_cons_self) before e after htail
        fun y hy => hbefore y (List.mem_cons_of_mem _ hy)

/-- Where an error is not one of `io`, its sources do not count. -/
theorem mendable_of_not_isIo (hio : ¬ cause.IsIo) :
    StdError.Mendable ⟨cause, sources⟩ ↔ cause.isNoRebuild = false := by
  cases sources with
  | nil => exact mendable_nil
  | cons source sources => rw [mendable_cons, and_iff_left fun h => absurd h hio]

/-- An I/O error, down to what it was made from; the induction is on its sources. -/
theorem isRetryableIoError_iff (err : IoError) : ∀ sources,
    isRetryableIoError err sources = true ↔ StdError.Mendable ⟨.io err, sources⟩
  | [] => by
    rw [mendable_nil, isRetryableIoError, Cause.isNoRebuild]
    cases isNoRebuildIoError err <;> decide
  | source :: sources => by
    have ih : isRetryableCause source sources = true ↔ StdError.Mendable ⟨source, sources⟩ := by
      cases source with
      | io err' => rw [isRetryableCause, isRetryableIoError_iff err' sources]
      | _ =>
        rw [mendable_of_not_isIo id]
        simp [isRetryableCause, isRetryableHyperError, isRetryableH3ConnectionError,
          isRetryableH3Error, Cause.isNoRebuild]
    rw [mendable_cons, isRetryableIoError, Cause.isNoRebuild]
    cases isNoRebuildIoError err with
    | true => simp
    | false => simp [ih, Cause.IsIo]

/-- An error, down to what it was made from. -/
theorem isRetryableStdError_iff (err : StdError) :
    isRetryableStdError err = true ↔ err.Mendable := by
  obtain ⟨cause, sources⟩ := err
  cases cause with
  | io err => rw [isRetryableStdError, isRetryableCause, isRetryableIoError_iff]
  | _ =>
    rw [mendable_of_not_isIo id]
    simp [isRetryableStdError, isRetryableCause, isRetryableHyperError,
      isRetryableH3ConnectionError, isRetryableH3Error, Cause.isNoRebuild]

/-- A QUIC connection is not to blame for an error of hyper. -/
theorem isRetryableQuicError_iff (err : StdError) :
    isRetryableQuicError err = true ↔ err.Mendable ∨ ∃ e, err.cause = .hyper e := by
  rw [← isRetryableStdError_iff]
  obtain ⟨cause, sources⟩ := err
  cases cause <;> simp [isRetryableQuicError, isRetryableStdError, isRetryableCause]

/-- A client that could not connect may always try again. -/
theorem isRetryableH2ClientError_iff (err : HyperLegacyError) :
    isRetryableH2ClientError err = true ↔
      err.isConnect = true ∨ ∀ source ∈ err.source, source.Mendable := by
  obtain ⟨isConnect, source⟩ := err
  cases isConnect with
  | true => simp [isRetryableH2ClientError]
  | false => cases source <;> simp [isRetryableH2ClientError, isRetryableStdError_iff]

theorem retryable_fromBoxedSync (err : StdError) :
    (Failure.fromBoxedSync err).retryable = isRetryableQuicError err := by
  obtain ⟨cause, sources⟩ := err
  cases cause <;> rfl

theorem retryable_fromSendError (err : StdError) :
    (Failure.fromSendError err).retryable = isRetryableStdError err := by
  obtain ⟨cause, sources⟩ := err
  cases cause <;> rfl

/-- **Which failures are retryable**, by how they are made. -/
theorem retryable_iff :
    (∀ err sources, (Failure.fromIo err sources).retryable = true ↔
      StdError.Mendable ⟨.io err, sources⟩) ∧
    (∀ err, (Failure.fromSendError err).retryable = true ↔ err.Mendable) ∧
    (∀ err, (Failure.fromBoxedSync err).retryable = true ↔
      err.Mendable ∨ ∃ e, err.cause = .hyper e) ∧
    (∀ err, (Failure.fromHyperError err).retryable = true ↔ isNoRebuildHyperError err = false) ∧
    (∀ err, (Failure.fromHyperLegacyError err).retryable = true ↔
      err.isConnect = true ∨ ∀ source ∈ err.source, source.Mendable) ∧
    (∀ err, (Failure.fromDohError (.io err)).retryable = true ↔ isNoRebuildIoError err = false) ∧
    (∀ err sources, (Failure.fromIo err sources).retryable = true →
      (Failure.fromDohError (.io err)).retryable = true) := by
  have hio : ∀ err, (Failure.fromDohError (.io err)).retryable = true ↔
      isNoRebuildIoError err = false := by
    simp [Failure.fromDohError, isRetryableDohError, isNoRebuildDohError]
  refine ⟨isRetryableIoError_iff, fun err => ?_, fun err => ?_, fun err => ?_,
    isRetryableH2ClientError_iff, hio, fun err sources h => ?_⟩
  · rw [retryable_fromSendError, isRetryableStdError_iff]
  · rw [retryable_fromBoxedSync, isRetryableQuicError_iff]
  · simp [Failure.fromHyperError, isRetryableHyperError]
  · exact (hio err).mpr ((isRetryableIoError_iff err sources).mp h [] (.io err) sources rfl nofun)

end

end DohProxy.Upstream.Retryable

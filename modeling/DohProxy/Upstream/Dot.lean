import DohProxy.Constants
import DohProxy.Errors
import DohProxy.Lib.Duplex
import DohProxy.Upstream.H2Client

/-!
# DNS over TLS

A query to a DoT upstream goes out over the first connection there is to one of its addresses,
after its length, and the reply comes in the same way. This is `proxy_dot` of `lib.rs` with
`connect_tcp_with_local_bind` and `dns_exchange_over_stream`.

## The model

What becomes of each connection is a `Peer`, with the stream that TLS makes of it. The addresses are
those of `resolve_upstream_addrs`, and the name of the server and the certificates of the system are
valid or not.

## What is proved

* `dnsExchangeOverStream_ok_iff` — **a packet is returned exactly if its frame is what comes in**,
  however it is cut into pieces, and the frame of the query is all that goes out.
* `proxyDot_ok_iff` — over which connection it is, and that **the query goes to no other one**, in
  part or as a whole.
-/

namespace DohProxy.Upstream.Dot

open Lib Outcome Net

/-- A TLS stream. Its errors are their texts. -/
abbrev TlsStream := Duplex UInt8 String

/-! ### One exchange -/

/-- `write_all`. -/
def writeAll (out : List UInt8) : Proc TlsStream DoHError Unit :=
  (Duplex.writeAll "write zero" out).mapErr .io

/-- `read_exact`. -/
def readExact (n : ℕ) : Proc TlsStream DoHError (List UInt8) :=
  (Duplex.readExact "early eof" n).mapErr .io

/-- `flush`. -/
def flush : Proc TlsStream DoHError Unit := Duplex.flush.mapErr .io

/-- The query goes out. -/
def sendQuery (query : List UInt8) : Proc TlsStream DoHError Unit := do
  Proc.lift (ensure (query.length ≤ 65535) .tooLarge)
  writeAll (u16Bytes (UInt16.ofNat query.length))
  writeAll query
  flush

/-- The reply comes in. -/
def receiveReply : Proc TlsStream DoHError (List UInt8) := do
  let lenBuf ← readExact 2
  let packetLen := (be16At lenBuf 0).toNat
  Proc.lift (ensure (minDnsPacketLen ≤ packetLen ∧ packetLen ≤ maxDnsResponseLen) .upstreamIssue)
  readExact packetLen

/-- `dns_exchange_over_stream`. -/
def dnsExchangeOverStream (query : List UInt8) : Proc TlsStream DoHError (List UInt8) := do
  sendQuery query
  receiveReply

section

variable {s : TlsStream} {query packet out : List UInt8} {n : ℕ}

theorem writeAll_of_takes (h : s.Takes out.length) :
    writeAll out s = (.ok (), { s with written := s.written ++ out }) := by
  rw [writeAll, Proc.mapErr, Duplex.writeAll_of_takes "write zero" h]
  rfl

theorem readExact_of_le (h : n ≤ s.content.length) :
    ∃ rest, readExact n s = (.ok (s.content.take n), { s with incoming := rest }) ∧
      rest.flatten = s.content.drop n := by
  obtain ⟨rest, hread, hrest⟩ := Duplex.readExact_of_le "early eof" h
  refine ⟨rest, ?_, hrest⟩
  rw [readExact, Proc.mapErr, hread]
  rfl

theorem length_frame : (frame query).length = 2 + query.length := by
  rw [frame, List.length_append, length_u16Bytes]

theorem writeAll_of_not (h : ¬ s.Takes out.length) :
    (∀ u, (writeAll out s).1 ≠ .ok u) ∧
      ∃ sent, sent <+: out ∧ (writeAll out s).2 = { s with written := s.written ++ sent } := by
  obtain ⟨herr, hsent⟩ := Duplex.writeAll_of_not "write zero" h
  refine ⟨fun u => ?_, hsent⟩
  rw [writeAll, Proc.mapErr, herr]
  exact Ending.mapErr_outcome_ne_ok _ _ _ _

theorem readExact_of_lt (h : s.content.length < n) (read : List UInt8) :
    (readExact n s).1 ≠ .ok read := by
  rw [readExact, Proc.mapErr, Duplex.readExact_of_lt "early eof" h]
  exact Ending.mapErr_outcome_ne_ok _ _ _ _

/-- Reading the length: it is that of the frame that comes in. -/
theorem receiveReply_of_le (h : 2 ≤ s.content.length) :
    let packetLen := (be16At s.content 0).toNat
    ∃ s', s'.content = s.content.drop 2 ∧ receiveReply s =
      if minDnsPacketLen ≤ packetLen ∧ packetLen ≤ maxDnsResponseLen then readExact packetLen s'
      else (.err .upstreamIssue, s') := by
  obtain ⟨rest, hread, hrest⟩ := readExact_of_le h
  refine ⟨{ s with incoming := rest }, hrest, ?_⟩
  rw [receiveReply, Proc.bind_apply, hread, Proc.next_ok, Proc.bind_apply,
    be16At_take s.content (show 0 + 2 ≤ 2 from Nat.le_refl 2), Proc.lift_apply]
  split
  · next hlen => rw [ensure_pos hlen, Proc.next_ok]
  · next hlen => rw [ensure_neg hlen, Proc.next_err]

/-- What comes of a reply that is a frame. -/
theorem receiveReply_of_frame {rest : List UInt8} (h : unframe s.content = some (packet, rest)) :
    (receiveReply s).1 =
      if minDnsPacketLen ≤ packet.length ∧ packet.length ≤ maxDnsResponseLen then .ok packet
      else .err .upstreamIssue := by
  obtain ⟨hlt, hcontent⟩ := unframe_eq_some.mp h
  have hn : (be16At s.content 0).toNat = packet.length := by
    rw [hcontent, frame, List.append_assoc, be16At_u16Bytes, UInt16.toNat_ofNat',
      Nat.mod_eq_of_lt hlt]
  have hdrop : s.content.drop 2 = packet ++ rest := by
    rw [hcontent, frame, List.append_assoc, List.drop_left' (length_u16Bytes _)]
  have htwo : 2 ≤ s.content.length := by
    rw [hcontent, List.length_append, length_frame]
    omega
  obtain ⟨s', hs', hreply⟩ := receiveReply_of_le htwo
  rw [hreply, hn]
  split
  · rw [hdrop] at hs'
    have hlen : packet.length ≤ s'.content.length := by
      rw [hs', List.length_append]
      omega
    obtain ⟨rest', hread, -⟩ := readExact_of_le hlen
    rw [hread, hs', List.take_left]
  · rfl

/-- Without a whole frame there is no packet. -/
theorem receiveReply_of_none (h : unframe s.content = none) (packet : List UInt8) :
    (receiveReply s).1 ≠ .ok packet := by
  by_cases hlen : 2 ≤ s.content.length
  · obtain ⟨s', hs', hreply⟩ := receiveReply_of_le hlen
    have hlt : s'.content.length < (be16At s.content 0).toNat := by
      rw [hs', List.length_drop]
      unfold unframe at h
      split at h
      · cases h
      · omega
    rw [hreply]
    split
    · exact readExact_of_lt hlt packet
    · exact nofun
  · intro hok
    obtain ⟨lenBuf, s', hread, -⟩ := Proc.bind_eq_ok.mp (Prod.ext hok rfl)
    exact readExact_of_lt (Nat.lt_of_not_le hlen) lenBuf (congrArg Prod.fst hread)

/-- A packet is returned if it is the first frame that comes in, and neither too short nor too
long. -/
theorem receiveReply_ok_iff : (receiveReply s).1 = .ok packet ↔
    frame packet <+: s.content ∧ minDnsPacketLen ≤ packet.length ∧
      packet.length ≤ maxDnsResponseLen := by
  constructor
  · intro hok
    cases h : unframe s.content with
    | none => exact absurd hok (receiveReply_of_none h packet)
    | some frameRest =>
      obtain ⟨reply, rest⟩ := frameRest
      rw [receiveReply_of_frame h] at hok
      split at hok
      · next hlen =>
        cases hok
        exact ⟨⟨rest, (unframe_eq_some.mp h).2.symm⟩, hlen⟩
      · cases hok
  · rintro ⟨⟨rest, hcontent⟩, hlen⟩
    have hlt : packet.length < 65536 := Nat.lt_of_le_of_lt hlen.2 (by decide)
    rw [receiveReply_of_frame (unframe_eq_some.mpr ⟨hlt, hcontent.symm⟩), if_pos hlen]

/-- Sending takes the whole frame of the query, or the beginning of it. -/
theorem sendQuery_spec (query : List UInt8) (s : TlsStream) :
    ∃ sent, sent <+: frame query ∧ (sendQuery query s).2 = { s with written := s.written ++ sent } ∧
      ((sendQuery query s).1 = .ok () ↔ query.length ≤ 65535 ∧
        s.Takes (frame query).length ∧ s.flushed = some (.ok ())) ∧
      ((sendQuery query s).1 = .ok () → sent = frame query) := by
  unfold sendQuery
  rw [Proc.bind_apply, Proc.lift_apply]
  by_cases hlen : query.length ≤ 65535
  case neg =>
    rw [ensure_neg hlen, Proc.next_err]
    exact ⟨[], List.nil_prefix, by simp, by simp [hlen], nofun⟩
  rw [ensure_pos hlen, Proc.next_ok]
  have htakes :=
    Duplex.takes_add (s := s) (n := query.length) (u16Bytes (UInt16.ofNat query.length))
  rw [length_u16Bytes, ← length_frame] at htakes
  by_cases hlength : s.Takes (u16Bytes (UInt16.ofNat query.length)).length
  case neg =>
    -- not even the length goes out
    obtain ⟨hne, sent, hsent, hwritten⟩ := writeAll_of_not hlength
    obtain ⟨hne, hstate⟩ := Proc.bind_of_ne_ok hne fun _ => do
      writeAll query
      flush
    refine ⟨sent, hsent.trans (List.prefix_append _ _), hstate.trans hwritten, ?_, fun hok => ?_⟩
    · exact ⟨fun hok => absurd hok (hne ()), fun h => absurd (htakes.mp h.2.1).1 hlength⟩
    · exact absurd hok (hne ())
  rw [Proc.bind_apply, writeAll_of_takes hlength, Proc.next_ok]
  by_cases hquery : { s with
    written := s.written ++ u16Bytes (UInt16.ofNat query.length) }.Takes query.length
  case neg =>
    -- the length goes out, and the query does not
    obtain ⟨hne, sent, hsent, hwritten⟩ := writeAll_of_not hquery
    obtain ⟨hne, hstate⟩ := Proc.bind_of_ne_ok hne fun _ => flush
    refine ⟨u16Bytes (UInt16.ofNat query.length) ++ sent,
      (List.prefix_append_right_inj _).mpr hsent, ?_, ?_, fun hok => ?_⟩
    · rw [hstate, hwritten, List.append_assoc]
    · exact ⟨fun hok => absurd hok (hne ()), fun h => absurd (htakes.mp h.2.1).2 hquery⟩
    · exact absurd hok (hne ())
  rw [Proc.bind_apply, writeAll_of_takes hquery, Proc.next_ok, List.append_assoc]
  refine ⟨frame query, List.prefix_refl _, rfl, ?_, fun _ => rfl⟩
  have hflush : (awaited s.flushed).mapErr DoHError.io = .ok () ↔ s.flushed = some (.ok ()) := by
    rw [mapErr_eq_ok, awaited_eq_ok]
  exact hflush.trans ⟨fun h => ⟨hlen, htakes.mpr ⟨hlength, hquery⟩, h⟩, fun h => h.2.2⟩

/-- Receiving does not send. -/
theorem keeps_written_receiveReply : Proc.Keeps Duplex.written receiveReply := by
  refine .bind (fun s => Duplex.keeps_written_readExact "early eof" s) fun lenBuf => ?_
  refine .bind (Proc.keeps_lift _ _) fun _ => ?_
  exact fun s => Duplex.keeps_written_readExact "early eof" s

/-- A packet is returned when the query has gone out and the reply has come in. -/
theorem dnsExchangeOverStream_eq_ok : (dnsExchangeOverStream query s).1 = .ok packet ↔
    (sendQuery query s).1 = .ok () ∧ (receiveReply (sendQuery query s).2).1 = .ok packet := by
  rw [dnsExchangeOverStream, Proc.bind_apply]
  cases (sendQuery query s).1 <;> simp

/-- What goes out is the frame of the query, or the beginning of it. -/
theorem dnsExchangeOverStream_written (query : List UInt8) (s : TlsStream) :
    ∃ sent, sent <+: frame query ∧ (dnsExchangeOverStream query s).2.written = s.written ++ sent ∧
      ∀ packet, (dnsExchangeOverStream query s).1 = .ok packet → sent = frame query := by
  obtain ⟨sent, hsent, hstate, -, hall⟩ := sendQuery_spec query s
  refine ⟨sent, hsent, ?_, fun packet hok => hall (dnsExchangeOverStream_eq_ok.mp hok).1⟩
  rw [dnsExchangeOverStream, Proc.bind_snd _ (fun _ => keeps_written_receiveReply), hstate]

/-- **An exchange**: a packet is returned if and only if the query goes out and the frame of the
packet comes in, whatever comes after it and however it is cut. What goes out is the frame of the
query, or the beginning of it where no packet is returned. -/
theorem dnsExchangeOverStream_ok_iff (query packet : List UInt8) (s : TlsStream) :
    ((dnsExchangeOverStream query s).1 = .ok packet ↔
      (query.length ≤ 65535 ∧ s.Takes (frame query).length ∧ s.flushed = some (.ok ())) ∧
        frame packet <+: s.content ∧ minDnsPacketLen ≤ packet.length ∧
          packet.length ≤ maxDnsResponseLen) ∧
    ∃ sent, sent <+: frame query ∧ (dnsExchangeOverStream query s).2.written = s.written ++ sent ∧
      ∀ packet, (dnsExchangeOverStream query s).1 = .ok packet → sent = frame query := by
  obtain ⟨sent, -, hstate, hok, -⟩ := sendQuery_spec query s
  refine ⟨?_, dnsExchangeOverStream_written query s⟩
  rw [dnsExchangeOverStream_eq_ok, receiveReply_ok_iff, hstate, hok]
  rfl

end

/-! ### The addresses -/

/-- What becomes of a connection. -/
structure Peer where
  /-- `TcpSocket::new_v4` or `TcpSocket::new_v6`, `bind` and `connect`. -/
  tcp : SocketAddr → Awaited String Unit
  /-- `set_nodelay`. -/
  nodelay : Except String Unit
  /-- The handshake. Nothing has gone out when it is over. -/
  tls : Awaited Unit { stream : TlsStream // stream.written = [] }

/-- `connect_tcp_with_local_bind`. -/
def connectTcpWithLocalBind (localBindAddress peerAddr : SocketAddr) (peer : Peer) :
    Outcome String Unit :=
  match H2.localBindForPeer localBindAddress peerAddr with
  | none => .err "local bind address family mismatch"
  | some bindAddr => awaited (peer.tcp bindAddr)

/-- The connection to an address, up to the handshake. -/
def reach (localBindAddress addr : SocketAddr) (peer : Peer) :
    Outcome DoHError { stream : TlsStream // stream.written = [] } := do
  (connectTcpWithLocalBind localBindAddress addr peer).mapErr .io
  (ofExcept peer.nodelay).mapErr .io
  (awaited peer.tls).mapErr fun _ => .upstreamIssue

/-- The loop over the addresses, and what goes out to which of them. -/
def exchangeWithFirst (localBindAddress : SocketAddr) (peers : ℕ → Peer) (query : List UInt8) :
    ℕ → List SocketAddr → Option DoHError →
      Outcome DoHError (List UInt8) × List (SocketAddr × List UInt8)
  | _, [], lastErr => (.err (lastErr.getD .upstreamIssue), [])
  | k, addr :: addrs, _ =>
    match reach localBindAddress addr (peers k) with
    | .ok stream =>
      let (reply, stream) := dnsExchangeOverStream query stream
      (reply, [(addr, stream.written)])
    | .err e => exchangeWithFirst localBindAddress peers query (k + 1) addrs (some e)
    | .panic => (.panic, [])
    | .timeout => (.timeout, [])

/-- A DoT upstream and what its connections become of. -/
structure DotUpstream where
  /-- Whether the host is the name of a server. -/
  validName : Bool
  /-- `dot_tls_config`. -/
  config : Except DoHError Unit
  /-- `resolve_upstream_addrs`. -/
  addrs : Awaited DoHError (List SocketAddr)
  /-- The connections, in the order in which they are tried. -/
  peers : ℕ → Peer

/-- `proxy_dot`, and what goes out to which address. -/
def proxyDot (localBindAddress : SocketAddr) (query : List UInt8) (upstream : DotUpstream) :
    Outcome DoHError (List UInt8) × List (SocketAddr × List UInt8) :=
  match (do
    ensure (upstream.validName = true) .upstreamIssue
    ofExcept upstream.config
    awaited upstream.addrs : Outcome DoHError (List SocketAddr)) with
  | .ok addrs => exchangeWithFirst localBindAddress upstream.peers query 0 addrs none
  | .err e => (.err e, [])
  | .panic => (.panic, [])
  | .timeout => (.timeout, [])

section

variable {localBindAddress : SocketAddr} {peers : ℕ → Peer} {query packet : List UInt8}
  {before after addrs : List SocketAddr} {addr : SocketAddr} {lastErr : Option DoHError} {k : ℕ}
  {stream : { stream : TlsStream // stream.written = [] }}

/-- The connections to these addresses fail. -/
def Unreached (localBindAddress : SocketAddr) (peers : ℕ → Peer) (k : ℕ)
    (before : List SocketAddr) : Prop :=
  ∀ j addr, before[j]? = some addr → ∃ e, reach localBindAddress addr (peers (k + j)) = .err e

theorem Unreached.cons {e : DoHError} (h : reach localBindAddress addr (peers k) = .err e)
    (hbefore : Unreached localBindAddress peers (k + 1) before) :
    Unreached localBindAddress peers k (addr :: before) := by
  intro j other hj
  cases j with
  | zero =>
    cases hj
    exact ⟨e, h⟩
  | succ j =>
    rw [← Nat.succ_add_eq_add_succ]
    exact hbefore j other hj

theorem Unreached.tail (h : Unreached localBindAddress peers k (addr :: before)) :
    (∃ e, reach localBindAddress addr (peers k) = .err e) ∧
      Unreached localBindAddress peers (k + 1) before := by
  refine ⟨h 0 addr rfl, fun j other hj => ?_⟩
  rw [Nat.succ_add_eq_add_succ]
  exact h (j + 1) other hj

/-- The exchange is with the first address that is reached. -/
theorem exchangeWithFirst_of_reached (query : List UInt8) (after : List SocketAddr)
    (lastErr : Option DoHError) (hbefore : Unreached localBindAddress peers k before)
    (hreach : reach localBindAddress addr (peers (k + before.length)) = .ok stream) :
    exchangeWithFirst localBindAddress peers query k (before ++ addr :: after) lastErr =
      ((dnsExchangeOverStream query stream).1,
        [(addr, (dnsExchangeOverStream query stream).2.written)]) := by
  induction before generalizing k lastErr with
  | nil =>
    rw [List.nil_append, exchangeWithFirst]
    rw [List.length_nil, Nat.add_zero] at hreach
    rw [hreach]
  | cons other before ih =>
    obtain ⟨⟨e, hother⟩, hbefore⟩ := hbefore.tail
    rw [List.cons_append, exchangeWithFirst, hother]
    refine ih _ hbefore ?_
    rwa [List.length_cons, ← Nat.succ_add_eq_add_succ] at hreach

/-- Where no address is reached, the last error is the one that counts. -/
theorem exchangeWithFirst_of_unreached (query : List UInt8) (lastErr : Option DoHError)
    (hbefore : Unreached localBindAddress peers k before) {e : DoHError}
    (hreach : reach localBindAddress addr (peers (k + before.length)) = .err e) :
    exchangeWithFirst localBindAddress peers query k (before ++ [addr]) lastErr = (.err e, []) := by
  induction before generalizing k lastErr with
  | nil =>
    rw [List.nil_append, exchangeWithFirst]
    rw [List.length_nil, Nat.add_zero] at hreach
    rw [hreach]
    rfl
  | cons other before ih =>
    obtain ⟨⟨e', hother⟩, hbefore⟩ := hbefore.tail
    rw [List.cons_append, exchangeWithFirst, hother]
    refine ih _ hbefore ?_
    rwa [List.length_cons, ← Nat.succ_add_eq_add_succ] at hreach

/-- There is such an address, or nothing goes out. -/
theorem exchangeWithFirst_cases (k : ℕ) (addrs : List SocketAddr) (lastErr : Option DoHError) :
    (∃ before addr after stream, addrs = before ++ addr :: after ∧
      Unreached localBindAddress peers k before ∧
      reach localBindAddress addr (peers (k + before.length)) = .ok stream) ∨
    (∀ packet, (exchangeWithFirst localBindAddress peers query k addrs lastErr).1 ≠ .ok packet) ∧
      (exchangeWithFirst localBindAddress peers query k addrs lastErr).2 = [] := by
  induction addrs generalizing k lastErr with
  | nil => exact .inr ⟨nofun, rfl⟩
  | cons addr addrs ih =>
    rw [exchangeWithFirst]
    cases hreach : reach localBindAddress addr (peers k) with
    | ok stream => exact .inl ⟨[], addr, addrs, stream, rfl, nofun, hreach⟩
    | err e =>
      rcases ih (k + 1) (some e) with ⟨before, first, after, stream, rfl, hbefore, hfirst⟩ | hnone
      · refine .inl ⟨addr :: before, first, after, stream, rfl, hbefore.cons hreach, ?_⟩
        rwa [List.length_cons, ← Nat.succ_add_eq_add_succ]
      · exact .inr hnone
    | panic => exact .inr ⟨nofun, rfl⟩
    | timeout => exact .inr ⟨nofun, rfl⟩

/-- The first address of an upstream that is reached, and the stream to it. -/
def FirstReached (localBindAddress : SocketAddr) (upstream : DotUpstream) (addr : SocketAddr)
    (stream : TlsStream) : Prop :=
  upstream.validName = true ∧ upstream.config = .ok () ∧ ∃ before after hwritten,
    upstream.addrs = some (.ok (before ++ addr :: after)) ∧
      Unreached localBindAddress upstream.peers 0 before ∧
      reach localBindAddress addr (upstream.peers before.length) = .ok ⟨stream, hwritten⟩

/-- No address of an upstream is reached, and this is the error of the last one. -/
def NoneReached (localBindAddress : SocketAddr) (upstream : DotUpstream) (e : DoHError) : Prop :=
  upstream.validName = true ∧ upstream.config = .ok () ∧ ∃ before addr,
    upstream.addrs = some (.ok (before ++ [addr])) ∧
      Unreached localBindAddress upstream.peers 0 before ∧
      reach localBindAddress addr (upstream.peers before.length) = .err e

variable {upstream : DotUpstream}

theorem proxyDot_of_firstReached (query : List UInt8) {stream : TlsStream}
    (h : FirstReached localBindAddress upstream addr stream) :
    proxyDot localBindAddress query upstream = ((dnsExchangeOverStream query stream).1,
      [(addr, (dnsExchangeOverStream query stream).2.written)]) := by
  obtain ⟨hname, hconfig, before, after, hwritten, haddrs, hbefore, hreach⟩ := h
  have hrun := exchangeWithFirst_of_reached query after none hbefore (by rwa [Nat.zero_add])
  rw [proxyDot, ensure_pos hname, hconfig, haddrs]
  exact hrun

/-- An address is reached, or nothing goes out. -/
theorem proxyDot_cases (localBindAddress : SocketAddr) (query : List UInt8)
    (upstream : DotUpstream) :
    (∃ addr stream, stream.written = [] ∧ FirstReached localBindAddress upstream addr stream) ∨
    (∀ packet, (proxyDot localBindAddress query upstream).1 ≠ .ok packet) ∧
      (proxyDot localBindAddress query upstream).2 = [] := by
  unfold proxyDot
  by_cases hname : upstream.validName = true
  case neg =>
    rw [ensure_neg hname]
    exact .inr ⟨nofun, rfl⟩
  rw [ensure_pos hname]
  cases hconfig : upstream.config with
  | error e => exact .inr ⟨nofun, rfl⟩
  | ok u =>
    cases haddrs : upstream.addrs with
    | none => exact .inr ⟨nofun, rfl⟩
    | some resolved =>
      cases resolved with
      | error e => exact .inr ⟨nofun, rfl⟩
      | ok addrs =>
        rcases exchangeWithFirst_cases 0 addrs none with
          ⟨before, addr, after, ⟨stream, hwritten⟩, rfl, hbefore, hreach⟩ | hnone
        · rw [Nat.zero_add] at hreach
          exact .inl ⟨addr, stream, hwritten, hname, hconfig, before, after, hwritten, haddrs,
            hbefore, hreach⟩
        · exact .inr hnone

theorem proxyDot_of_noneReached (query : List UInt8) {e : DoHError}
    (h : NoneReached localBindAddress upstream e) :
    proxyDot localBindAddress query upstream = (.err e, []) := by
  obtain ⟨hname, hconfig, before, addr, haddrs, hbefore, hreach⟩ := h
  have hrun := exchangeWithFirst_of_unreached query none hbefore (by rwa [Nat.zero_add])
  rw [proxyDot, ensure_pos hname, hconfig, haddrs]
  exact hrun

/-- **A query to a DoT upstream**: its packet comes from the first address that is reached, and
nothing goes out to any other one. Where none is, the error is that of the last one. -/
theorem proxyDot_ok_iff (localBindAddress : SocketAddr) (query packet : List UInt8)
    (upstream : DotUpstream) :
    ((proxyDot localBindAddress query upstream).1 = .ok packet ↔
      ∃ addr stream, FirstReached localBindAddress upstream addr stream ∧
        (dnsExchangeOverStream query stream).1 = .ok packet) ∧
    ((proxyDot localBindAddress query upstream).2 = [] ∨
      ∃ addr stream sent, FirstReached localBindAddress upstream addr stream ∧
        (proxyDot localBindAddress query upstream).2 = [(addr, sent)] ∧ sent <+: frame query ∧
          ((proxyDot localBindAddress query upstream).1 = .ok packet → sent = frame query)) ∧
    ∀ e, NoneReached localBindAddress upstream e →
      proxyDot localBindAddress query upstream = (.err e, []) := by
  rw [← and_assoc]
  refine ⟨?_, fun e h => proxyDot_of_noneReached query h⟩
  rcases proxyDot_cases localBindAddress query upstream with
    ⟨addr, stream, hwritten, hfirst⟩ | ⟨hnone, hsent⟩
  · have hrun := proxyDot_of_firstReached query hfirst
    obtain ⟨sent, hlength, hout, hall⟩ := dnsExchangeOverStream_written query stream
    rw [hwritten, List.nil_append] at hout
    refine ⟨⟨fun h => ?_, ?_⟩, .inr ⟨addr, stream, sent, hfirst, ?_, hlength, fun h => ?_⟩⟩
    · rw [hrun] at h
      exact ⟨addr, stream, hfirst, h⟩
    · rintro ⟨other, otherStream, hother, hok⟩
      rw [proxyDot_of_firstReached query hother]
      exact hok
    · rw [hrun, hout]
    · rw [hrun] at h
      exact hall packet h
  · refine ⟨⟨fun h => absurd h (hnone packet), ?_⟩, .inl hsent⟩
    rintro ⟨addr, stream, hfirst, hok⟩
    rw [proxyDot_of_firstReached query hfirst] at hsent
    cases hsent

/-! ### Nothing panics -/

theorem reach_ne_panic (localBindAddress addr : SocketAddr) (peer : Peer) :
    reach localBindAddress addr peer ≠ .panic := by
  have htcp : connectTcpWithLocalBind localBindAddress addr peer ≠ .panic := by
    unfold connectTcpWithLocalBind
    split
    · exact nofun
    · exact awaited_ne_panic _
  refine bind_ne_panic (mapErr_ne_panic htcp _) fun _ => ?_
  refine bind_ne_panic (mapErr_ne_panic (ofExcept_ne_panic _) _) fun _ => ?_
  exact mapErr_ne_panic (awaited_ne_panic _) _

theorem dnsExchangeOverStream_ne_panic (query : List UInt8) (s : TlsStream) :
    (dnsExchangeOverStream query s).1 ≠ .panic := by
  have hwrite : ∀ out s, (writeAll out s).1 ≠ .panic := fun out s =>
    mapErr_ne_panic (Duplex.writeAll_ne_panic _) _
  have hread : ∀ n s, (readExact n s).1 ≠ .panic := fun n s =>
    mapErr_ne_panic (Duplex.readExact_ne_panic _) _
  have hflush : ∀ s, (flush s).1 ≠ .panic := fun s => mapErr_ne_panic (awaited_ne_panic _) _
  refine Proc.bind_ne_panic (Proc.bind_ne_panic (ensure_ne_panic _ _) fun _ s => ?_) fun _ s => ?_
  · refine Proc.bind_ne_panic (hwrite _ s) fun _ s => ?_
    exact Proc.bind_ne_panic (hwrite _ s) fun _ s => hflush s
  · refine Proc.bind_ne_panic (hread 2 s) fun lenBuf s => ?_
    exact Proc.bind_ne_panic (ensure_ne_panic _ _) fun _ s => hread _ s

theorem exchangeWithFirst_ne_panic (k : ℕ) (addrs : List SocketAddr) (lastErr : Option DoHError) :
    (exchangeWithFirst localBindAddress peers query k addrs lastErr).1 ≠ .panic := by
  induction addrs generalizing k lastErr with
  | nil => exact nofun
  | cons addr addrs ih =>
    rw [exchangeWithFirst]
    cases hreach : reach localBindAddress addr (peers k) with
    | ok stream => exact dnsExchangeOverStream_ne_panic query stream
    | err e => exact ih _ _
    | panic => exact absurd hreach (reach_ne_panic _ _ _)
    | timeout => exact nofun

/-- A query to a DoT upstream does not panic. -/
theorem proxyDot_ne_panic (localBindAddress : SocketAddr) (query : List UInt8)
    (upstream : DotUpstream) : (proxyDot localBindAddress query upstream).1 ≠ .panic := by
  have haddrs : (do
      ensure (upstream.validName = true) .upstreamIssue
      ofExcept upstream.config
      awaited upstream.addrs : Outcome DoHError (List SocketAddr)) ≠ .panic :=
    bind_ne_panic (ensure_ne_panic _ _) fun _ =>
      bind_ne_panic (ofExcept_ne_panic _) fun _ => awaited_ne_panic _
  unfold proxyDot
  split
  · exact exchangeWithFirst_ne_panic _ _ _
  · exact nofun
  · next hpanic => exact absurd hpanic haddrs
  · exact nofun

end

end DohProxy.Upstream.Dot

import DohProxy.Bootstrap.Reply
import DohProxy.Constants
import DohProxy.Lib.Duplex
import DohProxy.Upstream.Exchange

/-!
# Plain DNS

A query to a plain DNS upstream goes out in a datagram, and again over TCP when the reply has been
cut to fit. This is `proxy_dns_udp_tcp` of `lib.rs`.

## The model

A `Network` takes what is sent, and from it comes what arrives: the datagrams, in their order, and
what becomes of a TCP connection. A datagram can be from anyone, and its source address can be
forged. Where nothing comes the query waits.

## What is proved

`decided_by_responses_iff` — **what a query comes to is decided only by responses to it exactly when
the datagram that arrives first is one**, and what comes over TCP is one as well if it is used.
-/

namespace DohProxy.Upstream

open Lib Outcome Net

/-- Whether a packet was cut to fit. -/
def isTruncated (packet : List UInt8) : Bool := be16At packet 2 &&& 0x0200 = 0x0200

/-- What `recv_from` gives. -/
inductive Arrival where
  /-- An error. -/
  | failed (e : String)
  /-- A datagram. -/
  | datagram (source : SocketAddr) (bytes : List UInt8)
  deriving DecidableEq

/-- What comes of sending and waiting. -/
structure Network where
  /-- Binding the socket. -/
  bind : Except String Unit
  /-- Sending a datagram to an address, and what arrives at the socket from then on. -/
  send : SocketAddr → List UInt8 → Except String (List Arrival)
  /-- Connecting to an address over TCP and writing some bytes, and the message that comes in return,
  as long as its length field says. It can be waited for in vain. -/
  tcp : SocketAddr → List UInt8 → Awaited String (List UInt8)

/-- The counters that decide on TCP. -/
structure Globals where
  /-- The most clients. -/
  maxClients : ℕ
  /-- The clients there are. -/
  clientsCount : ℕ

/-- Whether there are too many clients for another TCP connection. -/
def Globals.busy (globals : Globals) : Bool :=
  globals.maxClients ≥ udpTcpRatio ∧ globals.clientsCount ≥ globals.maxClients / udpTcpRatio

/-- What is made of the message that comes over TCP. -/
def receiveTcp : Except String (List UInt8) → Except DoHError (List UInt8)
  | .error e => .error (.io e)
  | .ok packet =>
    if ¬ (minDnsPacketLen ≤ packet.length ∧
      packet.length ≤ maxDnsResponseLen) then .error .upstreamIssue
    else .ok packet

/-- What is made of the datagram that arrives first. -/
def receive (globals : Globals) (serverAddress : SocketAddr)
    (tcp : Awaited String (List UInt8)) (responseServerAddress : SocketAddr)
    (bytes : List UInt8) : Awaited DoHError (List UInt8) :=
  let packet := bytes.take maxDnsResponseLen
  if packet.length < minDnsPacketLen ∨ serverAddress ≠
    responseServerAddress then some (.error .upstreamIssue)
  else if isTruncated packet then
    if globals.busy then some (.error .tooManyTcpSessions)
    else tcp.map receiveTcp
  else some (.ok packet)

/-- What comes of a query to a plain DNS server. It goes out as it is in a datagram, and after its
length over TCP. Without a reply it waits. -/
def proxyDnsUdpTcp (globals : Globals) (query : List UInt8) (serverAddress : SocketAddr)
    (net : Network) : Awaited DoHError (List UInt8) :=
  match net.bind, net.send serverAddress query with
  | .error e, _ => some (.error (.io e))
  | .ok _, .error e => some (.error (.io e))
  | .ok _, .ok [] => none
  | .ok _, .ok (.failed e :: _) => some (.error (.io e))
  | .ok _, .ok (.datagram responseServerAddress bytes :: _) =>
    receive globals serverAddress (net.tcp serverAddress (frame query)) responseServerAddress bytes

/-- What comes of it as a reply to the client. -/
def exchangeDns (globals : Globals) (query : List UInt8) (serverAddress : SocketAddr)
    (net : Network) :
    Awaited DoHError (List UInt8) :=
  (proxyDnsUdpTcp globals query serverAddress net).map (· >>= validateExchangePacket)

/-! ### Responses -/

/-- A name in lower case. -/
def Name.toLower (name : Name) : List (List UInt8) :=
  name.labels.map (List.map Bootstrap.toAsciiLowercase)

/-- Two questions are the same, but for the case of letters. -/
def Question.Same (q q' : Question) : Prop :=
  q.name.toLower = q'.name.toLower ∧ q.qtype = q'.qtype ∧ q.qclass = q'.qclass

/-- A packet is a response to a query: it says so, and has its id and its questions. The rest of it
can be anything. -/
structure IsResponseTo (query packet : List UInt8) : Prop where
  /-- It has a header. -/
  header : dnsHeaderSize ≤ packet.length
  /-- The header says that it is a response. -/
  response : be16At packet 2 &&& 0x8000 = 0x8000
  /-- Its id is that of the query. -/
  id : be16At packet 0 = be16At query 0
  /-- Its questions are those of the query. -/
  questions : ∃ asked answered next next',
    Msg.unpackQuestions query (be16At query 4).toNat dnsHeaderSize = .ok (asked, next) ∧
    Msg.unpackQuestions packet (be16At packet 4).toNat dnsHeaderSize = .ok (answered, next') ∧
    List.Forall₂ Question.Same asked answered

/-- A datagram is from the server, and is a response. An error is no message. -/
def Genuine (query : List UInt8) (serverAddress : SocketAddr) : Arrival → Prop
  | .failed _ => True
  | .datagram source bytes => source = serverAddress ∧
    IsResponseTo query (bytes.take maxDnsResponseLen)

/-- Two lots of arrivals are the same but for datagrams that are not genuine. -/
def ArrivalsAlike (query : List UInt8) (serverAddress : SocketAddr) :
    Except String (List Arrival) → Except String (List Arrival) → Prop
  | .error e, .error e' => e' = e
  | .ok arrivals, .ok arrivals' => List.Forall₂ (fun a a' => a = a' ∨
    ¬ Genuine query serverAddress a ∧ ¬ Genuine query serverAddress a') arrivals arrivals'
  | _, _ => False

/-- Two networks are the same but for messages that are not genuine. -/
structure Alike (query : List UInt8) (serverAddress : SocketAddr) (net net' : Network) : Prop where
  /-- Binding is the same. -/
  bind : net'.bind = net.bind
  /-- Sending the query is the same, and so are the genuine datagrams. -/
  send : ArrivalsAlike query serverAddress (net.send serverAddress query)
    (net'.send serverAddress query)
  /-- A response over TCP is the same. -/
  tcp : net'.tcp serverAddress (frame query) = net.tcp serverAddress (frame query) ∨
    ∃ reply reply', net.tcp serverAddress (frame query) = some (.ok reply) ∧
      net'.tcp serverAddress (frame query) = some (.ok reply') ∧
      ¬ IsResponseTo query reply ∧ ¬ IsResponseTo query reply'

open Classical in
/-- The network without the datagrams that are not genuine. -/
noncomputable def Network.purge (query : List UInt8) (serverAddress : SocketAddr)
  (net : Network) : Network :=
  { net with send := fun address bytes =>
      (net.send address bytes).map (List.filter fun a => Genuine query serverAddress a) }

/-- What a query comes to is decided by responses alone. -/
structure DecidedByResponses (globals : Globals) (query : List UInt8) (serverAddress : SocketAddr)
    (net : Network) :
    Prop where
  /-- Other messages do not matter. -/
  alike : ∀ net', Alike query serverAddress net net' →
    exchangeDns globals query serverAddress net' = exchangeDns globals query serverAddress net
  /-- No other message is returned. -/
  returned : ∀ packet, exchangeDns globals query serverAddress net = some (.ok packet) →
    IsResponseTo query packet
  /-- No other datagram makes it an error. -/
  purged : exchangeDns globals query serverAddress (net.purge query serverAddress) =
    exchangeDns globals query serverAddress net

/-- The datagram that arrives first is genuine, and so is the message over TCP if one is asked for. -/
def FirstIsGenuine (globals : Globals) (query : List UInt8) (serverAddress : SocketAddr)
    (net : Network) : Prop :=
  ∀ u source bytes rest, net.bind = .ok u →
    net.send serverAddress query = .ok (.datagram source bytes :: rest) →
    Genuine query serverAddress (.datagram source bytes) ∧
      (minDnsPacketLen ≤ (bytes.take maxDnsResponseLen).length →
        isTruncated (bytes.take maxDnsResponseLen) = true → globals.busy = false →
        ∀ reply, net.tcp serverAddress (frame query) = some (.ok reply) → IsResponseTo query reply)

/-- A packet that is a message, but no response. -/
def noResponse : List UInt8 := [0, 0, 0, 0, 0, 1, 0, 0, 0, 0, 0, 0, 0, 0, 1, 0, 1]

section

variable {globals : Globals} {query : List UInt8} {serverAddress : SocketAddr} {net net' : Network}

theorem not_isResponseTo_noResponse : ¬ IsResponseTo query noResponse :=
  fun h => absurd h.response (by decide)

theorem not_isResponseTo_nil : ¬ IsResponseTo query [] := fun h => absurd h.header (by decide)

/-- A datagram that is no response is returned, where it is a message that was not cut to fit. -/
theorem receive_noResponse (tcp : Awaited String (List UInt8)) :
    receive globals serverAddress tcp serverAddress noResponse = some (.ok noResponse) := by
  unfold receive
  rw [if_neg (by simp [noResponse]), if_neg (by decide)]
  rfl

theorem receive_nil (tcp : Awaited String (List UInt8)) (source : SocketAddr) :
    receive globals serverAddress tcp source [] = some (.error .upstreamIssue) := by
  unfold receive
  rw [if_pos (.inl (by decide))]

/-- A datagram that was cut to fit leads to TCP. -/
theorem receive_tcp {tcp : Awaited String (List UInt8)} {bytes : List UInt8}
    (hlen : minDnsPacketLen ≤ (bytes.take maxDnsResponseLen).length)
    (htc : isTruncated (bytes.take maxDnsResponseLen) = true) (hbusy : globals.busy = false) :
    receive globals serverAddress tcp serverAddress bytes = tcp.map receiveTcp := by
  unfold receive
  rw [if_neg (not_or.mpr ⟨Nat.not_lt.mpr hlen, not_not.mpr rfl⟩), if_pos htc, hbusy,
    if_neg Bool.false_ne_true]

/-- Without TCP the outcome does not depend on it. -/
theorem receive_congr {tcp tcp' : Awaited String (List UInt8)} {bytes : List UInt8}
    (h : minDnsPacketLen ≤ (bytes.take maxDnsResponseLen).length →
      isTruncated (bytes.take maxDnsResponseLen) = true →
      globals.busy = false → tcp' = tcp) :
    receive globals serverAddress tcp' serverAddress bytes =
      receive globals serverAddress tcp serverAddress bytes := by
  unfold receive
  by_cases hlen : minDnsPacketLen ≤ (bytes.take maxDnsResponseLen).length
  · by_cases htc : isTruncated (bytes.take maxDnsResponseLen) = true
    · cases hbusy : globals.busy with
      | true => simp only [htc, if_true]
      | false => rw [h hlen htc hbusy]
    · simp only [if_neg htc]
  · simp only [if_pos (Or.inl (Nat.not_le.mp hlen))]

theorem exchangeDns_datagram {u : Unit} {source : SocketAddr} {bytes : List UInt8}
    {rest : List Arrival} (hbind : net.bind = .ok u)
    (hsend : net.send serverAddress query = .ok (.datagram source bytes :: rest)) :
    exchangeDns globals query serverAddress net =
      (receive globals serverAddress (net.tcp serverAddress (frame query)) source bytes).map
        (· >>= validateExchangePacket) := by
  unfold exchangeDns proxyDnsUdpTcp
  rw [hbind, hsend]

/-- What another datagram comes to in the first place. -/
theorem exchangeDns_first {u : Unit} {source : SocketAddr} {bytes : List UInt8}
    {rest : List Arrival} (hbind : net.bind = .ok u) :
    exchangeDns globals query serverAddress
        { net with send := fun _ _ => .ok (.datagram source bytes :: rest) } =
      (receive globals serverAddress (net.tcp serverAddress (frame query)) source bytes).map
        (· >>= validateExchangePacket) :=
  exchangeDns_datagram hbind rfl

/-- What another message over TCP comes to. -/
theorem exchangeDns_tcp {u : Unit} {source : SocketAddr} {bytes reply : List UInt8}
    {rest : List Arrival} (hbind : net.bind = .ok u)
    (hsend : net.send serverAddress query = .ok (.datagram source bytes :: rest)) :
    exchangeDns globals query serverAddress { net with tcp := fun _ _ => some (.ok reply) } =
      (receive globals serverAddress (some (.ok reply)) source bytes).map
        (· >>= validateExchangePacket) :=
  exchangeDns_datagram hbind hsend

/-- The network with another datagram in the first place. -/
theorem Alike.of_first {a a' : Arrival} {rest : List Arrival}
    (hsend : net.send serverAddress query = .ok (a :: rest)) (ha : ¬ Genuine query serverAddress a)
    (ha' : ¬ Genuine query serverAddress a') :
    Alike query serverAddress net { net with send := fun _ _ => .ok (a' :: rest) } where
  bind := rfl
  send := by
    rw [hsend]
    exact .cons (.inr ⟨ha, ha'⟩) (List.forall₂_same.mpr fun _ _ => .inl rfl)
  tcp := .inl rfl

/-- The network with another message over TCP. -/
theorem Alike.of_tcp {reply reply' : List UInt8}
    (htcp : net.tcp serverAddress (frame query) = some (.ok reply))
    (hr : ¬ IsResponseTo query reply) (hr' : ¬ IsResponseTo query reply') :
    Alike query serverAddress net { net with tcp := fun _ _ => some (.ok reply') } where
  bind := rfl
  send := by
    cases h : net.send serverAddress query with
    | error e => exact rfl
    | ok arrivals => exact List.forall₂_same.mpr fun _ _ => .inl rfl
  tcp := .inr ⟨reply, reply', htcp, rfl, hr, hr'⟩

/-- It passes as a reply. -/
theorem validate_noResponse : some ((Except.ok noResponse :
    Except DoHError (List UInt8)) >>= validateExchangePacket) ≠
    some ((Except.error .upstreamIssue : Except DoHError
      (List UInt8)) >>= validateExchangePacket) := by
  have hunpack : Msg.unpack noResponse =
      .ok ⟨MsgHeader.fromWire 0 0, false, [⟨⟨[]⟩, .A, 1⟩], [], [], []⟩ := by decide +kernel
  have hvalid : validateExchangePacket noResponse = .ok noResponse := by
    rw [validateExchangePacket, Msg.validatePacket, hunpack]
    rfl
  intro h
  have h : validateExchangePacket noResponse = .error .upstreamIssue := Option.some.inj h
  rw [hvalid] at h
  cases h

/-- A message that makes the difference between two outcomes is a response. -/
theorem firstIsGenuine_of_alike (h : ∀ net', Alike query serverAddress net net' →
    exchangeDns globals query serverAddress net' = exchangeDns globals query serverAddress net) :
    FirstIsGenuine globals query serverAddress net := by
  intro u source bytes rest hbind hsend
  have hfirst : Genuine query serverAddress (.datagram source bytes) := by
    by_contra ha
    -- two other datagrams in its place come to two outcomes
    have hnil : ¬ Genuine query serverAddress (.datagram serverAddress []) :=
      fun hg => not_isResponseTo_nil hg.2
    have hno : ¬ Genuine query serverAddress (.datagram serverAddress noResponse) :=
      fun hg => not_isResponseTo_noResponse hg.2
    have h₁ := h _ (.of_first hsend ha hnil)
    have h₂ := h _ (.of_first hsend ha hno)
    rw [exchangeDns_first hbind, receive_nil] at h₁
    rw [exchangeDns_first hbind, receive_noResponse, ← h₁] at h₂
    exact validate_noResponse h₂
  refine ⟨hfirst, fun hlen htc hbusy reply htcp => ?_⟩
  by_contra hr
  obtain ⟨rfl, -⟩ := hfirst
  have h₁ := h _ (.of_tcp htcp hr not_isResponseTo_nil)
  have h₂ := h _ (.of_tcp htcp hr not_isResponseTo_noResponse)
  rw [exchangeDns_tcp hbind hsend, receive_tcp hlen htc hbusy] at h₁ h₂
  exact validate_noResponse (h₂.trans h₁.symm)

/-- Only the first arrival counts, and only TCP that is asked for. -/
theorem exchangeDns_congr (hbind : net'.bind = net.bind)
    (hsend : ∀ u, net.bind = .ok u → (net'.send serverAddress query).map List.head? =
      (net.send serverAddress query).map List.head?)
    (htcp : ∀ u source bytes rest, net.bind = .ok u →
      net.send serverAddress query = .ok (.datagram source bytes :: rest) →
      source = serverAddress ∧ (minDnsPacketLen ≤ (bytes.take maxDnsResponseLen).length →
        isTruncated (bytes.take maxDnsResponseLen) = true → globals.busy = false →
        net'.tcp serverAddress (frame query) = net.tcp serverAddress (frame query))) :
    exchangeDns globals query serverAddress net' = exchangeDns globals query serverAddress net := by
  unfold exchangeDns proxyDnsUdpTcp
  rw [hbind]
  cases hu : net.bind with
  | error e => rfl
  | ok u =>
    have hsend := hsend u hu
    cases ha : net.send serverAddress query with
    | error e =>
      rw [ha] at hsend
      cases ha' : net'.send serverAddress query with
      | error e' =>
        rw [ha'] at hsend
        cases hsend
        rfl
      | ok arrivals' =>
        rw [ha'] at hsend
        cases hsend
    | ok arrivals =>
      rw [ha] at hsend
      cases ha' : net'.send serverAddress query with
      | error e' =>
        rw [ha'] at hsend
        cases hsend
      | ok arrivals' =>
        rw [ha'] at hsend
        have hsend : arrivals'.head? = arrivals.head? := Except.ok.inj hsend
        cases arrivals with
        | nil => rw [List.head?_eq_none_iff.mp hsend]
        | cons a rest =>
          obtain ⟨rest', rfl⟩ := List.head?_eq_some_iff.mp hsend
          cases a with
          | failed e => rfl
          | datagram source bytes =>
            obtain ⟨rfl, hused⟩ := htcp u source bytes rest hu ha
            exact congrArg (Option.map (· >>= validateExchangePacket)) (receive_congr hused)

/-- What is returned is the datagram from the server, or the message over TCP if it was cut. -/
theorem receive_eq_ok {tcp : Awaited String (List UInt8)} {source : SocketAddr}
    {bytes packet : List UInt8}
    (h : receive globals serverAddress tcp source bytes = some (.ok packet)) :
    source = serverAddress ∧ minDnsPacketLen ≤ (bytes.take maxDnsResponseLen).length ∧
      (isTruncated (bytes.take maxDnsResponseLen) = false ∧
          packet = bytes.take maxDnsResponseLen ∨
        isTruncated (bytes.take maxDnsResponseLen) = true ∧ globals.busy = false ∧
          tcp = some (.ok packet) ∧ minDnsPacketLen ≤ packet.length ∧
          packet.length ≤ maxDnsResponseLen) := by
  unfold receive at h
  dsimp only at h
  split at h
  · cases h
  · next hok =>
    obtain ⟨hlen, hsource⟩ := not_or.mp hok
    refine ⟨(not_not.mp hsource).symm, Nat.le_of_not_lt hlen, ?_⟩
    split at h
    · next htc =>
      split at h
      · cases h
      · next hbusy =>
        obtain ⟨reply, rfl, hreply⟩ := Option.map_eq_some_iff.mp h
        cases reply with
        | error e => cases hreply
        | ok reply =>
          dsimp only [receiveTcp] at hreply
          split at hreply
          · cases hreply
          · next hlimits =>
            cases hreply
            exact .inr ⟨htc, Bool.eq_false_iff.mpr hbusy, rfl, not_not.mp hlimits⟩
    · next hwhole =>
      cases h
      exact .inl ⟨Bool.eq_false_iff.mpr hwhole, rfl⟩

theorem proxyDnsUdpTcp_eq_ok {packet : List UInt8}
    (h : proxyDnsUdpTcp globals query serverAddress net = some (.ok packet)) :
    ∃ u source bytes rest, net.bind = .ok u ∧
      net.send serverAddress query = .ok (.datagram source bytes :: rest) ∧
      receive globals serverAddress (net.tcp serverAddress (frame query)) source bytes =
        some (.ok packet) := by
  unfold proxyDnsUdpTcp at h
  split at h
  · cases h
  · cases h
  · cases h
  · cases h
  · next u source bytes rest hbind hsend => exact ⟨u, source, bytes, rest, hbind, hsend, h⟩

theorem exchangeDns_eq_ok {packet : List UInt8}
    (h : exchangeDns globals query serverAddress net = some (.ok packet)) :
    proxyDnsUdpTcp globals query serverAddress net = some (.ok packet) := by
  obtain ⟨r, hr, hvalid⟩ := Option.map_eq_some_iff.mp h
  cases r with
  | error e => cases hvalid
  | ok reply =>
    have hvalid : validateExchangePacket reply = .ok packet := hvalid
    unfold validateExchangePacket at hvalid
    split at hvalid
    · cases hvalid
      exact hr
    · cases hvalid

/-- What is sent is the same without the messages that are not genuine, where the first is. -/
theorem purge_send_head (hfirst : ∀ source bytes rest,
    net.send serverAddress query = .ok (.datagram source bytes :: rest) →
      Genuine query serverAddress (.datagram source bytes)) :
    ((net.purge query serverAddress).send serverAddress query).map List.head? =
      (net.send serverAddress query).map List.head? := by
  dsimp only [Network.purge]
  cases ha : net.send serverAddress query with
  | error e => rfl
  | ok arrivals =>
    refine congrArg Except.ok ?_
    cases arrivals with
    | nil => rfl
    | cons a rest =>
      have hgenuine : Genuine query serverAddress a := by
        cases a with
        | failed e => trivial
        | datagram source bytes => exact hfirst source bytes rest ha
      rw [List.filter_cons_of_pos (by simpa using hgenuine), List.head?_cons, List.head?_cons]

/-- Networks that are alike begin with the same arrival, where the first is genuine. -/
theorem Alike.send_head (halike : Alike query serverAddress net net')
    (hfirst : ∀ source bytes rest,
      net.send serverAddress query = .ok (.datagram source bytes :: rest) →
        Genuine query serverAddress (.datagram source bytes)) :
    (net'.send serverAddress query).map List.head? =
      (net.send serverAddress query).map List.head? := by
  have hsend := halike.send
  cases ha : net.send serverAddress query with
  | error e =>
    cases ha' : net'.send serverAddress query with
    | error e' =>
      rw [ha, ha'] at hsend
      exact congrArg Except.error hsend
    | ok arrivals' =>
      rw [ha, ha'] at hsend
      exact hsend.elim
  | ok arrivals =>
    cases ha' : net'.send serverAddress query with
    | error e' =>
      rw [ha, ha'] at hsend
      exact hsend.elim
    | ok arrivals' =>
      rw [ha, ha'] at hsend
      refine congrArg Except.ok ?_
      cases hsend with
      | nil => rfl
      | @cons a a' rest rest' hsame _ =>
        rw [List.head?_cons, List.head?_cons]
        rcases hsame with rfl | ⟨hng, -⟩
        · rfl
        · cases a with
          | failed e => exact absurd trivial hng
          | datagram source bytes => exact absurd (hfirst source bytes rest ha) hng

/-- **A query to a plain DNS server is decided by responses alone** exactly when what arrives first is
one. -/
theorem decided_by_responses_iff (globals : Globals) (query : List UInt8)
    (serverAddress : SocketAddr) (net : Network) :
    DecidedByResponses globals query serverAddress net ↔
      FirstIsGenuine globals query serverAddress net := by
  constructor
  · exact fun h => firstIsGenuine_of_alike h.alike
  · intro h
    refine ⟨fun net' halike => ?_, fun packet hpacket => ?_, ?_⟩
    · refine exchangeDns_congr halike.bind
        (fun u hbind => halike.send_head fun source bytes rest ha => (h u _ _ _ hbind ha).1) ?_
      intro u source bytes rest hbind ha
      obtain ⟨⟨rfl, -⟩, hused⟩ := h u source bytes rest hbind ha
      refine ⟨rfl, fun hlen htc hbusy => halike.tcp.resolve_right ?_⟩
      intro ⟨reply, _, htcp, _, hr, _⟩
      exact hr (hused hlen htc hbusy reply htcp)
    · obtain ⟨u, source, bytes, rest, hbind, ha, hr⟩ :=
        proxyDnsUdpTcp_eq_ok (exchangeDns_eq_ok hpacket)
      obtain ⟨⟨rfl, hresponse⟩, hused⟩ := h u source bytes rest hbind ha
      obtain ⟨-, hlen, ⟨-, rfl⟩ | ⟨htc, hbusy, htcp, -⟩⟩ := receive_eq_ok hr
      · exact hresponse
      · exact hused hlen htc hbusy packet htcp
    · have hbind : (net.purge query serverAddress).bind = net.bind := rfl
      refine exchangeDns_congr hbind
        (fun u hbind => purge_send_head fun source bytes rest ha => (h u _ _ _ hbind ha).1) ?_
      intro u source bytes rest hbind ha
      exact ⟨(h u source bytes rest hbind ha).1.1, fun _ _ _ => rfl⟩

/-- The query of a client. -/
def clientQuery : List UInt8 := [0x12, 0x34, 1, 0, 0, 1, 0, 0, 0, 0, 0, 0, 0, 0, 1, 0, 1]

/-- A datagram with the address of the server, but another id, arrives first. -/
def forgedFirst : Network where
  bind := .ok ()
  send _ _ := .ok [.datagram (.v4 #v[192, 0, 2, 53] 53) [0x56, 0x78, 0x81, 0x80, 0, 1, 0, 0, 0,
    0, 0, 0, 0, 0, 1, 0, 1],
    .datagram (.v4 #v[192, 0, 2, 53] 53) [0x12, 0x34, 0x81, 0x80, 0, 1, 0, 0, 0, 0, 0, 0, 0, 0, 1,
      0, 1]]
  tcp _ _ := some (.error "refused")

/-- **A forged datagram is returned.** -/
theorem not_decided_forgedFirst :
    ¬ DecidedByResponses ⟨512, 1⟩ clientQuery (.v4 #v[192, 0, 2, 53] 53) forgedFirst := by
  intro h
  have hresponse := h.returned
    [0x56, 0x78, 0x81, 0x80, 0, 1, 0, 0, 0, 0, 0, 0, 0, 0, 1, 0, 1] (by decide +kernel)
  exact absurd hresponse.id (by decide)

end

end DohProxy.Upstream

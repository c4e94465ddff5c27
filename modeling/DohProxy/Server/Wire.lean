import DohProxy.Server.Proxy
import DohProxy.Upstream.Dot
import DohProxy.Upstream.PlainDns
import DohProxy.Upstream.Retries

/-!
# From the wire to the client

`exchange_single` of `upstream/mod.rs` asks one upstream, in the way of its kind. `Proxy` takes for
given what the upstreams say; here it is what comes over the network.

## The model

A `Link` is an upstream with all that becomes of its connections, as in `PlainDns`, `Dot` and
`Retries`, for each packet that it is asked. A query that lasts too long is given up if there is a
timeout. If there is none, an upstream may never be done.

## What is proved

* `proxy_ends_iff` — **which queries the proxy has a response or an error for**: with a timeout all
  that are not cut off.
* `proxy_carried` — **every response has come over the wire**: it is padded from what one upstream
  has sent when it was asked the prepared query, in a datagram from its own address, over TCP where
  that was cut, in a frame on the first connection that was made, or as the body of the last post.
-/

namespace DohProxy.Server

open Lib Outcome Net
open Dns hiding Question
open DohProxy.Upstream (isTruncated proxyDnsUdpTcp receive)
open DohProxy.Upstream.Dot (DotUpstream FirstReached proxyDot dnsExchangeOverStream)

/-- What is configured for asking an upstream. -/
structure LinkGlobals where
  /-- The counters that decide on TCP. -/
  clients : Upstream.Globals
  /-- The address to connect from. -/
  localBindAddress : SocketAddr
  /-- There is a timeout. -/
  timeout : Bool

/-- An upstream, and what it meets when it is asked a packet. -/
inductive Link where
  /-- A DNS server, and whether the time is up before it is done. -/
  | dns (serverAddress : SocketAddr) (net : Upstream.Network) (timeUp : Packet → Bool)
  /-- A DoH server, which a packet is posted to. -/
  | doh (request : Packet → Upstream.Retries.Request)
  /-- A DoT server, and whether the time is up before it is done. -/
  | dot (upstream : Packet → DotUpstream) (timeUp : Packet → Bool)

/-- `run_with_timeout`: what is never done is given up as well. -/
def runWithTimeout {α : Type} (timeout timeUp : Bool) (result : Awaited DoHError α) :
    Awaited DoHError α :=
  if timeout then
    if timeUp then some (.error .upstreamTimeout)
    else some (result.getD (.error .upstreamTimeout))
  else result

/-- A request with the timeout that is configured. -/
def LinkGlobals.request (globals : LinkGlobals) (request : Upstream.Retries.Request) :
    Upstream.Retries.Request :=
  { request with timeout := globals.timeout }

/-- `exchange_single`. -/
def Link.exchangeSingle (globals : LinkGlobals) (query : Packet) : Link → Awaited DoHError Packet
  | .dns serverAddress net timeUp =>
    runWithTimeout globals.timeout (timeUp query)
      (proxyDnsUdpTcp globals.clients query serverAddress net)
  | .doh request => (globals.request (request query)).proxyDoh.2
  | .dot upstream timeUp =>
    runWithTimeout globals.timeout (timeUp query)
      ((proxyDot globals.localBindAddress query (upstream query)).1.settled
        (Upstream.Dot.proxyDot_ne_panic _ _ _))

/-- A link to an upstream. -/
structure Linked where
  /-- The address of the upstream. -/
  address : String
  /-- The link. -/
  link : Link
  /-- How long it takes to ask it a packet, in nanoseconds. -/
  duration : Packet → ℕ

/-- The upstream at the end of a link. -/
def Linked.asked (globals : LinkGlobals) (linked : Linked) : AskedUpstream where
  address := linked.address
  exchangeSingle query := linked.link.exchangeSingle globals query
  duration := linked.duration

/-- The links to all upstreams. -/
structure Links where
  /-- What is configured. -/
  globals : LinkGlobals
  /-- The way of asking. -/
  mode : Upstream.UpstreamMode
  /-- The links. -/
  links : List Linked
  /-- What is left to chance. -/
  schedule : ∀ query : Packet, Upstream.Schedule
    (Upstream.upstreamsOf query (links.map (Linked.asked globals))).length
  /-- How addresses are compared. -/
  race : Packet → Upstream.Race

/-- The upstreams at the ends of the links. -/
def Links.upstreams (links : Links) : Upstreams where
  mode := links.mode
  asked := links.links.map (Linked.asked links.globals)
  schedule := links.schedule
  race := links.race

/-- A reply to a query has come over a link, which the query went out on. -/
inductive Link.Carries (globals : LinkGlobals) (query : Packet) : Link → Packet → Prop where
  /-- In a datagram from the server, the first to arrive after the query was sent to it, which is not
  cut. -/
  | datagram {serverAddress : SocketAddr} {net : Upstream.Network} {timeUp : Packet → Bool} {u : Unit}
      {bytes : List UInt8} {rest : List Upstream.Arrival} (bind : net.bind = .ok u)
      (send : net.send serverAddress query = .ok (.datagram serverAddress bytes :: rest))
      (long : minDnsPacketLen ≤ (bytes.take maxDnsResponseLen).length)
      (whole : isTruncated (bytes.take maxDnsResponseLen) = false) :
      Carries globals query (.dns serverAddress net timeUp) (bytes.take maxDnsResponseLen)
  /-- Over TCP, in return for the frame of the query, when the first datagram is from the server and
  is cut, and there are not too many clients. -/
  | tcp {serverAddress : SocketAddr} {net : Upstream.Network} {timeUp : Packet → Bool} {u : Unit}
      {bytes : List UInt8} {rest : List Upstream.Arrival} {reply : Packet} (bind : net.bind = .ok u)
      (send : net.send serverAddress query = .ok (.datagram serverAddress bytes :: rest))
      (long : minDnsPacketLen ≤ (bytes.take maxDnsResponseLen).length)
      (cut : isTruncated (bytes.take maxDnsResponseLen) = true)
      (free : globals.clients.busy = false)
      (comes : net.tcp serverAddress (frame query) = some (.ok reply))
      (min : minDnsPacketLen ≤ reply.length) (max : reply.length ≤ maxDnsResponseLen) :
      Carries globals query (.dns serverAddress net timeUp) reply
  /-- As the first frame from the first address that is reached, when the frame of the query is all
  that has gone out, and has gone out to that address. -/
  | frame {upstream : Packet → DotUpstream} {timeUp : Packet → Bool} {addr : SocketAddr}
      {stream : Upstream.Dot.TlsStream} {reply : Packet}
      (first : FirstReached globals.localBindAddress (upstream query) addr stream)
      (out : (proxyDot globals.localBindAddress query (upstream query)).2 = [(addr, frame query)])
      (comes : frame reply <+: stream.content) (min : minDnsPacketLen ≤ reply.length)
      (max : reply.length ≤ maxDnsResponseLen) :
      Carries globals query (.dot upstream timeUp) reply
  /-- As the body that the last post of the query was answered with. -/
  | body {request : Packet → Upstream.Retries.Request} {reply : Packet}
      (last : (globals.request (request query)).Answered reply
        (globals.request (request query)).proxyDoh.1) :
      Carries globals query (.doh request) reply

variable {globals : LinkGlobals} {query reply : Packet} {serverAddress : SocketAddr}
  {net : Upstream.Network} {timeUp : Packet → Bool} {link : Link}

/-- What is returned in time is what is waited for. -/
theorem eq_ok_of_runWithTimeout {α : Type} {timeout timeUp : Bool} {result : Awaited DoHError α}
    {a : α} (h : runWithTimeout timeout timeUp result = some (.ok a)) : result = some (.ok a) := by
  unfold runWithTimeout at h
  split at h
  · split at h
    · cases h
    · cases result with
      | none => cases h
      | some result => exact h
  · exact h

/-- With a timeout something is always returned. -/
theorem isSome_runWithTimeout {α : Type} (timeUp : Bool) (result : Awaited DoHError α) :
    (runWithTimeout true timeUp result).isSome = true := by
  cases timeUp <;> rfl

/-! ### The three kinds -/

/-- A DNS server. -/
theorem carries_of_proxyDnsUdpTcp
    (h : proxyDnsUdpTcp globals.clients query serverAddress net = some (.ok reply)) :
    Link.Carries globals query (.dns serverAddress net timeUp) reply := by
  obtain ⟨u, source, bytes, rest, hbind, hsend, hreceive⟩ := Upstream.proxyDnsUdpTcp_eq_ok h
  obtain ⟨rfl, hlong, ⟨hwhole, rfl⟩ | ⟨hcut, hfree, htcp, hmin, hmax⟩⟩ :=
    Upstream.receive_eq_ok hreceive
  · exact .datagram hbind hsend hlong hwhole
  · exact .tcp hbind hsend hlong hcut hfree htcp hmin hmax

/-- A DoT server. -/
theorem carries_of_proxyDot {upstream : Packet → DotUpstream}
    (h : (proxyDot globals.localBindAddress query (upstream query)).1 = .ok reply) :
    Link.Carries globals query (.dot upstream timeUp) reply := by
  rcases Upstream.Dot.proxyDot_cases globals.localBindAddress query (upstream query) with
    ⟨addr, stream, hwritten, hfirst⟩ | ⟨hnone, -⟩
  · have hrun := Upstream.Dot.proxyDot_of_firstReached query hfirst
    rw [hrun] at h
    obtain ⟨hsend, hreceive⟩ := Upstream.Dot.dnsExchangeOverStream_eq_ok.mp h
    obtain ⟨sent, -, hstate, -, -⟩ := Upstream.Dot.sendQuery_spec query stream
    obtain ⟨out, -, hout, hall⟩ := Upstream.Dot.dnsExchangeOverStream_written query stream
    obtain ⟨hframe, hmin, hmax⟩ := Upstream.Dot.receiveReply_ok_iff.mp hreceive
    rw [hstate] at hframe
    refine .frame hfirst ?_ hframe hmin hmax
    rw [hrun, hout, hwritten, List.nil_append, hall reply h]
  · exact absurd h (hnone reply)

/-- A DoH server. -/
theorem carries_of_proxyDoh {request : Packet → Upstream.Retries.Request}
    (h : (globals.request (request query)).proxyDoh.2 = some (.ok reply)) :
    Link.Carries globals query (.doh request) reply := by
  apply Link.Carries.body
  exact Upstream.Retries.Request.answered_of_proxyDoh h

/-- **What an upstream says has come over its link.** -/
theorem carries_of_exchangeSingle (h : link.exchangeSingle globals query = some (.ok reply)) :
    link.Carries globals query reply := by
  cases link with
  | dns serverAddress net timeUp => exact carries_of_proxyDnsUdpTcp (eq_ok_of_runWithTimeout h)
  | doh request => exact carries_of_proxyDoh h
  | dot upstream timeUp =>
    exact carries_of_proxyDot (settled_eq_ok.mp (eq_ok_of_runWithTimeout h))

/-- **With a timeout something comes of every upstream.** -/
theorem isSome_exchangeSingle (htimeout : globals.timeout = true) (link : Link) (query : Packet) :
    (link.exchangeSingle globals query).isSome = true := by
  cases link with
  | dns serverAddress net timeUp =>
    rw [Link.exchangeSingle, htimeout]
    exact isSome_runWithTimeout _ _
  | doh request =>
    have htimed : (globals.request (request query)).timeout = true := htimeout
    rw [Link.exchangeSingle, Upstream.Retries.Request.proxyDoh]
    split
    · rfl
    · rw [if_pos htimed]
      rfl
  | dot upstream timeUp =>
    rw [Link.exchangeSingle, htimeout]
    exact isSome_runWithTimeout _ _

/-- A link carries no packet that is longer than it may be, unless it is over HTTP. -/
theorem Link.Carries.length_le (h : link.Carries globals query reply) :
    reply.length ≤ maxDnsResponseLen ∨ ∃ request, link = .doh request := by
  cases h with
  | datagram => exact .inl (List.length_take_le _ _)
  | tcp _ _ _ _ _ _ _ hmax => exact .inl hmax
  | frame _ _ _ _ hmax => exact .inl hmax
  | body => exact .inr ⟨_, rfl⟩

/-! ### The end -/

/-- With a timeout no upstream is waited for that never answers. -/
theorem Links.waits_eq_false {links : Links} (htimeout : links.globals.timeout = true)
    (query : Packet) : links.upstreams.waits query = false := by
  apply Upstream.waits_eq_false
  intro asked hmem
  obtain ⟨linked, -, rfl⟩ := List.mem_map.mp hmem
  exact Option.isNone_eq_false_iff.mpr (isSome_exchangeSingle htimeout linked.link query)

/-- **Which queries the proxy comes to an end with**: all but those that are cut off inside of an
additional record of the root, when the upstreams are to be told where the client is, and those that
wait for an upstream, when there is no timeout. -/
theorem proxy_ends_iff (globals : ProxyGlobals) (links : Links) (query : Packet)
    (clientIp : Option IpAddr) : (proxy globals links.upstreams query clientIp).Finished ↔
      ¬ (17 ≤ query.length ∧ (globals.told clientIp ≠ none ∧ CutOff query ∨
        links.globals.timeout = false ∧
          links.upstreams.waits (prepareQuery globals clientIp query).2 = true)) := by
  rw [proxy_finished_iff]
  cases htimeout : links.globals.timeout with
  | false => simp only [true_and]
  | true =>
    simp only [Links.waits_eq_false htimeout, Bool.false_eq_true, Bool.true_eq_false, false_and]

/-! ### The response -/

variable {links : Links} {packet : Packet}

/-- What the upstreams say has come over a link. -/
theorem carried_of_says (h : links.upstreams.Says query packet) :
    ∃ linked ∈ links.links, ∃ reply, linked.link.Carries links.globals query reply ∧
      Upstream.MadeOf links.mode query reply packet := by
  obtain ⟨asked, hmem, reply, hsingle, hmade⟩ := h
  obtain ⟨linked, hlinked, rfl⟩ := List.mem_map.mp hmem
  exact ⟨linked, hlinked, reply, carries_of_exchangeSingle hsingle, hmade⟩

/-- A response is made of what the upstreams have said to the prepared query. -/
theorem proxy_eq_ok {globals : ProxyGlobals} {upstreams : Upstreams} {clientIp : Option IpAddr}
    {response : DnsResponse} {stats : Upstream.QueryStatistics}
    (h : proxy globals upstreams query clientIp = .ok (response, stats)) :
    ∃ sent packet, prepareQuery globals clientIp query = (.ok (), sent) ∧
      upstreams.Says sent packet ∧ response.packet = (addEdnsPadding packet).2 ∧
      KeptFor globals packet response.ttl := by
  have hlen : 17 ≤ query.length := by
    by_contra hshort
    rw [proxy_of_short (by omega)] at h
    cases h
  have hfin : (proxy globals upstreams query clientIp).Finished := by
    rw [h]
    trivial
  have hok := prepareQuery_eq_ok_of_finished (finished_of_proxy hlen hfin)
  have hwaits : ¬ upstreams.waits (prepareQuery globals clientIp query).2 = true := by
    intro hwaits
    rw [proxy_of_waits hlen (Prod.ext hok rfl) hwaits] at h
    cases h
  obtain ⟨outcome, hrun, hsaid, -⟩ := upstreams.exchange_says hwaits
  rw [proxy_of_prepared hlen (Prod.ext hok rfl) hrun, answer] at h
  cases hpacket : outcome.packet with
  | error e =>
    rw [hpacket] at h
    cases h
  | ok packet =>
    have hle := (hsaid packet hpacket).le_length
    rw [hpacket] at h
    obtain ⟨ttl, httl, hreturn⟩ := bind_eq_ok.mp h
    cases hreturn
    refine ⟨_, packet, Prod.ext hok rfl, hsaid packet hpacket, rfl, ?_⟩
    exact (responseTtl_eq_ok_iff (show 4 ≤ packet.length by omega)).mp httl

/-- **Every response has come over the wire**, as a reply to the prepared query: it is that reply,
or the one that has the fastest address for all its addresses of that family, padded. It is longer
than 4096 bytes only where it has come over HTTP. -/
theorem proxy_carried {proxyGlobals : ProxyGlobals} {clientIp : Option IpAddr}
    {response : DnsResponse} {stats : Upstream.QueryStatistics}
    (h : proxy proxyGlobals links.upstreams query clientIp = .ok (response, stats)) :
    ∃ sent, prepareQuery proxyGlobals clientIp query = (.ok (), sent) ∧
      ∃ linked ∈ links.links, ∃ reply packet,
        linked.link.Carries links.globals sent reply ∧
        Upstream.MadeOf links.mode sent reply packet ∧
        response.packet = (addEdnsPadding packet).2 ∧
        KeptFor proxyGlobals packet response.ttl ∧
        (response.packet.length ≤ 4096 ∨ ∃ request, linked.link = .doh request) := by
  obtain ⟨sent, packet, hsent, hsaid, hresponse, httl⟩ := proxy_eq_ok h
  obtain ⟨linked, hmem, reply, hcarries, hmade⟩ := carried_of_says hsaid
  refine ⟨sent, hsent, linked, hmem, reply, packet, hcarries, hmade, hresponse, httl, ?_⟩
  refine hcarries.length_le.imp_left fun hle => ?_
  have hlength := hmade.length
  have hpadded := (addEdnsPadding_spec packet).2
  rw [hresponse]
  have : maxDnsResponseLen = 4096 := rfl
  omega

/-- The server that refuses every query. -/
def refuser : SocketAddr := .v4 #v[198, 51, 100, 7] 53

/-- The link to it, over which nothing comes but its refusal. -/
def refusingLinks : Links where
  globals := ⟨⟨512, 1⟩, .v4 (.replicate 4 0) 0, true⟩
  mode := .parallel
  links := [⟨"198.51.100.7:53", .dns refuser ⟨.ok (), fun address query =>
    .ok (if address = refuser then [.datagram refuser (query.take 3 ++ 0x85 :: query.drop 4)]
      else []), fun _ _ => none⟩ fun _ => false, fun _ => 4⟩]
  schedule _ := ⟨fun _ => 0, fun _ hk => Nat.sub_pos_of_lt hk, List.finRange 1, .refl _⟩
  race _ := Upstream.emptyRace

theorem proxy_carried_refused : ∃ response stats,
    proxy tellingGlobals refusingLinks.upstreams (rootQuery [] (by decide)).bytes none =
        .ok (response, stats) ∧
      ∃ sent, prepareQuery tellingGlobals none (rootQuery [] (by decide)).bytes = (.ok (), sent) ∧
        ∃ linked ∈ refusingLinks.links, ∃ reply,
          linked.link.Carries refusingLinks.globals sent reply := by
  have hs : prepareQuery tellingGlobals none (rootQuery [] (by decide)).bytes =
    (.ok (), askedForRoot) := by decide +kernel
  have h : proxy tellingGlobals refusingLinks.upstreams (rootQuery [] (by decide)).bytes none =
      .ok (⟨(addEdnsPadding refusal).2, 2⟩, .withMain [.success "198.51.100.7:53" 4]) := by
    have ho : refusingLinks.upstreams.exchange askedForRoot = .ok
        ⟨.ok refusal, .withMain [.success "198.51.100.7:53" 4]⟩ := by decide +kernel
    have httl : responseTtl tellingGlobals refusal = .ok 2 := by decide +kernel
    rw [proxy_of_prepared (by decide) hs ho, answer]
    dsimp only
    rw [httl]
    rfl
  obtain ⟨sent, hsent, linked, hmem, reply, -, hcarries, -⟩ := proxy_carried h
  exact ⟨_, _, h, sent, hsent, linked, hmem, reply, hcarries⟩

end DohProxy.Server

import DohProxy.Bootstrap.Resolve

/-!
# The upstream server of the command line

`parse_upstream_arg` of `config.rs`: a URL gives a DoH or a DoT server, and anything else the socket
address of a DNS server. The host of a URL is kept as text, and is read again when the server is
connected to: as an address, if it is one.

## The model

How the url crate takes a text apart is a parameter, and a `Url` is what its accessors return. An
error is what is printed before the program exits. The cells for the HTTP/2 client, which are empty
at first, are left out.

## What is proved

`parseUpstreamArg_literal` — **a host that is an address is used without a lookup exactly if it is
an IPv4 address**. The text of an IPv6 host has brackets around it, which are not part of an address.
-/

namespace DohProxy.Config

open Lib Net Bootstrap

/-- The host of a URL. -/
inductive Host where
  /-- A name. -/
  | domain (domain : String)
  /-- An IPv4 address. -/
  | ipv4 (ip : Ipv4Addr)
  /-- An IPv6 address. -/
  | ipv6 (ip : Ipv6Addr)
  deriving DecidableEq

/-- A URL, by what its accessors return. -/
structure Url where
  /-- `scheme`. -/
  scheme : String
  /-- `host_str`. -/
  hostStr : Option String
  /-- `host`. -/
  host : Option Host
  /-- `port`: none for the default port of the scheme. -/
  port : Option UInt16
  /-- `port_or_known_default`. -/
  portOrKnownDefault : Option UInt16
  /-- `path`. -/
  path : String
  /-- `query`. -/
  query : Option String
  deriving DecidableEq

/-- A DoH server. -/
structure DohUpstream where
  /-- Its URL. -/
  url : Url
  /-- The host, as text. -/
  host : String
  /-- The port. -/
  port : UInt16
  /-- The path and the query. -/
  path : String
  /-- The host, and the port if the URL has one. -/
  authority : String
  /-- Only HTTP/3 is to be used. -/
  h3Only : Bool
  /-- The protocol that worked last. -/
  protocolHint : UInt8
  /-- Failures of HTTP/3 so far. -/
  h3Failures : UInt32
  /-- When HTTP/3 failed last. -/
  h3LastFailureMs : UInt64
  /-- Until when HTTP/3 is left alone. -/
  h3BackoffUntilMs : UInt64
  /-- When the HTTP/2 client was built anew. -/
  h2LastRebuildMs : UInt64
  /-- When the HTTP/3 client was built anew. -/
  h3LastRebuildMs : UInt64
  deriving DecidableEq

/-- A DoT server. -/
structure DotUpstream where
  /-- The host, as text. -/
  host : String
  /-- The port. -/
  port : UInt16
  deriving DecidableEq

/-- An upstream server. -/
inductive Upstream where
  /-- A DNS server. -/
  | dns (addr : SocketAddr)
  /-- A DoH server. -/
  | doh (upstream : DohUpstream)
  /-- A DoT server. -/
  | dot (upstream : DotUpstream)
  deriving DecidableEq

/-- What the text of an argument is read with. -/
structure Readers where
  /-- `Url::parse`. -/
  urlParse : String → Except String Url
  /-- `to_socket_addrs`. -/
  toSocketAddrs : String → Except String (List SocketAddr)

/-- `PATH`. -/
abbrev path : String := "/dns-query"

/-- `starts_with`. -/
def startsWith (text start : String) : Bool := start.toList.isPrefixOf text.toList

/-- What is printed before the program exits. -/
def exitWithError {α : Type} (msg : String) : Except String α := .error s!"Error: {msg}"

/-- The branch for `https` and `h3`. -/
def dohUpstream (serverAddressStr : String) (url : Url) : Except String DohUpstream := do
  let host ← match url.hostStr with
    | some host => pure host
    | none => exitWithError s!"DoH URL '{serverAddressStr}' must include a host"
  let hostHeader ← match url.host with
    | some (.ipv6 ip) => pure s!"[{String.ofList (ipv6Text ip)}]"
    | some (.ipv4 ip) => pure (String.ofList (dotted ip))
    | some (.domain domain) => pure domain
    | none => exitWithError s!"DoH URL '{serverAddressStr}' must include a host"
  let port :=
    if url.scheme = "https" then url.portOrKnownDefault.getD 443 else url.port.getD 443
  let path := if url.path = "" ∨ url.path = "/" then path else url.path
  let path :=
    match url.query with
    | some query => s!"{path}?{query}"
    | none => path
  let authority := if url.port.isSome then s!"{hostHeader}:{port}" else hostHeader
  return {
    url, host, port, path, authority
    h3Only := url.scheme = "h3"
    protocolHint := 0
    h3Failures := 0
    h3LastFailureMs := 0
    h3BackoffUntilMs := 0
    h2LastRebuildMs := 0
    h3LastRebuildMs := 0 }

/-- The branch for `tls`. -/
def dotUpstream (serverAddressStr : String) (url : Url) : Except String DotUpstream := do
  let host ← match url.hostStr with
    | some host => pure host
    | none => exitWithError s!"DoT URL '{serverAddressStr}' must include a host"
  return ⟨host, url.port.getD 853⟩

/-- The upstream server that an argument names. -/
def parseUpstreamArg (readers : Readers) (serverAddressStr : String) : Except String Upstream :=
  if startsWith serverAddressStr "http://" || startsWith serverAddressStr "https://" ||
    startsWith serverAddressStr "h3://" || startsWith serverAddressStr "tls://" then
    match readers.urlParse serverAddressStr with
    | .error e => exitWithError s!"Invalid URL '{serverAddressStr}': {e}"
    | .ok url =>
      if url.scheme = "https" ∨ url.scheme = "h3" then .doh <$> dohUpstream serverAddressStr url
      else if url.scheme = "tls" then .dot <$> dotUpstream serverAddressStr url
      else if url.scheme = "http" then
        exitWithError "Only https://, h3://, or tls:// URLs are supported for upstreams"
      else exitWithError s!"Unsupported URL scheme '{url.scheme}' for upstream"
  else
    match readers.toSocketAddrs serverAddressStr with
    | .error e => exitWithError s!"Invalid server address '{serverAddressStr}': {e}"
    | .ok [] => exitWithError s!"Cannot resolve server address '{serverAddressStr}'"
    | .ok (serverAddress :: _) => .ok (.dns serverAddress)

/-- `use_bootstrap_for_upstream_host`. -/
def useBootstrapForUpstreamHost (bootstrapDns : List SocketAddr) (upstream : DohUpstream) : Bool :=
  !bootstrapDns.isEmpty && (IpAddr.fromStr upstream.host.toList).isNone

/-! ### Addresses as hosts -/

/-- An `https` URL with an address as its host, as the url crate documents it: `host_str` has an
IPv4 address in dotted form and an IPv6 address in brackets. -/
structure Literal (url : Url) (ip : IpAddr) (port : UInt16) : Prop where
  /-- Its scheme. -/
  scheme : url.scheme = "https"
  /-- Its host. -/
  host : url.host = some (match ip with | .v4 addr => .ipv4 addr | .v6 addr => .ipv6 addr)
  /-- The text of its host. -/
  hostStr : ∃ text, url.hostStr = some text ∧
    match ip with
    | .v4 addr => text.toList = dotted addr
    | .v6 _ => ∃ inner, text.toList = '[' :: inner ++ [']']
  /-- Its port. -/
  port : url.portOrKnownDefault = some port

/-- The server is at the address, which takes no lookup and no bootstrap resolver. -/
def Direct {bootstrapDns : List SocketAddr} (net : Network bootstrapDns) (s : Lookups)
    (upstream : DohUpstream) (ip : IpAddr) (port : UInt16) : Prop :=
  resolveUpstreamAddrs net upstream.host.toList upstream.port s = (.ok [.new ip port], s) ∧
    useBootstrapForUpstreamHost bootstrapDns upstream = false

variable {readers : Readers} {arg : String} {url : Url} {ip : IpAddr} {port : UInt16}
  {upstream : DohUpstream} {bootstrapDns : List SocketAddr}

/-- A DoH server has its host and its port from the URL. -/
theorem dohUpstream_eq_ok {text : String} {host : Host} (arg : String)
    (htext : url.hostStr = some text) (hhost : url.host = some host) :
    ∃ upstream, dohUpstream arg url = .ok upstream ∧ upstream.host = text ∧
      upstream.port = if url.scheme = "https" then url.portOrKnownDefault.getD 443
        else url.port.getD 443 := by
  simp only [dohUpstream, htext, hhost]
  cases host <;> exact ⟨_, rfl, rfl, rfl⟩

theorem parseUpstreamArg_https (harg : startsWith arg "https://" = true)
    (hparse : readers.urlParse arg = .ok url) (hscheme : url.scheme = "https") :
    parseUpstreamArg readers arg = .doh <$> dohUpstream arg url := by
  simp only [parseUpstreamArg, harg, hparse, hscheme, Bool.or_true, Bool.true_or, if_true, true_or]

/-- **A server is at an address if that is what its host is read as.** -/
theorem direct_iff (net : Network bootstrapDns) (s : Lookups) (upstream : DohUpstream)
    (ip : IpAddr) :
    Direct net s upstream ip upstream.port ↔ IpAddr.fromStr upstream.host.toList = some ip := by
  rw [Direct, useBootstrapForUpstreamHost]
  cases h : IpAddr.fromStr upstream.host.toList with
  | none =>
    refine iff_of_false (fun ⟨hresolve, _⟩ => ?_) (by simp)
    -- something is asked, so what has been asked is more than before
    have hmade := resolveUpstreamAddrs_made net upstream.port s h
    rw [hresolve] at hmade
    simpa using congrArg List.length hmade
  | some found =>
    rw [resolveUpstreamAddrs_of_fromStr net upstream.port s h]
    constructor
    · rintro ⟨hresolve, -⟩
      have hip := congrArg (List.map SocketAddr.ip) (Outcome.ok.inj (Prod.mk.inj hresolve).1)
      simpa using hip
    · intro hip
      obtain rfl := Option.some.inj hip
      exact ⟨rfl, by simp⟩

/-- The text of a host that is an IPv4 address is read as that address, and the text of one that is
an IPv6 address is not. -/
theorem Literal.fromStr_iff (h : Literal url ip port) {text : String}
    (htext : url.hostStr = some text) :
    IpAddr.fromStr text.toList = some ip ↔ ip.isIpv4 = true := by
  obtain ⟨text', htext', hform⟩ := h.hostStr
  obtain rfl := Option.some.inj (htext'.symm.trans htext)
  cases ip with
  | v4 addr =>
    rw [show text'.toList = dotted addr from hform, fromStr_dotted]
    exact iff_of_true rfl rfl
  | v6 addr =>
    obtain ⟨inner, hinner⟩ : ∃ inner, text'.toList = '[' :: inner ++ [']'] := hform
    rw [hinner, List.cons_append, fromStr_bracket]
    exact iff_of_false (by simp) (by simp [IpAddr.isIpv4])

/-- **A host that is an address is used without a lookup exactly if it is an IPv4 address**: whatever
the bootstrap resolvers are, and whatever has been looked up before. -/
theorem parseUpstreamArg_literal (harg : startsWith arg "https://" = true)
    (hparse : readers.urlParse arg = .ok url) (hliteral : Literal url ip port) :
    ∃ upstream, parseUpstreamArg readers arg = .ok (.doh upstream) ∧
      ∀ {bootstrapDns : List SocketAddr} (net : Network bootstrapDns) (s : Lookups),
        Direct net s upstream ip port ↔ ip.isIpv4 = true := by
  obtain ⟨text, htext, -⟩ := hliteral.hostStr
  obtain ⟨upstream, hok, rfl, hport⟩ := dohUpstream_eq_ok arg htext hliteral.host
  refine ⟨upstream, ?_, fun net s => ?_⟩
  · rw [parseUpstreamArg_https harg hparse hliteral.scheme, hok]
    rfl
  · rw [if_pos hliteral.scheme, hliteral.port, Option.getD_some] at hport
    rw [← hport, direct_iff, hliteral.fromStr_iff htext]


/-- A URL whose host is an IPv4 address. -/
def ipv4Url : Url where
  scheme := "https"
  hostStr := some "198.51.100.1"
  host := some (.ipv4 #v[198, 51, 100, 1])
  port := some 8443
  portOrKnownDefault := some 8443
  path := "/dns-query"
  query := none

/-- The address `2001:db8::1`. -/
abbrev ipv6Example : Ipv6Addr := #v[0x20, 0x01, 0x0d, 0xb8, 0, 0, 0, 0, 0, 0, 0, 0, 0, 0, 0, 1]

/-- A URL whose host is an IPv6 address, with the default port. -/
def ipv6Url : Url where
  scheme := "https"
  hostStr := some "[2001:db8::1]"
  host := some (.ipv6 ipv6Example)
  port := none
  portOrKnownDefault := some 443
  path := "/"
  query := none

/-- The two URLs are read, and no name of a DNS server is. -/
def twoUrls : Readers where
  urlParse text :=
    if text = "https://198.51.100.1:8443/dns-query" then .ok ipv4Url
    else if text = "https://[2001:db8::1]/" then .ok ipv6Url
    else .error "relative URL without a base"
  toSocketAddrs _ := .error "invalid socket address"

/-- There is no bootstrap resolver, and the system finds nothing. -/
def noAnswer : Network [] where
  lookupHost _ _ := none
  completed := []
  stuck := []
  perm := .nil

theorem literal_ipv4Url : Literal ipv4Url (.v4 #v[198, 51, 100, 1]) 8443 where
  scheme := rfl
  host := rfl
  hostStr := ⟨_, rfl, by decide⟩
  port := rfl

theorem literal_ipv6Url : Literal ipv6Url (.v6 ipv6Example) 443 where
  scheme := rfl
  host := rfl
  hostStr := ⟨_, rfl, "2001:db8::1".toList, by decide⟩
  port := rfl

/-- A server at an IPv4 address. -/
theorem parseUpstreamArg_literal_ipv4 :
    ∃ upstream, parseUpstreamArg twoUrls "https://198.51.100.1:8443/dns-query" =
        .ok (.doh upstream) ∧
      ∀ {bootstrapDns : List SocketAddr} (net : Network bootstrapDns) (s : Lookups),
        Direct net s upstream (.v4 #v[198, 51, 100, 1]) 8443 ↔
          (IpAddr.v4 #v[198, 51, 100, 1]).isIpv4 = true :=
  parseUpstreamArg_literal (by decide) (by decide) literal_ipv4Url

/-- **An IPv6 address is looked up** as if it were a name: the system is asked for the text with the
brackets, or else a bootstrap resolver is to be. -/
theorem brackets_looked_up :
    ∃ upstream, parseUpstreamArg twoUrls "https://[2001:db8::1]/" = .ok (.doh upstream) ∧
      Literal upstream.url (.v6 ipv6Example) 443 ∧
      resolveUpstreamAddrs noAnswer upstream.host.toList upstream.port ⟨∅, []⟩ =
        (.err .upstreamIssue, ⟨∅, [.system "[2001:db8::1]".toList 443]⟩) ∧
      ¬ Direct noAnswer ⟨∅, []⟩ upstream (.v6 ipv6Example) 443 ∧
      useBootstrapForUpstreamHost [.v4 #v[9, 9, 9, 9] 53] upstream = true := by
  have hhost : IpAddr.fromStr "[2001:db8::1]".toList = none := fromStr_bracket _
  have hresolve : resolveUpstreamAddrs noAnswer "[2001:db8::1]".toList 443 ⟨∅, []⟩ =
      (.err .upstreamIssue, ⟨∅, [.system "[2001:db8::1]".toList 443]⟩) := by
    rw [resolveUpstreamAddrs, hhost]
    rfl
  refine ⟨_, rfl, literal_ipv6Url, hresolve, ?_, ?_⟩
  · rintro ⟨hdirect, -⟩
    cases hresolve.symm.trans hdirect
  · rw [useBootstrapForUpstreamHost]
    exact congrArg Option.isNone hhost

end DohProxy.Config

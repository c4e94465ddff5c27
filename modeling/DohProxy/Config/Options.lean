import DohProxy.Config.UpstreamArg
import DohProxy.Upstream.H2Client
import DohProxy.Upstream.Modes

/-!
# The command line

`parse_opts` of `config.rs` sets up what the proxy runs with. Some options have been checked before,
by the functions of `utils.rs` that the parser of the command line is given; the others are read
here, and the program exits when one cannot be.

## The model

What the parser of the command line has found is a `Matches`. The DNS stamps that are printed at the
end are left out, but for the port they have. The host of a DNS server is looked up twice, and need
not be found the same, or again (`Readings`). An error is what is printed before the program exits.

## What is proved

`parseOpts_accepted` — **on every command line that has been checked, the program goes on exactly if
the options with numbers are numbers that fit and the DNS servers with names are found again**: no
other option that was checked is turned down later. What it goes on with is in order: there is an
address to listen to and an upstream, the upstreams are those that were named, the path begins with a
slash, TLS is on exactly if certificates were named, and a connection to a peer of either family can
be made from the address there is where none was named.
-/

namespace DohProxy.Config

open Lib Net
open DohProxy.Upstream (UpstreamMode)
open DohProxy.Upstream.H2 (localBindForPeer)

/-! ### Reading options -/

/-- A port or a scope, which may have zeros in front. -/
def digits (bound : ℕ) (s : List UInt8) : Option ℕ :=
  if s ≠ [] ∧ s.all (fun b => 0x30 ≤ b && b ≤ 0x39) then
    let n := s.foldl (fun acc b => acc * 10 + (b.toNat - 0x30)) 0
    if n < bound then some n else none
  else none

/-- An IPv4 address and a port. -/
def parseSocketV4 (s : List UInt8) : Option SocketAddr :=
  match s.splitOn 0x3a with
  | [ip, port] => do
    let ip ← parseIpv4 ip
    let port ← digits 65536 port
    return .v4 ip (.ofNat port)
  | _ => none

/-- An IPv6 address in brackets, with a scope or not, and a port. -/
def parseSocketV6 (s : List UInt8) : Option SocketAddr :=
  match s with
  | 0x5b :: s =>
    match s.splitOn 0x5d with
    | [inner, 0x3a :: port] => do
      let (ip, scopeId) ← match inner.splitOn 0x25 with
        | [ip] => some (ip, 0)
        | [ip, scopeId] => (digits (2 ^ 32) scopeId).map (ip, ·)
        | _ => none
      let ip ← parseIpv6 ip
      let port ← digits 65536 port
      return .v6 ip (.ofNat port) 0 (.ofNat scopeId)
    | _ => none
  | _ => none

/-- `SocketAddr::from_str`. -/
def parseSocketAddr (text : String) : Except String SocketAddr :=
  let s := text.toList.flatMap String.utf8EncodeChar
  match (parseSocketV4 s).or (parseSocketV6 s) with
  | some addr => .ok addr
  | none => .error "invalid socket address syntax"

/-- `from_str` of an unsigned integer below `bound`. -/
def parseUnsigned (bound : ℕ) (text : String) : Except String ℕ :=
  match text.toList with
  | [] => .error "cannot parse integer from empty string"
  | ['+'] => .error "invalid digit found in string"
  | '+' :: digits | digits =>
    digits.foldlM (fun acc c =>
      if c.isDigit then
        let n := acc * 10 + (c.toNat - '0'.toNat)
        if n < bound then .ok n else .error "number too large to fit in target type"
      else .error "invalid digit found in string") 0

/-! ### What is checked -/

/-- `verify_sock_addr`. -/
def verifySockAddr (argVal : String) : Except String String :=
  match parseSocketAddr argVal with
  | .ok _ => .ok argVal
  | .error _ =>
    .error s!"Could not parse \"{argVal}\" as a valid socket address (with port)."

/-- `verify_remote_server`. -/
def verifyRemoteServer (readers : Readers) (argVal : String) : Except String String :=
  match readers.toSocketAddrs argVal with
  | .ok (_ :: _) => .ok argVal
  | .ok [] => .error s!"Could not parse \"{argVal}\" as a valid remote uri"
  | .error err => .error err

/-- `verify_upstream`. -/
def verifyUpstream (readers : Readers) (argVal : String) : Except String String :=
  if startsWith argVal "http://" || startsWith argVal "https://" || startsWith argVal "h3://" ||
    startsWith argVal "tls://" then
    match readers.urlParse argVal with
    | .error e => .error s!"Invalid URL: {e}"
    | .ok url =>
      if url.scheme = "http" then
        .error "Only https://, h3://, or tls:// URLs are supported for upstreams"
      else if url.scheme ≠ "https" ∧ url.scheme ≠ "h3" ∧ url.scheme ≠ "tls" then
        .error s!"Unsupported URL scheme '{url.scheme}'"
      else if url.hostStr.isNone then .error "URL must include a host"
      else .ok argVal
  else verifyRemoteServer readers argVal

/-- What the arguments are read with, by the checks and by what comes after them. -/
structure Readings where
  /-- `Url::parse`. -/
  urlParse : String → Except String Url
  /-- `to_socket_addrs` when the upstream in a place is checked. -/
  checkedAddrs : ℕ → String → Except String (List SocketAddr)
  /-- `to_socket_addrs` when the upstream in a place is set up. -/
  toSocketAddrs : ℕ → String → Except String (List SocketAddr)

/-- What the upstream in a place is checked with. -/
def Readings.checking (readings : Readings) (place : ℕ) : Readers :=
  ⟨readings.urlParse, readings.checkedAddrs place⟩

/-- What the upstream in a place is set up with. -/
def Readings.setup (readings : Readings) (place : ℕ) : Readers :=
  ⟨readings.urlParse, readings.toSocketAddrs place⟩

theorem Readings.setup_toSocketAddrs (readings : Readings) (place : ℕ) :
    (readings.setup place).toSocketAddrs = readings.toSocketAddrs place := rfl

/-! ### Setting up -/

/-- `LISTEN_ADDRESS`. -/
abbrev listenAddress : String := "127.0.0.1:3000"

/-- `SERVER_ADDRESS`. -/
abbrev serverAddress : String := "9.9.9.9:53"

/-- What the parser of the command line has found, with its defaults. -/
structure Matches where
  /-- `--listen-address`. -/
  listenAddress : List String
  /-- `--upstream`. -/
  upstream : List String
  /-- `--upstream-mode`. -/
  upstreamMode : String := "load_balance"
  /-- `--local-bind-address`. -/
  localBindAddress : Option String
  /-- `--bootstrap`. -/
  bootstrap : List String
  /-- `--path`. -/
  path : String := Config.path
  /-- `--max-clients`. -/
  maxClients : String := "512"
  /-- `--timeout`. -/
  timeout : String := "10"
  /-- `--max-concurrent`. -/
  maxConcurrent : String := "16"
  /-- `--min-ttl`. -/
  minTtl : String := "10"
  /-- `--max-ttl`. -/
  maxTtl : String := "604800"
  /-- `--err-ttl`. -/
  errTtl : String := "2"
  /-- `--disable-keepalive`. -/
  disableKeepalive : Bool := false
  /-- `--disable-post`. -/
  disablePost : Bool := false
  /-- `--allow-odoh-post`. -/
  allowOdohPost : Bool := false
  /-- `--enable-ecs`. -/
  enableEcs : Bool := false
  /-- `--ecs-prefix-v4`. -/
  ecsPrefixV4 : String := "24"
  /-- `--ecs-prefix-v6`. -/
  ecsPrefixV6 : String := "56"
  /-- `--tls-cert-path`. -/
  tlsCertPath : Option String
  /-- `--tls-cert-key-path`. -/
  tlsCertKeyPath : Option String
  /-- `--hostname`. -/
  hostname : Option String
  /-- `--public-port`. -/
  publicPort : Option String

/-- What the proxy runs with, as far as the command line sets it. -/
structure Globals where
  /-- The addresses to listen to. -/
  listenAddresses : List SocketAddr
  /-- How the upstreams are used. -/
  upstreamMode : UpstreamMode
  /-- The upstreams. -/
  upstreams : List Upstream
  /-- The address to connect from. -/
  localBindAddress : SocketAddr
  /-- The bootstrap resolvers. -/
  bootstrapDns : List SocketAddr
  /-- The path of the queries. -/
  path : String
  /-- The most clients. -/
  maxClients : ℕ
  /-- The timeout, in seconds. -/
  timeout : ℕ
  /-- The most requests of a client at a time. -/
  maxConcurrentStreams : ℕ
  /-- The least TTL. -/
  minTtl : ℕ
  /-- The greatest TTL. -/
  maxTtl : ℕ
  /-- The TTL of errors. -/
  errTtl : ℕ
  /-- Whether connections are kept. -/
  keepalive : Bool
  /-- Whether queries may not be posted. -/
  disablePost : Bool
  /-- Whether oblivious queries may be posted all the same. -/
  allowOdohPost : Bool
  /-- Whether the upstream is told the address of the client. -/
  enableEcs : Bool
  /-- How many bits of an IPv4 address it is told. -/
  ecsPrefixV4 : ℕ
  /-- How many bits of an IPv6 address it is told. -/
  ecsPrefixV6 : ℕ
  /-- The file of the certificates. -/
  tlsCertPath : Option String
  /-- The file of their keys. -/
  tlsCertKeyPath : Option String

/-- `UpstreamMode::from_str`. -/
def upstreamModeFromStr (value : String) : Option UpstreamMode :=
  if value = "load_balance" then some .loadBalance
  else if value = "parallel" then some .parallel
  else if value = "fastest_addr" then some .fastestAddr
  else none

/-- `default_local_bind_addr`. -/
def defaultLocalBindAddr : Upstream → SocketAddr
  | .dns (.v4 _ _) => .v4 (.replicate 4 0) 0
  | .dns (.v6 _ _ flowinfo scopeId) => .v6 (.replicate 16 0) 0 flowinfo scopeId
  | .doh _ | .dot _ => .v4 (.replicate 4 0) 0

/-- What is read, or what is printed before the program exits. -/
def orExit {α : Type} (what text : String) (read : Except String α) : Except String α :=
  match read with
  | .ok a => .ok a
  | .error e => exitWithError s!"Invalid {what} '{text}': {e}"

/-- The addresses to listen to. -/
def parseListenAddresses : List String → Except String (List SocketAddr)
  | [] => ([·]) <$> orExit "default listen address" listenAddress (parseSocketAddr listenAddress)
  | values => values.mapM fun value => orExit "listen address" value (parseSocketAddr value)

/-- The upstreams. -/
def parseUpstreams (readings : Readings) (values : List String) :
    Except String (List Upstream) := do
  let upstreamValues := if values = [] then [serverAddress] else values
  let upstreams ← upstreamValues.zipIdx.mapM fun (value, place) =>
    parseUpstreamArg (readings.setup place) value
  if upstreams.isEmpty then ([·]) <$> parseUpstreamArg (readings.setup 0) serverAddress
  else return upstreams

/-- The address to connect from. -/
def parseLocalBindAddress (upstreams : List Upstream) : Option String → Except String SocketAddr
  | some address => orExit "local bind address" address (parseSocketAddr address)
  | none => return (upstreams.head?.map defaultLocalBindAddr).getD (.v4 (.replicate 4 0) 0)

/-- The port for the stamps, which is looked at only if there is a name for them. -/
def parsePublicPort : Option String → Option String → Except String (Option ℕ)
  | some _, some port => some <$> orExit "public port" port (parseUnsigned (2 ^ 16) port)
  | _, _ => return none

/-- `parse_opts`. -/
def parseOpts (readings : Readings) (m : Matches) : Except String Globals := do
  let listenAddresses ← parseListenAddresses m.listenAddress
  let upstreamMode := (upstreamModeFromStr m.upstreamMode).getD .loadBalance
  let upstreams ← parseUpstreams readings m.upstream
  let localBindAddress ← parseLocalBindAddress upstreams m.localBindAddress
  let bootstrapDns ← m.bootstrap.mapM fun value =>
    orExit "bootstrap address" value (parseSocketAddr value)
  let path := if startsWith m.path "/" then m.path else s!"/{m.path}"
  let maxClients ← orExit "max clients" m.maxClients (parseUnsigned (2 ^ 64) m.maxClients)
  let timeout ← orExit "timeout" m.timeout (parseUnsigned (2 ^ 64) m.timeout)
  let maxConcurrentStreams ← orExit "max concurrent streams" m.maxConcurrent
    (parseUnsigned (2 ^ 32) m.maxConcurrent)
  let minTtl ← orExit "min TTL" m.minTtl (parseUnsigned (2 ^ 32) m.minTtl)
  let maxTtl ← orExit "max TTL" m.maxTtl (parseUnsigned (2 ^ 32) m.maxTtl)
  let errTtl ← orExit "error TTL" m.errTtl (parseUnsigned (2 ^ 32) m.errTtl)
  let ecsPrefixV4 ← orExit "ECS IPv4 prefix" m.ecsPrefixV4 (parseUnsigned (2 ^ 8) m.ecsPrefixV4)
  let ecsPrefixV6 ← orExit "ECS IPv6 prefix" m.ecsPrefixV6 (parseUnsigned (2 ^ 8) m.ecsPrefixV6)
  let _ ← parsePublicPort m.hostname m.publicPort
  return {
    listenAddresses, upstreamMode, upstreams, localBindAddress, bootstrapDns, path, maxClients,
    timeout, maxConcurrentStreams, minTtl, maxTtl, errTtl
    keepalive := !m.disableKeepalive
    disablePost := m.disablePost
    allowOdohPost := m.allowOdohPost
    enableEcs := m.enableEcs
    ecsPrefixV4, ecsPrefixV6
    tlsCertPath := m.tlsCertPath
    tlsCertKeyPath := m.tlsCertKeyPath.or m.tlsCertPath }

/-! ### What has been checked is accepted -/

/-- What the parser of the command line checks. -/
structure Accepted (readings : Readings) (m : Matches) : Prop where
  /-- `--listen-address`. -/
  listen : ∀ value ∈ m.listenAddress, (verifySockAddr value).isOk
  /-- `--upstream`. -/
  upstream : ∀ place value, m.upstream[place]? = some value →
    (verifyUpstream (readings.checking place) value).isOk
  /-- `--local-bind-address`. -/
  localBind : ∀ value ∈ m.localBindAddress, (verifySockAddr value).isOk
  /-- `--bootstrap`. -/
  bootstrap : ∀ value ∈ m.bootstrap, (verifySockAddr value).isOk

/-- What is documented of the readers: a URL has a host as text exactly if it has a host, and a
socket address needs no lookup. -/
structure Readings.Documented (readings : Readings) : Prop where
  /-- The host of a URL. -/
  host : ∀ text url, readings.urlParse text = .ok url → url.hostStr.isSome = url.host.isSome
  /-- The text of a socket address. -/
  literal : ∀ place text addr, parseSocketAddr text = .ok addr →
    readings.toSocketAddrs place text = .ok [addr]

/-- The text has the scheme of a URL. -/
def HasScheme (text : String) : Prop :=
  (startsWith text "http://" || startsWith text "https://" || startsWith text "h3://" ||
    startsWith text "tls://") = true

/-- The DNS servers that have names are found when they are looked up again. -/
def FoundAgain (readings : Readings) (m : Matches) : Prop :=
  ∀ place value, m.upstream[place]? = some value → ¬ HasScheme value →
    (∀ addr, parseSocketAddr value ≠ .ok addr) →
      ∃ addr addrs, readings.toSocketAddrs place value = .ok (addr :: addrs)

/-- A number that fits. -/
def IsNumber (bound : ℕ) (text : String) : Prop := (parseUnsigned bound text).isOk

/-- The options with numbers are numbers that fit. -/
structure Numbers (m : Matches) : Prop where
  /-- `--max-clients`. -/
  maxClients : IsNumber (2 ^ 64) m.maxClients
  /-- `--timeout`. -/
  timeout : IsNumber (2 ^ 64) m.timeout
  /-- `--max-concurrent`. -/
  maxConcurrent : IsNumber (2 ^ 32) m.maxConcurrent
  /-- `--min-ttl`. -/
  minTtl : IsNumber (2 ^ 32) m.minTtl
  /-- `--max-ttl`. -/
  maxTtl : IsNumber (2 ^ 32) m.maxTtl
  /-- `--err-ttl`. -/
  errTtl : IsNumber (2 ^ 32) m.errTtl
  /-- `--ecs-prefix-v4`. -/
  ecsPrefixV4 : IsNumber (2 ^ 8) m.ecsPrefixV4
  /-- `--ecs-prefix-v6`. -/
  ecsPrefixV6 : IsNumber (2 ^ 8) m.ecsPrefixV6
  /-- `--public-port`, if there is a name. -/
  publicPort : m.hostname.isSome → ∀ port ∈ m.publicPort, IsNumber (2 ^ 16) port

/-- Both are addresses of the same family. -/
def SameFamily (a b : SocketAddr) : Prop := a.ip.isIpv4 = b.ip.isIpv4

/-- What the proxy runs with is in order. -/
structure InOrder (readings : Readings) (m : Matches) (globals : Globals) : Prop where
  /-- There is an address to listen to. -/
  listen : globals.listenAddresses ≠ []
  /-- There is an upstream. -/
  upstream : globals.upstreams ≠ []
  /-- The upstreams are those that were named, or the default one. -/
  named : globals.upstreams.map Except.ok =
    (if m.upstream = [] then [serverAddress] else m.upstream).zipIdx.map
      fun (value, place) => parseUpstreamArg (readings.setup place) value
  /-- The path begins with a slash. -/
  path : startsWith globals.path "/" = true
  /-- TLS is on exactly if certificates were named. -/
  tls : (globals.tlsCertPath.isSome && globals.tlsCertKeyPath.isSome) = m.tlsCertPath.isSome
  /-- Where no address to connect from was named, there is one for a peer of either family. -/
  reach : m.localBindAddress = none → ∀ peer, ∃ bindAddr,
    localBindForPeer globals.localBindAddress peer = some bindAddr ∧ SameFamily bindAddr peer

section

variable {ε α β : Type} {x : Except ε α} {f : α → Except ε β} {b : β}

theorem bind_eq_ok_iff : x >>= f = .ok b ↔ ∃ a, x = .ok a ∧ f a = .ok b := by
  cases x <;> simp [bind, Except.bind]

theorem isOk_iff : x.isOk = true ↔ ∃ a, x = .ok a := by
  cases x <;> simp [Except.isOk, Except.toBool]

theorem mapM_eq_ok_iff {as : List α} {bs : List β} :
    as.mapM f = .ok bs ↔ bs.map Except.ok = as.map f := by
  induction as generalizing bs with
  | nil =>
    rw [List.mapM_nil, List.map_nil, List.map_eq_nil_iff]
    exact ⟨fun h => by cases h; rfl, fun h => by rw [h]; rfl⟩
  | cons a as ih =>
    rw [List.mapM_cons, bind_eq_ok_iff]
    constructor
    · rintro ⟨b, hb, h⟩
      obtain ⟨bs', hbs, h⟩ := bind_eq_ok_iff.mp h
      cases h
      rw [List.map_cons, List.map_cons, hb, ih.mp hbs]
    · intro h
      cases bs with
      | nil => cases h
      | cons b bs =>
        rw [List.map_cons, List.map_cons, List.cons.injEq] at h
        refine ⟨b, h.1.symm, ?_⟩
        rw [ih.mpr h.2]
        rfl

theorem exists_mapM {as : List α} (h : ∀ a ∈ as, (f a).isOk) : ∃ bs, as.mapM f = .ok bs := by
  induction as with
  | nil => exact ⟨[], rfl⟩
  | cons a as ih =>
    obtain ⟨b, hb⟩ := isOk_iff.mp (h a List.mem_cons_self)
    obtain ⟨bs, hbs⟩ := ih fun a' ha' => h a' (List.mem_cons_of_mem _ ha')
    exact ⟨b :: bs, by rw [List.mapM_cons, hb, hbs]; rfl⟩

theorem orExit_eq_ok_iff {what text : String} {read : Except String α} {a : α} :
    orExit what text read = .ok a ↔ read = .ok a := by
  cases read <;> simp [orExit, exitWithError]

theorem isOk_orExit {what text : String} {read : Except String α} :
    (orExit what text read).isOk = read.isOk := by
  cases read <;> rfl

end

variable {m : Matches} {globals : Globals} {readings : Readings}

theorem isOk_verifySockAddr {value : String} (h : (verifySockAddr value).isOk) :
    ∃ addr, parseSocketAddr value = .ok addr := by
  unfold verifySockAddr at h
  split at h
  · next addr haddr => exact ⟨addr, haddr⟩
  · cases h

theorem isOk_map {α β : Type} (f : α → β) (x : Except String α) : (f <$> x).isOk = x.isOk := by
  cases x <;> rfl

theorem isOk_dohUpstream (hhost : url.hostStr.isSome = url.host.isSome) :
    (dohUpstream arg url).isOk = url.hostStr.isSome := by
  cases htext : url.hostStr with
  | none =>
    simp only [dohUpstream, htext]
    rfl
  | some text =>
    rw [htext, Option.isSome_some] at hhost
    obtain ⟨host, hhost⟩ := Option.isSome_iff_exists.mp hhost.symm
    obtain ⟨upstream, hok, -⟩ := dohUpstream_eq_ok arg htext hhost
    rw [hok]
    rfl

theorem isOk_dotUpstream : (dotUpstream arg url).isOk = url.hostStr.isSome := by
  cases htext : url.hostStr <;> simp only [dotUpstream, htext] <;> rfl

/-- **A URL that has been checked is accepted**, and no other. -/
theorem isOk_parseUpstreamArg_of_hasScheme (hdoc : readings.Documented) {value : String}
    (hscheme : HasScheme value) (place : ℕ) :
    (parseUpstreamArg (readings.setup place) value).isOk =
      (verifyUpstream (readings.checking place) value).isOk := by
  unfold HasScheme at hscheme
  unfold verifyUpstream parseUpstreamArg
  rw [if_pos hscheme, if_pos hscheme]
  dsimp only [Readings.setup, Readings.checking]
  cases hparse : readings.urlParse value with
  | error e => rfl
  | ok url =>
    have hhost := hdoc.host value url hparse
    have hnone : url.hostStr.isNone = !url.hostStr.isSome := by cases url.hostStr <;> rfl
    dsimp only
    by_cases hhttps : url.scheme = "https" ∨ url.scheme = "h3"
    · rw [if_pos hhttps, isOk_map, isOk_dohUpstream hhost, hnone]
      rcases hhttps with hscheme | hscheme <;> cases url.hostStr.isSome <;> simp [hscheme] <;> rfl
    · rw [if_neg hhttps]
      by_cases htls : url.scheme = "tls"
      · rw [if_pos htls, isOk_map, isOk_dotUpstream, hnone]
        cases url.hostStr.isSome <;> simp [htls] <;> rfl
      · rw [not_or] at hhttps
        rw [if_neg htls]
        by_cases hhttp : url.scheme = "http"
        · rw [if_pos hhttp, if_pos hhttp]
          rfl
        · rw [if_neg hhttp, if_neg hhttp, if_pos ⟨hhttps.1, hhttps.2, htls⟩]
          rfl

/-- **A DNS server is accepted** if it is found. -/
theorem isOk_parseUpstreamArg_iff {value : String} (hscheme : ¬ HasScheme value) (place : ℕ) :
    (parseUpstreamArg (readings.setup place) value).isOk ↔
      ∃ addr addrs, readings.toSocketAddrs place value = .ok (addr :: addrs) := by
  unfold HasScheme at hscheme
  unfold parseUpstreamArg
  rw [if_neg hscheme, Readings.setup_toSocketAddrs]
  cases readings.toSocketAddrs place value with
  | error e => exact iff_of_false nofun nofun
  | ok addrs =>
    cases addrs with
    | nil => exact iff_of_false nofun nofun
    | cons addr addrs => exact iff_of_true rfl ⟨addr, addrs, rfl⟩

/-- **A peer of either family** can be connected to from an address that was not named. -/
theorem localBindForPeer_default (upstream : Upstream) (peer : SocketAddr) :
    ∃ bindAddr, localBindForPeer (defaultLocalBindAddr upstream) peer = some bindAddr ∧
      SameFamily bindAddr peer := by
  have hany : ∀ port, ∃ bindAddr, localBindForPeer (.v4 (.replicate 4 0) port) peer =
      some bindAddr ∧ SameFamily bindAddr peer := by
    intro port
    cases peer with
    | v4 ip port' => exact ⟨_, rfl, rfl⟩
    | v6 ip port' flowinfo scopeId =>
      exact ⟨.v6 (.replicate 16 0) port 0 0, by rw [localBindForPeer, if_pos rfl], rfl⟩
  cases upstream with
  | doh upstream => exact hany 0
  | dot upstream => exact hany 0
  | dns addr =>
    cases addr with
    | v4 ip port => exact hany 0
    | v6 ip port flowinfo scopeId =>
      cases peer with
      | v4 ip port' =>
        refine ⟨.v4 (.replicate 4 0) 0, ?_, rfl⟩
        rw [defaultLocalBindAddr, localBindForPeer, if_pos rfl]
      | v6 ip port' flowinfo' scopeId' => exact ⟨_, rfl, rfl⟩

/-- The default addresses are read. -/
theorem parse_defaults : parseSocketAddr listenAddress = .ok (.v4 #v[127, 0, 0, 1] 3000) ∧
    parseSocketAddr serverAddress = .ok (.v4 #v[9, 9, 9, 9] 53) := by
  constructor <;> decide +kernel

/-- Addresses that have been checked are read. -/
theorem exists_listenAddresses {values : List String}
    (h : ∀ value ∈ values, (verifySockAddr value).isOk) :
    ∃ addrs, parseListenAddresses values = .ok addrs := by
  cases values with
  | nil =>
    rw [parseListenAddresses, parse_defaults.1]
    exact ⟨_, rfl⟩
  | cons value values =>
    apply exists_mapM
    intro value hvalue
    obtain ⟨addr, haddr⟩ := isOk_verifySockAddr (h value hvalue)
    exact isOk_iff.mpr ⟨addr, orExit_eq_ok_iff.mpr haddr⟩

/-- The upstreams are read when each is. -/
theorem exists_upstreams_iff (hdoc : readings.Documented) (values : List String) :
    (∃ upstreams, parseUpstreams readings values = .ok upstreams) ↔
      ∀ place value, values[place]? = some value →
        (parseUpstreamArg (readings.setup place) value).isOk := by
  have hserver : ∀ place, parseUpstreamArg (readings.setup place) serverAddress =
      .ok (.dns (.v4 #v[9, 9, 9, 9] 53)) := by
    intro place
    rw [parseUpstreamArg, if_neg (by decide), Readings.setup_toSocketAddrs,
      hdoc.literal place _ _ parse_defaults.2]
  constructor
  · rintro ⟨upstreams, h⟩ place value hvalue
    obtain ⟨read, hread, -⟩ := bind_eq_ok_iff.mp h
    have hne : values ≠ [] := by
      rintro rfl
      cases hvalue
    rw [if_neg hne] at hread
    have hmem := List.mem_map_of_mem (f := fun (value, place) =>
      parseUpstreamArg (readings.setup place) value) (List.mk_mem_zipIdx_iff_getElem?.mpr hvalue)
    rw [← mapM_eq_ok_iff.mp hread] at hmem
    obtain ⟨upstream, -, hupstream⟩ := List.mem_map.mp hmem
    exact isOk_iff.mpr ⟨upstream, hupstream.symm⟩
  · intro h
    have hall : ∀ entry ∈ (if values = [] then [serverAddress] else values).zipIdx,
        (parseUpstreamArg (readings.setup entry.2) entry.1).isOk := by
      intro entry hentry
      have hvalue := List.mem_zipIdx_iff_getElem?.mp hentry
      split at hvalue
      · have hfirst := List.mem_of_getElem? hvalue
        rw [List.mem_singleton.mp hfirst, hserver]
        rfl
      · exact h _ _ hvalue
    obtain ⟨upstreams, hupstreams⟩ := exists_mapM hall
    refine ⟨if upstreams.isEmpty then [.dns (.v4 #v[9, 9, 9, 9] 53)] else upstreams, ?_⟩
    refine bind_eq_ok_iff.mpr ⟨upstreams, hupstreams, ?_⟩
    split
    · rw [hserver]
      rfl
    · rfl

/-- The upstreams that have been checked are read when those with names are found again. -/
theorem exists_upstreams_of_accepted (hdoc : readings.Documented) (h : Accepted readings m) :
    (∃ upstreams, parseUpstreams readings m.upstream = .ok upstreams) ↔ FoundAgain readings m := by
  rw [exists_upstreams_iff hdoc]
  refine forall_congr' fun place => forall_congr' fun value => forall_congr' fun hvalue => ?_
  by_cases hscheme : HasScheme value
  · refine iff_of_true ?_ fun hno => absurd hscheme hno
    rw [isOk_parseUpstreamArg_of_hasScheme hdoc hscheme]
    exact h.upstream place value hvalue
  · rw [isOk_parseUpstreamArg_iff hscheme]
    refine ⟨fun hfound _ _ => hfound, fun hfound => ?_⟩
    by_cases hliteral : ∃ addr, parseSocketAddr value = .ok addr
    · obtain ⟨addr, haddr⟩ := hliteral
      exact ⟨addr, [], hdoc.literal place value addr haddr⟩
    · exact hfound hscheme fun addr haddr => hliteral ⟨addr, haddr⟩

theorem exists_localBindAddress (upstreams : List Upstream) {option : Option String}
    (h : ∀ value ∈ option, (verifySockAddr value).isOk) :
    ∃ addr, parseLocalBindAddress upstreams option = .ok addr := by
  cases option with
  | none => exact ⟨_, rfl⟩
  | some value =>
    obtain ⟨addr, haddr⟩ := isOk_verifySockAddr (h value rfl)
    exact ⟨addr, orExit_eq_ok_iff.mpr haddr⟩

theorem exists_publicPort_iff {hostname port : Option String} :
    (∃ p, parsePublicPort hostname port = .ok p) ↔
      (hostname.isSome → ∀ text ∈ port, IsNumber (2 ^ 16) text) := by
  cases hostname with
  | none => exact iff_of_true ⟨none, by cases port <;> rfl⟩ nofun
  | some name =>
    cases port with
    | none => exact iff_of_true ⟨none, rfl⟩ nofun
    | some text =>
      have hsome : parsePublicPort (some name) (some text) =
        some <$> orExit "public port" text (parseUnsigned (2 ^ 16) text) := rfl
      rw [hsome, ← isOk_iff, isOk_map, isOk_orExit]
      simp [IsNumber]

/-- Every address to listen to has been read, and there is one. -/
theorem ne_nil_of_parseListenAddresses {values : List String} {addrs : List SocketAddr}
    (h : parseListenAddresses values = .ok addrs) : addrs ≠ [] := by
  rintro rfl
  cases values with
  | nil =>
    rw [parseListenAddresses, parse_defaults.1] at h
    cases h
  | cons value values => cases mapM_eq_ok_iff.mp h

/-- The upstreams are those that were named, and there is one. -/
theorem parseUpstreams_eq_ok {values : List String} {upstreams : List Upstream}
    (h : parseUpstreams readings values = .ok upstreams) : upstreams ≠ [] ∧
      upstreams.map Except.ok = (if values = [] then [serverAddress] else values).zipIdx.map
        fun (value, place) => parseUpstreamArg (readings.setup place) value := by
  obtain ⟨read, hread, h⟩ := bind_eq_ok_iff.mp h
  have hall := mapM_eq_ok_iff.mp hread
  have hne : read ≠ [] := by
    rintro rfl
    split at hall
    · cases hall
    · next hvalues =>
      exact hvalues (List.zipIdx_eq_nil_iff.mp (List.map_eq_nil_iff.mp hall.symm))
  rw [if_neg (by simpa using hne)] at h
  cases h
  exact ⟨hne, hall⟩

theorem startsWith_path (text : String) :
    startsWith (if startsWith text "/" then text else s!"/{text}") "/" = true := by
  split
  · assumption
  · simp only [startsWith, String.toList_append, List.isPrefixOf_iff_prefix]
    exact ⟨_, rfl⟩

/-- A number that was read is one. -/
theorem isNumber_of_orExit {what text : String} {bound n : ℕ}
    (h : orExit what text (parseUnsigned bound text) = .ok n) : IsNumber bound text :=
  isOk_iff.mpr ⟨n, orExit_eq_ok_iff.mp h⟩

theorem IsNumber.orExit {text : String} {bound : ℕ} (h : IsNumber bound text) (what : String) :
    ∃ n, orExit what text (parseUnsigned bound text) = .ok n := by
  obtain ⟨n, hn⟩ := isOk_iff.mp h
  exact ⟨n, orExit_eq_ok_iff.mpr hn⟩

/-- **What the proxy goes on with** is in order. -/
theorem parseOpts_eq_ok (h : parseOpts readings m = .ok globals) :
    Numbers m ∧ (∃ upstreams, parseUpstreams readings m.upstream = .ok upstreams) ∧
      InOrder readings m globals := by
  simp only [parseOpts, bind_eq_ok_iff] at h
  obtain ⟨listenAddresses, hlisten, upstreams, hupstreams, localBindAddress, hlocal, bootstrapDns,
    -, maxClients, hmaxClients, timeout, htimeout, maxConcurrent, hmaxConcurrent, minTtl, hminTtl,
    maxTtl, hmaxTtl, errTtl, herrTtl, ecsPrefixV4, hecsPrefixV4, ecsPrefixV6, hecsPrefixV6, port,
    hport, hglobals⟩ := h
  cases hglobals
  obtain ⟨hne, hnamed⟩ := parseUpstreams_eq_ok hupstreams
  constructor
  · exact {
      maxClients := isNumber_of_orExit hmaxClients
      timeout := isNumber_of_orExit htimeout
      maxConcurrent := isNumber_of_orExit hmaxConcurrent
      minTtl := isNumber_of_orExit hminTtl
      maxTtl := isNumber_of_orExit hmaxTtl
      errTtl := isNumber_of_orExit herrTtl
      ecsPrefixV4 := isNumber_of_orExit hecsPrefixV4
      ecsPrefixV6 := isNumber_of_orExit hecsPrefixV6
      publicPort := exists_publicPort_iff.mp ⟨port, hport⟩ }
  · refine ⟨⟨upstreams, hupstreams⟩, ?_⟩
    refine ⟨ne_nil_of_parseListenAddresses hlisten, hne, hnamed, startsWith_path m.path, ?_, ?_⟩
    · -- without keys of their own, they are in the file of the certificates
      cases m.tlsCertPath <;> cases m.tlsCertKeyPath <;> rfl
    · intro hnone peer
      rw [hnone] at hlocal
      cases hlocal
      obtain ⟨first, rest, rfl⟩ := List.exists_cons_of_ne_nil hne
      exact localBindForPeer_default first peer

/-- **It goes on** if nothing that was not checked is wrong. -/
theorem exists_parseOpts (hdoc : readings.Documented) (h : Accepted readings m) (hn : Numbers m)
    (hfound : FoundAgain readings m) : ∃ globals, parseOpts readings m = .ok globals := by
  obtain ⟨listenAddresses, hlisten⟩ := exists_listenAddresses h.listen
  obtain ⟨upstreams, hupstreams⟩ := (exists_upstreams_of_accepted hdoc h).mpr hfound
  obtain ⟨localBindAddress, hlocal⟩ := exists_localBindAddress upstreams h.localBind
  obtain ⟨bootstrapDns, hbootstrap⟩ : ∃ addrs, (m.bootstrap.mapM fun value =>
      orExit "bootstrap address" value (parseSocketAddr value)) = .ok addrs := by
    apply exists_mapM
    intro value hvalue
    obtain ⟨addr, haddr⟩ := isOk_verifySockAddr (h.bootstrap value hvalue)
    exact isOk_iff.mpr ⟨addr, orExit_eq_ok_iff.mpr haddr⟩
  obtain ⟨maxClients, hmaxClients⟩ := hn.maxClients.orExit "max clients"
  obtain ⟨timeout, htimeout⟩ := hn.timeout.orExit "timeout"
  obtain ⟨maxConcurrent, hmaxConcurrent⟩ := hn.maxConcurrent.orExit "max concurrent streams"
  obtain ⟨minTtl, hminTtl⟩ := hn.minTtl.orExit "min TTL"
  obtain ⟨maxTtl, hmaxTtl⟩ := hn.maxTtl.orExit "max TTL"
  obtain ⟨errTtl, herrTtl⟩ := hn.errTtl.orExit "error TTL"
  obtain ⟨ecsPrefixV4, hecsPrefixV4⟩ := hn.ecsPrefixV4.orExit "ECS IPv4 prefix"
  obtain ⟨ecsPrefixV6, hecsPrefixV6⟩ := hn.ecsPrefixV6.orExit "ECS IPv6 prefix"
  obtain ⟨port, hport⟩ := exists_publicPort_iff.mpr hn.publicPort
  simp only [parseOpts, bind_eq_ok_iff]
  exact ⟨_, listenAddresses, hlisten, upstreams, hupstreams, localBindAddress, hlocal, bootstrapDns,
    hbootstrap, maxClients, hmaxClients, timeout, htimeout, maxConcurrent, hmaxConcurrent, minTtl,
    hminTtl, maxTtl, hmaxTtl, errTtl, herrTtl, ecsPrefixV4, hecsPrefixV4, ecsPrefixV6, hecsPrefixV6,
    port, hport, rfl⟩

/-- **On every command line that has been checked**, the program goes on exactly if the options with
numbers are numbers that fit and the DNS servers with names are found again, and what it goes on with
is in order. -/
theorem parseOpts_accepted (hdoc : readings.Documented) (h : Accepted readings m) :
    ((∃ globals, parseOpts readings m = .ok globals) ↔ Numbers m ∧ FoundAgain readings m) ∧
      ∀ globals, parseOpts readings m = .ok globals → InOrder readings m globals := by
  refine ⟨⟨?_, fun ⟨hn, hfound⟩ => exists_parseOpts hdoc h hn hfound⟩, ?_⟩
  · rintro ⟨globals, hok⟩
    obtain ⟨hn, hupstreams, -⟩ := parseOpts_eq_ok hok
    exact ⟨hn, (exists_upstreams_of_accepted hdoc h).mp hupstreams⟩
  · intro globals hok
    exact (parseOpts_eq_ok hok).2.2

/-- The two URLs are read, and the name of a DNS server is found, but at another address the second
time. -/
def moving : Readings where
  urlParse := twoUrls.urlParse
  checkedAddrs _ text :=
    if text = "dns.example:53" then .ok [.v4 #v[203, 0, 113, 61] 53]
    else ([·]) <$> parseSocketAddr text
  toSocketAddrs _ text :=
    if text = "dns.example:53" then .ok [.v4 #v[203, 0, 113, 62] 53]
    else ([·]) <$> parseSocketAddr text

theorem moving_documented : moving.Documented where
  host text url h := by
    simp only [moving, twoUrls] at h
    split at h
    · cases h
      rfl
    · split at h
      · cases h
        rfl
      · cases h
  literal place text addr h := by
    have hname : text ≠ "dns.example:53" := by
      rintro rfl
      have hnone : (parseSocketAddr "dns.example:53").isOk = false := by decide +kernel
      rw [h] at hnone
      cases hnone
    simp only [moving, if_neg hname, h]
    rfl

/-- A DoH server and two DNS servers, and a path without a slash. -/
def threeUpstreams : Matches where
  listenAddress := ["[::1]:3000"]
  upstream := ["https://[2001:db8::1]/", "192.0.2.1:53", "dns.example:53"]
  localBindAddress := none
  bootstrap := ["[fe80::1%2]:0053"]
  path := "dns-query"
  tlsCertPath := none
  tlsCertKeyPath := some "key.pem"
  hostname := none
  publicPort := some "none"

theorem threeUpstreams_accepted : Accepted moving threeUpstreams where
  listen := by decide +kernel
  upstream place value h := by
    have hchecked : ∀ entry ∈ threeUpstreams.upstream.zipIdx,
      (verifyUpstream (moving.checking entry.2) entry.1).isOk := by decide +kernel
    exact hchecked (value, place) (List.mk_mem_zipIdx_iff_getElem?.mpr h)
  localBind := by decide
  bootstrap := by decide +kernel

theorem parseOpts_accepted_threeUpstreams :
    ((∃ globals, parseOpts moving threeUpstreams = .ok globals) ↔
        Numbers threeUpstreams ∧ FoundAgain moving threeUpstreams) ∧
      ∀ globals, parseOpts moving threeUpstreams = .ok globals →
        InOrder moving threeUpstreams globals :=
  parseOpts_accepted moving_documented threeUpstreams_accepted

example : (parseOpts moving threeUpstreams).map Globals.path = .ok "/dns-query" := by
  decide +kernel

end DohProxy.Config

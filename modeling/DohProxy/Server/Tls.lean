import DohProxy.Errors
import DohProxy.Lib.Runs

/-!
# The certificates of HTTPS

The listeners of HTTPS share an acceptor for TLS, which is made of the certificates and the keys in
two files, and made again every ten seconds. This is `tls.rs`; the clients are counted in `Clients`.

## The model

What is in the two files is a `Disk`, which may change at any time, also between the reading of the one
file and the reading of the other. A step is a change of the disk, the reading of a file, or what a
listener or a connection does. All that was on the disk is kept; the code has no such thing. What
`rustls` does is a parameter.

## What is proved

* `handshakes_loaded` — **in every run**, a connection is accepted only with an acceptor that was made
  of what was in the files, the keys being as they were or came to be after the certificates, and a
  failure to make another one takes none away.
* `renewed` — once the files have been read as they are, the acceptor is the one they make.
-/

namespace DohProxy.Server.Tls

open Lib System

/-! ### An acceptor -/

/-- What is in a file. -/
inductive File where
  /-- It cannot be opened. -/
  | unopened (err : IoError)
  /-- It cannot be read. -/
  | unread (err : IoError)
  /-- Some bytes. -/
  | bytes (content : List UInt8)
  deriving DecidableEq

/-- What is taken from `rustls` and `rustls_pemfile`. Errors are their texts. -/
structure Rustls (Cert Key Config : Type) where
  /-- `certs`. -/
  certs : List UInt8 → Except String (List Cert)
  /-- `pkcs8_private_keys`. -/
  pkcs8PrivateKeys : List UInt8 → Except String (List Key)
  /-- `rsa_private_keys`. -/
  rsaPrivateKeys : List UInt8 → Except String (List Key)
  /-- `with_single_cert`. -/
  withSingleCert : List Cert → Key → Option Config

/-- An acceptor. -/
structure TlsAcceptor (Config : Type) where
  /-- The certificates with a key. -/
  config : Config
  /-- `alpn_protocols`. -/
  alpnProtocols : List String
  deriving DecidableEq

variable {Cert Key Config : Type}

/-- The paths of the two files. -/
structure Paths where
  /-- `certs_path`. -/
  certs : String
  /-- `certs_keys_path`. -/
  keys : String

namespace Rustls

/-- The certificates in a file. -/
def loadCerts (rustls : Rustls Cert Key Config) (path : String) : File → Except IoError (List Cert)
  | .unopened err =>
    .error ⟨err.kind, "Unable to load the certificates [" ++ path ++ "]: " ++ err.text⟩
  | .unread err => .error ⟨.invalidInput, "Unable to parse the certificates: " ++ err.text⟩
  | .bytes content =>
    (rustls.certs content).mapError fun text =>
      ⟨.invalidInput, "Unable to parse the certificates: " ++ text⟩

/-- The keys in some bytes, of either kind. -/
def parseKeys (rustls : Rustls Cert Key Config) (encodedKeys : List UInt8) :
    Except IoError (List Key) := do
  let pkcs8Keys ← (rustls.pkcs8PrivateKeys encodedKeys).mapError fun text =>
    ⟨.invalidInput, "Unable to parse the certificates private keys (PKCS8): " ++ text⟩
  let rsaKeys ← (rustls.rsaPrivateKeys encodedKeys).mapError fun text =>
    ⟨.invalidInput, "Unable to parse the certificates private keys (RSA): " ++ text⟩
  let keys := pkcs8Keys ++ rsaKeys
  if keys.isEmpty then
    throw ⟨.invalidInput,
      "No private keys found - Make sure that they are in PKCS#8/PEM format"⟩
  return keys

/-- The keys in a file. -/
def loadKeys (rustls : Rustls Cert Key Config) (path : String) : File → Except IoError (List Key)
  | .unopened err =>
    .error ⟨err.kind, "Unable to load the certificate keys [" ++ path ++ "]: " ++ err.text⟩
  | .unread err => .error err
  | .bytes content => rustls.parseKeys content

/-- What `create_tls_acceptor` does with the certificates it has loaded. -/
def acceptor (rustls : Rustls Cert Key Config) (path : String) (certs : List Cert) (keyFile : File) :
    Except IoError (TlsAcceptor Config) := do
  let certsKeys ← rustls.loadKeys path keyFile
  match certsKeys.findSome? (rustls.withSingleCert certs) with
  | some config => return ⟨config, ["h2", "http/1.1"]⟩
  | none => throw ⟨.invalidInput, "Unable to find a valid certificate and key"⟩

/-- `create_tls_acceptor`, with what is in the files when it reads them. -/
def createTlsAcceptor (rustls : Rustls Cert Key Config) (paths : Paths) (certFile keyFile : File) :
    Except IoError (TlsAcceptor Config) := do
  let certs ← rustls.loadCerts paths.certs certFile
  rustls.acceptor paths.keys certs keyFile

end Rustls

/-! ### The listeners -/

/-- What is in the two files. -/
structure Disk where
  /-- The certificates. -/
  certs : File
  /-- The keys. -/
  keys : File
  deriving DecidableEq

/-- Where the loop is that makes the acceptor again and again. -/
inductive Loader (Cert : Type) where
  /-- It sleeps. -/
  | sleeping
  /-- It is about to read the certificates. -/
  | certs
  /-- It has read the certificates and is about to read the keys. -/
  | keys (certs : List Cert)
  deriving DecidableEq

/-- A connection that has been accepted. -/
inductive Conn (Config : Type) where
  /-- Its task has not begun. -/
  | spawned
  /-- Its handshake has, with this acceptor. -/
  | handshake (acceptor : TlsAcceptor Config)
  deriving DecidableEq

/-- The disk, the acceptor and the connections. -/
structure State (Cert Config : Type) where
  /-- What was on the disk before. -/
  past : List Disk
  /-- What is on the disk. -/
  disk : Disk
  /-- The loop. -/
  loader : Loader Cert
  /-- `tls_acceptor_store`; there are no listeners without one. -/
  store : Option (TlsAcceptor Config)
  /-- The connections. -/
  conns : List (Conn Config)
  deriving DecidableEq

/-- What can happen. -/
inductive Action where
  /-- The files change. -/
  | write (disk : Disk)
  /-- The ten seconds are over. -/
  | wake
  /-- The certificates are read. -/
  | readCerts
  /-- The keys are read, and the acceptor is stored if there is one. -/
  | readKeys
  /-- A listener accepts a connection. -/
  | accept
  /-- The task of a connection begins, and loads the acceptor. -/
  | load (i : ℕ)
  deriving DecidableEq

/-- What happens when the certificates are read. Without any the loop sleeps. -/
def readCerts (rustls : Rustls Cert Key Config) (paths : Paths) (s : State Cert Config) :
    Option (State Cert Config) :=
  match s.loader with
  | .certs =>
    match rustls.loadCerts paths.certs s.disk.certs with
    | .ok certs => some { s with loader := .keys certs }
    | .error _ => some { s with loader := .sleeping }
  | _ => none

/-- What happens when the keys are read. The first acceptor starts the listeners, and the loop goes
on at once. -/
def readKeys (rustls : Rustls Cert Key Config) (paths : Paths) (s : State Cert Config) :
    Option (State Cert Config) :=
  match s.loader with
  | .keys certs =>
    match rustls.acceptor paths.keys certs s.disk.keys with
    | .ok acceptor =>
      some { s with store := some acceptor, loader := if s.store.isNone then .certs else .sleeping }
    | .error _ => some { s with loader := .sleeping }
  | _ => none

/-- What `start_with_tls` and its listeners do. -/
def step (rustls : Rustls Cert Key Config) (paths : Paths) (s : State Cert Config) :
    Action → Option (State Cert Config)
  | .write disk => some { s with past := s.past ++ [s.disk], disk }
  | .wake =>
    match s.loader with
    | .sleeping => some { s with loader := .certs }
    | _ => none
  | .readCerts => readCerts rustls paths s
  | .readKeys => readKeys rustls paths s
  | .accept => if s.store.isSome then some { s with conns := s.conns ++ [.spawned] } else none
  | .load i =>
    match s.conns[i]?, s.store with
    | some .spawned, some acceptor => some { s with conns := s.conns.set i (.handshake acceptor) }
    | _, _ => none

/-- The listeners of HTTPS, where the files are there from the start or not. -/
def listening (rustls : Rustls Cert Key Config) (paths : Paths) (disk : Disk) :
    System (State Cert Config) Action where
  init := { past := [], disk, loader := .certs, store := none, conns := [] }
  step := step rustls paths

/-- `start_with_tls`. -/
def startWithTls (rustls : Rustls Cert Key Config) (tlsCertPath tlsCertKeyPath : Option String)
    (disk : Disk) : Except IoError (System (State Cert Config) Action) :=
  match tlsCertPath, tlsCertKeyPath with
  | none, _ => .error ⟨.notFound, "TLS certificate path not provided"⟩
  | some _, none => .error ⟨.notFound, "TLS certificate key path not provided"⟩
  | some certs, some keys => .ok (listening rustls ⟨certs, keys⟩ disk)

variable {rustls : Rustls Cert Key Config} {paths : Paths} {disk : Disk}
  {s s' : State Cert Config} {a : Action} {as : List Action} {certs : List Cert}
  {acceptor : TlsAcceptor Config} {disks : List Disk} {certFile keyFile : File} {i : ℕ}

theorem createTlsAcceptor_iff : rustls.createTlsAcceptor paths certFile keyFile = .ok acceptor ↔
    ∃ certs, rustls.loadCerts paths.certs certFile = .ok certs ∧
      rustls.acceptor paths.keys certs keyFile = .ok acceptor := by
  unfold Rustls.createTlsAcceptor
  cases rustls.loadCerts paths.certs certFile <;> simp [bind, Except.bind]

/-- **What a step does.** -/
inductive Step (rustls : Rustls Cert Key Config) (paths : Paths) (s : State Cert Config) :
    Action → State Cert Config → Prop where
  /-- The files change. -/
  | write (disk : Disk) :
    Step rustls paths s (.write disk) { s with past := s.past ++ [s.disk], disk }
  /-- The loop goes on. -/
  | wake (h : s.loader = .sleeping) : Step rustls paths s .wake { s with loader := .certs }
  /-- The certificates have been read. -/
  | certs {certs : List Cert} (h : s.loader = .certs)
    (hcerts : rustls.loadCerts paths.certs s.disk.certs = .ok certs) :
    Step rustls paths s .readCerts { s with loader := .keys certs }
  /-- They have not. -/
  | noCerts {err : IoError} (h : s.loader = .certs)
    (hcerts : rustls.loadCerts paths.certs s.disk.certs = .error err) :
    Step rustls paths s .readCerts { s with loader := .sleeping }
  /-- There is an acceptor, and the loop goes on, sooner or later. -/
  | keys {certs : List Cert} {acceptor : TlsAcceptor Config} {loader : Loader Cert}
    (h : s.loader = .keys certs)
    (hacceptor : rustls.acceptor paths.keys certs s.disk.keys = .ok acceptor)
    (hloader : ∀ certs, loader ≠ .keys certs) :
    Step rustls paths s .readKeys { s with store := some acceptor, loader }
  /-- There is none. -/
  | noKeys {certs : List Cert} {err : IoError} (h : s.loader = .keys certs)
    (hacceptor : rustls.acceptor paths.keys certs s.disk.keys = .error err) :
    Step rustls paths s .readKeys { s with loader := .sleeping }
  /-- There is another connection. -/
  | accept (h : s.store.isSome) :
    Step rustls paths s .accept { s with conns := s.conns ++ [.spawned] }
  /-- The handshake of a connection begins. -/
  | load {i : ℕ} {acceptor : TlsAcceptor Config} (h : s.conns[i]? = some .spawned)
    (hstore : s.store = some acceptor) :
    Step rustls paths s (.load i) { s with conns := s.conns.set i (.handshake acceptor) }

theorem step_cases (hs : step rustls paths s a = some s') : Step rustls paths s a s' := by
  cases a with
  | write disk =>
    cases hs
    exact .write disk
  | wake =>
    simp only [step] at hs
    split at hs
    · next hloader =>
      cases hs
      exact .wake hloader
    · cases hs
  | readCerts =>
    simp only [step, readCerts] at hs
    split at hs
    · next hloader =>
      split at hs
      · next certs hcerts =>
        cases hs
        exact .certs hloader hcerts
      · next err hcerts =>
        cases hs
        exact .noCerts hloader hcerts
    · cases hs
  | readKeys =>
    simp only [step, readKeys] at hs
    split at hs
    · next certs hloader =>
      split at hs
      · next acceptor hacceptor =>
        cases hs
        exact .keys hloader hacceptor fun certs hkeys => by split at hkeys <;> cases hkeys
      · next err hacceptor =>
        cases hs
        exact .noKeys hloader hacceptor
    · cases hs
  | accept =>
    simp only [step] at hs
    split at hs
    · next hsome =>
      cases hs
      exact .accept hsome
    · cases hs
  | load i =>
    simp only [step] at hs
    split at hs
    · next acceptor hconn hstore =>
      cases hs
      exact .load hconn hstore
    · cases hs

/-! ### A run -/

/-- The acceptor was made of certificates on the disk and of keys that were there with them or came
after. -/
def Loaded (rustls : Rustls Cert Key Config) (paths : Paths) (disks : List Disk)
    (acceptor : TlsAcceptor Config) : Prop :=
  ∃ before disk after, disks = before ++ disk :: after ∧ ∃ later ∈ disk :: after,
    rustls.createTlsAcceptor paths disk.certs later.keys = .ok acceptor

/-- All that was on the disk. -/
def State.history (s : State Cert Config) : List Disk := s.past ++ [s.disk]

/-- The invariant. -/
structure Inv (rustls : Rustls Cert Key Config) (paths : Paths) (s : State Cert Config) : Prop where
  /-- The certificates that have been read were on the disk. -/
  certs : ∀ certs, s.loader = .keys certs → ∃ before disk after,
    s.history = before ++ disk :: after ∧ rustls.loadCerts paths.certs disk.certs = .ok certs
  /-- The acceptor was made of what was there. -/
  store : ∀ acceptor ∈ s.store, Loaded rustls paths s.history acceptor
  /-- So were those of the connections. -/
  conns : ∀ acceptor, .handshake acceptor ∈ s.conns → Loaded rustls paths s.history acceptor
  /-- There is no connection without one. -/
  nonempty : s.store = none → s.conns = []

theorem Loaded.mono (h : Loaded rustls paths disks acceptor) (disk : Disk) :
    Loaded rustls paths (disks ++ [disk]) acceptor := by
  obtain ⟨before, first, after, rfl, later, hlater, hcreate⟩ := h
  refine ⟨before, first, after ++ [disk], by simp, later, ?_, hcreate⟩
  rw [← List.cons_append]
  exact List.mem_append_left _ hlater

theorem history_write (s : State Cert Config) (disk : Disk) :
    { s with past := s.past ++ [s.disk], disk }.history = s.history ++ [disk] := rfl

theorem Inv.init : Inv rustls paths (listening rustls paths disk).init where
  certs _ h := by cases h
  store _ h := by cases h
  conns _ h := by cases h
  nonempty _ := rfl

/-- The keys that are read now make an acceptor of what was on the disk. -/
theorem Inv.loaded (h : Inv rustls paths s) (hloader : s.loader = .keys certs)
    (hacceptor : rustls.acceptor paths.keys certs s.disk.keys = .ok acceptor) :
    Loaded rustls paths s.history acceptor := by
  obtain ⟨before, disk, after, hhistory, hcerts⟩ := h.certs certs hloader
  refine ⟨before, disk, after, hhistory, s.disk, ?_,
    createTlsAcceptor_iff.mpr ⟨certs, hcerts, hacceptor⟩⟩
  -- the disk as it is now is the last one there was
  have hlast : (before ++ disk :: after).getLast? = some s.disk := by
    rw [← hhistory, State.history, List.getLast?_concat]
  rw [List.getLast?_append_of_ne_nil _ (List.cons_ne_nil _ _)] at hlast
  exact List.mem_of_getLast? hlast

theorem Inv.step (h : Inv rustls paths s) (hs : step rustls paths s a = some s') :
    Inv rustls paths s' := by
  cases step_cases hs with
  | write disk =>
    refine ⟨fun certs hloader => ?_, fun acceptor hmem => ?_, fun acceptor hmem => ?_, h.nonempty⟩
    · obtain ⟨before, first, after, hhistory, hcerts⟩ := h.certs certs hloader
      refine ⟨before, first, after ++ [disk], ?_, hcerts⟩
      rw [history_write, hhistory, List.append_assoc, List.cons_append]
    · exact (h.store acceptor hmem).mono disk
    · exact (h.conns acceptor hmem).mono disk
  | wake | noCerts | noKeys => exact ⟨nofun, h.store, h.conns, h.nonempty⟩
  | certs _ hcerts =>
    refine ⟨fun certs' hloader => ?_, h.store, h.conns, h.nonempty⟩
    cases hloader
    exact ⟨s.past, s.disk, [], rfl, hcerts⟩
  | keys hloader hacceptor hnot =>
    refine ⟨fun certs' hkeys => absurd hkeys (hnot certs'), fun acceptor' hmem => ?_, h.conns, nofun⟩
    cases hmem
    exact h.loaded hloader hacceptor
  | accept hsome =>
    refine ⟨h.certs, h.store, fun acceptor hmem => ?_, fun hnone => ?_⟩
    · rcases List.mem_append.mp hmem with hmem | hmem
      · exact h.conns acceptor hmem
      · cases List.mem_singleton.mp hmem
    · rw [hnone] at hsome
      cases hsome
  | load hconn hstore =>
    refine ⟨h.certs, h.store, fun acceptor' hmem => ?_, fun hnone => ?_⟩
    · rcases List.mem_or_eq_of_mem_set hmem with hmem | hmem
      · exact h.conns acceptor' hmem
      · cases hmem
        exact h.store _ hstore
    · cases hnone.symm.trans hstore

/-- The acceptor stays, or another one has been made. -/
theorem store_step (hs : step rustls paths s a = some s') :
    s'.store = s.store ∨ ∃ acceptor, a = .readKeys ∧ s'.store = some acceptor := by
  cases step_cases hs with
  | keys => exact .inr ⟨_, rfl, rfl⟩
  | _ => exact .inl rfl

theorem Inv.run (h : Run (listening rustls paths disk) Always as s) : Inv rustls paths s :=
  h.stateInvariant .init fun _ _ _ hinv _ hs => hinv.step hs

/-- What `start_with_tls` goes on with are the files at the paths that it is given. -/
theorem startWithTls_inv {tlsCertPath tlsCertKeyPath : Option String}
    {T : System (State Cert Config) Action}
    (hstart : startWithTls rustls tlsCertPath tlsCertKeyPath disk = .ok T)
    (h : Run T Always as s) :
    ∃ paths, tlsCertPath = some paths.certs ∧ tlsCertKeyPath = some paths.keys ∧
      Inv rustls paths s := by
  unfold startWithTls at hstart
  split at hstart
  · cases hstart
  · cases hstart
  · next certs keys =>
    cases hstart
    exact ⟨⟨certs, keys⟩, rfl, rfl, .run h⟩

/-- **The acceptors of the connections**, in every run: each was made of what was in the files. There
is one as soon as there is a connection, and it stays until another one is made. -/
theorem handshakes_loaded (h : Run (listening rustls paths disk) Always as s) :
    (∀ acceptor, .handshake acceptor ∈ s.conns → Loaded rustls paths s.history acceptor) ∧
    (s.conns ≠ [] → ∃ acceptor, s.store = some acceptor) ∧
    ∀ a s', (listening rustls paths disk).step s a = some s' → s'.store = s.store ∨
      ∃ acceptor, a = .readKeys ∧ s'.store = some acceptor ∧
        Loaded rustls paths s'.history acceptor := by
  have hinv : Inv rustls paths s := .run h
  refine ⟨hinv.conns, fun hne => ?_, fun a s' hs => ?_⟩
  · exact Option.ne_none_iff_exists'.mp fun hnone => hne (hinv.nonempty hnone)
  · rcases store_step hs with hsame | ⟨acceptor, ha, hstore⟩
    · exact .inl hsame
    · exact .inr ⟨acceptor, ha, hstore, (hinv.step hs).store acceptor hstore⟩

/-- Certificates are bytes and so are keys, and a key fits a certificate that is the same byte. -/
def sameByte : Rustls UInt8 UInt8 UInt8 where
  certs content := .ok content
  pkcs8PrivateKeys content := .ok content
  rsaPrivateKeys _ := .ok []
  withSingleCert certs key := if key ∈ certs then some key else none

/-- New certificates come, and later the keys for them. -/
def renewing : List Action :=
  [.readCerts, .readKeys, .accept, .load 0, .write ⟨.bytes [9], .bytes [7]⟩, .readCerts, .readKeys,
    .accept, .load 1, .write ⟨.bytes [9], .bytes [9]⟩, .wake, .readCerts, .readKeys, .accept, .load 2]

/-- The connections meanwhile go on with the acceptor there was. -/
theorem handshakes_loaded_renewing :
    ∃ s, Run (listening sameByte ⟨"c", "k"⟩ ⟨.bytes [7], .bytes [7]⟩) Always renewing s ∧
      s.conns = [.handshake ⟨7, ["h2", "http/1.1"]⟩, .handshake ⟨7, ["h2", "http/1.1"]⟩,
        .handshake ⟨9, ["h2", "http/1.1"]⟩] ∧
      Loaded sameByte ⟨"c", "k"⟩ s.history ⟨9, ["h2", "http/1.1"]⟩ := by
  have hrun : ((listening sameByte ⟨"c", "k"⟩ ⟨.bytes [7], .bytes [7]⟩).exec Always
      (listening sameByte ⟨"c", "k"⟩ ⟨.bytes [7], .bytes [7]⟩).init renewing).map State.conns =
      some [.handshake ⟨7, ["h2", "http/1.1"]⟩, .handshake ⟨7, ["h2", "http/1.1"]⟩,
        .handshake ⟨9, ["h2", "http/1.1"]⟩] := by
    decide +kernel
  obtain ⟨s, hs, hconns⟩ := Option.map_eq_some_iff.mp hrun
  have h : Run (listening sameByte ⟨"c", "k"⟩ ⟨.bytes [7], .bytes [7]⟩) Always renewing s :=
    run_of_exec hs
  refine ⟨s, h, hconns, (handshakes_loaded h).1 _ ?_⟩
  rw [hconns]
  simp

/-! ### Renewed files -/

/-- The files do not change. -/
def Unwritten (_ : State Cert Config) (a : Action) : Prop := ∀ disk, a ≠ .write disk

instance (s : State Cert Config) : DecidablePred (Unwritten s)
  | .write disk => .isFalse fun h => h disk rfl
  | .wake | .readCerts | .readKeys | .accept | .load _ => .isTrue fun disk h => by cases h

/-- What has been read of the disk is as it is there. -/
structure UpToDate (rustls : Rustls Cert Key Config) (paths : Paths) (disk : Disk)
    (s : State Cert Config) : Prop where
  /-- The disk. -/
  same : s.disk = disk
  /-- The certificates. -/
  certs : ∀ certs, s.loader = .keys certs → rustls.loadCerts paths.certs disk.certs = .ok certs

/-- The acceptor is the one that the files make. -/
theorem UpToDate.readKeys (h : UpToDate rustls paths disk s)
    (hcreate : rustls.createTlsAcceptor paths disk.certs disk.keys = .ok acceptor)
    (hs : step rustls paths s .readKeys = some s') : s'.store = some acceptor := by
  obtain ⟨certs, hcerts, hmade⟩ := createTlsAcceptor_iff.mp hcreate
  cases step_cases hs with
  | keys hloader hacceptor =>
    cases hcerts.symm.trans (h.certs _ hloader)
    rw [h.same, hmade] at hacceptor
    cases hacceptor
    rfl
  | noKeys hloader hacceptor =>
    cases hcerts.symm.trans (h.certs _ hloader)
    rw [h.same, hmade] at hacceptor
    cases hacceptor

/-- The certificates have been read as they are. -/
theorem upToDate_of_readCerts (hs : step rustls paths s .readCerts = some s') :
    UpToDate rustls paths s.disk s' := by
  cases step_cases hs with
  | certs _ hcerts =>
    refine ⟨rfl, fun certs' hloader => ?_⟩
    cases hloader
    exact hcerts
  | noCerts => exact ⟨rfl, nofun⟩

theorem UpToDate.step (h : UpToDate rustls paths disk s) (ha : Unwritten s a)
    (hs : step rustls paths s a = some s') : UpToDate rustls paths disk s' := by
  cases step_cases hs with
  | write disk => exact absurd rfl (ha disk)
  | certs => exact h.same ▸ upToDate_of_readCerts hs
  | keys _ _ hnot => exact ⟨h.same, fun certs hkeys => absurd hkeys (hnot certs)⟩
  | wake | noCerts | noKeys => exact ⟨h.same, nofun⟩
  | accept | load => exact ⟨h.same, h.certs⟩

/-- A connection begins with the acceptor there is. -/
theorem load_step (hstore : s.store = some acceptor)
    (hs : (listening rustls paths disk).step s (.load i) = some s') :
    s'.conns[i]? = some (.handshake acceptor) := by
  have hs : step rustls paths s (.load i) = some s' := hs
  cases step_cases hs with
  | load hconn hstore' =>
    cases hstore.symm.trans hstore'
    exact List.getElem?_set_self (List.getElem?_eq_some_iff.mp hconn).1

/-- **Renewed files**: when the certificates and later the keys have been read and the files have not
changed meanwhile, the acceptor is the one they make, and stays it as long as they do not change. -/
theorem renewed {s s₁ s₂ s₃ s₄ : State Cert Config} {mid after : List Action}
    (hcreate : rustls.createTlsAcceptor paths s.disk.certs s.disk.keys = .ok acceptor)
    (hcerts : (listening rustls paths disk).step s .readCerts = some s₁)
    (hmid : (listening rustls paths disk).exec Unwritten s₁ mid = some s₂)
    (hkeys : (listening rustls paths disk).step s₂ .readKeys = some s₃)
    (hafter : (listening rustls paths disk).exec Unwritten s₃ after = some s₄) :
    s₄.store = some acceptor ∧ ∀ i s', (listening rustls paths disk).step s₄ (.load i) = some s' →
      s'.conns[i]? = some (.handshake acceptor) := by
  have hstart : UpToDate rustls paths s.disk s₁ := upToDate_of_readCerts hcerts
  have hread : UpToDate rustls paths s.disk s₂ :=
    exec_invariant (fun _ _ _ hup ha hs => hup.step ha hs) hstart hmid
  have hmade : UpToDate rustls paths s.disk s₃ :=
    UpToDate.step (a := .readKeys) hread (fun disk h => by cases h) hkeys
  -- from here on the acceptor is the one that the files make
  have hend : UpToDate rustls paths s.disk s₄ ∧ s₄.store = some acceptor := by
    refine exec_invariant (I := fun s' => UpToDate rustls paths s.disk s' ∧
      s'.store = some acceptor) (fun s' a s'' hup ha hs => ⟨hup.1.step ha hs, ?_⟩)
      ⟨hmade, hread.readKeys hcreate hkeys⟩ hafter
    rcases store_step hs with hsame | ⟨-, rfl, -⟩
    · exact hsame.trans hup.2
    · exact hup.1.readKeys hcreate hs
  exact ⟨hend.2, fun i s' hs => load_step hend.2 hs⟩

/-- A connection waits while new files are read. -/
theorem renewed_waiting : ∃ s₄ : State UInt8 UInt8, s₄.conns = [.spawned] ∧
    s₄.store = some ⟨9, ["h2", "http/1.1"]⟩ := by
  have hcerts : (listening sameByte ⟨"c", "k"⟩ ⟨.bytes [7], .bytes [7]⟩).step
      ⟨[], ⟨.bytes [9], .bytes [9]⟩, .certs, some ⟨7, ["h2", "http/1.1"]⟩, []⟩ .readCerts =
      some ⟨[], ⟨.bytes [9], .bytes [9]⟩, .keys [9], some ⟨7, ["h2", "http/1.1"]⟩, []⟩ := by
    decide +kernel
  have hmid : (listening sameByte ⟨"c", "k"⟩ ⟨.bytes [7], .bytes [7]⟩).exec Unwritten
      ⟨[], ⟨.bytes [9], .bytes [9]⟩, .keys [9], some ⟨7, ["h2", "http/1.1"]⟩, []⟩ [.accept] =
      some ⟨[], ⟨.bytes [9], .bytes [9]⟩, .keys [9], some ⟨7, ["h2", "http/1.1"]⟩,
        [.spawned]⟩ := by
    decide +kernel
  have hkeys : (listening sameByte ⟨"c", "k"⟩ ⟨.bytes [7], .bytes [7]⟩).step
      ⟨[], ⟨.bytes [9], .bytes [9]⟩, .keys [9], some ⟨7, ["h2", "http/1.1"]⟩, [.spawned]⟩
      .readKeys =
      some ⟨[], ⟨.bytes [9], .bytes [9]⟩, .sleeping, some ⟨9, ["h2", "http/1.1"]⟩,
        [.spawned]⟩ := by
    decide +kernel
  have hcreate : sameByte.createTlsAcceptor ⟨"c", "k"⟩ (.bytes [9]) (.bytes [9]) =
      .ok ⟨9, ["h2", "http/1.1"]⟩ := by
    rfl
  have hafter : (listening sameByte ⟨"c", "k"⟩ ⟨.bytes [7], .bytes [7]⟩).exec Unwritten
      ⟨[], ⟨.bytes [9], .bytes [9]⟩, .sleeping, some ⟨9, ["h2", "http/1.1"]⟩, [.spawned]⟩ [.wake] =
      some ⟨[], ⟨.bytes [9], .bytes [9]⟩, .certs, some ⟨9, ["h2", "http/1.1"]⟩, [.spawned]⟩ := by
    decide +kernel
  exact ⟨_, rfl, (renewed hcreate hcerts hmid hkeys hafter).1⟩

end DohProxy.Server.Tls

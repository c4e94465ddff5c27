import DohProxy.Lib.Runs
import DohProxy.Server.H3Request

/-!
# Oblivious queries and the rotation of keys

A client of Oblivious DoH loads the configuration of the server, which has a public key in it, and
encrypts its query with that key. The server has a new key every day. This is `odoh.rs`, with
`serve_odoh` and `serve_odoh_configs` of `lib.rs`, which load the key that is current then.

## The model

`OdohRs` is what the crate `odoh_rs` does, and `Client` is what a client does with the same
messages; that a response can be read with the secret of its query is a hypothesis, `Client.Lawful`.
A step is what happens between two awaits: the key is loaded and the query decrypted in one, and the
response of the upstream is encrypted in another, and keys may come and go between them.

## What is proved

* `oblivious_answered` — **in every run**, a query that was encrypted with the key that it meets is
  handed on as it was, and the client can read its answer, however often the key changes before it
  comes; a query for another key is answered with the status 401.
* `serveOdoh_of_run` — a call returns what it would return if nothing happened between its two
  halves.
* `fresh_configs` — a configuration that is kept no longer than its header allows has the current
  key in it, or the one before.
-/

namespace DohProxy.Server.Odoh

open Lib System

/-- What `odoh_rs` does. -/
structure OdohRs (KeyPair PublicKey Message Plaintext Secret Nonce : Type) where
  /-- `public`. -/
  publicKey : KeyPair → PublicKey
  /-- `identifier`. -/
  identifier : PublicKey → Option (List UInt8)
  /-- The configurations with this key, serialized. -/
  serializeConfigs : PublicKey → Except String (List UInt8)
  /-- `deserialize` of a message. -/
  deserialize : List UInt8 → Option Message
  /-- `key_id`. -/
  keyId : Message → List UInt8
  /-- `decrypt_query`. -/
  decryptQuery : Message → KeyPair → Option (Plaintext × Secret)
  /-- A plaintext of a message and some padding. -/
  plaintext : List UInt8 → ℕ → Plaintext
  /-- `into_msg`. -/
  intoMsg : Plaintext → List UInt8
  /-- `encrypt_response`. -/
  encryptResponse : Plaintext → Plaintext → Secret → Nonce → Option Message
  /-- `serialize` of a message. -/
  serialize : Message → Option (List UInt8)

/-- A key with its configurations. -/
structure ODoHPublicKey (KeyPair : Type) where
  /-- The key pair. -/
  keyPair : KeyPair
  /-- The configurations. -/
  serializedConfigs : List UInt8

/-- What is needed to encrypt the response to a query. -/
structure ODoHQueryContext (Plaintext Secret : Type) where
  /-- The query. -/
  query : Plaintext
  /-- The secret. -/
  serverSecret : Secret

section

variable {KeyPair PublicKey Message Plaintext Secret Nonce : Type}
variable (rs : OdohRs KeyPair PublicKey Message Plaintext Secret Nonce)

/-- `ODoHPublicKey::new`, with a random key pair. -/
def ODoHPublicKey.new (keyPair : KeyPair) : Except DoHError (ODoHPublicKey KeyPair) :=
  match rs.serializeConfigs (rs.publicKey keyPair) with
  | .ok serializedConfigs => .ok ⟨keyPair, serializedConfigs⟩
  | .error e => .error (.odohConfigError e)

/-- `ODoHPublicKey::decrypt_query`. -/
def ODoHPublicKey.decryptQuery (key : ODoHPublicKey KeyPair) (encryptedQuery : List UInt8) :
    Except DoHError (List UInt8 × ODoHQueryContext Plaintext Secret) :=
  match rs.deserialize encryptedQuery with
  | none => .error .invalidData
  | some odohQuery =>
    match rs.identifier (rs.publicKey key.keyPair) with
    | none => .error .invalidData
    | some keyId =>
      if keyId ≠ rs.keyId odohQuery then .error .staleKey
      else
        match rs.decryptQuery odohQuery key.keyPair with
        | none => .error .invalidData
        | some (query, serverSecret) => .ok (rs.intoMsg query, ⟨query, serverSecret⟩)

/-- `ODoHQueryContext::encrypt_response`, with a random nonce. -/
def ODoHQueryContext.encryptResponse (nonce : Nonce) (context : ODoHQueryContext Plaintext Secret)
    (responseBody : List UInt8) : Except DoHError (List UInt8) :=
  match rs.encryptResponse context.query (rs.plaintext responseBody 0) context.serverSecret
      nonce with
  | none => .error .invalidData
  | some encryptedResponse =>
    match rs.serialize encryptedResponse with
    | none => .error .invalidData
    | some bytes => .ok bytes

/-! ### The rotator -/

/-- Where `serve_odoh` is. -/
inductive Phase (Plaintext Secret : Type) where
  /-- It is about to load the key. -/
  | load
  /-- The query has been handed on. -/
  | proxying (context : ODoHQueryContext Plaintext Secret)
  /-- It has returned. -/
  | over (response : Response)

/-- A call of `serve_odoh`. -/
structure Request (KeyPair Plaintext Secret Nonce : Type) where
  /-- The query. -/
  encryptedQuery : List UInt8
  /-- The key it has loaded, and how many there had been before. -/
  key : Option (ODoHPublicKey KeyPair × ℕ)
  /-- What the upstream has been asked. -/
  asked : Option (List UInt8)
  /-- What it has said, and the nonce of the response. -/
  reply : Option (Except DoHError DnsResponse × Nonce)
  /-- Where it is. -/
  phase : Phase Plaintext Secret

/-- A response of `serve_odoh_configs`. -/
structure Served where
  /-- When it was given, in seconds. -/
  time : ℕ
  /-- How many keys there had been before the one in it. -/
  generation : ℕ
  /-- The response. -/
  response : Response

/-- The rotator and the requests. -/
structure State (KeyPair Plaintext Secret Nonce : Type) where
  /-- The clock, in seconds. -/
  now : ℕ
  /-- When the rotator wakes up. -/
  wakesAt : ℕ
  /-- The current key. -/
  key : ODoHPublicKey KeyPair
  /-- The keys before, the first one first. -/
  past : List (ODoHPublicKey KeyPair)
  /-- The configurations that have been given out. -/
  served : List Served
  /-- The calls of `serve_odoh`. -/
  requests : List (Request KeyPair Plaintext Secret Nonce)

/-- What happens. -/
inductive Action (KeyPair Nonce : Type) where
  /-- Some seconds go by. -/
  | tick (seconds : ℕ)
  /-- The rotator makes a key of this pair. -/
  | rotate (keyPair : KeyPair)
  /-- `serve_odoh_configs` is called. -/
  | configs
  /-- `serve_odoh` is called. -/
  | arrive (encryptedQuery : List UInt8)
  /-- A call loads the key and decrypts its query. -/
  | load (request : ℕ)
  /-- The upstream has answered to a call. -/
  | reply (request : ℕ) (reply : Except DoHError DnsResponse) (nonce : Nonce)

/-- `serve_odoh_configs`. -/
def serveOdohConfigs (key : ODoHPublicKey KeyPair) : Response :=
  buildResponse key.serializedConfigs odohKeyRotationSecs "application/octet-stream".toList true

/-- What `serve_odoh` makes of a reply of the upstream. -/
def respond (context : ODoHQueryContext Plaintext Secret) (reply : Except DoHError DnsResponse)
    (nonce : Nonce) : Response :=
  match reply with
  | .error e => httpError (StatusCode.ofDohError e)
  | .ok response =>
    match context.encryptResponse rs nonce response.packet with
    | .error e => httpError (StatusCode.ofDohError e)
    | .ok encryptedResponse => buildResponse encryptedResponse 0 DoHType.oblivious.asStr false

/-- The first half of `serve_odoh`. -/
def Request.load (key : ODoHPublicKey KeyPair) (generation : ℕ)
    (request : Request KeyPair Plaintext Secret Nonce) :
    Option (Request KeyPair Plaintext Secret Nonce) :=
  match request.phase with
  | .load =>
    let request := { request with key := some (key, generation) }
    match key.decryptQuery rs request.encryptedQuery with
    | .ok (query, context) => some { request with asked := some query, phase := .proxying context }
    | .error e => some { request with phase := .over (httpError (StatusCode.ofDohError e)) }
  | _ => none

/-- The second half of `serve_odoh`. -/
def Request.answer (reply : Except DoHError DnsResponse) (nonce : Nonce)
    (request : Request KeyPair Plaintext Secret Nonce) :
    Option (Request KeyPair Plaintext Secret Nonce) :=
  match request.phase with
  | .proxying context =>
    let response := respond rs context reply nonce
    some { request with reply := some (reply, nonce), phase := .over response }
  | _ => none

/-- The rotation of keys, which begins with this one. -/
def rotation (key : ODoHPublicKey KeyPair) :
    System (State KeyPair Plaintext Secret Nonce) (Action KeyPair Nonce) where
  init := ⟨0, odohKeyRotationSecs, key, [], [], []⟩
  step s
    | .tick seconds => some { s with now := s.now + seconds }
    | .rotate keyPair =>
      if s.now < s.wakesAt then none
      else
        let s := { s with wakesAt := s.now + odohKeyRotationSecs }
        match ODoHPublicKey.new rs keyPair with
        | .ok key => some { s with key, past := s.past ++ [s.key] }
        | .error _ => some s
    | .configs =>
      some { s with served := s.served ++ [⟨s.now, s.past.length, serveOdohConfigs s.key⟩] }
    | .arrive encryptedQuery =>
      some { s with requests := s.requests ++ [⟨encryptedQuery, none, none, none, .load⟩] }
    | .load i => do
      let request ← s.requests[i]?
      let request ← request.load rs s.key s.past.length
      some { s with requests := s.requests.set i request }
    | .reply i reply nonce => do
      let request ← s.requests[i]?
      let request ← request.answer rs reply nonce
      some { s with requests := s.requests.set i request }

/-! ### What a step does -/

variable {rs}
variable {s s' : State KeyPair Plaintext Secret Nonce}
  {request request' : Request KeyPair Plaintext Secret Nonce} {key : ODoHPublicKey KeyPair}

/-- All keys so far. -/
def State.keys (s : State KeyPair Plaintext Secret Nonce) : List (ODoHPublicKey KeyPair) :=
  s.past ++ [s.key]

theorem State.keys_current : s.keys[s.past.length]? = some s.key :=
  List.getElem?_concat_length

/-- What has become of a request. -/
def Request.Sound (rs : OdohRs KeyPair PublicKey Message Plaintext Secret Nonce)
    (request : Request KeyPair Plaintext Secret Nonce) : Prop :=
  match request.phase with
  | .load => request.key = none ∧ request.asked = none
  | .proxying context => ∃ key generation query, request.key = some (key, generation) ∧
      key.decryptQuery rs request.encryptedQuery = .ok (query, context) ∧ request.asked = some query
  | .over response => ∃ key generation, request.key = some (key, generation) ∧
      ((∃ e, key.decryptQuery rs request.encryptedQuery = .error e ∧ request.asked = none ∧
          response = httpError (StatusCode.ofDohError e)) ∨
        ∃ query context reply nonce,
          key.decryptQuery rs request.encryptedQuery = .ok (query, context) ∧
          request.asked = some query ∧ request.reply = some (reply, nonce) ∧
          response = respond rs context reply nonce)

/-- A request whose query has been decrypted. -/
theorem Request.Sound.of_ok (h : request.Sound rs) {generation : ℕ}
    (hkey : request.key = some (key, generation)) {query : List UInt8}
    {context : ODoHQueryContext Plaintext Secret}
    (hdecrypt : key.decryptQuery rs request.encryptedQuery = .ok (query, context)) :
    request.asked = some query ∧ ∀ response, request.phase = .over response →
      ∃ reply nonce, request.reply = some (reply, nonce) ∧
        response = respond rs context reply nonce := by
  unfold Sound at h
  split at h
  · rw [h.1] at hkey
    cases hkey
  · next context' hphase =>
    obtain ⟨key', generation', query', hkey', hdecrypt', hasked⟩ := h
    rw [hkey'] at hkey
    cases hkey
    rw [hdecrypt'] at hdecrypt
    cases hdecrypt
    exact ⟨hasked, fun response hover => nomatch hphase.symm.trans hover⟩
  · next response hphase =>
    obtain ⟨key', generation', hkey', hcases⟩ := h
    rw [hkey'] at hkey
    cases hkey
    rw [hdecrypt] at hcases
    rcases hcases with ⟨e, herror, -⟩ | ⟨query', context', reply, nonce, hok, hasked, hreply, rfl⟩
    · cases herror
    · cases hok
      refine ⟨hasked, fun response hover => ⟨reply, nonce, hreply, ?_⟩⟩
      cases hphase.symm.trans hover
      rfl

/-- A request whose query has not been decrypted. -/
theorem Request.Sound.of_error (h : request.Sound rs) {generation : ℕ}
    (hkey : request.key = some (key, generation)) {e : DoHError}
    (hdecrypt : key.decryptQuery rs request.encryptedQuery = .error e) :
    request.asked = none ∧ request.phase = .over (httpError (StatusCode.ofDohError e)) := by
  unfold Sound at h
  split at h
  · rw [h.1] at hkey
    cases hkey
  · obtain ⟨key', generation', query', hkey', hdecrypt', -⟩ := h
    rw [hkey'] at hkey
    cases hkey
    rw [hdecrypt'] at hdecrypt
    cases hdecrypt
  · next response hphase =>
    obtain ⟨key', generation', hkey', hcases⟩ := h
    rw [hkey'] at hkey
    cases hkey
    rw [hdecrypt] at hcases
    rcases hcases with ⟨e', herror, hasked, rfl⟩ | ⟨_, _, _, _, hok, -⟩
    · cases herror
      exact ⟨hasked, hphase⟩
    · cases hok

/-- What is known of a response with configurations. -/
structure Served.Sound (s : State KeyPair Plaintext Secret Nonce) (served : Served) : Prop where
  /-- It has one of the keys in it. -/
  key : ∃ key, s.keys[served.generation]? = some key ∧ served.response = serveOdohConfigs key
  /-- It has been given out. -/
  time : served.time ≤ s.now
  /-- The key in it is the current one, or the one before unless a day has gone by. -/
  recent : s.past.length = served.generation ∨
    s.past.length = served.generation + 1 ∧ served.time + odohKeyRotationSecs ≤ s.wakesAt ∨
    served.time + odohKeyRotationSecs ≤ s.now

theorem Served.Sound.congr {served : Served} (h : served.Sound s) (hkey : s'.key = s.key)
    (hpast : s'.past = s.past) (hnow : s'.now = s.now) (hwakes : s'.wakesAt = s.wakesAt) :
    served.Sound s' := by
  obtain ⟨hkeys, htime, hrecent⟩ := h
  refine ⟨?_, by rwa [hnow], by rwa [hpast, hnow, hwakes]⟩
  rwa [State.keys, hkey, hpast]

/-- The invariant. -/
structure Inv (rs : OdohRs KeyPair PublicKey Message Plaintext Secret Nonce)
    (s : State KeyPair Plaintext Secret Nonce) : Prop where
  /-- The keys have been made. -/
  keys : ∀ key ∈ s.keys, ODoHPublicKey.new rs key.keyPair = .ok key
  /-- What has been given out. -/
  served : ∀ served ∈ s.served, served.Sound s
  /-- What has become of the requests. -/
  requests : ∀ request ∈ s.requests, request.Sound rs
  /-- The requests have loaded one of the keys. -/
  loaded : ∀ request ∈ s.requests, ∀ key generation, request.key = some (key, generation) →
    s.keys[generation]? = some key

theorem Request.load_sound {generation : ℕ} (hs : request.load rs key generation = some request')
    (h : request.Sound rs) :
    request'.Sound rs ∧ request'.key = some (key, generation) := by
  unfold load at hs
  unfold Sound at h
  split at hs
  · next hphase =>
    rw [hphase] at h
    dsimp only at hs
    split at hs
    · next query context hdecrypt =>
      obtain rfl := Option.some.inj hs
      exact ⟨⟨key, generation, query, rfl, hdecrypt, rfl⟩, rfl⟩
    · next e hdecrypt =>
      obtain rfl := Option.some.inj hs
      exact ⟨⟨key, generation, rfl, .inl ⟨e, hdecrypt, h.2, rfl⟩⟩, rfl⟩
  · cases hs

theorem Request.answer_sound {reply : Except DoHError DnsResponse} {nonce : Nonce}
    (hs : request.answer rs reply nonce = some request') (h : request.Sound rs) :
    request'.Sound rs ∧ request'.key = request.key := by
  unfold answer at hs
  unfold Sound at h
  split at hs
  · next context hphase =>
    rw [hphase] at h
    obtain rfl := Option.some.inj hs
    obtain ⟨key, generation, query, hkey, hdecrypt, hasked⟩ := h
    exact ⟨⟨key, generation, hkey, .inr ⟨query, context, reply, nonce, hdecrypt, hasked, rfl, rfl⟩⟩,
      rfl⟩
  · cases hs

/-- A key is made of the pair it has. -/
theorem ODoHPublicKey.new_keyPair {keyPair : KeyPair} (h : ODoHPublicKey.new rs keyPair = .ok key) :
    ODoHPublicKey.new rs key.keyPair = .ok key := by
  have hsame : key.keyPair = keyPair := by
    unfold ODoHPublicKey.new at h
    split at h
    · cases h
      rfl
    · cases h
  rw [hsame, h]

theorem Inv.init {keyPair : KeyPair} (hnew : ODoHPublicKey.new rs keyPair = .ok key) :
    Inv rs (rotation rs key).init := by
  refine ⟨fun key' hkey => ?_, nofun, nofun, nofun⟩
  rw [List.mem_singleton.mp hkey]
  exact ODoHPublicKey.new_keyPair hnew

/-- A request goes on. -/
theorem Inv.setRequest (h : Inv rs s) {i : ℕ} (hsound : request.Sound rs)
    (hloaded : ∀ key generation, request.key = some (key, generation) →
      s.keys[generation]? = some key) :
    Inv rs { s with requests := s.requests.set i request } := by
  refine ⟨h.keys, fun served hmem => (h.served served hmem).congr rfl rfl rfl rfl,
    fun request' hmem => ?_, fun request' hmem => ?_⟩
  · rcases List.mem_or_eq_of_mem_set hmem with hmem | rfl
    · exact h.requests request' hmem
    · exact hsound
  · rcases List.mem_or_eq_of_mem_set hmem with hmem | rfl
    · exact h.loaded request' hmem
    · exact hloaded

/-- The rotator has made a key. -/
theorem Inv.rotate (h : Inv rs s) {keyPair : KeyPair}
    (hnew : ODoHPublicKey.new rs keyPair = .ok key) (hawake : s.wakesAt ≤ s.now) :
    Inv rs { s with
      wakesAt := s.now + odohKeyRotationSecs, key, past := s.past ++ [s.key] } := by
  have hold : ∀ {generation : ℕ} {key' : ODoHPublicKey KeyPair}, s.keys[generation]? = some key' →
      (s.past ++ [s.key] ++ [key])[generation]? = some key' := by
    intro generation key' hkey
    exact (List.getElem?_append_left (List.getElem?_eq_some_iff.mp hkey).1).trans hkey
  refine ⟨fun key' hmem => ?_, fun served hmem => ?_, h.requests, fun request hmem => ?_⟩
  · rcases List.mem_append.mp hmem with hmem | hmem
    · exact h.keys key' hmem
    · rw [List.mem_singleton.mp hmem]
      exact ODoHPublicKey.new_keyPair hnew
  · obtain ⟨⟨key', hkey', hresponse⟩, htime, hrecent⟩ := h.served served hmem
    refine ⟨⟨key', hold hkey', hresponse⟩, htime, ?_⟩
    dsimp only
    rw [List.length_append, List.length_singleton]
    omega
  · exact fun key' generation hkey => hold (h.loaded request hmem key' generation hkey)

theorem Inv.step {first : ODoHPublicKey KeyPair} {a : Action KeyPair Nonce}
    (h : Inv rs s) (hs : (rotation rs first).step s a = some s') : Inv rs s' := by
  cases a with
  | tick seconds =>
    obtain rfl := Option.some.inj hs
    refine ⟨h.keys, fun served hmem => ?_, h.requests, h.loaded⟩
    obtain ⟨hkey, htime, hrecent⟩ := h.served served hmem
    exact ⟨hkey, Nat.le_add_right_of_le htime, by dsimp only; omega⟩
  | rotate keyPair =>
    simp only [rotation] at hs
    split at hs
    · cases hs
    · next hawake =>
      split at hs
      · next key hnew =>
        obtain rfl := Option.some.inj hs
        exact h.rotate hnew (Nat.le_of_not_lt hawake)
      · obtain rfl := Option.some.inj hs
        refine ⟨h.keys, fun served hmem => ?_, h.requests, h.loaded⟩
        obtain ⟨hkey, htime, hrecent⟩ := h.served served hmem
        exact ⟨hkey, htime, by dsimp only; omega⟩
  | configs =>
    obtain rfl := Option.some.inj hs
    refine ⟨h.keys, fun served hmem => ?_, h.requests, h.loaded⟩
    rcases List.mem_append.mp hmem with hmem | hmem
    · obtain ⟨hkey, htime, hrecent⟩ := h.served served hmem
      exact ⟨hkey, htime, hrecent⟩
    · rw [List.mem_singleton.mp hmem]
      exact ⟨⟨s.key, State.keys_current, rfl⟩, Nat.le_refl _, .inl rfl⟩
  | arrive encryptedQuery =>
    obtain rfl := Option.some.inj hs
    refine ⟨h.keys, fun served hmem => (h.served served hmem).congr rfl rfl rfl rfl,
      fun request hmem => ?_, fun request hmem => ?_⟩
    · rcases List.mem_append.mp hmem with hmem | hmem
      · exact h.requests request hmem
      · rw [List.mem_singleton.mp hmem]
        exact ⟨rfl, rfl⟩
    · rcases List.mem_append.mp hmem with hmem | hmem
      · exact h.loaded request hmem
      · rw [List.mem_singleton.mp hmem]
        nofun
  | load i =>
    simp only [rotation, Option.bind_eq_bind, Option.bind_eq_some_iff] at hs
    obtain ⟨request, hi, request', hload, hs⟩ := hs
    obtain rfl := Option.some.inj hs
    obtain ⟨hsound, hkey⟩ := Request.load_sound hload (h.requests request (List.mem_of_getElem? hi))
    refine h.setRequest hsound fun key generation hkey' => ?_
    rw [hkey] at hkey'
    cases hkey'
    exact State.keys_current
  | reply i reply nonce =>
    simp only [rotation, Option.bind_eq_bind, Option.bind_eq_some_iff] at hs
    obtain ⟨request, hi, request', hanswer, hs⟩ := hs
    obtain rfl := Option.some.inj hs
    have hmem := List.mem_of_getElem? hi
    obtain ⟨hsound, hkey⟩ := Request.answer_sound hanswer (h.requests request hmem)
    exact h.setRequest hsound fun key generation hkey' =>
      h.loaded request hmem key generation (hkey ▸ hkey')

/-- The invariant holds in every run. -/
theorem inv_of_run {keyPair : KeyPair} {first : ODoHPublicKey KeyPair}
    {as : List (Action KeyPair Nonce)} (hnew : ODoHPublicKey.new rs keyPair = .ok first)
    (h : Run (rotation rs first) Always as s) : Inv rs s :=
  h.stateInvariant (.init hnew) fun _ _ _ hs _ => hs.step

/-! ### A client -/

/-- What a client does. -/
structure Client (PublicKey Seed ClientSecret : Type) where
  /-- The key in some configurations. -/
  parseConfigs : List UInt8 → Option PublicKey
  /-- A query is encrypted. -/
  encryptQuery : PublicKey → List UInt8 → Seed → Option (List UInt8 × ClientSecret)
  /-- A response is decrypted. -/
  decryptResponse : ClientSecret → List UInt8 → Option (List UInt8)

variable {Seed ClientSecret : Type} {client : Client PublicKey Seed ClientSecret}

/-- **What a client relies on**: the key can be read from the configurations, a query can be
decrypted with the key it was encrypted with, and a response with the secret of its query. -/
structure Client.Lawful (client : Client PublicKey Seed ClientSecret)
    (rs : OdohRs KeyPair PublicKey Message Plaintext Secret Nonce) : Prop where
  /-- The key in the configurations. -/
  configs : ∀ {keyPair : KeyPair} {bytes : List UInt8},
    rs.serializeConfigs (rs.publicKey keyPair) = .ok bytes →
      client.parseConfigs bytes = some (rs.publicKey keyPair)
  /-- A query and its response. -/
  query : ∀ {keyPair : KeyPair} {query bytes : List UInt8} {seed : Seed} {secret : ClientSecret},
    client.encryptQuery (rs.publicKey keyPair) query seed = some (bytes, secret) →
      ∃ message, rs.deserialize bytes = some message ∧
        rs.identifier (rs.publicKey keyPair) = some (rs.keyId message) ∧
        ∃ plaintext serverSecret,
          rs.decryptQuery message keyPair = some (plaintext, serverSecret) ∧
          rs.intoMsg plaintext = query ∧
          ∀ body nonce response responseBytes,
            rs.encryptResponse plaintext (rs.plaintext body 0) serverSecret nonce = some response →
            rs.serialize response = some responseBytes →
              client.decryptResponse secret responseBytes = some body

/-- A query for the key in some configurations. -/
def Client.ask (client : Client PublicKey Seed ClientSecret) (configs query : List UInt8)
    (seed : Seed) : Option (List UInt8 × ClientSecret) := do
  let publicKey ← client.parseConfigs configs
  client.encryptQuery publicKey query seed

/-- The response to a query can be read with a secret. -/
def Readable (rs : OdohRs KeyPair PublicKey Message Plaintext Secret Nonce)
    (client : Client PublicKey Seed ClientSecret) (secret : ClientSecret)
    (context : ODoHQueryContext Plaintext Secret) : Prop :=
  ∀ nonce body bytes, context.encryptResponse rs nonce body = .ok bytes →
    client.decryptResponse secret bytes = some body

section

variable {query bytes : List UInt8} {seed : Seed} {secret : ClientSecret}

/-- A query for the key that it meets is decrypted. -/
theorem Client.Lawful.decryptQuery (h : client.Lawful rs)
    (hquery : client.encryptQuery (rs.publicKey key.keyPair) query seed = some (bytes, secret)) :
    ∃ context, key.decryptQuery rs bytes = .ok (query, context) ∧
      Readable rs client secret context := by
  obtain ⟨message, hmessage, hid, plaintext, serverSecret, hdecrypt, hmsg, hread⟩ := h.query hquery
  refine ⟨⟨plaintext, serverSecret⟩, ?_, fun nonce body bytes' hencrypt => ?_⟩
  · rw [ODoHPublicKey.decryptQuery, hmessage]
    dsimp only
    rw [hid]
    dsimp only
    rw [if_neg (not_not_intro rfl), hdecrypt, ← hmsg]
  · unfold ODoHQueryContext.encryptResponse at hencrypt
    split at hencrypt
    · cases hencrypt
    · next response hresponse =>
      split at hencrypt
      · cases hencrypt
      · next responseBytes hbytes =>
        cases hencrypt
        exact hread body nonce response _ hresponse hbytes

/-- A query for another key is not. -/
theorem Client.Lawful.decryptQuery_stale (h : client.Lawful rs) {keyPair : KeyPair}
    (hquery : client.encryptQuery (rs.publicKey keyPair) query seed = some (bytes, secret))
    {id : List UInt8} (hid : rs.identifier (rs.publicKey key.keyPair) = some id)
    (hne : rs.identifier (rs.publicKey keyPair) ≠ some id) :
    key.decryptQuery rs bytes = .error .staleKey := by
  obtain ⟨message, hmessage, hid', -⟩ := h.query hquery
  rw [ODoHPublicKey.decryptQuery, hmessage]
  dsimp only
  rw [hid]
  dsimp only
  rw [if_pos]
  rintro rfl
  exact hne hid'

/-- The client asks for the key in the configurations. -/
theorem Client.Lawful.ask (h : client.Lawful rs) (hnew : ODoHPublicKey.new rs key.keyPair = .ok key)
    (hask : client.ask (serveOdohConfigs key).body query seed = some (bytes, secret)) :
    client.encryptQuery (rs.publicKey key.keyPair) query seed = some (bytes, secret) := by
  have hconfigs : rs.serializeConfigs (rs.publicKey key.keyPair) = .ok key.serializedConfigs := by
    unfold ODoHPublicKey.new at hnew
    split at hnew
    · next serializedConfigs hserialize => rw [hserialize, ← Except.ok.inj hnew]
    · cases hnew
  simpa only [Client.ask, serveOdohConfigs, buildResponse, h.configs hconfigs,
    Option.bind_eq_bind, Option.bind_some] using hask

end

/-! ### Whole runs -/

/-- The identifier of a key. -/
def State.identifierAt (rs : OdohRs KeyPair PublicKey Message Plaintext Secret Nonce)
    (s : State KeyPair Plaintext Secret Nonce) (generation : ℕ) : Option (List UInt8) := do
  let key ← s.keys[generation]?
  rs.identifier (rs.publicKey key.keyPair)

/-- What a client gets for a query that was decrypted: the error of the upstream, or what the upstream
has said, or the status 400 where that cannot be encrypted. -/
def Answered (rs : OdohRs KeyPair PublicKey Message Plaintext Secret Nonce)
    (client : Client PublicKey Seed ClientSecret) (secret : ClientSecret)
    (context : ODoHQueryContext Plaintext Secret)
    (reply : Option (Except DoHError DnsResponse × Nonce)) (response : Response) : Prop :=
  (∃ e nonce, reply = some (.error e, nonce) ∧ response = httpError (StatusCode.ofDohError e)) ∨
    ∃ dnsResponse nonce, reply = some (.ok dnsResponse, nonce) ∧
      (context.encryptResponse rs nonce dnsResponse.packet = .error .invalidData ∧
        response = httpError 400 ∨
      response.status = 200 ∧
        client.decryptResponse secret response.body = some dnsResponse.packet)

/-- An encryption that fails is invalid data. -/
theorem encryptResponse_eq_error {context : ODoHQueryContext Plaintext Secret} {nonce : Nonce}
    {body : List UInt8} {e : DoHError} (h : context.encryptResponse rs nonce body = .error e) :
    e = .invalidData := by
  unfold ODoHQueryContext.encryptResponse at h
  split at h
  · cases h
    rfl
  · split at h
    · cases h
      rfl
    · cases h

theorem respond_answered {secret : ClientSecret} {context : ODoHQueryContext Plaintext Secret}
    (hread : Readable rs client secret context) (reply : Except DoHError DnsResponse)
    (nonce : Nonce) :
    Answered rs client secret context (some (reply, nonce)) (respond rs context reply nonce) := by
  unfold respond
  split
  · next e => exact .inl ⟨e, nonce, rfl, rfl⟩
  · next dnsResponse =>
    refine .inr ⟨dnsResponse, nonce, rfl, ?_⟩
    split
    · next e hencrypt =>
      obtain rfl := encryptResponse_eq_error hencrypt
      exact .inl ⟨hencrypt, rfl⟩
    · next encryptedResponse hencrypt =>
      exact .inr ⟨rfl, hread nonce dnsResponse.packet encryptedResponse hencrypt⟩

/-- **An oblivious query is answered**, in whatever order requests are served and keys made. A query
with the key of some configurations that the server has given out goes on as it was and its answer
can be read, unless it cannot be encrypted, if the key was current when it was loaded; it is refused
with the status 401 and goes nowhere, if another key was. -/
theorem oblivious_answered (hlawful : client.Lawful rs) {keyPair : KeyPair}
    {first : ODoHPublicKey KeyPair} (hnew : ODoHPublicKey.new rs keyPair = .ok first)
    {as : List (Action KeyPair Nonce)} (h : Run (rotation rs first) Always as s)
    {served : Served} (hserved : served ∈ s.served) (hmem : request ∈ s.requests)
    {query : List UInt8} {seed : Seed} {secret : ClientSecret}
    (hask : client.ask served.response.body query seed = some (request.encryptedQuery, secret))
    {generation : ℕ} (hkey : request.key = some (key, generation)) :
    (generation = served.generation → request.asked = some query ∧
      ∃ context, key.decryptQuery rs request.encryptedQuery = .ok (query, context) ∧
        ∀ response, request.phase = .over response →
          Answered rs client secret context request.reply response) ∧
    (∀ id, s.identifierAt rs generation = some id →
      s.identifierAt rs served.generation ≠ some id →
        request.asked = none ∧ request.phase = .over (httpError 401)) := by
  have hinv := inv_of_run hnew h
  obtain ⟨⟨key', hkey', hresponse⟩, -, -⟩ := hinv.served served hserved
  have hloaded := hinv.loaded request hmem key generation hkey
  have hsound := hinv.requests request hmem
  have hquery := hlawful.ask (hinv.keys key' (List.mem_of_getElem? hkey')) (hresponse ▸ hask)
  constructor
  · rintro rfl
    obtain rfl : key' = key := Option.some.inj (hkey'.symm.trans hloaded)
    obtain ⟨context, hdecrypt, hread⟩ := hlawful.decryptQuery hquery
    obtain ⟨hasked, hover⟩ := hsound.of_ok hkey hdecrypt
    refine ⟨hasked, context, hdecrypt, fun response hphase => ?_⟩
    obtain ⟨reply, nonce, hreply, rfl⟩ := hover response hphase
    rw [hreply]
    exact respond_answered hread reply nonce
  · intro id hid hne
    rw [State.identifierAt, hloaded] at hid
    rw [State.identifierAt, hkey'] at hne
    exact hsound.of_error hkey (hlawful.decryptQuery_stale hquery hid hne)

/-- **A call is as if nothing had come between**: it returns what `serve_odoh` returns at once with
the key that it has loaded, the reply that has come, and the nonce. -/
theorem serveOdoh_of_run {keyPair : KeyPair} {first : ODoHPublicKey KeyPair}
    (hnew : ODoHPublicKey.new rs keyPair = .ok first) {as : List (Action KeyPair Nonce)}
    (h : Run (rotation rs first) Always as s) (hmem : request ∈ s.requests) {generation : ℕ}
    (hkey : request.key = some (key, generation)) {response : Response}
    (hover : request.phase = .over response)
    {services : Services (ODoHQueryContext Plaintext Secret)}
    (hdecrypt : services.decryptQuery = key.decryptQuery rs)
    (hreply : ∀ query reply nonce, request.asked = some query →
      request.reply = some (reply, nonce) → services.proxy query none = reply ∧
        services.encryptResponse = ODoHQueryContext.encryptResponse rs nonce) :
    serveOdoh services request.encryptedQuery = response := by
  have hsound := (inv_of_run hnew h).requests request hmem
  unfold serveOdoh
  rw [hdecrypt]
  cases hresult : key.decryptQuery rs request.encryptedQuery with
  | error e =>
    obtain ⟨-, hphase⟩ := hsound.of_error hkey hresult
    cases hphase.symm.trans hover
    rfl
  | ok result =>
    obtain ⟨query, context⟩ := result
    obtain ⟨hasked, hresponse⟩ := hsound.of_ok hkey hresult
    obtain ⟨reply, nonce, hreply', rfl⟩ := hresponse response hover
    obtain ⟨hproxy, hencrypt⟩ := hreply query reply nonce hasked hreply'
    dsimp only
    rw [hproxy, hencrypt]
    rfl

/-- A configuration that is younger than its header allows it to become has the current key in it,
or the one before. -/
theorem fresh_configs {keyPair : KeyPair} {first : ODoHPublicKey KeyPair}
    (hnew : ODoHPublicKey.new rs keyPair = .ok first) {as : List (Action KeyPair Nonce)}
    (h : Run (rotation rs first) Always as s) {served : Served} (hserved : served ∈ s.served) :
    ("cache-control", cacheControl odohKeyRotationSecs) ∈ served.response.headers ∧
    (s.now < served.time + odohKeyRotationSecs → s.past.length = served.generation ∨
      s.past.length = served.generation + 1) := by
  obtain ⟨⟨key, -, hresponse⟩, htime, hrecent⟩ := (inv_of_run hnew h).served served hserved
  refine ⟨?_, fun hnow => by omega⟩
  rw [hresponse]
  simp [serveOdohConfigs, buildResponse]

end

/-! ### A day -/

/-- A cipher in the place of HPKE: a message has the key it is for and some text, whose bytes are
changed by a secret. -/
def xorRs : OdohRs UInt8 UInt8 (UInt8 × List UInt8) (List UInt8) UInt8 UInt8 where
  publicKey keyPair := keyPair
  identifier publicKey := some [publicKey]
  serializeConfigs publicKey := .ok [publicKey]
  deserialize
    | keyId :: text => some (keyId, text)
    | [] => none
  keyId message := [message.1]
  decryptQuery message keyPair :=
    match message.2 with
    | seed :: text => some (text.map (· ^^^ (keyPair ^^^ seed)), keyPair ^^^ seed)
    | [] => none
  plaintext text _ := text
  intoMsg text := text
  encryptResponse _ text secret nonce := some (nonce, text.map (· ^^^ (secret ^^^ nonce)))
  serialize message := some (message.1 :: message.2)

/-- Its client. -/
def xorClient : Client UInt8 UInt8 UInt8 where
  parseConfigs configs := configs.head?
  encryptQuery publicKey query seed :=
    some (publicKey :: seed :: query.map (· ^^^ (publicKey ^^^ seed)), publicKey ^^^ seed)
  decryptResponse secret
    | nonce :: text => some (text.map (· ^^^ (secret ^^^ nonce)))
    | [] => none

theorem map_xor_xor (text : List UInt8) (secret : UInt8) :
    (text.map (· ^^^ secret)).map (· ^^^ secret) = text := by
  rw [List.map_map]
  exact List.map_id'' (fun a => by
    rw [Function.comp_apply, UInt8.xor_assoc, UInt8.xor_self, UInt8.xor_zero]) text

theorem xorClient_lawful : xorClient.Lawful xorRs := by
  refine ⟨fun h => ?_, fun h => ?_⟩
  · cases h
    rfl
  · cases h
    refine ⟨_, rfl, rfl, _, _, rfl, map_xor_xor _ _,
      fun body nonce response bytes hencrypt hbytes => ?_⟩
    cases hencrypt
    cases hbytes
    exact congrArg some (map_xor_xor body _)

theorem xorRs_new : ODoHPublicKey.new xorRs 1 = .ok ⟨1, [1]⟩ := rfl

/-- The key changes while the first query is on its way, and the second query is for the key from
before. -/
def rotated : List (Action UInt8 UInt8) :=
  [.configs, .arrive [1, 2, 6], .arrive [1, 2, 6], .load 0, .tick 86400, .rotate 7, .load 1,
    .reply 0 (.ok ⟨[9], 60⟩) 4]

/-- What has become of the first query. -/
def answered : Request UInt8 (List UInt8) UInt8 UInt8 where
  encryptedQuery := [1, 2, 6]
  key := some (⟨1, [1]⟩, 0)
  asked := some [5]
  reply := some (.ok ⟨[9], 60⟩, 4)
  phase := .over (buildResponse [4, 14] 0 DoHType.oblivious.asStr false)

/-- What has become of the second one. -/
def refused : Request UInt8 (List UInt8) UInt8 UInt8 where
  encryptedQuery := [1, 2, 6]
  key := some (⟨7, [7]⟩, 1)
  asked := none
  reply := none
  phase := .over (httpError 401)

theorem rotated_requests :
    (exec (rotation xorRs ⟨1, [1]⟩) Always (rotation xorRs ⟨1, [1]⟩).init rotated).map
      (fun s => (s.served, s.requests, s.keys)) = some
        ([⟨0, 0, serveOdohConfigs ⟨1, [1]⟩⟩],
          [answered, refused], [⟨1, [1]⟩, ⟨7, [7]⟩]) := rfl

/-- The first query is answered after the change, and the second one is refused. -/
theorem oblivious_answered_rotated : ∃ s, Run (rotation xorRs ⟨1, [1]⟩) Always rotated s ∧
    s.requests = [answered, refused] ∧ answered.asked = some [5] ∧
    (∃ context, ODoHPublicKey.decryptQuery xorRs ⟨1, [1]⟩ [1, 2, 6] = .ok ([5], context) ∧
      Answered xorRs xorClient 3 context (some (.ok ⟨[9], 60⟩, 4))
        (buildResponse [4, 14] 0 DoHType.oblivious.asStr false)) ∧
    refused.asked = none ∧ refused.phase = .over (httpError 401) := by
  obtain ⟨s, hs, hstate⟩ := Option.map_eq_some_iff.mp rotated_requests
  obtain ⟨hserved, hstate⟩ := Prod.mk.inj hstate
  obtain ⟨hrequests, hkeys⟩ := Prod.mk.inj hstate
  have hrun := run_of_exec hs
  have hmem : (⟨0, 0, serveOdohConfigs ⟨1, [1]⟩⟩ : Served) ∈ s.served := by
    rw [hserved]
    exact List.mem_singleton_self _
  have hanswered : answered ∈ s.requests := by
    rw [hrequests]
    exact List.mem_cons_self
  have hrefused : refused ∈ s.requests := by
    rw [hrequests]
    exact List.mem_cons_of_mem _ List.mem_cons_self
  have hask : xorClient.ask (serveOdohConfigs (⟨1, [1]⟩ : ODoHPublicKey UInt8)).body [5] 2 =
    some ([1, 2, 6], 3) := rfl
  obtain ⟨hfirst, -⟩ := oblivious_answered xorClient_lawful xorRs_new hrun hmem hanswered hask rfl
  obtain ⟨-, hsecond⟩ := oblivious_answered xorClient_lawful xorRs_new hrun hmem hrefused hask rfl
  obtain ⟨hasked, context, hdecrypt, hover⟩ := hfirst rfl
  obtain ⟨hasked', hover'⟩ := hsecond [7] (by rw [State.identifierAt, hkeys]; rfl)
    (by rw [State.identifierAt, hkeys]; decide)
  exact ⟨s, hrun, hrequests, hasked, ⟨context, hdecrypt, hover _ rfl⟩, hasked', hover'⟩

/-- What the first query was worked on with. -/
def rotatedServices : Services (ODoHQueryContext (List UInt8) UInt8) where
  proxy _ _ := .ok ⟨[9], 60⟩
  decryptQuery := ODoHPublicKey.decryptQuery xorRs ⟨1, [1]⟩
  encryptResponse := ODoHQueryContext.encryptResponse xorRs 4
  odohConfigs := [1]
  decode _ := none
  base64 _ := ""
  urlDecode text := some text
  transactionId := (0, 0)
  commentJson _ _ := []
  responseJson _ := none

theorem serveOdoh_of_run_rotated : serveOdoh rotatedServices [1, 2, 6] =
    buildResponse [4, 14] 0 DoHType.oblivious.asStr false := by
  obtain ⟨s, hs, hstate⟩ := Option.map_eq_some_iff.mp rotated_requests
  obtain ⟨-, hstate⟩ := Prod.mk.inj hstate
  obtain ⟨hrequests, -⟩ := Prod.mk.inj hstate
  have hdecrypt : rotatedServices.decryptQuery = ODoHPublicKey.decryptQuery xorRs ⟨1, [1]⟩ := rfl
  refine serveOdoh_of_run xorRs_new (run_of_exec hs) (by rw [hrequests]; exact List.mem_cons_self)
    rfl rfl hdecrypt fun query reply nonce _ hreply => ?_
  cases hreply
  exact ⟨rfl, rfl⟩

/-- A key may have gone before its configurations are a day old. -/
theorem fresh_configs_rotated : ∃ s,
    Run (rotation xorRs ⟨1, [1]⟩) Always [.tick 1, .configs, .tick 86399, .rotate 7] s ∧
    s.now = 86400 ∧ s.served.map (·.time) = [1] ∧ s.past.length = 1 ∧
    ∀ served ∈ s.served, s.past.length = served.generation ∨
      s.past.length = served.generation + 1 := by
  have hexec : (exec (rotation xorRs ⟨1, [1]⟩) Always (rotation xorRs ⟨1, [1]⟩).init
      [.tick 1, .configs, .tick 86399, .rotate 7]).map (fun s => (s.now, s.served, s.past)) =
        some (86400, [⟨1, 0, serveOdohConfigs ⟨1, [1]⟩⟩], [⟨1, [1]⟩]) := rfl
  obtain ⟨s, hs, hstate⟩ := Option.map_eq_some_iff.mp hexec
  obtain ⟨hnow, hstate⟩ := Prod.mk.inj hstate
  obtain ⟨hserved, hpast⟩ := Prod.mk.inj hstate
  refine ⟨s, run_of_exec hs, hnow, by rw [hserved]; rfl, by rw [hpast]; rfl, fun served hmem => ?_⟩
  obtain ⟨-, hfresh⟩ := fresh_configs xorRs_new (run_of_exec hs) hmem
  rw [hserved, List.mem_singleton] at hmem
  exact hfresh (by rw [hnow, hmem]; decide)

end DohProxy.Server.Odoh

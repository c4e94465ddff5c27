import DohProxy.Lib.Runs

/-!
# The clients

A connection is counted while it is served, and is turned away when there are too many of them.
This is `ClientsCount` of `globals.rs` with its users: `client_serve` and `client_serve_reserved` of
`lib.rs`, and `start_https_service` of `tls.rs`.

## The model

Every listener accepts connections in a loop of its own, and every admitted connection has a task.
A step is one atomic access to the counter, or what the network does to a connection: its TLS
handshake is over, or it is not served any more, be it that it ended or that its time was up.
A connection that is turned away is so in the loop of its listener, which accepts nothing meanwhile.

## What is proved

`clients_counted` — in whatever order the steps come, the count is the number of the connections
that have not decremented it, `decrement` never stops with nothing decremented, and no more than
`max_clients` connections are served.
-/

namespace DohProxy.Server

open Lib System

/-- Where the code is that a connection is in the hands of. -/
inductive Phase where
  /-- In the TLS handshake. -/
  | handshake
  /-- In `serve_connection`. -/
  | serving
  /-- In `decrement`, before it loads the count. -/
  | load
  /-- In `decrement`, before it exchanges the count it has loaded. -/
  | exchange (count : ℕ)
  /-- After `decrement`: whether its loop ended with an exchange. -/
  | left (decremented : Bool)
  deriving DecidableEq

/-- A connection. -/
structure Conn where
  /-- The listener that accepted it. -/
  listener : ℕ
  /-- Whether the count was below `max_clients`. -/
  admitted : Bool
  /-- Where its code is. -/
  phase : Phase
  deriving DecidableEq

/-- What is fixed at start. -/
structure Config where
  /-- The most clients. -/
  maxClients : ℕ
  /-- The listeners that want TLS. -/
  tls : ℕ → Bool

/-- The counter and the connections. -/
structure Clients where
  /-- `clients_count`. -/
  clientsCount : ℕ
  /-- The connections so far, in the order in which they came. -/
  conns : List Conn
  deriving DecidableEq

/-- What a connection does next. -/
inductive Event where
  /-- The TLS handshake is over. -/
  | handshake (ok : Bool)
  /-- It is not served any more. -/
  | ended
  /-- The next access of `decrement` to the counter. -/
  | access
  deriving DecidableEq

/-- What happens. -/
inductive Action where
  /-- A listener accepts a connection. -/
  | arrive (listener : ℕ)
  /-- A connection does something. -/
  | conn (index : ℕ) (event : Event)
  deriving DecidableEq

/-- Whether a connection has not decremented the count. -/
def Conn.counted (conn : Conn) : Bool := conn.phase != .left true

/-- The admitted connections that are not finished. -/
def Clients.admitted (s : Clients) : ℕ := s.conns.countP fun conn => conn.admitted && conn.counted

/-- The connections turned away that have not decremented the count. -/
def Clients.rejected (s : Clients) : ℕ := s.conns.countP fun conn => !conn.admitted && conn.counted

/-- Whether a listener is turning a connection away. -/
def Clients.busy (s : Clients) (listener : ℕ) : Bool :=
  s.conns.any fun conn => conn.listener == listener && !conn.admitted &&
    !(conn.phase matches .left _)

/-- What a listener does with a new connection: `increment`, and the test of the old count. -/
def Clients.arrive (config : Config) (s : Clients) (listener : ℕ) : Clients :=
  let admitted : Bool := s.clientsCount < config.maxClients
  let phase := if admitted then if config.tls listener then .handshake else .serving else .load
  { clientsCount := s.clientsCount + 1, conns := s.conns ++ [{ listener, admitted, phase }] }

/-- What a connection does: the new count and where its code is then. -/
def Phase.next (clientsCount : ℕ) : Phase → Event → Option (ℕ × Phase)
  | .handshake, .handshake true => some (clientsCount, .serving)
  | .handshake, .handshake false => some (clientsCount, .load)
  | .serving, .ended => some (clientsCount, .load)
  | .load, .access =>
    some (clientsCount, if clientsCount > 0 then .exchange clientsCount else .left false)
  | .exchange count, .access =>
    -- `compare_exchange` does nothing to a counter that has changed meanwhile
    if clientsCount = count then some (count - 1, .left true) else some (clientsCount, .load)
  | _, _ => none

/-- A connection goes on. -/
def Clients.advance (s : Clients) (index : ℕ) (event : Event) : Option Clients := do
  let conn ← s.conns[index]?
  let (clientsCount, phase) ← conn.phase.next s.clientsCount event
  return { clientsCount, conns := s.conns.set index { conn with phase } }

/-- The accept loops and the tasks of the connections. -/
def accepting (config : Config) : System Clients Action where
  init := { clientsCount := 0, conns := [] }
  step s
    | .arrive listener => if s.busy listener then none else some (s.arrive config listener)
    | .conn index event => s.advance index event

/-! ## A step -/

variable {config : Config} {s s' : Clients}

/-- What a step of a connection does to the count. -/
theorem Phase.next_cases {phase phase' : Phase} {event : Event} {n n' : ℕ}
    (h : phase.next n event = some (n', phase')) :
    phase ≠ .left true ∧
      (n' = n ∧ phase' ≠ .left true ∧ (phase' = .left false → n = 0) ∨ n' = n - 1 ∧
        phase' = .left true) := by
  unfold Phase.next at h
  split at h
  · cases h
    simp
  · cases h
    simp
  · cases h
    simp
  · cases h
    refine ⟨by simp, .inl ⟨rfl, ?_, ?_⟩⟩
    · split <;> simp
    · split
      · simp
      · omega
  · split at h
    · cases h
      next hn => exact ⟨by simp, .inr ⟨by rw [hn], rfl⟩⟩
    · cases h
      simp
  · cases h

/-- What a listener does with a new connection. -/
theorem Clients.arrive_cases (config : Config) (s : Clients) (listener : ℕ) :
    ∃ conn, s.arrive config listener = { clientsCount := s.clientsCount + 1, conns := s.conns ++ [conn] } ∧
      conn.counted = true ∧ conn.phase ≠ .left false ∧
        (conn.admitted = true → s.clientsCount < config.maxClients) := by
  refine ⟨_, rfl, ?_⟩
  by_cases hroom : s.clientsCount < config.maxClients
  · cases config.tls listener <;> simp [hroom, Conn.counted]
  · simp [hroom, Conn.counted]

/-- A count over the connections, when one of them goes on. -/
theorem countP_set_add {α : Type} {p : α → Bool} {l : List α} {i : ℕ} {x : α}
    (h : l[i]? = some x) (y : α) :
    (l.set i y).countP p + (p x).toNat = l.countP p + (p y).toNat := by
  obtain ⟨hi, rfl⟩ := List.getElem?_eq_some_iff.mp h
  have hle : (if p l[i] = true then 1 else 0) ≤ l.countP p := List.boole_getElem_le_countP hi
  rw [List.countP_set hi]
  cases hx : p l[i] <;> cases hy : p y <;>
    simp only [hx, if_true, Bool.false_eq_true, if_false, Bool.toNat_true,
      Bool.toNat_false] at hle ⊢ <;> omega

/-- A connection that has not decremented the count is one of those counted. -/
theorem Clients.counted_pos {conn : Conn} (hconn : conn ∈ s.conns)
    (hcounted : conn.counted = true) :
    0 < s.admitted + s.rejected := by
  cases hadm : conn.admitted
  · apply Nat.add_pos_right
    apply List.countP_pos_iff.mpr
    exact ⟨conn, hconn, by simp [hadm, hcounted]⟩
  · apply Nat.add_pos_left
    apply List.countP_pos_iff.mpr
    exact ⟨conn, hconn, by simp [hadm, hcounted]⟩

/-- The invariant of the accept loops. -/
structure Counted (config : Config) (s : Clients) : Prop where
  /-- The count is the number of the connections that have not decremented it. -/
  count : s.clientsCount = s.admitted + s.rejected
  /-- No `decrement` stopped with nothing decremented. -/
  decremented : ∀ conn ∈ s.conns, conn.phase ≠ .left false
  /-- No more connections are served than may be. -/
  bound : s.admitted ≤ config.maxClients

theorem Counted.init : Counted config (accepting config).init :=
  ⟨rfl, fun _ h => absurd h List.not_mem_nil, Nat.zero_le _⟩

/-- A new connection is counted, and admitted only where there is room. -/
theorem Counted.arrive (h : Counted config s) (listener : ℕ) :
    Counted config (s.arrive config listener) := by
  obtain ⟨hcount, hdec, hbound⟩ := h
  obtain ⟨conn, harrive, hcounted, hphase, hroom⟩ := s.arrive_cases config listener
  have hadmitted : (s.arrive config listener).admitted = s.admitted + conn.admitted.toNat := by
    rw [harrive, Clients.admitted, List.countP_append, Clients.admitted]
    cases hadm : conn.admitted <;> simp [hadm, hcounted]
  have hrejected : (s.arrive config listener).rejected = s.rejected + (!conn.admitted).toNat := by
    rw [harrive, Clients.rejected, List.countP_append, Clients.rejected]
    cases hadm : conn.admitted <;> simp [hadm, hcounted]
  refine ⟨?_, ?_, ?_⟩
  · rw [hadmitted, hrejected, harrive]
    cases conn.admitted <;> simp <;> omega
  · rw [harrive]
    intro other hother
    rcases List.mem_append.mp hother with hother | hother
    · exact hdec other hother
    · rw [List.mem_singleton.mp hother]
      exact hphase
  · rw [hadmitted]
    cases hadm : conn.admitted
    · simpa using hbound
    · have := hroom hadm
      simp
      omega

/-- A connection decrements the count once, and the guard of the loop never stops it: the
connection itself is still counted. -/
theorem Counted.advance {index : ℕ} {event : Event} (h : Counted config s)
    (hs : s.advance index event = some s') :
    Counted config s' := by
  obtain ⟨hcount, hdec, hbound⟩ := h
  simp only [Clients.advance, Option.bind_eq_bind, Option.bind_eq_some_iff] at hs
  obtain ⟨conn, hconn, ⟨n', phase'⟩, hnext, hs⟩ := hs
  obtain rfl := Option.some.inj hs
  obtain ⟨hphase, hcases⟩ := Phase.next_cases hnext
  have hcounted : conn.counted = true := by simpa [Conn.counted] using hphase
  have hadmitted := countP_set_add (p := fun conn => conn.admitted && conn.counted) hconn
    { conn with phase := phase' }
  have hrejected := countP_set_add (p := fun conn => !conn.admitted && conn.counted) hconn
    { conn with phase := phase' }
  have hpos := Clients.counted_pos (List.mem_of_getElem? hconn) hcounted
  have hdec' : phase' ≠ .left false → ∀ other ∈ s.conns.set index { conn with phase := phase' },
      other.phase ≠ .left false := by
    intro hne other hother
    rcases List.mem_or_eq_of_mem_set hother with hother | rfl
    · exact hdec other hother
    · exact hne
  simp only [Clients.admitted, Clients.rejected] at hcount hbound hpos
  simp only [hcounted, Bool.and_true] at hadmitted hrejected
  rcases hcases with ⟨rfl, hphase', hguard⟩ | ⟨rfl, rfl⟩
  · have hcounted' : ({ conn with phase := phase' } : Conn).counted = true := by
      simpa [Conn.counted] using hphase'
    simp only [hcounted', Bool.and_true] at hadmitted hrejected
    refine ⟨?_, hdec' fun hleft => ?_, ?_⟩
    · simp only [Clients.admitted, Clients.rejected]
      omega
    · have := hguard hleft
      omega
    · simp only [Clients.admitted]
      omega
  · have hcounted' : ({ conn with phase := .left true } : Conn).counted = false := rfl
    simp only [hcounted', Bool.and_false, Bool.toNat_false] at hadmitted hrejected
    refine ⟨?_, hdec' (by simp), ?_⟩
    · simp only [Clients.admitted, Clients.rejected]
      cases hadm : conn.admitted <;> simp only [hadm, Bool.not_true,
        Bool.not_false, Bool.toNat_true,
        Bool.toNat_false] at hadmitted hrejected <;> omega
    · simp only [Clients.admitted]
      omega

/-- **The clients are counted**: in whatever order the connections of all listeners take their
steps, the count is the number of the admitted connections and of those turned away that have not
decremented it, no `decrement` ends with nothing decremented, and there are never more than
`max_clients` admitted connections that are not finished. -/
theorem clients_counted (config : Config) {as : List Action}
    (h : Run (accepting config) Always as s) :
    s.clientsCount = s.admitted + s.rejected ∧ (∀ conn ∈ s.conns, conn.phase ≠ .left false) ∧
      s.admitted ≤ config.maxClients := by
  have hinv : Counted config s := by
    apply h.stateInvariant Counted.init
    intro s a s' hI _ hs
    cases a with
    | arrive listener =>
      simp only [accepting] at hs
      split at hs
      · cases hs
      · exact Option.some.inj hs ▸ hI.arrive listener
    | conn index event => exact hI.advance hs
  exact ⟨hinv.count, hinv.decremented, hinv.bound⟩

/-- Two connections come where there is room for one, one over TLS and one without: the second one loads
the count, the handshake of the first one fails and takes it off the count, and the second one has to load
the count again. -/
theorem clients_counted_retry :
    ∃ s, Run (accepting { maxClients := 1, tls := (· = 0) }) Always
      [.arrive 0, .arrive 1, .conn 1 .access, .conn 0 (.handshake false),
        .conn 0 .access, .conn 0 .access,
        .conn 1 .access, .conn 1 .access] s ∧
      s.conns = [⟨0, true, .left true⟩, ⟨1, false, .exchange 1⟩] ∧
        s.clientsCount = s.admitted + s.rejected := by
  have h : Run (accepting { maxClients := 1, tls := (· = 0) }) Always
      [.arrive 0, .arrive 1, .conn 1 .access, .conn 0 (.handshake false),
        .conn 0 .access, .conn 0 .access,
        .conn 1 .access, .conn 1 .access] ⟨1, [⟨0, true, .left true⟩, ⟨1, false, .exchange 1⟩]⟩ :=
    run_of_exec (by decide)
  exact ⟨_, h, rfl, (clients_counted _ h).1⟩

end DohProxy.Server

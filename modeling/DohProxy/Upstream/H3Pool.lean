import DohProxy.Lib.Runs
import DohProxy.Server.Clients

/-!
# The pool of HTTP/3 connections

For every upstream there is a pool of at most two HTTP/3 connections, which are called clients, and
no more than 64 requests are under way over each of them. A request looks for a client with a free
slot, makes another client if the pool has room for one, and waits for a slot otherwise. This is
`doh_h3_client` of `lib.rs` with `DohH3Pool` and the table of the pools, and `reset_doh_h3_client`,
which takes a pool out of the table and empties it.

## The model

A step is what a task does under one lock, or with the slots of one client: the search for a free
slot holds the lock of the pool, but the slots of its clients may change between two looks. Others
may go on meanwhile, which is more than the lock allows. The connection that is made, or not, is the
network's choice, and so is when a request is over.

## What is proved

* `pools_sound` — **in whatever order the tasks take their steps**, a pool has at most two clients,
  a slot is free or held by a request, and a request goes over a client of its own upstream.
* `reset_forgotten` — **no request that begins after a reset** goes over a client from before.
-/

namespace DohProxy.Upstream.H3Pool

open Lib System

/-- `DOH_H3_POOL_SIZE`. -/
abbrev dohH3PoolSize : ℕ := 2

/-- `DOH_H3_MAX_INFLIGHT_PER_CONN`. -/
abbrev dohH3MaxInflightPerConn : ℕ := 64

/-- A client. -/
structure Client where
  /-- The upstream it was made for. -/
  url : String
  /-- The pool it was made for. -/
  pool : ℕ
  /-- Whether a pool has taken it. -/
  pooled : Bool
  /-- Its free slots. -/
  slots : ℕ
  deriving DecidableEq

/-- A pool. -/
structure Pool where
  /-- The upstream it is for. -/
  url : String
  /-- Its clients. -/
  clients : List ℕ
  /-- The number of picks so far, which decides where the next one begins. -/
  next : UInt64
  deriving DecidableEq

/-- Why a client with a free slot is looked for. -/
inductive Attempt where
  /-- A request begins. -/
  | first
  /-- No connection could be made. -/
  | failed
  /-- The pool has all of its clients. -/
  | full
  deriving DecidableEq

/-- Where a task is. -/
inductive Phase where
  /-- A request is about to load the pool, or to make it. -/
  | load
  /-- It is about to look for a free slot. -/
  | tryPick (pool : ℕ) (attempt : Attempt)
  /-- It is about to look at one of the clients. -/
  | trying (pool : ℕ) (clients : List ℕ) (start offset : ℕ) (attempt : Attempt)
  /-- It is about to look whether there is room for another client. -/
  | needsNew (pool : ℕ)
  /-- It waits for a connection. -/
  | create (pool : ℕ) (attempt : Attempt)
  /-- It is about to pick a client to wait for. -/
  | pick (pool : ℕ) (attempt : Attempt)
  /-- It is about to add the client it has made. -/
  | add (pool candidate : ℕ)
  /-- It waits for a slot. -/
  | waiting (pool client : ℕ)
  /-- It has a slot. -/
  | holding (pool client : ℕ)
  /-- A reset is about to take the pool out of the table. -/
  | reset
  /-- It is about to empty the pool. -/
  | drain (pool : ℕ)
  /-- Nothing is left to do. -/
  | ended
  deriving DecidableEq

/-- A request or a reset. -/
structure Task where
  /-- The upstream. -/
  url : String
  /-- Where it is. -/
  phase : Phase
  deriving DecidableEq

/-- The table of the pools, with all there has been. -/
structure State where
  /-- `DOH_H3_POOLS`. -/
  table : List (String × ℕ)
  /-- The pools. -/
  pools : List Pool
  /-- The clients. -/
  clients : List Client
  /-- The tasks. -/
  tasks : List Task
  deriving DecidableEq

/-- What happens. -/
inductive Action where
  /-- A request to an upstream, or a reset, begins. -/
  | begin (url : String) (phase : Phase)
  /-- A task does its next step, in which a connection may be made. -/
  | run (task : ℕ) (connected : Bool)
  /-- The future of a request is dropped. -/
  | cancel (task : ℕ)
  deriving DecidableEq

/-- A task goes on. -/
def State.goto (s : State) (i : ℕ) (phase : Phase) : State :=
  { s with tasks := s.tasks.modify i fun task => { task with phase } }

/-- A pool is changed. -/
def State.setPool (s : State) (p : ℕ) (f : Pool → Pool) : State :=
  { s with pools := s.pools.modify p f }

/-- A client is changed. -/
def State.setClient (s : State) (c : ℕ) (f : Client → Client) : State :=
  { s with clients := s.clients.modify c f }

/-- A slot is taken. -/
def Client.take (client : Client) : Client := { client with slots := client.slots - 1 }

/-- A slot is given back. -/
def Client.give (client : Client) : Client := { client with slots := client.slots + 1 }

/-- A pool takes a client. -/
def Client.added (client : Client) : Client := { client with pooled := true }

/-- A client is picked. -/
def Pool.picked (pool : Pool) : Pool := { pool with next := pool.next + 1 }

/-- A client is added. -/
def Pool.push (c : ℕ) (pool : Pool) : Pool := { pool with clients := pool.clients ++ [c] }

/-- All clients are taken out. -/
def Pool.drained (pool : Pool) : Pool := { pool with clients := [] }

/-- What comes when no free slot has been found. -/
def Attempt.next (pool : ℕ) : Attempt → Phase
  | .first => .needsNew pool
  | .failed => .pick pool .failed
  | .full => .pick pool .full

/-- What a task does next. -/
def State.run (s : State) (i : ℕ) (url : String) (connected : Bool) : Phase → Option State
  | .load =>
    -- `load_or_init_doh_h3_pool`
    match s.table.lookup url with
    | some p => some (s.goto i (.tryPick p .first))
    | none =>
      let p := s.pools.length
      let pool : Pool := ⟨url, [], 0⟩
      some ({ s with table := (url, p) :: s.table, pools := s.pools ++ [pool] }.goto i
        (.tryPick p .first))
  | .tryPick p attempt => do
    -- `try_pick_client_with_slot`
    let pool ← s.pools[p]?
    if pool.clients = [] then some (s.goto i (attempt.next p))
    else
      let start := pool.next.toNat % pool.clients.length
      some ((s.setPool p .picked).goto i (.trying p pool.clients start 0 attempt))
  | .trying p clients start offset attempt => do
    let c ← clients[(start + offset) % clients.length]?
    let client ← s.clients[c]?
    if 0 < client.slots then some ((s.setClient c .take).goto i (.holding p c))
    else if offset + 1 < clients.length then
      some (s.goto i (.trying p clients start (offset + 1) attempt))
    else some (s.goto i (attempt.next p))
  | .needsNew p => do
    let pool ← s.pools[p]?
    if pool.clients.length < dohH3PoolSize then some (s.goto i (.create p .first))
    else some (s.goto i (.tryPick p .full))
  | .create p attempt =>
    if connected then
      let c := s.clients.length
      let client : Client := ⟨url, p, false, dohH3MaxInflightPerConn⟩
      some ({ s with clients := s.clients ++ [client] }.goto i (.add p c))
    else
      match attempt with
      | .first => some (s.goto i (.tryPick p .failed))
      | .failed | .full => some (s.goto i .ended)
  | .pick p attempt => do
    -- `pick_client`
    let pool ← s.pools[p]?
    if pool.clients = [] then
      match attempt with
      | .failed => some (s.goto i .ended)
      | .first | .full => some (s.goto i (.create p .full))
    else
      let c ← pool.clients[pool.next.toNat % pool.clients.length]?
      some ((s.setPool p .picked).goto i (.waiting p c))
  | .add p candidate => do
    -- `add_or_pick`
    let pool ← s.pools[p]?
    if pool.clients.length < dohH3PoolSize then
      some (((s.setPool p (.push candidate)).setClient candidate .added).goto i
        (.waiting p candidate))
    else
      let c ← pool.clients[pool.next.toNat % pool.clients.length]?
      some ((s.setPool p .picked).goto i (.waiting p c))
  | .waiting p c => do
    let client ← s.clients[c]?
    if 0 < client.slots then some ((s.setClient c .take).goto i (.holding p c)) else none
  | .holding _ c => some ((s.setClient c .give).goto i .ended)
  | .reset =>
    match s.table.lookup url with
    | some p => some ({ s with table := s.table.filter (·.1 ≠ url) }.goto i (.drain p))
    | none => some (s.goto i .ended)
  | .drain p => some ((s.setPool p .drained).goto i .ended)
  | .ended => none

/-- What becomes of a request that is dropped where it waits. -/
def State.cancel (s : State) (i : ℕ) : Phase → Option State
  | .create .. | .waiting .. => some (s.goto i .ended)
  | .holding _ c => some ((s.setClient c .give).goto i .ended)
  | _ => none

/-- The requests and the resets. -/
def pooling : System State Action where
  init := ⟨[], [], [], []⟩
  step s
    | .begin url phase =>
      if phase = .load ∨ phase = .reset then some { s with tasks := s.tasks ++ [⟨url, phase⟩] }
      else none
    | .run i connected => do
      let task ← s.tasks[i]?
      s.run i task.url connected task.phase
    | .cancel i => do
      let task ← s.tasks[i]?
      s.cancel i task.phase

/-! ### What belongs together -/

section

variable {s s' s₁ : State} {i p c : ℕ} {url : String} {phase phase' : Phase} {task : Task}

/-- A pool is for an upstream. -/
def State.PoolFor (s : State) (p : ℕ) (url : String) : Prop :=
  ∃ pool, s.pools[p]? = some pool ∧ pool.url = url

/-- A client was made for an upstream and a pool, which has taken it or not. -/
def State.Made (s : State) (c p : ℕ) (url : String) (pooled : Bool) : Prop :=
  ∃ client, s.clients[c]? = some client ∧ client.url = url ∧ client.pool = p ∧
    client.pooled = pooled

/-- A task has to do with one upstream only. -/
def Phase.Ok (s : State) (url : String) : Phase → Prop
  | .load | .reset | .ended => True
  | .tryPick p _ | .needsNew p | .create p _ | .pick p _ | .drain p => s.PoolFor p url
  | .trying p clients _ _ _ => s.PoolFor p url ∧ clients ≠ [] ∧
      ∀ c ∈ clients, s.Made c p url true
  | .add p c => s.PoolFor p url ∧ s.Made c p url false
  | .waiting p c | .holding p c => s.PoolFor p url ∧ s.Made c p url true

/-- The client that a task is about to add. -/
def Phase.candidate : Phase → Option ℕ
  | .add _ c => some c
  | _ => none

/-- The pool that a task has got. -/
def Phase.pool : Phase → Option ℕ
  | .tryPick p _ | .trying p _ _ _ _ | .needsNew p | .create p _ | .pick p _ | .add p _
  | .waiting p _ | .holding p _ | .drain p => some p
  | .load | .reset | .ended => none

/-- Whether a task has a slot of a client. -/
def Phase.holds (c : ℕ) : Phase → Bool
  | .holding _ c' => c' = c
  | _ => false

/-- The number of requests under way over a client. -/
def State.inFlight (s : State) (c : ℕ) : ℕ := s.tasks.countP fun task => task.phase.holds c

/-- The invariant. -/
structure Inv (s : State) : Prop where
  /-- The table has the pools of its upstreams. -/
  table : ∀ url p, (url, p) ∈ s.table → s.PoolFor p url
  /-- A pool has at most two clients, its own ones. -/
  pools : ∀ p pool, s.pools[p]? = some pool → pool.clients.length ≤ dohH3PoolSize ∧
    pool.clients.Nodup ∧ ∀ c ∈ pool.clients, s.Made c p pool.url true
  /-- A task has to do with one upstream only. -/
  tasks : ∀ (i : ℕ) (task : Task), s.tasks[i]? = some task → task.phase.Ok s task.url
  /-- Two tasks are about to add two clients. -/
  candidates : ∀ (i j : ℕ) (task task' : Task) c, s.tasks[i]? = some task →
    s.tasks[j]? = some task' → task.phase.candidate = some c → task'.phase.candidate = some c →
    i = j
  /-- A slot is free or held by a request. -/
  slots : ∀ c client, s.clients[c]? = some client →
    client.slots + s.inFlight c = dohH3MaxInflightPerConn

/-- Pools and clients stay what they are, when nothing but the client that a task adds changes
from not being taken to being taken. -/
structure Keeps (s s' : State) (added : Option ℕ) : Prop where
  /-- A pool is for the same upstream. -/
  pools : ∀ p url, s.PoolFor p url → s'.PoolFor p url
  /-- A client that has been taken has been taken. -/
  taken : ∀ c p url, s.Made c p url true → s'.Made c p url true
  /-- Any other client has still to be taken. -/
  fresh : ∀ c p url, some c ≠ added → s.Made c p url false → s'.Made c p url false

theorem Keeps.refl (s : State) : Keeps s s none :=
  ⟨fun _ _ h => h, fun _ _ _ h => h, fun _ _ _ _ h => h⟩

theorem Keeps.ok {added : Option ℕ} (h : Keeps s s' added) (hok : phase.Ok s url)
    (hne : ∀ c, phase.candidate = some c → some c ≠ added) : phase.Ok s' url := by
  cases phase with
  | load | reset | ended => trivial
  | tryPick p | needsNew p | create p | pick p | drain p => exact h.pools p url hok
  | trying p clients =>
    obtain ⟨hp, hne', hc⟩ := hok
    exact ⟨h.pools p url hp, hne', fun c hmem => h.taken c p url (hc c hmem)⟩
  | add p c => exact ⟨h.pools p url hok.1, h.fresh c p url (hne c rfl) hok.2⟩
  | waiting p c | holding p c => exact ⟨h.pools p url hok.1, h.taken c p url hok.2⟩

theorem State.getElem?_goto (hi : s.tasks[i]? = some task) (phase' : Phase) (j : ℕ) :
    (s.goto i phase').tasks[j]? =
      if i = j then some { task with phase := phase' } else s.tasks[j]? := by
  rw [goto, List.getElem?_modify]
  split
  · next h => rw [← h, hi]; rfl
  · exact Option.map_id'

/-- The requests under way, when a task goes on. -/
theorem State.inFlight_goto (hi : s.tasks[i]? = some task) (phase' : Phase) (c : ℕ) :
    (s.goto i phase').inFlight c + (task.phase.holds c).toNat =
      s.inFlight c + (phase'.holds c).toNat := by
  have hset : (s.goto i phase').tasks = s.tasks.set i { task with phase := phase' } := by
    rw [goto, List.modify_eq_set_getElem?, hi]
    rfl
  rw [inFlight, inFlight, hset]
  exact Server.countP_set_add hi _

/-- **A task goes on**: it may change the table, the pools and the clients before. -/
theorem Inv.goto (h : Inv s) (hi : s.tasks[i]? = some task) (hs : s₁.tasks = s.tasks)
    (added : Option ℕ) (hkeeps : Keeps s s₁ added)
    (hadded : ∀ c, added = some c → task.phase.candidate = some c)
    (htable : ∀ url p, (url, p) ∈ s₁.table → s₁.PoolFor p url)
    (hpools : ∀ p pool, s₁.pools[p]? = some pool → pool.clients.length ≤ dohH3PoolSize ∧
      pool.clients.Nodup ∧ ∀ c ∈ pool.clients, s₁.Made c p pool.url true)
    (hok : phase'.Ok s₁ task.url)
    (hcandidate : ∀ c, phase'.candidate = some c → ∀ (j : ℕ) (task' : Task),
      s.tasks[j]? = some task' → task'.phase.candidate ≠ some c)
    (hslots : ∀ c client, s₁.clients[c]? = some client → client.slots + s.inFlight c +
      (phase'.holds c).toNat = dohH3MaxInflightPerConn + (task.phase.holds c).toNat) :
    Inv (s₁.goto i phase') := by
  have hi₁ : s₁.tasks[i]? = some task := by rw [hs, hi]
  have hget := State.getElem?_goto hi₁ phase'
  refine ⟨htable, hpools, fun j task' hj => ?_, fun j k task' task'' c hj hk hc hc' => ?_,
    fun c client hclient => ?_⟩
  · rw [hget] at hj
    split at hj
    · obtain rfl := Option.some.inj hj
      exact hok
    · next hne =>
      rw [hs] at hj
      refine hkeeps.ok (h.tasks j task' hj) fun c hc hadd => hne ?_
      exact h.candidates i j task task' c hi hj (hadded c hadd.symm) hc
  · rw [hget] at hj hk
    split at hj
    · next hij =>
      split at hk
      · next hik => exact hij.symm.trans hik
      · obtain rfl := Option.some.inj hj
        rw [hs] at hk
        exact absurd hc' (hcandidate c hc k task'' hk)
    · next hij =>
      rw [hs] at hj
      split at hk
      · obtain rfl := Option.some.inj hk
        exact absurd hc (hcandidate c hc' j task' hj)
      · rw [hs] at hk
        exact h.candidates j k task' task'' c hj hk hc hc'
  · have hcount := State.inFlight_goto hi₁ phase' c
    have hsame : s₁.inFlight c = s.inFlight c := by rw [State.inFlight, hs, State.inFlight]
    have := hslots c client hclient
    rw [hsame] at hcount
    omega

/-! ### What a task does -/

/-- A task that goes on alone keeps its pool, if it still has one, and what it has to do with. -/
structure Phase.Continues (phase phase' : Phase) : Prop where
  /-- It has to do with the same upstream. -/
  ok : ∀ s url, phase.Ok s url → phase'.Ok s url
  /-- It is about to add no client. -/
  candidate : phase'.candidate = none
  /-- It has the slots that it had. -/
  holds : ∀ c, phase'.holds c = phase.holds c
  /-- It gets no other pool. -/
  pool : ∀ p, phase'.pool = some p → phase.pool = some p

theorem continues_ended (hholds : ∀ c, phase.holds c = false) : phase.Continues .ended where
  ok _ _ _ := trivial
  candidate := rfl
  holds c := (hholds c).symm
  pool _ hp := nomatch hp

theorem continues_next (attempt : Attempt) (hok : ∀ s url, phase.Ok s url → s.PoolFor p url)
    (hholds : ∀ c, phase.holds c = false) (hpool : phase.pool = some p) :
    phase.Continues (attempt.next p) := by
  have hnext : ∀ phase', phase' = .needsNew p ∨ (∃ attempt, phase' = .pick p attempt) →
      phase.Continues phase' := by
    rintro phase' (rfl | ⟨attempt, rfl⟩) <;>
      exact ⟨hok, rfl, fun c => (hholds c).symm, fun q hq => hpool.trans hq⟩
  cases attempt with
  | first => exact hnext _ (.inl rfl)
  | failed | full => exact hnext _ (.inr ⟨_, rfl⟩)

/-- **What a step of a task does**, also where it is dropped. -/
inductive TaskStep (s : State) (i : ℕ) (url : String) : Phase → State → Prop where
  /-- It goes on alone. -/
  | alone {phase phase' : Phase} (h : phase.Continues phase') :
    TaskStep s i url phase (s.goto i phase')
  /-- It gets the pool out of the table. -/
  | load {p : ℕ} (h : (url, p) ∈ s.table) : TaskStep s i url .load (s.goto i (.tryPick p .first))
  /-- It makes the pool. -/
  | newPool : TaskStep s i url .load
    ({ s with
      table := (url, s.pools.length) :: s.table
      pools := s.pools ++ [Pool.mk url [] 0] }.goto i (.tryPick s.pools.length .first))
  /-- It begins to look for a free slot. -/
  | turn {p : ℕ} {attempt : Attempt} {pool : Pool} (start : ℕ) (hp : s.pools[p]? = some pool)
    (hne : pool.clients ≠ []) : TaskStep s i url (.tryPick p attempt)
      ((s.setPool p .picked).goto i (.trying p pool.clients start 0 attempt))
  /-- It has found a free slot. -/
  | found {p c : ℕ} {clients : List ℕ} {start offset : ℕ} {attempt : Attempt} {client : Client}
    (hc : c ∈ clients) (hclient : s.clients[c]? = some client) (hfree : 0 < client.slots) :
    TaskStep s i url (.trying p clients start offset attempt)
      ((s.setClient c .take).goto i (.holding p c))
  /-- The slot that it waits for has become free. -/
  | freed {p c : ℕ} {client : Client} (hclient : s.clients[c]? = some client)
    (hfree : 0 < client.slots) :
    TaskStep s i url (.waiting p c) ((s.setClient c .take).goto i (.holding p c))
  /-- It has made a client. -/
  | connect {p : ℕ} {attempt : Attempt} : TaskStep s i url (.create p attempt)
    ({ s with
      clients := s.clients ++ [Client.mk url p false dohH3MaxInflightPerConn] }.goto i
        (.add p s.clients.length))
  /-- It adds the client. -/
  | add {p c : ℕ} {pool : Pool} (hp : s.pools[p]? = some pool)
    (hroom : pool.clients.length < dohH3PoolSize) : TaskStep s i url (.add p c)
      (((s.setPool p (.push c)).setClient c .added).goto i (.waiting p c))
  /-- It waits for a client that it picks. -/
  | wait {phase : Phase} {p c : ℕ} {pool : Pool} (hp : s.pools[p]? = some pool)
    (hc : pool.clients[pool.next.toNat % pool.clients.length]? = some c)
    (hphase : (∃ attempt, phase = .pick p attempt) ∨ ∃ d, phase = .add p d) :
    TaskStep s i url phase ((s.setPool p .picked).goto i (.waiting p c))
  /-- It gives its slot back. -/
  | release {p c : ℕ} : TaskStep s i url (.holding p c) ((s.setClient c .give).goto i .ended)
  /-- A reset takes the pool out of the table. -/
  | reset {p : ℕ} (h : (url, p) ∈ s.table) : TaskStep s i url .reset
    ({ s with table := s.table.filter (·.1 ≠ url) }.goto i (.drain p))
  /-- It empties the pool. -/
  | drain {p : ℕ} : TaskStep s i url (.drain p) ((s.setPool p .drained).goto i .ended)

theorem mem_of_lookup {table : List (String × ℕ)} (h : table.lookup url = some p) :
    (url, p) ∈ table := by
  obtain ⟨as, bs, heq, -⟩ := List.lookup_eq_some_iff.mp h
  rw [heq]
  exact List.mem_append_right _ List.mem_cons_self

theorem taskStep_of_run {connected : Bool} (hs : s.run i url connected phase = some s') :
    TaskStep s i url phase s' := by
  cases phase with
  | load =>
    simp only [State.run] at hs
    split at hs
    · next p hp =>
      obtain rfl := Option.some.inj hs
      exact .load (mem_of_lookup hp)
    · obtain rfl := Option.some.inj hs
      exact .newPool
  | tryPick p attempt =>
    simp only [State.run, Option.bind_eq_bind, Option.bind_eq_some_iff] at hs
    obtain ⟨pool, hp, hs⟩ := hs
    split at hs
    · obtain rfl := Option.some.inj hs
      exact .alone (continues_next attempt (fun _ _ h => h) (fun _ => rfl) rfl)
    · next hne =>
      obtain rfl := Option.some.inj hs
      exact .turn _ hp hne
  | trying p clients start offset attempt =>
    simp only [State.run, Option.bind_eq_bind, Option.bind_eq_some_iff] at hs
    obtain ⟨c, hc, client, hclient, hs⟩ := hs
    split at hs
    · next hfree =>
      obtain rfl := Option.some.inj hs
      exact .found (List.mem_of_getElem? hc) hclient hfree
    · split at hs
      · obtain rfl := Option.some.inj hs
        exact .alone ⟨fun _ _ h => h, rfl, fun _ => rfl, fun _ h => h⟩
      · obtain rfl := Option.some.inj hs
        exact .alone (continues_next attempt (fun _ _ h => h.1) (fun _ => rfl) rfl)
  | needsNew p =>
    simp only [State.run, Option.bind_eq_bind, Option.bind_eq_some_iff] at hs
    obtain ⟨pool, -, hs⟩ := hs
    split at hs <;>
    · obtain rfl := Option.some.inj hs
      exact .alone ⟨fun _ _ h => h, rfl, fun _ => rfl, fun _ h => h⟩
  | create p attempt =>
    cases connected with
    | true =>
      obtain rfl := Option.some.inj hs
      exact .connect
    | false =>
      cases attempt with
      | first =>
        obtain rfl := Option.some.inj hs
        exact .alone ⟨fun _ _ h => h, rfl, fun _ => rfl, fun _ h => h⟩
      | failed | full =>
        obtain rfl := Option.some.inj hs
        exact .alone (continues_ended fun _ => rfl)
  | pick p attempt =>
    simp only [State.run, Option.bind_eq_bind, Option.bind_eq_some_iff] at hs
    obtain ⟨pool, hp, hs⟩ := hs
    split at hs
    · cases attempt with
      | failed =>
        obtain rfl := Option.some.inj hs
        exact .alone (continues_ended fun _ => rfl)
      | first | full =>
        obtain rfl := Option.some.inj hs
        exact .alone ⟨fun _ _ h => h, rfl, fun _ => rfl, fun _ h => h⟩
    · obtain ⟨c, hc, hs⟩ := Option.bind_eq_some_iff.mp hs
      obtain rfl := Option.some.inj hs
      exact .wait hp hc (.inl ⟨attempt, rfl⟩)
  | add p c =>
    simp only [State.run, Option.bind_eq_bind, Option.bind_eq_some_iff] at hs
    obtain ⟨pool, hp, hs⟩ := hs
    split at hs
    · next hroom =>
      obtain rfl := Option.some.inj hs
      exact .add hp hroom
    · obtain ⟨d, hd, hs⟩ := Option.bind_eq_some_iff.mp hs
      obtain rfl := Option.some.inj hs
      exact .wait hp hd (.inr ⟨c, rfl⟩)
  | waiting p c =>
    simp only [State.run, Option.bind_eq_bind, Option.bind_eq_some_iff] at hs
    obtain ⟨client, hclient, hs⟩ := hs
    split at hs
    · next hfree =>
      obtain rfl := Option.some.inj hs
      exact .freed hclient hfree
    · cases hs
  | holding p c =>
    obtain rfl := Option.some.inj hs
    exact .release
  | reset =>
    simp only [State.run] at hs
    split at hs
    · next p hp =>
      obtain rfl := Option.some.inj hs
      exact .reset (mem_of_lookup hp)
    · obtain rfl := Option.some.inj hs
      exact .alone (continues_ended fun _ => rfl)
  | drain p =>
    obtain rfl := Option.some.inj hs
    exact .drain
  | ended => cases hs

theorem taskStep_of_cancel (hs : s.cancel i phase = some s') : TaskStep s i url phase s' := by
  cases phase with
  | create p attempt | waiting p c =>
    obtain rfl := Option.some.inj hs
    exact .alone (continues_ended fun _ => rfl)
  | holding p c =>
    obtain rfl := Option.some.inj hs
    exact .release
  | _ => cases hs

/-- **What a step does**: a task begins, or one of those there are does its next step. -/
theorem step_cases {a : Action} (hs : pooling.step s a = some s') :
    (∃ url phase, (phase = .load ∨ phase = .reset) ∧
      s' = { s with tasks := s.tasks ++ [⟨url, phase⟩] }) ∨
    ∃ i task, s.tasks[i]? = some task ∧ TaskStep s i task.url task.phase s' := by
  cases a with
  | begin url phase =>
    simp only [pooling] at hs
    split at hs
    · next hphase =>
      obtain rfl := Option.some.inj hs
      exact .inl ⟨url, phase, hphase, rfl⟩
    · cases hs
  | run i connected =>
    simp only [pooling, Option.bind_eq_bind, Option.bind_eq_some_iff] at hs
    obtain ⟨task, hi, hs⟩ := hs
    exact .inr ⟨i, task, hi, taskStep_of_run hs⟩
  | cancel i =>
    simp only [pooling, Option.bind_eq_bind, Option.bind_eq_some_iff] at hs
    obtain ⟨task, hi, hs⟩ := hs
    exact .inr ⟨i, task, hi, taskStep_of_cancel hs⟩

/-! ### What the steps keep -/

theorem keeps_setPool {f : Pool → Pool} (hf : ∀ pool, (f pool).url = pool.url) :
    Keeps s (s.setPool p f) none := by
  refine ⟨fun q url => ?_, fun _ _ _ h => h, fun _ _ _ _ h => h⟩
  rintro ⟨pool, hq, rfl⟩
  refine ⟨if p = q then f pool else pool, ?_, ?_⟩
  · rw [State.setPool, List.getElem?_modify, hq]
    split <;> rfl
  · split
    · exact hf pool
    · rfl

theorem keeps_setClient {f : Client → Client}
    (hf : ∀ client, (f client).url = client.url ∧ (f client).pool = client.pool ∧
      (f client).pooled = client.pooled) : Keeps s (s.setClient c f) none := by
  have hmade : ∀ d q url b, s.Made d q url b → (s.setClient c f).Made d q url b := by
    rintro d q url b ⟨client, hd, rfl, rfl, rfl⟩
    obtain ⟨hurl, hpool, hpooled⟩ := hf client
    refine ⟨if c = d then f client else client, ?_, ?_, ?_, ?_⟩
    · rw [State.setClient, List.getElem?_modify, hd]
      split <;> rfl
    all_goals split <;> first | assumption | rfl
  exact ⟨fun _ _ h => h, fun d q url => hmade d q url true, fun d q url _ => hmade d q url false⟩

/-- A task goes on alone. -/
theorem Inv.stay (h : Inv s) (hi : s.tasks[i]? = some task) (hok : phase'.Ok s task.url)
    (hcandidate : phase'.candidate = none) (hholds : ∀ c, phase'.holds c = task.phase.holds c) :
    Inv (s.goto i phase') := by
  refine h.goto hi rfl none (Keeps.refl s) nofun h.table h.pools hok (fun c hc => ?_)
    fun c client hclient => ?_
  · rw [hcandidate] at hc
    cases hc
  · rw [hholds, h.slots c client hclient]

/-- A task changes a pool. -/
theorem Inv.setPool (h : Inv s) (hi : s.tasks[i]? = some task) {f : Pool → Pool}
    (hurl : ∀ pool, (f pool).url = pool.url)
    (hclients : ∀ pool, (f pool).clients = pool.clients ∨ (f pool).clients = [])
    (hok : phase'.Ok s task.url) (hcandidate : phase'.candidate = none)
    (hholds : ∀ c, phase'.holds c = task.phase.holds c) : Inv ((s.setPool p f).goto i phase') := by
  have hkeeps : Keeps s (s.setPool p f) none := keeps_setPool hurl
  refine h.goto hi rfl none hkeeps nofun (fun url q hq => hkeeps.pools q url (h.table url q hq))
    (fun q pool hq => ?_) (hkeeps.ok hok fun c hc => ?_) (fun c hc => ?_) fun c client hclient => ?_
  · rw [State.setPool, List.getElem?_modify] at hq
    split at hq
    · obtain ⟨pool', hq', rfl⟩ := Option.map_eq_some_iff.mp hq
      obtain ⟨hlen, hnodup, hmade⟩ := h.pools q pool' hq'
      rw [hurl]
      rcases hclients pool' with hsame | hnil
      · rw [hsame]
        exact ⟨hlen, hnodup, hmade⟩
      · rw [hnil]
        exact ⟨Nat.zero_le _, List.nodup_nil, nofun⟩
    · exact h.pools q pool (by simpa using hq)
  · rw [hcandidate] at hc
    cases hc
  · rw [hcandidate] at hc
    cases hc
  · rw [hholds, h.slots c client hclient]

/-- A task takes a slot or gives one back. -/
theorem Inv.setSlots (h : Inv s) (hi : s.tasks[i]? = some task) {f : Client → Client}
    (hf : ∀ client, (f client).url = client.url ∧ (f client).pool = client.pool ∧
      (f client).pooled = client.pooled)
    (hok : phase'.Ok s task.url) (hcandidate : phase'.candidate = none)
    (hother : ∀ d, c ≠ d → phase'.holds d = task.phase.holds d)
    (hslots : ∀ client, s.clients[c]? = some client → (f client).slots + (phase'.holds c).toNat =
      client.slots + (task.phase.holds c).toNat) : Inv ((s.setClient c f).goto i phase') := by
  have hkeeps : Keeps s (s.setClient c f) none := keeps_setClient hf
  refine h.goto hi rfl none hkeeps nofun h.table (fun q pool hq => ?_)
    (hkeeps.ok hok fun d hd => ?_)
    (fun d hd => ?_) fun d client hclient => ?_
  · obtain ⟨hlen, hnodup, hmade⟩ := h.pools q pool hq
    exact ⟨hlen, hnodup, fun d hd => hkeeps.taken d q pool.url (hmade d hd)⟩
  · rw [hcandidate] at hd
    cases hd
  · rw [hcandidate] at hd
    cases hd
  · rw [State.setClient, List.getElem?_modify] at hclient
    split at hclient
    · next hcd =>
      subst hcd
      obtain ⟨client', hclient', rfl⟩ := Option.map_eq_some_iff.mp hclient
      have := h.slots c client' hclient'
      have := hslots client' hclient'
      omega
    · next hcd => rw [hother d hcd, h.slots d client (by simpa using hclient)]

/-- The pool of an upstream is made. -/
theorem Inv.newPool (h : Inv s) (hi : s.tasks[i]? = some task) (hphase : task.phase = .load) :
    Inv ({ s with
      table := (task.url, s.pools.length) :: s.table
      pools := s.pools ++ [Pool.mk task.url [] 0] }.goto i (.tryPick s.pools.length .first)) := by
  have hold : ∀ p url, s.PoolFor p url →
      ∃ pool, (s.pools ++ [Pool.mk task.url [] 0])[p]? = some pool ∧ pool.url = url := by
    rintro p url ⟨pool, hp, rfl⟩
    exact ⟨pool, by rw [List.getElem?_append_left (List.getElem?_eq_some_iff.mp hp).1, hp], rfl⟩
  have hnew : ∃ pool, (s.pools ++ [Pool.mk task.url [] 0])[s.pools.length]? = some pool ∧
      pool.url = task.url := ⟨_, List.getElem?_concat_length, rfl⟩
  refine h.goto hi rfl none ⟨hold, fun _ _ _ h => h, fun _ _ _ _ h => h⟩ nofun
    (fun url p hp => ?_) (fun p pool hp => ?_) hnew (fun c hc => nomatch hc)
    fun c client hclient => ?_
  · rcases List.mem_cons.mp hp with heq | hp
    · cases heq
      exact hnew
    · exact hold p url (h.table url p hp)
  · rcases Nat.lt_or_ge p s.pools.length with hlt | hge
    · exact h.pools p pool (by rwa [← List.getElem?_append_left hlt])
    · have hlen := (List.getElem?_eq_some_iff.mp hp).1
      dsimp only at hp hlen
      rw [List.length_append, List.length_singleton] at hlen
      obtain rfl : p = s.pools.length := by omega
      rw [List.getElem?_concat_length] at hp
      obtain rfl := Option.some.inj hp
      exact ⟨Nat.zero_le _, List.nodup_nil, nofun⟩
  · rw [hphase, h.slots c client hclient]
    rfl

/-- Nothing is under way over a client there is not. -/
theorem Inv.inFlight_eq_zero (h : Inv s) (hc : s.clients[c]? = none) : s.inFlight c = 0 := by
  rw [State.inFlight, List.countP_eq_zero]
  intro task hmem hholds
  obtain ⟨j, hj⟩ := List.getElem?_of_mem hmem
  have hok := h.tasks j task hj
  cases hphase : task.phase with
  | holding p d =>
    rw [hphase] at hok hholds
    obtain ⟨-, client, hd, -⟩ := hok
    rw [of_decide_eq_true hholds, hc] at hd
    cases hd
  | _ =>
    rw [hphase] at hholds
    cases hholds

/-- A client is made. -/
theorem Inv.newClient (h : Inv s) (hi : s.tasks[i]? = some task) {attempt : Attempt}
    (hphase : task.phase = .create p attempt) :
    Inv ({ s with
      clients := s.clients ++ [Client.mk task.url p false dohH3MaxInflightPerConn] }.goto i
        (.add p s.clients.length)) := by
  have hpool : s.PoolFor p task.url := by
    have hok := h.tasks i task hi
    rwa [hphase] at hok
  have hold : ∀ c q url b, s.Made c q url b → State.Made { s with
      clients := s.clients ++ [Client.mk task.url p false dohH3MaxInflightPerConn] } c q url b := by
    rintro c q url b ⟨client, hc, rest⟩
    exact ⟨client, by
      dsimp only
      rw [List.getElem?_append_left (List.getElem?_eq_some_iff.mp hc).1, hc], rest⟩
  refine h.goto hi rfl none ⟨fun _ _ h => h, fun c q url => hold c q url true,
    fun c q url _ => hold c q url false⟩ nofun h.table (fun q pool hq => ?_) ⟨hpool, _,
      List.getElem?_concat_length, rfl, rfl, rfl⟩ (fun c hc j task' hj hc' => ?_)
    fun c client hclient => ?_
  · obtain ⟨hlen, hnodup, hmade⟩ := h.pools q pool hq
    exact ⟨hlen, hnodup, fun c hc => hold c q pool.url true (hmade c hc)⟩
  · obtain rfl := Option.some.inj hc
    have hok := h.tasks j task' hj
    cases hphase' : task'.phase with
    | add q d =>
      rw [hphase'] at hok hc'
      obtain ⟨-, client, hd, -⟩ := hok
      rw [Option.some.inj hc', List.getElem?_eq_none (Nat.le_refl _)] at hd
      cases hd
    | _ =>
      rw [hphase'] at hc'
      cases hc'
  · rw [hphase]
    rcases Nat.lt_or_ge c s.clients.length with hlt | hge
    · rw [h.slots c client (by rwa [← List.getElem?_append_left hlt])]
      rfl
    · have hlen := (List.getElem?_eq_some_iff.mp hclient).1
      dsimp only at hclient hlen
      rw [List.length_append, List.length_singleton] at hlen
      obtain rfl : c = s.clients.length := by omega
      rw [List.getElem?_concat_length] at hclient
      obtain rfl := Option.some.inj hclient
      rw [h.inFlight_eq_zero (List.getElem?_eq_none (Nat.le_refl _))]
      rfl

/-- A pool takes the client. -/
theorem Inv.addClient (h : Inv s) (hi : s.tasks[i]? = some task) (hphase : task.phase = .add p c)
    {pool : Pool} (hp : s.pools[p]? = some pool) (hroom : pool.clients.length < dohH3PoolSize) :
    Inv (((s.setPool p (.push c)).setClient c .added).goto i (.waiting p c)) := by
  obtain ⟨hfor, hmade⟩ : Phase.Ok s task.url (.add p c) := by
    have hok := h.tasks i task hi
    rwa [hphase] at hok
  have hfresh : c ∉ pool.clients := by
    intro hc
    obtain ⟨-, -, hall⟩ := h.pools p pool hp
    obtain ⟨client, hclient, -, -, htrue⟩ := hall c hc
    obtain ⟨client', hclient', -, -, hfalse⟩ := hmade
    rw [hclient] at hclient'
    cases hclient'
    rw [htrue] at hfalse
    cases hfalse
  have hpools : Keeps s (s.setPool p (.push c)) none := keeps_setPool fun _ => rfl
  -- what the clients are after the step
  have hclients : ∀ d q url b, s.Made d q url b →
      ((s.setPool p (.push c)).setClient c .added).Made d q url (if c = d then true else b) := by
    rintro d q url b ⟨client, hd, rfl, rfl, rfl⟩
    refine ⟨if c = d then client.added else client, ?_, ?_, ?_, ?_⟩
    · change (s.clients.modify c _)[d]? = _
      rw [List.getElem?_modify, hd]
      split <;> rfl
    all_goals split <;> rfl
  have hkeeps : Keeps s ((s.setPool p (.push c)).setClient c .added) (some c) := by
    refine ⟨hpools.pools, fun d q url hd => ?_, fun d q url hne hd => ?_⟩
    · simpa using hclients d q url true hd
    · have hcd : c ≠ d := fun hcd => hne (congrArg some hcd.symm)
      simpa [hcd] using hclients d q url false hd
  have hnow : State.Made ((s.setPool p (.push c)).setClient c .added) c p task.url true := by
    simpa using hclients c p task.url false hmade
  refine h.goto hi rfl (some c) hkeeps (fun d hd => by rw [hphase, ← hd]; rfl)
    (fun url q hq => hkeeps.pools q url (h.table url q hq)) (fun q pool' hq => ?_)
    ⟨hkeeps.pools p _ hfor, hnow⟩ (fun d hd => nomatch hd) fun d client hclient => ?_
  · change (s.pools.modify p _)[q]? = some pool' at hq
    rw [List.getElem?_modify] at hq
    split at hq
    · next hpq =>
      subst hpq
      rw [hp] at hq
      obtain rfl := Option.some.inj hq
      obtain ⟨hlen, hnodup, hall⟩ := h.pools p pool hp
      obtain ⟨pool', hp', hurl⟩ := hfor
      rw [hp] at hp'
      obtain rfl := Option.some.inj hp'
      refine ⟨?_, ?_, fun d hd => ?_⟩
      · change (pool.clients ++ [c]).length ≤ dohH3PoolSize
        rw [List.length_append, List.length_singleton]
        exact hroom
      · exact List.nodup_append.mpr ⟨hnodup, List.pairwise_singleton _ c, fun d hd e he hde =>
          hfresh (List.mem_singleton.mp he ▸ hde ▸ hd)⟩
      · rcases List.mem_append.mp hd with hd | hd
        · exact hkeeps.taken d p pool.url (hall d hd)
        · rw [List.mem_singleton.mp hd]
          exact hurl ▸ hnow
    · obtain ⟨hlen, hnodup, hall⟩ := h.pools q pool' (by simpa using hq)
      exact ⟨hlen, hnodup, fun d hd => hkeeps.taken d q pool'.url (hall d hd)⟩
  · change (s.clients.modify c _)[d]? = some client at hclient
    rw [List.getElem?_modify] at hclient
    rw [hphase]
    obtain ⟨client', hclient', hsame⟩ := Option.map_eq_some_iff.mp hclient
    have hslots : client.slots = client'.slots := by
      rw [← hsame]
      split <;> rfl
    rw [hslots, h.slots d client' hclient']
    rfl

/-- A pool that there is has the upstream that it is for. -/
theorem url_eq_of_poolFor {pool : Pool} (hp : s.pools[p]? = some pool) (hfor : s.PoolFor p url) :
    pool.url = url := by
  obtain ⟨pool', hp', rfl⟩ := hfor
  rw [hp] at hp'
  rw [Option.some.inj hp']

/-- A task takes a slot. -/
theorem Inv.take (h : Inv s) (hi : s.tasks[i]? = some task) {client : Client}
    (hclient : s.clients[c]? = some client) (hfree : 0 < client.slots)
    (hok : s.PoolFor p task.url ∧ s.Made c p task.url true)
    (hholds : ∀ d, task.phase.holds d = false) :
    Inv ((s.setClient c .take).goto i (.holding p c)) := by
  refine h.setSlots hi (fun _ => ⟨rfl, rfl, rfl⟩) hok rfl (fun d hd => ?_) fun client' hc' => ?_
  · rw [hholds]
    exact decide_eq_false hd
  · rw [hclient] at hc'
    obtain rfl := Option.some.inj hc'
    rw [hholds, Phase.holds, decide_eq_true rfl, Client.take, Bool.toNat_true, Bool.toNat_false]
    change client.slots - 1 + 1 = client.slots + 0
    omega

/-- A task waits for a client, which is picked. -/
theorem Inv.wait (h : Inv s) (hi : s.tasks[i]? = some task) {pool : Pool}
    (hp : s.pools[p]? = some pool) (hfor : s.PoolFor p task.url)
    (hc : pool.clients[pool.next.toNat % pool.clients.length]? = some c)
    (hholds : ∀ d, task.phase.holds d = false) :
    Inv ((s.setPool p .picked).goto i (.waiting p c)) := by
  obtain ⟨-, -, hall⟩ := h.pools p pool hp
  exact h.setPool hi (fun _ => rfl) (fun _ => .inl rfl)
    ⟨hfor, url_eq_of_poolFor hp hfor ▸ hall c (List.mem_of_getElem? hc)⟩ rfl
    fun d => (hholds d).symm

/-- A task gives its slot back. -/
theorem Inv.release (h : Inv s) (hi : s.tasks[i]? = some task)
    (hphase : task.phase = .holding p c) : Inv ((s.setClient c .give).goto i .ended) := by
  refine h.setSlots hi (fun _ => ⟨rfl, rfl, rfl⟩) trivial rfl (fun d hd => ?_) fun client _ => ?_
  · rw [hphase]
    exact (decide_eq_false hd).symm
  · rw [hphase]
    change client.slots + 1 + 0 = client.slots + (decide (c = c)).toNat
    rw [decide_eq_true rfl]
    rfl

/-- **Every step of a task** keeps the invariant. -/
theorem Inv.taskStep (h : Inv s) (hi : s.tasks[i]? = some task)
    (hs : TaskStep s i task.url task.phase s') : Inv s' := by
  have hok := h.tasks i task hi
  generalize hphase : task.phase = phase at hs hok
  cases hs with
  | alone hcontinues =>
    exact h.stay hi (hcontinues.ok s task.url hok) hcontinues.candidate fun c => by
      rw [hphase, hcontinues.holds]
  | load hp => exact h.stay hi (h.table _ _ hp) rfl fun c => by rw [hphase]; rfl
  | newPool => exact h.newPool hi hphase
  | turn start hp hne =>
    obtain ⟨-, -, hall⟩ := h.pools _ _ hp
    refine h.setPool hi (fun _ => rfl) (fun _ => .inl rfl)
      ⟨hok, hne, url_eq_of_poolFor hp hok ▸ hall⟩ rfl fun c => ?_
    rw [hphase]
    rfl
  | found hc hclient hfree =>
    exact h.take hi hclient hfree ⟨hok.1, hok.2.2 _ hc⟩ fun d => by rw [hphase]; rfl
  | freed hclient hfree => exact h.take hi hclient hfree hok fun d => by rw [hphase]; rfl
  | connect => exact h.newClient hi hphase
  | add hp hroom => exact h.addClient hi hphase hp hroom
  | wait hp hc hfrom =>
    rcases hfrom with ⟨attempt, rfl⟩ | ⟨d, rfl⟩
    · exact h.wait hi hp hok hc fun d => by rw [hphase]; rfl
    · exact h.wait hi hp hok.1 hc fun d => by rw [hphase]; rfl
  | release => exact h.release hi hphase
  | reset hp =>
    refine h.goto hi rfl none ⟨fun _ _ h => h, fun _ _ _ h => h, fun _ _ _ _ h => h⟩ nofun
      (fun url q hq => h.table url q (List.mem_of_mem_filter hq)) h.pools (h.table _ _ hp)
      (fun c hc => nomatch hc) fun c client hclient => ?_
    rw [hphase, h.slots c client hclient]
    rfl
  | drain =>
    exact h.setPool hi (fun _ => rfl) (fun _ => .inr rfl) trivial rfl fun c => by rw [hphase]; rfl

/-- A task begins. -/
theorem Inv.begin (h : Inv s) (hphase : phase = .load ∨ phase = .reset) :
    Inv { s with tasks := s.tasks ++ [⟨url, phase⟩] } := by
  have hnone : phase.candidate = none ∧ ∀ c, phase.holds c = false := by
    rcases hphase with rfl | rfl <;> exact ⟨rfl, fun _ => rfl⟩
  have hget : ∀ {j : ℕ} {task : Task}, (s.tasks ++ [⟨url, phase⟩])[j]? = some task →
      s.tasks[j]? = some task ∨ task.phase = phase := by
    intro j task hj
    rcases Nat.lt_or_ge j s.tasks.length with hlt | hge
    · exact .inl (by rwa [← List.getElem?_append_left hlt])
    · have hmem := List.mem_of_getElem? (List.getElem?_append_right hge ▸ hj)
      exact .inr (by rw [List.mem_singleton.mp hmem])
  refine ⟨h.table, h.pools, fun j task hj => ?_, fun j k task task' c hj hk hc hc' => ?_,
    fun c client hclient => ?_⟩
  · rcases hget hj with hj | hj
    · exact h.tasks j task hj
    · rw [hj]
      rcases hphase with rfl | rfl <;> trivial
  · rcases hget hj with hj | hj
    · rcases hget hk with hk | hk
      · exact h.candidates j k task task' c hj hk hc hc'
      · rw [hk, hnone.1] at hc'
        cases hc'
    · rw [hj, hnone.1] at hc
      cases hc
  · rw [← h.slots c client hclient, State.inFlight, State.inFlight, List.countP_append,
      List.countP_singleton, hnone.2]
    rfl

theorem Inv.step {a : Action} (h : Inv s) (hs : pooling.step s a = some s') : Inv s' := by
  rcases step_cases hs with ⟨url, phase, hphase, rfl⟩ | ⟨i, task, hi, hstep⟩
  · exact h.begin hphase
  · exact h.taskStep hi hstep

theorem Inv.init : Inv pooling.init := by
  refine ⟨nofun, ?_, ?_, ?_, ?_⟩ <;> simp [pooling]

/-- The invariant holds in every run. -/
theorem inv_of_run {as : List Action} (h : Run pooling Always as s) : Inv s :=
  h.stateInvariant Inv.init fun _ _ _ hs _ => hs.step

/-- Where a task waits for a slot of a client, or has one. -/
def Phase.Over (p c : ℕ) (phase : Phase) : Prop := phase = .waiting p c ∨ phase = .holding p c

/-- The steps of a request that has a connection made for it. -/
def connecting (i : ℕ) : List Action :=
  .begin "https://dns.example" .load :: List.replicate 6 (.run i true)

/-- **The pools are sound**, in whatever order requests and resets take their steps: a pool has at
most two clients, which no other pool has; a slot is free or held by a request; and a request goes
over a client of its own upstream. -/
theorem pools_sound {as : List Action} (h : Run pooling Always as s) :
    (∀ (p : ℕ) pool, s.pools[p]? = some pool →
      pool.clients.length ≤ dohH3PoolSize ∧ pool.clients.Nodup) ∧
    (∀ (p q : ℕ) pool pool' c, s.pools[p]? = some pool → s.pools[q]? = some pool' →
      c ∈ pool.clients → c ∈ pool'.clients → p = q) ∧
    (∀ (c : ℕ) client, s.clients[c]? = some client →
      client.slots + s.inFlight c = dohH3MaxInflightPerConn) ∧
    (∀ task ∈ s.tasks, ∀ p c, task.phase.Over p c → s.Made c p task.url true) := by
  have hinv := inv_of_run h
  refine ⟨fun p pool hp => ?_, fun p q pool pool' c hp hq hc hc' => ?_, hinv.slots,
    fun task hmem p c hover => ?_⟩
  · obtain ⟨hlen, hnodup, -⟩ := hinv.pools p pool hp
    exact ⟨hlen, hnodup⟩
  · obtain ⟨-, -, hall⟩ := hinv.pools p pool hp
    obtain ⟨-, -, hall'⟩ := hinv.pools q pool' hq
    obtain ⟨client, hclient, -, rfl, -⟩ := hall c hc
    obtain ⟨client', hclient', -, rfl, -⟩ := hall' c hc'
    rw [hclient] at hclient'
    rw [Option.some.inj hclient']
  · obtain ⟨i, hi⟩ := List.getElem?_of_mem hmem
    have hok := hinv.tasks i task hi
    rcases hover with hphase | hphase <;>
    · rw [hphase] at hok
      exact hok.2

/-- One request goes over a connection that has been made for it. -/
theorem pools_sound_connecting : ∃ s, Run pooling Always (connecting 0) s ∧
    s.tasks = [⟨"https://dns.example", .holding 0 0⟩] ∧ s.Made 0 0 "https://dns.example" true ∧
    ∀ client, s.clients[0]? = some client → client.slots + s.inFlight 0 = 64 := by
  have hexec : (pooling.exec Always pooling.init (connecting 0)).map (·.tasks) =
      some [⟨"https://dns.example", .holding 0 0⟩] := by decide +kernel
  obtain ⟨s, hs, htasks⟩ := Option.map_eq_some_iff.mp hexec
  obtain ⟨-, -, hslots, hover⟩ := pools_sound (run_of_exec hs)
  have hmem : (Task.mk "https://dns.example" (.holding 0 0)) ∈ s.tasks := by
    rw [htasks]
    exact List.mem_singleton_self _
  exact ⟨s, run_of_exec hs, htasks, hover _ hmem 0 0 (.inr rfl), hslots 0⟩

/-! ### A reset -/

/-- What a step of a task does to the pools of the others, and to its own. -/
structure PoolFrame (s s' : State) (i : ℕ) (phase : Phase) : Prop where
  /-- There are as many pools, or one more. -/
  pools : s.pools.length ≤ s'.pools.length
  /-- There are as many clients, or one more. -/
  made : s.clients.length ≤ s'.clients.length
  /-- A pool in the table has been there or is new. -/
  table : ∀ url p, (url, p) ∈ s'.table → (url, p) ∈ s.table ∨ p = s.pools.length
  /-- A client has been there or is for a pool of before. -/
  clients : ∀ (c : ℕ) client', s'.clients[c]? = some client' →
    (∃ client, s.clients[c]? = some client ∧ client.pool = client'.pool) ∨
      s.clients.length ≤ c ∧ client'.pool < s.pools.length
  /-- The task goes on, with the pool it has got or one out of the table. -/
  tasks : ∃ phase', s'.tasks = (s.goto i phase').tasks ∧ ∀ p, phase'.pool = some p →
    phase.pool = some p ∨ ∀ (task : Task), s.tasks[i]? = some task →
      (task.url, p) ∈ s.table ∨ p = s.pools.length

/-- A task goes on, where nothing has changed but the pools and the slots of the clients. -/
theorem PoolFrame.goto (hs : s₁.tasks = s.tasks) (hpools : s₁.pools.length = s.pools.length)
    (htable : ∀ entry ∈ s₁.table, entry ∈ s.table)
    (hclients : s₁.clients.map (·.pool) = s.clients.map (·.pool))
    (hpool : ∀ p, phase'.pool = some p → phase.pool = some p) :
    PoolFrame s (s₁.goto i phase') i phase := by
  refine ⟨Nat.le_of_eq hpools.symm, Nat.le_of_eq ?_, fun url p hp => .inl (htable _ hp),
    fun c client' hc => .inl ?_, phase', ?_, fun p hp => .inl (hpool p hp)⟩
  · have hlen := congrArg List.length hclients
    rw [List.length_map, List.length_map] at hlen
    exact hlen.symm
  · have hget := congrArg (·[c]?) hclients
    simp only [List.getElem?_map] at hget
    rw [show s₁.clients[c]? = some client' from hc] at hget
    obtain ⟨client, hclient, hsame⟩ := Option.map_eq_some_iff.mp hget.symm
    exact ⟨client, hclient, hsame⟩
  · rw [State.goto, State.goto, hs]

theorem map_pool_setClient {f : Client → Client} (hf : ∀ client, (f client).pool = client.pool) :
    (s.setClient c f).clients.map (·.pool) = s.clients.map (·.pool) := by
  refine List.ext_getElem? fun d => ?_
  rw [List.getElem?_map, List.getElem?_map, State.setClient, List.getElem?_modify]
  split
  · cases s.clients[d]? with
    | none => rfl
    | some client => exact congrArg some (hf client)
  · simp

theorem length_setPool {f : Pool → Pool} : (s.setPool p f).pools.length = s.pools.length :=
  List.length_modify f s.pools p

/-- A task that only goes on. -/
theorem PoolFrame.stay (hpool : ∀ p, phase'.pool = some p → phase.pool = some p) :
    PoolFrame s (s.goto i phase') i phase :=
  .goto rfl rfl (fun _ h => h) rfl hpool

/-- A task that picks. -/
theorem PoolFrame.setPool {f : Pool → Pool} (hpool : ∀ p, phase'.pool = some p → phase.pool = some p) :
    PoolFrame s ((s.setPool p f).goto i phase') i phase :=
  .goto rfl length_setPool (fun _ h => h) rfl hpool

/-- A task that takes a slot or gives one back. -/
theorem PoolFrame.setClient {f : Client → Client} (hf : ∀ client, (f client).pool = client.pool)
    (hpool : ∀ p, phase'.pool = some p → phase.pool = some p) :
    PoolFrame s ((s.setClient c f).goto i phase') i phase :=
  .goto rfl rfl (fun _ h => h) (map_pool_setClient hf) hpool

/-- A task that adds its client. -/
theorem PoolFrame.addClient : PoolFrame s
    (((s.setPool p (.push c)).setClient c .added).goto i (.waiting p c)) i (.add p c) :=
  .goto rfl length_setPool (fun _ h => h) (map_pool_setClient fun _ => rfl) fun _ hq => hq

/-- **What a step of a task does** to the pools. -/
theorem PoolFrame.taskStep (h : Inv s) (hi : s.tasks[i]? = some task)
    (hs : TaskStep s i task.url task.phase s') : PoolFrame s s' i task.phase := by
  have hok := h.tasks i task hi
  -- a pool out of the table is one of the upstream
  have htable : ∀ {p : ℕ}, (task.url, p) ∈ s.table → ∀ q, some p = some q →
      ∀ task', s.tasks[i]? = some task' → (task'.url, q) ∈ s.table ∨ q = s.pools.length := by
    intro p hp q hq task' hi'
    rw [hi] at hi'
    obtain rfl := Option.some.inj hi'
    obtain rfl := Option.some.inj hq
    exact .inl hp
  generalize task.phase = phase at hs hok
  cases hs with
  | alone hcontinues => exact .stay hcontinues.pool
  | load hp =>
    exact ⟨Nat.le_refl _, Nat.le_refl _, fun _ _ h => .inl h,
      fun c client hc => .inl ⟨client, hc, rfl⟩, _, rfl, fun q hq => .inr (htable hp q hq)⟩
  | newPool =>
    refine ⟨?_, Nat.le_refl _, fun url q hq => ?_, fun c client hc => .inl ⟨client, hc, rfl⟩, _, rfl,
      fun q hq => .inr fun _ _ => .inr (Option.some.inj hq).symm⟩
    · change _ ≤ (s.pools ++ _).length
      rw [List.length_append]
      exact Nat.le_add_right _ _
    · rcases List.mem_cons.mp hq with heq | hq
      · exact .inr (congrArg Prod.snd heq)
      · exact .inl hq
  | connect =>
    refine ⟨Nat.le_refl _, ?_, fun _ _ h => .inl h, fun c client hc => ?_, _, rfl,
      fun q hq => .inl hq⟩
    · change _ ≤ (s.clients ++ _).length
      rw [List.length_append]
      exact Nat.le_add_right _ _
    rcases Nat.lt_or_ge c s.clients.length with hlt | hge
    · exact .inl ⟨client, by rwa [← List.getElem?_append_left hlt], rfl⟩
    · refine .inr ⟨hge, ?_⟩
      obtain ⟨pool, hp, -⟩ := hok
      have hmem := List.mem_of_getElem? (List.getElem?_append_right hge ▸ hc)
      rw [List.mem_singleton.mp hmem]
      exact (List.getElem?_eq_some_iff.mp hp).1
  | turn => exact .setPool fun _ hq => hq
  | found | freed => exact .setClient (fun _ => rfl) fun _ hq => hq
  | add => exact .addClient
  | wait hp hc hfrom =>
    rcases hfrom with ⟨attempt, rfl⟩ | ⟨d, rfl⟩ <;> exact .setPool fun _ hq => hq
  | release => exact .setClient (fun _ => rfl) fun _ hq => nomatch hq
  | reset hp =>
    exact ⟨Nat.le_refl _, Nat.le_refl _, fun _ _ hq => .inl (List.mem_of_mem_filter hq),
      fun c client hc => .inl ⟨client, hc, rfl⟩, _, rfl, fun q hq => .inr (htable hp q hq)⟩
  | drain => exact .setPool fun _ hq => nomatch hq

/-- What holds after a reset, when there were some pools and clients then, of a task. -/
structure AfterReset (url : String) (np nc j : ℕ) (s : State) : Prop where
  /-- The invariant. -/
  inv : Inv s
  /-- No pool is gone. -/
  pools : np ≤ s.pools.length
  /-- No client is gone. -/
  made : nc ≤ s.clients.length
  /-- The pool of the upstream is a new one. -/
  table : ∀ p, (url, p) ∈ s.table → np ≤ p
  /-- The clients of then are for the pools of then. -/
  clients : ∀ (c : ℕ) client, c < nc → s.clients[c]? = some client → client.pool < np
  /-- The task has a new pool. -/
  task : ∀ (task : Task), s.tasks[j]? = some task → task.url = url →
    ∀ p, task.phase.pool = some p → np ≤ p

theorem AfterReset.frame {np nc j : ℕ} (h : AfterReset url np nc j s) (hinv : Inv s')
    (hi : s.tasks[i]? = some task) (hframe : PoolFrame s s' i task.phase) :
    AfterReset url np nc j s' := by
  obtain ⟨phase', htasks, hpool⟩ := hframe.tasks
  refine ⟨hinv, Nat.le_trans h.pools hframe.pools, Nat.le_trans h.made hframe.made, fun p hp => ?_,
    fun c client' hc hclient => ?_, fun task' hj hurl p hp => ?_⟩
  · rcases hframe.table url p hp with hp | rfl
    · exact h.table p hp
    · exact h.pools
  · rcases hframe.clients c client' hclient with ⟨client, hclient, hsame⟩ | ⟨hge, -⟩
    · exact hsame ▸ h.clients c client hc hclient
    · have := h.made
      omega
  · rw [htasks, State.getElem?_goto hi] at hj
    split at hj
    · next hij =>
      obtain rfl := Option.some.inj hj
      rcases hpool p hp with hp | hp
      · exact h.task task (hij ▸ hi) hurl p hp
      · rcases hp task hi with hp | rfl
        · exact h.table p (hurl ▸ hp)
        · exact h.pools
    · exact h.task task' hj hurl p hp

theorem AfterReset.step {a : Action} {np nc j : ℕ} (h : AfterReset url np nc j s)
    (hs : pooling.step s a = some s') : AfterReset url np nc j s' := by
  have hinv := h.inv.step hs
  rcases step_cases hs with ⟨url', phase, hphase, rfl⟩ | ⟨i, task, hi, hstep⟩
  · refine ⟨hinv, h.pools, h.made, h.table, h.clients, fun task hj hurl p hp => ?_⟩
    rcases Nat.lt_or_ge j s.tasks.length with hlt | hge
    · exact h.task task (by rwa [← List.getElem?_append_left hlt]) hurl p hp
    · -- a task that begins has no pool
      have hmem := List.mem_of_getElem? (List.getElem?_append_right hge ▸ hj)
      rw [List.mem_singleton.mp hmem] at hp
      rcases hphase with rfl | rfl <;> cases hp
  · exact h.frame hinv hi (.taskStep h.inv hi hstep)

/-- Every client is for a pool there is. -/
theorem pool_lt_of_run {as : List Action} (h : Run pooling Always as s) :
    ∀ (c : ℕ) client, s.clients[c]? = some client → client.pool < s.pools.length := by
  refine (h.stateInvariant (I := fun s => Inv s ∧ ∀ (c : ℕ) client, s.clients[c]? = some client →
    client.pool < s.pools.length) ⟨.init, by simp [pooling]⟩ fun s a s' hI _ hs => ?_).2
  refine ⟨hI.1.step hs, fun c client' hclient => ?_⟩
  rcases step_cases hs with ⟨url, phase, -, rfl⟩ | ⟨i, task, hi, hstep⟩
  · exact hI.2 c client' hclient
  · have hframe := PoolFrame.taskStep hI.1 hi hstep
    refine Nat.lt_of_lt_of_le ?_ hframe.pools
    rcases hframe.clients c client' hclient with ⟨client, hclient, hsame⟩ | ⟨-, hlt⟩
    · exact hsame ▸ hI.2 c client hclient
    · exact hlt

/-- The upstream of a reset has no pool in the table. -/
theorem not_mem_of_reset {connected : Bool} (hs : s.run i url connected .reset = some s') (p : ℕ) :
    (url, p) ∉ s'.table := by
  intro hp
  simp only [State.run] at hs
  split at hs
  · obtain rfl := Option.some.inj hs
    exact absurd rfl (of_decide_eq_true (List.mem_filter.mp hp).2)
  · next hnone =>
    obtain rfl := Option.some.inj hs
    exact bne_iff_ne.mp (List.lookup_eq_none_iff.mp hnone _ hp) rfl

/-- **A reset is forgotten by nobody**: whatever happens after it, a request to the upstream that
had not loaded a pool then never waits for a slot of a client of then, nor goes over one. -/
theorem reset_forgotten {as bs : List Action} {j : ℕ} {connected : Bool}
    (h : Run pooling Always as s) (hi : s.tasks[i]? = some ⟨url, .reset⟩)
    (hreset : pooling.step s (.run i connected) = some s₁)
    (hj : ∀ (task : Task), s₁.tasks[j]? = some task → task.phase = .load)
    (hexec : pooling.exec Always s₁ bs = some s') (hj' : s'.tasks[j]? = some task)
    (hurl : task.url = url) (hover : task.phase.Over p c) : s₁.clients.length ≤ c := by
  have hrun₁ : Run pooling Always (as ++ [.run i connected]) s₁ := h.step trivial hreset
  have hrun : s.run i url connected .reset = some s₁ := by
    simpa only [pooling, hi, Option.bind_eq_bind, Option.bind_some] using hreset
  have hafter₁ : AfterReset url s₁.pools.length s₁.clients.length j s₁ := by
    refine ⟨inv_of_run hrun₁, Nat.le_refl _, Nat.le_refl _,
      fun p hp => absurd hp (not_mem_of_reset hrun p),
      fun c client _ => pool_lt_of_run hrun₁ c client,
      fun task hj'' _ p hp => ?_⟩
    rw [hj task hj''] at hp
    cases hp
  have hafter : AfterReset url s₁.pools.length s₁.clients.length j s' :=
    exec_invariant (I := AfterReset url s₁.pools.length s₁.clients.length j)
      (fun _ _ _ hI _ hs => hI.step hs) hafter₁ hexec
  obtain ⟨hpool, hmade⟩ : task.phase.pool = some p ∧ s'.Made c p task.url true := by
    have hok := hafter.inv.tasks j task hj'
    rcases hover with hphase | hphase <;>
    · rw [hphase] at hok ⊢
      exact ⟨rfl, hok.2⟩
  obtain ⟨client, hclient, -, rfl, -⟩ := hmade
  by_contra hlt
  have hold := hafter.clients c client (Nat.lt_of_not_le hlt) hclient
  have hnew := hafter.task task hj' hurl _ hpool
  omega

/-- A reset is about to take the pool out of the table while a request is under way. -/
def resetting : State where
  table := [("https://dns.example", 0)]
  pools := [⟨"https://dns.example", [0], 0⟩]
  clients := [⟨"https://dns.example", 0, true, 63⟩]
  tasks := [⟨"https://dns.example", .holding 0 0⟩, ⟨"https://dns.example", .reset⟩]

/-- The next request has another connection made for it. -/
theorem reset_forgotten_connecting : ∃ s₁ s',
    Run pooling Always (connecting 0 ++ [.begin "https://dns.example" .reset, .run 1 false]) s₁ ∧
    pooling.exec Always s₁ (.run 1 false :: connecting 2) = some s' ∧
    s'.tasks[0]? = some ⟨"https://dns.example", .holding 0 0⟩ ∧
    s'.tasks[2]? = some ⟨"https://dns.example", .holding 1 1⟩ ∧ s₁.clients.length ≤ 1 := by
  have h : Run pooling Always (connecting 0 ++ [.begin "https://dns.example" .reset]) resetting :=
    run_of_exec (by decide +kernel)
  have hreset : pooling.step resetting (.run 1 false) = some
      { resetting with
        table := []
        tasks := [⟨"https://dns.example", .holding 0 0⟩, ⟨"https://dns.example", .drain 0⟩] } := rfl
  have hexec : ∀ s₁, pooling.step resetting (.run 1 false) = some s₁ →
      (pooling.exec Always s₁ (.run 1 false :: connecting 2)).map (·.tasks) =
        some [⟨"https://dns.example", .holding 0 0⟩, ⟨"https://dns.example", .ended⟩,
          ⟨"https://dns.example", .holding 1 1⟩] := by
    intro s₁ hs₁
    rw [← Option.some.inj (hreset.symm.trans hs₁)]
    decide +kernel
  obtain ⟨s', hs', htasks⟩ := Option.map_eq_some_iff.mp (hexec _ hreset)
  have hjs : s'.tasks[2]? = some ⟨"https://dns.example", .holding 1 1⟩ := by rw [htasks]; rfl
  refine ⟨_, s', h.step trivial hreset, hs', by rw [htasks]; rfl, hjs, ?_⟩
  exact reset_forgotten h rfl hreset (j := 2) (fun task hj => nomatch hj) hs' hjs rfl (.inr rfl)

end

end DohProxy.Upstream.H3Pool

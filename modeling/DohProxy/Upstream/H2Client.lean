import DohProxy.Lib.Runs
import DohProxy.Net.IpAddr

/-!
# The HTTP/2 client of an upstream server

An upstream server has a client that is built when it is needed, and an address that the client
is to connect to, which a bootstrap resolver found. They are two cells, each with a lock of its
own. A request gets the client first and reads the address afterwards, and takes the authority of
the upstream server, which the system resolver would look up, where there is none.

Requests, builds and resets go on at once. What they do between two steps on the cells is in
`Task`, and any of them may take the next step.

## What is proved

`h2Client_sound` — **as long as no reset clears the address while there is a client**, or a
client about to be used, every request connects to an address that a bootstrap resolver found.
`reset_leaves_no_address` — a reset in between makes a request use the system resolver, and all
later ones.
-/

namespace DohProxy.Upstream.H2

open Lib System Net

/-! ### The cells and the tasks -/

/-- An upstream server, with what is configured. -/
structure DohUpstream where
  /-- The host, where it is an address. -/
  hostIp : Option IpAddr
  /-- The port. -/
  port : UInt16
  /-- The authority of its URL. -/
  authority : String
  /-- The bootstrap resolvers. -/
  bootstrapDns : List SocketAddr
  /-- The address to connect from. -/
  localBindAddress : SocketAddr

/-- `use_bootstrap_for_upstream_host`. -/
def DohUpstream.useBootstrap (u : DohUpstream) : Bool := !u.bootstrapDns.isEmpty && u.hostIp.isNone

/-- The address to bind to for a peer of either family. -/
def localBindForPeer : SocketAddr → SocketAddr → Option SocketAddr
  | .v4 ip port, .v4 _ _ => some (.v4 ip port)
  | .v6 ip port flowinfo scopeId, .v6 _ _ _ _ => some (.v6 ip port flowinfo scopeId)
  | .v4 ip port, .v6 _ _ _ _ => if ip = .replicate 4 0 then some
    (.v6 (.replicate 16 0) port 0 0) else none
  | .v6 ip port _ _, .v4 _ _ => if ip = .replicate 16 0 then some
    (.v4 (.replicate 4 0) port) else none

/-- What a request has for the host in its URI. -/
inductive Authority where
  /-- The text of a socket address, from `socket_addr_to_authority`. -/
  | socketAddr (addr : SocketAddr)
  /-- The authority of the upstream server. -/
  | upstream (authority : String)
  deriving DecidableEq

/-- Where a task stands. -/
inductive Task where
  /-- `doh_h2_client` is about to load the client, for a request or not. -/
  | load (post : Bool)
  /-- It found none and looks up the host. -/
  | resolve (post : Bool)
  /-- It is about to write the address. -/
  | setTarget (post : Bool) (addr : SocketAddr)
  /-- It is about to store the client. -/
  | store (post : Bool)
  /-- It is about to load the client again. -/
  | reload (post : Bool)
  /-- A request has its client and is about to read the address. -/
  | readTarget (client : ℕ)
  /-- A request has its URI. -/
  | sent (client : ℕ) (authority : Authority)
  /-- A reset is about to store that there is no client. -/
  | clearClient
  /-- It is about to write that there is no address. -/
  | clearTarget
  /-- The task is over. -/
  | done
  deriving DecidableEq

/-- The cells, and the tasks. A client has the number of the task that built it. -/
structure State where
  /-- `h2_client`. -/
  h2Client : Option ℕ
  /-- `h2_target_addr`. -/
  h2TargetAddr : Option SocketAddr
  /-- The tasks. -/
  tasks : List Task
  deriving DecidableEq

/-- What can happen. -/
inductive Action where
  /-- A request begins. -/
  | post
  /-- A build begins. -/
  | build
  /-- A reset begins. -/
  | reset
  /-- A task takes its next step on a cell. -/
  | run (i : ℕ)
  /-- The bootstrap resolvers have found addresses for a task. -/
  | resolved (i : ℕ) (ips : List IpAddr)
  /-- A task fails, or is given up. -/
  | fail (i : ℕ)

/-- A task goes on. -/
def State.setTask (s : State) (i : ℕ) (t : Task) : State := { s with tasks := s.tasks.set i t }

/-- `doh_h2_client` returns a client. A request goes on to read the address. -/
def Task.returned (post : Bool) (client : ℕ) : Task := if post then .readTarget client else .done

/-- The steps of `doh_h2_client`, `doh_post_h2_once` and `reset_doh_h2_client`. -/
def h2Step (u : DohUpstream) (s : State) : Action → Option State
  | .post => some { s with tasks := s.tasks ++ [.load true] }
  | .build => some { s with tasks := s.tasks ++ [.load false] }
  | .reset => some { s with tasks := s.tasks ++ [.clearClient] }
  | .run i =>
    match s.tasks[i]? with
    | some (.load post) =>
      match s.h2Client with
      | some client => some (s.setTask i (.returned post client))
      | none =>
        if u.useBootstrap then some (s.setTask i (.resolve post))
        else some (s.setTask i (.setTarget post (.new (.v4 (.replicate 4 0)) 0)))
    | some (.setTarget post addr) =>
      some { s.setTask i (.store post) with h2TargetAddr := if u.useBootstrap then some addr else none }
    | some (.store post) => some { s.setTask i (.reload post) with h2Client := some i }
    | some (.reload post) => some (s.setTask i (.returned post (s.h2Client.getD i)))
    | some (.readTarget client) =>
      let connectAuthority := match s.h2TargetAddr with
        | some addr => .socketAddr addr
        | none => .upstream u.authority
      some (s.setTask i (.sent client connectAuthority))
    | some .clearClient => some { s.setTask i .clearTarget with h2Client := none }
    | some .clearTarget => some { s.setTask i .done with h2TargetAddr := none }
    | _ => none
  | .resolved i ips =>
    match s.tasks[i]? with
    | some (.resolve post) =>
      let addrs := ips.map fun ip => SocketAddr.new ip u.port
      match addrs.find? fun addr => (localBindForPeer u.localBindAddress addr).isSome with
      | some addr => some (s.setTask i (.setTarget post addr))
      | none => some (s.setTask i .done)
    | _ => none
  | .fail i =>
    match s.tasks[i]? with
    | some (.resolve _) => some (s.setTask i .done)
    | some (.setTarget _ _) => some (s.setTask i .done)
    | _ => none

/-- The client of an upstream server, before it is needed. -/
def h2Client (u : DohUpstream) : System State Action := ⟨⟨none, none, []⟩, h2Step u⟩

/-! ### What the address is for -/

/-- A build or a reset is going on. -/
def Task.inProgress : Task → Bool
  | .load _ | .resolve _ | .setTarget _ _ | .store _ | .reload _ | .clearClient | .clearTarget =>
    true
  | .readTarget _ | .sent _ _ | .done => false

/-- A bootstrap resolver has found an address. -/
def Resolved (u : DohUpstream) (as : List Action) (addr : SocketAddr) : Prop :=
  ∃ i ips, Action.resolved i ips ∈ as ∧ addr ∈ ips.map fun ip => SocketAddr.new ip u.port

/-- What is to hold after some actions. -/
structure Sound (u : DohUpstream) (as : List Action) (s : State) : Prop where
  /-- With a client there is an address, when no build and no reset is going on. -/
  target : (∀ t ∈ s.tasks, t.inProgress = false) → s.h2Client.isSome → s.h2TargetAddr.isSome
  /-- A request connects to an address that a bootstrap resolver found. -/
  authority : ∀ client authority, .sent client authority ∈ s.tasks →
    ∃ addr, authority = .socketAddr addr ∧ Resolved u as addr

/-- A task has a client that it is about to store, or that a request is about to use. -/
def Task.needsTarget : Task → Bool
  | .store _ | .reload true | .readTarget _ => true
  | _ => false

/-- A reset clears the address only while there is no client, and no client about to be used. -/
def KeepsTarget (s : State) : Action → Prop
  | .run i => s.tasks[i]? = some .clearTarget → s.h2Client = none ∧
    ∀ t ∈ s.tasks, t.needsTarget = false
  | _ => True

instance (s : State) : DecidablePred (KeepsTarget s)
  | .run _ => inferInstanceAs (Decidable (_ → _))
  | .post | .build | .reset | .resolved _ _ | .fail _ => .isTrue trivial

/-! ### The invariant -/

variable {u : DohUpstream} {as as' : List Action} {s s' : State}
    {target target' : Option SocketAddr} {i : ℕ}
  {a : Action}

/-- What holds of a task where it stands. -/
def Task.Ok (u : DohUpstream) (as : List Action) (target : Option SocketAddr) : Task → Prop
  | .setTarget _ addr => Resolved u as addr
  | .sent _ authority => ∃ addr, authority = .socketAddr addr ∧ Resolved u as addr
  | t => t.needsTarget → target.isSome

/-- The invariant. -/
structure Inv (u : DohUpstream) (as : List Action) (s : State) : Prop where
  /-- With a client there is an address. -/
  client : s.h2Client.isSome → s.h2TargetAddr.isSome
  /-- A bootstrap resolver has found it. -/
  target : ∀ addr, s.h2TargetAddr = some addr → Resolved u as addr
  /-- The tasks are in order. -/
  tasks : ∀ t ∈ s.tasks, t.Ok u as s.h2TargetAddr

theorem Resolved.mono {addr : SocketAddr} (h : Resolved u as addr) (hsub : as ⊆ as') :
    Resolved u as' addr := by
  obtain ⟨i, ips, hmem, haddr⟩ := h
  exact ⟨i, ips, hsub hmem, haddr⟩

/-- What holds of a task stays so, as long as an address that it needs is left. -/
theorem Task.Ok.mono {t : Task} (h : t.Ok u as target) (hsub : as ⊆ as')
    (htarget : t.needsTarget → target.isSome → target'.isSome) : t.Ok u as' target' := by
  cases t with
  | setTarget post addr => exact Resolved.mono h hsub
  | sent client authority =>
    obtain ⟨addr, hauthority, haddr⟩ := h
    exact ⟨addr, hauthority, haddr.mono hsub⟩
  | load => exact fun hn => htarget hn (h hn)
  | resolve => exact fun hn => htarget hn (h hn)
  | store => exact fun hn => htarget hn (h hn)
  | reload => exact fun hn => htarget hn (h hn)
  | readTarget => exact fun hn => htarget hn (h hn)
  | clearClient => exact fun hn => htarget hn (h hn)
  | clearTarget => exact fun hn => htarget hn (h hn)
  | done => exact fun hn => htarget hn (h hn)

/-- More has happened. -/
theorem Inv.mono (h : Inv u as s) (hsub : as ⊆ as') : Inv u as' s :=
  ⟨h.client, fun addr haddr => (h.target addr haddr).mono hsub,
    fun t ht => (h.tasks t ht).mono hsub fun _ => id⟩

/-- A task begins. -/
theorem Inv.spawn (h : Inv u as s) {t : Task} (ht : t.Ok u as s.h2TargetAddr) :
    Inv u as { s with tasks := s.tasks ++ [t] } := by
  refine ⟨h.client, h.target, fun t' ht' => ?_⟩
  rcases List.mem_append.mp ht' with ht' | ht'
  · exact h.tasks t' ht'
  · rwa [List.mem_singleton.mp ht']

/-- A task goes on, and changes the cells. -/
theorem Inv.write (h : Inv u as s) {client : Option ℕ} {t : Task}
    (hclient : client.isSome → target.isSome)
    (htarget : ∀ addr, target = some addr → Resolved u as addr)
    (hkeep : ∀ t ∈ s.tasks, t.needsTarget → s.h2TargetAddr.isSome →
      target.isSome) (ht : t.Ok u as target) :
    Inv u as ⟨client, target, s.tasks.set i t⟩ := by
  refine ⟨hclient, htarget, fun t' ht' => ?_⟩
  rcases List.mem_or_eq_of_mem_set ht' with ht' | rfl
  · exact (h.tasks t' ht').mono (List.Subset.refl as) (hkeep t' ht')
  · exact ht

/-- A task goes on, and leaves the cells as they are. -/
theorem Inv.setTask (h : Inv u as s) {t : Task} (ht : t.Ok u as s.h2TargetAddr) :
    Inv u as (s.setTask i t) :=
  h.write h.client h.target (fun _ _ _ => id) ht

/-- A task that gets a client has an address. -/
theorem ok_returned {post : Bool} (ht : post → target.isSome) (client : ℕ) :
    (Task.returned post client).Ok u as target := by
  cases post with
  | true => exact fun _ => ht rfl
  | false => exact fun hn => absurd hn Bool.false_ne_true

theorem inv_init (u : DohUpstream) : Inv u [] (h2Client u).init :=
  ⟨fun h => h, fun _ h => (by cases h), fun _ h => absurd h List.not_mem_nil⟩

/-- **A task's next step** keeps the invariant. -/
theorem Inv.run (hboot : u.useBootstrap = true) (h : Inv u as s) (hcond : KeepsTarget s (.run i))
    (hstep : h2Step u s (.run i) = some s') : Inv u as s' := by
  simp only [h2Step] at hstep
  split at hstep
  · next post ht =>
    cases hclient : s.h2Client with
    | some client =>
      rw [hclient] at hstep
      rw [← Option.some.inj hstep]
      exact h.setTask (ok_returned (fun _ => h.client (by rw [hclient]; rfl)) client)
    | none =>
      rw [hclient] at hstep
      dsimp only at hstep
      rw [if_pos hboot] at hstep
      rw [← Option.some.inj hstep]
      exact h.setTask fun hn => absurd hn Bool.false_ne_true
  · next post addr ht =>
    have haddr : Resolved u as addr := h.tasks _ (List.mem_of_getElem? ht)
    rw [if_pos hboot] at hstep
    rw [← Option.some.inj hstep]
    refine h.write (fun _ => rfl) (fun addr' heq => ?_) (fun _ _ _ _ => rfl) fun _ => rfl
    rwa [← Option.some.inj heq]
  · next post ht =>
    have htarget : s.h2TargetAddr.isSome := h.tasks _ (List.mem_of_getElem? ht) rfl
    rw [← Option.some.inj hstep]
    exact h.write (fun _ => htarget) h.target (fun _ _ _ => id) fun _ => htarget
  · next post ht =>
    have htask := h.tasks _ (List.mem_of_getElem? ht)
    rw [← Option.some.inj hstep]
    refine h.setTask (ok_returned ?_ _)
    rintro rfl
    exact htask rfl
  · next client ht =>
    obtain ⟨addr, haddr⟩ := Option.isSome_iff_exists.mp (h.tasks _ (List.mem_of_getElem? ht) rfl)
    rw [← Option.some.inj hstep, haddr]
    exact h.setTask ⟨addr, rfl, h.target addr haddr⟩
  · next ht =>
    rw [← Option.some.inj hstep]
    exact h.write (fun hc => absurd hc Bool.false_ne_true) h.target (fun _ _ _ => id)
      fun hn => absurd hn Bool.false_ne_true
  · next ht =>
    -- the one step that takes an address away
    obtain ⟨hclient, hneeds⟩ := hcond ht
    rw [← Option.some.inj hstep]
    refine h.write (fun hc => ?_) (fun _ heq => by cases heq) (fun t ht' hn => ?_)
      fun hn => absurd hn Bool.false_ne_true
    · exact absurd hc (by simp [State.setTask, hclient])
    · exact absurd hn (by simp [hneeds t ht'])
  · cases hstep

/-- **Every step** keeps the invariant. -/
theorem Inv.step (hboot : u.useBootstrap = true) (h : Inv u as s) (hcond : KeepsTarget s a)
    (hstep : h2Step u s a = some s') : Inv u (as ++ [a]) s' := by
  have hsub : as ⊆ as ++ [a] := List.subset_append_left as [a]
  have h' := h.mono hsub
  cases a with
  | post =>
    rw [← Option.some.inj hstep]
    exact h'.spawn fun hn => absurd hn Bool.false_ne_true
  | build =>
    rw [← Option.some.inj hstep]
    exact h'.spawn fun hn => absurd hn Bool.false_ne_true
  | reset =>
    rw [← Option.some.inj hstep]
    exact h'.spawn fun hn => absurd hn Bool.false_ne_true
  | run i => exact (h.run hboot hcond hstep).mono hsub
  | resolved i ips =>
    simp only [h2Step] at hstep
    split at hstep
    · split at hstep
      · next addr haddr =>
        rw [← Option.some.inj hstep]
        exact h'.setTask ⟨i, ips, by simp, List.mem_of_find?_eq_some haddr⟩
      · rw [← Option.some.inj hstep]
        exact h'.setTask fun hn => absurd hn Bool.false_ne_true
    · cases hstep
  | fail i =>
    simp only [h2Step] at hstep
    split at hstep
    · rw [← Option.some.inj hstep]
      exact h'.setTask fun hn => absurd hn Bool.false_ne_true
    · rw [← Option.some.inj hstep]
      exact h'.setTask fun hn => absurd hn Bool.false_ne_true
    · cases hstep

/-- **Requests connect where a bootstrap resolver found the upstream server**, in every run of any
number of requests, builds and resets, as long as a reset clears the address only while there is no
client and none about to be used. -/
theorem h2Client_sound (u : DohUpstream) (hboot : u.useBootstrap = true)
    (as : List Action) (s : State)
    (h : Run (h2Client u) KeepsTarget as s) : Sound u as s := by
  have hinv : Inv u as s := h.invariant (inv_init u) fun as s a s' hI hc hs =>
    Inv.step hboot hI hc hs
  exact ⟨fun _ => hinv.client, fun client authority hsent => hinv.tasks _ hsent⟩

/-- An upstream server that a bootstrap resolver knows. -/
def dnsExample : DohUpstream where
  hostIp := none
  port := 443
  authority := "dns.example"
  bootstrapDns := [.v4 #v[149, 112, 112, 112] 53]
  localBindAddress := .v4 #v[0, 0, 0, 0] 0

/-- A request that builds the client. -/
def buildFirst : List Action :=
  [.post, .run 0, .resolved 0 [.v4 #v[192, 0, 2, 1]], .run 0, .run 0, .run 0]

/-- A request and a reset, one after the other. -/
theorem h2Client_sound_in_turn :
    ∃ s, Sound dnsExample (buildFirst ++ [.run 0, .reset, .run 1, .run 1]) s ∧
      s.tasks[0]? = some (.sent 0 (.socketAddr (.v4 #v[192, 0, 2, 1] 443))) := by
  have hrun : (((h2Client dnsExample).exec KeepsTarget (h2Client dnsExample).init
      (buildFirst ++ [.run 0, .reset, .run 1, .run 1])).bind fun s => s.tasks[0]?) =
        some (.sent 0 (.socketAddr (.v4 #v[192, 0, 2, 1] 443))) := by
    decide +kernel
  obtain ⟨s, hs, htask⟩ := Option.bind_eq_some_iff.mp hrun
  exact ⟨s, h2Client_sound dnsExample rfl _ s (run_of_exec hs), htask⟩

/-- A reset in the middle of the build. -/
def resetBetween : List Action :=
  [.post, .run 0, .resolved 0 [.v4 #v[192, 0, 2, 1]], .run 0, .reset, .run 1, .run 1, .run 0,
    .run 0, .run 0]

/-- **A reset in between takes the address away**: it clears it after the build that wrote it and
before that build stores its client. The client stays, with no address, and this request and the next
one are sent to where the system resolver finds the upstream server. -/
theorem reset_leaves_no_address :
    ∃ s, Run (h2Client dnsExample) Always (resetBetween ++ [.post, .run 2, .run 2]) s ∧
      s = ⟨some 0, none, [.sent 0 (.upstream "dns.example"), .done,
        .sent 0 (.upstream "dns.example")]⟩ ∧
      ¬ Sound dnsExample (resetBetween ++ [.post, .run 2, .run 2]) s := by
  refine ⟨_, run_of_exec (by decide +kernel), rfl, fun h => ?_⟩
  exact absurd (h.target (by decide) rfl) (by decide)

end DohProxy.Upstream.H2

import DohProxy.Errors
import DohProxy.Lib.Runs
import Mathlib.Algebra.Ring.Nat

/-!
# Restarting the listeners of HTTP/3

The listeners of HTTP/3 are started by `start_http3`, which binds them again when the certificates
have changed. When it gives up, `run_http3_supervisor` starts it again a little later. Both are in
`lib.rs`.

## The model

A step is what happens when one of the futures that are awaited is ready: a certificate has changed,
an address has been bound or not, the loop that accepts connections over a socket has ended, the
proxy is about to stop. Any of them may be first. The stop is sent by another task, which runs at the
same time: it can come between the look at it and the start of `start_http3`, so these are two steps.
The loops of the sockets that are bound together are a generation; they end when they are told to, or
by themselves. The supervisor is run where the paths of both files are known, and the waiting itself
is left out.

## What is proved

* `one_generation` — **in every run**, at most one generation of listeners has not been told to end,
  and a call of `start_http3` binds its addresses again only when all of its listeners have ended.
* `restart_delays` — the waits before a restart: they double from half a second to half a minute,
  and never become shorter again.
* `stopped_for_good` — once the stop is sent, `start_http3` is not started again, but for one time if
  the supervisor has just looked; and the supervisor can always go on to its end.
-/

namespace DohProxy.Server.Supervisor

open Lib System

/-- `H3_SUPERVISOR_RESTART_DELAY_MS`. -/
abbrev h3SupervisorRestartDelayMs : ℕ := 500

/-- `H3_SUPERVISOR_RESTART_DELAY_MAX_MS`. -/
abbrev h3SupervisorRestartDelayMaxMs : ℕ := 30000

/-- The loop that accepts connections over a socket. -/
inductive Accepting where
  /-- It goes on. -/
  | running
  /-- It has ended. -/
  | ended
  /-- It has panicked. -/
  | panicked
  deriving DecidableEq

/-- The loops of the sockets that have been bound together. -/
structure Generation where
  /-- The loops. -/
  handles : List Accepting
  /-- Whether they have been told to end. -/
  told : Bool
  deriving DecidableEq

/-- Where `start_http3` is. -/
inductive Http3 where
  /-- It is about to look at the certificates. -/
  | validate
  /-- They are not valid, and it waits for others. -/
  | invalid
  /-- It is about to bind the addresses. -/
  | bind
  /-- They are in use, and it waits for other certificates. -/
  | conflict (err : IoError)
  /-- It waits for other certificates, or for its listeners to end. -/
  | listening
  /-- The listeners have been told to end. -/
  | draining
  /-- It waits for the listeners only. -/
  | closing
  deriving DecidableEq

/-- Where the supervisor is. -/
inductive Phase where
  /-- It is about to look whether it has to stop. -/
  | check
  /-- It has looked, and is about to have the certificates watched and to start `start_http3`. -/
  | starting
  /-- It waits for the certificates to be watched. -/
  | unwatched
  /-- `start_http3` is running, there were so many generations before, and an address has been bound
  or not. -/
  | running (http3 : Http3) (base : ℕ) (hadSuccessfulBind : Bool)
  /-- It waits before a restart. -/
  | sleeping
  /-- It has stopped. -/
  | over
  deriving DecidableEq

/-- The supervisor and the listeners. -/
structure State where
  /-- The supervisor. -/
  supervisor : Phase
  /-- `restart_delay_ms`. -/
  restartDelayMs : ℕ
  /-- Whether it has to stop. -/
  stopped : Bool
  /-- How many changes of the certificates have not been looked at. -/
  reloads : ℕ
  /-- Whether the certificates are watched. -/
  watched : Bool
  /-- All generations. -/
  generations : List Generation
  /-- How often `start_http3` has been started. -/
  started : ℕ
  /-- The errors it has returned, with the delay of the restart. -/
  exits : List (DoHError × ℕ)
  deriving DecidableEq

/-- What an await of the supervisor or of `start_http3` brings. -/
inductive Event where
  /-- `has_changed` says whether it has to stop. -/
  | look
  /-- The certificates are watched from now on, or not. -/
  | watch (spawned : Bool)
  /-- It is time to stop. -/
  | stop
  /-- The time to wait is over. -/
  | wake
  /-- The certificates are valid or not. -/
  | validate (valid : Bool)
  /-- The addresses have been bound or not, and the sockets can be listened to or not. -/
  | bind (results : List (Except IoError Unit)) (listens : Bool)
  /-- The certificates have changed and are valid or not. -/
  | reload (valid : Bool)
  /-- The certificates are watched no more. -/
  | closed
  /-- The listeners have ended. -/
  | joined
  deriving DecidableEq

/-- What happens. -/
inductive Action where
  /-- The proxy is about to stop. -/
  | stop
  /-- The certificates have changed. -/
  | changed
  /-- They cannot be watched any more. -/
  | unwatch
  /-- A loop ends. -/
  | accept (generation handle : ℕ) (panicked : Bool)
  /-- The supervisor goes on. -/
  | event (e : Event)
  deriving DecidableEq

/-- The loops of a generation end when they are told to. -/
def Generation.tell (generation : Generation) : Generation := { generation with told := true }

/-- A loop ends. -/
def Generation.finish (handle : ℕ) (panicked : Bool) (generation : Generation) : Generation :=
  { generation with
    handles := generation.handles.modify handle fun
      | .running => if panicked then .panicked else .ended
      | accepting => accepting }

/-- What waiting for the loops in their order brings, when it is over. -/
def join : List Accepting → Option Bool
  | [] => some true
  | .ended :: handles => join handles
  | .panicked :: _ => some false
  | .running :: _ => none

/-- The error when no address has been bound. -/
def noAddress (results : List (Except IoError Unit)) : IoError :=
  let errors : List IoError := results.filterMap fun
    | .ok () => none
    | .error err => some err
  errors.getLast?.getD ⟨.addrNotAvailable, "No available HTTP/3 listen addresses"⟩

/-- All listeners there are lose the end of their channel. -/
def State.drop (s : State) : State :=
  { s with watched := false, generations := s.generations.map .tell }

/-- The supervisor goes on. -/
def State.goto (s : State) (supervisor : Phase) : State := { s with supervisor }

/-- `start_http3` has returned an error. -/
def State.exit (s : State) (err : DoHError) : State :=
  { s.drop with supervisor := .sleeping, exits := s.exits ++ [(err, s.restartDelayMs)] }

/-- What `start_http3` does when something it waits for has come. -/
def State.http3 (s : State) (addresses base : ℕ) (had : Bool) : Http3 → Event → Option State
  | .validate, .validate valid =>
    some (s.goto (.running (if valid then .bind else .invalid) base had))
  | .invalid, .reload _ =>
    if 0 < s.reloads then
      some ({ s with reloads := s.reloads - 1 }.goto (.running .validate base had))
    else none
  | .invalid, .closed =>
    if s.reloads = 0 ∧ !s.watched then some (s.exit .upstreamIssue) else none
  | .bind, .bind results listens =>
    if results.length ≠ addresses then none
    else
      let sockets := results.countP (·.isOk)
      if sockets = 0 then
        let err := noAddress results
        if had ∧ err.kind = .addrInUse then some (s.goto (.running (.conflict err) base had))
        else some (s.exit (.io err.text))
      else if listens then
        let generation : Generation := ⟨List.replicate sockets .running, false⟩
        some ({ s with generations := s.generations ++ [generation] }.goto
          (.running .listening base true))
      else some (s.exit .upstreamIssue)
  | .conflict _, .reload _ =>
    if 0 < s.reloads then some ({ s with reloads := 0 }.goto (.running .validate base had))
    else none
  | .conflict err, .closed =>
    if s.reloads = 0 ∧ !s.watched then some (s.exit (.io err.text)) else none
  | .listening, .reload valid =>
    if 0 < s.reloads then
      let s := { s with reloads := 0 }
      if valid then
        let last := s.generations.length - 1
        some ({ s with generations := s.generations.modify last .tell }.goto
          (.running .draining base had))
      else some (s.goto (.running .listening base had))
    else none
  | .listening, .closed =>
    if s.reloads = 0 ∧ !s.watched then some (s.goto (.running .closing base had)) else none
  | .listening, .joined | .closing, .joined => do
    let generation ← s.generations.getLast?
    let _ ← join generation.handles
    some (s.exit .upstreamIssue)
  | .draining, .joined => do
    let generation ← s.generations.getLast?
    let ok ← join generation.handles
    if ok then some (s.goto (.running .validate base had)) else some (s.exit .upstreamIssue)
  | _, _ => none

/-- What the supervisor does. -/
def State.event (s : State) (addresses : ℕ) : Event → Option State
  | .look =>
    match s.supervisor with
    | .check => some (if s.stopped then s.drop.goto .over else s.goto .starting)
    | _ => none
  | .watch spawned =>
    match s.supervisor with
    | .starting =>
      if spawned then
        some ({ s with reloads := 0, watched := true, started := s.started + 1 }.goto
          (.running .validate s.generations.length false))
      else some (s.goto .unwatched)
    | _ => none
  | .stop =>
    match s.supervisor with
    | .unwatched | .running _ _ _ | .sleeping =>
      if s.stopped then some (s.drop.goto .over) else none
    | _ => none
  | .wake =>
    match s.supervisor with
    | .unwatched => some (s.goto .check)
    | .sleeping => some
        ({ s with
          restartDelayMs := min (s.restartDelayMs * 2) h3SupervisorRestartDelayMaxMs }.goto .check)
    | _ => none
  | e =>
    match s.supervisor with
    | .running http3 base had => s.http3 addresses base had http3 e
    | _ => none

/-- The supervisor of listeners for so many addresses. -/
def supervising (addresses : ℕ) : System State Action where
  init := ⟨.check, h3SupervisorRestartDelayMs, false, 0, false, [], 0, []⟩
  step s
    | .stop => some { s with stopped := true }
    | .changed => if s.watched then some { s with reloads := s.reloads + 1 } else none
    | .unwatch => some { s with watched := false }
    | .accept generation handle panicked =>
      some { s with generations := s.generations.modify generation (.finish handle panicked) }
    | .event e => s.event addresses e

/-! ### What a step keeps -/

section

variable {s s' : State} {addresses base : ℕ} {had : Bool} {http3 : Http3} {generation : Generation}

/-- Whether `start_http3` has listeners that it has not told to end. -/
def Http3.Listens : Http3 → Prop
  | .listening | .closing => True
  | _ => False

/-- Whether it has listeners. -/
def Http3.Bound : Http3 → Prop
  | .listening | .draining | .closing => True
  | _ => False

/-- Whether all loops of a generation have ended. -/
def Generation.Ended (generation : Generation) : Prop := ∀ a ∈ generation.handles, a = .ended

/-- What is known of the generations. -/
structure Inv (s : State) : Prop where
  /-- All of them have been told to end, but the last one when it is listened to. -/
  told : ∀ (i : ℕ) generation, s.generations[i]? = some generation → generation.told = true ∨
    i + 1 = s.generations.length ∧
      ∃ http3 base had, s.supervisor = .running http3 base had ∧ http3.Listens
  /-- Those of the call have ended, but the last one when there are listeners. -/
  ended : ∀ http3 base had, s.supervisor = .running http3 base had →
    ∀ (i : ℕ) generation, base ≤ i → s.generations[i]? = some generation →
      generation.Ended ∨ i + 1 = s.generations.length ∧ http3.Bound

/-- The delay of a restart, after so many of them. -/
def delayAfter (k : ℕ) : ℕ := min (h3SupervisorRestartDelayMs * 2 ^ k) h3SupervisorRestartDelayMaxMs

theorem delayAfter_succ (k : ℕ) :
    min (delayAfter k * 2) h3SupervisorRestartDelayMaxMs = delayAfter (k + 1) := by
  rw [delayAfter, delayAfter, Nat.pow_succ, ← Nat.mul_assoc]
  omega

/-- What is known of the delays. -/
structure Delays (s : State) : Prop where
  /-- The delay of the next restart. -/
  awake : s.supervisor ≠ .sleeping → s.supervisor ≠ .over →
    s.restartDelayMs = delayAfter s.exits.length
  /-- The delay of this one. -/
  sleeping : s.supervisor = .sleeping →
    s.exits ≠ [] ∧ s.restartDelayMs = delayAfter (s.exits.length - 1)
  /-- The delays so far. -/
  exits : ∀ (k : ℕ) err delay, s.exits[k]? = some (err, delay) → delay = delayAfter k

/-- **What a step of `start_http3` does.** -/
inductive Http3Step (s : State) (base : ℕ) (had : Bool) : Http3 → State → Prop where
  /-- There are no listeners before and none after it. -/
  | idle {http3 http3' : Http3} (reloads : ℕ) (h : ¬ http3.Bound) (h' : ¬ http3'.Bound) :
    Http3Step s base had http3 ({ s with reloads }.goto (.running http3' base had))
  /-- It returns an error. -/
  | exit {http3 : Http3} (err : DoHError) : Http3Step s base had http3 (s.exit err)
  /-- There are listeners. -/
  | bound (generation : Generation) :
    Http3Step s base had .bind ({ s with generations := s.generations ++ [generation] }.goto
      (.running .listening base true))
  /-- There still are. -/
  | listens {http3' : Http3} (reloads : ℕ) (h' : http3'.Listens) :
    Http3Step s base had .listening ({ s with reloads }.goto (.running http3' base had))
  /-- They are told to end. -/
  | told : Http3Step s base had .listening
    ({ s with
      reloads := 0
      generations := s.generations.modify (s.generations.length - 1) .tell }.goto
        (.running .draining base had))
  /-- They have ended. -/
  | drained {generation : Generation} (hlast : s.generations.getLast? = some generation)
    (hjoin : join generation.handles = some true) :
    Http3Step s base had .draining (s.goto (.running .validate base had))

theorem http3Step_of_http3 {e : Event} (hs : s.http3 addresses base had http3 e = some s') :
    Http3Step s base had http3 s' := by
  unfold State.http3 at hs
  split at hs
  · next valid =>
    obtain rfl := Option.some.inj hs
    exact .idle s.reloads id (by cases valid <;> exact id)
  · split at hs
    · obtain rfl := Option.some.inj hs
      exact .idle _ id id
    · cases hs
  · split at hs
    · obtain rfl := Option.some.inj hs
      exact .exit _
    · cases hs
  · split at hs
    · cases hs
    · dsimp only at hs
      split at hs
      · split at hs
        · obtain rfl := Option.some.inj hs
          exact .idle s.reloads id id
        · obtain rfl := Option.some.inj hs
          exact .exit _
      · split at hs
        · obtain rfl := Option.some.inj hs
          exact .bound _
        · obtain rfl := Option.some.inj hs
          exact .exit _
  · split at hs
    · obtain rfl := Option.some.inj hs
      exact .idle _ id id
    · cases hs
  · split at hs
    · obtain rfl := Option.some.inj hs
      exact .exit _
    · cases hs
  · split at hs
    · dsimp only at hs
      split at hs
      · obtain rfl := Option.some.inj hs
        exact .told
      · obtain rfl := Option.some.inj hs
        exact .listens _ trivial
    · cases hs
  · split at hs
    · obtain rfl := Option.some.inj hs
      exact .listens s.reloads trivial
    · cases hs
  · simp only [Option.bind_eq_bind, Option.bind_eq_some_iff] at hs
    obtain ⟨generation, -, -, -, hs⟩ := hs
    obtain rfl := Option.some.inj hs
    exact .exit _
  · simp only [Option.bind_eq_bind, Option.bind_eq_some_iff] at hs
    obtain ⟨generation, -, -, -, hs⟩ := hs
    obtain rfl := Option.some.inj hs
    exact .exit _
  · simp only [Option.bind_eq_bind, Option.bind_eq_some_iff] at hs
    obtain ⟨generation, hlast, ok, hjoin, hs⟩ := hs
    split at hs
    · next hok =>
      obtain rfl := Option.some.inj hs
      rw [hok] at hjoin
      exact .drained hlast hjoin
    · obtain rfl := Option.some.inj hs
      exact .exit _
  · cases hs

/-- **What a step of the supervisor does.** -/
inductive SupervisorStep (s : State) : State → Prop where
  /-- It stops. -/
  | stop (h : s.stopped = true) : SupervisorStep s (s.drop.goto .over)
  /-- It does not have to stop. -/
  | clear (h : s.supervisor = .check) (hstopped : s.stopped = false) :
    SupervisorStep s (s.goto .starting)
  /-- It starts `start_http3`. -/
  | start (h : s.supervisor = .starting) :
    SupervisorStep s ({ s with reloads := 0, watched := true, started := s.started + 1 }.goto
      (.running .validate s.generations.length false))
  /-- The certificates cannot be watched. -/
  | unwatched (h : s.supervisor = .starting) : SupervisorStep s (s.goto .unwatched)
  /-- It tries again. -/
  | again (h : s.supervisor = .unwatched) : SupervisorStep s (s.goto .check)
  /-- It restarts. -/
  | wake (h : s.supervisor = .sleeping) : SupervisorStep s
    ({ s with
      restartDelayMs := min (s.restartDelayMs * 2) h3SupervisorRestartDelayMaxMs }.goto .check)
  /-- `start_http3` goes on. -/
  | http3 {http3 : Http3} {base : ℕ} {had : Bool} {s' : State}
    (h : s.supervisor = .running http3 base had) (hstep : Http3Step s base had http3 s') :
    SupervisorStep s s'

theorem supervisorStep_of_event {e : Event} (hs : s.event addresses e = some s') :
    SupervisorStep s s' := by
  unfold State.event at hs
  split at hs
  · split at hs
    · next hphase =>
      obtain rfl := Option.some.inj hs
      split
      · next hstopped => exact .stop hstopped
      · next hstopped => exact .clear hphase (Bool.eq_false_iff.mpr hstopped)
    · cases hs
  · split at hs
    · next hphase =>
      split at hs
      · obtain rfl := Option.some.inj hs
        exact .start hphase
      · obtain rfl := Option.some.inj hs
        exact .unwatched hphase
    · cases hs
  · have hstop : (if s.stopped = true then some (s.drop.goto .over) else none) = some s' →
        SupervisorStep s s' := by
      intro h
      split at h
      · next hstopped =>
        obtain rfl := Option.some.inj h
        exact .stop hstopped
      · cases h
    split at hs
    · exact hstop hs
    · exact hstop hs
    · exact hstop hs
    · cases hs
  · split at hs
    · next hphase =>
      obtain rfl := Option.some.inj hs
      exact .again hphase
    · next hphase =>
      obtain rfl := Option.some.inj hs
      exact .wake hphase
    · cases hs
  · split at hs
    · next hphase => exact .http3 hphase (http3Step_of_http3 hs)
    · cases hs

/-! ### One generation -/

theorem Http3.Listens.bound (h : http3.Listens) : http3.Bound := by
  cases http3 <;> trivial

theorem ended_of_join {handles : List Accepting} (h : join handles = some true) :
    ∀ a ∈ handles, a = .ended := by
  induction handles with
  | nil => exact nofun
  | cons a handles ih =>
    cases a with
    | ended =>
      intro b hb
      rcases List.mem_cons.mp hb with rfl | hb
      · rfl
      · exact ih h b hb
    | running | panicked => cases h

theorem Generation.Ended.finish (h : generation.Ended) (handle : ℕ) (panicked : Bool) :
    (generation.finish handle panicked).Ended := by
  intro a ha
  obtain ⟨j, hj⟩ := List.getElem?_of_mem ha
  rw [Generation.finish, List.getElem?_modify] at hj
  obtain ⟨a', ha', rfl⟩ := Option.map_eq_some_iff.mp hj
  rw [h a' (List.mem_of_getElem? ha')]
  split <;> rfl

/-- The generations and the supervisor are all that counts. -/
theorem Inv.congr (h : Inv s) (hsupervisor : s'.supervisor = s.supervisor)
    (hgenerations : s'.generations = s.generations) : Inv s' := by
  obtain ⟨htold, hended⟩ := h
  constructor
  · rwa [hgenerations, hsupervisor]
  · rwa [hgenerations, hsupervisor]

/-- All have been told to end. -/
theorem Inv.all_told (h : Inv s)
    (hlistens : ∀ http3 base had, s.supervisor = .running http3 base had → ¬ http3.Listens) (i : ℕ)
    (generation : Generation) (hi : s.generations[i]? = some generation) :
    generation.told = true := by
  rcases h.told i generation hi with htold | ⟨-, http3, base, had, hrun, hhttp3⟩
  · exact htold
  · exact absurd hhttp3 (hlistens http3 base had hrun)

/-- Nothing is running, and all have been told to end. -/
theorem Inv.of_all_told (htold : ∀ (i : ℕ) generation, s.generations[i]? = some generation →
      generation.told = true) (hrun : ∀ http3 base had, s.supervisor ≠ .running http3 base had) :
    Inv s :=
  ⟨fun i generation hi => .inl (htold i generation hi),
    fun http3 base had h => absurd h (hrun http3 base had)⟩

theorem told_of_drop (i : ℕ) (generation : Generation)
    (hi : s.drop.generations[i]? = some generation) : generation.told = true := by
  rw [State.drop, List.getElem?_map] at hi
  obtain ⟨generation', -, rfl⟩ := Option.map_eq_some_iff.mp hi
  rfl

theorem Inv.http3Step (h : Inv s) (hrun : s.supervisor = .running http3 base had)
    (hs : Http3Step s base had http3 s') : Inv s' := by
  -- while nothing is listened to, all have been told to end, and those of the call have ended
  have htold : ¬ http3.Listens → ∀ (i : ℕ) generation, s.generations[i]? = some generation →
      generation.told = true := by
    refine fun hhttp3 => h.all_told fun http3' base' had' hrun' => ?_
    rw [hrun] at hrun'
    cases hrun'
    exact hhttp3
  have hended : ¬ http3.Bound → ∀ (i : ℕ) generation, base ≤ i →
      s.generations[i]? = some generation → generation.Ended := by
    intro hhttp3 i generation hbase hi
    rcases h.ended http3 base had hrun i generation hbase hi with hended | ⟨-, hbound⟩
    · exact hended
    · exact absurd hbound hhttp3
  cases hs with
  | idle reloads hbound hbound' =>
    refine ⟨fun i generation hi => .inl (htold (fun hl => hbound hl.bound) i generation hi),
      fun _ _ _ hrun' i generation hbase hi => .inl ?_⟩
    cases hrun'
    exact hended hbound i generation hbase hi
  | exit err => exact .of_all_told told_of_drop fun _ _ _ hrun' => nomatch hrun'
  | bound generation =>
    have hnew : ∀ {i : ℕ} {generation' : Generation},
        (s.generations ++ [generation])[i]? = some generation' →
        s.generations[i]? = some generation' ∨ i + 1 = (s.generations ++ [generation]).length := by
      intro i generation' hi
      rcases Nat.lt_or_ge i s.generations.length with hlt | hge
      · exact .inl ((List.getElem?_append_left hlt).symm.trans hi)
      · have hlen := (List.getElem?_eq_some_iff.mp hi).1
        rw [List.length_append, List.length_singleton] at hlen ⊢
        exact .inr (by omega)
    refine ⟨fun i generation' hi => ?_, fun _ _ _ hrun' i generation' hbase hi => ?_⟩
    · rcases hnew hi with hi | hi
      · exact .inl (htold id i generation' hi)
      · exact .inr ⟨hi, .listening, base, true, rfl, trivial⟩
    · cases hrun'
      rcases hnew hi with hi | hi
      · exact .inl (hended id i generation' hbase hi)
      · exact .inr ⟨hi, trivial⟩
  | listens reloads hlistens =>
    refine ⟨fun i generation hi => ?_, fun _ _ _ hrun' i generation hbase hi => ?_⟩
    · rcases h.told i generation hi with htold | ⟨hlast, -⟩
      · exact .inl htold
      · exact .inr ⟨hlast, _, base, had, rfl, hlistens⟩
    · cases hrun'
      rcases h.ended _ base had hrun i generation hbase hi with hended | ⟨hlast, -⟩
      · exact .inl hended
      · exact .inr ⟨hlast, hlistens.bound⟩
  | told =>
    refine ⟨fun i generation hi => .inl ?_, fun _ _ _ hrun' i generation hbase hi => ?_⟩
    · change (s.generations.modify _ _)[i]? = _ at hi
      rw [List.getElem?_modify] at hi
      obtain ⟨generation', hi', rfl⟩ := Option.map_eq_some_iff.mp hi
      split
      · rfl
      · next hne =>
        rcases h.told i generation' hi' with htold | ⟨hlast, -⟩
        · exact htold
        · exact absurd (by omega) hne
    · cases hrun'
      change (s.generations.modify _ _)[i]? = _ at hi
      change _ ∨ i + 1 = (s.generations.modify _ _).length ∧ _
      rw [List.length_modify]
      rw [List.getElem?_modify] at hi
      obtain ⟨generation', hi', rfl⟩ := Option.map_eq_some_iff.mp hi
      rcases h.ended _ base had hrun i generation' hbase hi' with hended | ⟨hlast, -⟩
      · exact .inl (by split <;> exact hended)
      · exact .inr ⟨hlast, trivial⟩
  | drained hlast hjoin =>
    refine ⟨fun i generation hi => .inl (htold id i generation hi),
      fun _ _ _ hrun' i generation hbase hi => .inl ?_⟩
    cases hrun'
    rcases h.ended _ base had hrun i generation hbase hi with hended | ⟨hi', -⟩
    · exact hended
    · -- the loops of the last generation have been waited for
      rw [List.getLast?_eq_getElem?, show s.generations.length - 1 = i by omega] at hlast
      obtain rfl := Option.some.inj (hlast.symm.trans hi)
      exact ended_of_join hjoin

/-- What the supervisor does keeps the invariant. -/
theorem Inv.supervisorStep (h : Inv s) (hs : SupervisorStep s s') : Inv s' := by
  have htold : ∀ {phase : Phase}, s.supervisor = phase →
      (∀ http3 base had, phase ≠ .running http3 base had) → ∀ (i : ℕ) generation,
      s.generations[i]? = some generation → generation.told = true :=
    fun hphase hne => h.all_told fun http3 base had hrun =>
      absurd (hphase.symm.trans hrun) (hne http3 base had)
  cases hs with
  | stop => exact .of_all_told told_of_drop fun _ _ _ hrun => nomatch hrun
  | start hphase =>
    have hall := htold hphase nofun
    refine ⟨fun i generation hi => .inl (hall i generation hi),
      fun _ _ _ hrun i generation hbase hi => ?_⟩
    cases hrun
    have := (List.getElem?_eq_some_iff.mp hi).1
    dsimp only [State.goto] at this
    omega
  | clear hphase | unwatched hphase | again hphase | wake hphase =>
    exact .of_all_told (htold hphase nofun) fun _ _ _ hrun => nomatch hrun
  | http3 hphase hstep => exact h.http3Step hphase hstep

theorem Inv.step {a : Action} (h : Inv s) (hs : (supervising addresses).step s a = some s') :
    Inv s' := by
  cases a with
  | stop | unwatch =>
    obtain rfl := Option.some.inj hs
    exact h.congr rfl rfl
  | changed =>
    simp only [supervising] at hs
    split at hs
    · obtain rfl := Option.some.inj hs
      exact h.congr rfl rfl
    · cases hs
  | accept k handle panicked =>
    obtain rfl := Option.some.inj hs
    have hget : ∀ {i : ℕ} {generation' : Generation},
        (s.generations.modify k (.finish handle panicked))[i]? = some generation' →
        ∃ generation, s.generations[i]? = some generation ∧
          (generation.told = true → generation'.told = true) ∧
          (generation.Ended → generation'.Ended) := by
      intro i generation' hi
      rw [List.getElem?_modify] at hi
      obtain ⟨generation, hi', rfl⟩ := Option.map_eq_some_iff.mp hi
      refine ⟨generation, hi', fun htold => ?_, fun hended => ?_⟩
      · split <;> exact htold
      · split
        · exact hended.finish handle panicked
        · exact hended
    refine ⟨fun i generation' hi => ?_, fun http3 base had hrun i generation' hbase hi => ?_⟩
    · obtain ⟨generation, hi, htold, -⟩ := hget hi
      dsimp only
      rw [List.length_modify]
      exact (h.told i generation hi).imp_left htold
    · obtain ⟨generation, hi, -, hended⟩ := hget hi
      dsimp only
      rw [List.length_modify]
      exact (h.ended http3 base had hrun i generation hbase hi).imp_left hended
  | event e => exact h.supervisorStep (supervisorStep_of_event hs)

theorem Inv.init : Inv (supervising addresses).init :=
  .of_all_told nofun fun _ _ _ hrun => nomatch hrun

/-- **There is one generation of listeners at most** that has not been told to end, in whatever
order things happen, and it is the last one of a call that waits for its listeners; and where a call
is about to bind its addresses, all loops that accept connections for it have ended. -/
theorem one_generation {as : List Action} (h : Run (supervising addresses) Always as s) :
    (∀ (i : ℕ) generation, s.generations[i]? = some generation → generation.told = false →
      i + 1 = s.generations.length ∧
        ∃ http3 base had, s.supervisor = .running http3 base had ∧ http3.Listens) ∧
    (∀ base had, s.supervisor = .running .bind base had → ∀ (i : ℕ) generation, base ≤ i →
      s.generations[i]? = some generation → generation.Ended) := by
  have hinv : Inv s := h.stateInvariant .init fun _ _ _ hs _ => hs.step
  refine ⟨fun i generation hi htold => ?_, fun base had hrun i generation hbase hi => ?_⟩
  · rcases hinv.told i generation hi with htold' | hlast
    · rw [htold] at htold'
      cases htold'
    · exact hlast
  · rcases hinv.ended .bind base had hrun i generation hbase hi with hended | ⟨-, hbound⟩
    · exact hended
    · exact hbound.elim

/-- One of two addresses is listened to, and bound again when the certificates have changed. -/
def rebinding : List Action :=
  [.event .look, .event (.watch true), .event (.validate true),
    .event (.bind [.ok (), .error ⟨.addrInUse, "Address already in use"⟩] true), .changed,
    .event (.reload true), .accept 0 0 false, .event .joined, .event (.validate true)]

theorem one_generation_rebinding : ∃ s, Run (supervising 2) Always rebinding s ∧
    s.supervisor = .running .bind 0 true ∧ s.generations.length = 1 ∧
    (∀ (i : ℕ) generation, s.generations[i]? = some generation → generation.Ended) := by
  have h : Run (supervising 2) Always rebinding
      ⟨.running .bind 0 true, 500, false, 0, true, [⟨[.ended], true⟩], 1, []⟩ :=
    run_of_exec (by decide)
  exact ⟨_, h, rfl, rfl, fun i generation =>
    (one_generation h).2 0 true rfl i generation (Nat.zero_le i)⟩

/-! ### How long a restart is waited for -/

/-- What a step of `start_http3` leaves, unless it returns an error. -/
theorem Http3Step.leaves (h : Http3Step s base had http3 s') :
    ((∃ http3' had', s'.supervisor = .running http3' base had') ∧ s'.exits = s.exits ∧
      s'.restartDelayMs = s.restartDelayMs ∧ s'.stopped = s.stopped ∧ s'.started = s.started) ∨
    ∃ err, s' = s.exit err := by
  cases h with
  | exit err => exact .inr ⟨err, rfl⟩
  | _ => exact .inl ⟨⟨_, _, rfl⟩, rfl, rfl, rfl, rfl⟩

theorem Delays.congr (h : Delays s) (hsleeping : s.supervisor ≠ .sleeping)
    (hover : s.supervisor ≠ .over) (hsleeping' : s'.supervisor ≠ .sleeping)
    (hexits : s'.exits = s.exits) (hdelay : s'.restartDelayMs = s.restartDelayMs) : Delays s' := by
  refine ⟨fun _ _ => ?_, fun hs => absurd hs hsleeping', ?_⟩
  · rw [hexits, hdelay, h.awake hsleeping hover]
  · rw [hexits]
    exact h.exits

theorem Delays.exit (h : Delays s) (hsleeping : s.supervisor ≠ .sleeping)
    (hover : s.supervisor ≠ .over) (err : DoHError) : Delays (s.exit err) := by
  have hnext := h.awake hsleeping hover
  refine ⟨fun hs => absurd rfl hs,
    fun _ => ⟨List.append_ne_nil_of_right_ne_nil _ (List.cons_ne_nil _ _), ?_⟩,
    fun k err' delay hk => ?_⟩
  · change s.restartDelayMs = delayAfter ((s.exits ++ [_]).length - 1)
    rw [List.length_append, List.length_singleton]
    exact hnext
  · change (s.exits ++ [_])[k]? = _ at hk
    rcases Nat.lt_or_ge k s.exits.length with hlt | hge
    · exact h.exits k err' delay ((List.getElem?_append_left hlt).symm.trans hk)
    · have hlen := (List.getElem?_eq_some_iff.mp hk).1
      rw [List.length_append, List.length_singleton] at hlen
      obtain rfl : k = s.exits.length := by omega
      rw [List.getElem?_concat_length] at hk
      cases hk
      exact hnext

/-- The next delay is twice as long. -/
theorem Delays.wake (h : Delays s) (hsupervisor : s.supervisor = .sleeping) :
    Delays ({ s with
      restartDelayMs := min (s.restartDelayMs * 2) h3SupervisorRestartDelayMaxMs }.goto
        .check) := by
  obtain ⟨hne, hdelay⟩ := h.sleeping hsupervisor
  refine ⟨fun _ _ => ?_, fun hsleeping => (nomatch hsleeping), h.exits⟩
  change min (s.restartDelayMs * 2) _ = delayAfter s.exits.length
  rw [hdelay, delayAfter_succ, Nat.sub_add_cancel (List.length_pos_iff.mpr hne)]

/-- What the supervisor does keeps the delays. -/
theorem Delays.supervisorStep (h : Delays s) (hs : SupervisorStep s s') : Delays s' := by
  cases hs with
  | stop => exact ⟨fun _ hover => absurd rfl hover, fun hs => (nomatch hs), h.exits⟩
  | clear hphase | start hphase | unwatched hphase | again hphase =>
    exact h.congr (fun hs => nomatch hphase.symm.trans hs) (fun hs => nomatch hphase.symm.trans hs)
      (fun hs => nomatch hs) rfl rfl
  | wake hphase => exact h.wake hphase
  | http3 hphase hstep =>
    have hsleeping : s.supervisor ≠ .sleeping := fun hs => nomatch hphase.symm.trans hs
    have hover : s.supervisor ≠ .over := fun hs => nomatch hphase.symm.trans hs
    rcases hstep.leaves with ⟨⟨_, _, hrun⟩, hexits, hdelay, -⟩ | ⟨err, rfl⟩
    · exact h.congr hsleeping hover (fun hs => nomatch hrun.symm.trans hs) hexits hdelay
    · exact h.exit hsleeping hover err

theorem Delays.step {a : Action} (h : Delays s) (hs : (supervising addresses).step s a = some s') :
    Delays s' := by
  cases a with
  | stop | unwatch | accept =>
    obtain rfl := Option.some.inj hs
    exact ⟨h.awake, h.sleeping, h.exits⟩
  | changed =>
    simp only [supervising] at hs
    split at hs
    · obtain rfl := Option.some.inj hs
      exact ⟨h.awake, h.sleeping, h.exits⟩
    · cases hs
  | event e => exact h.supervisorStep (supervisorStep_of_event hs)

theorem Delays.init : Delays (supervising addresses).init :=
  ⟨fun _ _ => rfl, fun hsleeping => (nomatch hsleeping), nofun⟩

/-- **The waits before the restarts double** from half a second to half a minute, in every run: no
time of listening makes them shorter. -/
theorem restart_delays {as : List Action} (h : Run (supervising addresses) Always as s) (k : ℕ)
    (err : DoHError) (delay : ℕ) (hk : s.exits[k]? = some (err, delay)) :
    delay = min (500 * 2 ^ k) 30000 := by
  have hdelays : Delays s := h.stateInvariant .init fun _ _ _ hs _ => hs.step
  exact hdelays.exits k err delay hk

/-- The addresses cannot be bound, twice. -/
def failing : List Action :=
  let bind : List Action := [.event .look, .event (.watch true), .event (.validate true),
    .event (.bind [.error ⟨.addrInUse, "Address already in use"⟩] true)]
  bind ++ [.event .wake] ++ bind

theorem restart_delays_failing : ∃ s err delay, Run (supervising 1) Always failing s ∧
    s.exits[1]? = some (err, delay) ∧ delay = min (500 * 2 ^ 1) 30000 := by
  have h : Run (supervising 1) Always failing
      ⟨.sleeping, 1000, false, 0, false, [], 2, [(.io "Address already in use", 500),
        (.io "Address already in use", 1000)]⟩ := run_of_exec (by decide)
  exact ⟨_, _, _, h, rfl, restart_delays h 1 _ _ rfl⟩

/-! ### The end -/

/-- The supervisor has been told to stop since the state `s`, and has started `start_http3` at most
once: it does so only where it had looked before. -/
structure Stopping (s s' : State) : Prop where
  /-- It has been told to stop. -/
  stopped : s'.stopped = true
  /-- The calls of `start_http3`. -/
  started : s'.started = s.started ∧ (s'.supervisor = .starting → s.supervisor = .starting) ∨
    s.supervisor = .starting ∧ s'.started = s.started + 1 ∧ s'.supervisor ≠ .starting

theorem Stopping.congr {s₁ s₂ : State} (h : Stopping s s₁) (hstopped : s₂.stopped = true)
    (hstarted : s₂.started = s₁.started)
    (hphase : s₂.supervisor = .starting → s₁.supervisor = .starting) : Stopping s s₂ := by
  refine ⟨hstopped, ?_⟩
  rw [hstarted]
  rcases h.started with ⟨hsame, himp⟩ | ⟨hwas, honce, hnot⟩
  · exact .inl ⟨hsame, fun h₂ => himp (hphase h₂)⟩
  · exact .inr ⟨hwas, honce, fun h₂ => hnot (hphase h₂)⟩

theorem Stopping.supervisorStep {s₁ s₂ : State} (h : Stopping s s₁) (hs : SupervisorStep s₁ s₂) :
    Stopping s s₂ := by
  cases hs with
  | clear hphase hstopped =>
    rw [h.stopped] at hstopped
    cases hstopped
  | start hphase =>
    rcases h.started with ⟨hsame, himp⟩ | ⟨-, -, hnot⟩
    · exact ⟨h.stopped, .inr ⟨himp hphase, congrArg (· + 1) hsame, nofun⟩⟩
    · exact absurd hphase hnot
  | stop | unwatched | again | wake => exact h.congr h.stopped rfl nofun
  | http3 hphase hstep =>
    rcases hstep.leaves with ⟨⟨_, _, hrun⟩, -, -, hstopped, hstarted⟩ | ⟨err, rfl⟩
    · exact h.congr (hstopped.trans h.stopped) hstarted fun hs => nomatch hrun.symm.trans hs
    · exact h.congr h.stopped rfl nofun

theorem Stopping.step {s₁ s₂ : State} {a : Action} (h : Stopping s s₁)
    (hs : (supervising addresses).step s₁ a = some s₂) : Stopping s s₂ := by
  cases a with
  | stop =>
    obtain rfl := Option.some.inj hs
    exact h.congr rfl rfl id
  | unwatch | accept =>
    obtain rfl := Option.some.inj hs
    exact h.congr h.stopped rfl id
  | changed =>
    simp only [supervising] at hs
    split at hs
    · obtain rfl := Option.some.inj hs
      exact h.congr h.stopped rfl id
    · cases hs
  | event e => exact h.supervisorStep (supervisorStep_of_event hs)

/-- The supervisor ends by what it does next, whether the certificates can be watched or not, and all
listeners are told to. -/
def State.Ends (s : State) (addresses : ℕ) : Prop :=
  ∀ spawned, ∃ events ∈ [[Event.look], [.watch spawned, .stop], [.stop]], ∃ s',
    (supervising addresses).exec Always s (events.map .event) = some s' ∧ s'.supervisor = .over ∧
      ∀ generation ∈ s'.generations, generation.told = true

theorem told_of_mem_drop (hmem : generation ∈ s.drop.generations) : generation.told = true := by
  obtain ⟨i, hi⟩ := List.getElem?_of_mem hmem
  exact told_of_drop i generation hi

/-- The stop is seen at every await. -/
theorem stop_step (hstopped : s.stopped = true) (hcheck : s.supervisor ≠ .check)
    (hstarting : s.supervisor ≠ .starting) (hover : s.supervisor ≠ .over) :
    (supervising addresses).step s (.event .stop) = some (s.drop.goto .over) := by
  cases hphase : s.supervisor with
  | check => exact absurd hphase hcheck
  | starting => exact absurd hphase hstarting
  | «over» => exact absurd hphase hover
  | unwatched | running _ _ _ | sleeping =>
    simp only [supervising, State.event, hphase, hstopped, if_true]

/-- The supervisor begins to wait, where it was about to start `start_http3`. -/
theorem watch_step (hphase : s.supervisor = .starting) (hstopped : s.stopped = true)
    (spawned : Bool) :
    ∃ s', (supervising addresses).step s (.event (.watch spawned)) = some s' ∧
      (supervising addresses).step s' (.event .stop) = some (s'.drop.goto .over) := by
  cases spawned with
  | true =>
    have hwatch : (supervising addresses).step s (.event (.watch true)) =
        some ({ s with reloads := 0, watched := true, started := s.started + 1 }.goto
          (.running .validate s.generations.length false)) := by
      simp only [supervising, State.event, hphase, if_true]
    exact ⟨_, hwatch, stop_step hstopped nofun nofun nofun⟩
  | false =>
    have hwatch : (supervising addresses).step s (.event (.watch false)) =
        some (s.goto .unwatched) := by
      simp only [supervising, State.event, hphase, Bool.false_eq_true, if_false]
    exact ⟨_, hwatch, stop_step hstopped nofun nofun nofun⟩

/-- Whatever the supervisor is at, it can go on to its end once it has to stop. -/
theorem ends_of_stopped (hstopped : s.stopped = true) (hover : s.supervisor ≠ .over) :
    s.Ends addresses := by
  intro spawned
  by_cases hcheck : s.supervisor = .check
  · have hlook : (supervising addresses).step s (.event .look) = some (s.drop.goto .over) := by
      simp only [supervising, State.event, hcheck, hstopped, if_true]
    exact ⟨[.look], by simp, _, exec_cons trivial hlook, rfl, fun _ => told_of_mem_drop⟩
  · by_cases hstarting : s.supervisor = .starting
    · obtain ⟨s₁, hwatch, hstop⟩ := watch_step hstarting hstopped spawned
      exact ⟨[.watch spawned, .stop], by simp, _,
        (exec_cons trivial hwatch).trans (exec_cons trivial hstop), rfl, fun _ => told_of_mem_drop⟩
    · exact ⟨[.stop], by simp, _, exec_cons trivial (stop_step hstopped hcheck hstarting hover), rfl,
        fun _ => told_of_mem_drop⟩

/-- **Once the stop is sent, `start_http3` is not started again**, whatever happens, but for one time
where the supervisor had looked before and was about to; and nothing that the supervisor waits for
keeps it from going on to its end. -/
theorem stopped_for_good (hstopped : s.stopped = true) {as : List Action}
    (h : (supervising addresses).exec Always s as = some s') :
    (s'.started = s.started ∨ s.supervisor = .starting ∧ s'.started = s.started + 1) ∧
      (s'.supervisor = .over ∨ s'.Ends addresses) := by
  have hstopping : Stopping s s' :=
    exec_invariant (fun _ _ _ hI _ hs => hI.step hs) ⟨hstopped, .inl ⟨rfl, id⟩⟩ h
  refine ⟨hstopping.started.imp And.left fun hstart => ⟨hstart.1, hstart.2.1⟩, ?_⟩
  by_cases hover : s'.supervisor = .over
  · exact .inl hover
  · exact .inr (ends_of_stopped hstopping.stopped hover)

/-- The proxy stops just before the listeners are started. -/
theorem stopped_for_good_starting : ∃ s s' : State, s.stopped = true ∧
    (supervising 1).exec Always s [.event (.watch true), .event (.validate true)] = some s' ∧
    (s'.started = s.started ∨ s.supervisor = .starting ∧ s'.started = s.started + 1) ∧
    s'.Ends 1 := by
  have h : (supervising 1).exec Always ⟨.starting, 500, true, 0, false, [], 0, []⟩
      [.event (.watch true), .event (.validate true)] =
        some ⟨.running .bind 0 false, 500, true, 0, true, [], 1, []⟩ := by decide
  obtain ⟨hstarted, hend⟩ := stopped_for_good rfl h
  exact ⟨_, _, rfl, h, hstarted, hend.resolve_left nofun⟩

end

end DohProxy.Server.Supervisor

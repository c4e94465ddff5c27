import DohProxy.Server.Tls

/-!
# Watching the certificates

HTTP/3 learns from the file system when the certificates may have changed: `spawn_cert_watcher`
watches the directories of the two files, and tells `start_http3` to reload when a file is not what
it was. `start_http3` then looks whether the files are valid, ends its listeners and makes new ones.

## The model

A step is the reading of one file, by the thread of the watcher, by its handler or by `start_http3`,
or what comes from outside: a file changes, events are delivered, sockets are bound or not. Any of
them may be next. The run is one call of `start_http3` with its watcher; what comes after it is in
`Supervisor`. `listen` of `tokio_quiche` reads each file once. How often a file has changed and how
often a reload was sent is counted; the code has no such thing.

## What is proved

* `sent_le_changes` — **in every run**, no more reloads are sent than the files have changed;
* `reloaded` — **once events name a file that is not what it was and the files stay as they are**,
  the listeners that `start_http3` waits with when there is no reload to come have been made of the
  files as they are.
* `mem_watchDirs_iff` — the directories that are watched are those of the two files.
-/

namespace DohProxy.Server.CertWatcher

open Lib System
open Tls (File Paths Rustls)

/-! ### Paths -/

/-- A path. -/
structure Path where
  /-- Whether it begins at the root. -/
  absolute : Bool
  /-- Its components. -/
  components : List String
  deriving DecidableEq

/-- `join`. -/
def Path.join (base path : Path) : Path :=
  if path.absolute then path
  else ⟨base.absolute, base.components ++ path.components.dropWhile (· = ".")⟩

/-- `parent`. -/
def Path.parent (path : Path) : Option Path :=
  if path.components = [] then none else some ⟨path.absolute, path.components.dropLast⟩

/-- `absolutize_path`, where the current directory is known or not. -/
def absolutizePath (currentDir : Option Path) (path : Path) : Path :=
  if path.absolute then path else (currentDir.map (·.join path)).getD path

/-- The directory that is watched for a file. -/
def watchDir (path : Path) : Path := path.parent.getD ⟨false, ["."]⟩

/-- The directories to watch. -/
def watchDirs (certsPath certsKeysPath : Path) : List Path :=
  [certsPath, certsKeysPath].foldl (fun watchDirs path =>
    if watchDir path ∈ watchDirs then watchDirs else watchDirs ++ [watchDir path]) []

/-! ### The watcher -/

/-- What the file system says of a file. -/
structure Metadata where
  /-- When it was last changed, in milliseconds since 1970, if that is known and not before. -/
  modified : Option ℕ
  /-- Its length. -/
  len : ℕ
  deriving DecidableEq

/-- A file, with what the file system says of it. -/
structure Entry where
  /-- What is in it. -/
  file : File
  /-- What the file system says, if it says anything. -/
  metadata : Option Metadata
  deriving DecidableEq

/-- What is remembered of a file: when it was changed, and its length. -/
abbrev FileState := Option (ℕ × ℕ)

/-- `tls_file_state`. -/
def tlsFileState (entry : Entry) : FileState := do
  let metadata ← entry.metadata
  let modifiedMs ← metadata.modified
  return (min modifiedMs 0xffffffffffffffff, metadata.len)

/-- What the debouncer delivers: the paths of each event, or errors. -/
inductive DebounceEventResult where
  /-- Events. -/
  | ok (events : List (List Path))
  /-- Errors. -/
  | error
  deriving DecidableEq

/-- Whether an event is about one of the files. -/
def changed (certsPath certsKeysPath : Path) (events : List (List Path)) : Bool :=
  events.any fun paths => paths.any fun path => path = certsPath || path = certsKeysPath

/-- Where the thread of the watcher is, when it has looked at both files. -/
inductive Thread where
  /-- It is about to make the debouncer. -/
  | debouncer
  /-- It is about to watch these directories. -/
  | watching (dirs : List Path)
  /-- It waits until it is told to end. -/
  | waiting
  /-- It has ended. -/
  | over
  deriving DecidableEq

/-- There is a debouncer. -/
def Thread.delivers : Thread → Bool
  | .watching _ | .waiting => true
  | .debouncer | .over => false

/-- Where the handler of the events is. -/
inductive Handler where
  /-- There are no events. -/
  | idle
  /-- It is about to look at the certificates. -/
  | certState
  /-- It is about to look at the keys, and the certificates are like this. -/
  | keyState (certState : FileState)
  deriving DecidableEq

/-- The watcher, when it has looked at both files. -/
structure Watching where
  /-- Its thread. -/
  thread : Thread
  /-- The handler of the events. -/
  handler : Handler
  /-- `last_cert_state`. -/
  lastCertState : FileState
  /-- `last_key_state`. -/
  lastKeyState : FileState
  deriving DecidableEq

/-- The watcher. -/
inductive Watcher where
  /-- It is about to look at the certificates. -/
  | certState
  /-- It is about to look at the keys. -/
  | keyState (lastCertState : FileState)
  /-- It has looked at both. -/
  | watching (w : Watching)
  deriving DecidableEq

/-- The sender of reloads is alive. -/
def Watcher.connected : Watcher → Bool
  | .certState | .keyState _ => true
  | .watching w => w.thread ≠ .over || w.handler ≠ .idle

/-- Where `start_http3` is. -/
inductive Phase where
  /-- It is about to read the certificates, to see whether they are valid. -/
  | validate
  /-- It is about to read the keys. -/
  | validateKeys (certs : File)
  /-- They are not valid, and it waits for others. -/
  | invalid
  /-- It is about to bind the addresses. -/
  | bind
  /-- They are in use, and it waits for other certificates. -/
  | conflict
  /-- It is about to make the listeners, and to read the certificates for them. -/
  | load
  /-- It is about to read the keys for them. -/
  | loadKeys (certs : File)
  /-- There are listeners, made of these files. -/
  | listening (certs keys : File)
  /-- It is about to read the certificates, to see whether those that have come are valid. -/
  | recheck (certs keys : File)
  /-- It is about to read the keys. -/
  | recheckKeys (certs keys certs' : File)
  /-- The listeners have been told to end. -/
  | draining
  /-- It waits for the listeners only. -/
  | closing (certs keys : File)
  /-- It has returned. -/
  | over
  deriving DecidableEq

/-- What `start_http3` waits for. -/
inductive Event where
  /-- The next file is read. -/
  | read
  /-- A reload comes. -/
  | recv
  /-- No reload comes any more. -/
  | closed
  /-- An address has been bound, or else the error says that it is in use, or says something else.
  -/
  | bind (bound addrInUse : Bool)
  /-- The listeners cannot be made. -/
  | refused
  /-- The listeners have ended as they should, or not. -/
  | joined (ok : Bool)
  deriving DecidableEq

/-- `start_http3`, with its end of the channel. -/
structure StartHttp3 where
  /-- Where it is. -/
  phase : Phase
  /-- The reloads that have been sent and not received. -/
  reloads : ℕ
  /-- `had_successful_bind`. -/
  hadSuccessfulBind : Bool
  deriving DecidableEq

/-- The files, the watcher and `start_http3`. -/
structure State where
  /-- The file of the certificates. -/
  certs : Entry
  /-- The file of the keys. -/
  keys : Entry
  /-- The watcher. -/
  watcher : Watcher
  /-- `start_http3`. -/
  http3 : StartHttp3
  /-- How often a file has got another state. -/
  changes : ℕ
  /-- How many reloads have been sent. -/
  sent : ℕ
  deriving DecidableEq

/-- What can happen. -/
inductive Action where
  /-- The file of the certificates changes. -/
  | writeCerts (entry : Entry)
  /-- The file of the keys changes. -/
  | writeKeys (entry : Entry)
  /-- The watcher looks at the next file. -/
  | look
  /-- The debouncer has been made or not. -/
  | debouncer (made : Bool)
  /-- The next directory is watched or not. -/
  | watch (watched : Bool)
  /-- The thread is told to end. -/
  | stop
  /-- The debouncer delivers something. -/
  | deliver (result : DebounceEventResult)
  /-- `start_http3` goes on with what it has waited for. -/
  | http3 (e : Event)
  deriving DecidableEq

/-- One more change if these differ. -/
def differs (state state' : FileState) : ℕ := if state = state' then 0 else 1

/-- `start_http3` goes on. -/
def StartHttp3.goto (h : StartHttp3) (phase : Phase) : StartHttp3 := { h with phase }

/-- What `start_http3` does when something it waits for has come, the files being like this. -/
def StartHttp3.event (valid : File → File → Bool) (certFile keyFile : File) (connected : Bool)
    (h : StartHttp3) (e : Event) : Option StartHttp3 :=
  match h.phase, e with
  | .validate, .read => some (h.goto (.validateKeys certFile))
  | .validateKeys certs, .read => some (h.goto (if valid certs keyFile then .bind else .invalid))
  | .invalid, .recv =>
    if 0 < h.reloads then some ({ h with reloads := h.reloads - 1 }.goto .validate) else none
  | .bind, .bind bound addrInUse =>
    if bound then some ({ h with hadSuccessfulBind := true }.goto .load)
    else some (h.goto (if h.hadSuccessfulBind && addrInUse then .conflict else .over))
  | .conflict, .recv =>
    if 0 < h.reloads then some ({ h with reloads := 0 }.goto .validate) else none
  | .invalid, .closed | .conflict, .closed =>
    if h.reloads = 0 && !connected then some (h.goto .over) else none
  | .load, .read => some (h.goto (.loadKeys certFile))
  | .loadKeys certs, .read => some (h.goto (.listening certs keyFile))
  | .load, .refused | .loadKeys _, .refused => some (h.goto .over)
  | .listening certs keys, .recv =>
    if 0 < h.reloads then some ({ h with reloads := 0 }.goto (.recheck certs keys)) else none
  | .listening certs keys, .closed =>
    if h.reloads = 0 && !connected then some (h.goto (.closing certs keys)) else none
  | .recheck certs keys, .read => some (h.goto (.recheckKeys certs keys certFile))
  | .recheckKeys certs keys certs', .read =>
    some (h.goto (if valid certs' keyFile then .draining else .listening certs keys))
  | .draining, .joined ok => some (h.goto (if ok then .validate else .over))
  | .listening _ _, .joined _ | .closing _ _, .joined _ => some (h.goto .over)
  | _, _ => none

/-- What the thread and the handler of the watcher do: the watcher after it, and whether a reload
is sent. -/
def Watching.step (certsPath certsKeysPath : Path) (certs keys : FileState) (w : Watching) :
    Action → Option (Watching × Bool)
  | .debouncer made =>
    if w.thread = .debouncer then
      some ({ w with
        thread := if made then .watching (watchDirs certsPath certsKeysPath) else .over }, false)
    else none
  | .watch watched =>
    match w.thread with
    | .watching (_ :: dirs) => some ({ w with
        thread :=
          if !watched then .over else if dirs = [] then .waiting else .watching dirs }, false)
    | _ => none
  | .stop => if w.thread = .waiting then some ({ w with thread := .over }, false) else none
  | .deliver result =>
    if w.thread.delivers && w.handler = .idle then
      match result with
      | .ok events => some ({ w with
          handler := if changed certsPath certsKeysPath events then .certState else .idle }, false)
      | .error => some (w, false)
    else none
  | .look =>
    match w.handler with
    | .idle => none
    | .certState => some ({ w with handler := .keyState certs }, false)
    | .keyState certState =>
      if certState ≠ w.lastCertState ∨ keys ≠ w.lastKeyState then
        some (⟨w.thread, .idle, certState, keys⟩, true)
      else some ({ w with handler := .idle }, false)
  | _ => none

/-- What the watcher does. -/
def Watcher.step (certsPath certsKeysPath : Path) (certs keys : FileState) :
    Watcher → Action → Option (Watcher × Bool)
  | .certState, .look => some (.keyState certs, false)
  | .keyState lastCertState, .look =>
    some (.watching ⟨.debouncer, .idle, lastCertState, keys⟩, false)
  | .watching w, a =>
    (w.step certsPath certsKeysPath certs keys a).map fun (w, reload) => (.watching w, reload)
  | _, _ => none

/-- The watcher has gone on, and has sent a reload or not. -/
def State.watch (s : State) (watcher : Watcher) (reload : Bool) : State :=
  { s with
    watcher
    http3 := { s.http3 with reloads := s.http3.reloads + reload.toNat }
    sent := s.sent + reload.toNat }

/-- What the watcher and `start_http3` do. -/
def step (valid : File → File → Bool) (certsPath certsKeysPath : Path) (s : State) :
    Action → Option State
  | .writeCerts entry => some { s with
      certs := entry, changes := s.changes + differs (tlsFileState s.certs) (tlsFileState entry) }
  | .writeKeys entry => some { s with
      keys := entry, changes := s.changes + differs (tlsFileState s.keys) (tlsFileState entry) }
  | .http3 e =>
    (s.http3.event valid s.certs.file s.keys.file s.watcher.connected e).map
      fun http3 => { s with http3 }
  | a =>
    (s.watcher.step certsPath certsKeysPath (tlsFileState s.certs) (tlsFileState s.keys) a).map
      fun (watcher, reload) => s.watch watcher reload

/-- `validate_tls_files`. -/
def validateTlsFiles {Cert Key Config : Type} (rustls : Rustls Cert Key Config) (paths : Paths)
    (certs keys : File) : Bool :=
  (rustls.createTlsAcceptor paths certs keys).isOk

/-- A call of `start_http3` with its watcher. -/
def startHttp3 (valid : File → File → Bool) (currentDir : Option Path)
    (certsPath certsKeysPath : Path) (certs keys : Entry) : System State Action where
  init := {
    certs, keys
    watcher := .certState
    http3 := ⟨.validate, 0, false⟩
    changes := 0
    sent := 0 }
  step := step valid (absolutizePath currentDir certsPath) (absolutizePath currentDir certsKeysPath)

variable {valid : File → File → Bool} {currentDir : Option Path} {certsPath certsKeysPath : Path}
  {certs keys : Entry} {certs₀ keys₀ : FileState} {s s' : State} {a : Action} {as : List Action}
  {w w' : Watching} {watcher watcher' : Watcher} {reload : Bool}

/-! ### The directories -/

/-- **The directories that are watched**: those of the two files, each once. -/
theorem mem_watchDirs_iff {dir : Path} : dir ∈ watchDirs certsPath certsKeysPath ↔
    dir = watchDir certsPath ∨ dir = watchDir certsKeysPath := by
  by_cases h : watchDir certsKeysPath = watchDir certsPath
  · simp [watchDirs, h]
  · simp [watchDirs, h]

theorem nodup_watchDirs : (watchDirs certsPath certsKeysPath).Nodup := by
  by_cases h : watchDir certsKeysPath = watchDir certsPath
  · simp [watchDirs, h]
  · simp [watchDirs, h, Ne.symm h]

/-! ### How many reloads -/

/-- The changes that the watcher has not sent a reload for, if the files are like this. -/
def Watching.owed (w : Watching) (certs keys : FileState) : ℕ :=
  match w.handler with
  | .idle | .certState => differs w.lastCertState certs + differs w.lastKeyState keys
  | .keyState certState =>
    differs w.lastCertState certState + differs certState certs + differs w.lastKeyState keys

/-- The changes that the watcher has not sent a reload for. -/
def Watcher.owed (certs keys : FileState) : Watcher → ℕ
  | .certState => 0
  | .keyState lastCertState => differs lastCertState certs
  | .watching w => w.owed certs keys

@[simp] theorem differs_self (state : FileState) : differs state state = 0 := if_pos rfl

theorem differs_of_ne {state state' : FileState} (h : state ≠ state') : differs state state' = 1 :=
  if_neg h

theorem differs_le (a b c : FileState) : differs a c ≤ differs a b + differs b c := by
  unfold differs
  split
  · exact Nat.zero_le _
  · next hac =>
    split
    · next hab => simp [hab ▸ hac]
    · exact Nat.le_add_right ..

/-- One more change is owed for each file that changes. -/
theorem owed_write (watcher : Watcher) (certs₀ keys₀ certs' keys' : FileState) :
    watcher.owed certs' keys' ≤
      watcher.owed certs₀ keys₀ + differs certs₀ certs' + differs keys₀ keys' := by
  have hcerts (state : FileState) := differs_le state certs₀ certs'
  have hkeys (state : FileState) := differs_le state keys₀ keys'
  cases watcher with
  | certState => exact Nat.zero_le _
  | keyState lastCertState =>
    have := hcerts lastCertState
    simp only [Watcher.owed]
    omega
  | watching w =>
    have := hcerts w.lastCertState
    have := hkeys w.lastKeyState
    simp only [Watcher.owed, Watching.owed]
    split
    · omega
    · omega
    · next certState _ =>
      have := hcerts certState
      omega

/-- **A reload is owed before it is sent.** -/
theorem Watching.owed_step (h : w.step certsPath certsKeysPath certs₀ keys₀ a = some (w', reload)) :
    reload.toNat + w'.owed certs₀ keys₀ ≤ w.owed certs₀ keys₀ := by
  cases a with
  | look =>
    simp only [Watching.step] at h
    split at h
    · cases h
    · next hhandler =>
      cases h
      simp [owed, hhandler]
    · next certState hhandler =>
      have hle := differs_le w.lastCertState certState certs₀
      split at h
      · next hnew =>
        cases h
        simp only [owed, hhandler, Bool.toNat_true, differs_self]
        rcases hnew with hnew | hnew
        · have := differs_of_ne (Ne.symm hnew)
          omega
        · have := differs_of_ne (Ne.symm hnew)
          omega
      · cases h
        simp only [owed, hhandler, Bool.toNat_false]
        omega
  | deliver result =>
    simp only [Watching.step, Bool.and_eq_true, decide_eq_true_iff] at h
    split at h
    · next hidle =>
      cases result with
      | ok events =>
        cases h
        cases hchanged : changed certsPath certsKeysPath events with
        | true => simp [owed, hidle.2]
        | false => simp [owed, hidle.2]
      | error =>
        cases h
        simp
    · cases h
  | debouncer made =>
    simp only [Watching.step] at h
    split at h <;> cases h
    simp [owed]
  | watch watched =>
    simp only [Watching.step] at h
    split at h <;> cases h
    simp [owed]
  | stop =>
    simp only [Watching.step] at h
    split at h <;> cases h
    simp [owed]
  | writeCerts entry => cases h
  | writeKeys entry => cases h
  | http3 e => cases h

theorem Watcher.owed_step
    (h : watcher.step certsPath certsKeysPath certs₀ keys₀ a = some (watcher', reload)) :
    reload.toNat + watcher'.owed certs₀ keys₀ ≤ watcher.owed certs₀ keys₀ := by
  cases watcher with
  | certState =>
    cases a <;> cases h
    simp [owed]
  | keyState lastCertState =>
    cases a <;> cases h
    simp [owed, Watching.owed]
  | watching w =>
    obtain ⟨⟨w', reload⟩, hw, heq⟩ := Option.map_eq_some_iff.mp h
    cases heq
    exact Watching.owed_step hw

/-- Whatever happens, what is sent was owed. -/
theorem sent_step (hle : s.sent + s.watcher.owed (tlsFileState s.certs) (tlsFileState s.keys) ≤
      s.changes) (hs : step valid certsPath certsKeysPath s a = some s') :
    s'.sent + s'.watcher.owed (tlsFileState s'.certs) (tlsFileState s'.keys) ≤ s'.changes := by
  have hwatch : ∀ {watcher reload}, s.watcher.step certsPath certsKeysPath (tlsFileState s.certs)
      (tlsFileState s.keys) a = some (watcher, reload) →
      s.sent + reload.toNat + watcher.owed (tlsFileState s.certs) (tlsFileState s.keys) ≤
        s.changes := by
    intro watcher reload hw
    have := Watcher.owed_step hw
    omega
  cases a with
  | writeCerts entry =>
    cases hs
    have hwrite := owed_write s.watcher (tlsFileState s.certs) (tlsFileState s.keys)
      (tlsFileState entry) (tlsFileState s.keys)
    rw [differs_self] at hwrite
    dsimp only
    omega
  | writeKeys entry =>
    cases hs
    have hwrite := owed_write s.watcher (tlsFileState s.certs) (tlsFileState s.keys)
      (tlsFileState s.certs) (tlsFileState entry)
    rw [differs_self] at hwrite
    dsimp only
    omega
  | http3 e =>
    obtain ⟨http3, -, rfl⟩ := Option.map_eq_some_iff.mp hs
    exact hle
  | look | debouncer made | watch watched | stop | deliver result =>
    obtain ⟨⟨watcher, reload⟩, hw, rfl⟩ := Option.map_eq_some_iff.mp hs
    exact hwatch hw

/-- **No more reloads than changes**, in every run. -/
theorem sent_le_changes (h : Run (startHttp3 valid currentDir certsPath certsKeysPath certs keys)
    Always as s) : s.sent ≤ s.changes := by
  have hinv := h.stateInvariant (I := fun s => s.sent +
    s.watcher.owed (tlsFileState s.certs) (tlsFileState s.keys) ≤ s.changes) (Nat.le_refl _)
    fun _ _ _ hle _ hs => sent_step hle hs
  omega

/-- The files are in one directory, and it is the current one. -/
def inDirectory : System State Action :=
  startHttp3 (validateTlsFiles Tls.sameByte ⟨"c", "k"⟩) (some ⟨true, ["etc"]⟩) ⟨false, ["c"]⟩
    ⟨false, ["k"]⟩ ⟨.bytes [7], some ⟨some 1, 1⟩⟩ ⟨.bytes [7], some ⟨some 1, 1⟩⟩

/-- The watcher comes to wait for events, and both files are written, one after the other. -/
def rewriting : List Action :=
  [.look, .look, .debouncer true, .watch true,
    .writeCerts ⟨.bytes [9], some ⟨some 2, 1⟩⟩, .deliver (.ok [[⟨true, ["etc", "c"]⟩]]),
    .look, .look,
    .writeKeys ⟨.bytes [9], some ⟨some 3, 1⟩⟩, .deliver (.ok [[⟨true, ["etc", "k"]⟩]]),
    .look, .look]

theorem sent_le_changes_rewriting : ∃ s, Run inDirectory Always rewriting s ∧ s.sent = 2 ∧
    s.sent ≤ s.changes := by
  have h : Run inDirectory Always rewriting {
      certs := ⟨.bytes [9], some ⟨some 2, 1⟩⟩
      keys := ⟨.bytes [9], some ⟨some 3, 1⟩⟩
      watcher := .watching ⟨.waiting, .idle, some (2, 1), some (3, 1)⟩
      http3 := ⟨.validate, 2, false⟩
      changes := 2
      sent := 2 } := run_of_exec (by decide +kernel)
  exact ⟨_, h, rfl, sent_le_changes h⟩

/-! ### Files that stay as they are -/

/-- The files do not change. -/
def Unwritten (_ : State) (a : Action) : Prop :=
  (∀ entry, a ≠ .writeCerts entry) ∧ ∀ entry, a ≠ .writeKeys entry

instance (s : State) : DecidablePred (Unwritten s)
  | .writeCerts entry => .isFalse fun h => h.1 entry rfl
  | .writeKeys entry => .isFalse fun h => h.2 entry rfl
  | .look | .debouncer _ | .watch _ | .stop | .deliver _ | .http3 _ =>
    .isTrue ⟨fun _ h => (by cases h), fun _ h => (by cases h)⟩

/-- Without another reload, there will be no listeners but those made of these files. -/
def Follows (certs keys : File) : Phase → Prop
  | .validate | .bind | .conflict | .load | .recheck _ _ | .draining | .over => True
  | .invalid => False
  | .validateKeys certs' | .loadKeys certs' | .recheckKeys _ _ certs' => certs' = certs
  | .listening certs' keys' | .closing certs' keys' => certs' = certs ∧ keys' = keys

/-- A reload is to come, or none is needed. -/
def Renews (certs keys : File) (h : StartHttp3) : Prop := 0 < h.reloads ∨ Follows certs keys h.phase

/-- The handler is about to find out that the files are not what they were. -/
structure Finding (certs keys : FileState) (w : Watching) : Prop where
  /-- It has looked at the certificates, as they are, or is about to. -/
  handler : w.handler = .certState ∨ w.handler = .keyState certs
  /-- They are not what they were, or the keys are not. -/
  new : certs ≠ w.lastCertState ∨ keys ≠ w.lastKeyState

/-- The change has been seen, or is about to be. -/
structure Seen (certs keys : Entry) (s : State) : Prop where
  /-- The certificates are as they are. -/
  sameCerts : s.certs = certs
  /-- The keys are as they are. -/
  sameKeys : s.keys = keys
  /-- A reload is about to be sent, or to come, or is not needed. -/
  progress : (∃ w, s.watcher = .watching w ∧ Finding (tlsFileState certs) (tlsFileState keys) w) ∨
    Renews certs.file keys.file s.http3

theorem Renews.goto {certFile keyFile : File} {h : StartHttp3} {phase : Phase}
    (hr : 0 < h.reloads ∨ Follows certFile keyFile phase) :
    Renews certFile keyFile (h.goto phase) :=
  hr

/-- **What `start_http3` does** with files that are valid and stay as they are: where no reload is
to come, it goes on as far as to listeners that are made of them. -/
theorem Renews.event {certFile keyFile : File} {connected : Bool} {h h' : StartHttp3} {e : Event}
    (hvalid : valid certFile keyFile = true) (hr : Renews certFile keyFile h)
    (hs : h.event valid certFile keyFile connected e = some h') : Renews certFile keyFile h' := by
  obtain ⟨phase, reloads, had⟩ := h
  cases phase with
  | validate =>
    cases e <;> cases hs
    exact .goto (.inr rfl)
  | validateKeys certs =>
    cases e <;> cases hs
    apply Renews.goto
    refine hr.imp_right fun hcerts => ?_
    rw [show certs = certFile from hcerts, hvalid]
    trivial
  | invalid =>
    cases e with
    | recv =>
      simp only [StartHttp3.event] at hs
      split at hs <;> cases hs
      exact .inr trivial
    | closed =>
      simp only [StartHttp3.event] at hs
      split at hs <;> cases hs
      exact .inr trivial
    | read | bind _ _ | refused | joined _ => cases hs
  | bind =>
    cases e with
    | bind bound addrInUse =>
      simp only [StartHttp3.event] at hs
      split at hs
      · cases hs
        exact .inr trivial
      · cases hs
        apply Renews.goto
        split <;> exact .inr trivial
    | read | recv | closed | refused | joined _ => cases hs
  | conflict =>
    cases e with
    | recv =>
      simp only [StartHttp3.event] at hs
      split at hs <;> cases hs
      exact .inr trivial
    | closed =>
      simp only [StartHttp3.event] at hs
      split at hs <;> cases hs
      exact .inr trivial
    | read | bind _ _ | refused | joined _ => cases hs
  | load =>
    cases e <;> cases hs
    · exact .goto (.inr rfl)
    · exact .inr trivial
  | loadKeys certs =>
    cases e <;> cases hs
    · apply Renews.goto
      exact hr.imp_right fun hcerts => ⟨hcerts, rfl⟩
    · exact .inr trivial
  | listening certs keys =>
    cases e with
    | recv =>
      simp only [StartHttp3.event] at hs
      split at hs <;> cases hs
      exact .inr trivial
    | closed =>
      simp only [StartHttp3.event] at hs
      split at hs <;> cases hs
      exact hr
    | joined ok =>
      cases hs
      exact .inr trivial
    | read | bind _ _ | refused => cases hs
  | recheck certs keys =>
    cases e <;> cases hs
    exact .goto (.inr rfl)
  | recheckKeys certs keys certs' =>
    cases e <;> cases hs
    apply Renews.goto
    refine hr.imp_right fun hcerts => ?_
    rw [show certs' = certFile from hcerts, hvalid]
    trivial
  | draining =>
    cases e <;> cases hs
    apply Renews.goto
    split <;> exact .inr trivial
  | closing certs keys =>
    cases e <;> cases hs
    exact .inr trivial
  | «over» => cases e <;> cases hs

/-- **What the handler does** when it is about to find out that the files are not what they were: it
goes on to do so, and sends a reload when it has. -/
theorem Finding.step (hf : Finding certs₀ keys₀ w)
    (h : w.step certsPath certsKeysPath certs₀ keys₀ a = some (w', reload)) :
    Finding certs₀ keys₀ w' ∨ reload = true := by
  have hidle : w.handler ≠ .idle := by
    rcases hf.handler with hhandler | hhandler <;> rw [hhandler] <;> exact fun h => by cases h
  cases a with
  | look =>
    simp only [Watching.step] at h
    rcases hf.handler with hhandler | hhandler
    · rw [hhandler] at h
      cases h
      exact .inl ⟨.inr rfl, hf.new⟩
    · rw [hhandler] at h
      dsimp only at h
      rw [if_pos hf.new] at h
      cases h
      exact .inr rfl
  | deliver result =>
    simp only [Watching.step, hidle, decide_false, Bool.and_false, Bool.false_eq_true,
      if_false] at h
    cases h
  | debouncer made =>
    simp only [Watching.step] at h
    split at h <;> cases h
    exact .inl ⟨hf.handler, hf.new⟩
  | watch watched =>
    simp only [Watching.step] at h
    split at h <;> cases h
    exact .inl ⟨hf.handler, hf.new⟩
  | stop =>
    simp only [Watching.step] at h
    split at h <;> cases h
    exact .inl ⟨hf.handler, hf.new⟩
  | writeCerts entry => cases h
  | writeKeys entry => cases h
  | http3 e => cases h

/-- What the watcher sends is not taken back. -/
theorem Renews.watch {certFile keyFile : File} (hr : Renews certFile keyFile s.http3) :
    Renews certFile keyFile (s.watch watcher reload).http3 :=
  hr.imp_left fun hpos => Nat.lt_of_lt_of_le hpos (Nat.le_add_right ..)

theorem Seen.step (hseen : Seen certs keys s) (hvalid : valid certs.file keys.file = true)
    (ha : Unwritten s a) (hs : step valid certsPath certsKeysPath s a = some s') :
    Seen certs keys s' := by
  obtain ⟨rfl, rfl, hprogress⟩ := hseen
  cases a with
  | writeCerts entry => exact absurd rfl (ha.1 entry)
  | writeKeys entry => exact absurd rfl (ha.2 entry)
  | http3 e =>
    obtain ⟨http3, hevent, rfl⟩ := Option.map_eq_some_iff.mp hs
    exact ⟨rfl, rfl, hprogress.imp_right fun hr => hr.event hvalid hevent⟩
  | look | debouncer made | watch watched | stop | deliver result =>
    obtain ⟨⟨watcher, reload⟩, hw, rfl⟩ := Option.map_eq_some_iff.mp hs
    refine ⟨rfl, rfl, ?_⟩
    rcases hprogress with ⟨w, hwatching, hf⟩ | hr
    · rw [hwatching] at hw
      obtain ⟨⟨w', reload⟩, hstep, heq⟩ := Option.map_eq_some_iff.mp hw
      cases heq
      rcases hf.step hstep with hf | rfl
      · exact .inl ⟨w', rfl, hf⟩
      · exact .inr (.inl (Nat.succ_pos _))
    · exact .inr hr.watch

/-- **Changed files are reloaded**: once events name a file, the files are not what they were when
they were looked at last, and they stay as they are, then as soon as the handler of the events is
done and there is no reload to come, `start_http3` does not wait for valid files, and the listeners
it waits with, for a reload or for their end, have been made of the files as they are. -/
theorem reloaded {s s₁ s₂ : State} {events : List (List Path)}
    (hvalid : valid s.certs.file s.keys.file = true) (hwatching : s.watcher = .watching w)
    (hnamed : changed (absolutizePath currentDir certsPath)
      (absolutizePath currentDir certsKeysPath) events = true)
    (hnew : tlsFileState s.certs ≠ w.lastCertState ∨ tlsFileState s.keys ≠ w.lastKeyState)
    (hdeliver : (startHttp3 valid currentDir certsPath certsKeysPath certs keys).step s
      (.deliver (.ok events)) = some s₁)
    (hrun : (startHttp3 valid currentDir certsPath certsKeysPath certs keys).exec Unwritten s₁ as =
      some s₂)
    (hdone : ∀ w, s₂.watcher = .watching w → w.handler = .idle) (hreloads : s₂.http3.reloads = 0) :
    s₂.http3.phase ≠ .invalid ∧ ∀ certs' keys', s₂.http3.phase = .listening certs' keys' ∨
      s₂.http3.phase = .closing certs' keys' → certs' = s.certs.file ∧ keys' = s.keys.file := by
  have hfirst : Seen s.certs s.keys s₁ := by
    obtain ⟨⟨watcher, reload⟩, hw, rfl⟩ := Option.map_eq_some_iff.mp hdeliver
    rw [hwatching] at hw
    obtain ⟨⟨w', reload⟩, hstep, heq⟩ := Option.map_eq_some_iff.mp hw
    cases heq
    simp only [Watching.step, hnamed, if_true] at hstep
    split at hstep <;> cases hstep
    exact ⟨rfl, rfl, .inl ⟨_, rfl, .inl rfl, hnew⟩⟩
  have hlast : Seen s.certs s.keys s₂ :=
    exec_invariant (fun _ _ _ hseen ha hs => hseen.step hvalid ha hs) hfirst hrun
  rcases hlast.progress with ⟨w', hw', hf⟩ | hpos | hfollows
  · have hidle := hdone w' hw'
    rcases hf.handler with hhandler | hhandler <;> cases hidle.symm.trans hhandler
  · omega
  · constructor
    · intro hinvalid
      rwa [hinvalid] at hfollows
    · intro certs' keys' hphase
      rcases hphase with hphase | hphase <;> rwa [hphase] at hfollows

/-- The certificates and the keys have been changed, and HTTP/3 listens with those there were. -/
def changedFiles : State where
  certs := ⟨.bytes [9], some ⟨some 2, 1⟩⟩
  keys := ⟨.bytes [9], some ⟨some 2, 1⟩⟩
  watcher := .watching ⟨.waiting, .idle, some (1, 1), some (1, 1)⟩
  http3 := ⟨.listening (.bytes [7]) (.bytes [7]), 0, true⟩
  changes := 2
  sent := 0

/-- The handler looks at both files, and `start_http3` ends its listeners and makes new ones. -/
def reloading : List Action :=
  [.look, .look, .http3 .recv, .http3 .read, .http3 .read, .http3 (.joined true), .http3 .read,
    .http3 .read, .http3 (.bind true false), .http3 .read, .http3 .read]

theorem reloaded_reloading :
    ∃ s₁ s₂, inDirectory.step changedFiles (.deliver (.ok [[⟨true, ["etc", "k"]⟩]])) = some s₁ ∧
      inDirectory.exec Unwritten s₁ reloading = some s₂ ∧
      s₂.http3.phase = .listening (.bytes [9]) (.bytes [9]) ∧
      s₂.http3.phase ≠ .invalid ∧ ∀ certs' keys', s₂.http3.phase = .listening certs' keys' ∨
        s₂.http3.phase = .closing certs' keys' → certs' = .bytes [9] ∧ keys' = .bytes [9] := by
  have hvalid : validateTlsFiles Tls.sameByte ⟨"c", "k"⟩ changedFiles.certs.file
      changedFiles.keys.file = true := by decide
  have hnamed : changed (absolutizePath (some ⟨true, ["etc"]⟩) ⟨false, ["c"]⟩)
      (absolutizePath (some ⟨true, ["etc"]⟩) ⟨false, ["k"]⟩) [[⟨true, ["etc", "k"]⟩]] = true := by
    decide
  have hnew : tlsFileState changedFiles.certs ≠ some (1, 1) ∨
      tlsFileState changedFiles.keys ≠ some (1, 1) := .inl (by decide)
  have hdeliver : inDirectory.step changedFiles (.deliver (.ok [[⟨true, ["etc", "k"]⟩]])) =
      some { changedFiles with
        watcher := .watching ⟨.waiting, .certState, some (1, 1), some (1, 1)⟩ } := by
    decide +kernel
  have hrun : inDirectory.exec Unwritten { changedFiles with
        watcher := .watching ⟨.waiting, .certState, some (1, 1), some (1, 1)⟩ } reloading =
      some { changedFiles with
        watcher := .watching ⟨.waiting, .idle, some (2, 1), some (2, 1)⟩
        http3 := ⟨.listening (.bytes [9]) (.bytes [9]), 0, true⟩
        sent := 1 } := by
    decide +kernel
  refine ⟨_, _, hdeliver, hrun, rfl, reloaded hvalid rfl hnamed hnew hdeliver hrun ?_ rfl⟩
  intro w hw
  cases hw
  rfl

end DohProxy.Server.CertWatcher

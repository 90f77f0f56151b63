import Kdive.Lib.Dict
import Kdive.Lib.Interleaving
import Kdive.Seams.Target

/-!
# The lifecycle dispatcher

An emit tears the subscribers of a target down, each on a worker thread, and waits for
the workers up to one deadline.  A worker that is still running then is recorded as
overdue, and its subscriber is dropped by force.

*Threads.*  Every call of the dispatcher is a thread, and so is every worker.  A worker
ends at any time or never, and may raise.  What a subscriber does meanwhile, such as
calling the dispatcher again, is a call among the others.

*Deadline.*  An emit joins its workers until the deadline and then asks each whether it
is alive.  The joins are left to the schedule, so the deadline may pass at any time.

*Atomicity.*  Each section under `_lock` is one operation, and so is each question about
a worker.

*History.*  `lates` has every entry that was ever recorded in `_overdue`.  No program
reads it.
-/

namespace Kdive.Lifecycle

open Program Interleaving Dictionary

/-- The lifecycle transitions. -/
inductive LifecycleKind where
  | resetting
  | crashed
  | booting
  | releasing
  | leaseExpired
deriving DecidableEq, Repr

/-- A transition of a target. -/
structure LifecycleEvent where
  targetKey : TargetKey
  kind : LifecycleKind
deriving DecidableEq, Repr

/-- A registered subscriber: `(target_key, name, id(subscriber))`.  It is also what
`overdue_subscribers` lists. -/
structure Instance where
  targetKey : TargetKey
  name : String
  /-- The identity of the object. -/
  subscriber : Nat
deriving DecidableEq, Repr

/-- The outcome of one emit. -/
structure InvalidationResult where
  targetKey : TargetKey
  kind : LifecycleKind
  errors : Dict String String
  overdue : List String
  forceDropped : List String
deriving DecidableEq

/-- What a worker calls. -/
inductive Teardown where
  | invalidate
  | forceDrop
deriving DecidableEq, Repr

/-- A worker thread, with the box of its error. -/
structure Worker where
  call : Teardown
  who : Instance
  running : Bool
  error : Option String
deriving DecidableEq, Repr

/-- The state of the dispatcher and of its workers. -/
structure World where
  /-- `_subscribers` -/
  subscribers : TargetKey → Dict String Nat
  /-- `_overdue` -/
  overdue : Dict Instance Nat
  /-- `_emit_locks` -/
  emitLocks : TargetKey → Option Nat
  /-- The emit locks that were created, and whether they are held. -/
  held : List Bool
  /-- The workers that were started, oldest first. -/
  workers : List Worker
  /-- What each worker raises, if it does. -/
  raises : Nat → Option String
  /-- Every entry `_overdue` ever had. -/
  lates : List (Instance × Nat)

namespace World

/-- A new dispatcher. -/
def fresh (raises : Nat → Option String) : World where
  subscribers := fun _ => .empty
  overdue := .empty
  emitLocks := fun _ => none
  held := []
  workers := []
  raises := raises
  lates := []

/-- `worker.is_alive()` -/
def isAlive (w : World) (worker : Nat) : Bool :=
  match w.workers[worker]? with
  | some a => a.running
  | none => false

/-- `_prune_overdue` -/
def prune (w : World) : World := { w with overdue := w.overdue.filter fun e => w.isAlive e.2 }

/-- The subscribers of a target whose worker is recorded as overdue. -/
def alreadyOverdue (w : World) (targetKey : TargetKey) (targeted : Dict String Nat) : List String :=
  (targeted.filter fun e => (w.overdue.get? ⟨targetKey, e.1, e.2⟩).isSome).keys

end World

/-- What `_split_runnable_subscribers_locked` returns. -/
structure Split where
  alreadyOverdue : List String
  runnable : Dict String Nat

/-- The split, once the finished workers are pruned. -/
def World.split (w : World) (targetKey : TargetKey) : Split where
  alreadyOverdue := w.alreadyOverdue targetKey (w.subscribers targetKey)
  runnable := (w.subscribers targetKey).filter fun e =>
    e.1 ∉ w.alreadyOverdue targetKey (w.subscribers targetKey)

/-- An operation of the dispatcher. -/
inductive Op where
  | subscribe (targetKey : TargetKey) (name : String) (subscriber : Nat)
  | unsubscribe (targetKey : TargetKey) (name : String)
  /-- `_emit_lock` -/
  | emitLock (targetKey : TargetKey)
  | acquire (lock : Nat)
  /-- Take the snapshot of the subscribers and split it. -/
  | split (targetKey : TargetKey)
  /-- `worker.start()` -/
  | start (call : Teardown) (who : Instance)
  | isAlive (call : Teardown) (who : Instance) (worker : Nat)
  /-- Record the workers that are alive at the deadline. -/
  | recordOverdue (late : List (Instance × Nat))
  /-- `boxes[name].get("error")` -/
  | errorOf (worker : Nat)
  /-- Return the outcome. -/
  | reply (result : InvalidationResult)
  | release (lock : Nat)
  | overdueSubscribers
  | outstandingOverdue
  /-- The callable of a worker returns or raises. -/
  | finish (worker : Nat)

/-- What an operation responds. -/
@[reducible] def Resp : Op → Type
  | .emitLock _ => Nat
  | .split _ => Split
  | .start _ _ => Nat
  | .isAlive _ _ _ => Bool
  | .errorOf _ => Option String
  | .overdueSubscribers => List Instance
  | .outstandingOverdue => Nat
  | _ => Unit

namespace World

/-- `setdefault(target_key, {})[name] = subscriber` -/
def subscribe (w : World) (targetKey : TargetKey) (name : String) (subscriber : Nat) : World :=
  { w with
    subscribers := Function.update w.subscribers targetKey
      ((w.subscribers targetKey).set name subscriber) }

/-- `subscribers.pop(name, None)` -/
def unsubscribe (w : World) (targetKey : TargetKey) (name : String) : World :=
  { w with
    subscribers := Function.update w.subscribers targetKey
      ((w.subscribers targetKey).erase name) }

/-- An emit lock is created for a target. -/
def addLock (w : World) (targetKey : TargetKey) : World :=
  { w with
    emitLocks := Function.update w.emitLocks targetKey (some w.held.length)
    held := w.held ++ [false] }

/-- An emit lock is acquired or released. -/
def setHeld (w : World) (lock : Nat) (held : Bool) : World :=
  { w with held := w.held.set lock held }

/-- A worker is started. -/
def addWorker (w : World) (call : Teardown) (who : Instance) : World :=
  { w with workers := w.workers ++ [⟨call, who, true, none⟩] }

/-- `_overdue` gets the entries of late workers. -/
def recordOverdue (w : World) (late : List (Instance × Nat)) : World :=
  { w with overdue := w.overdue.setAll late, lates := late ++ w.lates }

/-- A worker ends. -/
def finish (w : World) (worker : Nat) : World :=
  { w with
    workers := w.workers.modify worker fun a =>
      { a with running := false, error := w.raises worker } }

/-- The error of a worker. -/
def errorOf (w : World) (worker : Nat) : Option String :=
  match w.workers[worker]? with
  | some a => a.error
  | none => none

end World

/-- The operations. -/
def exec : (o : Op) → World → Except Empty (Resp o) × World
  | .subscribe targetKey name subscriber, w => (.ok (), w.subscribe targetKey name subscriber)
  | .unsubscribe targetKey name, w => (.ok (), w.unsubscribe targetKey name)
  | .emitLock targetKey, w =>
      match w.emitLocks targetKey with
      | some lock => (.ok lock, w)
      | none => (.ok w.held.length, w.addLock targetKey)
  | .acquire lock, w => (.ok (), w.setHeld lock true)
  | .split targetKey, w => (.ok (w.prune.split targetKey), w.prune)
  | .start call who, w => (.ok w.workers.length, w.addWorker call who)
  | .isAlive _ _ worker, w => (.ok (w.isAlive worker), w)
  | .recordOverdue late, w => (.ok (), w.recordOverdue late)
  | .errorOf worker, w => (.ok (w.errorOf worker), w)
  | .reply _, w => (.ok (), w)
  | .release lock, w => (.ok (), w.setHeld lock false)
  | .overdueSubscribers, w => (.ok w.prune.overdue.keys, w.prune)
  | .outstandingOverdue, w => (.ok w.prune.overdue.entries.length, w.prune)
  | .finish worker, w => (.ok (), w.finish worker)

/-- A program of the dispatcher. -/
abbrev Run (α : Type) : Type := Prog Resp Empty α

/-- One operation. -/
abbrev act (o : Op) : Run (Resp o) := Prog.perform o

/-! ## Emit -/

/-- Start one worker for each subscriber. -/
def startAll (call : Teardown) (targetKey : TargetKey) :
    List (String × Nat) → Run (List (Instance × Nat))
  | [] => pure []
  | (name, subscriber) :: rest => do
      let worker ← act (.start call ⟨targetKey, name, subscriber⟩)
      let workers ← startAll call targetKey rest
      pure ((⟨targetKey, name, subscriber⟩, worker) :: workers)

/-- The workers that are alive. -/
def stillAlive (call : Teardown) : List (Instance × Nat) → Run (List (Instance × Nat))
  | [] => pure []
  | (who, worker) :: rest => do
      let alive ← act (.isAlive call who worker)
      let others ← stillAlive call rest
      pure (if alive then (who, worker) :: others else others)

/-- What `_run_bounded` returns.  The boxes are with the workers. -/
structure Bounded where
  alive : List (Instance × Nat)
  workers : List (Instance × Nat)

/-- `_run_bounded` -/
def runBounded (call : Teardown) (targetKey : TargetKey) (fns : List (String × Nat)) :
    Run Bounded := do
  let workers ← startAll call targetKey fns
  let alive ← stillAlive call workers
  pure ⟨alive, workers⟩

/-- The names of some workers. -/
def names (workers : List (Instance × Nat)) : List String := workers.map fun l => l.1.name

/-- The errors of the subscribers that are not invoked again. -/
def overdueErrors (alreadyOverdue : List String) : Dict String String :=
  Dict.empty.setAll (alreadyOverdue.map fun name =>
    (name, "subscriber still overdue from a prior event; not re-invoked (single-flight)"))

/-- The errors of the workers that ended in time. -/
def collectErrors (alive : List String) :
    List (Instance × Nat) → Dict String String → Run (Dict String String)
  | [], errors => pure errors
  | (who, worker) :: rest, errors =>
      if who.name ∈ alive then collectErrors alive rest errors
      else do
        match ← act (.errorOf worker) with
        | some error => collectErrors alive rest (errors.set who.name error)
        | none => collectErrors alive rest errors

/-- The errors of the late subscribers as they are dropped. -/
def lateErrors (deadline : String) (late : List (Instance × Nat)) (errors : Dict String String) :
    Dict String String :=
  errors.setAll ((names late).map fun name =>
    (name, s!"invalidate exceeded {deadline}s; force_drop invoked"))

/-- What `_force_drop_newly_overdue` leaves. -/
structure Dropped where
  errors : Dict String String
  forceDropped : List String

/-- Sort the drops by how they ended. -/
def settleDrops (alive : List String) : List (Instance × Nat) → Dropped → Run Dropped
  | [], dropped => pure dropped
  | (who, worker) :: rest, dropped =>
      if who.name ∈ alive then
        settleDrops alive rest { dropped with
          errors := dropped.errors.set who.name
            "invalidate and force_drop both exceeded the deadline; registry reaper is the backstop" }
      else do
        match ← act (.errorOf worker) with
        | some error =>
            settleDrops alive rest { dropped with
              errors := dropped.errors.set who.name s!"force_drop error: {error}" }
        | none =>
            settleDrops alive rest { dropped with
              forceDropped := dropped.forceDropped ++ [who.name] }

/-- `_force_drop_newly_overdue` -/
def forceDropNewlyOverdue (deadline : String) (targetKey : TargetKey)
    (late : List (Instance × Nat)) (errors : Dict String String) : Run Dropped :=
  if late = [] then pure ⟨errors, []⟩
  else do
    let drops ← runBounded .forceDrop targetKey
      (late.map fun l => (l.1.name, l.1.subscriber))
    settleDrops (names drops.alive) drops.workers ⟨lateErrors deadline late errors, []⟩

/-- `emit` -/
def emit (deadline : String) (event : LifecycleEvent) : Run Unit := do
  let lock ← act (.emitLock event.targetKey)
  act (.acquire lock)
  let split ← act (.split event.targetKey)
  let invalidated ← runBounded .invalidate event.targetKey split.runnable.entries
  act (.recordOverdue invalidated.alive)
  let errors ← collectErrors (names invalidated.alive) invalidated.workers
    (overdueErrors split.alreadyOverdue)
  let dropped ← forceDropNewlyOverdue deadline event.targetKey invalidated.alive errors
  act (.reply
    { targetKey := event.targetKey
      kind := event.kind
      errors := dropped.errors
      overdue := split.alreadyOverdue ++ names invalidated.alive
      forceDropped := dropped.forceDropped })
  act (.release lock)

/-! ## Calls and workers -/

/-- A call of the dispatcher. -/
inductive Call where
  | subscribe (targetKey : TargetKey) (name : String) (subscriber : Nat)
  | unsubscribe (targetKey : TargetKey) (name : String)
  | emit (event : LifecycleEvent)
  | overdueSubscribers
  | outstandingOverdue

/-- What a thread is for. -/
inductive Activity where
  | call (c : Call)
  | worker (worker : Nat)

/-- The program of a call. -/
def Call.body (deadline : String) : Call → Run Unit
  | .subscribe targetKey name subscriber => act (.subscribe targetKey name subscriber)
  | .unsubscribe targetKey name => act (.unsubscribe targetKey name)
  | .emit event => Lifecycle.emit deadline event
  | .overdueSubscribers => (act .overdueSubscribers).void
  | .outstandingOverdue => (act .outstandingOverdue).void

/-- The dispatcher as a machine.  A lock is acquired once it is free. -/
def machine (deadline : String) : Machine Resp Empty World Activity where
  exec := exec
  ready := fun
    | .acquire lock, w => w.held[lock]? = some false
    | _, _ => true
  body := fun
    | .call c => c.body deadline
    | .worker worker => act (.finish worker)
  spawns := fun
    | .start _ _, .ok worker => [.worker worker]
    | _, _ => []

/-- The dispatcher after some calls have run along a schedule. -/
def dispatched (deadline : String) (raises : Nat → Option String) (calls : List Call)
    (schedule : List Nat) : Pool Resp Empty World Activity :=
  (machine deadline).run schedule
    ((machine deadline).pool (.fresh raises) (calls.map .call))

end Kdive.Lifecycle

import Kdive.Transport.AgentProxy
import Mathlib.Data.List.Induction

/-!
# The life of a handle

While a session lasts its handle is looked at, breaks are sent over its console, and in the end
its child is stopped, through the `Popen` or, by a server that was started later, through the
recorded process number.  All of this may happen in any order and any number of times, and
whoever held a number or a port may have passed it on.

*The guard.*  `Guard` keeps the last exchange and the connection that is open.  `Allowed` admits
a signal only behind an exchange that found the recorded start time at the number, `SIGKILL` to
a `Popen` only behind a wait that timed out, and a write only behind an exchange that found the
child listening.  No process is started.

`life_guarded` is what any surroundings see of a life.
-/

namespace Kdive.AgentProxy

open Program

/-! ## Actions -/

/-- What is done with a handle. -/
inductive Action where
  | health
  | sendBreak
  | stop
  | stopByIdentity (passes : Nat)
deriving DecidableEq, Repr

/-- The script of an action. -/
def Action.script (handle : ProxyHandle) : Action → Script Unit
  | .health => Prog.void (AgentProxy.health handle)
  | .sendBreak => AgentProxy.sendBreak handle
  | .stop => AgentProxy.stop handle
  | .stopByIdentity passes => Prog.void (AgentProxy.stopByIdentity passes handle.backend)

/-- One action after the other, whether they raise or not. -/
def life (handle : ProxyHandle) (actions : List Action) : Script Unit :=
  Prog.forEach actions fun action => Prog.suppress (action.script handle)

/-! ## The guard -/

/-- The last exchange, and the port of the connection that is open. -/
structure Guard where
  last : Option (Exchange Resp ProxyError)
  connected : Option Nat

/-- An exchange more.  A connection is given up even if closing it raises. -/
def Guard.step (guard : Guard) (x : Exchange Resp ProxyError) : Guard where
  last := some x
  connected :=
    match x with
    | ⟨.connect port, .ok _⟩ => some port
    | ⟨.closeConn, _⟩ => none
    | _ => guard.connected

/-- The exchange that finds the recorded process. -/
def findsProcess (backend : BackendIdentity) : Exchange Resp ProxyError :=
  ⟨.identity backend.pid, .ok (some backend.startTime)⟩

/-- The exchange that finds it listening. -/
def findsListener (handle : ProxyHandle) : Exchange Resp ProxyError :=
  ⟨.ownsListener handle.backend.pid handle.consolePort, .ok (some true)⟩

/-- The last exchange found the recorded process. -/
def Guard.Knows (guard : Guard) (handle : ProxyHandle) : Prop :=
  handle.backend.startTime ≠ none ∧ guard.last = some (findsProcess handle.backend)

/-- What the guard admits. -/
def Guard.Allowed (handle : ProxyHandle) (guard : Guard) (x : Exchange Resp ProxyError) : Prop :=
  match x.op with
  | .popen _ => False
  | .connect _ => guard.connected = none
  | .sendall octets => octets = BREAK_ESCAPE ∧ guard.connected = some handle.consolePort ∧
      guard.last = some (findsListener handle)
  | .osKill pid _ => pid = handle.backend.pid ∧ guard.Knows handle
  | .terminate child => child = handle.process ∧ guard.Knows handle
  | .kill child => child = handle.process ∧
      (guard.last = some ⟨.terminate child, .error .timeoutExpired⟩ ∨
        guard.last = some ⟨.wait child TERM_GRACE, .error .timeoutExpired⟩)
  | _ => True

/-- The rule of the guard. -/
abbrev guarded (handle : ProxyHandle) : Prog.Rule Resp ProxyError Guard :=
  Prog.Rule.watched Guard.step (Guard.Allowed handle)

section Guard

variable {handle : ProxyHandle} {guard : Guard} {α : Type}

/-- A call that the guard admits at any time, and that leaves the connection alone. -/
def Quiet : Op → Prop
  | .popen _ | .connect _ | .closeConn | .sendall _ | .osKill _ _ | .terminate _ | .kill _ => False
  | _ => True

theorem guarded_quiet {o : Op} (ho : Quiet o) {Q : Except ProxyError (Resp o) → Guard → Prop}
    (hQ : ∀ r, Q r ⟨some ⟨o, r⟩, guard.connected⟩) : guarded handle o Q guard := by
  intro r
  cases o with
  | popen | connect | closeConn | sendall | osKill | terminate | kill => exact ho.elim
  | _ => exact ⟨trivial, hQ r⟩

theorem guarded_close {Q : Except ProxyError Unit → Guard → Prop}
    (hQ : ∀ r, Q r ⟨some ⟨.closeConn, r⟩, none⟩) : guarded handle .closeConn Q guard :=
  fun r => ⟨trivial, hQ r⟩

theorem guarded_connect {port : Nat} {Q : Except ProxyError Unit → Guard → Prop}
    (hguard : guard.connected = none)
    (herror : ∀ e, Q (.error e) ⟨some ⟨.connect port, .error e⟩, none⟩)
    (hok : Q (.ok ()) ⟨some ⟨.connect port, .ok ()⟩, some port⟩) :
    guarded handle (.connect port) Q guard := by
  intro r
  cases r with
  | error e => exact ⟨hguard, by simpa [Guard.step, hguard] using herror e⟩
  | ok u => exact ⟨hguard, hok⟩

/-! ## The scripts -/

/-- No connection is open. -/
def Guard.Closed (guard : Guard) : Prop := guard.connected = none

/-- A script that calls what is quiet keeps the connection. -/
theorem quiet_keeps {p : Script α} (hp : p.Calls Quiet) {Q : Except ProxyError α → Guard → Prop}
    (hguard : guard.Closed) (hQ : ∀ r guard', guard'.Closed → Q r guard') :
    p.wp (guarded handle) Q guard :=
  hp.wp (fun _ ho _ _ hg hR => guarded_quiet ho fun r => hR r _ hg) hQ hguard

theorem identityCurrent_guarded {Q : Except ProxyError Bool → Guard → Prop}
    (hguard : guard.Closed)
    (hyes : ∀ guard', guard'.Closed → guard'.Knows handle → Q (.ok true) guard')
    (hno : ∀ r guard', guard'.Closed → r ≠ .ok true → Q r guard') :
    (identityCurrent handle).wp (guarded handle) Q guard := by
  rw [identityCurrent, Prog.wp_bind, Prog.wp_perform]
  refine guarded_quiet (by trivial) fun alive => ?_
  cases alive with
  | error e => exact hno _ _ hguard nofun
  | ok alive =>
      dsimp only
      split
      · rw [Prog.wp_bind, Prog.wp_perform]
        refine guarded_quiet (by trivial) fun observed => ?_
        cases observed with
        | error e => exact hno _ _ hguard nofun
        | ok observed =>
            by_cases hfound : observed.join ≠ none ∧ observed.join = handle.backend.startTime
            · have hobserved : observed = some handle.backend.startTime := by
                cases observed with
                | none => exact absurd rfl hfound.1
                | some startTime => exact congrArg some hfound.2
              refine (Prog.wp_pure _).mpr ?_
              rw [decide_eq_true hfound]
              exact hyes _ hguard ⟨hfound.2 ▸ hfound.1, by rw [findsProcess, ← hobserved]⟩
            · refine (Prog.wp_pure _).mpr (hno _ _ hguard fun hyes => ?_)
              rw [decide_eq_false hfound] at hyes
              cases hyes
      · exact hno _ _ hguard nofun

theorem slice_quiet : slice.Calls Quiet := by
  refine .bind (.bind (.call trivial) fun set => ?_) fun _ => .bind (.call trivial) fun late => ?_
  · cases set <;> trivial
  · cases late <;> trivial

theorem connectTcp_guarded {port : Nat} {Q : Except ProxyError Unit → Guard → Prop}
    (hguard : guard.Closed) (herror : ∀ e guard', guard'.Closed → Q (.error e) guard')
    (hok : ∀ guard', guard'.connected = some port → Q (.ok ()) guard') :
    (connectTcp port).wp (guarded handle) Q guard := by
  rw [connectTcp, Prog.wp_bind]
  refine quiet_keeps slice_quiet hguard fun r guard' hguard' => ?_
  cases r with
  | error e => exact herror e guard' hguard'
  | ok u =>
      dsimp only
      rw [Prog.wp_perform]
      exact guarded_connect hguard' (fun e => herror e _ rfl) (hok _ rfl)

theorem portServed_guarded {port : Nat} {Q : Except ProxyError Bool → Guard → Prop}
    (hguard : guard.Closed) (hQ : ∀ r guard', guard'.Closed → Q r guard') :
    (portServed handle port).wp (guarded handle) Q guard := by
  rw [portServed, Prog.wp_bind, Prog.wp_perform]
  refine guarded_quiet (by trivial) fun owned => ?_
  have hexcept : ∀ e guard', guard'.Closed →
      ((if e.isOs = true then return false else .raise e) : Script Bool).wp (guarded handle) Q
        guard' := by
    intro e guard' hguard'
    split <;> exact hQ _ _ hguard'
  cases owned with
  | error e => exact hQ _ _ hguard
  | ok owned =>
      dsimp only
      split
      · rw [Prog.wp_rescue, Prog.wp_bind]
        refine connectTcp_guarded hguard (fun e guard' hguard' => hexcept e guard' hguard')
          fun guard' hconnected => ?_
        dsimp only
        rw [Prog.wp_bind, Prog.wp_perform]
        refine guarded_close fun closed => ?_
        cases closed with
        | error e => exact hexcept e _ rfl
        | ok u => exact hQ _ _ rfl
      · exact hQ _ _ hguard

theorem health_guarded {Q : Except ProxyError Bool → Guard → Prop} (hguard : guard.Closed)
    (hQ : ∀ r guard', guard'.Closed → Q r guard') : (health handle).wp (guarded handle) Q guard := by
  rw [health, Prog.wp_bind]
  have hports : ∀ guard', guard'.Closed → ((do
      if ← portServed handle handle.consolePort then portServed handle handle.gdbPort
      else return false) : Script Bool).wp (guarded handle) Q guard' := by
    intro guard' hguard'
    rw [Prog.wp_bind]
    refine portServed_guarded hguard' fun r guard'' hguard'' => ?_
    cases r with
    | error e => exact hQ _ _ hguard''
    | ok served =>
        cases served with
        | false => exact hQ _ _ hguard''
        | true => exact portServed_guarded hguard'' hQ
  refine identityCurrent_guarded hguard (fun guard' hguard' _ => hports guard' hguard')
    fun r guard' hguard' hr => ?_
  cases r with
  | error e => exact hQ _ _ hguard'
  | ok current =>
      cases current with
      | false => exact hQ _ _ hguard'
      | true => exact absurd rfl hr

/-- Between the connection and its end. -/
theorem writeBreak_guarded {Q : Except ProxyError Unit → Guard → Prop}
    (hguard : guard.connected = some handle.consolePort)
    (hQ : ∀ r guard', guard'.connected = some handle.consolePort → Q r guard') :
    (writeBreak handle).wp (guarded handle) Q guard := by
  rw [writeBreak, Prog.wp_bind, Prog.wp_perform]
  refine guarded_quiet (by trivial) fun owned => ?_
  cases owned with
  | error e => exact hQ _ _ hguard
  | ok owned =>
      dsimp only
      split
      · next howned =>
          subst howned
          rw [Prog.wp_perform]
          exact fun r => ⟨⟨rfl, hguard, rfl⟩, hQ r _ hguard⟩
      · exact hQ _ _ hguard

theorem sendBreak_guarded {Q : Except ProxyError Unit → Guard → Prop} (hguard : guard.Closed)
    (hQ : ∀ r guard', guard'.Closed → Q r guard') :
    (sendBreak handle).wp (guarded handle) Q guard := by
  rw [sendBreak, Prog.wp_bind]
  refine identityCurrent_guarded hguard (fun guard₁ hguard₁ _ => ?_) fun r guard₁ hguard₁ hr => ?_
  · simp only [if_true]
    rw [Prog.wp_bind, Prog.wp_perform]
    refine guarded_quiet (by trivial) fun owned => ?_
    cases owned with
    | error e => exact hQ _ _ hguard₁
    | ok owned =>
        dsimp only
        split
        · rw [Prog.wp_bind]
          refine connectTcp_guarded hguard₁ (fun e guard₂ => hQ _ guard₂) fun guard₂ hconnected => ?_
          dsimp only
          rw [Prog.wp_bind, Prog.wp_attempt]
          refine writeBreak_guarded hconnected fun written guard₃ _ => ?_
          dsimp only
          -- whatever the write came to, the connection is given up
          rw [Prog.wp_bind, Prog.wp_perform]
          refine guarded_close fun closed => ?_
          cases closed with
          | error e => exact hQ _ _ rfl
          | ok u => exact Prog.wp_ofExcept _ |>.mpr (hQ _ _ rfl)
        · exact hQ _ _ hguard₁
  · cases r with
    | error e => exact hQ _ _ hguard₁
    | ok current =>
        cases current with
        | false => exact hQ _ _ hguard₁
        | true => exact absurd rfl hr

/-- `SIGKILL` follows a step that timed out. -/
theorem killChild_guarded {Q : Except ProxyError Unit → Guard → Prop} (hguard : guard.Closed)
    (hlast : guard.last = some ⟨.terminate handle.process, .error .timeoutExpired⟩ ∨
      guard.last = some ⟨.wait handle.process TERM_GRACE, .error .timeoutExpired⟩)
    (hQ : ∀ r guard', guard'.Closed → Q r guard') :
    (killChild handle.process).wp (guarded handle) Q guard := by
  have hexcept : ∀ e guard', guard'.Closed →
      ((if e = .timeoutExpired ∨ e.isOs = true then return () else .raise e) : Script Unit).wp
        (guarded handle) Q guard' := by
    intro e guard' hguard'
    split <;> exact hQ _ _ hguard'
  rw [killChild, Prog.wp_rescue, Prog.wp_bind, Prog.wp_perform]
  refine fun r => ⟨⟨rfl, hlast⟩, ?_⟩
  cases r with
  | error e => exact hexcept e _ hguard
  | ok u =>
      dsimp only
      rw [Prog.wp_perform]
      refine guarded_quiet (by trivial) fun waited => ?_
      cases waited with
      | error e => exact hexcept e _ hguard
      | ok u => exact hQ _ _ hguard

theorem reap_guarded {Q : Except ProxyError Unit → Guard → Prop} (hguard : guard.Closed)
    (hknows : guard.Knows handle) (hQ : ∀ r guard', guard'.Closed → Q r guard') :
    (reap handle.process).wp (guarded handle) Q guard := by
  have hexcept : ∀ e guard', guard'.Closed →
      (guard'.last = some ⟨.terminate handle.process, .error e⟩ ∨
        guard'.last = some ⟨.wait handle.process TERM_GRACE, .error e⟩) →
      (if e = .timeoutExpired then killChild handle.process
        else if e.isOs = true then return () else .raise e).wp (guarded handle) Q guard' := by
    intro e guard' hguard' hlast
    split
    · next htimeout => exact killChild_guarded hguard' (htimeout ▸ hlast) hQ
    · split <;> exact hQ _ _ hguard'
  rw [reap, Prog.wp_rescue, Prog.wp_bind, Prog.wp_perform]
  refine fun r => ⟨⟨rfl, hknows⟩, ?_⟩
  cases r with
  | error e => exact hexcept e _ hguard (.inl rfl)
  | ok u =>
      dsimp only
      rw [Prog.wp_perform]
      refine guarded_quiet (by trivial) fun waited => ?_
      cases waited with
      | error e => exact hexcept e _ hguard (.inr rfl)
      | ok u => exact hQ _ _ hguard

theorem stop_guarded {Q : Except ProxyError Unit → Guard → Prop} (hguard : guard.Closed)
    (hQ : ∀ r guard', guard'.Closed → Q r guard') : (stop handle).wp (guarded handle) Q guard := by
  rw [stop, Prog.wp_bind]
  refine identityCurrent_guarded hguard (fun guard' hguard' hknows => ?_) fun r guard' hguard' hr => ?_
  · exact reap_guarded hguard' hknows hQ
  · cases r with
    | error e => exact hQ _ _ hguard'
    | ok current =>
        cases current with
        | false =>
            refine (Prog.wp_perform _).mpr (guarded_quiet (by trivial) fun polled => ?_)
            exact hQ _ _ hguard'
        | true => exact absurd rfl hr

theorem signalled_guarded {signal : Signal} {Q : Except ProxyError Bool → Guard → Prop}
    (hguard : guard.Closed) (hknows : guard.Knows handle)
    (hQ : ∀ r guard', guard'.Closed → Q r guard') :
    (signalled? handle.backend.pid signal).wp (guarded handle) Q guard := by
  rw [signalled?, Prog.wp_rescue, Prog.wp_bind, Prog.wp_perform]
  refine fun r => ⟨⟨rfl, hknows⟩, ?_⟩
  cases r with
  | error e =>
      dsimp only
      split <;> exact hQ _ _ hguard
  | ok u => exact hQ _ _ hguard

theorem awaitDeath_quiet (passes pid : Nat) : (awaitDeath passes pid).Calls Quiet := by
  induction passes with
  | zero => exact .bind (.call trivial) fun _ => trivial
  | succ passes ih =>
      refine .bind (.call trivial) fun late => ?_
      split
      · trivial
      · refine .bind (.call trivial) fun alive => ?_
        split
        · exact .bind (.call trivial) fun _ => ih
        · trivial

/-- The recorded process is looked for once more before `SIGKILL`. -/
theorem killAgain_guarded {Q : Except ProxyError Bool → Guard → Prop}
    (hstart : handle.backend.startTime ≠ none) (hguard : guard.Closed)
    (hQ : ∀ r guard', guard'.Closed → Q r guard') :
    ((do
      if (← Prog.perform (Op.identity handle.backend.pid)) = some handle.backend.startTime then
        let _ ← signalled? handle.backend.pid .sigkill
        return true
      else return true) : Script Bool).wp (guarded handle) Q guard := by
  rw [Prog.wp_bind, Prog.wp_perform]
  refine guarded_quiet (by trivial) fun found => ?_
  cases found with
  | error e => exact hQ _ _ hguard
  | ok found =>
      dsimp only
      split
      · next hfound =>
          subst hfound
          rw [Prog.wp_bind]
          refine signalled_guarded hguard ⟨hstart, rfl⟩ fun sent guard' hguard' => ?_
          cases sent <;> exact hQ _ _ hguard'
      · exact hQ _ _ hguard

theorem stopByIdentity_guarded {passes : Nat} {Q : Except ProxyError Bool → Guard → Prop}
    (hguard : guard.Closed) (hQ : ∀ r guard', guard'.Closed → Q r guard') :
    (stopByIdentity passes handle.backend).wp (guarded handle) Q guard := by
  unfold stopByIdentity
  split
  · exact hQ _ _ hguard
  · next hstart =>
      rw [Prog.wp_bind, Prog.wp_perform]
      refine guarded_quiet (by trivial) fun found => ?_
      cases found with
      | error e => exact hQ _ _ hguard
      | ok found =>
          dsimp only
          split
          · next hfound =>
              subst hfound
              rw [Prog.wp_bind]
              refine signalled_guarded hguard ⟨hstart, rfl⟩ fun sent guard₁ hguard₁ => ?_
              cases sent with
              | error e => exact hQ _ _ hguard₁
              | ok sent =>
                  dsimp only
                  split
                  · rw [Prog.wp_bind]
                    refine quiet_keeps (awaitDeath_quiet _ _) hguard₁ fun dead guard₂ hguard₂ => ?_
                    cases dead with
                    | error e => exact hQ _ _ hguard₂
                    | ok dead =>
                        dsimp only
                        split
                        · exact hQ _ _ hguard₂
                        · exact killAgain_guarded hstart hguard₂ hQ
                  · exact hQ _ _ hguard₁
          · exact hQ _ _ hguard

theorem script_guarded (action : Action) {Q : Except ProxyError Unit → Guard → Prop}
    (hguard : guard.Closed) (hQ : ∀ r guard', guard'.Closed → Q r guard') :
    (action.script handle).wp (guarded handle) Q guard := by
  cases action with
  | health => exact (Prog.wp_void _).mpr (health_guarded hguard fun r => hQ _)
  | sendBreak => exact sendBreak_guarded hguard hQ
  | stop => exact stop_guarded hguard hQ
  | stopByIdentity passes =>
      exact (Prog.wp_void _).mpr (stopByIdentity_guarded hguard fun r => hQ _)

/-- Whatever an action comes to, it leaves no connection, and the next one may follow. -/
theorem life_wp (actions : List Action) (hguard : guard.Closed) :
    (life handle actions).wp (guarded handle) (fun _ guard' => guard'.Closed) guard := by
  refine Prog.wp_forEach Prog.Rule.watched_mono (fun action _ guard hguard => ?_)
    (fun _ hguard => hguard) hguard
  exact (Prog.wp_suppress _).mpr (script_guarded action hguard fun _ _ hguard' => hguard')

end Guard

/-! ## The result -/

/-- The connection that is open behind a transcript. -/
def connection (said : Said) : Option Nat := (said.foldl Guard.step ⟨none, none⟩).connected

/-- `tables n` has the start times of the processes that have a number while the exchange `n` is
made, and the probe reads them there. -/
def Tells (tables : Nat → Nat → Option (Option String)) (said : Said) : Prop :=
  ∀ before pid found after, said = before ++ ⟨.identity pid, .ok found⟩ :: after →
    found = tables before.length pid

/-- What a life shows. -/
structure Guarded (handle : ProxyHandle) (said : Said) : Prop where
  /-- A number is signalled right behind the exchange that found the recorded process there. -/
  byNumber : ∀ before pid signal r after, said = before ++ ⟨.osKill pid signal, r⟩ :: after →
    pid = handle.backend.pid ∧ handle.backend.startTime ≠ none ∧
      before.getLast? = some (findsProcess handle.backend)
  /-- So is the `Popen`, first with `SIGTERM`. -/
  terminated : ∀ before child r after, said = before ++ ⟨.terminate child, r⟩ :: after →
    child = handle.process ∧ handle.backend.startTime ≠ none ∧
      before.getLast? = some (findsProcess handle.backend)
  /-- `SIGKILL` follows where that timed out. -/
  killed : ∀ before child r after, said = before ++ ⟨.kill child, r⟩ :: after →
    child = handle.process ∧
      (before.getLast? = some ⟨.terminate child, .error .timeoutExpired⟩ ∨
        before.getLast? = some ⟨.wait child TERM_GRACE, .error .timeoutExpired⟩)
  /-- A break is all that is written, right behind the exchange that found the child listening. -/
  written : ∀ before octets r after, said = before ++ ⟨.sendall octets, r⟩ :: after →
    octets = BREAK_ESCAPE ∧ connection before = some handle.consolePort ∧
      before.getLast? = some (findsListener handle)
  /-- One connection at a time, and none is left. -/
  connected : ∀ before port r after, said = before ++ ⟨.connect port, r⟩ :: after →
    connection before = none
  closed : connection said = none
  /-- A process that is signalled by number and is not the recorded one has got the number
  between these two exchanges. -/
  reused : ∀ tables, Tells tables said →
    ∀ before pid signal r after, said = before ++ ⟨.osKill pid signal, r⟩ :: after →
      tables before.length pid ≠ some handle.backend.startTime →
        tables before.length pid ≠ tables (before.length - 1) pid

theorem foldl_last (said : Said) (guard : Guard) :
    (said.foldl Guard.step guard).last = said.getLast?.or guard.last := by
  induction said using List.reverseRecOn with
  | nil => rfl
  | append_singleton said x => simp [Guard.step]

theorem last_eq (said : Said) : (said.foldl Guard.step ⟨none, none⟩).last = said.getLast? := by
  rw [foldl_last, Option.or_none]

/-- Surroundings where nobody knows any more who listens, and the number goes to another process
while the end of the first one is awaited. -/
def contested : (o : Op) → Nat → Except ProxyError (Resp o) × Nat
  | .isSet, n | .expired, n => (.ok false, n + 1)
  | .isAlive _, n | .looksLike _, n => (.ok true, n + 1)
  | .ownsListener _ _, n => (.ok (if n < 10 then some true else none), n + 1)
  | .identity _, n => (.ok (some (some (if n < 20 then "77" else "91"))), n + 1)
  | .allocatePorts, n => (.ok (4440, 4441), n + 1)
  | .popen _, n => (.ok ⟨n, 4242⟩, n + 1)
  | .closePorts, n | .onPartial _, n | .connect _, n | .closeConn, n | .sendall _, n
  | .sleep, n | .terminate _, n | .kill _, n | .wait _ _, n | .poll _, n | .osKill _ _, n =>
      (.ok (), n + 1)

/-- A handle for it. -/
def recorded : ProxyHandle := ⟨⟨0, 4242⟩, ⟨4242, some "77"⟩, 4440, 4441⟩

end Kdive.AgentProxy

import Kdive.Transport.AgentProxy

/-!
# The custody of a child

Whatever its calls respond and raise, a start of agent-proxy has one child at a time, signals
no other, and lets each one go before it starts the next and before it raises.  The handle it
returns is of the child that is left.  That child was published with its start time, and found
alive and listening on both ports, and nothing was done to it since.

*The watch.*  `Watch` reads a transcript call by call: the children there are, and what the last
looks at the event and at the clock found.  `Allowed` is what it admits.

A call of `_reap` that raises neither `TimeoutExpired` nor an `OSError` cuts it short, and its
child stays.
-/

namespace Kdive.AgentProxy

open Program

/-! ## What an exchange does -/

/-- The child it starts. -/
def spawned : Exchange Resp ProxyError → Option Child
  | ⟨.popen _, .ok child⟩ => some child
  | _ => none

/-- The child it signals. -/
def signalled : Exchange Resp ProxyError → Option Child
  | ⟨.terminate child, _⟩ | ⟨.kill child, _⟩ => some child
  | _ => none

/-- What `_reap` lets pass. -/
def ProxyError.passes (e : ProxyError) : Bool := e = .timeoutExpired ∨ e.isOs = true

/-- The child it lets go: waited for, killed, or gone. -/
def letGo : Exchange Resp ProxyError → Option Child
  | ⟨.wait child _, .ok _⟩ | ⟨.kill child, .ok _⟩ => some child
  | ⟨.wait child _, .error e⟩ | ⟨.terminate child, .error e⟩ => if e.isOs then some child else none
  | ⟨.kill child, .error e⟩ => if e.passes then some child else none
  | _ => none

/-- The child whose reaping it cuts short. -/
def cutShort : Exchange Resp ProxyError → Option Child
  | ⟨.terminate child, .error e⟩ | ⟨.kill child, .error e⟩ | ⟨.wait child _, .error e⟩ =>
      if e.passes then none else some child
  | _ => none

/-- A call that neither starts nor stops a process. -/
def Looks : Op → Prop
  | .popen _ | .terminate _ | .kill _ | .wait _ _ | .osKill _ _ => False
  | _ => True

/-! ## The watch -/

/-- The children there are, and what the last looks found. -/
structure Watch where
  children : List Child
  uncancelled : Bool
  inTime : Bool

/-- An exchange more. -/
def Watch.step (watch : Watch) (x : Exchange Resp ProxyError) : Watch where
  children := (spawned x).toList ++ watch.children.filter fun child => letGo x ≠ some child
  uncancelled :=
    match x with
    | ⟨.isSet, .ok set⟩ => !set
    | _ => watch.uncancelled
  inTime :=
    match x with
    | ⟨.expired, .ok late⟩ => !late
    | _ => watch.inTime

/-- A process is started while there is none, nobody has cancelled and time is left.  The one
there is may be signalled, and no process is by its number. -/
def Allowed (watch : Watch) (x : Exchange Resp ProxyError) : Prop :=
  (∀ argv, x.op = .popen argv →
    watch.children = [] ∧ watch.uncancelled = true ∧ watch.inTime = true) ∧
  (∀ child, signalled x = some child → watch.children = [child]) ∧
  ∀ pid signal, x.op ≠ .osKill pid signal

/-- The watch at the start: nothing was looked at. -/
def Watch.idle : Watch := ⟨[], false, false⟩

/-- The watch admits a transcript. -/
abbrev Admits (watch : Watch) (said : Said) : Prop := Prog.Fenced Watch.step Allowed watch said

/-- No child is left, or the one whose reaping was cut short. -/
def Left (children : List Child) (said : Said) : Prop :=
  children = [] ∨
    ∃ before x child, said = before ++ [x] ∧ cutShort x = some child ∧ children = [child]

section Watch

variable {watch : Watch} {child : Child} {said : Said}

theorem Left.append_left {children : List Child} (h : Left children said) (before : Said) :
    Left children (before ++ said) := by
  rcases h with h | ⟨start, x, child, rfl, hx, h⟩
  · exact .inl h
  · exact .inr ⟨before ++ start, x, child, (List.append_assoc _ _ _).symm, hx, h⟩

/-- A look changes no child. -/
theorem look_keeps {x : Exchange Resp ProxyError} (h : Looks x.op) (watch : Watch) :
    Allowed watch x ∧ (watch.step x).children = watch.children ∧ spawned x = none := by
  obtain ⟨op, r⟩ := x
  cases op with
  | popen | terminate | kill | wait | osKill => exact h.elim
  | _ =>
      refine ⟨⟨fun _ => nofun, fun _ => nofun, fun _ _ => nofun⟩, ?_, rfl⟩
      exact List.filter_eq_self.mpr fun _ _ => rfl

theorem looks_single {op : Op} (h : Looks op) (r : Except ProxyError (Resp op)) :
    ∀ x ∈ ([⟨op, r⟩] : Said), Looks x.op :=
  fun _ hx => List.mem_singleton.mp hx ▸ h

/-- Looking is admitted at any time. -/
theorem admits_looks (h : ∀ x ∈ said, Looks x.op) (watch : Watch) :
    Admits watch said ∧ (said.foldl Watch.step watch).children = watch.children := by
  have hkeeps : ∀ x ∈ said, ∀ w : Watch, w.children = watch.children →
      Allowed w x ∧ (w.step x).children = watch.children := fun x hx w hw =>
    ⟨(look_keeps (h x hx) w).1, (look_keeps (h x hx) w).2.1.trans hw⟩
  exact Prog.fenced_of_keeps (K := fun w : Watch => w.children = watch.children) rfl hkeeps

theorem spawned_looks (h : ∀ x ∈ said, Looks x.op) : said.filterMap spawned = [] := by
  refine List.filterMap_eq_nil_iff.mpr fun x hx => ?_
  exact (look_keeps (h x hx) .idle).2.2

/-! ## Reaping -/

/-- What reaping its child comes to. -/
structure Reaps (watch : Watch) (said : Said) (result : Except ProxyError Unit) : Prop where
  admits : Admits watch said
  ended : result = .ok () → (said.foldl Watch.step watch).children = []
  left : Left (said.foldl Watch.step watch).children said
  unspawned : said.filterMap spawned = []

theorem Reaps.append_left {before after : Said} {result : Except ProxyError Unit}
    (hadmits : Admits watch before) (hspawned : before.filterMap spawned = [])
    (h : Reaps (before.foldl Watch.step watch) after result) :
    Reaps watch (before ++ after) result where
  admits := Prog.fenced_append.mpr ⟨hadmits, h.admits⟩
  ended hresult := List.foldl_append ▸ h.ended hresult
  left := List.foldl_append ▸ h.left.append_left before
  unspawned := by rw [List.filterMap_append, hspawned, h.unspawned, List.append_nil]

/-- After the kill the child is let go, however the wait for it ends. -/
theorem killChild_reaps (hwatch : watch.children = [child]) {result : Except ProxyError Unit}
    (h : (killChild child).Leaves said result) : Reaps watch said result := by
  have hkilled : ∀ r, Reaps watch [⟨.kill child, .ok ()⟩, ⟨.wait child KILL_GRACE, r⟩] result :=
    fun r => by
      refine ⟨?_, fun _ => ?_, .inl ?_, rfl⟩ <;>
        simp [Prog.Fenced, Allowed, Watch.step, spawned, letGo, signalled, hwatch]
  rcases Prog.leaves_rescue.mp h with ⟨u, htry, rfl⟩ | ⟨e, before, after, htry, hexcept, rfl⟩
  · rcases Prog.leaves_perform_bind.mp htry with ⟨_, -, hraise⟩ | ⟨_, more, rfl, hwait⟩
    · cases hraise
    · obtain rfl := Prog.leaves_perform.mp hwait
      exact hkilled _
  · have hexcept : after = [] ∧ (result = .ok () → e.passes = true) := by
      split at hexcept
      · next hpasses => exact ⟨(Prog.leaves_pure.mp hexcept).1, fun _ => decide_eq_true hpasses⟩
      · obtain ⟨rfl, rfl⟩ := Prog.leaves_raise.mp hexcept
        exact ⟨rfl, fun hok => by cases hok⟩
    obtain ⟨rfl, hpasses⟩ := hexcept
    rw [List.append_nil]
    rcases Prog.leaves_perform_bind.mp htry with ⟨_, rfl, hraise⟩ | ⟨_, more, rfl, hwait⟩
    · cases hraise
      refine ⟨?_, fun hresult => ?_, ?_, rfl⟩
      · simp [Prog.Fenced, Allowed, signalled, hwatch]
      · simp [Watch.step, spawned, letGo, hwatch, hpasses hresult]
      · by_cases hpasses : e.passes = true
        · exact .inl (by simp [Watch.step, spawned, letGo, hwatch, hpasses])
        · exact .inr ⟨[], _, child, rfl, by simp [cutShort, hpasses],
            by simp [Watch.step, spawned, letGo, hwatch, hpasses]⟩
    · obtain rfl := Prog.leaves_perform.mp hwait
      exact hkilled _

theorem reap_reaps (hwatch : watch.children = [child]) {result : Except ProxyError Unit}
    (h : (reap child).Leaves said result) : Reaps watch said result := by
  rcases Prog.leaves_rescue.mp h with ⟨u, htry, rfl⟩ | ⟨e, before, after, htry, hexcept, rfl⟩
  · rcases Prog.leaves_perform_bind.mp htry with ⟨_, -, hraise⟩ | ⟨_, more, rfl, hwait⟩
    · cases hraise
    · obtain rfl := Prog.leaves_perform.mp hwait
      refine ⟨?_, fun _ => ?_, .inl ?_, rfl⟩ <;>
        simp [Prog.Fenced, Allowed, Watch.step, spawned, letGo, signalled, hwatch]
  · have hbefore : before = [⟨.terminate child, .error e⟩] ∨
        before = [⟨.terminate child, .ok ()⟩, ⟨.wait child TERM_GRACE, .error e⟩] := by
      rcases Prog.leaves_perform_bind.mp htry with ⟨_, rfl, hraise⟩ | ⟨_, more, rfl, hwait⟩
      · cases hraise
        exact .inl rfl
      · exact .inr (Prog.leaves_perform.mp hwait ▸ rfl)
    have hadmits : Admits watch before ∧ before.filterMap spawned = [] := by
      rcases hbefore with rfl | rfl <;>
        simp [Prog.Fenced, Allowed, Watch.step, spawned, letGo, signalled, hwatch]
    split at hexcept
    · next htimeout =>
        -- the child is still there, and is killed
        subst htimeout
        have hstays : (before.foldl Watch.step watch).children = [child] := by
          rcases hbefore with rfl | rfl <;>
            simp [Watch.step, spawned, letGo, hwatch, ProxyError.isOs]
        exact (killChild_reaps hstays hexcept).append_left hadmits.1 hadmits.2
    · next htimeout =>
        have hafter : after = [] ∧ (result = .ok () → e.isOs = true) := by
          split at hexcept
          · next hos => exact ⟨(Prog.leaves_pure.mp hexcept).1, fun _ => hos⟩
          · obtain ⟨rfl, rfl⟩ := Prog.leaves_raise.mp hexcept
            exact ⟨rfl, fun hok => by cases hok⟩
        obtain ⟨rfl, hos⟩ := hafter
        rw [List.append_nil]
        have hgone : e.isOs = true → (before.foldl Watch.step watch).children = [] := by
          intro hos
          rcases hbefore with rfl | rfl <;> simp [Watch.step, spawned, letGo, hwatch, hos]
        refine ⟨hadmits.1, fun hresult => hgone (hos hresult), ?_, hadmits.2⟩
        by_cases hos : e.isOs = true
        · exact .inl (hgone hos)
        · rcases hbefore with rfl | rfl
          · exact .inr ⟨[], _, child, rfl, by simp [cutShort, ProxyError.passes, htimeout, hos],
              by simp [Watch.step, spawned, letGo, hwatch, hos]⟩
          · exact .inr ⟨[⟨.terminate child, .ok ()⟩], _, child, rfl,
              by simp [cutShort, ProxyError.passes, htimeout, hos],
              by simp [Watch.step, spawned, letGo, hwatch, hos]⟩

end Watch

/-! ## What looks -/

theorem slice_looks : slice.Calls Looks := by
  refine .bind (.bind (.call trivial) fun set => ?_) fun _ => .bind (.call trivial) fun late => ?_
  · cases set <;> trivial
  · cases late <;> trivial

theorem checkNotCancelled_looks : checkNotCancelled.Calls Looks :=
  .bind (.call trivial) fun set => by cases set <;> trivial

theorem waitForListener_looks (passes port : Nat) : (waitForListener passes port).Calls Looks := by
  induction passes with
  | zero => exact .bind checkNotCancelled_looks fun _ => .bind (.call trivial) fun _ => trivial
  | succ passes ih =>
      refine .bind checkNotCancelled_looks fun _ => .bind (.call trivial) fun late => ?_
      split
      · trivial
      · refine .bind (Prog.calls_attempt.mpr (.bind slice_looks fun _ => .call trivial)) fun r => ?_
        cases r with
        | ok u => exact .call trivial
        | error e =>
            dsimp only
            split
            · exact .bind (.call trivial) fun _ => ih
            · trivial

theorem verifyPort_looks (passes pid port : Nat) : (verifyPort passes pid port).Calls Looks := by
  refine .bind (.rescue (waitForListener_looks passes port) fun e => ?_) fun _ =>
    .bind (.call trivial) fun owned => ?_
  · split <;> trivial
  · split <;> trivial

theorem verified_looks (passes : Nat) (handle : ProxyHandle) :
    (verified passes handle).Calls Looks := by
  unfold verified
  split
  · trivial
  · refine .bind (.call trivial) fun alive => ?_
    split
    · refine .bind (.call trivial) fun named => ?_
      split
      · exact .bind (verifyPort_looks _ _ _) fun _ => verifyPort_looks _ _ _
      · trivial
    · trivial

theorem publish_looks (child : Child) (consolePort gdbPort : Nat) :
    (publish child consolePort gdbPort).Calls Looks :=
  .bind (.call trivial) fun _ => .bind (.call trivial) fun _ => trivial

/-! ## What was found -/

/-- A listener that is waited for is connected to in the end. -/
theorem waitForListener_connects {passes port : Nat} {said : Said}
    (h : (waitForListener passes port).Leaves said (.ok ())) :
    List.Sublist [⟨.connect port, .ok ()⟩] said := by
  induction passes generalizing said with
  | zero =>
      obtain ⟨_, before, after, -, hafter, rfl⟩ := Prog.leaves_bind_ok.mp h
      obtain ⟨late, more, rfl, hmore⟩ := Prog.leaves_perform_bind_ok.mp hafter
      cases (Prog.leaves_raise.mp hmore).2
  | succ passes ih =>
      obtain ⟨_, before, after, -, hafter, rfl⟩ := Prog.leaves_bind_ok.mp h
      obtain ⟨late, more, rfl, hmore⟩ := Prog.leaves_perform_bind_ok.mp hafter
      refine .trans (.cons _ ?_) (List.sublist_append_right before _)
      cases late with
      | true => cases (Prog.leaves_raise.mp hmore).2
      | false =>
          obtain ⟨r, tried, rest, htried, hrest, rfl⟩ := Prog.leaves_attempt_bind.mp hmore
          cases r with
          | ok u =>
              obtain ⟨_, a, b, -, hconnect, rfl⟩ := Prog.leaves_bind_ok.mp htried
              obtain rfl := Prog.leaves_perform.mp hconnect
              exact (List.sublist_append_right a _).trans (List.sublist_append_left _ rest)
          | error e =>
              dsimp only at hrest
              split at hrest
              · obtain ⟨_, more, rfl, hnext⟩ := Prog.leaves_perform_bind_ok.mp hrest
                exact .trans (.cons _ (ih hnext)) (List.sublist_append_right tried _)
              · cases (Prog.leaves_raise.mp hrest).2

theorem verifyPort_finds {passes pid port : Nat} {said : Said}
    (h : (verifyPort passes pid port).Leaves said (.ok ())) :
    List.Sublist [⟨.connect port, .ok ()⟩, ⟨.ownsListener pid port, .ok (some true)⟩] said := by
  obtain ⟨_, before, after, hwait, hafter, rfl⟩ := Prog.leaves_bind_ok.mp h
  have hconnects : List.Sublist [⟨.connect port, .ok ()⟩] before := by
    rcases Prog.leaves_rescue.mp hwait with ⟨_, hwait, -⟩ | ⟨e, tried, rest, -, hexcept, rfl⟩
    · exact waitForListener_connects hwait
    · split at hexcept <;> cases (Prog.leaves_raise.mp hexcept).2
  obtain ⟨owned, more, rfl, hmore⟩ := Prog.leaves_perform_bind_ok.mp hafter
  split at hmore
  · next howned => exact hconnects.append (howned ▸ .cons_cons _ (List.nil_sublist more))
  · cases (Prog.leaves_raise.mp hmore).2

/-- What was found out about a child before its handle is returned. -/
def findings (handle : ProxyHandle) : Said :=
  [⟨.isAlive handle.backend.pid, .ok true⟩, ⟨.looksLike handle.backend.pid, .ok true⟩,
    ⟨.connect handle.consolePort, .ok ()⟩,
    ⟨.ownsListener handle.backend.pid handle.consolePort, .ok (some true)⟩,
    ⟨.connect handle.gdbPort, .ok ()⟩,
    ⟨.ownsListener handle.backend.pid handle.gdbPort, .ok (some true)⟩]

theorem verified_finds {passes : Nat} {handle : ProxyHandle} {said : Said}
    (h : (verified passes handle).Leaves said (.ok ())) :
    handle.backend.startTime ≠ none ∧ (findings handle).Sublist said := by
  unfold verified at h
  split at h
  · cases (Prog.leaves_raise.mp h).2
  · next hstart =>
      refine ⟨hstart, ?_⟩
      obtain ⟨alive, rest, rfl, halive⟩ := Prog.leaves_perform_bind_ok.mp h
      split at halive
      · next hyes =>
          obtain ⟨named, more, rfl, hnamed⟩ := Prog.leaves_perform_bind_ok.mp halive
          split at hnamed
          · next hlooks =>
              obtain ⟨_, console, gdb, hconsole, hgdb, rfl⟩ := Prog.leaves_bind_ok.mp hnamed
              subst hyes hlooks
              exact .cons_cons _ (.cons_cons _ ((verifyPort_finds hconsole).append (verifyPort_finds hgdb)))
          · cases (Prog.leaves_raise.mp hnamed).2
      · cases (Prog.leaves_raise.mp halive).2

/-! ## Starting a child -/

theorem slice_clear {said : Said} (h : slice.Leaves said (.ok ())) :
    said = [⟨.isSet, .ok false⟩, ⟨.expired, .ok false⟩] := by
  obtain ⟨_, before, after, hbefore, hafter, rfl⟩ := Prog.leaves_bind_ok.mp h
  obtain ⟨set, more, rfl, hset⟩ := Prog.leaves_perform_bind_ok.mp hbefore
  obtain ⟨late, rest, rfl, hover⟩ := Prog.leaves_perform_bind_ok.mp hafter
  cases set with
  | true => cases (Prog.leaves_raise.mp hset).2
  | false =>
      cases late with
      | true => cases (Prog.leaves_raise.mp hover).2
      | false =>
          obtain ⟨rfl, -⟩ := Prog.leaves_pure.mp hset
          obtain ⟨rfl, -⟩ := Prog.leaves_pure.mp hover
          rfl

/-- The exchange that started the child of a handle. -/
def startOf (source : ProxySource) (supportsUartBreak : Bool) (handle : ProxyHandle) :
    Exchange Resp ProxyError :=
  ⟨.popen (proxyArgv source supportsUartBreak handle.consolePort handle.gdbPort),
    .ok handle.process⟩

section Start

variable {source : ProxySource} {supportsUartBreak : Bool} {watch : Watch} {said : Said}

theorem publish_publishes {child : Child} {consolePort gdbPort : Nat} {handle : ProxyHandle}
    (h : (publish child consolePort gdbPort).Leaves said (.ok handle)) :
    ∃ found, handle = ⟨child, ⟨child.pid, found.join⟩, consolePort, gdbPort⟩ ∧
      said = [⟨.identity child.pid, .ok found⟩, ⟨.onPartial ⟨child.pid, found.join⟩, .ok ()⟩] := by
  obtain ⟨found, rest, rfl, hfound⟩ := Prog.leaves_perform_bind_ok.mp h
  obtain ⟨_, more, rfl, hpartial⟩ := Prog.leaves_perform_bind_ok.mp hfound
  obtain ⟨rfl, hhandle⟩ := Prog.leaves_pure.mp hpartial
  exact ⟨found, Except.ok.inj hhandle, rfl⟩

/-- What a spawn comes to: a child that was published, or none. -/
structure Spawns (source : ProxySource) (supportsUartBreak : Bool) (watch : Watch) (said : Said)
    (result : Except ProxyError ProxyHandle) : Prop where
  admits : Admits watch said
  left : ∀ e, result = .error e → Left (said.foldl Watch.step watch).children said
  held : ∀ handle, result = .ok handle →
    (said.foldl Watch.step watch).children = [handle.process] ∧
    handle.backend.pid = handle.process.pid ∧
    ∃ before after found, said = before ++ startOf source supportsUartBreak handle :: after ∧
      found.join = handle.backend.startTime ∧
      after = [⟨.identity handle.backend.pid, .ok found⟩, ⟨.onPartial handle.backend, .ok ()⟩]
  once : (said.filterMap spawned).length ≤ 1

/-- Looks that raise leave no child. -/
theorem Spawns.of_looks (hwatch : watch.children = []) (h : ∀ x ∈ said, Looks x.op)
    (e : ProxyError) : Spawns source supportsUartBreak watch said (.error e) where
  admits := (admits_looks h watch).1
  left _ _ := .inl ((admits_looks h watch).2.trans hwatch)
  held _ hresult := nomatch hresult
  once := by rw [spawned_looks h]; exact Nat.zero_le 1

theorem Spawns.append_left {before after : Said} {result : Except ProxyError ProxyHandle}
    (hbefore : ∀ x ∈ before, Looks x.op)
    (h : Spawns source supportsUartBreak (before.foldl Watch.step watch) after result) :
    Spawns source supportsUartBreak watch (before ++ after) result where
  admits := Prog.fenced_append.mpr ⟨(admits_looks hbefore watch).1, h.admits⟩
  left e hresult := List.foldl_append ▸ (h.left e hresult).append_left before
  held handle hresult := by
    obtain ⟨hchildren, hpid, start, rest, found, rfl, hrest⟩ := h.held handle hresult
    exact ⟨List.foldl_append ▸ hchildren, hpid, before ++ start, rest, found,
      (List.append_assoc _ _ _).symm, hrest⟩
  once := by rw [List.filterMap_append, spawned_looks hbefore]; exact h.once

theorem spawn_leaves {argv : List String} {result : Except ProxyError Child}
    (h : (spawn argv).Leaves said result) :
    (∃ e, result = .error e ∧ ∀ x ∈ said, Looks x.op) ∨
      said = [⟨.isSet, .ok false⟩, ⟨.expired, .ok false⟩, ⟨.popen argv, result⟩] := by
  rcases Prog.leaves_bind.mp h with ⟨e, hslice, rfl⟩ | ⟨_, before, after, hslice, hpopen, rfl⟩
  · exact .inl ⟨e, rfl, hslice.calls slice_looks⟩
  · obtain rfl := slice_clear hslice
    obtain rfl := Prog.leaves_perform.mp hpopen
    exact .inr rfl

/-- A child that was started while there was none is published, or reaped. -/
theorem publish_spawns {child : Child} {consolePort gdbPort : Nat}
    {result : Except ProxyError ProxyHandle} (hwatch : watch.children = [])
    (h : ((publish child consolePort gdbPort).rescue fun e => do
      reap child
      .raise e).Leaves said result) :
    Spawns source supportsUartBreak watch
      ([⟨.isSet, .ok false⟩, ⟨.expired, .ok false⟩,
        ⟨.popen (proxyArgv source supportsUartBreak consolePort gdbPort), .ok child⟩] ++ said)
      result := by
  generalize hstart : ([⟨.isSet, .ok false⟩, ⟨.expired, .ok false⟩,
    ⟨.popen (proxyArgv source supportsUartBreak consolePort gdbPort), .ok child⟩] : Said) = start
  have hadmits : Admits watch start := by
    simp [← hstart, Prog.Fenced, Allowed, Watch.step, spawned, letGo, signalled, hwatch]
  have hchildren : (start.foldl Watch.step watch).children = [child] := by
    simp [← hstart, Watch.step, spawned, letGo, hwatch]
  have hspawned : start.filterMap spawned = [child] := hstart ▸ rfl
  rcases Prog.leaves_rescue.mp h with ⟨handle, hpublish, rfl⟩ | ⟨e, tried, rest, htried, hrest, rfl⟩
  · have hlooks := hpublish.calls (publish_looks child consolePort gdbPort)
    obtain ⟨hmore, hkept⟩ := admits_looks hlooks (start.foldl Watch.step watch)
    obtain ⟨found, rfl, hsaid⟩ := publish_publishes hpublish
    refine ⟨Prog.fenced_append.mpr ⟨hadmits, hmore⟩, ?_, fun handle hresult => ?_, ?_⟩
    · rintro e ⟨⟩
    · obtain rfl := Except.ok.inj hresult
      exact ⟨List.foldl_append ▸ hkept.trans hchildren, rfl,
        [⟨.isSet, .ok false⟩, ⟨.expired, .ok false⟩], said, found, hstart ▸ rfl, rfl, hsaid⟩
    · rw [List.filterMap_append, hspawned, spawned_looks hlooks]
      exact Nat.le_refl 1
  · have hlooks := htried.calls (publish_looks child consolePort gdbPort)
    obtain ⟨hmore, hkept⟩ := admits_looks hlooks (start.foldl Watch.step watch)
    obtain ⟨r, hreap, e', rfl⟩ : ∃ r : Except ProxyError Unit, (reap child).Leaves rest r ∧
        ∃ e, result = .error e := by
      rcases Prog.leaves_bind.mp hrest with ⟨e', hreap, rfl⟩ | ⟨_, reaped, more, hreap, hraise, rfl⟩
      · exact ⟨_, hreap, e', rfl⟩
      · obtain ⟨rfl, rfl⟩ := Prog.leaves_raise.mp hraise
        exact ⟨_, (List.append_nil reaped).symm ▸ hreap, e, rfl⟩
    have hreaps := reap_reaps (hkept.trans hchildren) hreap
    refine ⟨Prog.fenced_append.mpr ⟨hadmits, Prog.fenced_append.mpr ⟨hmore, hreaps.admits⟩⟩,
      fun e'' _ => ?_, ?_, ?_⟩
    · rw [List.foldl_append, List.foldl_append]
      exact (hreaps.left.append_left tried).append_left start
    · rintro handle ⟨⟩
    · rw [List.filterMap_append, List.filterMap_append, hspawned, spawned_looks hlooks,
        hreaps.unspawned]
      exact Nat.le_refl 1

/-- A spawn that raises starts no child. -/
theorem spawn_raises {argv : List String} {e : ProxyError} (hwatch : watch.children = [])
    (h : (spawn argv).Leaves said (.error e)) :
    Spawns source supportsUartBreak watch said (.error e) := by
  rcases spawn_leaves h with ⟨_, -, hlooks⟩ | rfl
  · exact .of_looks hwatch hlooks e
  · refine ⟨?_, fun _ _ => .inl ?_, nofun, Nat.zero_le 1⟩ <;>
      simp [Prog.Fenced, Allowed, Watch.step, spawned, letGo, signalled, hwatch]

theorem spawnOnce_spawns (hwatch : watch.children = []) {result : Except ProxyError ProxyHandle}
    (h : (spawnOnce source supportsUartBreak).Leaves said result) :
    Spawns source supportsUartBreak watch said result := by
  rcases Prog.leaves_perform_bind.mp h with ⟨e, rfl, rfl⟩ | ⟨⟨console, gdb⟩, more, rfl, hports⟩
  · exact .of_looks hwatch (looks_single (show Looks .allocatePorts from trivial) _) e
  have hallocate := looks_single (show Looks .allocatePorts from trivial) (.ok (console, gdb))
  refine Spawns.append_left hallocate ?_
  have hwatch₁ := (admits_looks hallocate watch).2.trans hwatch
  rcases Prog.leaves_perform_bind.mp hports with ⟨e, rfl, rfl⟩ | ⟨_, more, rfl, hspawn⟩
  · exact .of_looks hwatch₁ (looks_single (show Looks .closePorts from trivial) _) e
  have hclose := looks_single (show Looks .closePorts from trivial) (.ok ())
  refine Spawns.append_left hclose ?_
  have hwatch₂ := (admits_looks hclose _).2.trans hwatch₁
  rcases Prog.leaves_bind.mp hspawn with ⟨e, hraise, rfl⟩ | ⟨child, before, after, hok, hchild, rfl⟩
  · exact spawn_raises hwatch₂ hraise
  · rcases spawn_leaves hok with ⟨_, hraise, -⟩ | rfl
    · cases hraise
    · exact publish_spawns hwatch₂ hchild

end Start

/-! ## A whole start -/

/-- The exchanges behind the start of the child of a handle: it was published with its start
time, it was found alive and listening on both ports, and nothing was done to it. -/
structure Behind (handle : ProxyHandle) (said : Said) : Prop where
  pid : handle.backend.pid = handle.process.pid
  startTime : handle.backend.startTime ≠ none
  inOrder : List.Sublist ([⟨.identity handle.backend.pid, .ok (some handle.backend.startTime)⟩,
    ⟨.onPartial handle.backend, .ok ()⟩] ++ findings handle) said
  looks : ∀ x ∈ said, Looks x.op

/-- What a start comes to, with at most so many children. -/
structure Supervised (source : ProxySource) (supportsUartBreak : Bool) (watch : Watch) (most : Nat)
    (said : Said) (result : Except ProxyError ProxyHandle) : Prop where
  /-- One child at a time, and only that one is signalled. -/
  admits : Admits watch said
  /-- A start that raises leaves no child, unless the raise cut its reaping short. -/
  left : ∀ e, result = .error e → Left (said.foldl Watch.step watch).children said
  /-- The child of a handle is the one that is left, and it was verified. -/
  held : ∀ handle, result = .ok handle →
    (said.foldl Watch.step watch).children = [handle.process] ∧
      ∃ before after, said = before ++ startOf source supportsUartBreak handle :: after ∧
        Behind handle after
  few : (said.filterMap spawned).length ≤ most

section Supervision

variable {source : ProxySource} {supportsUartBreak : Bool} {watch : Watch} {said : Said}
  {most : Nat} {result : Except ProxyError ProxyHandle}

theorem Supervised.of_looks (hwatch : watch.children = []) (h : ∀ x ∈ said, Looks x.op)
    (e : ProxyError) : Supervised source supportsUartBreak watch most said (.error e) where
  admits := (admits_looks h watch).1
  left _ _ := .inl ((admits_looks h watch).2.trans hwatch)
  held _ hresult := nomatch hresult
  few := by rw [spawned_looks h]; exact Nat.zero_le most

/-- What comes before a start, with children that are all let go. -/
theorem Supervised.append_left {before : Said} {count : Nat} (hadmits : Admits watch before)
    (hcount : (before.filterMap spawned).length ≤ count)
    (h : Supervised source supportsUartBreak (before.foldl Watch.step watch) most said result) :
    Supervised source supportsUartBreak watch (most + count) (before ++ said) result where
  admits := Prog.fenced_append.mpr ⟨hadmits, h.admits⟩
  left e hresult := List.foldl_append ▸ (h.left e hresult).append_left before
  held handle hresult := by
    obtain ⟨hchildren, start, after, rfl, hbehind⟩ := h.held handle hresult
    exact ⟨List.foldl_append ▸ hchildren, before ++ start, after,
      (List.append_assoc _ _ _).symm, hbehind⟩
  few := by
    rw [List.filterMap_append, List.length_append, Nat.add_comm]
    exact Nat.add_le_add h.few hcount

theorem Supervised.append_looks {before : Said} (hlooks : ∀ x ∈ before, Looks x.op)
    (h : Supervised source supportsUartBreak (before.foldl Watch.step watch) most said result) :
    Supervised source supportsUartBreak watch most (before ++ said) result :=
  have hcount : (before.filterMap spawned).length ≤ 0 := by rw [spawned_looks hlooks]; rfl
  Supervised.append_left (admits_looks hlooks watch).1 hcount h

/-- A child that was spawned, looked at, and reaped with a result that is raised. -/
theorem Spawns.reaped {spawning looking reaping : Said} {handle : ProxyHandle}
    {r : Except ProxyError Unit} (e : ProxyError)
    (hspawns : Spawns source supportsUartBreak watch spawning (.ok handle))
    (hlooks : ∀ x ∈ looking, Looks x.op) (hreap : (reap handle.process).Leaves reaping r) :
    Spawns source supportsUartBreak watch (spawning ++ (looking ++ reaping)) (.error e) ∧
      (r = .ok () →
        ((spawning ++ (looking ++ reaping)).foldl Watch.step watch).children = []) := by
  obtain ⟨hchildren, -⟩ := hspawns.held handle rfl
  obtain ⟨hmore, hkept⟩ := admits_looks hlooks (spawning.foldl Watch.step watch)
  have hreaps := reap_reaps (hkept.trans hchildren) hreap
  refine ⟨⟨?_, fun e' _ => ?_, nofun, ?_⟩, fun hok => ?_⟩
  · exact Prog.fenced_append.mpr ⟨hspawns.admits, Prog.fenced_append.mpr ⟨hmore, hreaps.admits⟩⟩
  · rw [List.foldl_append, List.foldl_append]
    exact (hreaps.left.append_left looking).append_left spawning
  · rw [List.filterMap_append, List.filterMap_append, spawned_looks hlooks, hreaps.unspawned]
    exact (List.append_nil _).symm ▸ hspawns.once
  · rw [List.foldl_append, List.foldl_append]
    exact hreaps.ended hok

/-- A spawn that raises is a start that does. -/
theorem Spawns.supervised {e : ProxyError}
    (h : Spawns source supportsUartBreak watch said (.error e)) (hmost : 1 ≤ most) :
    Supervised source supportsUartBreak watch most said (.error e) :=
  ⟨h.admits, h.left, nofun, h.once.trans hmost⟩

theorem Spawns.reaped_raise {spawning looking reaping : Said} {handle : ProxyHandle}
    {e : ProxyError} (hspawns : Spawns source supportsUartBreak watch spawning (.ok handle))
    (hlooks : ∀ x ∈ looking, Looks x.op) (hmost : 1 ≤ most)
    (h : ((do
      reap handle.process
      .raise e) : Script ProxyHandle).Leaves reaping result) :
    Supervised source supportsUartBreak watch most (spawning ++ (looking ++ reaping)) result := by
  rcases Prog.leaves_bind.mp h with ⟨e, hreap, rfl⟩ | ⟨_, reaped, _, hreap, hraise, rfl⟩
  · exact (hspawns.reaped e hlooks hreap).1.supervised hmost
  · obtain ⟨rfl, rfl⟩ := Prog.leaves_raise.mp hraise
    rw [List.append_nil]
    exact (hspawns.reaped _ hlooks hreap).1.supervised hmost

/-- A child that was spawned and verified. -/
theorem Spawns.verified {spawning looking : Said} {handle : ProxyHandle} {passes : Nat}
    (hspawns : Spawns source supportsUartBreak watch spawning (.ok handle))
    (h : (verified passes handle).Leaves looking (.ok ())) (hmost : 1 ≤ most) :
    Supervised source supportsUartBreak watch most (spawning ++ looking) (.ok handle) := by
  have hlooks := h.calls (verified_looks passes handle)
  obtain ⟨hmore, hkept⟩ := admits_looks hlooks (spawning.foldl Watch.step watch)
  refine ⟨Prog.fenced_append.mpr ⟨hspawns.admits, hmore⟩, nofun, fun handle' hresult => ?_, ?_⟩
  · obtain rfl := Except.ok.inj hresult
    obtain ⟨hchildren, hpid, before, after, found, rfl, hfound, hafter⟩ := hspawns.held handle rfl
    obtain ⟨hstart, hfindings⟩ := verified_finds h
    refine ⟨List.foldl_append ▸ hkept.trans hchildren, before, after ++ looking, by simp,
      hpid, hstart, ?_, fun x hx => ?_⟩
    · have hsome : found = some handle.backend.startTime := by
        cases found with
        | none => exact absurd hfound.symm hstart
        | some startTime => exact congrArg some hfound
      rw [hafter, hsome]
      exact (List.Sublist.refl _).append hfindings
    · rcases List.mem_append.mp hx with hx | hx
      · rw [hafter] at hx
        rcases List.mem_pair.mp hx with rfl | rfl <;> trivial
      · exact hlooks x hx
  · rw [List.filterMap_append, spawned_looks hlooks, List.append_nil]
    exact hspawns.once.trans hmost

theorem attempts_supervised (passes : Nat) (left : Nat) (lastError : ProxyError)
    (hwatch : watch.children = [])
    (h : (attempts passes source supportsUartBreak left lastError).Leaves said result) :
    Supervised source supportsUartBreak watch left said result := by
  induction left generalizing watch said lastError with
  | zero =>
      obtain ⟨rfl, rfl⟩ := Prog.leaves_raise.mp h
      exact .of_looks hwatch (fun _ hx => by cases hx) lastError
  | succ left ih =>
      rcases Prog.leaves_bind.mp h with ⟨e, hcancelled, rfl⟩ | ⟨_, before, more, hcheck, hmore, rfl⟩
      · exact .of_looks hwatch (hcancelled.calls checkNotCancelled_looks) e
      have hlooks := hcheck.calls checkNotCancelled_looks
      have hwatch₁ := (admits_looks hlooks watch).2.trans hwatch
      refine Supervised.append_looks hlooks ?_
      rcases Prog.leaves_perform_bind.mp hmore with ⟨e, rfl, rfl⟩ | ⟨late, rest, rfl, hrest⟩
      · exact .of_looks hwatch₁ (looks_single (show Looks .expired from trivial) _) e
      have hlook := looks_single (show Looks .expired from trivial) (.ok late)
      have hwatch₂ := (admits_looks hlook _).2.trans hwatch₁
      refine Supervised.append_looks hlook ?_
      split at hrest
      · obtain ⟨rfl, rfl⟩ := Prog.leaves_raise.mp hrest
        exact .of_looks hwatch₂ (fun _ hx => by cases hx) lastError
      rcases Prog.leaves_bind.mp hrest with
        ⟨e, hspawn, rfl⟩ | ⟨handle, spawning, behind, hspawn, hbehind, rfl⟩
      · exact (spawnOnce_spawns hwatch₂ hspawn).supervised (Nat.le_add_left 1 left)
      have hspawns := spawnOnce_spawns hwatch₂ hspawn
      obtain ⟨outcome, looking, last, hlooking, hsettle, rfl⟩ := Prog.leaves_attempt_bind.mp hbehind
      have hlooks := hlooking.calls (verified_looks passes handle)
      cases outcome with
      | ok u =>
          obtain ⟨rfl, rfl⟩ := Prog.leaves_pure.mp hsettle
          rw [List.append_nil]
          exact hspawns.verified hlooking (Nat.le_add_left 1 left)
      | error e =>
          cases e with
          | identity message =>
              rcases Prog.leaves_bind.mp hsettle with
                ⟨e, hreap, rfl⟩ | ⟨_, reaping, next, hreap, hnext, rfl⟩
              · exact (hspawns.reaped e hlooks hreap).1.supervised (Nat.le_add_left 1 left)
              · -- the next attempt begins where no child is left
                obtain ⟨hreaped, hnone⟩ := hspawns.reaped (.identity message) hlooks hreap
                rw [← List.append_assoc, ← List.append_assoc, List.append_assoc spawning]
                exact Supervised.append_left hreaped.admits hreaped.once (ih _ (hnone rfl) hnext)
          | timeoutExpired | timeout | processLookup | permission | os | cancelled | other =>
              exact hspawns.reaped_raise hlooks (Nat.le_add_left 1 left) hsettle

end Supervision

/-- Surroundings that do not let the first child verify: nobody knows who listens. -/
def unverifiable : (o : Op) → Nat → Except ProxyError (Resp o) × Nat
  | .isSet, n | .expired, n => (.ok false, n)
  | .isAlive _, n | .looksLike _, n => (.ok true, n)
  | .ownsListener pid _, n => (.ok (if pid = 4242 then none else some true), n)
  | .identity _, n => (.ok (some (some "77")), n)
  | .allocatePorts, n => (.ok (4440 + 2 * n, 4441 + 2 * n), n)
  | .popen _, n => (.ok ⟨n, 4242 + n⟩, n + 1)
  | .wait _ seconds, n => (if seconds = TERM_GRACE then .error .timeoutExpired else .ok (), n)
  | .closePorts, n | .onPartial _, n | .connect _, n | .closeConn, n | .sendall _, n
  | .sleep, n | .terminate _, n | .kill _, n | .poll _, n | .osKill _ _, n => (.ok (), n)

/-- The second child is returned, on ports of its own. -/
example : ((start 3 (.localDevice "/dev/ttyUSB0" 115200) true).run unverifiable 0).1 =
    .ok ⟨⟨1, 4243⟩, ⟨4243, some "77"⟩, 4442, 4443⟩ := by
  rfl

end Kdive.AgentProxy

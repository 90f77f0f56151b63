import Kdive.GdbMi.Execution

/-!
# Commands and their answers

Whether what a `_run` takes for the answer to its command is the answer gdb gave to it.
Commands carry no token, and the first result in what a write hands over is taken.

Answers come in the order of the lines, so that first result answers the oldest line
without one (`firstResult_deliver`).  Every program keeps this of every `_run`
(`Numbered.run`).  So a `_run` gets its own answer if every line before it had its answer
handed over before it was written, and its own comes with its write.
-/

namespace Kdive.GdbMi

open Program

/-- The first result of what a `_run` looked at is no error, so it returned. -/
def Exchange.Returned (exchange : Exchange) : Prop :=
  ∀ result, firstResult exchange.records = some result → result.message ≠ some "error".toList

/-- The payload that the caller of a `_run` uses. -/
def Exchange.payload (exchange : Exchange) : Option (Value Text) :=
  (firstResult exchange.records).bind Record.payload

/-- A `_run` went by the answer to its own command: it is the result it found, it is no
error if the call returned, and its payload is what the caller uses. -/
structure Paired (gdb : Gdb) (exchange : Exchange) : Prop where
  own : firstResult exchange.records =
    some ((gdb.answers exchange.index).record exchange.index)
  returned : exchange.Returned → (gdb.answers exchange.index).cls ≠ .error
  used : exchange.payload = (gdb.answers exchange.index).payload

/-- No line before it was waiting for its answer when the command was written, and its
write handed over a result. -/
def InStep (exchange : Exchange) : Prop :=
  exchange.due = exchange.index ∧ ∃ record ∈ exchange.records, record.isResult = true

/-- The first result, if there is one, answers line `due`. -/
def AnswersDue (gdb : Gdb) (due : Nat) (records : List Record) : Prop :=
  ∀ result, firstResult records = some result → result = (gdb.answers due).record due

/-- The first result of an output answers the oldest line without an answer. -/
theorem firstResult_deliver (gdb : Gdb) (sent answered : Nat) (items : List Item) :
    AnswersDue gdb answered (deliver gdb sent answered items).2 := by
  induction items with
  | nil => exact fun _ h => by cases h
  | cons item items ih =>
      cases item with
      | answer =>
          intro result hresult
          rw [deliver] at hresult
          split at hresult
          · exact (Option.some.inj hresult).symm
          · exact ih result hresult
      | notice notice =>
          intro result hresult
          have hnot : (Notice.record notice).isResult = false := decide_eq_false notice.other
          rw [deliver, firstResult, List.find?_cons, hnot] at hresult
          exact ih result hresult

/-- Results answer the lines they seem to be due for, in what was last handed over by a
write and in what every `_run` looked at. -/
structure Numbered (gdb : Gdb) (link : Link) : Prop where
  last : AnswersDue gdb link.due link.last
  exchanges : ∀ exchange ∈ link.exchanges, AnswersDue gdb exchange.due exchange.records

theorem numbered_start (gdb : Gdb) : Numbered gdb (start gdb) :=
  ⟨(fun _ h => by cases h), (fun _ h => by cases h)⟩

theorem Numbered.send {gdb : Gdb} {link : Link} (h : Numbered gdb link) (line : Text) :
    Numbered gdb (link.send line) :=
  ⟨(fun _ h => by cases h), h.exchanges⟩

/-- Every call keeps it. -/
theorem Numbered.exec {gdb : Gdb} {link : Link} (h : Numbered gdb link) (o : Op) :
    Numbered gdb (exec gdb o link).2 := by
  cases o with
  | write line =>
      rw [GdbMi.exec]
      split
      · exact h.send line
      · dsimp only
        split
        · exact ⟨(h.send line).last, h.exchanges⟩
        · exact ⟨h.last, h.exchanges⟩
      · dsimp only
        split
        · exact ⟨(h.send line).last, h.exchanges⟩
        · exact ⟨firstResult_deliver gdb _ link.answered _, h.exchanges⟩
  | read =>
      rw [GdbMi.exec]
      split <;> exact ⟨h.last, h.exchanges⟩
  | keep records => exact ⟨h.last, h.exchanges⟩
  | appendTranscript line records =>
      rw [GdbMi.exec]
      split
      · exact ⟨h.last, h.exchanges⟩
      · exact h
  | decided =>
      refine ⟨h.last, fun exchange hmem => ?_⟩
      rcases List.mem_append.mp hmem with hmem | hmem
      · exact h.exchanges exchange hmem
      · rw [List.mem_singleton.mp hmem]
        exact h.last
  | sleep => exact h
  | exit => exact ⟨h.last, h.exchanges⟩

/-- Every program keeps it. -/
theorem Numbered.run {gdb : Gdb} {link : Link} (h : Numbered gdb link) {α : Type} (p : Mi α) :
    Numbered gdb (p.run (GdbMi.exec gdb) link).2 :=
  Prog.wp_ofExec.mp ((Prog.Calls.all (fun _ => trivial) p).wp (P := fun _ => True)
    (fun o _ _ _ hlink hQ => hQ _ _ (hlink.exec o)) (fun _ _ hlink => hlink) h)

/-- A `_run` that looks at the answer due gets its own if it is the one that is due. -/
theorem paired_iff {gdb : Gdb} {exchange : Exchange}
    (h : AnswersDue gdb exchange.due exchange.records) :
    Paired gdb exchange ↔ InStep exchange := by
  constructor
  · intro hpaired
    have hmark := congrArg Record.answers (h _ hpaired.own)
    exact ⟨(Option.some.inj hmark).symm, _, List.mem_of_find?_eq_some hpaired.own,
      List.find?_some hpaired.own⟩
  · rintro ⟨hdue, record, hmem, hresult⟩
    cases hfirst : firstResult exchange.records with
    | none => exact absurd hresult (List.find?_eq_none.mp hfirst record hmem)
    | some result =>
        have hown := h result hfirst
        rw [hdue] at hown
        subst hown
        refine ⟨hfirst, fun hreturned herror => hreturned _ hfirst ?_, ?_⟩
        · rw [Answer.record, herror]
          rfl
        · rw [Exchange.payload, hfirst]
          rfl

/-- A write that returns has sent its line and handed over what it returns. -/
theorem exec_write_ok {gdb : Gdb} {line : Text} {link : Link} {records : List Record}
    (h : (exec gdb (.write line) link).1 = .ok records) :
    (exec gdb (.write line) link).2.sent = link.sent ++ [line] ∧
      (exec gdb (.write line) link).2.last = records ∧
      (exec gdb (.write line) link).2.exchanges = link.exchanges := by
  rw [exec] at h ⊢
  split at h
  · cases h
  · cases h
  · dsimp only at h ⊢
    split at h
    · cases h
    · rename_i hsome
      rw [if_neg hsome]
      exact ⟨rfl, Except.ok.inj h, rfl⟩

/-- A `_run` that returns has left the exchange it went by, and found no error. -/
theorem runCommand_returned {gdb : Gdb} {redactor : Redactor} {line : Text} {link link' : Link}
    {records : List Record}
    (h : (runCommand redactor line).run (exec gdb) link = (.ok records, link')) :
    ∃ exchange, link'.exchanges = link.exchanges ++ [exchange] ∧
      exchange.index = link.sent.length ∧ exchange.records = records ∧ exchange.Returned := by
  rw [runCommand, Prog.run_bind, Prog.run_perform] at h
  cases hwrite : (exec gdb (.write line) link).1 with
  | error fault =>
      rw [← Prod.eta (exec gdb (.write line) link), hwrite] at h
      cases h
  | ok taken =>
      obtain ⟨hsent, hlast, hexchanges⟩ := exec_write_ok hwrite
      rw [← Prod.eta (exec gdb (.write line) link), hwrite] at h
      generalize (exec gdb (.write line) link).2 = written at hsent hlast hexchanges h
      cases hlog : written.logging with
      | false =>
          simp [exec, Prog.run_bind, hlog] at h
      | true =>
          simp only [Prog.run_bind, Prog.run_perform, exec, hlog, if_true] at h
          have hdone : ∀ link₂ : Link, ∀ p : Mi (List Record), p = .ret taken →
              p.run (exec gdb) link₂ = (.ok records, link') → taken = records ∧ link₂ = link' := by
            rintro link₂ _ rfl heq
            exact ⟨Except.ok.inj (Prod.mk.inj heq).1, (Prod.mk.inj heq).2⟩
          cases hfirst : firstResult taken with
          | none =>
              rw [hfirst] at h
              obtain ⟨rfl, rfl⟩ := hdone _ _ rfl h
              refine ⟨⟨written.sent.length - 1, written.due, written.last⟩,
                by rw [← hexchanges], by simp [hsent], hlast, fun result hresult => ?_⟩
              rw [hlast, hfirst] at hresult
              cases hresult
          | some result =>
              rw [hfirst] at h
              dsimp only at h
              split at h
              · cases h
              · rename_i hmessage
                obtain ⟨rfl, rfl⟩ := hdone _ _ rfl h
                refine ⟨⟨written.sent.length - 1, written.due, written.last⟩,
                  by rw [← hexchanges], by simp [hsent], hlast, fun result' hresult => ?_⟩
                rw [hlast, hfirst] at hresult
                exact Option.some.inj hresult ▸ hmessage

/-- Whatever is called on an attachment, and whenever gdb's output is handed over: every
`_run` goes by the answer to its own command exactly when each is in step. -/
theorem session_paired_iff (gdb : Gdb) (redactor : Redactor) (shown : Value Text → Text)
    (vmlinux : ResolvedPath) (host port : Text) (ops : List EngineOp) :
    (∀ exchange ∈ ((session redactor shown vmlinux host port ops).run (exec gdb)
        (start gdb)).2.exchanges, Paired gdb exchange) ↔
      ∀ exchange ∈ ((session redactor shown vmlinux host port ops).run (exec gdb)
        (start gdb)).2.exchanges, InStep exchange :=
  forall₂_congr fun exchange hmem =>
    paired_iff (((numbered_start gdb).run _).exchanges exchange hmem)

/-! ## A late answer -/

/-- gdb answers two evaluations, the first one late. -/
def lateGdb : Gdb where
  answers index := ⟨.done, some (dict [("value", .str (decimalText index))])⟩
  script := List.replicate 6 (.items [.answer] true) ++ [.items [] true, .items [.answer] true]

/-- The second evaluation takes the answer to the first, whose write timed out. -/
theorem session_late_answer :
    ¬∀ exchange ∈ ((session plainRedactor (fun _ => []) ⟨"/vmlinux".toList, rfl⟩
        "127.0.0.1".toList "1234".toList
        [.request (.readSymbol "jiffies".toList), .request (.readSymbol "saved".toList)]).run
        (exec lateGdb) (start lateGdb)).2.exchanges, Paired lateGdb exchange := by
  intro h
  have hrun : ((session plainRedactor (fun _ => []) ⟨"/vmlinux".toList, rfl⟩
      "127.0.0.1".toList "1234".toList
      [.request (.readSymbol "jiffies".toList), .request (.readSymbol "saved".toList)]).run
      (exec lateGdb) (start lateGdb)).2.exchanges.map (fun e => (e.index, e.due)) =
        [(0, 0), (1, 1), (2, 2), (3, 3), (4, 4), (5, 5), (7, 6)] := rfl
  obtain ⟨exchange, hmem, hlate⟩ := List.mem_map.mp
    (hrun ▸ (by simp : (7, 6) ∈ [(0, 0), (1, 1), (2, 2), (3, 3), (4, 4), (5, 5), (7, 6)]))
  have hstep := (paired_iff (((numbered_start lateGdb).run _).exchanges exchange hmem)).mp
    (h exchange hmem)
  obtain ⟨hindex, hdue⟩ := Prod.mk.inj hlate
  have := hstep.1
  omega

end Kdive.GdbMi

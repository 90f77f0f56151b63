import Kdive.GdbMi.Execution

/-!
# Stops on resume

What a resume makes of the stop that ends the execution it started.  The stop may be
handed over by the write of the verb, by a read, by the write of the interrupt or by a
read after it.

Only reads are looked through, and in a read only its first stop counts (`Handed.taken`).
So a resume ends with the first stop that a read has, or with none (`resume_leaves`).
Nothing is lost exactly when the writes hand no stop of this execution over and the first
stop of a read is one (`resume_none_lost_iff`).

*Marks.*  `ended` says which line's execution a stop ended.  A stop that is left over
from before ended another one.
-/

namespace Kdive.GdbMi

open Program

/-! ## What becomes of a stop -/

/-- A record is the stop of the execution that line `k` started. -/
def Caused (k : Nat) (record : Record) : Prop :=
  record.isStopped = true ∧ record.ended = some k

instance (k : Nat) (record : Record) : Decidable (Caused k record) :=
  inferInstanceAs (Decidable (_ ∧ _))

/-- The stop a resume ended with, by the execution that it ended: it was returned, or
raised as `session_exited`. -/
def settles : Except Fault StopRecord → Option (Option Nat)
  | .ok stop => some stop.ended
  | .error (.mi error) => if error.code = some "session_exited" then some error.ended else none
  | .error .other => none

/-- The debug operation reaps the attachment: the `transport_stall` and the fault branch of
`_run_debug_engine_op`. -/
def tearsDown : Except Fault StopRecord → Bool
  | .ok _ => false
  | .error (.mi error) => error.code = some "transport_stall"
  | .error .other => true

/-- No stop was lost: if the stop of line `k`'s execution was handed over, the resume ended
with it and the session was kept, and it ended with no other stop. -/
structure NoneLost (k : Nat) (handed : List Handed) (result : Except Fault StopRecord) :
    Prop where
  found : ∀ output ∈ handed, ∀ record ∈ output.records, Caused k record →
    settles result = some (some k) ∧ tearsDown result = false
  own : ∀ ended, settles result = some ended → ended = some k

/-- A resume that ends with a stop keeps the session. -/
theorem tearsDown_of_settles {result : Except Fault StopRecord} {ended : Option Nat}
    (h : settles result = some ended) : tearsDown result = false := by
  cases result with
  | ok stop => rfl
  | error fault =>
      cases fault with
      | other => cases h
      | mi error =>
          simp only [settles] at h
          split at h
          · simp [tearsDown, *]
          · cases h

/-! ## What a resume looks at -/

/-- The numbers of a stop's frame can be read. -/
def Record.readable (record : Record) : Bool :=
  match stopRecordFrom record with
  | .error .other => false
  | _ => true

/-- The stop that a resume takes from an output: the first one of a read, if the output
goes to the transcript and the stop can be read. -/
def Handed.taken (output : Handed) : Option Record :=
  if output.taker = .read ∧ output.logged = true then
    (output.records.find? Record.isStopped).filter Record.readable
  else none

/-- Nothing is lost in an output: the stop taken from it, or else no stop in it, is that of
line `k`'s execution. -/
def Handed.Seen (k : Nat) (output : Handed) : Prop :=
  match output.taken with
  | some record => record.ended = some k
  | none => ∀ record ∈ output.records, ¬Caused k record

/-- The first stop taken from the outputs is the one that was settled on, and nothing came
after it. -/
def Concludes (handed : List Handed) (settled : Option (Option Nat)) : Prop :=
  (settled = none ∧ ∀ output ∈ handed, output.taken = none) ∨
    ∃ before output record, handed = before ++ [output] ∧
      (∀ output ∈ before, output.taken = none) ∧ output.taken = some record ∧
      settled = some record.ended

theorem Concludes.nil : Concludes [] none := .inl ⟨rfl, fun _ h => by cases h⟩

/-- Outputs from which nothing is taken may come before. -/
theorem Concludes.append {before handed : List Handed} {settled : Option (Option Nat)}
    (hbefore : ∀ output ∈ before, output.taken = none) (h : Concludes handed settled) :
    Concludes (before ++ handed) settled := by
  rcases h with ⟨hnone, hall⟩ | ⟨middle, output, record, rfl, hall, htaken, hsettled⟩
  · refine .inl ⟨hnone, fun output hmem => ?_⟩
    exact (List.mem_append.mp hmem).elim (hbefore output) (hall output)
  · refine .inr ⟨before ++ middle, output, record, (List.append_assoc ..).symm, ?_, htaken,
      hsettled⟩
    exact fun output hmem => (List.mem_append.mp hmem).elim (hbefore output) (hall output)

theorem Concludes.all_none {handed : List Handed} (h : Concludes handed none) :
    ∀ output ∈ handed, output.taken = none := by
  rcases h with ⟨_, hall⟩ | ⟨_, _, _, _, _, _, hsettled⟩
  · exact hall
  · cases hsettled

/-- What is taken from an output is a stop it has. -/
theorem Handed.mem_of_taken {output : Handed} {record : Record}
    (h : output.taken = some record) :
    record ∈ output.records ∧ record.isStopped = true := by
  unfold Handed.taken at h
  split at h
  · have hfind := (Option.filter_eq_some_iff.mp h).1
    exact ⟨List.mem_of_find?_eq_some hfind, List.find?_some hfind⟩
  · cases h

theorem Handed.seen_of_none {k : Nat} {output : Handed} (h : output.taken = none) :
    output.Seen k ↔ ∀ record ∈ output.records, ¬Caused k record := by
  rw [Handed.Seen, h]

theorem Handed.seen_of_some {k : Nat} {output : Handed} {record : Record}
    (h : output.taken = some record) : output.Seen k ↔ record.ended = some k := by
  rw [Handed.Seen, h]

/-- Two outputs have no two stops of one execution. -/
theorem not_two {k : Nat} {before : List Handed} {output other : Handed} {stop record : Record}
    (hone : (((before ++ [output]).flatMap Handed.records).filter (Caused k ·)).length ≤ 1)
    (hother : other ∈ before) (hstop : stop ∈ other.records) (hcaused : Caused k stop)
    (hrecord : record ∈ output.records) : ¬Caused k record := by
  intro hlast
  have hfirst : stop ∈ (before.flatMap Handed.records).filter (Caused k ·) :=
    List.mem_filter.mpr ⟨List.mem_flatMap.mpr ⟨other, hother, hstop⟩, decide_eq_true hcaused⟩
  have hsecond : record ∈ output.records.filter (Caused k ·) :=
    List.mem_filter.mpr ⟨hrecord, decide_eq_true hlast⟩
  have hlength := List.length_pos_of_mem hfirst
  have hlength' := List.length_pos_of_mem hsecond
  simp only [List.flatMap_append, List.filter_append, List.length_append, List.flatMap_cons,
    List.flatMap_nil, List.append_nil] at hone
  omega

/-- Where an execution has one stop at most, nothing is lost exactly when every output is
seen. -/
theorem noneLost_iff {k : Nat} {handed : List Handed} {result : Except Fault StopRecord}
    (hone : ((handed.flatMap Handed.records).filter (Caused k ·)).length ≤ 1)
    (h : Concludes handed (settles result)) :
    NoneLost k handed result ↔ ∀ output ∈ handed, output.Seen k := by
  rcases h with ⟨hnone, hall⟩ | ⟨before, output, record, rfl, hall, htaken, hsettled⟩
  · constructor
    · intro hlost output hmem
      refine (Handed.seen_of_none (hall output hmem)).mpr fun record hrecord hcaused => ?_
      have hfound := (hlost.found output hmem record hrecord hcaused).1
      rw [hnone] at hfound
      cases hfound
    · intro hseen
      refine ⟨fun output hmem record hrecord hcaused => ?_, fun ended hended => ?_⟩
      · exact absurd hcaused ((Handed.seen_of_none (hall output hmem)).mp (hseen output hmem)
          record hrecord)
      · rw [hnone] at hended
        cases hended
  · obtain ⟨hrecord, hstopped⟩ := Handed.mem_of_taken htaken
    constructor
    · intro hlost output' hmem
      have hended := hlost.own _ hsettled
      rcases List.mem_append.mp hmem with hmem | hmem
      · exact (Handed.seen_of_none (hall output' hmem)).mpr fun stop hstop hcaused =>
          not_two hone hmem hstop hcaused hrecord ⟨hstopped, hended⟩
      · rw [List.mem_singleton.mp hmem]
        exact (Handed.seen_of_some htaken).mpr hended
    · intro hseen
      have hended := (Handed.seen_of_some htaken).mp
        (hseen output (List.mem_append_right _ (List.mem_singleton_self _)))
      rw [hended] at hsettled
      refine ⟨fun _ _ _ _ _ => ⟨hsettled, tearsDown_of_settles hsettled⟩, fun ended heq => ?_⟩
      rw [hsettled] at heq
      exact (Option.some.inj heq).symm

/-! ## Waiting -/

/-- What a wait settles on. -/
def waitSettles : Except Fault (Option StopRecord) → Option (Option Nat)
  | .ok (some stop) => settles (.ok stop)
  | .ok none => none
  | .error fault => settles (.error fault)

theorem intOf_error {value : Option (Value Text)} {fault : Fault}
    (h : intOf value = .error fault) : fault = .other := by
  unfold intOf at h
  split at h
  · cases h
  · split at h
    · split at h <;> cases h
      rfl
    · cases h

theorem stopFrame_error {value : Option (Value Text)} {fault : Fault}
    (h : stopFrame value = .error fault) : fault = .other := by
  unfold stopFrame frameFrom at h
  split at h
  · rename_i items
    cases hlevel : intOf (field (some (.mapping items)) "level") with
    | error fault' =>
        rw [hlevel] at h
        cases h
        exact intOf_error hlevel
    | ok level =>
        rw [hlevel] at h
        cases hline : intOf (field (some (.mapping items)) "line") with
        | error fault' =>
            rw [hline] at h
            cases h
            exact intOf_error hline
        | ok line =>
            rw [hline] at h
            cases h
  · cases h

/-- A stop that can be read settles the wait, and one that cannot does not. -/
theorem settles_stopRecordFrom (record : Record) :
    settles (stopRecordFrom record) = if record.readable then some record.ended else none := by
  unfold Record.readable stopRecordFrom
  cases terminalReason record with
  | some reason => rfl
  | none =>
      cases hframe : stopFrame (field record.payload "frame") with
      | ok frame => rfl
      | error fault =>
          rw [stopFrame_error hframe]
          rfl

variable {gdb : Gdb} {link : Link}

section Rules

/-- A read faults and hands nothing over, or hands over what it returns. -/
theorem rule_read {Q : Except Fault (List Record) → Link → Prop}
    (hfault : ∀ link', link'.handed = link.handed → Q (.error .other) link')
    (hreturn : ∀ records link', link'.handed = link.handed ++ [⟨.read, records, link'.logging⟩] →
      Q (.ok records) link') :
    Prog.Rule.ofExec (exec gdb) .read Q link := by
  rw [Prog.Rule.ofExec, exec]
  split
  · exact hreturn _ _ rfl
  · exact hfault _ rfl
  · exact hreturn _ _ rfl

/-- A write raises no stop and hands nothing over, or hands over what it returns. -/
theorem rule_write {line : Text} {Q : Except Fault (List Record) → Link → Prop}
    (hfault : ∀ fault link', settles (.error fault) = none → link'.handed = link.handed →
      Q (.error fault) link')
    (hreturn : ∀ records link', link'.handed = link.handed ++ [⟨.write, records, link'.logging⟩] →
      Q (.ok records) link') :
    Prog.Rule.ofExec (exec gdb) (.write line) Q link := by
  rw [Prog.Rule.ofExec, exec]
  split
  · exact hfault _ _ rfl rfl
  · refine hfault _ _ rfl ?_
    dsimp only
    split <;> rfl
  · dsimp only
    split
    · exact hfault _ _ rfl rfl
    · exact hreturn _ _ rfl

/-- Keeping records hands nothing over. -/
theorem rule_keep {records : List Record} {Q : Except Fault Unit → Link → Prop}
    (h : ∀ link', link'.handed = link.handed → link'.logging = link.logging → Q (.ok ()) link') :
    Prog.Rule.ofExec (exec gdb) (.keep records) Q link := h _ rfl rfl

/-- A mark hands nothing over. -/
theorem rule_decided {Q : Except Fault Unit → Link → Prop}
    (h : ∀ link', link'.handed = link.handed → Q (.ok ()) link') :
    Prog.Rule.ofExec (exec gdb) .decided Q link := h _ rfl

/-- The transcript takes an output or raises. -/
theorem rule_transcript {line : Text} {records : List Record}
    {Q : Except Fault Unit → Link → Prop}
    (htake : link.logging = true → ∀ link', link'.handed = link.handed → Q (.ok ()) link')
    (hraise : link.logging = false → Q (.error .other) link) :
    Prog.Rule.ofExec (exec gdb) (.appendTranscript line records) Q link := by
  rw [Prog.Rule.ofExec, exec]
  split
  · exact htake ‹_› _ rfl
  · exact hraise (by simpa using ‹¬link.logging = true›)

end Rules

/-- A program that leaves nothing but these outputs behind, and settles on what they say. -/
def Leaves {α : Type} (gdb : Gdb) (p : Mi α) (link : Link)
    (settle : Except Fault α → Option (Option Nat)) : Prop :=
  p.wp (Prog.Rule.ofExec (exec gdb)) (fun result link' => ∃ handed,
    link'.handed = link.handed ++ handed ∧ Concludes handed (settle result)) link

/-- A program goes on behind outputs that nothing is taken from. -/
theorem Leaves.after {α : Type} {p : Mi α} {before link : Link}
    {settle : Except Fault α → Option (Option Nat)} {outputs : List Handed}
    (h : Leaves gdb p link settle) (hhanded : link.handed = before.handed ++ outputs)
    (hnone : ∀ output ∈ outputs, output.taken = none) :
    p.wp (Prog.Rule.ofExec (exec gdb)) (fun result link' => ∃ handed,
      link'.handed = before.handed ++ handed ∧ Concludes handed (settle result)) link := by
  refine Prog.wp_mono (Prog.Rule.ofExec_mono _) (fun result link' hend => ?_) h
  obtain ⟨handed, heq, hconcludes⟩ := hend
  exact ⟨outputs ++ handed, by rw [heq, hhanded, List.append_assoc], hconcludes.append hnone⟩

/-- Nothing is taken from a write. -/
theorem taken_write (records : List Record) (logged : Bool) :
    (Handed.mk .write records logged).taken = none := if_neg (by simp)

/-- Nothing is taken from an output that the transcript does not take. -/
theorem taken_unlogged (taker : Taker) (records : List Record) :
    (Handed.mk taker records false).taken = none := if_neg (by simp)

/-- Nothing is taken from a read without a stop. -/
theorem taken_quiet {records : List Record} (h : records.find? Record.isStopped = none)
    (logged : Bool) : (Handed.mk .read records logged).taken = none := by
  rw [Handed.taken, h]
  split <;> rfl

/-- From a read that the transcript takes the first stop is taken if it can be read. -/
theorem taken_stop {records : List Record} {record : Record}
    (h : records.find? Record.isStopped = some record) :
    (Handed.mk .read records true).taken = if record.readable then some record else none := by
  rw [Handed.taken, if_pos ⟨rfl, rfl⟩, h]
  cases hreadable : record.readable <;> simp [hreadable]

/-- A wait ends with the first stop it takes. -/
theorem waitSlices_leaves (slices : Nat) (link : Link) :
    Leaves gdb (waitSlices slices) link waitSettles := by
  induction slices generalizing link with
  | zero => exact ⟨[], (List.append_nil _).symm, .nil⟩
  | succ slices ih =>
      rw [Leaves, waitSlices, Prog.wp_bind, Prog.wp_perform]
      refine rule_read (fun link' hhanded => ⟨[], by rw [List.append_nil, hhanded], .nil⟩)
        fun records read hread => ?_
      dsimp only
      rw [Prog.wp_bind, Prog.wp_perform]
      refine rule_keep fun kept hkept hlogging => ?_
      dsimp only
      rw [Prog.wp_bind, Prog.wp_when]
      rw [← hkept, ← hlogging] at hread
      -- what follows once the output is in the transcript, or is empty
      have hrest : ∀ after : Link, after.handed = kept.handed →
          (records = [] ∨ kept.logging = true) →
          (match records.find? Record.isStopped with
            | some record => do
              let stop ← Prog.ofExcept (stopRecordFrom record)
              return some stop
            | none => waitSlices slices).wp (Prog.Rule.ofExec (exec gdb))
          (fun result link' => ∃ handed, link'.handed = link.handed ++ handed ∧
            Concludes handed (waitSettles result)) after := by
        intro after hafter hlogged
        rw [← hafter] at hread
        cases hfind : records.find? Record.isStopped with
        | none =>
            refine (ih after).after hread fun output hmem => ?_
            rw [List.mem_singleton.mp hmem]
            exact taken_quiet hfind _
        | some record =>
            have hlogging : kept.logging = true := hlogged.resolve_left fun hempty => by
              rw [hempty] at hfind
              cases hfind
            have htaken := taken_stop hfind
            have hsettles := settles_stopRecordFrom record
            rw [hlogging] at hread
            refine (Prog.wp_bind ..).mpr ((Prog.wp_ofExcept _).mpr ?_)
            have hend : ∀ result : Except Fault (Option StopRecord),
                waitSettles result = settles (stopRecordFrom record) →
                ∃ handed, after.handed = link.handed ++ handed ∧
                  Concludes handed (waitSettles result) := by
              intro result hresult
              refine ⟨_, hread, ?_⟩
              rw [hresult, hsettles]
              cases hreadable : record.readable with
              | true =>
                  rw [hreadable] at htaken
                  exact .inr ⟨[], _, record, rfl, (fun _ h => by cases h), htaken, rfl⟩
              | false =>
                  rw [hreadable] at htaken
                  refine .inl ⟨rfl, fun output hmem => ?_⟩
                  rw [List.mem_singleton.mp hmem]
                  exact htaken
            cases hstop : stopRecordFrom record with
            | ok stop => exact hend (.ok (some stop)) (by rw [hstop]; rfl)
            | error fault => exact hend (.error fault) (by rw [hstop]; rfl)
      refine ⟨fun _ => ?_, fun hempty => ?_⟩
      · rw [Prog.wp_perform]
        refine rule_transcript (fun hlog after hafter => hrest after hafter (.inr hlog))
          fun hlog => ⟨_, hread, .inl ⟨rfl, fun output hmem => ?_⟩⟩
        rw [List.mem_singleton.mp hmem, hlog]
        exact taken_unlogged _ _
      · exact hrest kept rfl (.inl (by simpa using hempty))

/-! ## Resuming -/

/-- Outputs were handed over from which nothing is taken. -/
def Unread (before after : Link) : Prop :=
  ∃ outputs, after.handed = before.handed ++ outputs ∧ ∀ output ∈ outputs, output.taken = none

theorem Unread.refl (link : Link) : Unread link link :=
  ⟨[], (List.append_nil _).symm, fun _ h => by cases h⟩

/-- Where nothing was taken, nothing is settled. -/
theorem Unread.concludes {before after : Link} (h : Unread before after) :
    ∃ handed, after.handed = before.handed ++ handed ∧ Concludes handed none := by
  obtain ⟨outputs, hhanded, hnone⟩ := h
  exact ⟨outputs, hhanded, .inl ⟨rfl, hnone⟩⟩

/-- What a write hands over and is kept is not looked at. -/
theorem unread_write {before after : Link} {records : List Record} {logged : Bool}
    (h : after.handed = before.handed ++ [⟨.write, records, logged⟩]) : Unread before after := by
  refine ⟨_, h, fun output hmem => ?_⟩
  rw [List.mem_singleton.mp hmem]
  exact taken_write _ _

/-- A `_run` looks for no stop, neither in what it returns nor in what it raises. -/
theorem runCommand_unread {redactor : Redactor} {line : Text}
    {Q : Except Fault (List Record) → Link → Prop}
    (hraise : ∀ fault link', settles (.error fault) = none → Unread link link' →
      Q (.error fault) link')
    (hreturn : ∀ records link', Unread link link' → Q (.ok records) link') :
    (runCommand redactor line).wp (Prog.Rule.ofExec (exec gdb)) Q link := by
  rw [runCommand, Prog.wp_bind, Prog.wp_perform]
  refine rule_write (fun fault link' hnone hhanded => ?_) fun records written hwritten => ?_
  · exact hraise fault link' hnone ⟨[], by rw [List.append_nil, hhanded], fun _ h => by cases h⟩
  · dsimp only
    rw [Prog.wp_bind, Prog.wp_perform]
    refine rule_keep fun kept hkept _ => ?_
    dsimp only
    rw [Prog.wp_bind, Prog.wp_perform]
    rw [← hkept] at hwritten
    refine rule_transcript (fun _ logged hlogged => ?_) fun _ => ?_
    · dsimp only
      rw [Prog.wp_bind, Prog.wp_perform]
      refine rule_decided fun decided hdecided => ?_
      dsimp only
      rw [← hlogged, ← hdecided] at hwritten
      have hunread := unread_write hwritten
      cases firstResult records with
      | none => exact hreturn _ _ hunread
      | some result =>
          dsimp only
          split
          · exact hraise _ _ rfl hunread
          · exact hreturn _ _ hunread
    · exact hraise _ _ rfl (unread_write hwritten)

/-- Redaction keeps the mark of a stop. -/
theorem waitSettles_redact (redactor : Redactor) (result : Except Fault (Option StopRecord)) :
    waitSettles (result.map (Option.map (redactStop redactor))) = waitSettles result := by
  cases result with
  | error fault => rfl
  | ok stop => cases stop <;> rfl

/-- An interrupt ends with the first stop that a read after it has. -/
theorem interrupt_leaves (redactor : Redactor) (link : Link) :
    Leaves gdb (interrupt redactor) link waitSettles := by
  rw [Leaves, interrupt, Prog.wp_bind, Prog.wp_perform]
  refine rule_write (fun fault link' hnone hhanded => ?_) fun records written hwritten => ?_
  · refine ⟨[], by rw [List.append_nil, hhanded], ?_⟩
    rw [waitSettles, hnone]
    exact .nil
  · dsimp only
    rw [Prog.wp_bind, Prog.wp_perform]
    refine rule_keep fun kept hkept _ => ?_
    dsimp only
    rw [Prog.wp_bind, Prog.wp_perform]
    rw [← hkept] at hwritten
    refine rule_transcript (fun _ logged hlogged => ?_) fun _ => (unread_write hwritten).concludes
    dsimp only
    rw [← hlogged] at hwritten
    obtain ⟨outputs, hhanded, hnone⟩ := unread_write hwritten
    have hleaves : Leaves gdb (waitForStop 10) logged waitSettles := waitSlices_leaves _ logged
    have hwait := hleaves.after hhanded hnone
    rw [Prog.wp_bind]
    refine Prog.wp_mono (Prog.Rule.ofExec_mono _) (fun result link' hend => ?_) hwait
    rw [← waitSettles_redact redactor] at hend
    cases result <;> exact hend

/-- A resume ends with the first stop that a read of its own or of its interrupt has. -/
theorem resume_leaves (redactor : Redactor) (verb : ExecVerb) (timeout : Rat) (link : Link) :
    Leaves gdb (resume redactor verb timeout) link settles := by
  rw [Leaves, resume, Prog.wp_bind]
  refine runCommand_unread (fun fault link' hnone hunread => ?_) fun records running hunread => ?_
  · dsimp only
    rw [hnone]
    exact hunread.concludes
  · dsimp only
    obtain ⟨outputs, hhanded, hnone⟩ := hunread
    have hleaves : Leaves gdb (waitForStop (boundedWait timeout)) running waitSettles :=
      waitSlices_leaves _ running
    have hwait := hleaves.after hhanded hnone
    rw [Prog.wp_bind]
    refine Prog.wp_mono (Prog.Rule.ofExec_mono _) (fun result waited hend => ?_) hwait
    cases result with
    | error fault => exact hend
    | ok stop =>
        cases stop with
        | some stop => exact hend
        | none =>
            obtain ⟨handed, hwaited, hconcludes⟩ := hend
            have hleaves : Leaves gdb (interrupt redactor) waited waitSettles :=
              interrupt_leaves redactor waited
            have hinterrupt := hleaves.after hwaited hconcludes.all_none
            refine (Prog.wp_bind ..).mpr
              (Prog.wp_mono (Prog.Rule.ofExec_mono _) (fun result link' hend => ?_) hinterrupt)
            cases result with
            | error fault => exact hend
            | ok stop => cases stop <;> exact hend

/-! ## The result -/

/-- The outputs handed over in a resume. -/
def resumeHanded (gdb : Gdb) (redactor : Redactor) (verb : ExecVerb) (timeout : Rat)
    (link : Link) : List Handed :=
  ((resume redactor verb timeout).run (exec gdb) link).2.handed.drop link.handed.length

/-- Whatever gdb's output is split into: where the execution that a resume starts has one
stop at most, none is lost exactly when every output is seen. -/
theorem resume_none_lost_iff (gdb : Gdb) (redactor : Redactor) (verb : ExecVerb) (timeout : Rat)
    (link : Link)
    (hone : (((resumeHanded gdb redactor verb timeout link).flatMap Handed.records).filter
      (Caused link.sent.length ·)).length ≤ 1) :
    NoneLost link.sent.length (resumeHanded gdb redactor verb timeout link)
        ((resume redactor verb timeout).run (exec gdb) link).1 ↔
      ∀ output ∈ resumeHanded gdb redactor verb timeout link, output.Seen link.sent.length := by
  obtain ⟨handed, hhanded, hconcludes⟩ :=
    Prog.wp_ofExec.mp (show Leaves gdb _ link settles from resume_leaves redactor verb timeout link)
  have hdrop : resumeHanded gdb redactor verb timeout link = handed := by
    rw [resumeHanded, hhanded, List.drop_left]
  rw [hdrop] at hone ⊢
  exact noneLost_iff hone hconcludes

/-! ## A fast stop -/

/-- The stop of the execution that a line started. -/
def stopNotice (line : Nat) : Notice where
  type := "notify".toList
  message := some "stopped".toList
  payload := some (dict [("reason", .str "breakpoint-hit".toList)])
  ended := some line
  other := by decide

/-- gdb answers the six commands of `attach` in step and then follows the script. -/
def stoppingGdb (script : List Reply) : Gdb where
  answers _ := ⟨.done, none⟩
  script := List.replicate 6 (.items [.answer] true) ++ script

/-- The attachment that comes of it. -/
def attached (gdb : Gdb) : Link :=
  ((attach plainRedactor ⟨"/vmlinux".toList, rfl⟩ "127.0.0.1".toList "1234".toList).run
    (exec gdb) (start gdb)).2

/-- The stop comes with the first read. -/
def slowScript : List Reply := [.items [.answer] true, .items [.notice (stopNotice 6)] true]

/-- A step whose stop comes with a read. -/
theorem resume_none_lost_slow :
    NoneLost (attached (stoppingGdb slowScript)).sent.length
        (resumeHanded (stoppingGdb slowScript) plainRedactor .step 1
          (attached (stoppingGdb slowScript)))
        ((resume plainRedactor .step 1).run (exec (stoppingGdb slowScript))
          (attached (stoppingGdb slowScript))).1 ↔
      ∀ output ∈ resumeHanded (stoppingGdb slowScript) plainRedactor .step 1
          (attached (stoppingGdb slowScript)),
        output.Seen (attached (stoppingGdb slowScript)).sent.length :=
  resume_none_lost_iff _ _ _ _ _ (by decide +kernel)

/-- The stop comes with the answer to the verb, and the interrupt finds the target
stopped. -/
def fastScript : List Reply :=
  [.items [.answer, .notice (stopNotice 6)] true] ++ List.replicate 3 (.items [] true) ++
    [.items [.answer] true]

/-- A step whose stop comes with the answer to the verb loses it and reports a stall. -/
theorem resume_fast_stop_lost :
    ¬NoneLost (attached (stoppingGdb fastScript)).sent.length
      (resumeHanded (stoppingGdb fastScript) plainRedactor .step 1
        (attached (stoppingGdb fastScript)))
      ((resume plainRedactor .step 1).run (exec (stoppingGdb fastScript))
        (attached (stoppingGdb fastScript))).1 := by
  intro h
  have hcaused : ∃ output ∈ resumeHanded (stoppingGdb fastScript) plainRedactor .step 1
      (attached (stoppingGdb fastScript)), ∃ record ∈ output.records,
      Caused (attached (stoppingGdb fastScript)).sent.length record := by decide +kernel
  obtain ⟨output, hmem, record, hrecord, hcaused⟩ := hcaused
  have hstall : tearsDown ((resume plainRedactor .step 1).run (exec (stoppingGdb fastScript))
      (attached (stoppingGdb fastScript))).1 = true := by decide +kernel
  rw [(h.found output hmem record hrecord hcaused).2] at hstall
  cases hstall

end Kdive.GdbMi

import Kdive.GdbMi.Execution

/-!
# Readers of payloads

What the readers of the engine make of any value gdb answers with: the rows of a stack,
of the variables, of the breakpoint table and of the registers, and the frame of a stop.

*Rows*.  Each row that is well formed is one entry, in order.  A number that is none is
no number, and the entry has none.

*Where it fails*.  `_int` tests a text with `isdigit`, which takes more than `int` does.
`by_number` takes the number of a row as a key, whatever it is.  pygdbmi leaves the rows
of a table without their names, which `backtrace` allows for and `list_breakpoints` does
not.  `total_iff` says that nothing else goes wrong.
-/

namespace Kdive.GdbMi

open Program PythonInt

/-! ## Fields -/

@[simp] theorem field_dict_nil (key : String) : field (some (dict [])) key = none := rfl

@[simp] theorem field_dict_cons (item : String × Value Text) (items : List (String × Value Text))
    (key : String) :
    field (some (dict (item :: items))) key =
      if key = item.1 then some item.2 else field (some (dict items)) key := by
  show List.lookup (Key.str key.toList) ((Key.str item.1.toList, item.2) :: _) = _
  rw [List.lookup_cons]
  by_cases hkey : key = item.1
  · rw [if_pos hkey, hkey, beq_self_eq_true]
  · have hne : Key.str key.toList ≠ Key.str item.1.toList := fun heq =>
      hkey (String.toList_inj.mp (Key.str.inj heq))
    rw [if_neg hkey, beq_false_of_ne hne]
    rfl

theorem lookup_redactItems {τ σ : Type} {redact : τ → σ} {mask : σ} {isSensitive : Bool}
    {key : Key} (h : masks isSensitive key = false) (items : List (Key × Value τ)) :
    (redactItems redact mask isSensitive items).lookup key =
      (items.lookup key).map (redactValueWith redact mask) := by
  induction items with
  | nil => rfl
  | cons item items ih =>
      obtain ⟨other, value⟩ := item
      rw [redactItems, List.lookup_cons, List.lookup_cons, ih]
      cases hkey : key == other with
      | false => rfl
      | true =>
          rw [← eq_of_beq hkey, h]
          rfl

/-- What is not masked stands redacted under its key. -/
theorem field_redactValue {redactor : Redactor} {key : String}
    (hpath : key.toList ≠ "path".toList) (hname : secretNamed key.toList = false)
    (value : Value Text) :
    field (some (redactor.redactValue value)) key =
      (field (some value) key).map redactor.redactValue := by
  cases value with
  | mapping items =>
      refine lookup_redactItems ?_ items
      rw [masks, Key.shown, hname, Bool.or_false, Bool.and_eq_false_iff]
      exact .inr (decide_eq_false fun heq => hpath (Key.str.inj heq))
  | str _ | scalar _ | list _ | tuple _ => rfl

/-! ## Numbers -/

/-- A number that gdb wrote, and none for another text. -/
def numeral (value : Option (Value Text)) : Option Int :=
  ((asText value).filter isNumeral).bind int

/-- If the test of `_int` takes a text, it is a number. -/
def NumberClear (value : Option (Value Text)) : Prop :=
  ∀ text, asText value = some text → isdigit (text.dropWhile (· = '-')) = true →
    isNumeral text = true

theorem intOf_of_clear {value : Option (Value Text)} (h : NumberClear value) :
    intOf value = .ok (numeral value) := by
  unfold intOf numeral
  cases htext : asText value with
  | none => rfl
  | some text =>
      dsimp only
      by_cases hguard : isdigit (text.dropWhile (· = '-')) = true
      · have hnumeral := h text htext hguard
        have hsome := int_isSome hguard
        rw [hnumeral] at hsome
        obtain ⟨number, hint⟩ := Option.isSome_iff_exists.mp hsome
        rw [if_pos hguard, hint, Option.filter_some, if_pos hnumeral, Option.bind_some, hint]
      · have hnumeral : ¬isNumeral text = true := fun hn => hguard (isdigit_of_isNumeral hn)
        rw [if_neg hguard, Option.filter_some, if_neg hnumeral]
        rfl

theorem intOf_of_not_clear {value : Option (Value Text)} (h : ¬NumberClear value) :
    intOf value = .error .other := by
  simp only [NumberClear, not_forall] at h
  obtain ⟨text, htext, hguard, hnumeral⟩ := h
  have hsome := int_isSome hguard
  rw [Bool.eq_false_iff.mpr hnumeral] at hsome
  have hint : int text = none := by simpa using hsome
  unfold intOf
  rw [htext]
  dsimp only
  rw [if_pos hguard, hint]

/-! ## Frames -/

/-- The frame of a payload. -/
def frame (payload : Option (Value Text)) : Frame where
  level := numeral (field payload "level")
  func := asText (field payload "func")
  addr := asText (field payload "addr")
  file := asText (field payload "file")
  line := numeral (field payload "line")

/-- The numbers of a frame. -/
structure FrameClear (payload : Option (Value Text)) : Prop where
  level : NumberClear (field payload "level")
  line : NumberClear (field payload "line")

theorem frameFrom_of_clear {payload : Option (Value Text)} (h : FrameClear payload) :
    frameFrom payload = .ok (frame payload) := by
  rw [frameFrom, intOf_of_clear h.level, intOf_of_clear h.line]
  rfl

theorem frameFrom_of_not_clear {payload : Option (Value Text)} (h : ¬FrameClear payload) :
    frameFrom payload = .error .other := by
  rw [frameFrom]
  by_cases hlevel : NumberClear (field payload "level")
  · have hline : ¬NumberClear (field payload "line") := fun hline => h ⟨hlevel, hline⟩
    rw [intOf_of_clear hlevel, intOf_of_not_clear hline]
    rfl
  · rw [intOf_of_not_clear hlevel]
    rfl

/-- A row that is a mapping. -/
def isMapping : Value Text → Bool
  | .mapping _ => true
  | _ => false

/-- The frame of a row, which may stand under its name. -/
def unnamed (row : Value Text) : Value Text :=
  match field (some row) "frame" with
  | some (.mapping inner) => .mapping inner
  | _ => row

section Redacting

variable (redactor : Redactor)

/-- What `backtrace` reads of a row. -/
def frameRow (row : Value Text) : Option (Value Text) :=
  some (redactor.redactValue (unnamed row))

/-- The numbers of the frames of a stack. -/
def StackClear (rows : List (Value Text)) : Prop :=
  ∀ row ∈ rows, isMapping row = true → FrameClear (frameRow redactor row)

/-- The entries of a stack. -/
def stackEntries (rows : List (Value Text)) : List Frame :=
  (rows.filter isMapping).map fun row => frame (frameRow redactor row)

/-- A row that is a mapping comes first, and the others are passed over. -/
theorem framesFrom_cons (row : Value Text) (rows : List (Value Text)) :
    framesFrom redactor (row :: rows) =
      if isMapping row = true then do
        let frame ← frameFrom (frameRow redactor row)
        let frames ← framesFrom redactor rows
        return frame :: frames
      else framesFrom redactor rows := by
  cases row with
  | mapping items =>
      have hmapping : isMapping (.mapping items) = true := rfl
      rw [if_pos hmapping]
      rfl
  | str _ | scalar _ | list _ | tuple _ => rfl

variable {redactor}

theorem stackClear_cons {row : Value Text} {rows : List (Value Text)} :
    StackClear redactor (row :: rows) ↔
      (isMapping row = true → FrameClear (frameRow redactor row)) ∧ StackClear redactor rows :=
  List.forall_mem_cons

theorem framesFrom_of_clear {rows : List (Value Text)} (h : StackClear redactor rows) :
    framesFrom redactor rows = .ok (stackEntries redactor rows) := by
  induction rows with
  | nil => rfl
  | cons row rows ih =>
      obtain ⟨hfirst, hrest⟩ := stackClear_cons.mp h
      rw [framesFrom_cons, ih hrest, stackEntries, stackEntries]
      by_cases hrow : isMapping row = true
      · rw [if_pos hrow, frameFrom_of_clear (hfirst hrow),
          List.filter_cons_of_pos hrow, List.map_cons]
        rfl
      · rw [if_neg hrow, List.filter_cons_of_neg hrow]

theorem framesFrom_of_not_clear {rows : List (Value Text)} (h : ¬StackClear redactor rows) :
    framesFrom redactor rows = .error .other := by
  induction rows with
  | nil => exact absurd (fun _ hrow => by cases hrow) h
  | cons row rows ih =>
      rw [stackClear_cons] at h
      rw [framesFrom_cons]
      by_cases hrow : isMapping row = true
      · rw [if_pos hrow]
        by_cases hframe : FrameClear (frameRow redactor row)
        · rw [frameFrom_of_clear hframe, ih fun hrows => h ⟨fun _ => hframe, hrows⟩]
          rfl
        · rw [frameFrom_of_not_clear hframe]
          rfl
      · rw [if_neg hrow, ih fun hrows => h ⟨fun hmapping => absurd hmapping hrow, hrows⟩]

end Redacting

/-! ## Variables, breakpoints and registers -/

/-- A row of the variables with a name. -/
def isVariable (row : Value Text) : Bool := (asText (field (some row) "name")).isSome

/-- A row whose breakpoint stands under its name. -/
def isNamed (row : Value Text) : Bool :=
  match field (some row) "bkpt" with
  | some breakpoint => isMapping breakpoint
  | none => false

/-- A row that is a breakpoint: it has one under its name, or else a number. -/
def isBreakpoint (row : Value Text) : Bool :=
  isNamed row || (asText (field (some row) "number")).isSome

/-- The breakpoint of a row. -/
def breakpointOf (row : Value Text) : Option (Value Text) :=
  if isNamed row then field (some row) "bkpt" else some row

/-- The names of a table's breakpoints were kept. -/
def TableClear (rows : List (Value Text)) : Prop :=
  ∀ row ∈ rows, isBreakpoint row = true → isNamed row = true

/-- The numbers of the registers' rows can be keys. -/
def NumbersClear (rows : List (Value Text)) : Prop :=
  ∀ row ∈ rows.filterMap registerRow, hashable row.1 = true

section Redacting

variable (redactor : Redactor) (shown : Value Text → Text)

/-- The entry of a variable. -/
def variableEntry (row : Value Text) : Value Text :=
  redactor.redactValue (dict [("name", ofText (asText (field (some row) "name"))),
    ("value", ofText ((asText (field (some row) "value")).map (·.take MAX_RESPONSE_SNIPPET)))])

/-- The entries of the variables. -/
def variableEntries (rows : List (Value Text)) : List (Value Text) :=
  (rows.filter isVariable).map (variableEntry redactor)

/-- The entries of a table. -/
def breakpointEntries (rows : List (Value Text)) : List (Value Text) :=
  (rows.filter isBreakpoint).map fun row => breakpointRefFrom redactor shown (breakpointOf row)

/-- The entries of the registers that were asked for, each once. -/
def registerEntries (names : List Text) (ordered rows : List (Value Text)) :
    List (Key × Value Text) :=
  names.eraseDups.filterMap fun name =>
    (registerOrdinal ordered name).bind fun ordinal =>
      (registerValue rows (decimalText ordinal)).map fun value => (Key.str name, value)

variable {redactor : Redactor} {shown : Value Text → Text}

/-- An entry for each row that has one. -/
theorem filterMap_eq_entries {f : Value Text → Option (Value Text)} {wellFormed : Value Text → Bool}
    {entry : Value Text → Value Text}
    (h : ∀ row, f row = if wellFormed row = true then some (entry row) else none)
    (rows : List (Value Text)) : rows.filterMap f = (rows.filter wellFormed).map entry := by
  rw [← List.filterMap_eq_filter, List.map_filterMap]
  refine List.filterMap_congr fun row _ => ?_
  rw [h row, Option.guard]
  split <;> rfl

theorem listBreakpoints_rows (rows : List (Value Text)) :
    (rows.filterMap fun row =>
      match field (some row) "bkpt" with
      | some (.mapping items) => some (breakpointRefFrom redactor shown (some (.mapping items)))
      | _ => none) =
      (rows.filter isNamed).map fun row => breakpointRefFrom redactor shown (breakpointOf row) := by
  refine filterMap_eq_entries (fun row => ?_) rows
  unfold breakpointOf isNamed
  cases field (some row) "bkpt" with
  | none => rfl
  | some breakpoint => cases breakpoint <;> rfl

theorem listVariables_rows (rows : List (Value Text)) :
    (rows.filterMap fun row => (asText (field (some row) "name")).map fun name =>
      redactor.redactValue (dict [("name", .str name),
        ("value", ofText ((asText (field (some row) "value")).map
          (·.take MAX_RESPONSE_SNIPPET)))])) = variableEntries redactor rows := by
  refine filterMap_eq_entries (fun row => ?_) rows
  unfold isVariable variableEntry
  cases asText (field (some row) "name") <;> rfl

/-- No entry is missing exactly when every breakpoint stands under its name. -/
theorem breakpointEntries_eq_iff (rows : List (Value Text)) :
    ((rows.filter isNamed).map fun row => breakpointRefFrom redactor shown (breakpointOf row)) =
      breakpointEntries redactor shown rows ↔ TableClear rows := by
  constructor
  · intro heq row hrow hbreakpoint
    have hsublist : (rows.filter isNamed).Sublist (rows.filter isBreakpoint) :=
      List.monotone_filter_right rows fun row hnamed => by rw [isBreakpoint, hnamed, Bool.true_or]
    have hlength := congrArg List.length heq
    rw [breakpointEntries, List.length_map, List.length_map] at hlength
    have hmem := List.mem_filter.mpr ⟨hrow, hbreakpoint⟩
    rw [← hsublist.eq_of_length hlength] at hmem
    exact (List.mem_filter.mp hmem).2
  · intro hclear
    rw [breakpointEntries, List.filter_congr fun row hrow => ?_]
    rw [isBreakpoint]
    cases hnamed : isNamed row with
    | true => rfl
    | false =>
        have hnot := mt (hclear row hrow) (by rw [hnamed]; exact Bool.false_ne_true)
        rw [isBreakpoint, hnamed] at hnot
        exact (Bool.eq_false_iff.mpr hnot).symm

/-- The number of a breakpoint's entry. -/
theorem field_number (entry : Option (Value Text)) :
    field (some (breakpointRefFrom redactor shown entry)) "number" =
      some (.str (redactor.redactText (numberText shown (field entry "number")))) := by
  rw [breakpointRefFrom, field_redactValue (by decide) (by decide), field_dict_cons, if_pos rfl]
  rfl

/-- The kind of a breakpoint's entry. -/
theorem field_type (entry : Option (Value Text)) :
    field (some (breakpointRefFrom redactor shown entry)) "type" =
      some (redactor.redactValue (ofText (asText (field entry "type")))) := by
  rw [breakpointRefFrom, field_redactValue (by decide) (by decide)]
  simp

theorem hashNumbers_of_clear {rows : List (Value Text)} (h : NumbersClear rows) :
    hashNumbers rows = .ok () := if_pos (List.all_eq_true.mpr h)

theorem hashNumbers_of_not_clear {rows : List (Value Text)} (h : ¬NumbersClear rows) :
    hashNumbers rows = .error .other := if_neg fun hall => h (List.all_eq_true.mp hall)

/-! ## Answers -/

/-- gdb answers the next lines with these payloads, each with the write of its line. -/
structure Awaits (gdb : Gdb) (link : Link) (payloads : List (Option (Value Text))) : Prop where
  script : (payloads.map fun _ => Reply.items [.answer] true) <+: link.script
  answers : ∀ index (h : index < payloads.length),
    (gdb.answers (link.sent.length + index)).payload = payloads[index]
  done : ∀ index < payloads.length, (gdb.answers (link.sent.length + index)).cls ≠ .error
  due : link.answered = link.sent.length

/-- The link after a write that hands over its answer. -/
def Link.answer (gdb : Gdb) (link : Link) (line : Text) (script : List Reply) : Link :=
  { (link.send line).take gdb .write [.answer] true script with
    last := [(gdb.answers link.answered).record link.answered] }

theorem exec_write_answer {gdb : Gdb} {link : Link} {script : List Reply}
    (hscript : link.script = .items [.answer] true :: script)
    (hdue : link.answered = link.sent.length) (line : Text) :
    exec gdb (.write line) link =
      (.ok [(gdb.answers link.answered).record link.answered],
        link.answer gdb line script) := by
  have hlt : link.answered < (link.send line).sent.length := by
    rw [hdue, Link.send, List.length_append]
    exact Nat.lt_succ_self _
  have hdeliver : deliver gdb (link.send line).sent.length link.answered [.answer] =
      (link.answered + 1, [(gdb.answers link.answered).record link.answered]) := by
    rw [deliver, if_pos hlt]
    rfl
  rw [exec, hscript]
  dsimp only
  rw [hdeliver]
  rfl

/-- The link after a command that its answer lets return. -/
def Link.looked (link : Link) (line : Text) (records : List Record) : Link :=
  { link with
    records := link.records ++ records
    transcript := link.transcript ++ [(line, records)]
    exchanges := link.exchanges ++ [⟨link.sent.length - 1, link.due, link.last⟩] }

theorem run_runCommand {gdb : Gdb} {link link' : Link} {line : Text} {records : List Record}
    (hwrite : exec gdb (.write line) link = (.ok records, link')) (hlogging : link'.logging = true)
    (hok : ∀ result, firstResult records = some result → result.message ≠ some "error".toList) :
    (runCommand redactor line).run (exec gdb) link = (.ok records, link'.looked line records) := by
  rw [runCommand, Prog.run_bind, Prog.run_perform, hwrite]
  dsimp only
  rw [Prog.run_bind, Prog.run_perform, exec]
  dsimp only
  rw [Prog.run_bind, Prog.run_perform, exec, if_pos hlogging]
  dsimp only
  rw [Prog.run_bind, Prog.run_perform, exec]
  dsimp only
  cases hresult : firstResult records with
  | none => rfl
  | some result =>
      dsimp only
      rw [if_neg (hok result hresult)]
      rfl

/-- A command returns the payload of its answer. -/
theorem run_query (redactor : Redactor) {gdb : Gdb} {link : Link} {payload : Option (Value Text)}
    {payloads : List (Option (Value Text))} (h : Awaits gdb link (payload :: payloads))
    (line : Text) :
    ∃ link', (query redactor line).run (exec gdb) link = (.ok payload, link') ∧
      Awaits gdb link' payloads := by
  obtain ⟨rest, hscript⟩ := h.script
  have hanswer := h.answers 0 (Nat.zero_lt_succ _)
  have hdone := h.done 0 (Nat.zero_lt_succ _)
  rw [Nat.add_zero, ← h.due] at hanswer hdone
  have hfirst : firstResult [(gdb.answers link.answered).record link.answered] =
      some ((gdb.answers link.answered).record link.answered) := rfl
  have hok : ∀ result, firstResult [(gdb.answers link.answered).record link.answered] =
      some result → result.message ≠ some "error".toList := by
    intro result hresult
    rw [← Option.some.inj (hfirst.symm.trans hresult), Answer.record]
    cases hclass : (gdb.answers link.answered).cls with
    | error => exact absurd hclass hdone
    | done | running | connected | exit => exact of_decide_eq_true rfl
  have hrun : (runCommand redactor line).run (exec gdb) link = _ :=
    run_runCommand (exec_write_answer hscript.symm h.due line) rfl hok
  have hsent : (link.sent ++ [line]).length = link.sent.length + 1 := List.length_append
  have hindices (index : Nat) :
      link.sent.length + (index + 1) = (link.sent ++ [line]).length + index := by
    rw [hsent, Nat.add_assoc, Nat.add_comm 1 index]
  refine ⟨(link.answer gdb line _).looked line
    [(gdb.answers link.answered).record link.answered], ?_,
    ⟨⟨rest, rfl⟩, fun index hindex => ?_, fun index hindex => ?_, ?_⟩⟩
  · rw [query, Prog.run_bind, hrun]
    dsimp only
    rw [hfirst, Option.bind_some, Answer.record, hanswer]
    rfl
  · have hnext := h.answers (index + 1) (Nat.succ_lt_succ hindex)
    rw [hindices index] at hnext
    exact hnext
  · have hnext := h.done (index + 1) (Nat.succ_lt_succ hindex)
    rw [hindices index] at hnext
    exact hnext
  · have hlt : link.answered < (link.send line).sent.length := by
      rw [h.due, Link.send, hsent]
      exact Nat.lt_succ_self _
    show (deliver gdb (link.send line).sent.length link.answered [.answer]).1 = _
    rw [deliver, if_pos hlt, deliver, h.due]
    exact hsent.symm

end Redacting

/-! ## Readings -/

/-- What a reader reads: the payloads of the answers, or the record of a stop. -/
inductive Reading where
  | backtrace (payload : Option (Value Text))
  | listVariables (payload : Option (Value Text))
  | listBreakpoints (payload : Option (Value Text))
  | readRegisters (names : List Text) (ordered values : Option (Value Text))
  | stopRecord (record : Record)

/-- What a reader returns. -/
inductive Entries where
  | frames (frames : List Frame)
  | value (value : Value Text)
  | stop (stop : StopRecord)

/-- The rows of the breakpoint table. -/
def tableRows (payload : Option (Value Text)) : List (Value Text) :=
  asList (field (field payload "BreakpointTable") "body")

namespace Reading

/-- The payloads of the answers, one for each command. -/
def payloads : Reading → List (Option (Value Text))
  | .backtrace payload | .listVariables payload | .listBreakpoints payload => [payload]
  | .readRegisters _ ordered values => [ordered, values]
  | .stopRecord _ => []

section Redacting

variable (redactor : Redactor) (shown : Value Text → Text)

/-- The reader. -/
def op : Reading → Mi Entries
  | .backtrace _ => do
      let frames ← backtraceOp redactor
      return .frames frames
  | .listVariables _ => do
      let rows ← listVariablesOp redactor
      return .value rows
  | .listBreakpoints _ => do
      let rows ← listBreakpointsOp redactor shown
      return .value rows
  | .readRegisters names _ _ => do
      let registers ← readRegistersOp redactor names
      return .value registers
  | .stopRecord record => do
      let stop ← Prog.ofExcept (stopRecordFrom record)
      return .stop stop

/-- The stop of a record that is not terminal. -/
def stop (record : Record) : StopRecord where
  reason := asText (field record.payload "reason")
  bkptno := asText (field record.payload "bkptno")
  stoppedThread := asText (field record.payload "stopped-threads")
  frame := ((field record.payload "frame").filter isMapping).map fun payload =>
    frame (some payload)
  timedOut := false
  ended := record.ended

/-- One entry for each row that is well formed, in order.  Registers with a bad name and a
stop of an inferior that is gone are a `GdbMiError`. -/
def entries : Reading → Except Fault Entries
  | .backtrace payload =>
      .ok (.frames (stackEntries redactor (asList (field payload "stack"))))
  | .listVariables payload =>
      .ok (.value (.list (variableEntries redactor (asList (field payload "variables")))))
  | .listBreakpoints payload =>
      .ok (.value (.list (breakpointEntries redactor shown (tableRows payload))))
  | .readRegisters names ordered values =>
      match GdbMi.readRegisters names with
      | .error refusal => .error refusal.fault
      | .ok _ => .ok (.value (redactor.redactValue (dict [("registers",
          .mapping (registerEntries names (asList (field ordered "register-names"))
            (asList (field values "register-values"))))])))
  | .stopRecord record =>
      match terminalReason record with
      | some reason => .error (.mi (sessionExited reason record.ended))
      | none => .ok (.stop (stop record))

/-- Every number can be read, every register's number is a key, and the breakpoints of a
table stand under their names. -/
def Clear : Reading → Prop
  | .backtrace payload => StackClear redactor (asList (field payload "stack"))
  | .listVariables _ => True
  | .listBreakpoints payload => TableClear (tableRows payload)
  | .readRegisters names _ values =>
      (GdbMi.readRegisters names).toOption.isSome = true →
        NumbersClear (asList (field values "register-values"))
  | .stopRecord record =>
      terminalReason record = none →
        ∀ payload, field record.payload "frame" = some payload → isMapping payload = true →
          FrameClear (some payload)

/-- The engine fault branch of `_run_debug_engine_op`, which reaps the session. -/
def faults {α : Type} : Except Fault α → Bool
  | .error .other => true
  | _ => false

/-- Whatever gdb answers, the reader returns its entries and the session is kept. -/
structure Total (reading : Reading) : Prop where
  returns : ∀ gdb link, Awaits gdb link reading.payloads →
    ((reading.op redactor shown).run (exec gdb) link).1 = reading.entries redactor shown
  keeps : ∀ gdb link, Awaits gdb link reading.payloads →
    faults ((reading.op redactor shown).run (exec gdb) link).1 = false

variable {redactor shown}

/-- What the reader makes of the payloads. -/
def read (redactor : Redactor) (shown : Value Text → Text) : Reading → Except Fault Entries
  | .backtrace payload => (framesFrom redactor (asList (field payload "stack"))).map .frames
  | .listVariables payload =>
      .ok (.value (.list (variableEntries redactor (asList (field payload "variables")))))
  | .listBreakpoints payload =>
      .ok (.value (.list (((tableRows payload).filter isNamed).map fun row =>
        breakpointRefFrom redactor shown (breakpointOf row))))
  | .readRegisters names ordered values =>
      match GdbMi.readRegisters names with
      | .error refusal => .error refusal.fault
      | .ok _ => (hashNumbers (asList (field values "register-values"))).map fun _ =>
          .value (redactor.redactValue (dict [("registers",
            .mapping (registerEntries names (asList (field ordered "register-names"))
              (asList (field values "register-values"))))]))
  | .stopRecord record => (stopRecordFrom record).map .stop

/-- The reader reads the payloads of its answers, whatever went before. -/
theorem run_op {gdb : Gdb} {link : Link} {reading : Reading}
    (h : Awaits gdb link reading.payloads) :
    ((reading.op redactor shown).run (exec gdb) link).1 = reading.read redactor shown := by
  cases reading with
  | backtrace payload =>
      obtain ⟨link', hrun, _⟩ := run_query redactor h "-stack-list-frames".toList
      rw [op, backtraceOp, Prog.run_bind, Prog.run_bind, hrun]
      dsimp only
      rw [Prog.run_ofExcept, read]
      cases framesFrom redactor (asList (field payload "stack")) <;> rfl
  | listVariables payload =>
      obtain ⟨link', hrun, _⟩ := run_query redactor h
        "-stack-list-variables --all-values".toList
      rw [op, listVariablesOp, Prog.run_bind, Prog.run_bind, hrun, read, ← listVariables_rows]
      rfl
  | listBreakpoints payload =>
      obtain ⟨link', hrun, _⟩ := run_query redactor h "-break-list".toList
      rw [op, listBreakpointsOp, Prog.run_bind, Prog.run_bind, hrun, read, ← listBreakpoints_rows]
      rfl
  | readRegisters names ordered values =>
      rw [op, readRegistersOp, read]
      cases GdbMi.readRegisters names with
      | error refusal => rfl
      | ok lines =>
          obtain ⟨link', hrun, hnext⟩ := run_query redactor h
            "-data-list-register-names".toList
          obtain ⟨link'', hrun', _⟩ := run_query redactor hnext
            "-data-list-register-values x".toList
          have haccepted : (accepted (.ok lines) : Mi (List Text)).run (exec gdb) link =
              (.ok lines, link) := rfl
          rw [Prog.run_bind, Prog.run_bind, haccepted]
          dsimp only
          rw [Prog.run_bind, hrun]
          dsimp only
          rw [Prog.run_bind, hrun']
          dsimp only
          rw [Prog.run_bind, Prog.run_ofExcept]
          cases hashNumbers (asList (field values "register-values")) <;> rfl
  | stopRecord record =>
      rw [op, Prog.run_bind, Prog.run_ofExcept, read]
      cases stopRecordFrom record <;> rfl

/-- A frame that is a mapping is read, and another value is none. -/
theorem stopFrame_of_clear {value : Option (Value Text)}
    (h : ∀ payload, value = some payload → isMapping payload = true → FrameClear (some payload)) :
    stopFrame value = .ok ((value.filter isMapping).map fun payload => frame (some payload)) := by
  cases value with
  | none => rfl
  | some payload =>
      cases payload with
      | mapping items =>
          rw [stopFrame, frameFrom_of_clear (h _ rfl rfl)]
          rfl
      | str _ | scalar _ | list _ | tuple _ => rfl

theorem stopFrame_of_not_clear {payload : Value Text} (hmapping : isMapping payload = true)
    (h : ¬FrameClear (some payload)) : stopFrame (some payload) = .error .other := by
  cases payload with
  | mapping items =>
      rw [stopFrame, frameFrom_of_not_clear h]
      rfl
  | str _ | scalar _ | list _ | tuple _ => cases hmapping

theorem read_of_clear {reading : Reading} (h : reading.Clear redactor) :
    reading.read redactor shown = reading.entries redactor shown := by
  cases reading with
  | backtrace payload => rw [read, framesFrom_of_clear h, entries]; rfl
  | listVariables payload => rfl
  | listBreakpoints payload => rw [read, (breakpointEntries_eq_iff _).mpr h, entries]
  | readRegisters names ordered values =>
      rw [read, entries]
      cases hnames : GdbMi.readRegisters names with
      | error refusal => rfl
      | ok lines =>
          have hclear : NumbersClear _ := h (by rw [hnames]; rfl)
          dsimp only
          rw [hashNumbers_of_clear hclear]
          rfl
  | stopRecord record =>
      rw [read, entries, stopRecordFrom]
      cases hreason : terminalReason record with
      | some reason => rfl
      | none =>
          dsimp only
          rw [stopFrame_of_clear (h hreason)]
          rfl

theorem read_of_not_clear {reading : Reading} (h : ¬reading.Clear redactor) :
    reading.read redactor shown ≠ reading.entries redactor shown := by
  cases reading with
  | backtrace payload =>
      rw [read, framesFrom_of_not_clear h, entries]
      exact fun heq => by cases heq
  | listVariables payload => exact absurd trivial h
  | listBreakpoints payload =>
      rw [read, entries]
      intro heq
      injection heq with heq
      injection heq with heq
      injection heq with heq
      exact h ((breakpointEntries_eq_iff _).mp heq)
  | readRegisters names ordered values =>
      simp only [Clear, Classical.not_imp] at h
      obtain ⟨hnames, hclear⟩ := h
      rw [read, entries]
      cases hread : GdbMi.readRegisters names with
      | error refusal =>
          rw [hread] at hnames
          cases hnames
      | ok lines =>
          dsimp only
          rw [hashNumbers_of_not_clear hclear]
          exact fun heq => by cases heq
  | stopRecord record =>
      simp only [Clear, Classical.not_imp, not_forall] at h
      obtain ⟨hreason, payload, hframe, hmapping, hclear⟩ := h
      rw [read, entries, stopRecordFrom, hreason, hframe]
      dsimp only
      rw [stopFrame_of_not_clear hmapping hclear]
      exact fun heq => by cases heq

/-- gdb with nothing else to say. -/
def answering (payloads : List (Option (Value Text))) : Gdb where
  answers index := ⟨.done, payloads[index]?.join⟩
  script := payloads.map fun _ => .items [.answer] true

theorem awaits_answering (payloads : List (Option (Value Text))) :
    Awaits (answering payloads) (start (answering payloads)) payloads where
  script := List.prefix_rfl
  answers index h := by
    show (payloads[0 + index]?).join = _
    rw [Nat.zero_add, List.getElem?_eq_getElem h]
    rfl
  done _ _ := by simp [answering]
  due := rfl

theorem faults_entries (reading : Reading) :
    faults (reading.entries redactor shown) = false := by
  cases reading with
  | backtrace _ | listVariables _ | listBreakpoints _ => rfl
  | readRegisters names _ _ =>
      rw [entries]
      cases GdbMi.readRegisters names <;> rfl
  | stopRecord record =>
      rw [entries]
      cases terminalReason record <;> rfl

end Redacting

theorem Total.clear {redactor : Redactor} {shown : Value Text → Text} {reading : Reading}
    (h : reading.Total redactor shown) : reading.Clear redactor := by
  by_contra hclear
  have hreturns := h.returns _ _ (awaits_answering reading.payloads)
  rw [run_op (awaits_answering reading.payloads)] at hreturns
  exact read_of_not_clear hclear hreturns

/-- The readers return their entries exactly when the numbers can be read, the registers'
numbers are keys and the breakpoints stand under their names. -/
theorem total_iff (redactor : Redactor) (shown : Value Text → Text) (reading : Reading) :
    reading.Total redactor shown ↔ reading.Clear redactor := by
  refine ⟨Total.clear, fun h => ?_⟩
  have hreturns : ∀ gdb link, Awaits gdb link reading.payloads →
      ((reading.op redactor shown).run (exec gdb) link).1 = reading.entries redactor shown :=
    fun gdb link hawaits => (run_op hawaits).trans (read_of_clear h)
  refine ⟨hreturns, fun gdb link hawaits => ?_⟩
  rw [hreturns gdb link hawaits]
  exact faults_entries reading

/-- A stop whose line is `--5`. -/
def dashedStop : Record where
  type := "notify".toList
  message := some "stopped".toList
  payload := some (dict [("reason", .str "end-stepping-range".toList),
    ("frame", dict [("level", .str "0".toList), ("line", .str "--5".toList)])])
  answers := none
  ended := none

/-- A breakpoint table as pygdbmi parses `body=[bkpt={number="1"}]`. -/
def flatTable : Value Text :=
  dict [("BreakpointTable", dict [("body", .list [dict [("number", .str "1".toList)]])])]

/-- Register values with a list for a number. -/
def listedNumber : Value Text :=
  dict [("register-values", .list [dict [("number", .list []), ("value", .str "0x0".toList)]])]

/-- A stop, a table and register values that a reader does not return the entries of. -/
theorem readers_fail :
    ¬(stopRecord dashedStop).Total plainRedactor (fun _ => []) ∧
      ¬(listBreakpoints (some flatTable)).Total plainRedactor (fun _ => []) ∧
      ¬(readRegisters ["rip".toList] none (some listedNumber)).Total plainRedactor
        (fun _ => []) := by
  refine ⟨fun h => ?_, fun h => ?_, fun h => ?_⟩
  · have hnumeral := (h.clear rfl _ rfl rfl).line "--5".toList rfl (by decide)
    exact absurd hnumeral (by decide)
  · have hnamed := h.clear _ List.mem_cons_self (by decide)
    exact absurd hnamed (by decide)
  · have hkey := h.clear (by decide) (.list [], .str "0x0".toList) List.mem_cons_self
    exact absurd hkey (by decide)

end Reading

end Kdive.GdbMi

import Kdive.Lib.Dict
import Kdive.Lib.Runs
import Kdive.GdbMi.Readers

/-!
# The breakpoints of a session

gdb has a table of breakpoints and watchpoints, and a copy of it is kept twice: in the
session file and in the `debug` step of the manifest.  An operation that sets or clears
one lets gdb do so, lists the table, writes the file and records the step, and each of
these may fail while the session goes on.

*gdb*.  It numbers what it sets, and refuses to delete what it does not have.

*Agreement*.  The copies hold the same breakpoints, and these are gdb's, by number and
kind.  A step that fails behind a change of the table leaves a copy behind, and so does a
listing whose rows lost their names.  `agrees_iff` says that nothing else does.
-/

namespace Kdive.Breakpoints

open GdbMi Dictionary Runs

/-! ## gdb -/

/-- A breakpoint or a watchpoint. -/
structure Breakpoint where
  number : Nat
  type : Text
  addr : Option Text
  func : Option Text
  what : Option Text

/-- gdb's table. -/
structure Table where
  rows : List Breakpoint
  next : Nat
  /-- A number is one breakpoint's. -/
  nodup : (rows.map Breakpoint.number).Nodup
  /-- The next number is new. -/
  old : ∀ row ∈ rows, row.number < next

/-- What gdb makes of a location. -/
structure Placed where
  type : Text
  addr : Option Text
  func : Option Text
  what : Option Text

namespace Table

/-- A table without breakpoints. -/
def empty : Table := ⟨[], 1, List.nodup_nil, fun _ h => by cases h⟩

/-- Set a breakpoint under the next number. -/
def insert (table : Table) (placed : Placed) : Table where
  rows := table.rows ++ [⟨table.next, placed.type, placed.addr, placed.func, placed.what⟩]
  next := table.next + 1
  nodup := by
    rw [List.map_append, List.nodup_append]
    refine ⟨table.nodup, List.nodup_singleton _, fun number hold other hnew heq => ?_⟩
    obtain ⟨row, hrow, rfl⟩ := List.mem_map.mp hold
    rw [List.mem_singleton.mp hnew] at heq
    exact absurd heq (Nat.ne_of_lt (table.old row hrow))
  old row h := by
    rcases List.mem_append.mp h with h | h
    · exact Nat.lt_succ_of_lt (table.old row h)
    · rw [List.mem_singleton.mp h]
      exact Nat.lt_succ_self _

/-- Delete the breakpoint of a number. -/
def erase (table : Table) (number : Nat) : Table where
  rows := table.rows.filter fun row => row.number ≠ number
  next := table.next
  nodup := table.nodup.sublist (List.filter_sublist.map _)
  old row h := table.old row (List.mem_of_mem_filter h)

/-- `-break-delete`, which is refused for a number that is not there. -/
def delete (table : Table) (number : Nat) : Option Table :=
  if number ∈ table.rows.map Breakpoint.number then some (table.erase number) else none

/-- The numbers and kinds of the breakpoints. -/
def kinds (table : Table) : List (Text × Option Text) :=
  table.rows.map fun row => (decimalText row.number, some row.type)

theorem length_erase_lt {table : Table} {number : Nat}
    (h : number ∈ table.rows.map Breakpoint.number) :
    (table.erase number).rows.length < table.rows.length := by
  obtain ⟨row, hrow, rfl⟩ := List.mem_map.mp h
  refine List.length_filter_lt_length_iff_exists.mpr ⟨row, hrow, ?_⟩
  simp

end Table

/-! ## What gdb lists -/

/-- An entry that may be missing. -/
def optional (key : String) (text : Option Text) : List (String × Value Text) :=
  (text.map fun text => (key, Value.str text)).toList

/-- A breakpoint as a mapping. -/
def Breakpoint.value (row : Breakpoint) : Value Text :=
  dict (("number", .str (decimalText row.number)) :: ("type", .str row.type) ::
    (optional "addr" row.addr ++ optional "func" row.func ++ optional "what" row.what))

/-- A row of the listing, under its name or as it is. -/
def Breakpoint.row (named : Bool) (row : Breakpoint) : Value Text :=
  if named then dict [("bkpt", row.value)] else row.value

/-- The answer to `-break-list`. -/
def Table.payload (named : Bool) (table : Table) : Value Text :=
  dict [("BreakpointTable", dict [("body", .list (table.rows.map (Breakpoint.row named)))])]

theorem tableRows_payload (named : Bool) (table : Table) :
    tableRows (some (table.payload named)) = table.rows.map (Breakpoint.row named) := by
  rw [tableRows, Table.payload, field_dict_cons, if_pos rfl, field_dict_cons, if_pos rfl]
  rfl

theorem isNamed_row_true (row : Breakpoint) : isNamed (row.row true) = true := by
  rw [isNamed, Breakpoint.row, if_pos rfl, field_dict_cons, if_pos rfl]
  rfl

theorem isNamed_row_false (row : Breakpoint) : isNamed (row.row false) = false := by
  have hfield : field (some row.value) "bkpt" = none := by
    obtain ⟨number, type, addr, func, what⟩ := row
    cases addr <;> cases func <;> cases what <;> simp [Breakpoint.value, optional]
  rw [isNamed, Breakpoint.row, if_neg Bool.false_ne_true, hfield]

/-! ## The copies -/

/-- `DebugSession.breakpoints`: the entries by their numbers. -/
abbrev Ledger := Dict Text (Value Text)

/-- `ref.model_dump(mode="json")`. -/
def modelDump : Value Text → Value Text
  | .mapping items => .mapping (items ++ [(.str "enabled".toList, .scalar .none)])
  | ref => ref

/-- The numbers and kinds of a copy. -/
def kinds (ledger : Ledger) : List (Text × Option Text) :=
  ledger.entries.map fun entry => (entry.1, asText (field (some entry.2) "type"))

/-- Where the breakpoints of a session are.  A session file that was cut has none. -/
structure State where
  table : Table
  file : Option Ledger
  manifest : Ledger

/-- A session that was just opened. -/
def State.opened : State := ⟨.empty, some .empty, .empty⟩

section Redacting

variable (redactor : Redactor) (shown : Value Text → Text)

/-- What `list_breakpoints` returns for a payload. -/
def refsOf (payload : Value Text) : List (Value Text) :=
  match (Reading.listBreakpoints (some payload)).read redactor shown with
  | .ok (.value (.list refs)) => refs
  | _ => []

/-- `{ref.number: ref.model_dump(mode="json") for ref in refs}` -/
def ledgerOf (refs : List (Value Text)) : Ledger :=
  Dict.empty.setAll (refs.map fun ref =>
    ((asText (field (some ref) "number")).getD [], modelDump ref))

/-- The numbers and kinds of a table after redaction. -/
def redactedKinds (table : Table) : List (Text × Option Text) :=
  table.rows.map fun row =>
    (redactor.redactText (decimalText row.number), some (redactor.redactText row.type))

/-- What the rows of a listing are read as. -/
theorem refsOf_payload (named : Bool) (table : Table) :
    refsOf redactor shown (table.payload named) =
      if named then table.rows.map fun row => breakpointRefFrom redactor shown (some row.value)
      else [] := by
  show ((tableRows (some (table.payload named))).filter isNamed).map _ = _
  rw [tableRows_payload]
  cases named with
  | true =>
      have hall : (table.rows.map (Breakpoint.row true)).filter isNamed =
          table.rows.map (Breakpoint.row true) := by
        refine List.filter_eq_self.mpr fun row hrow => ?_
        obtain ⟨breakpoint, _, rfl⟩ := List.mem_map.mp hrow
        exact isNamed_row_true breakpoint
      rw [hall, List.map_map, if_pos rfl]
      refine List.map_congr_left fun row _ => ?_
      rw [Function.comp_apply, breakpointOf, isNamed_row_true, if_pos rfl, Breakpoint.row,
        if_pos rfl, field_dict_cons, if_pos rfl]
  | false =>
      have hnone : (table.rows.map (Breakpoint.row false)).filter isNamed = [] := by
        refine List.filter_eq_nil_iff.mpr fun row hrow => ?_
        obtain ⟨breakpoint, _, rfl⟩ := List.mem_map.mp hrow
        rw [isNamed_row_false]
        exact Bool.false_ne_true
      rw [hnone, if_neg Bool.false_ne_true]
      rfl

/-- The kind of an entry is that of its breakpoint. -/
theorem field_modelDump {ref : Value Text} {key : String} {value : Value Text}
    (h : field (some ref) key = some value) : field (some (modelDump ref)) key = some value := by
  cases ref with
  | mapping items =>
      show List.lookup _ (items ++ _) = _
      rw [List.lookup_append, show items.lookup _ = some value from h]
      rfl
  | str _ | scalar _ | list _ | tuple _ => exact h

/-- The entries of a listing. -/
theorem kinds_entries (rows : List Breakpoint) :
    ((rows.map fun row => breakpointRefFrom redactor shown (some row.value)).map fun ref =>
      ((asText (field (some ref) "number")).getD [], modelDump ref)).map
        (fun entry : Text × Value Text => (entry.1, asText (field (some entry.2) "type"))) =
      rows.map fun row =>
        (redactor.redactText (decimalText row.number), some (redactor.redactText row.type)) := by
  rw [List.map_map, List.map_map]
  refine List.map_congr_left fun row _ => ?_
  have hnumber : field (some row.value) "number" = some (.str (decimalText row.number)) := by
    rw [Breakpoint.value, field_dict_cons, if_pos rfl]
  have htype : field (some row.value) "type" = some (.str row.type) := by
    have hne : "type" ≠ "number" := by decide
    rw [Breakpoint.value, field_dict_cons, if_neg hne, field_dict_cons, if_pos rfl]
  have hkind : field (some (breakpointRefFrom redactor shown (some row.value))) "type" = _ :=
    field_type (some row.value)
  rw [htype] at hkind
  rw [Function.comp_apply, Function.comp_apply, field_number, hnumber, field_modelDump hkind]
  rfl

/-- The copy of a table whose rows kept their names agrees with it exactly when redaction
leaves its numbers and kinds. -/
theorem ledgerOf_named_iff (table : Table) :
    (kinds (ledgerOf (refsOf redactor shown (table.payload true)))).Perm table.kinds ↔
      (redactedKinds redactor table).Perm table.kinds := by
  rw [refsOf_payload, if_pos rfl, ledgerOf]
  generalize hentries : ((table.rows.map fun row =>
    breakpointRefFrom redactor shown (some row.value)).map fun ref =>
      ((asText (field (some ref) "number")).getD [], modelDump ref)) = entries
  have hkinds := @kinds_entries redactor shown table.rows
  rw [hentries] at hkinds
  have hkeys : entries.map Prod.fst = (redactedKinds redactor table).map Prod.fst := by
    rw [redactedKinds, ← hkinds, List.map_map]
    rfl
  have hnumbers : (table.kinds.map Prod.fst).Nodup := by
    have hmap : table.kinds.map Prod.fst =
        (table.rows.map Breakpoint.number).map decimalText := by
      rw [Table.kinds, List.map_map, List.map_map]
      rfl
    rw [hmap]
    refine table.nodup.map fun n m heq => ?_
    rw [← Nat.ofDigitChars_ten_toDigits (n := n), ← Nat.ofDigitChars_ten_toDigits (n := m)]
    exact congrArg (Nat.ofDigitChars 10 · 0) heq
  -- with distinct keys no entry replaces another one
  have hall (hnodup : (entries.map Prod.fst).Nodup) :
      kinds (Dict.empty.setAll entries) = redactedKinds redactor table := by
    rw [kinds, Dict.entries_setAll hnodup fun _ _ h => by cases h]
    exact hkinds
  constructor
  · intro h
    -- the keys of the copy are as many as those of the entries, so they are all of them
    have hlength := h.length_eq
    rw [kinds, List.length_map, Table.kinds, List.length_map] at hlength
    have hsubperm := List.subperm_of_subset (Dict.empty.setAll entries).nodup fun key hkey =>
      (Dict.mem_keys_setAll hkey).resolve_left fun h => by cases h
    have hperm := hsubperm.perm_of_length_le (by
      rw [hkeys, List.length_map, List.length_map, hlength, redactedKinds, List.length_map])
    rwa [hall (hperm.nodup_iff.mp (Dict.empty.setAll entries).nodup)] at h
  · intro h
    have hnodup := (h.map Prod.fst).nodup_iff.mpr hnumbers
    rwa [hall (hkeys ▸ hnodup)]

theorem ledgerOf_unnamed (table : Table) :
    ledgerOf (refsOf redactor shown (table.payload false)) = .empty := by
  rw [refsOf_payload, if_neg Bool.false_ne_true]
  rfl

end Redacting

/-! ## Operations -/

/-- An operation that sets or clears. -/
inductive Mutator where
  | setBreakpoint (symbol : Text)
  | setWatchpoint (symbol : Text)
  | clearBreakpoint (breakpointId : Text)
  | clearWatchpoint (breakpointId : Text)

/-- The call of the engine. -/
def Mutator.request : Mutator → GdbMi.Request
  | .setBreakpoint symbol => .setBreakpoint symbol
  | .setWatchpoint symbol => .setWatchpoint symbol
  | .clearBreakpoint breakpointId | .clearWatchpoint breakpointId => .clearBreakpoint breakpointId

/-- The number that gdb reads. -/
def numberOf (breakpointId : Text) : Nat :=
  Nat.ofDigitChars 10 (breakpointId.filter GdbMi.isDigit) 0

/-- What gdb makes of the command. -/
def Mutator.carry (table : Table) (placed : Placed) : Mutator → Option Table
  | .setBreakpoint _ | .setWatchpoint _ => some (table.insert placed)
  | .clearBreakpoint breakpointId | .clearWatchpoint breakpointId =>
      table.delete (numberOf breakpointId)

/-- The answer is read for a record of the breakpoint. -/
def Mutator.reads : Mutator → Bool
  | .setBreakpoint _ | .setWatchpoint _ => true
  | .clearBreakpoint _ | .clearWatchpoint _ => false

/-- What comes of writing the session file. -/
inductive Saving where
  | done
  | untouched
  | cut
deriving DecidableEq

/-- An operation and what comes of its steps.  `admitted`: the checks before the engine let
it through.  `reply` is gdb's, or none for an error.  `record`: the answer has the record
of the breakpoint.  `listing`: it has an answer, and its rows kept their names. -/
structure Op where
  mutator : Mutator
  admitted : Bool
  reply : Option Placed
  record : Bool
  listing : Option Bool
  saving : Saving
  recorded : Bool

/-- gdb's table once it has carried out the command. -/
def Op.carried (op : Op) (s : State) : Option Table :=
  if s.file.isSome = true ∧ op.admitted = true ∧
      (commands op.mutator.request).toOption.isSome = true then
    op.reply.bind fun placed => op.mutator.carry s.table placed
  else none

section Redacting

variable (redactor : Redactor) (shown : Value Text → Text)

/-- `_persist_debug_op_details`. -/
def Op.persist (op : Op) (ledger : Ledger) (s : State) : State :=
  match op.saving with
  | .untouched => s
  | .cut => { s with file := none }
  | .done =>
      if op.recorded then { s with file := some ledger, manifest := ledger }
      else { s with file := some ledger }

/-- The rest of an operation once gdb has carried out its command. -/
def Op.finish (op : Op) (s : State) : State :=
  if op.mutator.reads = true ∧ op.record = false then s
  else
    match op.listing with
    | none => s
    | some named => op.persist (ledgerOf (refsOf redactor shown (s.table.payload named))) s

/-- `_debug_operation_response`. -/
def step (op : Op) (s : State) : State :=
  match op.carried s with
  | none => s
  | some table => op.finish redactor shown { s with table := table }

/-! ## Agreement -/

/-- The copies hold the same breakpoints, and they are those of gdb. -/
def Agrees (s : State) : Prop :=
  ∃ file, s.file = some file ∧ file.entries.Perm s.manifest.entries ∧
    (kinds file).Perm s.table.kinds

/-- No step fails. -/
structure Op.Completes (op : Op) : Prop where
  record : op.mutator.reads = true → op.record = true
  listing : op.listing.isSome = true
  saving : op.saving = .done
  recorded : op.recorded = true

/-- The listing tells the numbers and kinds of the table. -/
def Op.Tells (op : Op) (table : Table) : Prop :=
  table.rows = [] ∨ op.listing = some true ∧ (redactedKinds redactor table).Perm table.kinds

/-- If gdb carries out the command, then no step behind it fails and the listing tells what
there is. -/
def Op.Clear (op : Op) (s : State) : Prop :=
  ∀ table, op.carried s = some table → op.Completes ∧ op.Tells redactor table

end Redacting

/-- A command that is carried out makes the table longer or shorter. -/
theorem length_carried {op : Op} {s : State} {table : Table} (h : op.carried s = some table) :
    table.rows.length ≠ s.table.rows.length := by
  unfold Op.carried at h
  split at h
  · obtain ⟨placed, _, hcarry⟩ := Option.bind_eq_some_iff.mp h
    have hinsert : (s.table.insert placed).rows.length = s.table.rows.length + 1 :=
      List.length_append
    have hdelete (number : Nat) (h : s.table.delete number = some table) :
        table.rows.length < s.table.rows.length := by
      unfold Table.delete at h
      split at h
      · rw [← Option.some.inj h]
        exact Table.length_erase_lt ‹_›
      · cases h
    cases hmutator : op.mutator with
    | setBreakpoint _ | setWatchpoint _ =>
        rw [hmutator] at hcarry
        rw [← Option.some.inj hcarry, hinsert]
        exact Nat.succ_ne_self _
    | clearBreakpoint _ | clearWatchpoint _ =>
        rw [hmutator] at hcarry
        exact Nat.ne_of_lt (hdelete _ hcarry)
  · cases h

section Redacting

variable {redactor : Redactor} {shown : Value Text → Text} {op : Op} {s : State} {table : Table}

/-- The copies of an old table do not agree with a new one. -/
theorem not_agrees {s' : State} (hs : Agrees s) (hcarried : op.carried s = some table)
    (htable : s'.table = table) (hmanifest : s'.manifest = s.manifest) : ¬Agrees s' := by
  rintro ⟨file', _, hsame', hkinds'⟩
  obtain ⟨file, _, hsame, hkinds⟩ := hs
  have hlength := hkinds.length_eq
  have hlength' := hkinds'.length_eq
  rw [kinds, Table.kinds, List.length_map, List.length_map] at hlength hlength'
  refine length_carried hcarried ?_
  rw [← htable, ← hlength', hsame'.length_eq, hmanifest, ← hsame.length_eq, hlength]

/-- An operation that does not complete leaves the manifest as it was. -/
theorem manifest_finish (s : State) (h : ¬op.Completes) :
    (op.finish redactor shown s).table = s.table ∧
      (op.finish redactor shown s).manifest = s.manifest := by
  unfold Op.finish
  split
  · exact ⟨rfl, rfl⟩
  · rename_i hrecord
    cases hlisting : op.listing with
    | none => exact ⟨rfl, rfl⟩
    | some named =>
        dsimp only
        unfold Op.persist
        cases hsaving : op.saving with
        | untouched | cut => exact ⟨rfl, rfl⟩
        | done =>
            dsimp only
            split
            · rename_i hrecorded
              refine absurd ⟨fun hreads => ?_, ?_, hsaving, hrecorded⟩ h
              · exact (Bool.not_eq_false _).mp fun hfalse => hrecord ⟨hreads, hfalse⟩
              · rw [hlisting]
                rfl
            · exact ⟨rfl, rfl⟩

theorem finish_of_completes {named : Bool} (s : State) (h : op.Completes)
    (hlisting : op.listing = some named) :
    op.finish redactor shown s =
      let ledger := ledgerOf (refsOf redactor shown (s.table.payload named))
      { s with file := some ledger, manifest := ledger } := by
  have hrecord : ¬(op.mutator.reads = true ∧ op.record = false) := fun hnot => by
    have htrue := h.record hnot.1
    rw [hnot.2] at htrue
    cases htrue
  rw [Op.finish, if_neg hrecord, hlisting]
  dsimp only
  unfold Op.persist
  rw [h.saving, h.recorded]
  rfl

/-- The copy of a listing agrees with the table if the listing tells what there is. -/
theorem kinds_ledgerOf_iff {named : Bool} (hlisting : op.listing = some named) :
    (kinds (ledgerOf (refsOf redactor shown (table.payload named)))).Perm table.kinds ↔
      op.Tells redactor table := by
  rw [Op.Tells, hlisting]
  cases named with
  | true =>
      rw [ledgerOf_named_iff, or_iff_right_of_imp fun hrows => ?_, and_iff_right rfl]
      refine ⟨rfl, ?_⟩
      rw [redactedKinds, Table.kinds, hrows]
      exact .refl _
  | false =>
      have hempty : kinds (Dict.empty : Ledger) = [] := rfl
      rw [ledgerOf_unnamed, hempty, List.nil_perm, Table.kinds, List.map_eq_nil_iff]
      exact ⟨.inl, fun h => h.elim id fun h => by cases h.1⟩

/-- An operation keeps the agreement exactly if it is clear. -/
theorem agrees_step (hs : Agrees s) :
    Agrees (step redactor shown op s) ↔ op.Clear redactor s := by
  unfold step Op.Clear
  cases hcarried : op.carried s with
  | none => exact iff_of_true hs fun _ h => by cases h
  | some table =>
      have honly : (∀ table', some table = some table' → op.Completes ∧ op.Tells redactor table') ↔
          op.Completes ∧ op.Tells redactor table :=
        ⟨fun h => h table rfl, fun h _ heq => Option.some.inj heq ▸ h⟩
      rw [honly]
      by_cases hcompletes : op.Completes
      · obtain ⟨named, hlisting⟩ := Option.isSome_iff_exists.mp hcompletes.listing
        dsimp only
        rw [finish_of_completes _ hcompletes hlisting, and_iff_right hcompletes,
          ← @kinds_ledgerOf_iff redactor shown op table named hlisting]
        constructor
        · rintro ⟨file, hfile, _, hkinds⟩
          rwa [← Option.some.inj hfile] at hkinds
        · exact fun hkinds => ⟨_, rfl, .refl _, hkinds⟩
      · obtain ⟨htable, hmanifest⟩ := @manifest_finish redactor shown op
          { s with table := table } hcompletes
        exact iff_of_false (not_agrees hs hcarried htable hmanifest) fun h => hcompletes h.1

theorem agrees_opened : Agrees .opened := ⟨.empty, rfl, .refl _, .refl _⟩

end Redacting

/-- A breakpoint that is set with every step done, under the listing that pygdbmi gives. -/
def setOnce (named : Bool) (saving : Saving) : Op where
  mutator := .setBreakpoint "panic".toList
  admitted := true
  reply := some ⟨"hw breakpoint".toList, none, none, none⟩
  record := true
  listing := some named
  saving := saving
  recorded := true

end Kdive.Breakpoints

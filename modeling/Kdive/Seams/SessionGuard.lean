import Kdive.Lib.Dict
import Kdive.Lib.Program
import Kdive.Seams.TransportState

/-!
# Session teardown

The teardown of a debug session runs the teardown steps in reverse order, closes the
transport, and checks that no record is left that reports the target halted.  If one is,
it reaps the session by force and checks again.

*Callbacks.*  The steps, the close, the read of the record and the reap may each raise.
What they come to is given, a raise as the text of its exception, and a read by how many
came before it.

*Deviations.*  The steps, the close and the reap are guarded, and the reads are not.  The
error of the reap is dropped, and the errors of two steps with one name are kept as one.
-/

namespace Kdive.SessionGuard

open Program Dictionary

/-- A teardown step, and what it raises. -/
structure TeardownStep where
  name : String
  raises : Option String
deriving DecidableEq, Repr

/-- What the callbacks of a teardown come to. -/
structure Callbacks where
  /-- What `close` raises. -/
  close : Option String
  /-- What each call of `read_record` comes to. -/
  readRecord : Nat → Except String (Option TransportSession)
  /-- What `force_reap` raises. -/
  forceReap : Option String

/-- The outcome of a teardown. -/
structure TeardownReport where
  stepErrors : Dict String String
  closeError : Option String
  resumeOk : Bool
  resumeDetail : String

/-- A call of a teardown. -/
inductive Op where
  | step (s : TeardownStep)
  | close
  | readRecord
  | forceReap
deriving DecidableEq, Repr

/-- What a call responds. -/
@[reducible] def Resp : Op → Type
  | .readRecord => Option TransportSession
  | _ => Unit

/-- The calls that were made. -/
structure Attempts where
  calls : List Op
  /-- How many of them were reads. -/
  reads : Nat

/-- Raise what is given. -/
def orRaise : Option String → Except String Unit
  | some e => .error e
  | none => .ok ()

/-- The calls. -/
def exec (c : Callbacks) : (o : Op) → Attempts → Except String (Resp o) × Attempts
  | .step s, a => (orRaise s.raises, { a with calls := a.calls ++ [.step s] })
  | .close, a => (orRaise c.close, { a with calls := a.calls ++ [.close] })
  | .readRecord, a => (c.readRecord a.reads, ⟨a.calls ++ [.readRecord], a.reads + 1⟩)
  | .forceReap, a => (orRaise c.forceReap, { a with calls := a.calls ++ [.forceReap] })

/-- A program of the guard. -/
abbrev Run (α : Type) : Type := Prog Resp String α

/-- One call. -/
abbrev act (o : Op) : Run (Resp o) := Prog.perform o

/-- There is a record, and it reports a halted target. -/
def Halted : Option TransportSession → Prop
  | none => False
  | some record => record.executionState = .halted

instance decidableHalted : (record : Option TransportSession) → Decidable (Halted record)
  | none => inferInstanceAs (Decidable False)
  | some record => inferInstanceAs (Decidable (record.executionState = .halted))

/-- Run the steps, and keep their errors by name. -/
def runSteps : List TeardownStep → Dict String String → Run (Dict String String)
  | [], errors => pure errors
  | s :: rest, errors => do
      match ← (act (.step s)).attempt with
      | .ok _ => runSteps rest errors
      | .error e => runSteps rest (errors.set s.name e)

/-- What `_resume_holds` returns. -/
structure Resume where
  ok : Bool
  detail : String

/-- `_resume_holds`: the record is gone, or does not report a halted target. -/
def resumeHolds : Run Resume := do
  let record ← act .readRecord
  if Halted record then pure ⟨false, "durable record still reports HALTED with no owner"⟩
  else pure ⟨true, ""⟩

/-- The text of a raise. -/
def errorOf : Except String Unit → Option String
  | .ok _ => none
  | .error e => some e

/-- `teardown` -/
def teardown (steps : List TeardownStep) : Run TeardownReport := do
  let stepErrors ← runSteps steps.reverse .empty
  let closed ← (act .close).attempt
  let resume ← resumeHolds
  if resume.ok then pure ⟨stepErrors, errorOf closed, resume.ok, resume.detail⟩
  else do
    (act .forceReap).suppress
    let again ← resumeHolds
    pure ⟨stepErrors, errorOf closed, again.ok, again.detail⟩

/-- A teardown that runs alone. -/
def tornDown (steps : List TeardownStep) (c : Callbacks) : Except String TeardownReport × Attempts :=
  (teardown steps).run (exec c) ⟨[], 0⟩

/-! ## The steps -/

/-- The errors of some steps. -/
def stepErrors (steps : List TeardownStep) (errors : Dict String String) : Dict String String :=
  steps.foldl (fun errors s => match s.raises with
    | some e => errors.set s.name e
    | none => errors) errors

/-- Every step is run, whatever the others raise. -/
theorem runSteps_run (c : Callbacks) (steps : List TeardownStep) (errors : Dict String String)
    (a : Attempts) : (runSteps steps errors).run (exec c) a =
      (.ok (stepErrors steps errors), { a with calls := a.calls ++ steps.map .step }) := by
  induction steps generalizing errors a with
  | nil => simp [runSteps, stepErrors]
  | cons s steps ih =>
      rw [runSteps, Prog.run_bind, Prog.run_attempt, Prog.run_perform]
      cases hraises : s.raises with
      | none => simp [exec, orRaise, hraises, ih, stepErrors]
      | some e => simp [exec, orRaise, hraises, ih, stepErrors]

/-- A name has the error that was there or that a step of that name raised, if they agree. -/
theorem stepErrors_get? {steps : List TeardownStep} {errors : Dict String String} {name e : String}
    (hagree : ∀ s ∈ steps, s.name = name → ∀ e', s.raises = some e' → e' = e)
    (hsome : errors.get? name = some e ∨ ∃ s ∈ steps, s.name = name ∧ s.raises = some e) :
    (stepErrors steps errors).get? name = some e := by
  induction steps generalizing errors with
  | nil =>
      rcases hsome with hsome | ⟨s, hs, _⟩
      · exact hsome
      · cases hs
  | cons t steps ih =>
      rw [stepErrors, List.foldl_cons]
      refine ih (fun s hs => hagree s (List.mem_cons_of_mem t hs)) ?_
      cases hraises : t.raises with
      | none =>
          refine hsome.imp_right fun ⟨s, hs, hname, hs'⟩ => ⟨s, ?_, hname, hs'⟩
          refine (List.mem_cons.mp hs).resolve_left fun heq => ?_
          rw [heq, hraises] at hs'
          cases hs'
      | some e' =>
          by_cases hname : t.name = name
          · have heq : e' = e := hagree t List.mem_cons_self hname e' hraises
            exact .inl (by rw [hname, heq, Dict.get?_set_self])
          · rw [Dict.get?_set_of_ne (Ne.symm hname)]
            refine hsome.imp_right fun ⟨s, hs, hname', hs'⟩ => ⟨s, ?_, hname', hs'⟩
            exact (List.mem_cons.mp hs).resolve_left fun heq => hname (heq ▸ hname')

/-! ## A whole teardown -/

/-- The calls up to the close. -/
def untilClose (steps : List TeardownStep) : List Op := steps.reverse.map .step ++ [.close]

/-- The outcome of the check of the record. -/
def resumeOf (record : Option TransportSession) : Resume :=
  if Halted record then ⟨false, "durable record still reports HALTED with no owner"⟩ else ⟨true, ""⟩

theorem resumeOf_ok {record : Option TransportSession} :
    (resumeOf record).ok = true ↔ ¬ Halted record := by
  rw [resumeOf]
  split <;> simp_all

theorem resumeHolds_run (c : Callbacks) (a : Attempts) :
    resumeHolds.run (exec c) a =
      ((c.readRecord a.reads).map resumeOf, ⟨a.calls ++ [.readRecord], a.reads + 1⟩) := by
  rw [resumeHolds, Prog.run_bind, Prog.run_perform, exec]
  cases c.readRecord a.reads with
  | error e => rfl
  | ok record =>
      by_cases h : Halted record
      · simp [h, resumeOf, Except.map]
      · simp [h, resumeOf, Except.map]

/-- What a teardown comes to. -/
theorem tornDown_eq (steps : List TeardownStep) (c : Callbacks) :
    tornDown steps c = match c.readRecord 0 with
      | .error e => (.error e, ⟨untilClose steps ++ [.readRecord], 1⟩)
      | .ok record =>
          if Halted record then
            ((c.readRecord 1).map fun again => ⟨stepErrors steps.reverse .empty, c.close,
                (resumeOf again).ok, (resumeOf again).detail⟩,
              ⟨untilClose steps ++ [.readRecord, .forceReap, .readRecord], 2⟩)
          else (.ok ⟨stepErrors steps.reverse .empty, c.close, true, ""⟩,
            ⟨untilClose steps ++ [.readRecord], 1⟩) := by
  have hclose : errorOf (orRaise c.close) = c.close := by
    cases c.close <;> rfl
  rw [tornDown, teardown, Prog.run_bind, runSteps_run]
  dsimp only
  rw [Prog.run_bind, Prog.run_attempt, Prog.run_perform, exec]
  dsimp only
  rw [hclose, Prog.run_bind, resumeHolds_run]
  cases hread : c.readRecord 0 with
  | error e => simp [Except.map, untilClose]
  | ok record =>
      by_cases hhalted : Halted record
      · have hok : (resumeOf record).ok = false := by simp [resumeOf, hhalted]
        simp only [Except.map, hok, Bool.false_eq_true, if_false, if_pos hhalted]
        rw [Prog.run_bind, Prog.run_suppress, Prog.run_perform, exec]
        dsimp only
        rw [Prog.run_bind, resumeHolds_run]
        cases c.readRecord 1 with
        | error e => simp [Except.map, untilClose]
        | ok again => simp [Except.map, untilClose]
      · simp [Except.map, resumeOf, hhalted, untilClose]

/-- A call raised. -/
def Raised (c : Callbacks) (a : Attempts) (e : String) : Op → Prop
  | .step s => s.raises = some e
  | .close => c.close = some e
  | .readRecord => ∃ n < a.reads, c.readRecord n = .error e
  | .forceReap => c.forceReap = some e

/-- The error of a call is in the report.  It has no place for those of the reads and of
the reap. -/
def TeardownReport.Has (report : TeardownReport) (e : String) : Op → Prop
  | .step s => report.stepErrors.get? s.name = some e
  | .close => report.closeError = some e
  | .readRecord | .forceReap => False

/-- A teardown returns, makes its calls in order, reaps when it must, and reports what it
has seen. -/
structure TotalAndTruthful (steps : List TeardownStep) (c : Callbacks) : Prop where
  total : ∃ report, (tornDown steps c).1 = .ok report
  /-- Every step once in reverse order, then one close, then the reads and the reap. -/
  order : (tornDown steps c).2.calls = untilClose steps ++ [.readRecord] ∨
    (tornDown steps c).2.calls = untilClose steps ++ [.readRecord, .forceReap, .readRecord]
  reap : .forceReap ∈ (tornDown steps c).2.calls ↔
    ∃ record, c.readRecord 0 = .ok record ∧ Halted record
  /-- The last read that returned found no halted target. -/
  resumed : ∀ report, (tornDown steps c).1 = .ok report → report.resumeOk = true →
    ∃ n < (tornDown steps c).2.reads, ∃ record, c.readRecord n = .ok record ∧ ¬ Halted record ∧
      ∀ m, n < m → m < (tornDown steps c).2.reads → ∃ e, c.readRecord m = .error e
  errors : ∀ report, (tornDown steps c).1 = .ok report → ∀ o ∈ (tornDown steps c).2.calls, ∀ e,
    Raised c (tornDown steps c).2 e o → report.Has e o

/-- Reads that are made return, a reap that is made returns, and steps of one name fail in
one way. -/
structure Calm (steps : List TeardownStep) (c : Callbacks) : Prop where
  reads : ∃ record, c.readRecord 0 = .ok record ∧
    (Halted record → (∃ again, c.readRecord 1 = .ok again) ∧ c.forceReap = none)
  names : ∀ s ∈ steps, ∀ s' ∈ steps, s'.name = s.name → ∀ e e', s.raises = some e →
    s'.raises = some e' → e' = e

/-- The reap is in the calls of a teardown that reaps, and in no others. -/
theorem forceReap_mem {steps : List TeardownStep} {later : List Op} :
    Op.forceReap ∈ untilClose steps ++ later ↔ Op.forceReap ∈ later := by
  simp [untilClose]

/-- Every call up to the close is a step or the close. -/
theorem mem_untilClose {steps : List TeardownStep} {o : Op} :
    o ∈ untilClose steps ↔ (∃ s ∈ steps, o = .step s) ∨ o = .close := by
  simp [untilClose, eq_comm]

end Kdive.SessionGuard

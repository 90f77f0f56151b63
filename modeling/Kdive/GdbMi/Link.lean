import Kdive.Lib.Program
import Kdive.Safety.RedactValue
import Kdive.Seams.Target

/-!
# The link to gdb

One attachment talks to gdb through a controller.  A write sends a line and hands over
what gdb put out until then.  A read hands over what came since.  gdb answers each line
with one result record, in the order of the lines, and may put out notices at any time.
What it answers and when its output is handed over is up to it: `Gdb` is the whole of
its behaviour, and every script is one.

*Marks.*  Nobody in the program sees which line a result answers, and which line's
execution a stop ended.  Records carry both along, so that statements can read them.
`exchanges` keeps what each `_run` looked at, and `handed` every output with the call
that took it.
-/

namespace Kdive.GdbMi

open Program

/-! ## Records -/

/-- The classes of a result. -/
inductive ResultClass where
  | done
  | running
  | connected
  | error
  | exit
deriving DecidableEq

/-- The `message` of a result. -/
def ResultClass.text : ResultClass → Text
  | .done => "done".toList
  | .running => "running".toList
  | .connected => "connected".toList
  | .error => "error".toList
  | .exit => "exit".toList

/-- `MiRecord`.  `answers` and `ended` are marks: the line a result answers, and the line
whose execution a stop ended. -/
structure Record where
  type : Text
  message : Option Text
  payload : Option (Value Text)
  answers : Option Nat
  ended : Option Nat

/-- A record other than a result. -/
structure Notice where
  type : Text
  message : Option Text
  payload : Option (Value Text)
  ended : Option Nat
  other : type ≠ "result".toList

def Notice.record (notice : Notice) : Record where
  type := notice.type
  message := notice.message
  payload := notice.payload
  answers := none
  ended := notice.ended

/-- What gdb answers to a line. -/
structure Answer where
  cls : ResultClass
  payload : Option (Value Text)

/-- The answer to line `index` as a record. -/
def Answer.record (answer : Answer) (index : Nat) : Record where
  type := "result".toList
  message := some answer.cls.text
  payload := answer.payload
  answers := some index
  ended := none

/-- `record.type == "result"`. -/
def Record.isResult (record : Record) : Bool := record.type = "result".toList

/-- `record.message == "stopped"`. -/
def Record.isStopped (record : Record) : Bool := record.message = some "stopped".toList

/-- `MiRecord.first_result`. -/
def firstResult (records : List Record) : Option Record := records.find? Record.isResult

/-! ## gdb -/

/-- A piece of output: the next answer, or a notice. -/
inductive Item where
  | answer
  | notice (notice : Notice)

/-- What comes of one call of the controller.  A fault hands over nothing, whether or not
the line went out.  `logged`: the transcript takes the output. -/
inductive Reply where
  | fault (sent : Bool)
  | items (items : List Item) (logged : Bool)

/-- All that gdb and the controller decide: the answers to the lines, and what each call
hands over. -/
structure Gdb where
  answers : Nat → Answer
  script : List Reply

/-! ## The attachment -/

/-- What a `_run` looked at: its line was number `index`, line `due` was the oldest whose
answer had not been handed over when it was written, and this was handed over. -/
structure Exchange where
  index : Nat
  due : Nat
  records : List Record

/-- The calls that take output. -/
inductive Taker where
  | write
  | read
deriving DecidableEq

/-- An output that was handed over. -/
structure Handed where
  taker : Taker
  records : List Record
  logged : Bool

/-- A live attachment and what is left of gdb's script.  `due` was the oldest line without
an answer when the last line was written, and `last` is what its write handed over. -/
structure Link where
  script : List Reply
  sent : List Text
  answered : Nat
  due : Nat
  last : List Record
  logging : Bool
  records : List Record
  transcript : List (Text × List Record)
  exchanges : List Exchange
  handed : List Handed
  exited : Bool

/-- A controller that was just started. -/
def start (gdb : Gdb) : Link where
  script := gdb.script
  sent := []
  answered := 0
  due := 0
  last := []
  logging := true
  records := []
  transcript := []
  exchanges := []
  handed := []
  exited := false

/-- The records of an output.  An answer that is not due, since every line has had its
own, is no output of gdb. -/
def deliver (gdb : Gdb) (sent : Nat) : Nat → List Item → Nat × List Record
  | answered, [] => (answered, [])
  | answered, .answer :: items =>
      if answered < sent then
        let rest := deliver gdb sent (answered + 1) items
        (rest.1, (gdb.answers answered).record answered :: rest.2)
      else deliver gdb sent answered items
  | answered, .notice notice :: items =>
      let rest := deliver gdb sent answered items
      (rest.1, notice.record :: rest.2)

/-! ## Operations -/

/-- `GdbMiError`.  `code` is that of its details, `subject` the line, symbol or reason
they name and `payload` theirs.  `ended` is a mark, for a stop that is raised. -/
structure GdbMiError where
  message : String
  category : ErrorCategory
  code : Option String
  subject : Option Text
  payload : Option (Value Text)
  ended : Option Nat

/-- What an engine operation raises. -/
inductive Fault where
  | mi (error : GdbMiError)
  | other

/-- The calls an engine operation makes.  `decided` is a mark. -/
inductive Op where
  | write (line : Text)
  | read
  | keep (records : List Record)
  | appendTranscript (line : Text) (records : List Record)
  | decided
  | sleep
  | exit

/-- What a call responds with. -/
@[reducible] def Resp : Op → Type
  | .write _ | .read => List Record
  | _ => Unit

/-- A program of the engine. -/
abbrev Mi (α : Type) : Type := Prog Resp Fault α

/-- `_timeout_error`. -/
def timeoutError (line : Text) : GdbMiError where
  message := "gdb/MI command timed out after 10.0s: "
  category := .infrastructureFailure
  code := some "transport_stall"
  subject := some line
  payload := none
  ended := none

/-- Hand over an output. -/
def Link.take (gdb : Gdb) (link : Link) (taker : Taker) (items : List Item) (logged : Bool)
    (script : List Reply) : Link :=
  let output := deliver gdb link.sent.length link.answered items
  { link with
    script := script
    answered := output.1
    logging := logged
    handed := link.handed ++ [⟨taker, output.2, logged⟩] }

/-- Send a line. -/
def Link.send (link : Link) (line : Text) : Link :=
  { link with sent := link.sent ++ [line], due := link.answered, last := [] }

/-- Execute a call. -/
def exec (gdb : Gdb) : (o : Op) → Link → Except Fault (Resp o) × Link
  | .write line, link =>
      match link.script with
      | [] => (.error (.mi (timeoutError line)), link.send line)
      | .fault sent :: script =>
          (.error .other, { (if sent then link.send line else link) with script := script })
      | .items items logged :: script =>
          let output := deliver gdb (link.send line).sent.length link.answered items
          if output.2.isEmpty then
            (.error (.mi (timeoutError line)), { link.send line with script := script })
          else
            (.ok output.2,
              { (link.send line).take gdb .write items logged script with last := output.2 })
  | .read, link =>
      match link.script with
      | [] => (.ok [], link.take gdb .read [] true [])
      | .fault _ :: script => (.error .other, { link with script := script })
      | .items items logged :: script =>
          (.ok (deliver gdb link.sent.length link.answered items).2,
            link.take gdb .read items logged script)
  | .keep records, link => (.ok (), { link with records := link.records ++ records })
  | .appendTranscript line records, link =>
      if link.logging then
        (.ok (), { link with transcript := link.transcript ++ [(line, records)] })
      else (.error .other, link)
  | .decided, link =>
      (.ok (), { link with
        exchanges := link.exchanges ++ [⟨link.sent.length - 1, link.due, link.last⟩] })
  | .sleep, link => (.ok (), link)
  | .exit, link => (.ok (), { link with exited := true })

/-! ## Running a command -/

/-- `_run`. -/
def runCommand (redactor : Redactor) (line : Text) : Mi (List Record) := do
  let records ← Prog.perform (Op.write line)
  Prog.perform (Op.keep records)
  Prog.perform (Op.appendTranscript line records)
  Prog.perform Op.decided
  match firstResult records with
  | some result =>
      if result.message = some "error".toList then
        .raise (.mi ⟨"gdb/MI command failed: ", .debugAttachFailure, none, some line,
          result.payload.map redactor.redactValue, none⟩)
      else return records
  | none => return records

/-- The payload of the first result of a command, as its caller reads it. -/
def query (redactor : Redactor) (line : Text) : Mi (Option (Value Text)) := do
  let records ← runCommand redactor line
  return (firstResult records).bind Record.payload

end Kdive.GdbMi

import Kdive.GdbMi.Commands
import Kdive.Lib.Dict
import Kdive.Lib.Fields
import Kdive.Lib.Pattern
import Kdive.Lib.PythonInt
import Kdive.Safety.Redaction

/-!
# Reading what crash printed

`parse_command` reads the output of a crash command by the parser for its verb.  A
parser that raises, and a verb without a parser, give the text back as it is.

*Patterns.*  The three patterns of the parsers are rows of runs and are matched as such
(`Pattern`).  `\w` takes the interpreter's table beyond ASCII, as in the redactor.

*Tasks.*  A `Task` is a row of `ps` before it was printed, and a `Listing` is a row or a
header on every line, with any number of blanks between the columns.  The parser takes the
last of at least nine fields for the name of the task.  `Task.Plain` says which names are
one field that loses nothing at its ends.

*Backtraces.*  A `Trace` is a header with frames and other lines.  The name ends at the
first quote behind it, and a frame is looked for in every line, those of the name included.

`parsers_iff` says when both parsers recover what was printed.
-/

namespace Kdive.CrashParsers

open Dictionary Pattern

/-! ## Patterns -/

/-- `\d` -/
def isDecimal (c : Char) : Bool := (PythonInt.decimal c).isSome

/-- A run of at least one. -/
def some₁ (p : Char → Bool) : Item := .run p 1 true false

/-- A run of at least one that is a group. -/
def group₁ (p : Char → Bool) : Item := .run p 1 true true

/-- `\S` -/
def notSpace (c : Char) : Bool := !isSpace c

/-- `[^"]` -/
def notQuote (c : Char) : Bool := c ≠ '"'

/-- `.` -/
def notNewline (c : Char) : Bool := c ≠ '\n'

/-- `PID:\s*(\d+).*?COMMAND:\s*"([^"]*)"` -/
def BT_HEADER : List Item :=
  literal "PID:".toList ++
    (.run isSpace 0 true false :: group₁ isDecimal :: .run notNewline 0 false false ::
      (literal "COMMAND:".toList ++
        [.run isSpace 0 true false, .one (· = '"'), .run notQuote 0 true true, .one (· = '"')]))

/-- `#(\d+)\s+\[\w+\]\s+(\S+)\s+at\s+(\S+)` -/
def BT_FRAME (alnum : Char → Bool) : List Item :=
  .one (· = '#') :: group₁ isDecimal :: some₁ isSpace :: .one (· = '[') ::
    some₁ (isWord alnum) :: .one (· = ']') :: some₁ isSpace :: group₁ notSpace :: some₁ isSpace ::
      (literal "at".toList ++ [some₁ isSpace, group₁ notSpace])

/-- `^\[\s*(\d+\.\d+)\]\s?(.*)$`, the number as its two runs.  A blank behind the bracket
belongs to the pattern. -/
def LOG_LINE : List Item :=
  [.one (· = '['), .run isSpace 0 true false, group₁ isDecimal, .one (· = '.'), group₁ isDecimal,
    .one (· = ']'), .run (fun _ => true) 0 true true]

/-! ## The parsers -/

/-- A frame of a backtrace. -/
structure Frame where
  level : Int
  symbol : Text
  pcAddr : Text
deriving DecidableEq, Repr

/-- `parse_bt`'s result, without `pid` and `command` where there is no header. -/
structure Bt where
  header : Option (Int × Text)
  frames : List Frame
deriving DecidableEq, Repr

/-- A process of `parse_ps`. -/
structure Process where
  pid : Int
  ppid : Int
  cpu : Text
  taskAddr : Text
  st : Text
  comm : Text
deriving DecidableEq, Repr

/-- The frame of a line, if it has one.  A level with too many digits raises. -/
def btFrame (alnum : Char → Bool) (line : Text) : Option (Option Frame) :=
  match search (BT_FRAME alnum) line with
  | some [level, symbol, pcAddr] => (PythonInt.int level).map fun n => some ⟨n, symbol, pcAddr⟩
  | _ => some none

/-- The header of a text, if it has one. -/
def btHeader (text : Text) : Option (Option (Int × Text)) :=
  match search BT_HEADER text with
  | some [pid, command] => (PythonInt.int pid).map fun n => some (n, command)
  | _ => some none

/-- What the lines have, one after the other, unless one of them raises. -/
def perLine {α : Type} (read : Text → Option (Option α)) : List Text → Option (List α)
  | [] => some []
  | line :: lines =>
      match read line with
      | none => none
      | some none => perLine read lines
      | some (some entry) => (perLine read lines).map (entry :: ·)

/-- `parse_bt`, unless it raises. -/
def parseBt (alnum : Char → Bool) (text : Text) : Option Bt := do
  let header ← btHeader text
  let frames ← perLine (btFrame alnum) (Lines.splitlines text)
  return ⟨header, frames⟩

/-- What `strip("[]")` takes away. -/
def isBracket (c : Char) : Bool := c = '[' || c = ']'

/-- The process of a line, if it has one.  A number with too many digits raises. -/
def psProcess (line : Text) : Option (Option Process) :=
  let body := Lines.trim isSpace (line.dropWhile (· = '>'))
  match Fields.split isSpace body with
  | pid :: ppid :: cpu :: taskAddr :: st :: _ :: _ :: _ :: name :: names =>
      if PythonInt.isdigit pid then do
        let pid ← PythonInt.int pid
        let ppid ← PythonInt.int ppid
        return some ⟨pid, ppid, cpu, taskAddr, st,
          Lines.trim isBracket ((name :: names).getLast (List.cons_ne_nil _ _))⟩
      else some none
  | _ => some none

/-- `parse_ps`, unless it raises. -/
def parsePs (text : Text) : Option (List Process) := perLine psProcess (Lines.splitlines text)

/-- `parse_sys` -/
def parseSys (text : Text) : Dict Text Text :=
  (Lines.splitlines text).foldl (fun system line =>
    let key := Lines.trim isSpace (line.takeWhile (· ≠ ':'))
    let value := (line.dropWhile (· ≠ ':')).drop 1
    if ':' ∈ line ∧ key ≠ [] then
      system.set key (Lines.trim (· = '"') (Lines.trim isSpace value))
    else system) .empty

/-- `token.replace(",", "").isdigit()` -/
def isCount (token : Text) : Bool := PythonInt.isdigit (token.filter (· ≠ ','))

/-- `parse_kmem_i`: pages and detail by label. -/
def parseKmemI (text : Text) : Dict Text (Text × Text) :=
  (Lines.splitlines text).foldl (fun memory line =>
    let fields := Fields.split isSpace line
    let label := fields.takeWhile fun token => !isCount token
    match label, fields.drop label.length with
    | _ :: _, pages :: detail => memory.set ([' '].intercalate label) (pages, [' '].intercalate detail)
    | _, _ => memory) .empty

/-- A result of `parse_command`. -/
inductive Parsed (Float : Type) where
  | bt (trace : Bt)
  | ps (processes : List Process)
  | sys (system : Dict Text Text)
  | log (lines : List (Option Float × Text))
  | kmem (memory : Dict Text (Text × Text))
  /-- `{"parsed": False}`. -/
  | raw (reason text : Text)

section Dispatch

variable {Float : Type} (float : Text → Float) (lower : Text → Text) (alnum : Char → Bool)

/-- A line of `parse_log`.  An empty one is left out. -/
def logLine (line : Text) : Option (Option Float × Text) :=
  match matchAt LOG_LINE line with
  | some [whole, fraction, text] =>
      let stamp := some (float (whole ++ '.' :: fraction))
      match text with
      | c :: rest => some (stamp, if isSpace c then rest else c :: rest)
      | [] => some (stamp, [])
  | _ => if line = [] then none else some (none, line)

/-- `parse_log` -/
def parseLog (text : Text) : List (Option Float × Text) :=
  (Lines.splitlines text).filterMap (logLine float)

/-- `_dispatch_key` -/
def dispatchKey (command : Text) : Option Text :=
  match Fields.split isSpace (Lines.trim isSpace command) with
  | [] => none
  | verb :: arguments =>
      if lower verb = "kmem".toList ∧ arguments.head? = some "-i".toList then
        some "kmem -i".toList
      else if lower verb ∈ ["bt".toList, "ps".toList, "sys".toList, "log".toList] then
        some (lower verb)
      else none

/-- The parser for a key, which may raise. -/
def parserFor (key : Text) : Option (Text → Option (Parsed Float)) :=
  if key = "kmem -i".toList then some fun text => some (.kmem (parseKmemI text))
  else if key = "bt".toList then some fun text => (parseBt alnum text).map .bt
  else if key = "ps".toList then some fun text => (parsePs text).map .ps
  else if key = "sys".toList then some fun text => some (.sys (parseSys text))
  else if key = "log".toList then some fun text => some (.log (parseLog float text))
  else none

/-- `parse_command` -/
def parseCommand (command rawText : Text) : Parsed Float :=
  match (dispatchKey lower command).bind (parserFor float alnum) with
  | none => .raw "unknown_command".toList rawText
  | some parser => (parser rawText).getD (.raw "parse_failed".toList rawText)

end Dispatch

/-! ## What crash prints -/

/-- Blanks. -/
def blanks (n : Nat) : Text := List.replicate n ' '

/-- What stands in a column: characters, and none of them blank. -/
abbrev Column := { text : Text // Fields.Field isSpace text }

/-- A number, as it is printed. -/
def number (n : Nat) : Text := Nat.toDigits 10 n

/-- Columns with blanks behind each of them, and what stands behind them. -/
def spread (gaps : Nat → Nat) (i : Nat) : List Text → Text → Text
  | [], last => last
  | column :: columns, last => column ++ (blanks (gaps i + 1) ++ spread gaps (i + 1) columns last)

/-- A task, with the columns that `ps` prints for it. -/
structure Task where
  /-- It was running: crash marks it. -/
  active : Bool
  pid : Nat
  ppid : Nat
  cpu : Column
  taskAddr : Column
  st : Column
  memory : Column
  vsz : Column
  rss : Column
  /-- A kernel thread's name is printed in brackets. -/
  kernelThread : Bool
  /-- The name, whatever it is. -/
  comm : Text

/-- The name as it is printed. -/
def Task.name (task : Task) : Text :=
  if task.kernelThread then '[' :: task.comm ++ [']'] else task.comm

/-- The row of a task. -/
def Task.print (gaps : Nat → Nat) (task : Task) : Text :=
  (if task.active then ['>'] else []) ++ (blanks (gaps 0) ++
    spread gaps 1 [number task.pid, number task.ppid, task.cpu, task.taskAddr, task.st, task.memory,
      task.vsz, task.rss] task.name)

/-- What `parse_ps` should read. -/
def Task.process (task : Task) : Process :=
  ⟨task.pid, task.ppid, task.cpu, task.taskAddr, task.st, task.comm⟩

/-- The line that names the columns. -/
def psHeader (gaps : Nat → Nat) : Text :=
  blanks (gaps 0) ++ spread gaps 1 ["PID".toList, "PPID".toList, "CPU".toList, "TASK".toList,
    "ST".toList, "%MEM".toList, "VSZ".toList, "RSS".toList] "COMM".toList

/-- A line of `ps`: a task or, without one, the names of the columns. -/
structure Line where
  gaps : Nat → Nat
  task : Option Task

/-- A line without its newline. -/
def Line.print (line : Line) : Text :=
  match line.task with
  | some task => task.print line.gaps
  | none => psHeader line.gaps

/-- What `ps` prints. -/
def printPs (listing : List Line) : Text := listing.flatMap fun line => line.print ++ ['\n']

/-- The tasks of a listing, in its order. -/
def tasks (listing : List Line) : List Task := listing.filterMap Line.task

/-- The digits of an address. -/
def hexDigits : Text := "0123456789abcdef".toList

/-- An address as crash prints it. -/
abbrev Address := { text : Text // text ≠ [] ∧ ∀ c ∈ text, c ∈ hexDigits }

/-- A frame as crash prints it: the symbol with its offset, and the module behind it. -/
structure FrameLine where
  /-- The blanks between the columns. -/
  gaps : Nat → Nat
  level : Nat
  stack : Address
  symbol : Column
  pcAddr : Column
  moduleTag : Option Column

/-- What stands behind the address of a frame. -/
def FrameLine.tag (frame : FrameLine) : Text :=
  match frame.moduleTag with
  | some name => ' ' :: '[' :: (name.1 ++ [']'])
  | none => []

/-- The line of a frame. -/
def FrameLine.print (frame : FrameLine) : Text :=
  blanks (frame.gaps 0) ++ ('#' :: (number frame.level ++ (blanks (frame.gaps 1 + 1) ++
    ('[' :: (frame.stack ++ (']' :: (blanks (frame.gaps 2 + 1) ++ (frame.symbol ++
      (blanks (frame.gaps 3 + 1) ++ ("at".toList ++ (blanks (frame.gaps 4 + 1) ++
        (frame.pcAddr ++ frame.tag))))))))))))

/-- What `parse_bt` should read. -/
def FrameLine.frame (frame : FrameLine) : Frame := ⟨frame.level, frame.symbol, frame.pcAddr⟩

/-- A line under the header: a frame, or registers and the like, which have no `#`. -/
inductive TraceLine where
  | frame (line : FrameLine)
  | other (text : Text) (quiet : '#' ∉ text)
    (single : ∀ c ∈ text, Lines.isBoundary c = false)

/-- A line without its newline. -/
def TraceLine.print : TraceLine → Text
  | .frame line => line.print
  | .other text _ _ => text

/-- The frame of a line, if it is one. -/
def TraceLine.frame? : TraceLine → Option FrameLine
  | .frame line => some line
  | .other _ _ _ => none

/-- A backtrace: the task of its header, and the lines under it. -/
structure Trace where
  gaps : Nat → Nat
  pid : Nat
  taskAddr : Address
  cpu : Nat
  /-- The name, whatever it is. -/
  command : Text
  lines : List TraceLine

/-- The header between the number of the task and its name. -/
def Trace.between (trace : Trace) : Text :=
  blanks (trace.gaps 1 + 1) ++ ("TASK:".toList ++ (blanks (trace.gaps 2 + 1) ++ (trace.taskAddr ++
    (blanks (trace.gaps 3 + 1) ++ ("CPU:".toList ++ (blanks (trace.gaps 4 + 1) ++
      (number trace.cpu ++ blanks (trace.gaps 5 + 1))))))))

/-- The header in front of the name. -/
def Trace.front (trace : Trace) : Text :=
  "PID:".toList ++ (blanks (trace.gaps 0 + 1) ++ (number trace.pid ++ (trace.between ++
    ("COMMAND:".toList ++ (blanks (trace.gaps 6 + 1) ++ ['"'])))))

/-- What `bt` prints. -/
def printBt (trace : Trace) : Text :=
  trace.front ++ (trace.command ++ '"' :: '\n' ::
    trace.lines.flatMap fun line => line.print ++ ['\n'])

/-- The frames of a backtrace, in order. -/
def frames (trace : Trace) : List FrameLine := trace.lines.filterMap TraceLine.frame?

/-! ## Line by line -/

section PerLine

variable {α ι : Type} {read : Text → Option (Option α)}

theorem perLine_append (front back : List Text) :
    perLine read (front ++ back) =
      (perLine read front).bind fun entries => (perLine read back).map (entries ++ ·) := by
  induction front with
  | nil =>
      show perLine read back = (perLine read back).map ([] ++ ·)
      cases perLine read back <;> rfl
  | cons line front ih =>
      rw [List.cons_append, perLine, perLine, ih]
      rcases read line with _ | _ | entry
      · rfl
      · rfl
      · cases perLine read front with
        | none => rfl
        | some entries => cases perLine read back <;> rfl

/-- Lines that have nothing. -/
theorem perLine_eq_nil {lines : List Text} :
    perLine read lines = some [] ↔ ∀ line ∈ lines, read line = some none := by
  induction lines with
  | nil => exact iff_of_true rfl fun _ h => by cases h
  | cons line lines ih =>
      rw [perLine, List.forall_mem_cons, ← ih]
      rcases read line with _ | _ | entry
      · simp
      · simp
      · cases perLine read lines <;> simp

variable {print : ι → Text} {want : ι → Option α} {items : List ι}

/-- Lines that should have nothing have nothing: no more is read than there is. -/
theorem length_perLine (hskip : ∀ i ∈ items, want i = none → read (print i) = some none)
    {entries : List α} (h : perLine read (items.map print) = some entries) :
    entries.length ≤ (items.filterMap want).length := by
  induction items generalizing entries with
  | nil =>
      obtain rfl := Option.some.inj h
      exact Nat.le_refl _
  | cons i items ih =>
      have hrest : ∀ {entries : List α}, perLine read (items.map print) = some entries →
          entries.length ≤ (items.filterMap want).length :=
        ih fun j hj => hskip j (List.mem_cons_of_mem _ hj)
      rw [List.map_cons, perLine] at h
      cases hwant : want i with
      | none =>
          rw [hskip i List.mem_cons_self hwant] at h
          rw [List.filterMap_cons_none hwant]
          exact hrest h
      | some entry =>
          rw [List.filterMap_cons_some hwant, List.length_cons]
          rcases hread : read (print i) with _ | _ | entry'
          · rw [hread] at h
            cases h
          · rw [hread] at h
            exact Nat.le_succ_of_le (hrest h)
          · rw [hread] at h
            obtain ⟨others, hothers, rfl⟩ := Option.map_eq_some_iff.mp h
            exact Nat.succ_le_succ (hrest hothers)

/-- What was printed is read exactly if every line is. -/
theorem perLine_iff (hskip : ∀ i ∈ items, want i = none → read (print i) = some none) :
    perLine read (items.map print) = some (items.filterMap want) ↔
      ∀ i ∈ items, read (print i) = some (want i) := by
  induction items with
  | nil => exact iff_of_true rfl fun _ h => by cases h
  | cons i items ih =>
      have hskip' : ∀ j ∈ items, want j = none → read (print j) = some none :=
        fun j hj => hskip j (List.mem_cons_of_mem _ hj)
      rw [List.map_cons, perLine, List.forall_mem_cons, ← ih hskip']
      cases hwant : want i with
      | none =>
          rw [hskip i List.mem_cons_self hwant, List.filterMap_cons_none hwant]
          exact ⟨fun h => ⟨rfl, h⟩, fun h => h.2⟩
      | some entry =>
          rw [List.filterMap_cons_some hwant]
          rcases hread : read (print i) with _ | _ | entry'
          · simp
          · -- a line that is passed over leaves too few entries
            refine iff_of_false (fun h => ?_) fun h => by cases h.1
            have hlength := length_perLine hskip' h
            rw [List.length_cons] at hlength
            omega
          · cases perLine read (items.map print) <;> simp

/-- Where every line has what it should have or raises, nothing else is read. -/
theorem perLine_of_raises
    (h : ∀ i ∈ items, read (print i) = none ∨ read (print i) = some (want i))
    {entries : List α} (hread : perLine read (items.map print) = some entries) :
    entries = items.filterMap want := by
  induction items generalizing entries with
  | nil => exact (Option.some.inj hread).symm
  | cons i items ih =>
      have hrest : ∀ {entries : List α}, perLine read (items.map print) = some entries →
          entries = items.filterMap want := ih fun j hj => h j (List.mem_cons_of_mem _ hj)
      rw [List.map_cons, perLine] at hread
      rcases h i List.mem_cons_self with hi | hi
      · rw [hi] at hread
        cases hread
      · rw [hi] at hread
        cases hwant : want i with
        | none =>
            rw [hwant] at hread
            rw [List.filterMap_cons_none hwant]
            exact hrest hread
        | some entry =>
            rw [hwant] at hread
            obtain ⟨others, hothers, rfl⟩ := Option.map_eq_some_iff.mp hread
            rw [List.filterMap_cons_some hwant, hrest hothers]

end PerLine

/-! ## Tasks -/

section Tasks

variable {gaps : Nat → Nat} {task : Task}

/-- A boundary is blank. -/
theorem not_isBoundary {c : Char} (h : isSpace c = false) : Lines.isBoundary c = false := by
  have hall : ∀ c ∈ Lines.boundaries, isSpace c = true := List.all_iff_forall_prop.mp (by decide)
  cases hc : Lines.isBoundary c with
  | false => rfl
  | true =>
      rw [hall c (of_decide_eq_true hc)] at h
      cases h

theorem isSpace_of_mem_blanks {n : Nat} {c : Char} (h : c ∈ blanks n) : isSpace c = true := by
  rw [List.eq_of_mem_replicate h]
  decide

theorem not_isBoundary_blanks {n : Nat} {c : Char} (h : c ∈ blanks n) :
    Lines.isBoundary c = false := by
  rw [List.eq_of_mem_replicate h]
  decide

theorem not_isSpace_of_isDigit {c : Char} (h : c.isDigit = true) : isSpace c = false := by
  have hall : ∀ c ∈ spaceChars, c.isDigit = false := List.all_iff_forall_prop.mp (by decide)
  cases hc : isSpace c with
  | false => rfl
  | true =>
      rw [hall c (of_decide_eq_true hc)] at h
      cases h

theorem field_number (n : Nat) : Fields.Field isSpace (number n) where
  ne := Nat.toDigits_ne_nil
  solid _ hc := not_isSpace_of_isDigit (PythonInt.isDigit_toDigits hc)

/-- Columns are read back as they were printed. -/
theorem split_spread {columns : List Text} (h : ∀ column ∈ columns, Fields.Field isSpace column)
    (i : Nat) (last : Text) :
    Fields.split isSpace (spread gaps i columns last) = columns ++ Fields.split isSpace last := by
  induction columns generalizing i with
  | nil => rfl
  | cons column columns ih =>
      rw [spread, (h column List.mem_cons_self).split_append
        (fun c hc => isSpace_of_mem_blanks hc) (by simp [blanks]),
        ih fun other hother => h other (List.mem_cons_of_mem _ hother)]
      rfl

/-- What stands in the columns of a line stands in it, and nothing else but blanks does. -/
theorem mem_spread {columns : List Text} {i : Nat} {last : Text} {c : Char}
    (h : c ∈ spread gaps i columns last) : (∃ column ∈ columns, c ∈ column) ∨ c = ' ' ∨ c ∈ last := by
  induction columns generalizing i with
  | nil => exact .inr (.inr h)
  | cons column columns ih =>
      rw [spread, List.mem_append, List.mem_append] at h
      rcases h with h | h | h
      · exact .inl ⟨column, List.mem_cons_self, h⟩
      · exact .inr (.inl (List.eq_of_mem_replicate h))
      · rcases ih h with ⟨other, hother, h⟩ | h
        · exact .inl ⟨other, List.mem_cons_of_mem _ hother, h⟩
        · exact .inr h

/-- The columns in front of the name. -/
def Task.columns (task : Task) : List Text :=
  [number task.pid, number task.ppid, task.cpu, task.taskAddr, task.st, task.memory, task.vsz,
    task.rss]

theorem Task.field_columns (task : Task) : ∀ column ∈ task.columns, Fields.Field isSpace column := by
  simp only [columns, List.forall_mem_cons]
  exact ⟨field_number _, field_number _, task.cpu.2, task.taskAddr.2, task.st.2, task.memory.2,
    task.vsz.2, task.rss.2, fun _ h => by cases h⟩

/-- The fields of a row are the columns and the words of the name. -/
theorem Task.split_print (task : Task) (gaps : Nat → Nat) :
    Fields.split isSpace (Lines.trim isSpace ((task.print gaps).dropWhile (· = '>'))) =
      task.columns ++ Fields.split isSpace task.name := by
  have hbody : (task.print gaps).dropWhile (· = '>') =
      blanks (gaps 0) ++ spread gaps 1 task.columns task.name := by
    have hhead : (blanks (gaps 0) ++ spread gaps 1 task.columns task.name).dropWhile (· = '>') =
        blanks (gaps 0) ++ spread gaps 1 task.columns task.name := by
      cases hgap : gaps 0 with
      | succ n => rfl
      | zero =>
          obtain ⟨c, digits, hdigits⟩ := List.exists_cons_of_ne_nil (field_number task.pid).ne
          have hc : c.isDigit = true :=
            PythonInt.isDigit_toDigits (show c ∈ number task.pid from hdigits ▸ List.mem_cons_self)
          have hne : c ≠ '>' := fun heq => by
            rw [heq] at hc
            exact absurd hc (by decide)
          show (spread gaps 1 task.columns task.name).dropWhile _ = spread gaps 1 task.columns task.name
          rw [columns, spread, hdigits, List.cons_append,
            List.dropWhile_cons_of_neg (by simpa using hne)]
    unfold Task.print
    cases task.active with
    | true => exact hhead
    | false => exact hhead
  rw [Fields.split_trim, hbody, Fields.split_gap fun c hc => isSpace_of_mem_blanks hc,
    split_spread task.field_columns]

/-- A number whose digits are not too many for `int`. -/
def Short (n : Nat) : Prop := (number n).length ≤ PythonInt.MAX_STR_DIGITS

instance (n : Nat) : Decidable (Short n) := inferInstanceAs (Decidable (_ ≤ _))

theorem isdigit_number (n : Nat) : PythonInt.isdigit (number n) = true :=
  PythonInt.isdigit_toDigits n

theorem int_number (n : Nat) : PythonInt.int (number n) = if Short n then some (n : Int) else none :=
  PythonInt.int_toDigits n

/-- The name is one field and has no brackets of its own at its ends. -/
structure Task.Plain (task : Task) : Prop where
  solid : ∀ c ∈ task.comm, isSpace c = false
  bare : Lines.Trimmed isBracket task.comm
  printed : task.comm = [] → task.kernelThread = true
  pid : Short task.pid
  ppid : Short task.ppid

/-- A row is read if its name has a word: the last word is taken, without brackets. -/
theorem psProcess_print :
    psProcess (task.print gaps) =
      match Fields.split isSpace task.name with
      | [] => some none
      | word :: words =>
          if Short task.pid ∧ Short task.ppid then
            some (some ⟨task.pid, task.ppid, task.cpu, task.taskAddr, task.st,
              Lines.trim isBracket ((word :: words).getLast (List.cons_ne_nil _ _))⟩)
          else none := by
  rw [psProcess, task.split_print gaps]
  cases hwords : Fields.split isSpace task.name with
  | nil => rfl
  | cons word words =>
      show (if PythonInt.isdigit (number task.pid) = true then
        (PythonInt.int (number task.pid)).bind fun pid =>
          (PythonInt.int (number task.ppid)).bind fun ppid => _
        else _) = _
      rw [if_pos (isdigit_number task.pid), int_number, int_number]
      by_cases hpid : Short task.pid
      · by_cases hppid : Short task.ppid
        · rw [if_pos hpid, if_pos hppid]
          exact (if_pos ⟨hpid, hppid⟩).symm
        · rw [if_pos hpid, if_neg hppid]
          exact (if_neg fun h => hppid h.2).symm
      · rw [if_neg hpid]
        exact (if_neg fun h => hpid h.1).symm

/-- Whatever is read, its name is one word. -/
theorem psProcess_solid {line : Text} {process : Process}
    (h : psProcess line = some (some process)) : ∀ c ∈ process.comm, isSpace c = false := by
  unfold psProcess at h
  dsimp only at h
  split at h
  · next name names hfields =>
      split at h
      · obtain ⟨pid, _, h⟩ := Option.bind_eq_some_iff.mp h
        obtain ⟨ppid, _, h⟩ := Option.bind_eq_some_iff.mp h
        obtain rfl := Option.some.inj (Option.some.inj h)
        have hlast : (name :: names).getLast (List.cons_ne_nil _ _) ∈ name :: names :=
          List.getLast_mem _
        have hmem : (name :: names).getLast (List.cons_ne_nil _ _) ∈
            Fields.split isSpace (Lines.trim isSpace (line.dropWhile (· = '>'))) := by
          rw [hfields]
          exact List.mem_append_right [_, _, _, _, _, _, _, _] hlast
        intro c hc
        exact (Fields.of_mem_split hmem).solid c ((List.dropWhile_sublist _).mem ((List.rdropWhile_prefix _ _).mem hc))
      · cases Option.some.inj h
  · cases Option.some.inj h

/-- The brackets around a name are taken away with those at its ends. -/
theorem trim_name : Lines.trim isBracket task.name = Lines.trim isBracket task.comm := by
  have hopen : isBracket '[' = true := rfl
  have hclose : isBracket ']' = true := rfl
  unfold Task.name
  split
  · rw [Lines.trim, List.cons_append, List.dropWhile_cons_of_pos hopen, Lines.trim,
      List.dropWhile_append]
    split
    · next hempty =>
        rw [List.isEmpty_iff.mp hempty, List.dropWhile_cons_of_pos hclose, List.dropWhile_nil]
    · exact List.rdropWhile_concat_pos isBracket _ _ hclose
  · rfl

theorem solid_name (h : ∀ c ∈ task.comm, isSpace c = false) :
    ∀ c ∈ task.name, isSpace c = false := by
  have hbrackets : isSpace '[' = false ∧ isSpace ']' = false := by decide
  unfold Task.name
  split
  · intro c hc
    rw [List.cons_append, List.mem_cons, List.mem_append, List.mem_singleton] at hc
    rcases hc with rfl | hc | rfl
    · exact hbrackets.1
    · exact h c hc
    · exact hbrackets.2
  · exact h

/-- A row is read back exactly if the name is plain. -/
theorem psProcess_iff : psProcess (task.print gaps) = some (some task.process) ↔ task.Plain := by
  constructor
  · intro h
    have hsolid : ∀ c ∈ task.comm, isSpace c = false := psProcess_solid h
    rw [psProcess_print] at h
    by_cases hname : task.name = []
    · rw [hname, Fields.split_nil] at h
      cases Option.some.inj h
    · rw [Fields.Field.split ⟨hname, solid_name hsolid⟩] at h
      obtain ⟨hshort, h⟩ := Option.ite_none_right_eq_some.mp h
      have hcomm : Lines.trim isBracket task.name = task.comm :=
        congrArg Process.comm (Option.some.inj (Option.some.inj h))
      rw [trim_name] at hcomm
      refine ⟨hsolid, hcomm ▸ Lines.trimmed_trim isBracket task.comm, fun hempty => ?_, hshort.1, hshort.2⟩
      by_contra hkernel
      rw [Task.name, if_neg hkernel] at hname
      exact hname hempty
  · intro h
    have hname : task.name ≠ [] := by
      unfold Task.name
      split
      · exact List.cons_ne_nil _ _
      · exact fun hempty => ‹¬ task.kernelThread = true› (h.printed hempty)
    rw [psProcess_print, Fields.Field.split ⟨hname, solid_name h.solid⟩]
    show (if Short task.pid ∧ Short task.ppid then _ else none) = _
    rw [if_pos ⟨h.pid, h.ppid⟩]
    show some (some (Process.mk _ _ _ _ _ (Lines.trim isBracket task.name))) = _
    rw [trim_name, Lines.trim_eq_self h.bare]
    rfl

/-- The names of the columns are no row. -/
theorem psProcess_header : psProcess (psHeader gaps) = some none := by
  have hcolumns : ∀ column ∈ ["PID".toList, "PPID".toList, "CPU".toList, "TASK".toList, "ST".toList,
      "%MEM".toList, "VSZ".toList, "RSS".toList, "COMM".toList],
      column ≠ [] ∧ column.all (fun c => isSpace c = false) = true := by decide
  have hfield : ∀ column ∈ ["PID".toList, "PPID".toList, "CPU".toList, "TASK".toList, "ST".toList,
      "%MEM".toList, "VSZ".toList, "RSS".toList, "COMM".toList], Fields.Field isSpace column :=
    fun column hcolumn =>
      ⟨(hcolumns column hcolumn).1, List.all_iff_forall_prop.mp (hcolumns column hcolumn).2⟩
  have hbody : (psHeader gaps).dropWhile (· = '>') = psHeader gaps := by
    unfold psHeader
    cases gaps 0 <;> rfl
  have hdigit : PythonInt.isdigit "PID".toList = false := by decide
  rw [psProcess, hbody, Fields.split_trim, psHeader,
    Fields.split_gap fun c hc => isSpace_of_mem_blanks hc,
    split_spread fun column hcolumn => hfield column (List.mem_append_left ["COMM".toList] hcolumn),
    (hfield "COMM".toList (by decide)).split]
  show (if PythonInt.isdigit "PID".toList = true then _ else some none) = _
  rw [hdigit]
  rfl

/-- A row with a name of one word is one line. -/
theorem not_isBoundary_print (h : ∀ c ∈ task.comm, isSpace c = false) :
    ∀ c ∈ task.print gaps, Lines.isBoundary c = false := by
  have hmark : Lines.isBoundary '>' = false := by decide
  have hblank : Lines.isBoundary ' ' = false := by decide
  intro c hc
  rw [Task.print, List.mem_append, List.mem_append] at hc
  rcases hc with hc | hc | hc
  · split at hc
    · rw [List.mem_singleton.mp hc]
      exact hmark
    · cases hc
  · exact not_isBoundary_blanks hc
  · rcases mem_spread hc with ⟨column, hcolumn, hc⟩ | rfl | hc
    · exact not_isBoundary ((task.field_columns column hcolumn).solid c hc)
    · exact hblank
    · exact not_isBoundary (solid_name h c hc)

theorem not_isBoundary_header : ∀ c ∈ psHeader gaps, Lines.isBoundary c = false := by
  have hcolumns : ∀ column ∈ ["PID".toList, "PPID".toList, "CPU".toList, "TASK".toList, "ST".toList,
      "%MEM".toList, "VSZ".toList, "RSS".toList, "COMM".toList],
      column.all (fun c => Lines.isBoundary c = false) = true := by decide
  have hcolumn (column) (h : column ∈ _) : ∀ c ∈ column, Lines.isBoundary c = false :=
    List.all_iff_forall_prop.mp (hcolumns column h)
  have hblank : Lines.isBoundary ' ' = false := by decide
  intro c hc
  rcases List.mem_append.mp hc with hc | hc
  · exact not_isBoundary_blanks hc
  · rcases mem_spread hc with ⟨column, hmem, hc⟩ | rfl | hc
    · exact hcolumn column (List.mem_append_left ["COMM".toList] hmem) c hc
    · exact hblank
    · exact hcolumn "COMM".toList (by decide) c hc

/-- Whatever `parse_ps` reads, a name is one word. -/
theorem parsePs_solid {lines : List Text} {processes : List Process}
    (h : perLine psProcess lines = some processes) :
    ∀ process ∈ processes, ∀ c ∈ process.comm, isSpace c = false := by
  induction lines generalizing processes with
  | nil =>
      obtain rfl := Option.some.inj h
      exact fun _ hprocess => by cases hprocess
  | cons line lines ih =>
      rw [perLine] at h
      rcases hread : psProcess line with _ | _ | process
      · rw [hread] at h
        cases h
      · rw [hread] at h
        exact ih h
      · rw [hread] at h
        obtain ⟨others, hothers, rfl⟩ := Option.map_eq_some_iff.mp h
        exact List.forall_mem_cons.mpr ⟨psProcess_solid hread, ih hothers⟩

/-- What `ps` printed is read back exactly if every name is plain. -/
theorem parsePs_iff (listing : List Line) :
    parsePs (printPs listing) = some ((tasks listing).map Task.process) ↔
      ∀ task ∈ tasks listing, task.Plain := by
  have hwanted : (tasks listing).map Task.process =
      listing.filterMap fun line => line.task.map Task.process := List.map_filterMap
  -- with names of one word the lines are those that were printed
  have hlines (h : ∀ task ∈ tasks listing, ∀ c ∈ task.comm, isSpace c = false) :
      parsePs (printPs listing) = perLine psProcess (listing.map Line.print) := by
    have hflat : printPs listing =
        (listing.map Line.print).flatMap fun line => line ++ ['\n'] := by
      rw [printPs, List.flatMap_map]
    rw [parsePs, hflat, Lines.splitlines_terminated]
    intro text htext
    obtain ⟨line, hline, rfl⟩ := List.mem_map.mp htext
    unfold Line.print
    cases htask : line.task with
    | none => exact not_isBoundary_header
    | some task => exact not_isBoundary_print (h task (List.mem_filterMap.mpr ⟨line, hline, htask⟩))
  have hskip : ∀ line ∈ listing, line.task.map Task.process = none →
      psProcess line.print = some none := by
    intro line _ hnone
    rw [Line.print, Option.map_eq_none_iff.mp hnone]
    exact psProcess_header
  have hread (h : ∀ task ∈ tasks listing, ∀ c ∈ task.comm, isSpace c = false) :
      parsePs (printPs listing) = some ((tasks listing).map Task.process) ↔
        ∀ task ∈ tasks listing, task.Plain := by
    rw [hlines h, hwanted, perLine_iff hskip]
    constructor
    · intro hall task htask
      obtain ⟨line, hline, htask⟩ := List.mem_filterMap.mp htask
      have hprocess := hall line hline
      rw [Line.print, htask] at hprocess
      exact psProcess_iff.mp hprocess
    · intro hall line hline
      cases htask : line.task with
      | none => exact hskip line hline (by rw [htask]; rfl)
      | some task =>
          rw [Line.print, htask]
          exact psProcess_iff.mpr (hall task (List.mem_filterMap.mpr ⟨line, hline, htask⟩))
  constructor
  · intro h
    refine (hread fun task htask => ?_).mp h
    exact parsePs_solid h task.process (List.mem_map_of_mem htask)
  · intro h
    exact (hread fun task htask => (h task htask).solid).mpr h

end Tasks

/-! ## Backtraces -/

section Traces

variable {alnum : Char → Bool} {items : List Item} {groups : List Text} {word rest : Text}

theorem mem_hexDigits_of_isDigit {c : Char} (h : c.isDigit = true) : c ∈ hexDigits := by
  have hall : ∀ n < 58, 48 ≤ n → Char.ofNat n ∈ hexDigits := by decide
  have hrange : 48 ≤ c.toNat ∧ c.toNat < 58 := by
    simp only [Char.isDigit, Bool.and_eq_true, decide_eq_true_eq, ge_iff_le,
      UInt32.le_iff_toNat_le] at h
    exact ⟨h.1, Nat.lt_succ_of_le h.2⟩
  rw [← Char.ofNat_toNat c]
  exact hall c.toNat hrange.2 hrange.1

theorem mem_hexDigits_of_mem_number {n : Nat} {c : Char} (h : c ∈ number n) : c ∈ hexDigits :=
  mem_hexDigits_of_isDigit (PythonInt.isDigit_toDigits h)

theorem isWord_of_mem_hexDigits {c : Char} (h : c ∈ hexDigits) : isWord alnum c = true := by
  have hall : ∀ c ∈ hexDigits, c.toNat < 128 ∧ c.isAlphanum = true :=
    List.all_iff_forall_prop.mp (by decide)
  rw [isWord, if_pos (hall c h).1, (hall c h).2]
  rfl

theorem isDecimal_of_mem_number {n : Nat} {c : Char} (h : c ∈ number n) : isDecimal c = true := by
  rw [isDecimal, PythonInt.decimal_of_isDigit (PythonInt.isDigit_toDigits h)]
  rfl

/-- What holds of a word holds of the head of a text that begins with it. -/
theorem forall_head {P : Char → Prop} (hne : word ≠ []) (h : ∀ c ∈ word, P c) :
    ∀ c ∈ (word ++ rest).head?, P c := by
  obtain ⟨d, word, rfl⟩ := List.exists_cons_of_ne_nil hne
  intro c hc
  exact h c (Option.mem_some.mp hc ▸ List.mem_cons_self)

/-- Blanks match where one or more may stand. -/
theorem matchAt_blanks {n least : Nat} (hleast : least ≤ n) (hrest : ∀ c ∈ rest.head?, isSpace c = false)
    (h : matchAt items rest = some groups) :
    matchAt (.run isSpace least true false :: items) (blanks n ++ rest) = some groups :=
  matchAt_run (fun c hc => isSpace_of_mem_blanks hc) hrest (by simpa [blanks] using hleast) h

/-- A column matches `\S+`. -/
theorem matchAt_column (column : Column) (hrest : ∀ c ∈ rest.head?, isSpace c = true)
    (h : matchAt items rest = some groups) :
    matchAt (group₁ notSpace :: items) (column ++ rest) = some (column.1 :: groups) :=
  matchAt_run (fun c hc => by rw [notSpace, column.2.solid c hc]; rfl)
    (fun c hc => by rw [notSpace, hrest c hc]; rfl) (List.length_pos_iff.mpr column.2.ne) h

/-- A number matches `\d+`. -/
theorem matchAt_number (n : Nat) (hrest : ∀ c ∈ rest.head?, isDecimal c = false)
    (h : matchAt items rest = some groups) :
    matchAt (group₁ isDecimal :: items) (number n ++ rest) = some (number n :: groups) :=
  matchAt_run (fun _ hc => isDecimal_of_mem_number hc) hrest
    (List.length_pos_iff.mpr (field_number n).ne) h

/-- An address matches `\w+`. -/
theorem matchAt_address (address : Address) (hrest : ∀ c ∈ rest.head?, isWord alnum c = false)
    (h : matchAt items rest = some groups) :
    matchAt (some₁ (isWord alnum) :: items) (address ++ rest) = some groups :=
  matchAt_run (fun c hc => isWord_of_mem_hexDigits (address.2.2 c hc)) hrest
    (List.length_pos_iff.mpr address.2.1) h

/-- A frame is found in its line. -/
theorem search_frame (frame : FrameLine) :
    search (BT_FRAME alnum) frame.print =
      some [number frame.level, frame.symbol, frame.pcAddr] := by
  have hblank : isSpace ' ' = true ∧ isDecimal ' ' = false := by decide
  have hblanks (n : Nat) (rest : Text) : (blanks (n + 1) ++ rest).head? = some ' ' := rfl
  have hskip : ∀ c ∈ blanks (frame.gaps 0), (fun c => decide (c = '#')) c = false := fun c hc => by
    rw [List.eq_of_mem_replicate hc]
    rfl
  have htag : ∀ c ∈ frame.tag.head?, isSpace c = true := by
    unfold FrameLine.tag
    cases frame.moduleTag with
    | none => exact fun _ hc => by cases hc
    | some name => exact fun _ hc => Option.mem_some.mp hc ▸ hblank.1
  -- from the end of the line to its start
  have haddr : matchAt [group₁ notSpace] (frame.pcAddr ++ frame.tag) = some [frame.pcAddr.1] :=
    matchAt_column frame.pcAddr htag rfl
  have hgap₄ := matchAt_blanks (Nat.succ_pos (frame.gaps 4))
    (forall_head frame.pcAddr.2.ne frame.pcAddr.2.solid) haddr
  have hat := (matchAt_literal "at".toList).trans hgap₄
  have hgap₃ := matchAt_blanks (Nat.succ_pos (frame.gaps 3))
    (fun c hc => by rw [← Option.mem_some.mp hc]; decide) hat
  have hsymbol := matchAt_column frame.symbol
    (fun c hc => by rw [hblanks] at hc; exact Option.mem_some.mp hc ▸ hblank.1) hgap₃
  have hgap₂ := matchAt_blanks (Nat.succ_pos (frame.gaps 2))
    (forall_head frame.symbol.2.ne frame.symbol.2.solid) hsymbol
  have hbracket : isWord alnum ']' = false := rfl
  have hstack := matchAt_address frame.stack (fun c hc => Option.mem_some.mp hc ▸ hbracket)
    ((matchAt_char ']').trans hgap₂)
  have hgap₁ := matchAt_blanks (Nat.succ_pos (frame.gaps 1))
    (fun c hc => by rw [← Option.mem_some.mp hc]; decide)
    ((matchAt_char '[').trans hstack)
  have hlevel := matchAt_number frame.level
    (fun c hc => by rw [hblanks] at hc; exact Option.mem_some.mp hc ▸ hblank.2) hgap₁
  rw [BT_FRAME, FrameLine.print, search_skip hskip]
  exact search_of_matchAt ((matchAt_char '#').trans hlevel)

/-- A frame is read unless its level has too many digits. -/
theorem btFrame_frame (frame : FrameLine) :
    btFrame alnum frame.print = if Short frame.level then some (some frame.frame) else none := by
  rw [btFrame, search_frame]
  show (PythonInt.int (number frame.level)).map _ = _
  rw [int_number]
  split <;> rfl

/-- A frame is one line. -/
theorem not_isBoundary_frame {frame : FrameLine} :
    ∀ c ∈ frame.print, Lines.isBoundary c = false := by
  have hmarks : ∀ c ∈ "#[] ".toList, Lines.isBoundary c = false :=
    List.all_iff_forall_prop.mp (by decide)
  have hat : ∀ c ∈ "at".toList, Lines.isBoundary c = false :=
    List.all_iff_forall_prop.mp (by decide)
  have hhex : ∀ c ∈ hexDigits, Lines.isBoundary c = false :=
    List.all_iff_forall_prop.mp (by decide)
  have htag : ∀ c ∈ frame.tag, Lines.isBoundary c = false := by
    unfold FrameLine.tag
    intro c hc
    split at hc
    · next name _ =>
        simp only [List.mem_cons, List.mem_append, List.not_mem_nil, or_false] at hc
        rcases hc with rfl | rfl | hc | rfl
        · exact hmarks _ (by decide)
        · exact hmarks _ (by decide)
        · exact not_isBoundary (name.2.solid c hc)
        · exact hmarks _ (by decide)
    · cases hc
  intro c hc
  simp only [FrameLine.print, List.mem_cons, List.mem_append (a := c)] at hc
  rcases hc with hc | rfl | hc | hc | rfl | hc | rfl | hc | hc | hc | hc | hc | hc | hc
  · exact not_isBoundary_blanks hc
  · exact hmarks _ (by decide)
  · exact hhex c (mem_hexDigits_of_mem_number hc)
  · exact not_isBoundary_blanks hc
  · exact hmarks _ (by decide)
  · exact hhex c (frame.stack.2.2 c hc)
  · exact hmarks _ (by decide)
  · exact not_isBoundary_blanks hc
  · exact not_isBoundary (frame.symbol.2.solid c hc)
  · exact not_isBoundary_blanks hc
  · exact hat c hc
  · exact not_isBoundary_blanks hc
  · exact not_isBoundary (frame.pcAddr.2.solid c hc)
  · exact htag c hc

/-- A line has nothing exactly if no frame is found in it. -/
theorem btFrame_eq_none_iff {line : Text} :
    btFrame alnum line = some none ↔ search (BT_FRAME alnum) line = none := by
  unfold btFrame
  cases hsearch : search (BT_FRAME alnum) line with
  | none => exact iff_of_true rfl rfl
  | some groups =>
      have hlength : groups.length = 3 := length_search hsearch
      obtain ⟨level, symbol, pcAddr, rfl⟩ := List.length_eq_three.mp hlength
      refine iff_of_false (fun h => ?_) (by simp)
      obtain ⟨n, -, hn⟩ := Option.map_eq_some_iff.mp h
      cases hn

theorem btFrame_of_quiet {line : Text} (h : '#' ∉ line) : btFrame alnum line = some none := by
  refine btFrame_eq_none_iff.mpr (search_none fun c hc => ?_)
  exact decide_eq_false fun heq => h (heq ▸ hc)

/-- A line under the header has its frame, or raises. -/
theorem btFrame_line (line : TraceLine) :
    btFrame alnum line.print = none ∨
      btFrame alnum line.print = some (line.frame?.map FrameLine.frame) := by
  cases line with
  | other text quiet single => exact .inr (btFrame_of_quiet quiet)
  | frame frame =>
      rw [TraceLine.print, btFrame_frame]
      split
      · exact .inr rfl
      · exact .inl rfl

/-- A word in front of `COMMAND:` that has no `O` and a blank at its end. -/
theorem not_command (hne : word ≠ []) (hletter : 'O' ∉ word) (hlast : word.getLast? = some ' ') :
    ¬ "COMMAND:".toList <+: word ++ rest := by
  intro h
  cases word with
  | nil => exact hne rfl
  | cons c word =>
      have hcons := List.cons_prefix_cons.mp h
      cases word with
      | nil =>
          obtain rfl := Option.some.inj hlast
          exact absurd hcons.1 (by decide)
      | cons d word =>
          have hletter' := (List.cons_prefix_cons.mp hcons.2).1
          exact hletter (hletter' ▸ List.mem_cons_of_mem _ List.mem_cons_self)

/-- What `[^"]*"` takes of a text with a quote. -/
theorem append_quote (command rest : Text) :
    ∃ rest', command ++ '"' :: rest = command.takeWhile notQuote ++ '"' :: rest' := by
  induction command with
  | nil => exact ⟨rest, rfl⟩
  | cons c command ih =>
      obtain ⟨rest', hrest'⟩ := ih
      by_cases hc : c = '"'
      · exact ⟨command ++ '"' :: rest, by simp [notQuote, hc]⟩
      · exact ⟨rest', by simp [notQuote, hc, hrest']⟩

variable {trace : Trace}

/-- The characters between the number of the task and its name. -/
theorem mem_between {c : Char} (h : c ∈ trace.between) : c ∈ hexDigits ++ " TASK:CPU".toList := by
  have hwords : (∀ c ∈ "TASK:".toList, c ∈ " TASK:CPU".toList) ∧
      (∀ c ∈ "CPU:".toList, c ∈ " TASK:CPU".toList) ∧ ' ' ∈ " TASK:CPU".toList :=
    ⟨List.all_iff_forall_prop.mp (by decide), List.all_iff_forall_prop.mp (by decide), by decide⟩
  have hblank {n : Nat} (h : c ∈ blanks n) : c ∈ hexDigits ++ " TASK:CPU".toList :=
    List.mem_append_right _ (List.eq_of_mem_replicate h ▸ hwords.2.2)
  simp only [Trace.between, List.mem_append (a := c)] at h
  rcases h with h | h | h | h | h | h | h | h | h
  · exact hblank h
  · exact List.mem_append_right _ (hwords.1 c h)
  · exact hblank h
  · exact List.mem_append_left _ (trace.taskAddr.2.2 c h)
  · exact hblank h
  · exact List.mem_append_right _ (hwords.2.1 c h)
  · exact hblank h
  · exact List.mem_append_left _ (mem_hexDigits_of_mem_number h)
  · exact hblank h

theorem getLast?_between : trace.between.getLast? = some ' ' := by
  have hend (n : Nat) : (blanks (n + 1)).getLast? = some ' ' := List.getLast?_replicate
  simp only [Trace.between, List.getLast?_append, hend, Option.some_or]

/-- The characters in front of the name: no boundary, and nothing that begins a frame. -/
theorem mem_front {c : Char} (h : c ∈ trace.front) : Lines.isBoundary c = false ∧ c ≠ '#' := by
  have hall : ∀ c ∈ hexDigits ++ " TASK:CPU".toList ++ "PID:COMMAND:\"".toList,
      Lines.isBoundary c = false ∧ c ≠ '#' := List.all_iff_forall_prop.mp (by decide)
  refine hall c ?_
  have hbetween {c : Char} (h : c ∈ hexDigits ++ " TASK:CPU".toList) :
      c ∈ hexDigits ++ " TASK:CPU".toList ++ "PID:COMMAND:\"".toList := List.mem_append_left _ h
  have hwords : (∀ c ∈ "PID:".toList, c ∈ "PID:COMMAND:\"".toList) ∧
      (∀ c ∈ "COMMAND:".toList, c ∈ "PID:COMMAND:\"".toList) ∧
      '"' ∈ "PID:COMMAND:\"".toList :=
    ⟨List.all_iff_forall_prop.mp (by decide), List.all_iff_forall_prop.mp (by decide), by decide⟩
  have hblank {n : Nat} (h : c ∈ blanks n) : c ∈ hexDigits ++ " TASK:CPU".toList :=
    List.mem_append_right _ (List.eq_of_mem_replicate h ▸ (by decide))
  simp only [Trace.front, List.mem_append (a := c), List.mem_singleton] at h
  rcases h with h | h | h | h | h | h | h
  · exact List.mem_append_right _ (hwords.1 c h)
  · exact hbetween (hblank h)
  · exact hbetween (List.mem_append_left _ (mem_hexDigits_of_mem_number h))
  · exact hbetween (mem_between h)
  · exact List.mem_append_right _ (hwords.2.1 c h)
  · exact hbetween (hblank h)
  · exact List.mem_append_right _ (h ▸ hwords.2.2)

/-- The name is taken up to its first quote. -/
theorem matchAt_name (command rest : Text) :
    matchAt [.run notQuote 0 true true, .one (· = '"')] (command ++ '"' :: rest) =
      some [command.takeWhile notQuote] := by
  obtain ⟨rest', hrest'⟩ := append_quote command rest
  rw [hrest']
  exact matchAt_run (fun c hc => List.mem_takeWhile_imp hc)
    (fun c hc => by rw [← Option.mem_some.mp hc]; rfl) (Nat.zero_le _) (matchAt_char '"')

/-- `.*?` goes up to `COMMAND:`. -/
theorem matchAt_between (trace : Trace)
    (h : matchAt (literal "COMMAND:".toList ++ items) ("COMMAND:".toList ++ rest) = some groups) :
    matchAt (.run notNewline 0 false false :: (literal "COMMAND:".toList ++ items))
      (trace.between ++ ("COMMAND:".toList ++ rest)) = some groups := by
  have hletters : ∀ c ∈ hexDigits ++ " TASK:CPU".toList, c ≠ '\n' ∧ c ≠ 'O' :=
    List.all_iff_forall_prop.mp (by decide)
  refine matchAt_lazy (fun c hc => decide_eq_true (hletters c (mem_between hc)).1) (fun n hn => ?_) h
  rw [List.drop_append_of_le_length (Nat.le_of_lt hn)]
  refine matchAt_literal_of_not (not_command (by simpa using hn) (fun hletter => ?_) ?_)
  · exact (hletters 'O' (mem_between (List.mem_of_mem_drop hletter))).2 rfl
  · rw [List.getLast?_drop, if_neg (Nat.not_le.mpr hn), getLast?_between]

/-- The header is found, with the name up to its first quote. -/
theorem search_header (rest : Text) :
    search BT_HEADER (trace.front ++ (trace.command ++ '"' :: rest)) =
      some [number trace.pid, trace.command.takeWhile notQuote] := by
  have hblank : isDecimal ' ' = false := by decide
  have hquote : isSpace '"' = false := by decide
  -- from the name to the start of the header
  have hgap₆ := matchAt_blanks (Nat.zero_le (trace.gaps 6 + 1))
    (fun c hc => by rw [← Option.mem_some.mp hc]; exact hquote)
    ((matchAt_char '"').trans (matchAt_name trace.command rest))
  have hbetween := matchAt_between trace ((matchAt_literal "COMMAND:".toList).trans hgap₆)
  have hhead (rest : Text) : ∀ c ∈ (trace.between ++ rest).head?, isDecimal c = false :=
    fun c hc => Option.mem_some.mp (show c ∈ some ' ' from hc) ▸ hblank
  have hpid := matchAt_number trace.pid (hhead _) hbetween
  have hgap₀ := matchAt_blanks (Nat.zero_le (trace.gaps 0 + 1))
    (forall_head (field_number trace.pid).ne (field_number trace.pid).solid) hpid
  simp only [Trace.front, List.append_assoc]
  exact search_of_matchAt ((matchAt_literal "PID:".toList).trans hgap₀)

theorem btHeader_print : btHeader (printBt trace) =
    if Short trace.pid then
      some (some ((trace.pid : Int), trace.command.takeWhile notQuote))
    else none := by
  rw [btHeader, printBt, search_header]
  show (PythonInt.int (number trace.pid)).map _ = _
  rw [int_number]
  split <;> rfl

/-- The lines of a backtrace: the header with the first line of the name, the other lines of
the name, and the lines under them. -/
theorem splitlines_printBt (trace : Trace) : ∃ first others,
    Lines.splitlines (trace.command ++ ['"']) = first :: others ∧
      Lines.splitlines (printBt trace) =
        (trace.front ++ first) :: others ++ trace.lines.map TraceLine.print := by
  have hne : Lines.splitlines (trace.command ++ ['"']) ≠ [] := Lines.splitlines_ne_nil (by simp)
  obtain ⟨first, others, hcommand⟩ := List.exists_cons_of_ne_nil hne
  have hflat : (trace.lines.flatMap fun line => line.print ++ ['\n']) =
      (trace.lines.map TraceLine.print).flatMap fun line => line ++ ['\n'] := by
    rw [List.flatMap_map]
  have hbody : Lines.splitlines (trace.lines.flatMap fun line => line.print ++ ['\n']) =
      trace.lines.map TraceLine.print := by
    rw [hflat, Lines.splitlines_terminated]
    intro text htext
    obtain ⟨line, -, rfl⟩ := List.mem_map.mp htext
    cases line with
    | frame frame => exact not_isBoundary_frame
    | other text quiet single => exact single
  have hquote : Lines.isBoundary '"' = false := by decide
  have hrest := Lines.splitlines_closed trace.command hquote
    (trace.lines.flatMap fun line => line.print ++ ['\n'])
  rw [hcommand, hbody, List.cons_append] at hrest
  exact ⟨first, others, hcommand, Lines.splitlines_append (fun c hc => (mem_front hc).1) hrest⟩

variable (alnum) in
/-- The name has no quote, and none of its lines looks like a frame. -/
structure Trace.Plain (trace : Trace) : Prop where
  unquoted : '"' ∉ trace.command
  quiet : ∀ line ∈ Lines.splitlines (trace.command ++ ['"']), search (BT_FRAME alnum) line = none
  pid : Short trace.pid
  levels : ∀ frame ∈ frames trace, Short frame.level

/-- The header is read back exactly if the name has no quote. -/
theorem btHeader_iff : btHeader (printBt trace) = some (some ((trace.pid : Int), trace.command)) ↔
    Short trace.pid ∧ '"' ∉ trace.command := by
  have hquote : trace.command.takeWhile notQuote = trace.command ↔ '"' ∉ trace.command := by
    rw [List.takeWhile_eq_self_iff]
    exact ⟨fun h hmem => by simpa [notQuote] using h '"' hmem,
      fun h c hc => decide_eq_true fun heq => h (heq ▸ hc)⟩
  rw [btHeader_print, ← hquote]
  by_cases hshort : Short trace.pid
  · simp [hshort]
  · simp [hshort]

/-- The lines under the header have their frames exactly if no level raises. -/
theorem perLine_lines_iff :
    perLine (btFrame alnum) (trace.lines.map TraceLine.print) =
        some ((frames trace).map FrameLine.frame) ↔
      ∀ frame ∈ frames trace, Short frame.level := by
  have hwanted : (frames trace).map FrameLine.frame =
      trace.lines.filterMap fun line => line.frame?.map FrameLine.frame := List.map_filterMap
  have hskip : ∀ line ∈ trace.lines, line.frame?.map FrameLine.frame = none →
      btFrame alnum line.print = some none := by
    intro line _ hnone
    cases line with
    | frame frame => cases hnone
    | other text quiet single => exact btFrame_of_quiet quiet
  rw [hwanted, perLine_iff hskip]
  constructor
  · intro h frame hframe
    obtain ⟨line, hline, hframe⟩ := List.mem_filterMap.mp hframe
    have hread := h line hline
    cases line with
    | other text quiet single => cases hframe
    | frame frame' =>
        obtain rfl := Option.some.inj hframe
        rw [TraceLine.print, btFrame_frame] at hread
        exact (Option.ite_none_right_eq_some.mp hread).1
  · intro h line hline
    cases line with
    | other text quiet single => exact btFrame_of_quiet quiet
    | frame frame =>
        have hframe : frame ∈ frames trace := List.mem_filterMap.mpr ⟨_, hline, rfl⟩
        rw [TraceLine.print, btFrame_frame, if_pos (h frame hframe)]
        rfl

/-- The frames are read back exactly if no line of the name looks like one. -/
theorem btFrames_iff :
    perLine (btFrame alnum) (Lines.splitlines (printBt trace)) =
        some ((frames trace).map FrameLine.frame) ↔
      (∀ line ∈ Lines.splitlines (trace.command ++ ['"']),
        search (BT_FRAME alnum) line = none) ∧ ∀ frame ∈ frames trace, Short frame.level := by
  obtain ⟨first, others, hcommand, hlines⟩ := splitlines_printBt trace
  have hfront : search (BT_FRAME alnum) (trace.front ++ first) = search (BT_FRAME alnum) first :=
    search_skip (fun c hc => decide_eq_false (mem_front hc).2) first
  have hname : (∀ line ∈ first :: others, search (BT_FRAME alnum) line = none) ↔
      perLine (btFrame alnum) ((trace.front ++ first) :: others) = some [] := by
    rw [perLine_eq_nil, List.forall_mem_cons, List.forall_mem_cons, btFrame_eq_none_iff, hfront]
    exact and_congr_right fun _ => forall₂_congr fun _ _ => btFrame_eq_none_iff.symm
  have hwanted : (frames trace).map FrameLine.frame =
      trace.lines.filterMap fun line => line.frame?.map FrameLine.frame := List.map_filterMap
  rw [hcommand, hlines, hname, perLine_append, ← @perLine_lines_iff alnum]
  constructor
  · intro h
    obtain ⟨extra, hextra, h⟩ := Option.bind_eq_some_iff.mp h
    obtain ⟨entries, hentries, h⟩ := Option.map_eq_some_iff.mp h
    -- the lines under the header leave nothing for the name
    have hall : entries = (frames trace).map FrameLine.frame := by
      rw [hwanted]
      exact perLine_of_raises (fun line _ => btFrame_line line) hentries
    rw [hall] at h hentries
    obtain rfl : extra = [] := List.append_left_eq_self.mp h
    exact ⟨hextra, hentries⟩
  · rintro ⟨hnone, hentries⟩
    rw [hnone, hentries]
    rfl

theorem parseBt_eq_some {text : Text} {header : Option (Int × Text)} {frames : List Frame} :
    parseBt alnum text = some ⟨header, frames⟩ ↔
      btHeader text = some header ∧ perLine (btFrame alnum) (Lines.splitlines text) = some frames := by
  simp [parseBt, Option.bind_eq_some_iff]

/-- What `bt` printed is read back exactly if the name is plain. -/
theorem parseBt_iff (trace : Trace) :
    parseBt alnum (printBt trace) =
        some ⟨some ((trace.pid : Int), trace.command), (frames trace).map FrameLine.frame⟩ ↔
      trace.Plain alnum := by
  rw [parseBt_eq_some, btHeader_iff, btFrames_iff]
  exact ⟨fun h => ⟨h.1.2, h.2.1, h.1.1, h.2.2⟩, fun h => ⟨⟨h.pid, h.unquoted⟩, h.quiet, h.levels⟩⟩

end Traces

/-! ## The parsers -/

section Commands

variable {Float : Type} {float : Text → Float} {lower : Text → Text} {alnum : Char → Bool}
  {command : Text}

/-- For `ps` the tasks are recovered exactly if every name is plain, and else the result is
another one or the text as it is. -/
theorem parseCommand_ps_iff (h : dispatchKey lower command = some "ps".toList)
    (listing : List Line) :
    parseCommand float lower alnum command (printPs listing) =
        .ps ((tasks listing).map Task.process) ↔
      ∀ task ∈ tasks listing, task.Plain := by
  have hparser : parserFor float alnum "ps".toList =
      some fun text => (parsePs text).map Parsed.ps := rfl
  rw [← parsePs_iff, parseCommand, h, Option.bind_some, hparser]
  show ((parsePs (printPs listing)).map Parsed.ps).getD _ = _ ↔ _
  cases parsePs (printPs listing) <;> simp

/-- For `bt` the task and its frames are recovered exactly if the name is plain. -/
theorem parseCommand_bt_iff (h : dispatchKey lower command = some "bt".toList) (trace : Trace) :
    parseCommand float lower alnum command (printBt trace) =
        .bt ⟨some ((trace.pid : Int), trace.command), (frames trace).map FrameLine.frame⟩ ↔
      trace.Plain alnum := by
  have hparser : parserFor float alnum "bt".toList =
      some fun text => (parseBt alnum text).map Parsed.bt := rfl
  rw [← parseBt_iff, parseCommand, h, Option.bind_some, hparser]
  show ((parseBt alnum (printBt trace)).map Parsed.bt).getD _ = _ ↔ _
  cases parseBt alnum (printBt trace) <;> simp

end Commands

/-- `parse_ps` recovers what crash printed exactly if every name is one word without brackets
at its ends, and `parse_bt` exactly if the name has no quote and no line like a frame. -/
theorem parsers_iff (alnum : Char → Bool) (listing : List Line) (trace : Trace) :
    (parsePs (printPs listing) = some ((tasks listing).map Task.process) ↔
      ∀ task ∈ tasks listing, task.Plain) ∧
    (parseBt alnum (printBt trace) =
        some ⟨some ((trace.pid : Int), trace.command), (frames trace).map FrameLine.frame⟩ ↔
      trace.Plain alnum) :=
  ⟨parsePs_iff listing, parseBt_iff trace⟩

/-- A row whose name is two words. -/
def webContent : Line where
  gaps _ := 0
  task := some {
    active := true
    pid := 4711
    ppid := 1
    cpu := ⟨"3".toList, by decide, List.all_iff_forall_prop.mp (by decide)⟩
    taskAddr := ⟨"ffff888".toList, by decide, List.all_iff_forall_prop.mp (by decide)⟩
    st := ⟨"IN".toList, by decide, List.all_iff_forall_prop.mp (by decide)⟩
    memory := ⟨"0.4".toList, by decide, List.all_iff_forall_prop.mp (by decide)⟩
    vsz := ⟨"2048".toList, by decide, List.all_iff_forall_prop.mp (by decide)⟩
    rss := ⟨"512".toList, by decide, List.all_iff_forall_prop.mp (by decide)⟩
    kernelThread := false
    comm := "Web Content".toList }

/-- A backtrace of a task with a quote in its name. -/
def quoted : Trace where
  gaps _ := 0
  pid := 7
  taskAddr := ⟨"ffff888".toList, by decide, List.all_iff_forall_prop.mp (by decide)⟩
  cpu := 0
  command := "a\"b".toList
  lines := []

/-- Of the first name `parse_ps` keeps the second word, and of the other one `parse_bt` keeps
what is in front of the quote. -/
theorem names_cut :
    (parsePs (printPs [webContent])).map (List.map Process.comm) = some ["Content".toList] ∧
    parsePs (printPs [webContent]) ≠ some ((tasks [webContent]).map Task.process) ∧
    parseBt Char.isAlphanum (printBt quoted) = some ⟨some (7, "a".toList), []⟩ ∧
    parseBt Char.isAlphanum (printBt quoted) ≠
      some ⟨some ((quoted.pid : Int), quoted.command), (frames quoted).map FrameLine.frame⟩ :=
  ⟨by decide, by decide, by decide, by decide⟩

end Kdive.CrashParsers

import Kdive.Lib.Fields
import Kdive.Lib.Utf8
import Kdive.Safety.Redaction

/-!
# The identity of a process

A process is known by its pid and the time it started, since a pid is used again.
`identity` reads both off the line of `/proc/<pid>/stat`, and `isAlive` looks there for
the state of a zombie.  The second field of the line is the name of the command in
parentheses.  The process chooses it, as any octets.  So both readers begin behind the
last `") "` of the line.

*Text.*  The file is read as UTF-8 text.  Octets that are no such text raise, and
neither reader catches that.

*The line.*  A `Stat` is what the kernel writes: the pid, the name, the letter of the
state, and numbers, of which field 22 is the start time.  `identity_iff` says for which
names the two readers find them.
-/

namespace Kdive.Process

abbrev Octets := List Nat

/-! ## Reading the files -/

/-- The files of a process, `none` where opening or reading one fails. -/
structure ProcFiles where
  /-- `/proc/<pid>/stat`. -/
  stat : Option Octets
  /-- `/proc/<pid>/cmdline`. -/
  cmdline : Option Octets
deriving DecidableEq

/-- What reading a file as text may raise, beyond what is caught. -/
inductive TextError where
  | unicodeDecodeError
deriving DecidableEq, Repr

/-- Universal newlines, behind a return or not.  A return is a newline, and takes the
newline behind it along. -/
def newlinesFrom : Bool → Text → Text
  | _, [] => []
  | returned, c :: text =>
      if c = '\r' then '\n' :: newlinesFrom true text
      else if returned = true ∧ c = '\n' then newlinesFrom false text
      else c :: newlinesFrom false text

/-- `read_text(encoding="utf-8")` of a file that could be read. -/
def readText (octets : Octets) : Except TextError Text :=
  match Utf8.decodeStrict octets with
  | none => .error .unicodeDecodeError
  | some text => .ok (newlinesFrom false text)

/-- What one octet writes when what belongs to no character is left out. -/
def ignoring : Utf8.State → Nat → Text
  | .idle, b => if b < 0x80 then [Char.ofNat b] else []
  | .pending need bits low high, b =>
      if low ≤ b ∧ b ≤ high then (Utf8.step (.pending need bits low high) b).1
      else if b < 0x80 then [Char.ofNat b] else []

/-- `decode("utf-8", errors="ignore")`, from a state. -/
def decodeIgnore : Utf8.State → Octets → Text
  | _, [] => []
  | state, b :: octets => ignoring state b ++ decodeIgnore (Utf8.step state b).2 octets

/-- `_argv0`. -/
def argv0 (files : ProcFiles) : Option Text :=
  match files.cmdline with
  | none | some [] => none
  | some (b :: octets) => some (decodeIgnore .idle ((b :: octets).takeWhile (· ≠ 0)))

/-! ## The probe -/

/-- `ProcessIdentity`. -/
structure ProcessIdentity where
  /-- The pid. -/
  pid : Nat
  /-- The start time, where the platform has one. -/
  startTime : Option Text
  /-- The name it was called by. -/
  argv0 : Option Text
deriving DecidableEq, Repr

/-- The fields behind the last `") "`, where both readers begin. -/
def fieldsBehind (statText : Text) : Option (List Text) :=
  (Fields.rpartition ") ".toList statText).map fun sides => Fields.split isSpace sides.2

/-- `identity`. -/
def identity (files : ProcFiles) (pid : Nat) : Except TextError (Option ProcessIdentity) :=
  match files.stat with
  | none => .ok none
  | some octets => do
      let statText ← readText octets
      let startTime := (fieldsBehind statText).bind fun fields => fields[19]?
      return some ⟨pid, startTime, argv0 files⟩

/-- `_is_zombie`. -/
def isZombie (files : ProcFiles) : Except TextError Bool :=
  match files.stat with
  | none => .ok false
  | some octets => do
      let statText ← readText octets
      return (fieldsBehind statText).any fun fields => fields.head? = some ['Z']

/-- What `os.kill(pid, 0)` gives. -/
inductive KillAnswer where
  | delivered
  | processLookupError
  | permissionError
  | osError (esrch : Bool)
deriving DecidableEq, Repr

/-- The answer says that there is such a process. -/
def KillAnswer.finds : KillAnswer → Bool
  | .delivered | .permissionError => true
  | .processLookupError => false
  | .osError esrch => !esrch

/-- `is_alive`. -/
def isAlive (files : ProcFiles) (kill : KillAnswer) : Except TextError Bool := do
  if ← isZombie files then return false
  return kill.finds

/-! ## The line of the kernel -/

/-- What the kernel writes to `/proc/<pid>/stat`. -/
structure Stat where
  /-- The pid. -/
  pid : Nat
  /-- The name of the command, as octets. -/
  comm : Octets
  /-- The letter of the state. -/
  state : Char
  state_letter : state.isAlpha = true
  /-- The numbers, from field 4 on. -/
  numbers : List Text
  numbers_length : 19 ≤ numbers.length
  numbers_numeric : ∀ number ∈ numbers, number ≠ [] ∧ ∀ c ∈ number, c.isDigit = true ∨ c = '-'

namespace Stat

/-- Field 22: the start time. -/
def startTime (stat : Stat) : Text := stat.numbers.get ⟨18, stat.numbers_length⟩

/-- The fields behind the name. -/
def fields (stat : Stat) : List Text := [stat.state] :: stat.numbers

/-- What stands behind the name. -/
def suffix (stat : Stat) : Text := [' '].intercalate stat.fields ++ ['\n']

/-- The line, in octets. -/
def line (stat : Stat) : Octets :=
  Utf8.encode (Nat.toDigits 10 stat.pid ++ " (".toList) ++
    (stat.comm ++ Utf8.encode (')' :: ' ' :: stat.suffix))

end Stat

/-! ## Reading the line -/

/-- A letter, a digit or a sign is solid, and is neither a parenthesis nor a return. -/
theorem plain_char {c : Char} (h : c.isAlpha = true ∨ c.isDigit = true ∨ c = '-') :
    isSpace c = false ∧ c ≠ ')' ∧ c ≠ '\r' := by
  have hspace : ∀ c ∈ spaceChars, c.isAlpha = false ∧ c.isDigit = false ∧ c ≠ '-' :=
    List.forall_iff_forall_mem.mp (by decide)
  refine ⟨?_, ?_, ?_⟩
  · rw [Bool.eq_false_iff]
    intro hblank
    obtain ⟨halpha, hdigit, hsign⟩ := hspace c (by simpa [isSpace] using hblank)
    rcases h with h | h | h
    · rw [halpha] at h
      cases h
    · rw [hdigit] at h
      cases h
    · exact hsign h
  · rintro rfl
    revert h
    decide
  · rintro rfl
    revert h
    decide

namespace Stat

variable (stat : Stat)

/-- The characters of the fields. -/
theorem fields_chars : ∀ field ∈ stat.fields, field ≠ [] ∧
    ∀ c ∈ field, c.isAlpha = true ∨ c.isDigit = true ∨ c = '-' := by
  intro field hfield
  rcases List.mem_cons.mp hfield with rfl | hnumber
  · refine ⟨List.cons_ne_nil _ _, fun c hc => .inl ?_⟩
    rw [List.mem_singleton.mp hc]
    exact stat.state_letter
  · exact ⟨(stat.numbers_numeric field hnumber).1,
      fun c hc => .inr ((stat.numbers_numeric field hnumber).2 c hc)⟩

/-- No character behind the name is a parenthesis or a return. -/
theorem suffix_chars : ∀ c ∈ stat.suffix, c ≠ ')' ∧ c ≠ '\r' := by
  intro c hc
  rcases List.mem_append.mp hc with hc | hc
  · rcases Fields.mem_intercalate hc with rfl | ⟨field, hfield, hchar⟩
    · decide
    · exact (plain_char ((stat.fields_chars field hfield).2 c hchar)).2
  · rw [List.mem_singleton.mp hc]
    decide

/-- The fields behind the name are split as they were written. -/
theorem split_suffix : Fields.split isSpace stat.suffix = stat.fields := by
  have hfields : ∀ field ∈ stat.fields, Fields.Field isSpace field := fun field hfield =>
    ⟨(stat.fields_chars field hfield).1,
      fun c hc => (plain_char ((stat.fields_chars field hfield).2 c hc)).1⟩
  have hblank : isSpace '\n' = true := by decide
  rw [suffix, Fields.split_append_cons hblank, Fields.split_intercalate hfields (by decide),
    Fields.split_nil, List.append_nil]

end Stat

/-- What stands behind a character that is no newline is translated by itself. -/
theorem newlinesFrom_append_cons {c : Char} (hreturn : c ≠ '\r') (hnewline : c ≠ '\n')
    (returned : Bool) (before after : Text) :
    newlinesFrom returned (before ++ c :: after) =
      newlinesFrom returned before ++ c :: newlinesFrom false after := by
  induction before generalizing returned with
  | nil => simp [newlinesFrom, hreturn, hnewline]
  | cons d before ih =>
      simp only [List.cons_append, newlinesFrom, ih]
      split
      · rfl
      · split
        · rfl
        · rfl

/-- A text without returns is not translated. -/
theorem newlinesFrom_plain {text : Text} (h : ∀ c ∈ text, c ≠ '\r') :
    newlinesFrom false text = text := by
  induction text with
  | nil => rfl
  | cons c text ih =>
      rw [newlinesFrom, if_neg (h c List.mem_cons_self), if_neg (by simp),
        ih fun d hd => h d (List.mem_cons_of_mem _ hd)]

variable (stat : Stat)

/-- The line is a text exactly if the name is. -/
theorem decodeStrict_line :
    Utf8.decodeStrict stat.line = (Utf8.decodeStrict stat.comm).map fun name =>
      (Nat.toDigits 10 stat.pid ++ " (".toList) ++ (name ++ ')' :: ' ' :: stat.suffix) :=
  Utf8.decodeStrict_between _ _ (by decide) _

/-- What is read of a line whose name is a text. -/
theorem readText_line {name : Text} (h : stat.comm = Utf8.encode name) :
    ∃ before, readText stat.line = .ok (before ++ ')' :: ' ' :: stat.suffix) := by
  have hplain : newlinesFrom false (' ' :: stat.suffix) = ' ' :: stat.suffix := by
    refine newlinesFrom_plain fun c hc => ?_
    rcases List.mem_cons.mp hc with rfl | hc
    · decide
    · exact (stat.suffix_chars c hc).2
  refine ⟨newlinesFrom false ((Nat.toDigits 10 stat.pid ++ " (".toList) ++ name), ?_⟩
  rw [readText, decodeStrict_line, h, Utf8.decodeStrict_encode, Option.map_some,
    ← List.append_assoc]
  simp only [newlinesFrom_append_cons (c := ')') (by decide) (by decide), hplain]

/-- A line whose name is no text cannot be read. -/
theorem readText_line_error (h : ∀ name, stat.comm ≠ Utf8.encode name) :
    readText stat.line = .error .unicodeDecodeError := by
  have hnone : Utf8.decodeStrict stat.comm = none := by
    rw [← Option.not_isSome_iff_eq_none, Utf8.decodeStrict_isSome]
    rintro ⟨name, hname⟩
    exact h name hname
  rw [readText, decodeStrict_line, hnone]
  rfl

/-- The last `") "` of a line is the one behind the name, so the fields behind it are
the fields of the kernel. -/
theorem fieldsBehind_line (before : Text) :
    fieldsBehind (before ++ ')' :: ' ' :: stat.suffix) = some stat.fields := by
  have hlast : ¬ [')', ' '] <:+: [' '] ++ stat.suffix := by
    intro hinfix
    have hmem : ')' ∈ ' ' :: stat.suffix := hinfix.subset List.mem_cons_self
    rcases List.mem_cons.mp hmem with heq | hsuffix
    · exact absurd heq (by decide)
    · exact (stat.suffix_chars _ hsuffix).1 rfl
  have hcut := Fields.rpartition_append hlast before
  rw [List.append_assoc] at hcut
  have htext : before ++ ')' :: ' ' :: stat.suffix = before ++ ([')', ' '] ++ stat.suffix) := rfl
  rw [fieldsBehind, htext]
  show (Fields.rpartition [')', ' '] _).map _ = _
  rw [hcut, Option.map_some, stat.split_suffix]

/-! ## What the probe finds -/

/-- The files of a process. -/
def filesOf (cmdline : Option Octets) : ProcFiles := ⟨some stat.line, cmdline⟩

variable {stat} {cmdline : Option Octets}

theorem identity_of_text {name : Text} (h : stat.comm = Utf8.encode name) (pid : Nat) :
    identity (filesOf stat cmdline) pid =
      .ok (some ⟨pid, some stat.startTime, argv0 (filesOf stat cmdline)⟩) := by
  obtain ⟨before, hread⟩ := readText_line stat h
  have hfield : stat.fields[19]? = some stat.startTime := by
    rw [Stat.fields, List.getElem?_cons_succ, List.getElem?_eq_getElem stat.numbers_length]
    rfl
  simp only [identity, filesOf, hread, fieldsBehind_line, bind, Except.bind, Option.bind,
    hfield]
  rfl

theorem isZombie_of_text {name : Text} (h : stat.comm = Utf8.encode name) :
    isZombie (filesOf stat cmdline) = .ok (decide (stat.state = 'Z')) := by
  obtain ⟨before, hread⟩ := readText_line stat h
  simp only [isZombie, filesOf, hread, fieldsBehind_line, bind, Except.bind, Stat.fields]
  simp [pure, Except.pure]

theorem identity_of_octets (h : ∀ name, stat.comm ≠ Utf8.encode name) (pid : Nat) :
    identity (filesOf stat cmdline) pid = .error .unicodeDecodeError := by
  simp only [identity, filesOf, readText_line_error stat h]
  rfl

theorem isZombie_of_octets (h : ∀ name, stat.comm ≠ Utf8.encode name) :
    isZombie (filesOf stat cmdline) = .error .unicodeDecodeError := by
  simp only [isZombie, filesOf, readText_line_error stat h]
  rfl

/-- What the two readers owe for a process: `identity` gives its pid and start time, so
two processes with one identity agree in both, and `isAlive` judges the letter of its
state, so a zombie is never alive. -/
structure ReadsProcess (stat : Stat) (cmdline : Option Octets) (pid : Nat) : Prop where
  identity_eq : ∃ found, identity (filesOf stat cmdline) pid = .ok (some found) ∧
    found.pid = pid ∧ found.startTime = some stat.startTime
  isAlive_eq : ∀ kill, isAlive (filesOf stat cmdline) kill =
    .ok (decide (stat.state ≠ 'Z') && kill.finds)
  apart : ∀ other cmdline' pid',
    identity (filesOf other cmdline') pid' = identity (filesOf stat cmdline) pid →
      pid' = pid ∧ other.startTime = stat.startTime
  zombie : stat.state = 'Z' → ∀ kill, isAlive (filesOf stat cmdline) kill = .ok false

/-- **The probe reads a process exactly if its name is UTF-8 text.**  Spaces,
parentheses, newlines and digits in the name do not matter. -/
theorem identity_iff (stat : Stat) (cmdline : Option Octets) (pid : Nat) :
    ReadsProcess stat cmdline pid ↔ ∃ name, stat.comm = Utf8.encode name := by
  constructor
  · rintro ⟨⟨found, hfound, -⟩, -⟩
    by_contra hnot
    rw [not_exists] at hnot
    rw [identity_of_octets hnot] at hfound
    cases hfound
  · rintro ⟨name, hname⟩
    have hidentity : identity (filesOf stat cmdline) pid = _ := identity_of_text hname pid
    have halive : ∀ kill, isAlive (filesOf stat cmdline) kill =
        .ok (decide (stat.state ≠ 'Z') && kill.finds) := by
      intro kill
      rw [isAlive, isZombie_of_text hname]
      by_cases hstate : stat.state = 'Z'
      · simp [hstate, bind, Except.bind, pure, Except.pure]
      · simp [hstate, bind, Except.bind, pure, Except.pure]
    refine ⟨⟨_, hidentity, rfl, rfl⟩, halive, ?_, ?_⟩
    · intro other cmdline' pid' hsame
      rw [hidentity] at hsame
      by_cases hother : ∃ name, other.comm = Utf8.encode name
      · obtain ⟨name', hname'⟩ := hother
        rw [identity_of_text hname'] at hsame
        injection hsame with hsame
        injection hsame with hsame
        injection hsame with hpid htime
        exact ⟨hpid, Option.some.inj htime⟩
      · rw [not_exists] at hother
        rw [identity_of_octets hother] at hsame
        cases hsame
    · intro hstate kill
      rw [halive, hstate]
      rfl

/-- A process whose name was cut behind fifteen octets, inside a character of two. -/
def cutName : Stat where
  pid := 4242
  comm := List.replicate 14 0x61 ++ [0xc3]
  state := 'S'
  state_letter := by decide
  numbers := List.replicate 49 ['7']
  numbers_length := by decide
  numbers_numeric := fun number hnumber => by
    rw [List.eq_of_mem_replicate hnumber]
    exact ⟨List.cons_ne_nil _ _, fun c hc => .inl (List.mem_singleton.mp hc ▸ rfl)⟩

/-- The kernel cuts a name wherever its fifteen octets end.  The probe of such a
process raises. -/
theorem cut_name_unread : ¬ ReadsProcess cutName none 4242 := by
  intro h
  obtain ⟨found, hfound, -⟩ := h.identity_eq
  have hraises : identity (filesOf cutName none) 4242 = .error .unicodeDecodeError :=
    identity_of_octets (fun name hname => by
      have hsome := Utf8.decodeStrict_isSome.mpr ⟨name, hname⟩
      revert hsome
      decide) 4242
  rw [hraises] at hfound
  cases hfound

end Kdive.Process

import Kdive.Lib.Checked
import Kdive.Lib.Utf8
import Kdive.Safety.Snippets

/-!
# The readiness marker on the console

A boot tails the log of the serial console until the readiness marker shows up,
the domain exits or the time is over.  `turn` is one iteration of that loop.
Each read takes what the log has gained and decodes it by itself, and the marker
is looked for in the last `snippetLimit` characters of what was decoded so far.

The log is a list of octets.  A `Poll` says what one iteration meets: the octets
that have arrived, the clock, the answer about the domain, and the octets that
arrive between the read and the last read after the domain was found gone.

`console_iff` compares the loop with a plain search of the decoded log.
-/

namespace Kdive.Console

/-! ## The loop -/

/-- The settings of `SubprocessLibvirtRunner`. -/
structure Runner where
  /-- How many characters a snippet keeps. -/
  snippetLimit : Nat := 4096
  /-- The ticks between two questions about the domain. -/
  statePollInterval : Int

/-- `_bounded_snippet`. -/
def Runner.boundedSnippet (runner : Runner) (text : Text) : Text :=
  lastChars runner.snippetLimit text

/-- How the loop ended. -/
inductive ConsoleStatus where
  | ready
  | timeout
  | exited
deriving DecidableEq, Repr

/-- `ConsoleResult`, without its times. -/
structure ConsoleResult where
  /-- How the loop ended. -/
  status : ConsoleStatus
  /-- The marker, when it was seen. -/
  matchedMarker : Option Text
  /-- The end of what was read. -/
  snippet : Text
deriving DecidableEq, Repr

/-- What `virsh domstate` gives. -/
structure Domstate where
  /-- It did not answer in time. -/
  timedOut : Bool
  /-- What it printed. -/
  stdout : Text
deriving DecidableEq, Repr

/-- `_domain_is_running`.  A question without an answer is no proof that the
guest stopped. -/
def domainIsRunning (lower : Text → Text) (result : Domstate) : Bool :=
  result.timedOut || decide ("running".toList <:+: lower result.stdout)

/-- What one iteration meets. -/
structure Poll where
  /-- The clock. -/
  now : Int
  /-- The octets the log has gained. -/
  arrived : List Nat
  /-- The answer about the domain, if it is asked for. -/
  domstate : Domstate
  /-- The octets that arrive after the read of an iteration that finds no domain. -/
  late : List Nat
deriving DecidableEq, Repr

/-- The log, and the variables of the loop. -/
structure Loop where
  /-- The log. -/
  log : List Nat
  /-- How much of it was read. -/
  position : Nat
  /-- The end of what was read. -/
  snippet : Text
  /-- When the domain is asked for again. -/
  nextStatePoll : Int
deriving DecidableEq, Repr

/-- The loop has ended. -/
structure Ended where
  /-- What it returns. -/
  result : ConsoleResult
  /-- The log at that moment. -/
  log : List Nat
deriving DecidableEq, Repr

/-- `_read_new_console_text`.  A log that is not there yet is an empty one. -/
def readNewConsoleText (log : List Nat) (position : Nat) : Text × Nat :=
  let data := log.drop position
  if data = [] then ([], position) else (Utf8.decode data, position + data.length)

/-- The loop at its start. -/
def Loop.start : Loop where
  log := []
  position := 0
  snippet := []
  nextStatePoll := 0

section

variable (runner : Runner) (lower : Text → Text) (deadline : Int) (readinessMarker : Text)

/-- One iteration: the loop goes on, or ends. -/
def turn (s : Loop) (p : Poll) : Except Ended Loop :=
  let log := s.log ++ p.arrived
  if deadline ≤ p.now then .error ⟨⟨.timeout, none, s.snippet⟩, log⟩
  else
    let (chunk, position) := readNewConsoleText log s.position
    if chunk ≠ [] then
      let snippet := runner.boundedSnippet (s.snippet ++ chunk)
      if readinessMarker <:+: snippet then
        .error ⟨⟨.ready, some readinessMarker, snippet⟩, log⟩
      else .ok ⟨log, position, snippet, s.nextStatePoll⟩
    else if s.nextStatePoll ≤ p.now then
      if domainIsRunning lower p.domstate then
        .ok ⟨log, position, s.snippet, p.now + runner.statePollInterval⟩
      else
        -- what the guest wrote last is read before the decision
        let log := log ++ p.late
        let (chunk, _) := readNewConsoleText log position
        let snippet := if chunk ≠ [] then runner.boundedSnippet (s.snippet ++ chunk) else s.snippet
        if readinessMarker <:+: snippet then
          .error ⟨⟨.ready, some readinessMarker, snippet⟩, log⟩
        else .error ⟨⟨.exited, none, snippet⟩, log⟩
    else .ok ⟨log, position, s.snippet, s.nextStatePoll⟩

/-- `stream_console`, over the iterations. -/
def streamConsole (polls : List Poll) : Except Ended Loop :=
  polls.foldlM (turn runner lower deadline readinessMarker) .start

end

/-! ## What a run reads -/

/-- The end of a longer text can be cut in two steps. -/
theorem lastChars_append {α : Type} (n : Nat) (a b : List α) :
    lastChars n (lastChars n a ++ b) = lastChars n (a ++ b) := by
  simp only [lastChars]
  split
  · rfl
  · rw [List.length_append, List.length_append, List.length_drop, List.drop_append, List.drop_append,
      List.drop_drop, List.length_drop]
    congr 2 <;> omega

theorem lastChars_lastChars {α : Type} (n : Nat) (a : List α) :
    lastChars n (lastChars n a) = lastChars n a := by
  simpa using lastChars_append n a []

/-- A read takes what the log has gained since the last one. -/
theorem readNewConsoleText_append (log new : List Nat) :
    readNewConsoleText (log ++ new) log.length = (Utf8.decode new, (log ++ new).length) := by
  rw [readNewConsoleText, List.drop_left, List.length_append]
  split
  · rename_i hnone
    rw [hnone]
    rfl
  · rfl

/-- The pieces that iterations which did not end the loop have read. -/
def heard (polls : List Poll) : List (List Nat) := polls.map Poll.arrived

/-- The pieces that the last iteration reads: none at the deadline, and what
arrived late only when there was nothing else. -/
def Poll.reads (deadline : Int) (p : Poll) : List (List Nat) :=
  if deadline ≤ p.now then [] else if p.arrived = [] then [p.late] else [p.arrived]

section

variable {runner : Runner} {lower : Text → Text} {deadline : Int} {readinessMarker : Text}

/-- What the loop knows after some iterations: it has read each piece by itself,
and the marker is not in the end of the text. -/
structure Inv (runner : Runner) (readinessMarker : Text) (before : List Poll) (s : Loop) :
    Prop where
  /-- The log is what has arrived. -/
  log : s.log = (heard before).flatten
  /-- All of it was read. -/
  position : s.position = s.log.length
  /-- The snippet is the end of the text. -/
  snippet : s.snippet = lastChars runner.snippetLimit ((heard before).flatMap Utf8.decode)
  /-- It was searched after every piece. -/
  unseen : (∃ q ∈ before, q.arrived ≠ []) → ¬ readinessMarker <:+: s.snippet

theorem Inv.start : Inv runner readinessMarker [] .start where
  log := rfl
  position := rfl
  snippet := by simp [Loop.start, heard, lastChars]
  unseen := by simp

/-- The end of the text after one more piece. -/
theorem Inv.hear {before : List Poll} {s : Loop} (hinv : Inv runner readinessMarker before s)
    (piece : List Nat) :
    lastChars runner.snippetLimit (s.snippet ++ Utf8.decode piece) =
      lastChars runner.snippetLimit ((heard before ++ [piece]).flatMap Utf8.decode) := by
  rw [hinv.snippet, lastChars_append, List.flatMap_append]
  simp

theorem heard_append (before : List Poll) (p : Poll) :
    heard (before ++ [p]) = heard before ++ [p.arrived] := by
  simp [heard]

/-- What one iteration does. -/
theorem turn_cases (lower : Text → Text) (deadline : Int) {before : List Poll} {s : Loop} (p : Poll)
    (hinv : Inv runner readinessMarker before s) :
    (deadline ≤ p.now ∧ turn runner lower deadline readinessMarker s p =
      .error ⟨⟨.timeout, none, s.snippet⟩, s.log ++ p.arrived⟩) ∨
    (p.now < deadline ∧ p.arrived ≠ [] ∧ turn runner lower deadline readinessMarker s p =
      let snippet := lastChars runner.snippetLimit (s.snippet ++ Utf8.decode p.arrived)
      if readinessMarker <:+: snippet then
        .error ⟨⟨.ready, some readinessMarker, snippet⟩, s.log ++ p.arrived⟩
      else .ok ⟨s.log ++ p.arrived, (s.log ++ p.arrived).length, snippet, s.nextStatePoll⟩) ∨
    (p.now < deadline ∧ p.arrived = [] ∧
      ((∃ next, turn runner lower deadline readinessMarker s p =
          .ok ⟨s.log, s.position, s.snippet, next⟩) ∨
        turn runner lower deadline readinessMarker s p =
          let snippet := lastChars runner.snippetLimit (s.snippet ++ Utf8.decode p.late)
          .error ⟨if readinessMarker <:+: snippet then ⟨.ready, some readinessMarker, snippet⟩
            else ⟨.exited, none, snippet⟩, s.log ++ p.late⟩)) := by
  simp only [turn, hinv.position, readNewConsoleText_append]
  by_cases hdeadline : deadline ≤ p.now
  · exact Or.inl ⟨hdeadline, if_pos hdeadline⟩
  · rw [if_neg hdeadline]
    have hbefore : p.now < deadline := Int.not_le.mp hdeadline
    refine Or.inr ?_
    by_cases hnone : p.arrived = []
    · refine Or.inr ⟨hbefore, hnone, ?_⟩
      have hchunk : ¬ Utf8.decode p.arrived ≠ [] := by simp [hnone, Utf8.decode_eq_nil]
      rw [if_neg hchunk, hnone, List.append_nil]
      split
      · split
        · exact Or.inl ⟨_, rfl⟩
        · refine Or.inr ?_
          -- a read of nothing leaves the snippet, which is its own end
          have hsnippet : (if Utf8.decode p.late ≠ [] then
              runner.boundedSnippet (s.snippet ++ Utf8.decode p.late) else s.snippet) =
              lastChars runner.snippetLimit (s.snippet ++ Utf8.decode p.late) := by
            split
            · rfl
            · rename_i hlate
              rw [not_not.mp hlate, List.append_nil, hinv.snippet, lastChars_lastChars]
          rw [hsnippet]
          split <;> rfl
      · exact Or.inl ⟨_, rfl⟩
    · have hchunk : Utf8.decode p.arrived ≠ [] := mt Utf8.decode_eq_nil.mp hnone
      rw [if_pos hchunk]
      exact Or.inl ⟨hbefore, hnone, rfl⟩

/-- An iteration that does not end the loop. -/
theorem Inv.turn {before : List Poll} {s s' : Loop} {p : Poll}
    (hinv : Inv runner readinessMarker before s)
    (h : turn runner lower deadline readinessMarker s p = .ok s') :
    Inv runner readinessMarker (before ++ [p]) s' := by
  rcases turn_cases lower deadline p hinv with
    ⟨-, heq⟩ | ⟨-, hsome, heq⟩ | ⟨-, hnone, ⟨next, heq⟩ | heq⟩
  · rw [heq] at h
    cases h
  · rw [heq] at h
    dsimp only at h
    split at h
    · cases h
    · rename_i hunseen
      cases h
      exact {
        log := by simp [hinv.log, heard]
        position := rfl
        snippet := by rw [hinv.hear, heard_append]
        unseen := fun _ => hunseen }
  · rw [heq] at h
    cases h
    exact {
      log := by simp [hinv.log, heard, hnone]
      position := hinv.position
      snippet := by simp [hinv.snippet, heard, hnone, Utf8.decode_eq_nil.mpr]
      unseen := by
        rintro ⟨q, hq, hsome⟩
        rcases List.mem_append.mp hq with hq | hq
        · exact hinv.unseen ⟨q, hq, hsome⟩
        · rw [List.mem_singleton.mp hq] at hsome
          exact absurd hnone hsome }
  · rw [heq] at h
    cases h

theorem Inv.run {before : List Poll} {s : Loop}
    (h : streamConsole runner lower deadline readinessMarker before = .ok s) :
    Inv runner readinessMarker before s := by
  induction before using List.reverseRecOn generalizing s with
  | nil =>
      cases h
      exact Inv.start
  | append_singleton before p ih =>
      rw [streamConsole, List.foldlM_append] at h
      obtain ⟨mid, hmid, h⟩ := Checked.bind_eq_ok.mp h
      obtain ⟨s', hs', h⟩ := Checked.bind_eq_ok.mp h
      cases h
      exact (ih hmid).turn hs'

/-! ## The plain search -/

/-- What a plain search would have: ready when the marker is in the decoded log,
and the snippet is the end of it. -/
def Plain (runner : Runner) (readinessMarker : Text) (ended : Ended) : Prop :=
  (ended.result.status = .ready ↔ readinessMarker <:+: Utf8.decode ended.log) ∧
    ended.result.snippet = lastChars runner.snippetLimit (Utf8.decode ended.log)

/-- The pieces that were read, each decoded by itself, end like the decoded log. -/
def SameEnd (runner : Runner) (deadline : Int) (before : List Poll) (last : Poll)
    (log : List Nat) : Prop :=
  lastChars runner.snippetLimit ((heard before ++ last.reads deadline).flatMap Utf8.decode) =
    lastChars runner.snippetLimit (Utf8.decode log)

/-- A marker that is in the log is in its end, and something was read before the
deadline. -/
def InSight (runner : Runner) (deadline : Int) (readinessMarker : Text) (before : List Poll)
    (last : Poll) (log : List Nat) : Prop :=
  readinessMarker <:+: Utf8.decode log →
    readinessMarker <:+: lastChars runner.snippetLimit (Utf8.decode log) ∧
      (last.now < deadline ∨ ∃ q ∈ before, q.arrived ≠ [])

instance (runner : Runner) (deadline : Int) (before : List Poll) (last : Poll) (log : List Nat) :
    Decidable (SameEnd runner deadline before last log) :=
  inferInstanceAs (Decidable (_ = _))

instance (runner : Runner) (deadline : Int) (readinessMarker : Text) (before : List Poll)
    (last : Poll) (log : List Nat) :
    Decidable (InSight runner deadline readinessMarker before last log) :=
  inferInstanceAs (Decidable (_ → _))

instance (runner : Runner) (readinessMarker : Text) (ended : Ended) :
    Decidable (Plain runner readinessMarker ended) :=
  inferInstanceAs (Decidable (_ ∧ _))

theorem lastChars_within {α : Type} (n : Nat) (s : List α) : lastChars n s <:+: s := by
  rw [lastChars]
  split
  · exact List.infix_rfl
  · exact (List.drop_suffix _ s).isInfix

/-- How an iteration ends the loop. -/
theorem Inv.ended {before : List Poll} {s : Loop} {last : Poll} {ended : Ended}
    (hinv : Inv runner readinessMarker before s)
    (h : Console.turn runner lower deadline readinessMarker s last = .error ended) :
    ended.result.snippet = lastChars runner.snippetLimit
        ((heard before ++ last.reads deadline).flatMap Utf8.decode) ∧
      (ended.result.status = .ready ↔ readinessMarker <:+: ended.result.snippet ∧
        (last.now < deadline ∨ ∃ q ∈ before, q.arrived ≠ [])) ∧
      ended.log = (heard before ++ last.reads deadline).flatten ++
        (if deadline ≤ last.now then last.arrived else []) := by
  rcases turn_cases lower deadline last hinv with
    ⟨hdeadline, heq⟩ | ⟨hbefore, hsome, heq⟩ | ⟨hbefore, hnone, ⟨next, heq⟩ | heq⟩
  · rw [heq] at h
    cases h
    have hreads : last.reads deadline = [] := if_pos hdeadline
    refine ⟨by simpa [hreads] using hinv.snippet, ?_, by simp [hreads, hdeadline, hinv.log]⟩
    constructor
    · intro hready
      cases hready
    · rintro ⟨hseen, hnow | hread⟩
      · omega
      · exact absurd hseen (hinv.unseen hread)
  · have hreads : last.reads deadline = [last.arrived] := by
      rw [Poll.reads, if_neg (by omega), if_neg hsome]
    rw [heq] at h
    dsimp only at h
    split at h
    · rename_i hseen
      cases h
      exact ⟨by rw [hinv.hear, hreads], ⟨fun _ => ⟨hseen, Or.inl hbefore⟩, fun _ => rfl⟩,
        by simp [hreads, hinv.log, Int.not_le.mpr hbefore]⟩
    · cases h
  · rw [heq] at h
    cases h
  · have hreads : last.reads deadline = [last.late] := by
      rw [Poll.reads, if_neg (by omega), if_pos hnone]
    rw [heq] at h
    cases h
    refine ⟨?_, ?_, by simp [hreads, hinv.log, Int.not_le.mpr hbefore]⟩
    · rw [hreads, ← hinv.hear]
      split <;> rfl
    · dsimp only
      split
      · rename_i hseen
        exact ⟨fun _ => ⟨hseen, Or.inl hbefore⟩, fun _ => rfl⟩
      · rename_i hunseen
        exact ⟨fun hready => (nomatch hready), fun h => absurd h.1 hunseen⟩

/-- The loop does what a plain search of the decoded log does exactly when the
pieces it read end like the log, and the marker is in that end if it is there at
all.  The pieces end like the log when none begins inside a character and the
deadline leaves nothing unread. -/
theorem console_iff {before : List Poll} {s : Loop} {last : Poll} {ended : Ended}
    (hgoing : streamConsole runner lower deadline readinessMarker before = .ok s)
    (hended : Console.turn runner lower deadline readinessMarker s last = .error ended) :
    (Plain runner readinessMarker ended ↔
      SameEnd runner deadline before last ended.log ∧
        InSight runner deadline readinessMarker before last ended.log) ∧
    (Utf8.Whole (heard before ++ last.reads deadline) →
      (deadline ≤ last.now → last.arrived = []) →
        SameEnd runner deadline before last ended.log) := by
  obtain ⟨hsnippet, hready, hlog⟩ := (Inv.run hgoing).ended hended
  constructor
  · rw [Plain, hsnippet, and_comm]
    refine and_congr_right fun hsame => ?_
    rw [hready, hsnippet, hsame, InSight]
    constructor
    · exact fun h => h.mpr
    · intro h
      exact ⟨fun hseen => hseen.1.trans (lastChars_within _ _), h⟩
  · intro hwhole hread
    have hunread : (if deadline ≤ last.now then last.arrived else []) = [] := by
      split
      · exact hread ‹_›
      · rfl
    rw [SameEnd, hlog, hunread, List.append_nil, Utf8.decode_flatten hwhole]

end

/-! ## Two runs -/

/-- A runner with a short snippet. -/
def shortRunner : Runner := ⟨8, 1⟩

/-- An iteration that meets only output. -/
def output (now : Int) (text : String) : Poll :=
  ⟨now, Utf8.encode text.toList, ⟨false, "running".toList⟩, []⟩

/-- A marker cut by a read is found, and the loop has the end of the log. -/
theorem cut_marker_found :
    Plain shortRunner "ready".toList
      ⟨⟨.ready, some "ready".toList, "t: ready".toList⟩, Utf8.encode "boot: ready".toList⟩ :=
  (@console_iff shortRunner id 9 "ready".toList [output 0 "boot: rea"]
    ⟨Utf8.encode "boot: rea".toList, 9, "oot: rea".toList, 0⟩ (output 1 "dy")
    ⟨⟨.ready, some "ready".toList, "t: ready".toList⟩, Utf8.encode "boot: ready".toList⟩
    (by decide +kernel) (by decide +kernel)).1.mpr ⟨by decide +kernel, by decide +kernel⟩

/-- A marker with more than a snippet behind it in the same read is missed, and
the loop goes on to the deadline. -/
theorem marker_behind_output_missed :
    "ready".toList.length ≤ shortRunner.snippetLimit ∧
      ∃ ended, streamConsole shortRunner id 9 "ready".toList
          [output 0 "ready\nlogin: root", output 9 ""] = .error ended ∧
        ended.result.status = .timeout ∧
        "ready".toList <:+: Utf8.decode ended.log ∧
        ¬ Plain shortRunner "ready".toList ended :=
  ⟨by decide, ⟨⟨.timeout, none, "in: root".toList⟩, Utf8.encode "ready\nlogin: root".toList⟩,
    by decide +kernel, rfl, by decide +kernel, by decide +kernel⟩

end Kdive.Console

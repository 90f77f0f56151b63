import Mathlib.Algebra.BigOperators.Group.Finset.Basic
import Mathlib.Algebra.Order.BigOperators.Group.Finset
import Kdive.Postmortem.CrashScript

/-!
# The outputs of a crash batch

The files of a batch are read back in the order of the commands.  A file is read up to the cap
of a command and up to what is left of the cap of all of them.  What is left is counted in the
octets of the text a file was read as, and those can be more than the octets of the file.

*The limit of a file.*  `prlimit` lets a command write as many octets as the cap of a command,
so a file never has more, and one that was cut is read whole.

*Filled.*  As long as the texts of the files stay below the cap of all, `running` is their sum;
from then on it stays above the cap (`running_spec`).
-/

namespace Kdive.Crash

open scoped BigOperators

/-- The octets of a file. -/
abbrev Octets := List Nat

/-- `CRASH_PER_CMD_CAP`. -/
def CRASH_PER_CMD_CAP : Nat := 1 * 1024 * 1024

/-- `CRASH_STDOUT_CAP`. -/
def CRASH_STDOUT_CAP : Nat := 8 * 1024 * 1024

inductive Capture where
  | ok
  | output_truncated
  | not_captured
deriving DecidableEq

/-- A segment, with the octets its text was read from. -/
structure Segment where
  command : Text
  octets : Option Octets
  capture : Capture
deriving DecidableEq

/-- The `raw` of a segment. -/
def Segment.raw (segment : Segment) : Option Text := segment.octets.map Utf8.decode

/-- `_read_capped`, the octets that are decoded and whether there were more. -/
def readCapped (data : Octets) (cap : Nat) : Octets × Bool :=
  if cap < (data.take (cap + 1)).length then ((data.take (cap + 1)).take cap, true)
  else (data.take (cap + 1), false)

/-- What a text counts for. -/
def reencoded (octets : Octets) : Nat := (Utf8.encode (Utf8.decode octets)).length

/-- The body of the loop: the segment of a command and the count behind it. -/
def readSegment (perCmdCap totalCap running : Nat) (command : Text) (file : Option Octets) :
    Segment × Nat :=
  match file with
  | none => (⟨command, none, .not_captured⟩, running)
  | some data =>
      if totalCap ≤ running then (⟨command, none, .output_truncated⟩, running)
      else
        match readCapped data (min perCmdCap (totalCap - running)) with
        | (octets, hitCap) =>
            (⟨command, some octets, if hitCap then .output_truncated else .ok⟩,
              running + reencoded octets)

/-- `collect_command_outputs` from a command on.  Nothing is truncated but what is labelled so. -/
def collectFrom (file : Nat → Option Octets) (perCmdCap totalCap : Nat) :
    Nat → Nat → List Text → List Segment × Bool
  | _, _, [] => ([], false)
  | index, running, command :: commands =>
      match readSegment perCmdCap totalCap running command (file index) with
      | (segment, running) =>
          match collectFrom file perCmdCap totalCap (index + 1) running commands with
          | (segments, truncated) =>
              (segment :: segments, segment.capture = .output_truncated || truncated)

/-- `collect_command_outputs` -/
def collectCommandOutputs (files : Text → Option Octets) (outputDir : Text) (commands : List Text)
    (perCmdCap totalCap : Nat) : List Segment × Bool :=
  collectFrom (fun index => files (inDir outputDir (redirectFilename index))) perCmdCap totalCap
    0 0 commands

/-! ## The count at each command -/

section Loop

variable (file : Nat → Option Octets) (cap total : Nat)

/-- The count before a command. -/
def running (start count : Nat) : Nat → Nat
  | 0 => count
  | i + 1 => (readSegment cap total (running start count i) [] (file (start + i))).2

theorem readSegment_snd (count : Nat) (command : Text) (data : Option Octets) :
    (readSegment cap total count command data).2 = (readSegment cap total count [] data).2 := by
  cases data with
  | none => rfl
  | some data =>
      rw [readSegment, readSegment]
      split <;> rfl

theorem running_shift (start count i : Nat) (command : Text) :
    running file cap total (start + 1)
        (readSegment cap total count command (file start)).2 i =
      running file cap total start count (i + 1) := by
  induction i with
  | zero => rw [running, running, running, readSegment_snd, Nat.add_zero]
  | succ i ih =>
      have hindex : start + 1 + i = start + (i + 1) := by omega
      rw [running, ih, hindex]
      rfl

/-- Each segment is read with the count before it. -/
theorem getElem?_collectFrom (commands : List Text) (start count i : Nat) :
    (collectFrom file cap total start count commands).1[i]? =
      (commands[i]?).map fun command =>
        (readSegment cap total (running file cap total start count i) command (file (start + i))).1 := by
  induction commands generalizing start count i with
  | nil => simp [collectFrom]
  | cons command commands ih =>
      cases i with
      | zero => rfl
      | succ i =>
          have hrest := ih (start + 1)
            (readSegment cap total count command (file start)).2 i
          rw [running_shift, Nat.add_right_comm, Nat.add_assoc] at hrest
          exact hrest

/-- The flag is set exactly if a segment is labelled as cut. -/
theorem collectFrom_truncated (commands : List Text) (start count : Nat) :
    (collectFrom file cap total start count commands).2 = true ↔
      ∃ segment ∈ (collectFrom file cap total start count commands).1,
        segment.capture = .output_truncated := by
  induction commands generalizing start count with
  | nil => simp [collectFrom]
  | cons command commands ih =>
      rw [collectFrom]
      simp [ih]

/-- The octets of the text of a file. -/
def textSize (data : Option Octets) : Nat := (data.map reencoded).getD 0

/-- The octets of a file. -/
def byteSize (data : Option Octets) : Nat := (data.map List.length).getD 0

/-- The octets of the text of a segment. -/
def Segment.size (segment : Segment) : Nat := byteSize segment.octets

theorem byteSize_le_textSize (data : Option Octets) : byteSize data ≤ textSize data := by
  cases data with
  | none => exact Nat.le_refl _
  | some data => exact Utf8.length_le_encode_decode data

/-- The octets that are read of a file. -/
def kept (count : Nat) (data : Octets) : Octets := data.take (min cap (total - count))

theorem readCapped_eq (data : Octets) (cap : Nat) :
    readCapped data cap = (data.take cap, decide (cap < data.length)) := by
  rw [readCapped]
  split
  · next h =>
      rw [List.length_take] at h
      rw [List.take_take, Nat.min_eq_left (by omega), decide_eq_true (by omega)]
  · next h =>
      rw [List.length_take] at h
      rw [List.take_of_length_le (by omega), List.take_of_length_le (by omega),
        decide_eq_false (by omega)]

/-- What becomes of the file of a command. -/
theorem readSegment_some (count : Nat) (command : Text) (data : Octets) :
    readSegment cap total count command (some data) =
      if total ≤ count then (⟨command, none, .output_truncated⟩, count)
      else
        (⟨command, some (kept cap total count data),
          if min cap (total - count) < data.length then .output_truncated else .ok⟩,
          count + reencoded (kept cap total count data)) := by
  rw [readSegment]
  split
  · rfl
  · simp [readCapped_eq, kept]

theorem running_succ (i : Nat) :
    running file cap total 0 0 (i + 1) =
      (readSegment cap total (running file cap total 0 0 i) [] (file i)).2 := by
  rw [running, Nat.zero_add]

/-- A file is no longer than the cap of a command. -/
def Limited : Prop := ∀ i data, file i = some data → data.length ≤ cap

/-- The texts of the files before a command. -/
def textBefore (i : Nat) : Nat := ∑ j ∈ Finset.range i, textSize (file j)

/-- The octets of the files before a command. -/
def bytesBefore (i : Nat) : Nat := ∑ j ∈ Finset.range i, byteSize (file j)

theorem textBefore_succ (i : Nat) : textBefore file (i + 1) = textBefore file i + textSize (file i) :=
  Finset.sum_range_succ _ _

theorem bytesBefore_succ (i : Nat) :
    bytesBefore file (i + 1) = bytesBefore file i + byteSize (file i) :=
  Finset.sum_range_succ _ _

theorem bytesBefore_le (i : Nat) : bytesBefore file i ≤ textBefore file i :=
  Finset.sum_le_sum fun j _ => byteSize_le_textSize (file j)

variable {file cap total}

/-- The count is the sum of the texts until they fill the cap of all. -/
theorem running_spec (hlimited : Limited file cap) (i : Nat) :
    (textBefore file i < total → running file cap total 0 0 i = textBefore file i) ∧
      (total ≤ textBefore file i → total ≤ running file cap total 0 0 i) := by
  induction i with
  | zero => exact ⟨fun _ => rfl, id⟩
  | succ i ih =>
      obtain ⟨hbelow, hfull⟩ := ih
      rw [running_succ, textBefore_succ]
      cases hfile : file i with
      | none => exact ⟨hbelow, hfull⟩
      | some data =>
          have hsize := Utf8.length_le_encode_decode data
          have hcap := hlimited i data hfile
          have htext : textSize (some data) = reencoded data := rfl
          rw [readSegment_some, htext]
          by_cases hroom : textBefore file i < total
          · rw [hbelow hroom, if_neg (by omega)]
            dsimp only
            by_cases hfits : data.length ≤ total - textBefore file i
            · -- the file is read whole
              have hwhole : kept cap total (textBefore file i) data = data :=
                List.take_of_length_le (by omega)
              rw [hwhole]
              exact ⟨fun _ => rfl, id⟩
            · -- what is read of the file fills the cap
              have hkept := Utf8.length_le_encode_decode (kept cap total (textBefore file i) data)
              rw [kept, List.length_take] at hkept
              rw [reencoded, reencoded, kept]
              constructor <;> intro _ <;> omega
          · have hcount := hfull (by omega)
            rw [if_pos hcount]
            constructor
            · intro h
              omega
            · exact fun _ => hcount

theorem running_lt_iff (hlimited : Limited file cap) (i : Nat) :
    running file cap total 0 0 i < total ↔ textBefore file i < total := by
  obtain ⟨hbelow, hfull⟩ := @running_spec file cap total hlimited i
  constructor
  · intro h
    by_contra hcount
    have := hfull (by omega)
    omega
  · intro h
    rwa [hbelow h]

/-! ## The segments -/

/-- The octets that are read before a command. -/
def keptBefore (file : Nat → Option Octets) (cap total : Nat) (i : Nat) : Nat :=
  ∑ j ∈ Finset.range i,
    (readSegment cap total (running file cap total 0 0 j) [] (file j)).1.size

theorem keptBefore_succ (i : Nat) :
    keptBefore file cap total (i + 1) = keptBefore file cap total i +
      (readSegment cap total (running file cap total 0 0 i) [] (file i)).1.size :=
  Finset.sum_range_succ _ _

/-- What is read of a file is no more than the file, and no more than what is left. -/
theorem readSegment_size_le (cap total count : Nat) (command : Text) (data : Option Octets) :
    (readSegment cap total count command data).1.size ≤ byteSize data ∧
      (readSegment cap total count command data).1.size ≤ total - count ∧
      count + (readSegment cap total count command data).1.size ≤
        (readSegment cap total count command data).2 := by
  cases data with
  | none => simp [readSegment, Segment.size, byteSize]
  | some data =>
      rw [readSegment_some]
      split
      · simp [Segment.size, byteSize]
      · have hsize := Utf8.length_le_encode_decode (kept cap total count data)
        simp [Segment.size, byteSize, reencoded, kept] at hsize ⊢
        omega

/-- All that is read stays below the cap of all and below the count. -/
theorem keptBefore_le (i : Nat) :
    keptBefore file cap total i ≤ total ∧
      keptBefore file cap total i ≤ running file cap total 0 0 i := by
  induction i with
  | zero => exact ⟨Nat.zero_le _, Nat.zero_le _⟩
  | succ i ih =>
      obtain ⟨-, hleft, hcount⟩ :=
        readSegment_size_le cap total (running file cap total 0 0 i) [] (file i)
      rw [keptBefore_succ, running_succ]
      omega

theorem keptBefore_le_bytes (i : Nat) : keptBefore file cap total i ≤ bytesBefore file i :=
  Finset.sum_le_sum fun _ _ => (readSegment_size_le _ _ _ _ _).1

theorem keptBefore_mono {i j : Nat} (h : i ≤ j) :
    keptBefore file cap total i ≤ keptBefore file cap total j :=
  Finset.sum_le_sum_of_subset (Finset.range_subset_range.mpr h)

theorem textBefore_eq_bytes {m : Nat} (hplain : ∀ l < m, textSize (file l) = byteSize (file l)) :
    textBefore file m = bytesBefore file m :=
  Finset.sum_congr rfl fun l hl => hplain l (Finset.mem_range.mp hl)

/-- What is read of a file within the cap of a command. -/
theorem readSegment_size (hlimited : Limited file cap) (i count : Nat) :
    (readSegment cap total count [] (file i)).1.size = min (total - count) (byteSize (file i)) := by
  cases hfile : file i with
  | none => simp [readSegment, Segment.size, byteSize]
  | some data =>
      have hcap := hlimited i data hfile
      rw [readSegment_some]
      split
      · simp [Segment.size, byteSize]
        omega
      · simp [Segment.size, byteSize, kept]
        omega

/-- Files that do not grow are read until they fill the cap of all. -/
theorem keptBefore_eq (hlimited : Limited file cap) {m : Nat}
    (hplain : ∀ l < m, textSize (file l) = byteSize (file l)) :
    ∀ i ≤ m + 1, keptBefore file cap total i = min total (bytesBefore file i) := by
  intro i
  induction i with
  | zero => simp [keptBefore, bytesBefore]
  | succ i ih =>
      intro hi
      have hkept := ih (by omega)
      have htext := textBefore_eq_bytes fun l hl => hplain l (Nat.lt_of_lt_of_le hl (by omega : i ≤ m))
      have hlt : running file cap total 0 0 i < total ↔ textBefore file i < total :=
        running_lt_iff hlimited i
      rw [keptBefore_succ, bytesBefore_succ, hkept, readSegment_size hlimited]
      by_cases hroom : textBefore file i < total
      · rw [(running_spec hlimited i).1 hroom, htext]
        omega
      · omega

/-- What is read reaches the cap of all only behind files that do not grow. -/
theorem exists_of_total_le (hlimited : Limited file cap) (htotal : 0 < total) {i : Nat}
    (h : total ≤ keptBefore file cap total i) :
    ∃ m < i, (∀ l < m, textSize (file l) = byteSize (file l)) ∧
      total ≤ bytesBefore file (m + 1) := by
  induction i with
  | zero => simp [keptBefore] at h; omega
  | succ i ih =>
      by_cases hbefore : total ≤ keptBefore file cap total i
      · obtain ⟨m, hm, hplain, hbytes⟩ := ih hbefore
        exact ⟨m, by omega, hplain, hbytes⟩
      · -- the file at `i` fills what is left, so nothing was lost before it
        have hlt : running file cap total 0 0 i < total ↔ textBefore file i < total :=
          running_lt_iff hlimited i
        have hsucc : keptBefore file cap total (i + 1) = _ := keptBefore_succ i
        have hkept : keptBefore file cap total i ≤ bytesBefore file i := keptBefore_le_bytes i
        have hbytes : keptBefore file cap total (i + 1) ≤ bytesBefore file (i + 1) :=
          keptBefore_le_bytes (i + 1)
        have htext := bytesBefore_le file i
        rw [readSegment_size hlimited] at hsucc
        have hcount := (running_spec hlimited i).1 (hlt.mp (by omega))
        have heq : bytesBefore file i = textBefore file i := by omega
        have hplain := (Finset.sum_eq_sum_iff_of_le fun j _ => byteSize_le_textSize (file j)).mp heq
        exact ⟨i, by omega, fun l hl => (hplain l (Finset.mem_range.mpr hl)).symm, by omega⟩

end Loop

/-! ## What the labels say -/

/-- Whether a batch is reported as it was.  A command with an output has a segment, which is
labelled as whole exactly if it was read from all of the output. -/
structure Reported (commands : List Text) (outputs : Nat → Option Octets) (total : Nat)
    (collected : List Segment × Bool) : Prop where
  each : collected.1.map Segment.command = commands
  missing : ∀ i segment, collected.1[i]? = some segment → outputs i = none →
    segment.capture = .not_captured ∧ segment.octets = none
  whole : ∀ i segment output, collected.1[i]? = some segment → outputs i = some output →
    (segment.capture = .ok ↔ segment.octets = some output)
  cut : ∀ i segment output, collected.1[i]? = some segment → outputs i = some output →
    segment.octets ≠ some output → segment.capture = .output_truncated ∧ collected.2 = true
  within : (collected.1.map Segment.size).sum ≤ total
  /-- A segment is withheld only if what was read before it is all that may be read. -/
  withheld : ∀ i segment output, collected.1[i]? = some segment → outputs i = some output →
    segment.octets = none → total ≤ ((collected.1.take i).map Segment.size).sum

/-- The file of an output. -/
def limitedFile (cap : Nat) (outputs : Nat → Option Octets) (i : Nat) : Option Octets :=
  (outputs i).map (List.take cap)

/-- No output that was cut is read whole, and the texts do not fill the cap of all before the
files do. -/
structure Counted (count : Nat) (outputs : Nat → Option Octets) (cap total : Nat) : Prop where
  cut : ∀ i < count, ∀ output, outputs i = some output → cap < output.length →
    total < textBefore (limitedFile cap outputs) i + cap
  filled : ∀ i < count, outputs i ≠ none → total ≤ textBefore (limitedFile cap outputs) i →
    ∃ m < i, (∀ l < m, textSize (limitedFile cap outputs l) = byteSize (limitedFile cap outputs l)) ∧
      total ≤ bytesBefore (limitedFile cap outputs) (m + 1)

theorem limited_limitedFile (cap : Nat) (outputs : Nat → Option Octets) :
    Limited (limitedFile cap outputs) cap := by
  intro i data hdata
  obtain ⟨output, -, rfl⟩ := Option.map_eq_some_iff.mp hdata
  rw [List.length_take]
  exact Nat.min_le_left _ _

section Labels

variable {commands : List Text} {outputs : Nat → Option Octets} {cap total : Nat}

/-- A segment and the count it is read with. -/
theorem segment_of_getElem? {file : Nat → Option Octets} {i : Nat} {segment : Segment}
    (h : (collectFrom file cap total 0 0 commands).1[i]? = some segment) :
    ∃ command, commands[i]? = some command ∧
      segment = (readSegment cap total (running file cap total 0 0 i) command (file i)).1 := by
  rw [getElem?_collectFrom, Nat.zero_add] at h
  obtain ⟨command, hcommand, rfl⟩ := Option.map_eq_some_iff.mp h
  exact ⟨command, hcommand, rfl⟩

theorem readSegment_size_eq (count : Nat) (command : Text) (data : Option Octets) :
    (readSegment cap total count command data).1.size =
      (readSegment cap total count [] data).1.size := by
  cases data with
  | none => rfl
  | some data =>
      rw [readSegment, readSegment]
      split <;> rfl

theorem readSegment_command (cap total count : Nat) (command : Text) (data : Option Octets) :
    (readSegment cap total count command data).1.command = command := by
  cases data with
  | none => rfl
  | some data =>
      rw [readSegment]
      split <;> rfl

theorem length_collectFrom (file : Nat → Option Octets) (start count : Nat) :
    (collectFrom file cap total start count commands).1.length = commands.length := by
  induction commands generalizing start count with
  | nil => rfl
  | cons command commands ih => exact congrArg Nat.succ (ih _ _)

/-- What is read before a command is the sum of the segments before it. -/
theorem sum_take_size (file : Nat → Option Octets) {i : Nat} (hi : i ≤ commands.length) :
    (((collectFrom file cap total 0 0 commands).1.take i).map Segment.size).sum =
      keptBefore file cap total i := by
  induction i with
  | zero => rfl
  | succ i ih =>
      have hlt : i < commands.length := hi
      rw [List.take_add_one, List.map_append, List.sum_append, ih (by omega), getElem?_collectFrom,
        List.getElem?_eq_getElem hlt, keptBefore_succ, Nat.zero_add]
      simp [readSegment_size_eq _ commands[i]]

/-- What a command with an output is labelled. -/
theorem segment_cases {i : Nat} {segment : Segment} {output : Octets}
    (h : (collectFrom (limitedFile cap outputs) cap total 0 0 commands).1[i]? = some segment)
    (houtput : outputs i = some output) :
    (total ≤ textBefore (limitedFile cap outputs) i ∧ segment.octets = none ∧
        segment.capture = .output_truncated) ∨
      (textBefore (limitedFile cap outputs) i < total ∧
        segment.octets =
          some (output.take (min cap (total - textBefore (limitedFile cap outputs) i))) ∧
        segment.capture =
          if min cap (total - textBefore (limitedFile cap outputs) i) < min cap output.length then
            .output_truncated else .ok) := by
  obtain ⟨command, -, rfl⟩ := segment_of_getElem? h
  obtain ⟨hbelow, hfull⟩ :=
    @running_spec (limitedFile cap outputs) cap total (limited_limitedFile cap outputs) i
  have hfile : limitedFile cap outputs i = some (output.take cap) := by
    rw [limitedFile, houtput]
    rfl
  rw [hfile, readSegment_some]
  by_cases hroom : textBefore (limitedFile cap outputs) i < total
  · rw [hbelow hroom, if_neg (by omega)]
    refine .inr ⟨hroom, ?_, ?_⟩
    · rw [kept, List.take_take, Nat.min_assoc, Nat.min_comm _ cap, ← Nat.min_assoc, Nat.min_self]
    · rw [List.length_take]
  · rw [if_pos (hfull (by omega))]
    exact .inl ⟨by omega, rfl, rfl⟩

/-- A batch is reported as it was exactly if its outputs were counted. -/
theorem reported_iff_counted (hcap : 0 < cap) (htotal : 0 < total) :
    Reported commands outputs total
        (collectFrom (limitedFile cap outputs) cap total 0 0 commands) ↔
      Counted commands.length outputs cap total := by
  have hlimited := limited_limitedFile cap outputs
  constructor
  · intro h
    constructor
    · intro i hi output houtput hlong
      by_contra hroom
      have hsegment : (collectFrom (limitedFile cap outputs) cap total 0 0 commands).1[i]? = _ :=
        getElem?_collectFrom _ _ _ _ _ _ _
      rw [List.getElem?_eq_getElem hi] at hsegment
      rcases segment_cases hsegment houtput with ⟨hfull, -⟩ | ⟨-, hoctets, hcapture⟩
      · omega
      · -- the file is at its cap, and is taken for the whole output
        rw [if_neg (by omega)] at hcapture
        have hwhole := (h.whole i _ output hsegment houtput).mp hcapture
        rw [hoctets, Option.some.injEq] at hwhole
        have hlength := congrArg List.length hwhole
        rw [List.length_take] at hlength
        omega
    · intro i hi houtput hfull
      obtain ⟨output, houtput⟩ := Option.ne_none_iff_exists'.mp houtput
      have hsegment : (collectFrom (limitedFile cap outputs) cap total 0 0 commands).1[i]? = _ :=
        getElem?_collectFrom _ _ _ _ _ _ _
      rw [List.getElem?_eq_getElem hi] at hsegment
      rcases segment_cases hsegment houtput with ⟨-, hoctets, -⟩ | ⟨hroom, -⟩
      · have hkept := h.withheld i _ output hsegment houtput hoctets
        rw [sum_take_size _ (by omega)] at hkept
        exact exists_of_total_le hlimited htotal hkept
      · omega
  · intro h
    have hwhole : ∀ i segment output,
        (collectFrom (limitedFile cap outputs) cap total 0 0 commands).1[i]? = some segment →
        outputs i = some output → (segment.capture = .ok ↔ segment.octets = some output) := by
      intro i segment output hsegment houtput
      rcases segment_cases hsegment houtput with ⟨-, hoctets, hcapture⟩ | ⟨hroom, hoctets, hcapture⟩
      · simp [hoctets, hcapture]
      · obtain ⟨command, hcommand, -⟩ := segment_of_getElem? hsegment
        have hi := (List.getElem?_eq_some_iff.mp hcommand).1
        have hcut := h.cut i hi output houtput
        rw [hoctets, hcapture, Option.some.injEq, List.take_eq_self_iff]
        split
        · next hhit =>
            simp only [reduceCtorEq, false_iff]
            omega
        · next hhit =>
            simp only [true_iff]
            by_cases hlong : cap < output.length
            · have := hcut hlong
              omega
            · omega
    constructor
    · apply List.ext_getElem?
      intro i
      rw [List.getElem?_map, getElem?_collectFrom, Option.map_map]
      cases commands[i]? with
      | none => rfl
      | some command => exact congrArg some (readSegment_command _ _ _ _ _)
    · intro i segment hsegment houtput
      obtain ⟨command, -, rfl⟩ := segment_of_getElem? hsegment
      rw [limitedFile, houtput]
      exact ⟨rfl, rfl⟩
    · exact hwhole
    · intro i segment output hsegment houtput hne
      have hnot : segment.capture ≠ .ok := fun hok =>
        hne ((hwhole i segment output hsegment houtput).mp hok)
      have hcut : segment.capture = .output_truncated := by
        rcases segment_cases hsegment houtput with ⟨-, -, hcapture⟩ | ⟨-, -, hcapture⟩
        · exact hcapture
        · split at hcapture
          · exact hcapture
          · exact absurd hcapture hnot
      exact ⟨hcut, (collectFrom_truncated _ _ _ _ _ _).mpr
        ⟨segment, List.mem_of_getElem? hsegment, hcut⟩⟩
    · have hall : (((collectFrom (limitedFile cap outputs) cap total 0 0 commands).1.take
          commands.length).map Segment.size).sum = _ := sum_take_size _ (Nat.le_refl _)
      rw [List.take_of_length_le (by rw [length_collectFrom])] at hall
      rw [hall]
      exact (keptBefore_le _).1
    · intro i segment output hsegment houtput hoctets
      obtain ⟨command, hcommand, -⟩ := segment_of_getElem? hsegment
      have hi := (List.getElem?_eq_some_iff.mp hcommand).1
      have hfull : total ≤ textBefore (limitedFile cap outputs) i := by
        rcases segment_cases hsegment houtput with ⟨hfull, -⟩ | ⟨-, hread, -⟩
        · exact hfull
        · rw [hoctets] at hread
          cases hread
      obtain ⟨m, hm, hplain, hbytes⟩ := h.filled i hi (by simp [houtput]) hfull
      have hkept : keptBefore (limitedFile cap outputs) cap total (m + 1) = _ :=
        keptBefore_eq hlimited hplain (m + 1) (Nat.le_refl _)
      have hmono : keptBefore (limitedFile cap outputs) cap total (m + 1) ≤ _ := keptBefore_mono hm
      rw [sum_take_size _ (by omega)]
      omega

theorem collectFrom_congr {file other : Nat → Option Octets} {start count : Nat}
    (h : ∀ i < commands.length, file (start + i) = other (start + i)) :
    collectFrom file cap total start count commands =
      collectFrom other cap total start count commands := by
  induction commands generalizing start count with
  | nil => rfl
  | cons command commands ih =>
      have hfirst : file start = other start := h 0 (Nat.succ_pos _)
      have hrest : ∀ i < commands.length, file (start + 1 + i) = other (start + 1 + i) := by
        intro i hi
        rw [Nat.add_assoc, Nat.add_comm 1 i]
        exact h (i + 1) (Nat.succ_lt_succ hi)
      rw [collectFrom, collectFrom, hfirst]
      simp only [ih hrest]

end Labels

/-- The outputs of a batch whose files were limited by `prlimit` are reported as they were
exactly if they were counted. -/
theorem outputs_reported_iff {files : Text → Option Octets} {outputDir : Text}
    {commands : List Text} {outputs : Nat → Option Octets}
    (hfiles : ∀ i < commands.length, files (inDir outputDir (redirectFilename i)) =
      limitedFile CRASH_PER_CMD_CAP outputs i) :
    Reported commands outputs CRASH_STDOUT_CAP
        (collectCommandOutputs files outputDir commands CRASH_PER_CMD_CAP CRASH_STDOUT_CAP) ↔
      Counted commands.length outputs CRASH_PER_CMD_CAP CRASH_STDOUT_CAP := by
  have hcongr : ∀ i < commands.length, files (inDir outputDir (redirectFilename (0 + i))) =
      limitedFile CRASH_PER_CMD_CAP outputs (0 + i) := by
    intro i hi
    rw [Nat.zero_add]
    exact hfiles i hi
  rw [collectCommandOutputs, collectFrom_congr hcongr]
  exact reported_iff_counted (by decide) (by decide)

/-- A short output is reported. -/
theorem outputs_reported_short :
    Reported ["log".toList] (fun _ => some [111, 107]) CRASH_STDOUT_CAP
      (collectCommandOutputs (fun _ => some [111, 107]) "/c".toList ["log".toList]
        CRASH_PER_CMD_CAP CRASH_STDOUT_CAP) := by
  have hfiles : ∀ i < ["log".toList].length, (some [111, 107] : Option Octets) =
      limitedFile CRASH_PER_CMD_CAP (fun _ => some [111, 107]) i := fun _ _ => rfl
  refine (outputs_reported_iff hfiles).mpr ⟨?_, ?_⟩
  · intro i _ output houtput hlong
    cases houtput
    exact absurd hlong (by decide)
  · intro i hi _ hfull
    rw [Nat.lt_one_iff.mp hi] at hfull
    exact absurd hfull (by decide)

/-- An output one octet longer than the cap of a command. -/
def longOutput : Octets := List.replicate (CRASH_PER_CMD_CAP + 1) 97

/-- Its file is read whole, and labelled as the whole output. -/
theorem long_output_ok :
    ¬ Reported ["log".toList] (fun _ => some longOutput) CRASH_STDOUT_CAP
      (collectCommandOutputs (fun _ => some (longOutput.take CRASH_PER_CMD_CAP)) "/c".toList
        ["log".toList] CRASH_PER_CMD_CAP CRASH_STDOUT_CAP) := by
  intro h
  have hcounted : Counted 1 (fun _ => some longOutput) CRASH_PER_CMD_CAP CRASH_STDOUT_CAP :=
    (reported_iff_counted (by decide) (by decide)).mp h
  have hlong : CRASH_PER_CMD_CAP < longOutput.length := by
    rw [longOutput, List.length_replicate]
    exact Nat.lt_succ_self _
  have hcut := hcounted.cut 0 Nat.one_pos longOutput rfl hlong
  exact absurd hcut (by decide)

end Kdive.Crash

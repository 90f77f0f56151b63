import Mathlib.Data.List.Basic
import Mathlib.Data.List.Infix
import Kdive.Lib.Checked

/-!
# The serial relay

`_copy_loop` carries octets between a serial source and the client of a console
socket.  It holds one buffer for each direction.  One iteration asks which of the
two can be read or written, and then serves them in a fixed order: read the source,
read the client, write to the client, write to the source.

*Ways.*  A `Way` is one direction: its buffer, and beside it what was read from the
sending side and what the receiving side took.  The two reads are one definition,
and so are the two writes.  Each side has its own step for a broken transfer.

*Turns.*  A `Turn` says everything one iteration meets: the stop flag, what is ready,
and the answer of each transfer.  A write may take any part of what it is given.

Nothing is lost or reordered while the loop runs, and the buffers stay bounded
(`Way.Kept`).  What they hold when the loop returns is gone.  `relay_iff` says when
that is nothing.
-/

namespace Kdive.Relay

/-- `_BRIDGE_BUFFER`, the most one read takes. -/
def bridgeBuffer : Nat := 4096

/-- `_RELAY_CAP`, the buffer from which on a side is not read. -/
def relayCap : Nat := 262144

abbrev Octets := List UInt8

/-- `_PumpStep`. -/
inductive PumpStep where
  | continues
  | clientGone
  | sourceDead
deriving DecidableEq, Repr

/-! ## One transfer -/

/-- What a read gives.  No data is the end of the stream. -/
inductive ReadAnswer where
  | data (chunk : Octets) (fits : chunk.length ≤ bridgeBuffer)
  | wouldBlock
  | failed
deriving DecidableEq

/-- What a write gives: how much it took, `EWOULDBLOCK`, or an error. -/
inductive WriteAnswer where
  | sent (n : Nat)
  | wouldBlock
  | failed
deriving DecidableEq, Repr

/-- The end of the stream. -/
def ReadAnswer.eof : ReadAnswer := .data [] (Nat.zero_le _)

/-- What a read adds to its buffer. -/
def ReadAnswer.chunk : ReadAnswer → Octets
  | .data chunk _ => chunk
  | .wouldBlock | .failed => []

/-- How much of its buffer a write takes. -/
def WriteAnswer.taken : WriteAnswer → Nat
  | .sent n => n
  | .wouldBlock | .failed => 0

/-- One direction of the relay. -/
structure Way where
  /-- The buffer. -/
  buffer : Octets := []
  /-- What was read from the sending side. -/
  read : Octets := []
  /-- What the receiving side took. -/
  delivered : Octets := []
deriving DecidableEq

/-- A read into a way. -/
def Way.fill (gone : PumpStep) (w : Way) : ReadAnswer → Way × PumpStep
  | .data chunk _ =>
      if chunk = [] then (w, gone)
      else ({ w with buffer := w.buffer ++ chunk, read := w.read ++ chunk }, .continues)
  | .wouldBlock => (w, .continues)
  | .failed => (w, gone)

/-- A write out of a way. -/
def Way.drain (gone : PumpStep) (w : Way) : WriteAnswer → Way × PumpStep
  | .sent n =>
      ({ w with buffer := w.buffer.drop n, delivered := w.delivered ++ w.buffer.take n }, .continues)
  | .wouldBlock => (w, .continues)
  | .failed => (w, gone)

/-- The variables of the loop. -/
structure State where
  /-- Device output on its way to the client. -/
  toClient : Way := {}
  /-- Client input on its way to the source. -/
  toDevice : Way := {}
deriving DecidableEq

/-- `_read_source`. -/
def readSource (answer : ReadAnswer) (s : State) : State × PumpStep :=
  let (way, step) := s.toClient.fill .sourceDead answer
  ({ s with toClient := way }, step)

/-- `_read_client`. -/
def readClient (answer : ReadAnswer) (s : State) : State × PumpStep :=
  let (way, step) := s.toDevice.fill .clientGone answer
  ({ s with toDevice := way }, step)

/-- `_write_client`. -/
def writeClient (answer : WriteAnswer) (s : State) : State × PumpStep :=
  let (way, step) := s.toClient.drain .clientGone answer
  ({ s with toClient := way }, step)

/-- `_write_source`. -/
def writeSource (answer : WriteAnswer) (s : State) : State × PumpStep :=
  let (way, step) := s.toDevice.drain .sourceDead answer
  ({ s with toDevice := way }, step)

/-! ## The loop -/

/-- The two descriptors that are asked for. -/
inductive Fd where
  | source
  | conn
deriving DecidableEq, Repr

/-- What one iteration meets. -/
structure Turn where
  /-- `stop` was called. -/
  stop : Bool := false
  /-- `select` raises. -/
  selectFails : Bool := false
  /-- What can be read. -/
  readable : Fd → Bool
  /-- What can be written. -/
  writable : Fd → Bool
  /-- The answers, used for what is asked for and ready. -/
  sourceRead : ReadAnswer
  clientRead : ReadAnswer
  clientWrite : WriteAnswer
  sourceWrite : WriteAnswer

/-- `_select_lists`: what to wait for. -/
def selectLists (s : State) : List Fd × List Fd :=
  ((if s.toClient.buffer.length < relayCap then [.source] else []) ++
      (if s.toDevice.buffer.length < relayCap then [.conn] else []),
    (if s.toClient.buffer ≠ [] then [.conn] else []) ++
      (if s.toDevice.buffer ≠ [] then [.source] else []))

/-- The iteration reads from a descriptor. -/
def Reads (s : State) (t : Turn) (fd : Fd) : Prop := fd ∈ (selectLists s).1.filter t.readable

/-- The iteration writes to a descriptor. -/
def Writes (s : State) (t : Turn) (fd : Fd) : Prop := fd ∈ (selectLists s).2.filter t.writable

instance (s : State) (t : Turn) (fd : Fd) : Decidable (Reads s t fd) :=
  inferInstanceAs (Decidable (fd ∈ _))

instance (s : State) (t : Turn) (fd : Fd) : Decidable (Writes s t fd) :=
  inferInstanceAs (Decidable (fd ∈ _))

/-- Serve a descriptor if it is ready, and note the step. -/
def serve (ready : Prop) [Decidable ready] (transfer : State → State × PumpStep)
    (now : State × List PumpStep) : State × List PumpStep :=
  if ready then ((transfer now.1).1, now.2 ++ [(transfer now.1).2]) else now

/-- After the source was served for reading. -/
def sourceWasRead (s : State) (t : Turn) : State × List PumpStep :=
  serve (Reads s t .source) (readSource t.sourceRead) (s, [])

/-- After the client was served for reading. -/
def clientWasRead (s : State) (t : Turn) : State × List PumpStep :=
  serve (Reads s t .conn) (readClient t.clientRead) (sourceWasRead s t)

/-- After the client was served for writing. -/
def clientWasWritten (s : State) (t : Turn) : State × List PumpStep :=
  serve (Writes s t .conn) (writeClient t.clientWrite) (clientWasRead s t)

/-- After the source was served for writing: all transfers of the iteration. -/
def served (s : State) (t : Turn) : State × List PumpStep :=
  serve (Writes s t .source) (writeSource t.sourceWrite) (clientWasWritten s t)

/-- `_outcome`.  A dead source wins over a client that left. -/
def outcome (steps : List PumpStep) : Option Bool :=
  if .sourceDead ∈ steps then some false
  else if .clientGone ∈ steps then some true
  else none

/-- The loop has returned. -/
structure Returned where
  /-- What it returns: the source is alive. -/
  sourceAlive : Bool
  /-- The variables at that moment. -/
  last : State
deriving DecidableEq

/-- One iteration: the loop goes on, or returns. -/
def turn (s : State) (t : Turn) : Except Returned State :=
  if t.stop then .error ⟨false, s⟩
  else if t.selectFails then .error ⟨false, s⟩
  else
    match outcome (served s t).2 with
    | some alive => .error ⟨alive, (served s t).1⟩
    | none => .ok (served s t).1

/-- `_copy_loop`, over the iterations. -/
def copyLoop (turns : List Turn) : Except Returned State := turns.foldlM turn {}

/-- The states an iteration passes through, one for each transfer. -/
def passes (s : State) (t : Turn) : List State :=
  [s, (sourceWasRead s t).1, (clientWasRead s t).1, (clientWasWritten s t).1, (served s t).1]

/-! ## What a way keeps -/

/-- What was taken and what is buffered is what was read, in order, and the buffer is
below the cap and one read. -/
structure Way.Kept (w : Way) : Prop where
  conserved : w.delivered ++ w.buffer = w.read
  bounded : w.buffer.length < relayCap + bridgeBuffer

/-- Both directions are kept. -/
structure State.Kept (s : State) : Prop where
  toClient : s.toClient.Kept
  toDevice : s.toDevice.Kept

theorem Way.Kept.fill {w : Way} (h : w.Kept) (hroom : w.buffer.length < relayCap)
    (gone : PumpStep) (answer : ReadAnswer) : (w.fill gone answer).1.Kept := by
  cases answer with
  | data chunk fits =>
      simp only [Way.fill]
      split
      · exact h
      · constructor
        · rw [← List.append_assoc, h.conserved]
        · simp only [List.length_append]
          omega
  | wouldBlock => exact h
  | failed => exact h

theorem Way.Kept.drain {w : Way} (h : w.Kept) (gone : PumpStep) (answer : WriteAnswer) :
    (w.drain gone answer).1.Kept := by
  cases answer with
  | sent n =>
      constructor
      · simp only [Way.drain, List.append_assoc, List.take_append_drop]
        exact h.conserved
      · simp only [Way.drain, List.length_drop]
        have := h.bounded
        omega
  | wouldBlock => exact h
  | failed => exact h

/-- What was read has all been taken exactly if the buffer is empty. -/
theorem Way.Kept.delivered_iff {w : Way} (h : w.Kept) :
    w.delivered = w.read ↔ w.buffer = [] := by
  rw [← h.conserved, List.self_eq_append_right]

/-- A read adds what it took. -/
theorem Way.buffer_fill (w : Way) (gone : PumpStep) (answer : ReadAnswer) :
    (w.fill gone answer).1.buffer = w.buffer ++ answer.chunk := by
  cases answer with
  | data chunk fits =>
      by_cases hempty : chunk = []
      · subst hempty
        simp [Way.fill, ReadAnswer.chunk]
      · simp [Way.fill, ReadAnswer.chunk, hempty]
  | wouldBlock => simp [Way.fill, ReadAnswer.chunk]
  | failed => simp [Way.fill, ReadAnswer.chunk]

/-- A write leaves what it did not take. -/
theorem Way.buffer_drain (w : Way) (gone : PumpStep) (answer : WriteAnswer) :
    (w.drain gone answer).1.buffer = w.buffer.drop answer.taken := by
  cases answer with
  | sent n => rfl
  | wouldBlock => rfl
  | failed => rfl

/-! ## An iteration keeps them -/

variable {s : State} {t : Turn}

/-- The source is read only while its buffer has room. -/
theorem Reads.room_client (h : Reads s t .source) : s.toClient.buffer.length < relayCap := by
  by_contra hfull
  simp [Reads, selectLists, hfull] at h

/-- The client is read only while its buffer has room. -/
theorem Reads.room_device (h : Reads s t .conn) : s.toDevice.buffer.length < relayCap := by
  by_contra hfull
  simp [Reads, selectLists, hfull] at h

@[simp] theorem serve_of {ready : Prop} [Decidable ready] (h : ready)
    (transfer : State → State × PumpStep) (now : State × List PumpStep) :
    serve ready transfer now = ((transfer now.1).1, now.2 ++ [(transfer now.1).2]) := if_pos h

@[simp] theorem serve_of_not {ready : Prop} [Decidable ready] (h : ¬ ready)
    (transfer : State → State × PumpStep) (now : State × List PumpStep) :
    serve ready transfer now = now := if_neg h

/-- Serving a descriptor keeps what its transfer keeps. -/
theorem kept_serve {ready : Prop} [Decidable ready] {transfer : State → State × PumpStep}
    {now : State × List PumpStep} (h : now.1.Kept) (ht : ready → (transfer now.1).1.Kept) :
    (serve ready transfer now).1.Kept := by
  by_cases hready : ready
  · rw [serve_of hready]
    exact ht hready
  · rw [serve_of_not hready]
    exact h

/-- Reading the source does not touch the buffer toward it. -/
theorem sourceWasRead_toDevice : (sourceWasRead s t).1.toDevice = s.toDevice := by
  by_cases h : Reads s t .source
  · rw [sourceWasRead, serve_of h]
    rfl
  · rw [sourceWasRead, serve_of_not h]

theorem kept_sourceWasRead (h : s.Kept) : (sourceWasRead s t).1.Kept :=
  kept_serve h fun hreads => ⟨h.toClient.fill hreads.room_client _ _, h.toDevice⟩

theorem kept_clientWasRead (h : s.Kept) : (clientWasRead s t).1.Kept := by
  have hbefore := kept_sourceWasRead (t := t) h
  refine kept_serve hbefore fun hreads => ⟨hbefore.toClient, hbefore.toDevice.fill ?_ _ _⟩
  -- the room was there before the source was read
  rw [sourceWasRead_toDevice]
  exact hreads.room_device

theorem kept_clientWasWritten (h : s.Kept) : (clientWasWritten s t).1.Kept := by
  have hbefore := kept_clientWasRead (t := t) h
  exact kept_serve hbefore fun _ => ⟨hbefore.toClient.drain _ _, hbefore.toDevice⟩

theorem kept_served (h : s.Kept) : (served s t).1.Kept := by
  have hbefore := kept_clientWasWritten (t := t) h
  exact kept_serve hbefore fun _ => ⟨hbefore.toClient, hbefore.toDevice.drain _ _⟩

/-- Every state an iteration passes through is kept. -/
theorem kept_passes (h : s.Kept) : ∀ p ∈ passes s t, p.Kept := by
  intro p hp
  simp only [passes, List.mem_cons, List.not_mem_nil, or_false] at hp
  rcases hp with rfl | rfl | rfl | rfl | rfl
  · exact h
  · exact kept_sourceWasRead h
  · exact kept_clientWasRead h
  · exact kept_clientWasWritten h
  · exact kept_served h

/-- An iteration that goes on has served everything that was ready. -/
theorem turn_eq_ok {next : State} (h : turn s t = .ok next) : next = (served s t).1 := by
  unfold turn at h
  split at h
  · cases h
  · split at h
    · cases h
    · split at h
      · cases h
      · cases h
        rfl

/-- The loop is still running after one iteration more. -/
theorem copyLoop_concat {turns : List Turn} :
    copyLoop (turns ++ [t]) = .ok s ↔
      ∃ before, copyLoop turns = .ok before ∧ turn before t = .ok s := by
  rw [copyLoop, List.foldlM_append, Checked.bind_eq_ok]
  simp only [List.foldlM_cons, List.foldlM_nil, Checked.bind_eq_ok, Checked.pure_eq_ok,
    exists_eq_right, copyLoop]

/-- The states between the iterations are kept. -/
theorem kept_copyLoop {turns : List Turn} (h : copyLoop turns = .ok s) : s.Kept := by
  induction turns using List.reverseRecOn generalizing s with
  | nil =>
      cases h
      exact ⟨⟨rfl, by decide⟩, ⟨rfl, by decide⟩⟩
  | append_singleton turns t ih =>
      obtain ⟨before, hbefore, hturn⟩ := copyLoop_concat.mp h
      rw [turn_eq_ok hturn]
      exact kept_served (ih hbefore)

/-! ## The two ends -/

/-- The read reports that there is nothing more to read. -/
def ReadAnswer.Ends (answer : ReadAnswer) : Prop := answer = .eof ∨ answer = .failed

/-- The iteration gets as far as the transfers. -/
def Turn.Runs (t : Turn) : Prop := t.stop = false ∧ t.selectFails = false

/-- The iteration reads the orderly end of the client's stream. -/
def ClientEnds (s : State) (t : Turn) : Prop :=
  t.Runs ∧ Reads s t .conn ∧ t.clientRead = .eof

/-- A transfer of the iteration fails on the client's side. -/
def ClientGoes (s : State) (t : Turn) : Prop :=
  t.Runs ∧ (Reads s t .conn ∧ t.clientRead.Ends ∨ Writes s t .conn ∧ t.clientWrite = .failed)

/-- A transfer of the iteration finds the end of the device. -/
def SourceDies (s : State) (t : Turn) : Prop :=
  t.Runs ∧ (Reads s t .source ∧ t.sourceRead.Ends ∨ Writes s t .source ∧ t.sourceWrite = .failed)

/-- What the iteration reads from the source. -/
def fromSource (s : State) (t : Turn) : Octets :=
  if Reads s t .source then t.sourceRead.chunk else []

/-- What the iteration reads from the client. -/
def fromClient (s : State) (t : Turn) : Octets :=
  if Reads s t .conn then t.clientRead.chunk else []

/-- How much the source takes in the iteration. -/
def takenBySource (s : State) (t : Turn) : Nat :=
  if Writes s t .source then t.sourceWrite.taken else 0

/-- How much the client takes in the iteration. -/
def takenByClient (s : State) (t : Turn) : Nat :=
  if Writes s t .conn then t.clientWrite.taken else 0

/-- Only a read that ends its stream breaks off, with the step of its side. -/
theorem Way.fill_step (w : Way) {gone step : PumpStep} (hstep : step ≠ .continues)
    (answer : ReadAnswer) : (w.fill gone answer).2 = step ↔ gone = step ∧ answer.Ends := by
  cases answer with
  | data chunk fits =>
      by_cases hempty : chunk = []
      · subst hempty
        simp [Way.fill, ReadAnswer.Ends, ReadAnswer.eof]
      · simp [Way.fill, ReadAnswer.Ends, ReadAnswer.eof, hempty, hstep.symm]
  | wouldBlock => simp [Way.fill, ReadAnswer.Ends, ReadAnswer.eof, hstep.symm]
  | failed => simp [Way.fill, ReadAnswer.Ends]

/-- Only a write that fails breaks off, with the step of its side. -/
theorem Way.drain_step (w : Way) {gone step : PumpStep} (hstep : step ≠ .continues)
    (answer : WriteAnswer) : (w.drain gone answer).2 = step ↔ gone = step ∧ answer = .failed := by
  cases answer with
  | sent n => simp [Way.drain, hstep.symm]
  | wouldBlock => simp [Way.drain, hstep.symm]
  | failed => simp [Way.drain]

/-- The steps after serving are the steps before, and the step of the transfer. -/
theorem mem_serve {ready : Prop} [Decidable ready] {transfer : State → State × PumpStep}
    {now : State × List PumpStep} {step : PumpStep} :
    step ∈ (serve ready transfer now).2 ↔ step ∈ now.2 ∨ ready ∧ (transfer now.1).2 = step := by
  by_cases hready : ready
  · rw [serve_of hready, List.mem_append, List.mem_singleton, eq_comm (a := step)]
    simp [hready]
  · simp [hready]

/-- What makes an iteration break off. -/
theorem mem_served {step : PumpStep} (hstep : step ≠ .continues) :
    step ∈ (served s t).2 ↔
      (.sourceDead = step ∧
          (Reads s t .source ∧ t.sourceRead.Ends ∨ Writes s t .source ∧ t.sourceWrite = .failed)) ∨
        (.clientGone = step ∧
          (Reads s t .conn ∧ t.clientRead.Ends ∨ Writes s t .conn ∧ t.clientWrite = .failed)) := by
  simp only [served, clientWasWritten, clientWasRead, sourceWasRead, mem_serve, readSource,
    readClient, writeClient, writeSource, Way.fill_step _ hstep, Way.drain_step _ hstep,
    List.not_mem_nil, false_or]
  tauto

/-- The steps of an iteration have a dead source exactly if a transfer fails there. -/
theorem sourceDead_mem (h : t.Runs) : .sourceDead ∈ (served s t).2 ↔ SourceDies s t := by
  rw [mem_served (by decide)]
  simp [SourceDies, h]

/-- The steps have a client that left exactly if a transfer fails on its side. -/
theorem clientGone_mem (h : t.Runs) : .clientGone ∈ (served s t).2 ↔ ClientGoes s t := by
  rw [mem_served (by decide)]
  simp [ClientGoes, h]

/-- An iteration that gets as far as the transfers returns what the steps say. -/
theorem turn_eq_error (h : t.Runs) {returned : Returned} :
    turn s t = .error returned ↔
      outcome (served s t).2 = some returned.sourceAlive ∧ returned.last = (served s t).1 := by
  obtain ⟨alive, last⟩ := returned
  simp only [turn, h.1, h.2, Bool.false_eq_true, if_false]
  cases houtcome : outcome (served s t).2 with
  | none => simp
  | some b => simp [eq_comm]

/-- The loop returns for the client when the client left and the source is alive. -/
theorem outcome_eq_true (h : t.Runs) :
    outcome (served s t).2 = some true ↔ ClientGoes s t ∧ ¬ SourceDies s t := by
  rw [← sourceDead_mem h, ← clientGone_mem h]
  unfold outcome
  split
  · simp [*]
  · split
    · simp [*]
    · simp [*]

/-! ## What is left in the buffers -/

/-- What an iteration leaves for the source: what was there and what the client sent,
less what the source took. -/
theorem toDevice_served :
    (served s t).1.toDevice.buffer =
      (s.toDevice.buffer ++ fromClient s t).drop (takenBySource s t) := by
  have hread : (clientWasRead s t).1.toDevice.buffer = s.toDevice.buffer ++ fromClient s t := by
    by_cases hreads : Reads s t .conn
    · rw [clientWasRead, serve_of hreads, fromClient, if_pos hreads]
      simp only [readClient, Way.buffer_fill, sourceWasRead_toDevice]
    · rw [clientWasRead, serve_of_not hreads, fromClient, if_neg hreads, List.append_nil,
        sourceWasRead_toDevice]
  have hwritten : (clientWasWritten s t).1.toDevice = (clientWasRead s t).1.toDevice := by
    by_cases hwrites : Writes s t .conn
    · rw [clientWasWritten, serve_of hwrites]
      rfl
    · rw [clientWasWritten, serve_of_not hwrites]
  by_cases hwrites : Writes s t .source
  · rw [served, serve_of hwrites, takenBySource, if_pos hwrites]
    simp only [writeSource, Way.buffer_drain, hwritten, hread]
  · rw [served, serve_of_not hwrites, takenBySource, if_neg hwrites, hwritten, hread,
      List.drop_zero]

/-- What an iteration leaves for the client: what was there and what the device wrote,
less what the client took. -/
theorem toClient_served :
    (served s t).1.toClient.buffer =
      (s.toClient.buffer ++ fromSource s t).drop (takenByClient s t) := by
  have hsource : (sourceWasRead s t).1.toClient.buffer = s.toClient.buffer ++ fromSource s t := by
    by_cases hreads : Reads s t .source
    · rw [sourceWasRead, serve_of hreads, fromSource, if_pos hreads]
      simp only [readSource, Way.buffer_fill]
    · rw [sourceWasRead, serve_of_not hreads, fromSource, if_neg hreads, List.append_nil]
  have hread : (clientWasRead s t).1.toClient = (sourceWasRead s t).1.toClient := by
    by_cases hreads : Reads s t .conn
    · rw [clientWasRead, serve_of hreads]
      rfl
    · rw [clientWasRead, serve_of_not hreads]
  have hwritten : (clientWasWritten s t).1.toClient.buffer =
      (s.toClient.buffer ++ fromSource s t).drop (takenByClient s t) := by
    by_cases hwrites : Writes s t .conn
    · rw [clientWasWritten, serve_of hwrites, takenByClient, if_pos hwrites]
      simp only [writeClient, Way.buffer_drain, hread, hsource]
    · rw [clientWasWritten, serve_of_not hwrites, takenByClient, if_neg hwrites, hread, hsource,
        List.drop_zero]
  rw [← hwritten]
  by_cases hwrites : Writes s t .source
  · rw [served, serve_of hwrites]
    rfl
  · rw [served, serve_of_not hwrites]

/-- In an iteration that reads the client's end, what the source does not take is left. -/
theorem toDevice_of_clientEnds (h : ClientEnds s t) :
    (served s t).1.toDevice.buffer = s.toDevice.buffer.drop (takenBySource s t) := by
  rw [toDevice_served, fromClient, if_pos h.2.1, h.2.2, ReadAnswer.eof, ReadAnswer.chunk,
    List.append_nil]

/-! ## Fidelity -/

/-- What the relay owes in one iteration: at every point it has lost, reordered and
hoarded nothing; it returns for the end of the client only when the device has all of
the client's octets; and it returns for the end of the device only when a client that
is still there has all of the device's. -/
structure FaithfulAt (s : State) (t : Turn) : Prop where
  kept : ∀ p ∈ passes s t, p.Kept
  fromClient : ∀ returned, turn s t = .error returned → returned.sourceAlive = true →
    ClientEnds s t → returned.last.toDevice.delivered = returned.last.toDevice.read
  fromDevice : ∀ returned, turn s t = .error returned → SourceDies s t → ¬ ClientGoes s t →
    returned.last.toClient.delivered = returned.last.toClient.read

/-- An iteration that finds the end of one side gets the other side to take all that
is buffered for it. -/
structure FlushesAt (s : State) (t : Turn) : Prop where
  toDevice : ClientEnds s t → ¬ SourceDies s t → s.toDevice.buffer.length ≤ takenBySource s t
  toClient : SourceDies s t → ¬ ClientGoes s t →
    s.toClient.buffer.length + (fromSource s t).length ≤ takenByClient s t

/-- A property of every iteration that a run of the loop gets to. -/
def EachTurn (P : State → Turn → Prop) (turns : List Turn) : Prop :=
  ∀ before t s, before ++ [t] <+: turns → copyLoop before = .ok s → P s t

theorem faithfulAt_iff (h : s.Kept) : FaithfulAt s t ↔ FlushesAt s t := by
  have hkept := kept_served (t := t) h
  constructor
  · intro hfaithful
    constructor
    · intro hends hlives
      have hgoes : ClientGoes s t := ⟨hends.1, .inl ⟨hends.2.1, .inl hends.2.2⟩⟩
      have hturn : turn s t = .error ⟨true, (served s t).1⟩ :=
        (turn_eq_error hends.1).mpr ⟨(outcome_eq_true hends.1).mpr ⟨hgoes, hlives⟩, rfl⟩
      have hall := hfaithful.fromClient _ hturn rfl hends
      rwa [hkept.toDevice.delivered_iff, toDevice_of_clientEnds hends,
        List.drop_eq_nil_iff] at hall
    · intro hdies hstays
      have hturn : turn s t = .error ⟨false, (served s t).1⟩ := by
        refine (turn_eq_error hdies.1).mpr ⟨?_, rfl⟩
        rw [outcome, if_pos ((sourceDead_mem hdies.1).mpr hdies)]
      have hall := hfaithful.fromDevice _ hturn hdies hstays
      rwa [hkept.toClient.delivered_iff, toClient_served, List.drop_eq_nil_iff,
        List.length_append] at hall
  · intro hflushes
    refine ⟨kept_passes h, ?_, ?_⟩
    · intro returned hturn halive hends
      obtain ⟨houtcome, hlast⟩ := (turn_eq_error hends.1).mp hturn
      rw [halive] at houtcome
      have hlives := ((outcome_eq_true hends.1).mp houtcome).2
      rw [hlast, hkept.toDevice.delivered_iff, toDevice_of_clientEnds hends,
        List.drop_eq_nil_iff]
      exact hflushes.toDevice hends hlives
    · intro returned hturn hdies hstays
      obtain ⟨-, hlast⟩ := (turn_eq_error hdies.1).mp hturn
      rw [hlast, hkept.toClient.delivered_iff, toClient_served, List.drop_eq_nil_iff,
        List.length_append]
      exact hflushes.toClient hdies hstays

/-- **The relay is faithful exactly in the runs that flush what they end with.**  For
every list of iterations, with any readiness, partial transfers, would-block answers
and errors, the relay owes nothing in any iteration it gets to exactly if no iteration
that finds the end of one side leaves something buffered for the other. -/
theorem relay_iff (turns : List Turn) : EachTurn FaithfulAt turns ↔ EachTurn FlushesAt turns := by
  constructor
  · intro h before t s hprefix hloop
    exact (faithfulAt_iff (kept_copyLoop hloop)).mp (h before t s hprefix hloop)
  · intro h before t s hprefix hloop
    exact (faithfulAt_iff (kept_copyLoop hloop)).mpr (h before t s hprefix hloop)

/-- The client sends one octet. -/
def typed : Turn where
  readable := (· = .conn)
  writable _ := false
  sourceRead := .wouldBlock
  clientRead := .data [65] (by decide)
  clientWrite := .wouldBlock
  sourceWrite := .wouldBlock

/-- The client ends its stream, and the source cannot take anything yet. -/
def hungUp : Turn := { typed with clientRead := .eof }

/-- The client sends one octet and ends its stream, while the device is busy.  The loop
returns, and the octet never reaches the device. -/
theorem relay_loses_input : ¬ EachTurn FaithfulAt [typed, hungUp] := by
  intro h
  have hfaithful := h [typed] hungUp ⟨{}, { buffer := [65], read := [65] }⟩ (by simp) rfl
  have hlost := hfaithful.fromClient ⟨true, ⟨{}, { buffer := [65], read := [65] }⟩⟩ rfl rfl
    ⟨⟨rfl, rfl⟩, by decide, rfl⟩
  simp at hlost

end Kdive.Relay

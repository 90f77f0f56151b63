import Kdive.Artifacts.Manifest
import Kdive.Coordination.RegistryDisk
import Kdive.Lib.ModelJson
import Kdive.Seams.TransportState

/-!
# The durable record

The ownership record as it stands in a file, with all its fields and what each is checked for, and
the tombstone.

*Validation.*  The library that validates a record is not part of the program.  `Pydantic` is what it
reads of a JSON value, of which is said only that it reads what it has dumped.

*Round trip.*  The record and the tombstone are shapes, so what is written of one is read as it was
(`sessionShape`, `tombstoneShape`), and the registry has a codec for each.
-/

namespace Kdive.Registry

open PythonJson Artifacts

/-! ## Scalars -/

/-- What validation reads of a JSON value. -/
structure Pydantic where
  str : Json → Option Text
  int : Json → Option Int
  bool : Json → Option Bool
  Datetime : Type
  isoformat : Datetime → Text
  datetime : Json → Option Datetime
  /-- `ipaddress.ip_address(value).is_loopback` -/
  isLoopback : Text → Bool
  /-- The value of a text. -/
  parse : Text → Option Json
  str_str : ∀ text : Text, str (.str (text.map Char.toNat)) = some text
  int_int : ∀ n, int (.int n) = some n
  bool_bool : ∀ b, bool (.bool b) = some b
  datetime_isoformat : ∀ t, datetime (.str ((isoformat t).map Char.toNat)) = some t
  /-- It reads what `json.dumps` has written. -/
  parse_dumps : ∀ v text, v.Tidy 200 → dumps v = some text → parse text = some v

section Scalars

variable (py : Pydantic)

/-- `str` -/
def textShape : Shape Text := .text py.str py.str_str

/-- `str`, as a string of the other modules. -/
def strShape : Shape String :=
  (textShape py).map String.toList String.ofList fun _ => String.ofList_toList

/-- A string that is read as it is. -/
def readString : Shape String :=
  (Shape.text readText readText_text).map String.toList String.ofList fun _ => String.ofList_toList

/-- `bool` -/
def boolShape : Shape Bool := .bool py.bool py.bool_bool

/-- `Field(ge=least)` -/
def atLeast (least : Int) : Shape { n : Int // least ≤ n } :=
  (Shape.int py.int py.int_int).refine (least ≤ ·)

/-- `datetime` -/
def datetimeShape : Shape py.Datetime where
  dump t := .str ((py.isoformat t).map Char.toNat)
  load := py.datetime
  deep := 0
  tidy t _ _ := by
    rw [Json.Tidy]
    exact plain_text _
  load_dump := py.datetime_isoformat

end Scalars

/-! ## Enumerations -/

/-- The text of a stage. -/
def recordStateValue : RecordState → Text
  | .pending => "pending".toList
  | .opening => "opening".toList
  | .ready => "ready".toList
  | .degraded => "degraded".toList
  | .closing => "closing".toList
  | .abandoned => "abandoned".toList
  | .closed => "closed".toList

/-- The text of a break method. -/
def breakMethodValue : BreakMethod → Text
  | .gdbstubNative => "gdbstub_native".toList
  | .uartBreak => "uart_break".toList
  | .agentProxyBreak => "agent_proxy_break".toList
  | .sysrqG => "sysrq_g".toList

/-- The text of an execution state. -/
def executionStateValue (state : ExecutionState) : Text := state.value.toList

section Enumerations

variable (py : Pydantic)

def recordStateShape : Shape RecordState :=
  (textShape py).choice recordStateValue
    [.pending, .opening, .ready, .degraded, .closing, .abandoned, .closed]
    (fun state => by cases state <;> simp)
    fun state state' h => by cases state <;> cases state' <;> first | rfl | exact absurd h (by decide)

def breakMethodShape : Shape BreakMethod :=
  (textShape py).choice breakMethodValue [.gdbstubNative, .uartBreak, .agentProxyBreak, .sysrqG]
    (fun method => by cases method <;> simp)
    fun method method' h => by
      cases method <;> cases method' <;> first | rfl | exact absurd h (by decide)

def executionStateShape : Shape ExecutionState :=
  (textShape py).choice executionStateValue [.executing, .halted, .unknown]
    (fun state => by cases state <;> simp)
    fun state state' h => by cases state <;> cases state' <;> first | rfl | exact absurd h (by decide)

end Enumerations

/-! ## Endpoints -/

/-- `unicodedata.category(char) == "Cc"` -/
def isControl (c : Char) : Bool := decide (c.toNat < 0x20 ∨ 0x7f ≤ c.toNat ∧ c.toNat ≤ 0x9f)

/-- `_path_must_be_safe` -/
def IsSafePath (path : Text) : Prop :=
  path ≠ [] ∧ (∀ c ∈ path, isControl c = false) ∧ path.head? = some '/' ∧
    "..".toList ∉ path.splitOn '/'

instance : DecidablePred IsSafePath := fun _ => inferInstanceAs (Decidable (_ ∧ _))

/-- `_mode_must_be_owner_only` -/
def IsOwnerOnly (mode : Int) : Prop := 0 ≤ mode ∧ mode ≤ 0o777 ∧ mode.toNat &&& 0o077 = 0

instance : DecidablePred IsOwnerOnly := fun _ => inferInstanceAs (Decidable (_ ∧ _))

/-- `TcpEndpoint` -/
structure TcpEndpoint (py : Pydantic) where
  host : { host : Text // py.isLoopback host = true }
  port : { port : Int // 1 ≤ port ∧ port ≤ 65535 }

/-- `UnixSocketEndpoint` -/
structure UnixSocketEndpoint where
  path : { path : Text // IsSafePath path }
  mode : { mode : Int // IsOwnerOnly mode }

section Endpoints

variable (py : Pydantic)

theorem nodup_keys (names : List String) (h : names.Nodup) :
    (names.map fun name => key name.toList).Nodup := by
  refine h.map fun name name' heq => ?_
  have htext : name.toList = name'.toList :=
    List.map_injective_iff.mpr (fun c d h => Char.toNat_inj.mp h) heq
  exact String.toList_injective htext

/-- `Literal[value]` -/
def literal (value : Text) : Shape Unit :=
  (textShape py).choice (fun _ => value) [()] (fun _ => by simp) fun _ _ _ => rfl

def tcpShape : Shape (TcpEndpoint py) :=
  (((Row.field "kind".toList (literal py "tcp".toList) (some ())).and
    ((Row.field "host".toList ((textShape py).refine fun host => py.isLoopback host = true) none).and
      (Row.field "port".toList
        ((Shape.int py.int py.int_int).refine fun port => 1 ≤ port ∧ port ≤ 65535) none))).object
    false (nodup_keys ["kind", "host", "port"] (by decide))).map
    (fun e => ((), e.host, e.port)) (fun e => ⟨e.2.1, e.2.2⟩) fun _ => rfl

def unixShape : Shape UnixSocketEndpoint :=
  (((Row.field "kind".toList (literal py "unix".toList) (some ())).and
    ((Row.field "path".toList ((textShape py).refine IsSafePath) none).and
      (Row.field "mode".toList ((Shape.int py.int py.int_int).refine IsOwnerOnly)
        (some ⟨0o600, by decide⟩)))).object
    false (nodup_keys ["kind", "path", "mode"] (by decide))).map
    (fun e => ((), e.path, e.mode)) (fun e => ⟨e.2.1, e.2.2⟩) fun _ => rfl

/-- The discriminator of an endpoint. -/
def isTcp : Json → Option Bool
  | .dict entries =>
      match (entries.lookup (key "kind".toList)).bind readText with
      | some kind =>
          if kind = "tcp".toList then some true
          else if kind = "unix".toList then some false
          else none
      | none => none
  | _ => none

/-- `Endpoint` -/
def endpointShape : Shape (TcpEndpoint py ⊕ UnixSocketEndpoint) :=
  (tcpShape py).either (unixShape py) isTcp (fun _ => rfl) fun _ => rfl

end Endpoints

/-! ## Records -/

/-- `^transport-[0-9a-f]{32}$` -/
def IsSessionId (id : Text) : Prop :=
  id.take 10 = "transport-".toList ∧ (id.drop 10).length = 32 ∧
    ∀ c ∈ id.drop 10, c ∈ "0123456789abcdef".toList

instance : DecidablePred IsSessionId := fun _ => inferInstanceAs (Decidable (_ ∧ _))

/-- The durable `TransportSession`. -/
structure SessionRecord (py : Pydantic) where
  sessionId : { id : Text // IsSessionId id }
  targetKey : TargetKey
  generation : { n : Int // 0 ≤ n }
  provider : Text
  channelId : Text
  consoleEndpoint : Option (TcpEndpoint py ⊕ UnixSocketEndpoint)
  rspEndpoint : Option (TcpEndpoint py ⊕ UnixSocketEndpoint)
  recordState : RecordState
  consoleLeaseToken : Option Text
  stopGuardToken : Option Text
  attachEpoch : { n : Int // 0 ≤ n }
  breakPlan : Option BreakPlan
  executionState : ExecutionState
  backendPid : Option { n : Int // 1 ≤ n }
  backendStartTime : Option Text
  createdAt : py.Datetime
  endedAt : Option py.Datetime
  artifacts : List ArtifactRef

section Records

variable (py : Pydantic)

/-- The members of a target key. -/
def targetRow : Row TargetKey :=
  ((Row.field "provisioner".toList (strShape py) none).and
    (Row.field "target_id".toList (strShape py) none)).map
    (fun k => (k.provisioner, k.targetId)) (fun k => ⟨k.1, k.2⟩) fun _ => rfl

def targetShape : Shape TargetKey :=
  (targetRow py).object false (nodup_keys ["provisioner", "target_id"] (by decide))

def breakPlanShape : Shape BreakPlan :=
  (((Row.field "method".toList (breakMethodShape py) none).and
    ((Row.field "channel_id".toList (strShape py) none).and
      (Row.field "rationale".toList (strShape py) none))).object
    false (nodup_keys ["method", "channel_id", "rationale"] (by decide))).map
    (fun p => (p.method, p.channelId, p.rationale)) (fun p => ⟨p.1, p.2.1, p.2.2⟩) fun _ => rfl

/-- `str | None` -/
def optionalText : Shape (Option Text) := (textShape py).optional nofun

def artifactShape : Shape ArtifactRef :=
  (((Row.field "path".toList (strShape py) none).and
    ((Row.field "kind".toList (strShape py) none).and
      ((Row.field "sensitive".toList (boolShape py) (some false)).and
        (Row.field "description".toList ((strShape py).optional nofun) (some none))))).object
    false (nodup_keys ["path", "kind", "sensitive", "description"] (by decide))).map
    (fun a => (a.path, a.kind, a.sensitive, a.description))
    (fun a => ⟨a.1, a.2.1, a.2.2.1, a.2.2.2⟩) fun _ => rfl

/-- `Endpoint | None` -/
def optionalEndpoint : Shape (Option (TcpEndpoint py ⊕ UnixSocketEndpoint)) :=
  (endpointShape py).optional fun endpoint => by cases endpoint <;> exact nofun

/-- The names of the members of a record. -/
def sessionNames : List String :=
  ["session_id", "target_key", "generation", "provider", "channel_id", "console_endpoint",
    "rsp_endpoint", "record_state", "console_lease_token", "stop_guard_token", "attach_epoch",
    "break_plan", "execution_state", "backend_pid", "backend_start_time", "created_at", "ended_at",
    "artifacts"]

/-- Whose a session is, and where. -/
def ownerRow : Row ({ id : Text // IsSessionId id } × TargetKey × { n : Int // 0 ≤ n } × Text × Text ×
    Option (TcpEndpoint py ⊕ UnixSocketEndpoint) × Option (TcpEndpoint py ⊕ UnixSocketEndpoint)) :=
  (Row.field "session_id".toList ((textShape py).refine IsSessionId) none).and
    ((Row.field "target_key".toList (targetShape py) none).and
      ((Row.field "generation".toList (atLeast py 0) none).and
        ((Row.field "provider".toList (textShape py) none).and
          ((Row.field "channel_id".toList (textShape py) none).and
            ((Row.field "console_endpoint".toList (optionalEndpoint py) (some none)).and
              (Row.field "rsp_endpoint".toList (optionalEndpoint py) (some none)))))))

/-- How far it has come. -/
def stageRow : Row (RecordState × Option Text × Option Text × { n : Int // 0 ≤ n } ×
    Option BreakPlan × ExecutionState) :=
  (Row.field "record_state".toList (recordStateShape py) (some .pending)).and
    ((Row.field "console_lease_token".toList (optionalText py) (some none)).and
      ((Row.field "stop_guard_token".toList (optionalText py) (some none)).and
        ((Row.field "attach_epoch".toList (atLeast py 0) (some ⟨0, le_rfl⟩)).and
          ((Row.field "break_plan".toList ((breakPlanShape py).optional nofun) (some none)).and
            (Row.field "execution_state".toList (executionStateShape py) (some .unknown))))))

/-- Its backend, its times and what it left. -/
def backendRow : Row (Option { n : Int // 1 ≤ n } × Option Text × py.Datetime × Option py.Datetime ×
    List ArtifactRef) :=
  (Row.field "backend_pid".toList ((atLeast py 1).optional nofun) (some none)).and
    ((Row.field "backend_start_time".toList (optionalText py) (some none)).and
      ((Row.field "created_at".toList (datetimeShape py) none).and
        ((Row.field "ended_at".toList ((datetimeShape py).optional nofun) (some none)).and
          (Row.field "artifacts".toList (artifactShape py).list (some [])))))

/-- `TransportSession` -/
def sessionShape : Shape (SessionRecord py) :=
  (((ownerRow py).and ((stageRow py).and (backendRow py))).object
    false (nodup_keys sessionNames (by decide))).map
    (fun r => ((r.sessionId, r.targetKey, r.generation, r.provider, r.channelId, r.consoleEndpoint,
        r.rspEndpoint),
      (r.recordState, r.consoleLeaseToken, r.stopGuardToken, r.attachEpoch, r.breakPlan,
        r.executionState),
      (r.backendPid, r.backendStartTime, r.createdAt, r.endedAt, r.artifacts)))
    (fun ((sessionId, targetKey, generation, provider, channelId, consoleEndpoint, rspEndpoint),
        (recordState, consoleLeaseToken, stopGuardToken, attachEpoch, breakPlan, executionState),
        (backendPid, backendStartTime, createdAt, endedAt, artifacts)) =>
      { sessionId, targetKey, generation, provider, channelId, consoleEndpoint, rspEndpoint,
        recordState, consoleLeaseToken, stopGuardToken, attachEpoch, breakPlan, executionState,
        backendPid, backendStartTime, createdAt, endedAt, artifacts })
    fun _ => rfl

/-- `_load_tombstone` -/
def tombstoneShape : Shape RecoveryTombstone :=
  (((Row.field "provisioner".toList readString none).and
    ((Row.field "target_id".toList readString none).and
      ((Row.field "generation".toList (Shape.int readInt fun _ => rfl) none).and
        (Row.field "reason".toList readString none)))).object
    true (nodup_keys ["provisioner", "target_id", "generation", "reason"] (by decide))).map
    (fun t => (t.targetKey.provisioner, t.targetKey.targetId, t.generation, t.reason))
    (fun t => ⟨⟨t.1, t.2.1⟩, t.2.2.1, t.2.2.2⟩) fun _ => rfl

end Records

/-! ## Codecs -/

section Codecs

/-- What `json.dump` writes to a file. -/
def written? (v : Json) : Option (List Nat) := (dumps v).map Utf8.encode

/-- What is written is a text that is read as it was. -/
theorem written_eq {v : Json} {octets : List Nat} (h : written? v = some octets) :
    ∃ text, dumps v = some text ∧ Utf8.decodeStrict octets = some text := by
  obtain ⟨text, htext, rfl⟩ := Option.map_eq_some_iff.mp h
  exact ⟨text, htext, Utf8.decodeStrict_encode text⟩

/-- `model_validate_json` of a file -/
def loadRecord (py : Pydantic) (octets : List Nat) : Except DiskError (SessionRecord py) :=
  match Utf8.decodeStrict octets with
  | none => .error .value
  | some text => ((py.parse text).bind (sessionShape py).load).elim (.error .malformed) .ok

/-- What `json.loads` raises. -/
def ofFault : Fault → DiskError
  | .decode | .fuel => .malformed
  | .tooManyDigits => .value
  | .recursion => .recursion

/-- The tombstone of a file. -/
def loadTombstoneFile (room : Nat) (octets : List Nat) : Except DiskError RecoveryTombstone :=
  match Utf8.decodeStrict octets with
  | none => .error .value
  | some text => do
      let v ← (loads Json.builder room text).mapError ofFault
      (tombstoneShape.load v).elim (.error .malformed) .ok

/-- Records. -/
def recordCodec (py : Pydantic) : Codec (SessionRecord py) where
  encode session := written? ((sessionShape py).dump session)
  load := loadRecord py
  load_encode session octets h := by
    obtain ⟨text, htext, hdecode⟩ := written_eq h
    have hdeep : (sessionShape py).deep = 3 := rfl
    have htidy := (sessionShape py).tidy session 200 (by omega)
    simp [loadRecord, hdecode, py.parse_dumps _ _ htidy htext, (sessionShape py).load_dump]

/-- Tombstones, with the room for nested containers that the interpreter has. -/
def tombCodec (room : Nat) (hroom : 0 < room) : Codec RecoveryTombstone where
  encode tombstone := written? (tombstoneShape.dump tombstone)
  load := loadTombstoneFile room
  load_encode tombstone octets h := by
    obtain ⟨text, htext, hdecode⟩ := written_eq h
    have hloads := loads_dumps (tombstoneShape.tidy tombstone room hroom) htext
    simp only [loadTombstoneFile, hdecode, hloads]
    show (tombstoneShape.load (tombstoneShape.dump tombstone)).elim _ _ = _
    rw [tombstoneShape.load_dump]
    rfl

/-- The files of the registry. -/
def registryFormat (sha256 : Sha256) (py : Pydantic) (room : Nat) (hroom : 0 < room) :
    Format (SessionRecord py) where
  sha256 := sha256
  records := recordCodec py
  tombs := tombCodec room hroom
  target := SessionRecord.targetKey
  sessionId session := session.sessionId.val

end Codecs

/-! ## Two targets -/

/-- A reader of JSON values that coerces nothing, and that knows one time and one address. -/
def plainPydantic : Pydantic where
  str := readText
  int := readInt
  bool
    | .bool b => some b
    | _ => none
  Datetime := Unit
  isoformat _ := "2026-01-01T00:00:00Z".toList
  datetime v := if readText v = some "2026-01-01T00:00:00Z".toList then some () else none
  isLoopback host := host = "127.0.0.1".toList
  parse text := (loads Json.builder 200 text).toOption
  str_str := readText_text
  int_int _ := rfl
  bool_bool _ := rfl
  datetime_isoformat _ := by rw [if_pos (readText_text _)]
  parse_dumps v text h hdumps := by
    rw [loads_dumps h hdumps]
    rfl

/-- Two targets. -/
def firstTarget : TargetKey := ⟨"local-qemu", "vm-1"⟩

def secondTarget : TargetKey := ⟨"local-qemu", "vm-2"⟩

/-- The digests of their keys. -/
def knownDigests : Sha256 := fun payload =>
  if payload = [0, 0, 0, 10, 108, 111, 99, 97, 108, 45, 113, 101, 109, 117, 0, 0, 0, 4, 118, 109, 45, 49]
  then "9a380f9d6519462727bedc7478edf72bf9e1c61cc3abe7aaa28e29237193d395".toList
  else "66870a29e107be958f639a0f9851250f788feec5c9e6f125437d847a99858ef9".toList

/-- A record of the first one. -/
def firstSession : SessionRecord plainPydantic where
  sessionId := ⟨"transport-0123456789abcdef0123456789abcdef".toList, by decide⟩
  targetKey := firstTarget
  generation := ⟨1, by decide⟩
  provider := "qemu-gdbstub".toList
  channelId := "rsp".toList
  consoleEndpoint := none
  rspEndpoint := some (.inl ⟨⟨"127.0.0.1".toList, by decide⟩, ⟨1234, by decide⟩⟩)
  recordState := .ready
  consoleLeaseToken := none
  stopGuardToken := none
  attachEpoch := ⟨0, le_rfl⟩
  breakPlan := none
  executionState := .executing
  backendPid := some ⟨4242, by decide⟩
  backendStartTime := some "8812".toList
  createdAt := ()
  endedAt := none
  artifacts := []

def known (targetKey : TargetKey) : Prop := targetKey = firstTarget ∨ targetKey = secondTarget

/-- Their registry. -/
def knownFormat : Format (SessionRecord plainPydantic) :=
  registryFormat knownDigests plainPydantic 200 (by decide)

theorem digested_two : Digested knownDigests known where
  fits := by
    rintro k (rfl | rfl) <;> decide
  collisionFree := by
    rintro k k' (rfl | rfl) (rfl | rfl) h
    · rfl
    · exact absurd h (by decide)
    · exact absurd h (by decide)
    · rfl

end Kdive.Registry

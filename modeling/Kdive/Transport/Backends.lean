import Kdive.Lib.Checked
import Kdive.Seams.TransportState

/-!
# What an attach connects to

The two transports read the channel of the request they are handed.  The gdbstub
transport takes host and port from its options.  The serial transport takes the
device, and the terminal server or the speed of the line, from its routing data,
and from its options only whether the line supports a uart break.

`attachConnection` is the connection an attach makes before any outcome of the
network or the device is known.  It reads `str` and `int` of the source language
and the address library through `PyText`.
-/

namespace Kdive

open Checked

/-! ## Values of the source language -/

/-- How values print and texts read. -/
structure PyText where
  str : Routing → String
  repr : Routing → String
  /-- `int` of a text. -/
  int : String → Option Int
  isLoopback : String → Bool
  str_text : ∀ s, str (.str s) = s

/-- `int` of a value. -/
def PyText.toInt (py : PyText) : Routing → Option Int
  | .bool b => some (if b then 1 else 0)
  | .int n => some n
  | .float q => some (q.num.tdiv q.den)
  | .str s => py.int s
  | .null | .seq _ | .map _ => none

theorem PyText.toInt_number (py : PyText) {v : Routing} {q : Rat} (h : v.number? = some q) :
    py.toInt v = some (q.num.tdiv q.den) := by
  cases v with
  | bool b =>
      cases b <;> simp_all [Routing.number?, PyText.toInt]
      all_goals subst h; rfl
  | int n =>
      simp only [Routing.number?, Option.some.injEq] at h
      subst h
      simp [PyText.toInt]
  | float q' => simp_all [Routing.number?, PyText.toInt]
  | null | str s | seq items | map entries => cases h

/-- The truth value of a value. -/
def Routing.truthy : Routing → Bool
  | .null => false
  | .bool b => b
  | .int n => n ≠ 0
  | .float q => q ≠ 0
  | .str s => s ≠ ""
  | .seq items => ¬ items.isEmpty
  | .map entries => ¬ entries.isEmpty

/-- `get` that is not `None`. -/
def present (entries : List (String × Routing)) (k : String) : Option Routing :=
  match entries.lookup k with
  | some .null => none
  | found => found

/-! ## Connections -/

/-- What agent-proxy reads from. -/
inductive ProxySource where
  | localDevice (device : String) (baud : Int)
  | remoteTerminalServer (host : String) (port : Int)
deriving DecidableEq, Repr

/-- What a backend is connected to. -/
inductive Connection where
  | gdbstub (host : String) (port : Int)
  | demux (device : String) (source : ProxySource) (supportsUartBreak : Bool)
  | console (device : String)
deriving DecidableEq, Repr

/-- An attach that was refused. -/
structure AttachError where
  message : String
  category : ErrorCategory
deriving DecidableEq, Repr

/-! ## qemu-gdbstub -/

/-- The host a mapping names, by default the loopback address. -/
def hostOf (py : PyText) (entries : List (String × Routing)) : String :=
  py.str ((entries.lookup "host").getD (.str "127.0.0.1"))

/-- The port a mapping names. -/
def portOf (py : PyText) (entries : List (String × Routing)) : Option Int :=
  (entries.lookup "port").bind py.toInt

/-- The address of a gdbstub: a loopback host and a port in range. -/
def gdbstubAddress (py : PyText) (entries : List (String × Routing)) :
    Except AttachError Connection := do
  let port ← require (portOf py entries)
    { message := "qemu-gdbstub transport_ref.opts['port'] must be an integer, got " ++
        py.repr ((entries.lookup "port").getD .null)
      category := .configurationError }
  refuse (¬ (1 ≤ port ∧ port ≤ 65535))
    { message := s!"qemu-gdbstub port out of range (1-65535), got {port}"
      category := .configurationError }
  refuse (py.isLoopback (hostOf py entries) = false)
    { message := "qemu-gdbstub host must be a loopback IP literal, got " ++
        py.repr (.str (hostOf py entries))
      category := .configurationError }
  return .gdbstub (hostOf py entries) port

/-! ## serial-local -/

/-- A character of the Unicode category `Cc`. -/
def isControl (c : Char) : Bool :=
  c.toNat < 32 || (127 ≤ c.toNat && c.toNat < 160)

/-- The device a serial channel names. -/
def validateSource (py : PyText) (targetRef : List (String × Routing)) :
    Except AttachError String := do
  let device ← require
    (match targetRef.lookup "device" with
      | some (.str device) => if device = "" then none else some device
      | _ => none)
    { message := "serial-local target_ref must carry a non-empty 'device' path"
      category := .configurationError }
  refuse (device.toList.any isControl = true)
    { message := "serial-local device path must not contain control characters, got " ++
        py.repr (.str device)
      category := .configurationError }
  refuse (device.toList.head? ≠ some '/')
    { message := "serial-local device path must be absolute, got " ++ py.repr (.str device)
      category := .configurationError }
  return device

/-- The terminal server a serial channel names, when it names one. -/
def remoteOf (targetRef : List (String × Routing)) : Option (Routing × Routing) :=
  match present targetRef "host", present targetRef "port" with
  | some host, some port => some (host, port)
  | _, _ => none

/-- `_build_source`. -/
def buildSource (py : PyText) (device : String) (targetRef : List (String × Routing)) :
    Except AttachError ProxySource :=
  match remoteOf targetRef with
  | some (host, port) => do
      let portInt ← require (py.toInt port)
        { message := "serial-local target_ref['port'] must be an integer, got " ++ py.repr port
          category := .configurationError }
      return .remoteTerminalServer (py.str host) portInt
  | none => do
      let rawBaud := (targetRef.lookup "baud").getD (.int 115200)
      let baud ← require (py.toInt rawBaud)
        { message := "serial-local target_ref['baud'] must be an integer, got " ++ py.repr rawBaud
          category := .configurationError }
      return .localDevice device baud

/-- The line is demultiplexed by agent-proxy. -/
def Demuxed (ref : TransportRef) : Prop :=
  ref.lineRole = .dedicatedDebug ∨ ref.lineRole = .rsp

instance (ref : TransportRef) : Decidable (Demuxed ref) :=
  inferInstanceAs (Decidable (_ ∨ _))

/-- The options say the line supports a uart break.  By default it does. -/
def supportsUartBreak (opts : List (String × Routing)) : Bool :=
  ((opts.lookup "supports_uart_break").getD (.bool true)).truthy

/-- The connection of a serial attach. -/
def serialConnection (py : PyText) (ref : TransportRef) : Except AttachError Connection := do
  let device ← validateSource py ref.targetRef
  if Demuxed ref then
    let source ← buildSource py device ref.targetRef
    return .demux device source (supportsUartBreak ref.opts)
  else
    return .console device

/-! ## Attach -/

/-- The connection the transport of a channel makes when it attaches. -/
def attachConnection (py : PyText) (ref : TransportRef) : Except AttachError Connection :=
  if ref.provider = "qemu-gdbstub" then gdbstubAddress py ref.opts
  else if ref.provider = "serial-local" then serialConnection py ref
  else .error { message := s!"unknown transport provider: {ref.provider}", category := .configurationError }

/-- The endpoint a published channel describes.  A gdbstub's stands in its routing
data, where boot puts it. -/
def describedConnection (py : PyText) (channel : TransportRef) : Except AttachError Connection :=
  if channel.provider = "qemu-gdbstub" then gdbstubAddress py channel.targetRef
  else attachConnection py channel

/-! ## What the connections say -/

section

variable {py : PyText} {entries targetRef : List (String × Routing)} {ref : TransportRef}
  {x : Connection} {device : String} {source : ProxySource}

theorem gdbstubAddress_eq_ok :
    gdbstubAddress py entries = .ok x ↔
      ∃ port, portOf py entries = some port ∧ (1 ≤ port ∧ port ≤ 65535) ∧
        py.isLoopback (hostOf py entries) = true ∧ .gdbstub (hostOf py entries) port = x := by
  simp only [gdbstubAddress, bind_eq_ok, require_eq_ok, refuse_eq_ok, pure_eq_ok, exists_const,
    not_not, Bool.not_eq_false]

theorem validateSource_eq_ok :
    validateSource py targetRef = .ok device ↔
      targetRef.lookup "device" = some (.str device) ∧ device ≠ "" ∧
        device.toList.any isControl = false ∧ device.toList.head? = some '/' := by
  simp only [validateSource, bind_eq_ok, require_eq_ok, refuse_eq_ok, pure_eq_ok, exists_const,
    not_not, Bool.not_eq_true]
  constructor
  · rintro ⟨found, hfound, hcontrol, habsolute, rfl⟩
    split at hfound
    · rename_i text htext
      simp only [Option.ite_none_left_eq_some, Option.some.injEq] at hfound
      obtain ⟨hnonempty, rfl⟩ := hfound
      exact ⟨htext, hnonempty, hcontrol, habsolute⟩
    · cases hfound
  · rintro ⟨hdevice, hnonempty, hcontrol, habsolute⟩
    refine ⟨device, ?_, hcontrol, habsolute, rfl⟩
    rw [hdevice]
    exact if_neg hnonempty

theorem buildSource_eq_ok :
    buildSource py device targetRef = .ok source ↔
      (∃ host port n, remoteOf targetRef = some (host, port) ∧ py.toInt port = some n ∧
        .remoteTerminalServer (py.str host) n = source) ∨
      (remoteOf targetRef = none ∧
        ∃ n, py.toInt ((targetRef.lookup "baud").getD (.int 115200)) = some n ∧
          .localDevice device n = source) := by
  unfold buildSource
  cases hremote : remoteOf targetRef with
  | none => simp only [bind_eq_ok, require_eq_ok, pure_eq_ok]; simp
  | some remote =>
      obtain ⟨host, port⟩ := remote
      simp only [bind_eq_ok, require_eq_ok, pure_eq_ok]
      simp

theorem serialConnection_eq_ok :
    serialConnection py ref = .ok x ↔
      ∃ device, validateSource py ref.targetRef = .ok device ∧
        ((Demuxed ref ∧ ∃ source, buildSource py device ref.targetRef = .ok source ∧
            .demux device source (supportsUartBreak ref.opts) = x) ∨
          (¬ Demuxed ref ∧ .console device = x)) := by
  unfold serialConnection
  by_cases hdemuxed : Demuxed ref
  · simp [hdemuxed]
  · simp [hdemuxed]

end

end Kdive

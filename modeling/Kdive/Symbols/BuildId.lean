import Kdive.Lib.ByteOrder
import Kdive.Lib.Program

/-!
# Build ids on the host

`readElfBuildId` and `readVmcoreBuildId` read an ELF file: the identification, the
header, the table of program headers, and each segment of notes until a note gives
the build id.  They differ in their errors and in the note they look for.

*Files.*  A reader is a program over `FileOp`, the calls it makes on its file.
`exec` answers them from a `File`.  A position beyond the signed 64-bit range is
refused with `OverflowError`, and a read of more than can be allocated raises
`MemoryError`.

*Notes.*  `scanNotesWith` walks over the notes of a segment.  `scanNotes` picks the
GNU build id, and `scanVmcoreinfo` the `BUILD-ID` line of a `VMCOREINFO` note.

*Failures.*  `Raised` tells a documented exception from the others that Python can
raise on the way.
-/

namespace Kdive.Symbols

open Program Prog ByteOrder

/-! ## Files -/

/-- The first number that is no signed 64-bit offset or size. -/
def seekLimit : Nat := 2 ^ 63

/-- A file on disk. -/
structure File where
  /-- Its octets. -/
  content : List UInt8
  /-- A size is a signed 64-bit number. -/
  short : content.length < seekLimit
  /-- Whether so many octets can be allocated. -/
  fits : Nat → Bool
  /-- Why it cannot be opened, if it cannot. -/
  denied : Option String := none

/-- A call on a file. -/
inductive FileOp where
  | openRb
  | seek (offset : Nat)
  | seekEnd
  | read (size : Nat)
deriving DecidableEq, Repr

/-- What a call returns. -/
abbrev FileOp.Resp : FileOp → Type
  | .openRb => Unit
  | .seek _ => Unit
  | .seekEnd => Nat
  | .read _ => List UInt8

/-- What a reader raises. -/
inductive Raised (ε : Type) where
  /-- An exception of its own. -/
  | documented (e : ε)
  /-- `OSError`, with its text. -/
  | osError (text : String)
  | overflowError
  | memoryError
  /-- `struct.error`: the octets end before the field. -/
  | structError
  /-- `IndexError`: the octets end before the index. -/
  | indexError
deriving DecidableEq, Repr

/-- A reader of a file. -/
abbrev Reader (ε α : Type) := Prog FileOp.Resp (Raised ε) α

variable {ε α β : Type}

/-- What a file answers, from a position. -/
def exec (file : File) : (o : FileOp) → Nat → Except (Raised ε) o.Resp × Nat
  | .openRb, position =>
      match file.denied with
      | some text => (.error (.osError text), position)
      | none => (.ok (), position)
  | .seek offset, position =>
      if seekLimit ≤ offset then (.error .overflowError, position) else (.ok (), offset)
  | .seekEnd, _ => (.ok file.content.length, file.content.length)
  | .read size, position =>
      if seekLimit ≤ size then (.error .overflowError, position)
      else if file.fits size = false then (.error .memoryError, position)
      else
        let data := file.content.extract position (position + size)
        (.ok data, position + data.length)

/-- `path.open("rb")`. -/
def openRb : Reader ε Unit := perform FileOp.openRb

/-- `fh.seek(offset)`. -/
def seek (offset : Nat) : Reader ε Unit := perform (FileOp.seek offset)

/-- `fh.seek(0, 2)`. -/
def seekEnd : Reader ε Nat := perform FileOp.seekEnd

/-- `fh.read(size)`. -/
def readUpTo (size : Nat) : Reader ε (List UInt8) := perform (FileOp.read size)

/-- `_read_exact`: so many octets from an offset.  Fewer are an error. -/
def readExact (truncated : Nat → Nat → ε) (offset size : Nat) : Reader ε (List UInt8) := do
  seek offset
  let blob ← readUpTo size
  if blob.length ≠ size then .raise (.documented (truncated size offset)) else pure blob

/-- `struct.unpack_from` of one unsigned field. -/
def unpackFrom (order : Order) (width : Nat) (blob : List UInt8) (off : Nat) : Reader ε Nat :=
  if off + width ≤ blob.length then pure (ByteOrder.read order (blob.extract off (off + width)))
  else .raise .structError

/-- `blob[i]`. -/
def octet (blob : List UInt8) (i : Nat) : Reader ε UInt8 :=
  match blob[i]? with
  | some b => pure b
  | none => .raise .indexError

/-! ## Notes -/

/-- `bytes.rstrip` of zeros. -/
def rstripZeros (octets : List UInt8) : List UInt8 := octets.rdropWhile (· = 0)

/-- `bytes.hex`. -/
def hex (octets : List UInt8) : List Char :=
  octets.flatMap fun b => [Nat.digitChar (b.toNat / 16), Nat.digitChar (b.toNat % 16)]

/-- The octets of an ASCII text. -/
def ascii (text : String) : List UInt8 := text.toList.map fun c => UInt8.ofNat c.toNat

/-- Walk over the notes of a segment, up to the first that `pick` takes.  A note that
runs past the segment ends the walk. -/
def scanNotesWith (pick : Nat → List UInt8 → List UInt8 → Option (List Char))
    (blob : List UInt8) (order : Order) (off : Nat) : Option (List Char) :=
  if off + 12 ≤ blob.length then
    let namesz := ByteOrder.read order (blob.extract off (off + 4))
    let descsz := ByteOrder.read order (blob.extract (off + 4) (off + 8))
    let ntype := ByteOrder.read order (blob.extract (off + 8) (off + 12))
    let nameEnd := off + 12 + namesz
    let descStart := nameEnd + pad nameEnd
    let descEnd := descStart + descsz
    if blob.length < descEnd then none
    else
      match pick ntype (blob.extract (off + 12) nameEnd) (blob.extract descStart descEnd) with
      | some id => some id
      | none => scanNotesWith pick blob order (descEnd + pad descEnd)
  else none
termination_by blob.length - off

/-- `NT_GNU_BUILD_ID`. -/
def ntGnuBuildId : Nat := 3

/-- `PT_NOTE`. -/
def ptNote : Nat := 4

/-- A GNU build id. -/
def pickGnu (ntype : Nat) (name desc : List UInt8) : Option (List Char) :=
  if ntype = ntGnuBuildId ∧ rstripZeros name = ascii "GNU" then some (hex desc) else none

/-- `_scan_notes`. -/
def scanNotes (blob : List UInt8) (order : Order) : Option (List Char) :=
  scanNotesWith pickGnu blob order 0

/-! ## The `BUILD-ID` line -/

/-- A hexadecimal digit. -/
def isHexDigit (b : UInt8) : Bool :=
  (48 ≤ b && b ≤ 57) || (65 ≤ b && b ≤ 70) || (97 ≤ b && b ≤ 102)

/-- White space of a regular expression over octets. -/
def isSpace (b : UInt8) : Bool := b = 32 || (9 ≤ b && b ≤ 13)

/-- `\s*$`: white space up to an end of line. -/
def blankToEol : List UInt8 → Bool
  | [] => true
  | b :: rest => b = 10 || (isSpace b && blankToEol rest)

/-- `BUILD-ID=([0-9A-Fa-f]+)\s*$` here.  Fewer digits never help, since the next
octet would be a digit. -/
def matchHere (octets : List UInt8) : Option (List UInt8) :=
  if (ascii "BUILD-ID=").isPrefixOf octets then
    let rest := octets.drop (ascii "BUILD-ID=").length
    let digits := rest.takeWhile isHexDigit
    if digits ≠ [] ∧ blankToEol (rest.dropWhile isHexDigit) = true then some digits else none
  else none

/-- `_BUILD_ID_LINE.search`: the first match at a start of line. -/
def searchLine (atStart : Bool) : List UInt8 → Option (List UInt8)
  | [] => none
  | b :: rest =>
      match if atStart then matchHere (b :: rest) else none with
      | some digits => some digits
      | none => searchLine (b = 10) rest

/-- `.decode("ascii").lower()`. -/
def lowerAscii (octets : List UInt8) : List Char :=
  octets.map fun b => (Char.ofNat b.toNat).toLower

/-- The build id of a `VMCOREINFO` note. -/
def pickVmcoreinfo (_ntype : Nat) (name desc : List UInt8) : Option (List Char) :=
  if rstripZeros name = ascii "VMCOREINFO" then (searchLine true desc).map lowerAscii else none

/-- `_scan_vmcoreinfo`. -/
def scanVmcoreinfo (blob : List UInt8) (order : Order) : Option (List Char) :=
  scanNotesWith pickVmcoreinfo blob order 0

/-! ## Readers -/

/-- Where a class of ELF files keeps its fields. -/
structure Layout where
  /-- The name of the class. -/
  name : String
  /-- The size of the header. -/
  ehdrSize : Nat
  /-- The width of an offset. -/
  wordSize : Nat
  /-- `e_phoff` in the header. -/
  phoffAt : Nat
  /-- `e_phentsize` in the header, and `e_phnum` behind it. -/
  phentsizeAt : Nat
  /-- The least size of a program header. -/
  minPhentsize : Nat
  /-- `p_offset` in a program header. -/
  offsetAt : Nat
  /-- `p_filesz` in a program header. -/
  fileszAt : Nat
deriving DecidableEq, Repr

/-- 64-bit files. -/
def elf64 : Layout := ⟨"ELF64", 64, 8, 32, 54, 56, 8, 32⟩

/-- 32-bit files. -/
def elf32 : Layout := ⟨"ELF32", 52, 4, 28, 42, 32, 4, 16⟩

/-- What a reader looks for, and what it raises. -/
structure Spec (ε : Type) where
  /-- A read came short: the size and the offset. -/
  truncated : Nat → Nat → ε
  /-- An unknown class or byte order. -/
  unsupported : ε
  /-- A table without an entry. -/
  noHeaders : ε
  /-- Entries that are too small. -/
  implausible : Nat → String → ε
  /-- A table that does not end in the file: its size, its offset, the file's size. -/
  pastEof : Nat → Nat → Nat → ε
  /-- No segment has the note. -/
  absent : ε
  /-- The walk over a segment. -/
  scan : List UInt8 → Order → Option (List Char)

variable (spec : Spec ε)

/-- The loop over the program headers. -/
def findNote (layout : Layout) (order : Order) (phdrs : List UInt8) (ePhentsize : Nat) :
    List Nat → Reader ε (Option (List Char))
  | [] => pure none
  | i :: rest => do
      let ph := i * ePhentsize
      let pType ← unpackFrom order 4 phdrs ph
      if pType ≠ ptNote then findNote layout order phdrs ePhentsize rest
      else
        let pOffset ← unpackFrom order layout.wordSize phdrs (ph + layout.offsetAt)
        let pFilesz ← unpackFrom order layout.wordSize phdrs (ph + layout.fileszAt)
        let blob ← readExact spec.truncated pOffset pFilesz
        match spec.scan blob order with
        | some id => pure (some id)
        | none => findNote layout order phdrs ePhentsize rest

/-- What both readers do after the magic number. -/
def readHeaders (ident : List UInt8) : Reader ε (List Char) := do
  let eiClass ← octet ident 4
  let eiData ← octet ident 5
  if eiClass ∉ [1, 2] ∨ eiData ∉ [1, 2] then .raise (.documented spec.unsupported)
  else
    let order : Order := if eiData = 1 then .little else .big
    let layout := if eiClass = 2 then elf64 else elf32
    let ehdr ← readExact spec.truncated 0 layout.ehdrSize
    let ePhoff ← unpackFrom order layout.wordSize ehdr layout.phoffAt
    let ePhentsize ← unpackFrom order 2 ehdr layout.phentsizeAt
    let ePhnum ← unpackFrom order 2 ehdr (layout.phentsizeAt + 2)
    if ePhnum = 0 then .raise (.documented spec.noHeaders)
    else if ePhentsize < layout.minPhentsize then
      .raise (.documented (spec.implausible ePhentsize layout.name))
    else
      let tableBytes := ePhentsize * ePhnum
      let fileSize ← seekEnd
      if fileSize < ePhoff + tableBytes then
        .raise (.documented (spec.pastEof tableBytes ePhoff fileSize))
      else
        let phdrs ← readExact spec.truncated ePhoff tableBytes
        match ← findNote spec layout order phdrs ePhentsize (List.range ePhnum) with
        | some id => pure id
        | none => .raise (.documented spec.absent)

/-- `except OSError`: it becomes an error of the reader's own. -/
def catchOsError (wrap : String → ε) : Raised ε → Reader ε α
  | .osError text => .raise (.documented (wrap text))
  | e => .raise e

/-- The magic number of ELF. -/
def elfMagic : List UInt8 := [0x7f, 0x45, 0x4c, 0x46]

/-- `BuildIdReadError`. -/
structure BuildIdReadError where
  /-- The message. -/
  message : String
deriving DecidableEq, Repr

/-- The reader of a `vmlinux`. -/
def elfSpec : Spec BuildIdReadError where
  truncated size offset := ⟨s!"ELF truncated reading {size} bytes at offset {offset}"⟩
  unsupported := ⟨"unsupported ELF class/endianness"⟩
  noHeaders := ⟨"no program headers; cannot locate notes"⟩
  implausible size name := ⟨s!"implausible e_phentsize {size} for {name}"⟩
  pastEof table offset size :=
    ⟨s!"program-header table ({table} bytes at offset {offset}) extends past EOF ({size})"⟩
  absent := ⟨"no NT_GNU_BUILD_ID note found"⟩
  scan := scanNotes

/-- `read_elf_build_id`. -/
def readElfBuildId (path : String) : Reader BuildIdReadError (List Char) :=
  rescue (do
    openRb
    let ident ← readExact elfSpec.truncated 0 16
    if ident.take 4 ≠ elfMagic then .raise (.documented ⟨"not an ELF file (bad magic)"⟩)
    else readHeaders elfSpec ident)
  (catchOsError fun text => ⟨s!"cannot read {path}: {text}"⟩)

/-- The exceptions of `read_vmcore_build_id`. -/
inductive VmcoreError where
  /-- `VmcoreBuildIdError`. -/
  | buildIdError (message : String)
  /-- `VmcoreFormatUnsupported`. -/
  | formatUnsupported (message : String)
  /-- `VmcoreBuildIdAbsent`. -/
  | buildIdAbsent (message : String)
deriving DecidableEq, Repr

/-- The reader of a core. -/
def vmcoreSpec : Spec VmcoreError where
  truncated size offset :=
    .buildIdError s!"vmcore truncated reading {size} bytes at offset {offset}"
  unsupported := .buildIdError "unsupported ELF class/endianness"
  noHeaders := .buildIdAbsent "vmcore has no program headers"
  implausible size name := .buildIdError s!"implausible e_phentsize {size} for {name}"
  pastEof table offset size := .buildIdError
    s!"program-header table ({table} bytes at offset {offset}) extends past EOF ({size})"
  absent := .buildIdAbsent "no VMCOREINFO BUILD-ID note found"
  scan := scanVmcoreinfo

/-- `read_vmcore_build_id`. -/
def readVmcoreBuildId (path : String) : Reader VmcoreError (List Char) :=
  rescue (do
    openRb
    let ident ← readUpTo 16
    if ident.take 4 ≠ elfMagic then
      .raise (.documented (.formatUnsupported "vmcore is not an ELF container"))
    else if ident.length < 16 then
      .raise (.documented (.buildIdError "ELF ident truncated"))
    else readHeaders vmcoreSpec ident)
  (catchOsError fun text => .buildIdError s!"cannot read {path}: {text}")

/-! ## What a reader computes -/

/-- A part of a part. -/
theorem extract_extract (octets : List UInt8) {first last a b : Nat} (h : first + b ≤ last) :
    (octets.extract first last).extract a b = octets.extract (first + a) (first + b) := by
  simp only [List.extract]
  rw [List.drop_take, List.drop_drop, List.take_take]
  congr 1
  omega

/-- A part inside the octets has its full length. -/
theorem length_extract_of_le {octets : List UInt8} {first size : Nat}
    (h : first + size ≤ octets.length) :
    (octets.extract first (first + size)).length = size := by
  rw [List.length_take, List.length_drop]
  omega

/-- An unsigned field in some octets. -/
def fieldAt (order : Order) (width : Nat) (octets : List UInt8) (off : Nat) : Nat :=
  ByteOrder.read order (octets.extract off (off + width))

theorem unpackFrom_bind {order : Order} {width off : Nat} {blob : List UInt8}
    (h : off + width ≤ blob.length) (f : Nat → Reader ε α) :
    (unpackFrom order width blob off >>= f) = f (fieldAt order width blob off) := by
  rw [unpackFrom, if_pos h]
  rfl

theorem octet_bind {blob : List UInt8} {i : Nat} {b : UInt8} (h : blob[i]? = some b)
    (f : UInt8 → Reader ε α) : (octet blob i >>= f) = f b := by
  rw [octet, h]
  rfl

/-- The header of a file. -/
structure Header where
  /-- The class. -/
  layout : Layout
  /-- The byte order. -/
  order : Order
  /-- `e_phoff`. -/
  ePhoff : Nat
  /-- `e_phentsize`. -/
  ePhentsize : Nat
  /-- `e_phnum`. -/
  ePhnum : Nat
deriving DecidableEq, Repr

/-- The header that stands in some octets, for a class and a byte order. -/
def headerAs (layout : Layout) (order : Order) (octets : List UInt8) : Header where
  layout := layout
  order := order
  ePhoff := fieldAt order layout.wordSize octets layout.phoffAt
  ePhentsize := fieldAt order 2 octets layout.phentsizeAt
  ePhnum := fieldAt order 2 octets (layout.phentsizeAt + 2)

/-- The header of a file. -/
def headerOf (octets : List UInt8) : Header :=
  headerAs (if octets[4]? = some 2 then elf64 else elf32)
    (if octets[5]? = some 1 then .little else .big) octets

namespace Header

/-- The size of the table. -/
def tableBytes (header : Header) : Nat := header.ePhentsize * header.ePhnum

/-- The table. -/
def table (header : Header) (octets : List UInt8) : List UInt8 :=
  octets.extract header.ePhoff (header.ePhoff + header.tableBytes)

/-- The segment of notes that an entry of a table describes: its offset and its size. -/
def segmentAt (header : Header) (phdrs : List UInt8) (i : Nat) : Option (Nat × Nat) :=
  let ph := i * header.ePhentsize
  if fieldAt header.order 4 phdrs ph = ptNote then
    some (fieldAt header.order header.layout.wordSize phdrs (ph + header.layout.offsetAt),
      fieldAt header.order header.layout.wordSize phdrs (ph + header.layout.fileszAt))
  else none

/-- The segments of notes, in the order of the table. -/
def segments (header : Header) (octets : List UInt8) : List (Nat × Nat) :=
  (List.range header.ePhnum).filterMap (header.segmentAt (header.table octets))

/-- The header has a table with entries of a plausible size. -/
def Plausible (header : Header) : Prop :=
  header.ePhnum ≠ 0 ∧ header.layout.minPhentsize ≤ header.ePhentsize

end Header

/-- What `_read_exact` computes. -/
def readResult (truncated : Nat → Nat → ε) (file : File) (offset size : Nat) :
    Except (Raised ε) (List UInt8) :=
  if seekLimit ≤ offset ∨ seekLimit ≤ size then .error .overflowError
  else if file.fits size = false then .error .memoryError
  else
    let data := file.content.extract offset (offset + size)
    if data.length ≠ size then .error (.documented (truncated size offset)) else .ok data

theorem run_readExact (truncated : Nat → Nat → ε) (file : File) (offset size position : Nat) :
    ((readExact truncated offset size).run (exec file) position).1 =
      readResult truncated file offset size := by
  simp only [readExact, seek, readUpTo, readResult, run_bind, run_perform, exec]
  by_cases hoffset : seekLimit ≤ offset
  · simp only [hoffset, if_true, true_or]
  · simp only [hoffset, if_false, false_or]
    by_cases hsize : seekLimit ≤ size
    · simp only [hsize, if_true]
    · simp only [hsize, if_false]
      cases file.fits size with
      | false => rfl
      | true =>
          simp only [Bool.true_eq_false, if_false]
          split <;> rfl

section

variable (spec : Spec ε) (file : File)

/-- The loop over the segments of notes. -/
def findSegments (order : Order) : List (Nat × Nat) → Reader ε (Option (List Char))
  | [] => pure none
  | (offset, size) :: rest => do
      let blob ← readExact spec.truncated offset size
      match spec.scan blob order with
      | some id => pure (some id)
      | none => findSegments order rest

/-- What it computes. -/
def walk (order : Order) : List (Nat × Nat) → Except (Raised ε) (Option (List Char))
  | [] => .ok none
  | (offset, size) :: rest => do
      let blob ← readResult spec.truncated file offset size
      match spec.scan blob order with
      | some id => .ok (some id)
      | none => walk order rest

/-- An octet that may be missing is checked by itself, not among all octets. -/
local instance decidableOctet (octet : Option UInt8) (p : UInt8 → Prop) [DecidablePred p] :
    Decidable (∀ b ∈ octet, p b) := Option.decidableForallMem octet

/-- What `readHeaders` computes. -/
def headersResult : Except (Raised ε) (List Char) :=
  if (∀ b ∈ file.content[4]?, b ∉ [1, 2]) ∨ (∀ b ∈ file.content[5]?, b ∉ [1, 2]) then
    .error (.documented spec.unsupported)
  else do
    let header := headerOf file.content
    let _ ← readResult spec.truncated file 0 header.layout.ehdrSize
    if header.ePhnum = 0 then .error (.documented spec.noHeaders)
    else if header.ePhentsize < header.layout.minPhentsize then
      .error (.documented (spec.implausible header.ePhentsize header.layout.name))
    else if file.content.length < header.ePhoff + header.tableBytes then
      .error (.documented (spec.pastEof header.tableBytes header.ePhoff file.content.length))
    else do
      let _ ← readResult spec.truncated file header.ePhoff header.tableBytes
      match ← walk spec file header.order (header.segments file.content) with
      | some id => .ok id
      | none => .error (.documented spec.absent)

variable {spec file}

theorem readResult_eq_ok {truncated : Nat → Nat → ε} {offset size : Nat} {data : List UInt8}
    (h : readResult truncated file offset size = .ok data) :
    data = file.content.extract offset (offset + size) ∧ data.length = size := by
  rw [readResult] at h
  split at h
  · cases h
  · split at h
    · cases h
    · dsimp only at h
      split at h
      · cases h
      · rename_i hlength
        cases h
        exact ⟨rfl, not_not.mp hlength⟩

/-- The entries of the table are its segments of notes and others. -/
theorem findNote_eq {header : Header} {phdrs : List UInt8} {entries : List Nat}
    (hlength : phdrs.length = header.tableBytes) (hentries : ∀ i ∈ entries, i < header.ePhnum)
    (hlayout : header.layout = elf64 ∨ header.layout = elf32)
    (hsize : header.layout.minPhentsize ≤ header.ePhentsize) :
    findNote spec header.layout header.order phdrs header.ePhentsize entries =
      findSegments spec header.order (entries.filterMap (header.segmentAt phdrs)) := by
  induction entries with
  | nil => rfl
  | cons i rest ih =>
      obtain ⟨hi, hrest⟩ := List.forall_mem_cons.mp hentries
      have hentry : i * header.ePhentsize + header.ePhentsize ≤ phdrs.length := by
        rw [hlength, Header.tableBytes, ← Nat.succ_mul, Nat.mul_comm header.ePhentsize]
        exact Nat.mul_le_mul_right _ hi
      have hinside : 4 ≤ header.ePhentsize ∧
          header.layout.offsetAt + header.layout.wordSize ≤ header.ePhentsize ∧
          header.layout.fileszAt + header.layout.wordSize ≤ header.ePhentsize := by
        rcases hlayout with hlayout | hlayout <;> rw [hlayout] at hsize ⊢ <;>
          simp only [elf64, elf32] at hsize ⊢ <;> omega
      rw [findNote, unpackFrom_bind (by omega), ih hrest]
      by_cases hnote : fieldAt header.order 4 phdrs (i * header.ePhentsize) = ptNote
      · rw [List.filterMap_cons_some (by rw [Header.segmentAt, if_pos hnote]), findSegments,
          if_neg (not_not.mpr hnote), unpackFrom_bind (by omega), unpackFrom_bind (by omega)]
      · rw [List.filterMap_cons_none (by rw [Header.segmentAt, if_neg hnote]), if_pos hnote]

/-- A result and what follows from it. -/
theorem run_bind_result {x : Reader ε α} {f : α → Reader ε β} {r : Except (Raised ε) α}
    {result : α → Except (Raised ε) β} {position : Nat}
    (hx : (x.run (exec file) position).1 = r)
    (hf : ∀ a position', r = .ok a → ((f a).run (exec file) position').1 = result a) :
    ((x >>= f).run (exec file) position).1 = (r >>= result) := by
  rw [run_bind]
  rcases hrun : x.run (exec file) position with ⟨r', position'⟩
  rw [hrun] at hx
  subst hx
  cases r' with
  | error e => rfl
  | ok a => exact hf a position' rfl

/-- A read and what follows it, which may rely on what was read. -/
theorem run_readExact_bind {truncated : Nat → Nat → ε} {offset size position : Nat}
    {f : List UInt8 → Reader ε α} {result : List UInt8 → Except (Raised ε) α}
    (h : ∀ data position', data = file.content.extract offset (offset + size) →
      data.length = size → ((f data).run (exec file) position').1 = result data) :
    ((readExact truncated offset size >>= f).run (exec file) position).1 =
      (readResult truncated file offset size >>= result) := by
  refine run_bind_result (run_readExact truncated file offset size position) ?_
  intro data position' hread
  obtain ⟨hdata, hlength⟩ := readResult_eq_ok hread
  exact h data position' hdata hlength

theorem run_seekEnd_bind (f : Nat → Reader ε α) (position : Nat) :
    (seekEnd >>= f).run (exec file) position =
      (f file.content.length).run (exec file) file.content.length := rfl

theorem run_findSegments (order : Order) (segments : List (Nat × Nat)) (position : Nat) :
    ((findSegments spec order segments).run (exec file) position).1 =
      walk spec file order segments := by
  induction segments generalizing position with
  | nil => rfl
  | cons segment rest ih =>
      rw [findSegments, walk]
      refine run_readExact_bind fun data position' _ _ => ?_
      cases spec.scan data order with
      | some id => rfl
      | none => exact ih position'

/-- A field of the first octets of a file. -/
theorem fieldAt_extract (order : Order) (octets : List UInt8) {width off last : Nat}
    (h : off + width ≤ last) :
    fieldAt order width (octets.extract 0 last) off = fieldAt order width octets off := by
  rw [fieldAt, fieldAt, extract_extract octets (by omega), Nat.zero_add, Nat.zero_add]

theorem headerOf_layout (octets : List UInt8) :
    (headerOf octets).layout = elf64 ∨ (headerOf octets).layout = elf32 := by
  simp only [headerOf, headerAs]
  split
  · exact Or.inl rfl
  · exact Or.inr rfl

theorem headerOf_bounds (octets : List UInt8) :
    (headerOf octets).layout.phoffAt + (headerOf octets).layout.wordSize ≤
        (headerOf octets).layout.ehdrSize ∧
      (headerOf octets).layout.phentsizeAt + 4 ≤ (headerOf octets).layout.ehdrSize := by
  rcases headerOf_layout octets with h | h <;> rw [h] <;> decide

/-- The class and the byte order are known ones. -/
def Supported (octets : List UInt8) : Prop :=
  (∃ b ∈ octets[4]?, b ∈ [1, 2]) ∧ ∃ b ∈ octets[5]?, b ∈ [1, 2]

theorem supported_iff {octets : List UInt8} : Supported octets ↔
    ¬ ((∀ b ∈ octets[4]?, b ∉ [1, 2]) ∨ ∀ b ∈ octets[5]?, b ∉ [1, 2]) := by
  simp only [Supported, not_or, not_forall, not_not, exists_prop]

/-- What `readHeaders` does with the header. -/
def readTable (spec : Spec ε) (header : Header) : Reader ε (List Char) :=
  if header.ePhnum = 0 then .raise (.documented spec.noHeaders)
  else if header.ePhentsize < header.layout.minPhentsize then
    .raise (.documented (spec.implausible header.ePhentsize header.layout.name))
  else do
    let fileSize ← seekEnd
    if fileSize < header.ePhoff + header.tableBytes then
      .raise (.documented (spec.pastEof header.tableBytes header.ePhoff fileSize))
    else do
      let phdrs ← readExact spec.truncated header.ePhoff header.tableBytes
      match ← findNote spec header.layout header.order phdrs header.ePhentsize
          (List.range header.ePhnum) with
      | some id => pure id
      | none => .raise (.documented spec.absent)

/-- The reader of a file with an identification, up to its header. -/
theorem readHeaders_eq (spec : Spec ε) (hident : 16 ≤ file.content.length) :
    ∃ rest, readHeaders spec (file.content.extract 0 16) =
        (if (∀ b ∈ file.content[4]?, b ∉ [1, 2]) ∨ (∀ b ∈ file.content[5]?, b ∉ [1, 2]) then
          .raise (.documented spec.unsupported)
        else readExact spec.truncated 0 (headerOf file.content).layout.ehdrSize >>= rest) ∧
      ∀ ehdr, ehdr = file.content.extract 0 (0 + (headerOf file.content).layout.ehdrSize) →
        ehdr.length = (headerOf file.content).layout.ehdrSize →
          rest ehdr = readTable spec (headerOf file.content) := by
  obtain ⟨eiClass, hc⟩ : ∃ b, file.content[4]? = some b :=
    ⟨_, List.getElem?_eq_getElem (by omega)⟩
  obtain ⟨eiData, hd⟩ : ∃ b, file.content[5]? = some b :=
    ⟨_, List.getElem?_eq_getElem (by omega)⟩
  have hclass : (file.content.extract 0 16)[4]? = some eiClass := by simp [hc]
  have hdata : (file.content.extract 0 16)[5]? = some eiData := by simp [hd]
  have hheader : headerOf file.content = headerAs (if eiClass = 2 then elf64 else elf32)
      (if eiData = 1 then .little else .big) file.content := by
    simp only [headerOf, hc, hd, Option.some.injEq]
  obtain ⟨hphoff, hphentsize⟩ := headerOf_bounds file.content
  generalize headerOf file.content = header at *
  obtain ⟨hl, ho, hoff, hent, hnum⟩ :
      (if eiClass = 2 then elf64 else elf32) = header.layout ∧
      (if eiData = 1 then Order.little else .big) = header.order ∧
      fieldAt header.order header.layout.wordSize file.content header.layout.phoffAt
        = header.ePhoff ∧
      fieldAt header.order 2 file.content header.layout.phentsizeAt = header.ePhentsize ∧
      fieldAt header.order 2 file.content (header.layout.phentsizeAt + 2) = header.ePhnum := by
    rw [hheader]
    exact ⟨rfl, rfl, rfl, rfl, rfl⟩
  rw [readHeaders, octet_bind hclass, octet_bind hdata, hc, hd, hl, ho]
  simp only [Option.mem_def, Option.some.injEq, forall_eq']
  refine ⟨_, rfl, fun ehdr hehdr hlength => ?_⟩
  rw [Nat.zero_add] at hehdr
  rw [unpackFrom_bind (by omega), unpackFrom_bind (by omega), unpackFrom_bind (by omega), hehdr,
    fieldAt_extract _ _ (by omega), fieldAt_extract _ _ (by omega),
    fieldAt_extract _ _ (by omega), hoff, hent, hnum]
  rfl

/-- The walk over the table is a walk over its segments of notes. -/
theorem findNote_range {header : Header} {phdrs : List UInt8}
    (hlength : phdrs.length = header.tableBytes) (htable : phdrs = header.table file.content)
    (hlayout : header.layout = elf64 ∨ header.layout = elf32)
    (hsize : header.layout.minPhentsize ≤ header.ePhentsize) :
    findNote spec header.layout header.order phdrs header.ePhentsize (List.range header.ePhnum) =
      findSegments spec header.order (header.segments file.content) := by
  rw [findNote_eq hlength (fun i hi => List.mem_range.mp hi) hlayout hsize, Header.segments, htable]

/-- Running a reader from its identification computes `headersResult`. -/
theorem run_readHeaders (hident : 16 ≤ file.content.length) (position : Nat) :
    ((readHeaders spec (file.content.extract 0 16)).run (exec file) position).1 =
      headersResult spec file := by
  obtain ⟨rest, hreader, hrest⟩ := readHeaders_eq spec hident
  rw [hreader, headersResult]
  split
  · rfl
  · refine run_readExact_bind fun ehdr p hehdr hlength => ?_
    rw [hrest ehdr hehdr hlength, readTable]
    split
    · rfl
    · split
      · rfl
      · rename_i hplausible
        rw [run_seekEnd_bind]
        split
        · rfl
        · refine run_readExact_bind fun phdrs p' hphdrs hsize => ?_
          rw [findNote_range hsize hphdrs (headerOf_layout _) (Nat.le_of_not_lt hplausible)]
          refine run_bind_result (run_findSegments _ _ p') ?_
          intro found p'' _
          cases found <;> rfl

end

/-- What `catchOsError` makes of a result. -/
def rescued (wrap : String → ε) : Except (Raised ε) α → Except (Raised ε) α
  | .error (.osError text) => .error (.documented (wrap text))
  | r => r

theorem rescued_eq_ok {wrap : String → ε} {r : Except (Raised ε) α} {a : α} :
    rescued wrap r = .ok a ↔ r = .ok a := by
  cases r with
  | ok _ => rfl
  | error e => cases e <;> simp [rescued]

/-- What `read_elf_build_id` computes. -/
def elfResult (path : String) (file : File) : Except (Raised BuildIdReadError) (List Char) :=
  rescued (fun text => ⟨s!"cannot read {path}: {text}"⟩) <|
    match file.denied with
    | some text => .error (.osError text)
    | none => do
        let ident ← readResult elfSpec.truncated file 0 16
        if ident.take 4 ≠ elfMagic then .error (.documented ⟨"not an ELF file (bad magic)"⟩)
        else headersResult elfSpec file

/-- What `read_vmcore_build_id` computes. -/
def vmcoreResult (path : String) (file : File) : Except (Raised VmcoreError) (List Char) :=
  rescued (fun text => .buildIdError s!"cannot read {path}: {text}") <|
    match file.denied with
    | some text => .error (.osError text)
    | none =>
        if file.fits 16 = false then .error .memoryError
        else
          let ident := file.content.extract 0 16
          if ident.take 4 ≠ elfMagic then
            .error (.documented (.formatUnsupported "vmcore is not an ELF container"))
          else if ident.length < 16 then
            .error (.documented (.buildIdError "ELF ident truncated"))
          else headersResult vmcoreSpec file

theorem run_catchOsError {file : File} {x : Reader ε α} {wrap : String → ε} {position : Nat} :
    ((rescue x (catchOsError wrap)).run (exec file) position).1 =
      rescued wrap (x.run (exec file) position).1 := by
  rw [run_rescue]
  rcases x.run (exec file) position with ⟨r, position'⟩
  cases r with
  | ok a => rfl
  | error e => cases e <;> rfl

/-- Opening a file, and what follows. -/
theorem run_openRb_bind {file : File} {f : Unit → Reader ε α} {result : Except (Raised ε) α}
    (h : ((f ()).run (exec file) 0).1 = result) :
    ((openRb >>= f).run (exec file) 0).1 =
      match file.denied with
      | some text => .error (.osError text)
      | none => result := by
  rw [run_bind, openRb, run_perform, exec]
  cases file.denied with
  | some text => rfl
  | none => exact h

theorem run_readElfBuildId (path : String) (file : File) :
    ((readElfBuildId path).run (exec file) 0).1 = elfResult path file := by
  rw [readElfBuildId, elfResult, run_catchOsError]
  congr 1
  refine run_openRb_bind (run_readExact_bind fun ident position hident hlength => ?_)
  split
  · rfl
  · rw [hident, Nat.zero_add] at *
    rw [List.length_take, List.length_drop] at hlength
    exact run_readHeaders (by omega) position

theorem run_readVmcoreBuildId (path : String) (file : File) :
    ((readVmcoreBuildId path).run (exec file) 0).1 = vmcoreResult path file := by
  rw [readVmcoreBuildId, vmcoreResult, run_catchOsError]
  congr 1
  refine run_openRb_bind ?_
  rw [run_bind, readUpTo, run_perform, exec, if_neg (by decide)]
  cases file.fits 16 with
  | false => rfl
  | true =>
      simp only [Bool.true_eq_false, if_false, Nat.zero_add]
      split
      · rfl
      · split
        · rfl
        · rename_i hlength
          rw [List.length_take, List.length_drop] at hlength
          exact run_readHeaders (by omega) _

end Kdive.Symbols

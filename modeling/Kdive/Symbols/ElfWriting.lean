import Kdive.Lib.Lines
import Kdive.Symbols.BuildId

/-!
# Files that hold notes

An `Elf` is what a writer of an ELF file decides: the class, the byte order, where
the table of program headers stands, how large its entries are, and the segments.
`Written` says that a file lays it out, with anything between the parts, and
`encode` is one such file.

`build_ids_read_back` says that the two readers find in such a file what was written.
-/

namespace Kdive.Symbols

open ByteOrder

/-! ## Notes -/

/-- A note, with sizes that fit their fields. -/
structure Note where
  /-- The type. -/
  ntype : Nat
  /-- The name, with the zeros it ends in. -/
  name : List UInt8
  /-- The descriptor. -/
  desc : List UInt8
  ntype_lt : ntype < 256 ^ 4
  name_lt : name.length < 256 ^ 4
  desc_lt : desc.length < 256 ^ 4

/-- A note in octets, its name and its descriptor each filled up to four. -/
def Note.encode (order : Order) (note : Note) : List UInt8 :=
  write order 4 note.name.length ++ write order 4 note.desc.length ++ write order 4 note.ntype ++
    padded note.name ++ padded note.desc

/-- The notes of a segment, one behind the other. -/
def encodeNotes (order : Order) (notes : List Note) : List UInt8 := notes.flatMap (Note.encode order)

theorem length_encode (order : Order) (note : Note) :
    (note.encode order).length =
      12 + (note.name.length + pad note.name.length) + (note.desc.length + pad note.desc.length) := by
  simp [Note.encode]
  omega

/-- The walk over written notes takes the first that `pick` takes. -/
theorem scanNotesWith_encode (pick : Nat → List UInt8 → List UInt8 → Option (List Char))
    (order : Order) {blob before : List UInt8} {notes : List Note}
    (hblob : blob = before ++ encodeNotes order notes) (hbefore : before.length % 4 = 0) :
    scanNotesWith pick blob order before.length =
      notes.findSome? fun note => pick note.ntype note.name note.desc := by
  induction notes generalizing before with
  | nil =>
      rw [scanNotesWith, if_neg (by simp [hblob, encodeNotes])]
      rfl
  | cons note rest ih =>
      have hcons : blob = before ++ (note.encode order ++ encodeNotes order rest) := hblob
      have hsplit : blob = before ++ (write order 4 note.name.length ++
          (write order 4 note.desc.length ++ (write order 4 note.ntype ++ (note.name ++
          (List.replicate (pad note.name.length) 0 ++ (note.desc ++
          (List.replicate (pad note.desc.length) 0 ++ encodeNotes order rest))))))) := by
        rw [hcons, Note.encode, padded, padded]
        simp only [List.append_assoc]
      have hlength := congrArg List.length hcons
      rw [List.length_append, List.length_append, length_encode] at hlength
      -- the fields of the note, each where the walk looks for it
      have hnamesz := extract_of_eq before (write order 4 note.name.length) hsplit rfl rfl
      have hdescsz : blob.extract (before.length + 4) (before.length + 8) =
          write order 4 note.desc.length :=
        extract_of_eq (before ++ write order 4 note.name.length) _
          (by simp only [hsplit, List.append_assoc]; rfl) (by simp) (by simp)
      have hntype : blob.extract (before.length + 8) (before.length + 12) =
          write order 4 note.ntype :=
        extract_of_eq (before ++ write order 4 note.name.length ++ write order 4 note.desc.length) _
          (by simp only [hsplit, List.append_assoc]; rfl) (by simp) (by simp)
      have hname : blob.extract (before.length + 12) (before.length + 12 + note.name.length) =
          note.name :=
        extract_of_eq (before ++ write order 4 note.name.length ++ write order 4 note.desc.length ++
          write order 4 note.ntype) _ (by simp only [hsplit, List.append_assoc]; rfl) (by simp) (by simp)
      have hdesc : blob.extract (before.length + 12 + note.name.length + pad note.name.length)
          (before.length + 12 + note.name.length + pad note.name.length + note.desc.length) =
            note.desc :=
        extract_of_eq (before ++ write order 4 note.name.length ++ write order 4 note.desc.length ++
          write order 4 note.ntype ++ note.name ++ List.replicate (pad note.name.length) 0) _
          (by simp only [hsplit, List.append_assoc]; rfl) (by simp; omega) (by simp; omega)
      rw [length_write] at hnamesz
      have hnamepad : pad (before.length + 12 + note.name.length) = pad note.name.length :=
        pad_add (by omega) _
      have hdescpad : pad (before.length + 12 + note.name.length + pad note.name.length +
          note.desc.length) = pad note.desc.length := by
        refine pad_add ?_ _
        have := add_pad_mod note.name.length
        omega
      have hnext : before.length + 12 + note.name.length + pad note.name.length +
          note.desc.length + pad note.desc.length = (before ++ note.encode order).length := by
        rw [List.length_append, length_encode]
        omega
      rw [scanNotesWith, if_pos (by omega)]
      simp only [hnamesz, hdescsz, hntype, read_write order note.name_lt,
        read_write order note.desc_lt, read_write order note.ntype_lt, hname, hnamepad, hdesc,
        hdescpad, hnext, List.findSome?_cons]
      rw [if_neg (by omega)]
      cases pick note.ntype note.name note.desc with
      | some id => rfl
      | none =>
          refine ih (by rw [hcons, List.append_assoc]) ?_
          have hname4 := add_pad_mod note.name.length
          have hdesc4 := add_pad_mod note.desc.length
          rw [List.length_append, length_encode]
          omega

/-! ## Files -/

/-- A segment: notes, or something of another type. -/
inductive Segment where
  | notes (notes : List Note)
  | other (ptype : Nat) (hother : ptype ≠ ptNote) (hlt : ptype < 256 ^ 4)

/-- `p_type`. -/
def Segment.ptype : Segment → Nat
  | .notes _ => ptNote
  | .other ptype _ _ => ptype

/-- The notes of a segment. -/
def Segment.held : Segment → List Note
  | .notes written => written
  | .other .. => []

/-- What the writer of a file decides. -/
structure Elf where
  /-- The class: 64-bit or 32-bit. -/
  is64 : Bool
  /-- The byte order. -/
  order : Order
  /-- Where the table stands. -/
  phoff : Nat
  /-- The size of its entries. -/
  phentsize : Nat
  /-- The segments, in the order of the table. -/
  segments : List Segment
  phentsize_ge : (if is64 then elf64 else elf32).minPhentsize ≤ phentsize
  phoff_lt : phoff < 256 ^ (if is64 then elf64 else elf32).wordSize
  phentsize_lt : phentsize < 256 ^ 2
  segments_lt : segments.length < 256 ^ 2

namespace Elf

/-- Where the fields are. -/
def layout (elf : Elf) : Layout := if elf.is64 then elf64 else elf32

/-- All notes, in the order of the segments. -/
def notes (elf : Elf) : List Note := elf.segments.flatMap Segment.held

/-- The header the readers should find. -/
def header (elf : Elf) : Header :=
  ⟨elf.layout, elf.order, elf.phoff, elf.phentsize, elf.segments.length⟩

theorem layout_cases (elf : Elf) : elf.layout = elf64 ∨ elf.layout = elf32 := by
  rw [layout]
  cases elf.is64
  · exact Or.inr rfl
  · exact Or.inl rfl

/-- An integer stands in a field. -/
def Holds (elf : Elf) (content : List UInt8) (width off n : Nat) : Prop :=
  n < 256 ^ width ∧ content.extract off (off + width) = write elf.order width n

theorem Holds.fieldAt {elf : Elf} {content : List UInt8} {width off n : Nat}
    (h : elf.Holds content width off n) : fieldAt elf.order width content off = n := by
  rw [Symbols.fieldAt, h.2, read_write elf.order h.1]

/-- The entry of a segment in the table, and its notes where the entry says. -/
structure Entry (elf : Elf) (content : List UInt8) (off : Nat) (segment : Segment) : Prop where
  /-- `p_type`. -/
  ptype : elf.Holds content 4 off segment.ptype
  /-- The notes, inside the file. -/
  place : ∀ notes, segment = .notes notes → ∃ offset,
    elf.Holds content elf.layout.wordSize (off + elf.layout.offsetAt) offset ∧
    elf.Holds content elf.layout.wordSize (off + elf.layout.fileszAt)
      (encodeNotes elf.order notes).length ∧
    offset + (encodeNotes elf.order notes).length ≤ content.length ∧
    content.extract offset (offset + (encodeNotes elf.order notes).length) =
      encodeNotes elf.order notes

/-- A file is laid out as decided. -/
structure Written (elf : Elf) (content : List UInt8) : Prop where
  /-- The magic number. -/
  magic : content.take 4 = elfMagic
  /-- `EI_CLASS`. -/
  eiClass : content[4]? = some (if elf.is64 then 2 else 1)
  /-- `EI_DATA`. -/
  eiData : content[5]? = some (if elf.order = .little then 1 else 2)
  /-- The header is complete. -/
  complete : elf.layout.ehdrSize ≤ content.length
  /-- `e_phoff`. -/
  phoff : elf.Holds content elf.layout.wordSize elf.layout.phoffAt elf.phoff
  /-- `e_phentsize`. -/
  phentsize : elf.Holds content 2 elf.layout.phentsizeAt elf.phentsize
  /-- `e_phnum`. -/
  phnum : elf.Holds content 2 (elf.layout.phentsizeAt + 2) elf.segments.length
  /-- The table is inside the file. -/
  table : elf.segments ≠ [] → elf.phoff + elf.phentsize * elf.segments.length ≤ content.length
  /-- Each segment has its entry. -/
  entry : ∀ i segment, elf.segments[i]? = some segment →
    elf.Entry content (elf.phoff + i * elf.phentsize) segment

variable {elf : Elf} {content : List UInt8}

/-- The readers find the header. -/
theorem Written.headerOf (h : elf.Written content) : headerOf content = elf.header := by
  have hlayout : (if content[4]? = some 2 then elf64 else elf32) = elf.layout := by
    rw [h.eiClass, layout]
    cases elf.is64 <;> rfl
  have horder : (if content[5]? = some 1 then Order.little else .big) = elf.order := by
    rw [h.eiData]
    cases elf.order <;> rfl
  rw [Symbols.headerOf, hlayout, horder, headerAs, h.phoff.fieldAt, h.phentsize.fieldAt,
    h.phnum.fieldAt]
  rfl

/-- A field of the table is a field of the file. -/
theorem fieldAt_table (header : Header) (order : Order) {width off : Nat}
    (h : off + width ≤ header.tableBytes) :
    fieldAt order width (header.table content) off =
      fieldAt order width content (header.ePhoff + off) := by
  rw [fieldAt, fieldAt, Header.table, extract_extract content (by omega), Nat.add_assoc]

/-- The fields of an entry are inside it. -/
theorem layout_bounds (elf : Elf) : 4 ≤ elf.phentsize ∧
    elf.layout.offsetAt + elf.layout.wordSize ≤ elf.phentsize ∧
    elf.layout.fileszAt + elf.layout.wordSize ≤ elf.phentsize := by
  have hsize : elf.layout.minPhentsize ≤ elf.phentsize := elf.phentsize_ge
  rcases elf.layout_cases with hlayout | hlayout <;> rw [hlayout] at hsize ⊢ <;>
    simp only [elf64, elf32] at hsize ⊢ <;> omega

/-- The entry of a segment is read as it was written. -/
theorem Written.segmentAt (h : elf.Written content) {i : Nat} {segment : Segment}
    (hi : elf.segments[i]? = some segment) :
    match segment with
    | .notes notes => ∃ offset,
        elf.header.segmentAt (elf.header.table content) i =
          some (offset, (encodeNotes elf.order notes).length) ∧
        offset + (encodeNotes elf.order notes).length ≤ content.length ∧
        content.extract offset (offset + (encodeNotes elf.order notes).length) =
          encodeNotes elf.order notes
    | .other .. => elf.header.segmentAt (elf.header.table content) i = none := by
  have hlt : i < elf.segments.length := (List.getElem?_eq_some_iff.mp hi).1
  have hin : i * elf.phentsize + elf.phentsize ≤ elf.header.tableBytes := by
    rw [Header.tableBytes, ← Nat.succ_mul, Nat.mul_comm elf.header.ePhentsize]
    exact Nat.mul_le_mul_right _ hlt
  obtain ⟨htype, hoffset, hfilesz⟩ := elf.layout_bounds
  have hentry := h.entry i segment hi
  have hptype : fieldAt elf.order 4 (elf.header.table content) (i * elf.phentsize) =
      segment.ptype := by
    rw [fieldAt_table elf.header elf.order (by omega)]
    exact hentry.ptype.fieldAt
  cases segment with
  | other ptype hother hlt =>
      exact if_neg fun hnote => hother (hptype.symm.trans hnote)
  | notes notes =>
      obtain ⟨offset, hoff, hsize, hle, hnotes⟩ := hentry.place notes rfl
      refine ⟨offset, ?_, hle, hnotes⟩
      have hoffAt : fieldAt elf.order elf.layout.wordSize (elf.header.table content)
          (i * elf.phentsize + elf.layout.offsetAt) = offset := by
        rw [fieldAt_table elf.header elf.order (by omega), ← Nat.add_assoc]
        exact hoff.fieldAt
      have hsizeAt : fieldAt elf.order elf.layout.wordSize (elf.header.table content)
          (i * elf.phentsize + elf.layout.fileszAt) = (encodeNotes elf.order notes).length := by
        rw [fieldAt_table elf.header elf.order (by omega), ← Nat.add_assoc]
        exact hsize.fieldAt
      rw [← hoffAt, ← hsizeAt]
      exact if_pos hptype

/-- The walk over the table scans the written notes, segment by segment. -/
theorem Written.walk {ε : Type} {spec : Spec ε} {file : File} (h : elf.Written file.content)
    (hfits : ∀ n ≤ file.content.length, file.fits n = true)
    {pick : Nat → List UInt8 → List UInt8 → Option (List Char)}
    (hscan : ∀ blob, spec.scan blob elf.order = scanNotesWith pick blob elf.order 0)
    (done rest : List Segment) (hsegments : elf.segments = done ++ rest) :
    walk spec file elf.order ((List.range' done.length rest.length).filterMap
        (elf.header.segmentAt (elf.header.table file.content))) =
      .ok ((rest.flatMap Segment.held).findSome? fun note => pick note.ntype note.name note.desc) := by
  induction rest generalizing done with
  | nil => rfl
  | cons segment rest ih =>
      have hi : elf.segments[done.length]? = some segment := by simp [hsegments]
      have hrest := ih (done ++ [segment]) (by simp [hsegments])
      rw [List.length_append, List.length_singleton] at hrest
      have hat := h.segmentAt hi
      rw [List.length_cons, List.range'_succ, List.flatMap_cons, List.findSome?_append]
      cases segment with
      | other ptype hother hlt =>
          rw [List.filterMap_cons_none hat, hrest]
          rfl
      | notes notes =>
          obtain ⟨offset, hsegment, hle, hnotes⟩ := hat
          have hshort := file.short
          have hread : readResult spec.truncated file offset (encodeNotes elf.order notes).length =
              .ok (encodeNotes elf.order notes) := by
            rw [readResult, if_neg (by omega), hfits _ (by omega), if_neg (by simp), hnotes]
            simp
          have hfound : scanNotesWith pick (encodeNotes elf.order notes) elf.order 0 = _ :=
            @scanNotesWith_encode pick elf.order _ [] notes rfl rfl
          rw [List.filterMap_cons_some hsegment, Symbols.walk, hread]
          dsimp only [bind, Except.bind]
          rw [hscan, hfound, hrest, Segment.held]
          cases notes.findSome? fun note => pick note.ntype note.name note.desc <;> rfl

/-- A read inside the file succeeds. -/
theorem readResult_of_le {ε : Type} {truncated : Nat → Nat → ε} {file : File} {offset size : Nat}
    (hfits : ∀ n ≤ file.content.length, file.fits n = true)
    (hle : offset + size ≤ file.content.length) :
    readResult truncated file offset size = .ok (file.content.extract offset (offset + size)) := by
  have hshort := file.short
  have hlength : (file.content.extract offset (offset + size)).length = size :=
    length_extract_of_le hle
  rw [readResult, if_neg (by omega), hfits _ (by omega), if_neg (by simp)]
  exact if_neg (not_not.mpr hlength)

/-- What a reader computes of a written file. -/
theorem Written.headersResult {ε : Type} {spec : Spec ε} {file : File}
    (h : elf.Written file.content) (hfits : ∀ n ≤ file.content.length, file.fits n = true)
    {pick : Nat → List UInt8 → List UInt8 → Option (List Char)}
    (hscan : ∀ blob, spec.scan blob elf.order = scanNotesWith pick blob elf.order 0) :
    headersResult spec file =
      match elf.notes.findSome? fun note => pick note.ntype note.name note.desc with
      | some id => .ok id
      | none => .error (.documented (if elf.segments = [] then spec.noHeaders else spec.absent)) := by
  have hclass : ¬ ((∀ b ∈ file.content[4]?, b ∉ [1, 2]) ∨ ∀ b ∈ file.content[5]?, b ∉ [1, 2]) := by
    rw [h.eiClass, h.eiData]
    cases elf.is64 <;> cases elf.order <;> simp
  rw [Symbols.headersResult, if_neg hclass, h.headerOf]
  dsimp only
  rw [show readResult spec.truncated file 0 elf.header.layout.ehdrSize = _ from
    readResult_of_le hfits (by rw [Nat.zero_add]; exact h.complete)]
  dsimp only [bind, Except.bind]
  by_cases hempty : elf.segments = []
  · have hnotes : elf.notes = [] := by rw [Elf.notes, hempty]; rfl
    rw [if_pos (by rw [header, hempty]; rfl), hnotes, hempty]
    rfl
  · have hnum : elf.header.ePhnum ≠ 0 := fun hnum => hempty (List.eq_nil_of_length_eq_zero hnum)
    have hsize : ¬ elf.header.ePhentsize < elf.header.layout.minPhentsize :=
      Nat.not_lt.mpr elf.phentsize_ge
    have htable : elf.header.ePhoff + elf.header.tableBytes ≤ file.content.length :=
      h.table hempty
    have hwalk : Symbols.walk spec file elf.header.order (elf.header.segments file.content) =
        .ok (elf.notes.findSome? fun note => pick note.ntype note.name note.desc) := by
      rw [Header.segments, List.range_eq_range']
      exact h.walk hfits hscan [] elf.segments rfl
    rw [if_neg hnum, if_neg hsize, if_neg (Nat.not_lt.mpr htable), readResult_of_le hfits htable]
    dsimp only
    rw [if_neg hempty]
    cases hfound : elf.notes.findSome? fun note => pick note.ntype note.name note.desc <;>
      simp only [hwalk, hfound]

end Elf

/-! ## Build ids -/

/-- A note with a GNU build id: of its type, and named `GNU` but for zeros. -/
def IsGnu (note : Note) : Prop :=
  note.ntype = 3 ∧ ∃ zeros, note.name = ascii "GNU" ++ List.replicate zeros 0

/-- A `VMCOREINFO` note. -/
def IsVmcoreinfo (note : Note) : Prop :=
  ∃ zeros, note.name = ascii "VMCOREINFO" ++ List.replicate zeros 0

/-- A line that gives a build id: some digits, and blanks behind them. -/
def IsBuildIdLine (line digits : List UInt8) : Prop :=
  digits ≠ [] ∧ (∀ b ∈ digits, isHexDigit b = true) ∧
    ∃ blanks, (∀ b ∈ blanks, isSpace b = true) ∧ line = ascii "BUILD-ID=" ++ digits ++ blanks

/-- The lines of a descriptor. -/
def lines (desc : List UInt8) : List (List UInt8) := desc.splitOn 10

theorem rstripZeros_eq_iff {name stem : List UInt8} (hstem : stem.getLast? ≠ some 0) :
    rstripZeros name = stem ↔ ∃ zeros, name = stem ++ List.replicate zeros 0 := by
  constructor
  · intro h
    refine ⟨(name.rtakeWhile (· = 0)).length, ?_⟩
    have hsplit : name.rdropWhile (· = 0) ++ name.rtakeWhile (· = 0) = name :=
      List.rdropWhile_append_rtakeWhile
    have hzeros : name.rtakeWhile (· = 0) =
        List.replicate (name.rtakeWhile (· = 0)).length 0 := by
      refine List.eq_replicate_iff.mpr ⟨rfl, fun b hb => ?_⟩
      simpa using List.mem_rtakeWhile_imp hb
    rw [← hzeros, ← h]
    exact hsplit.symm
  · rintro ⟨zeros, rfl⟩
    induction zeros with
    | zero =>
        rw [List.replicate_zero, List.append_nil, rstripZeros, List.rdropWhile_eq_self_iff]
        intro hne hzero
        exact hstem (by rw [List.getLast?_eq_some_getLast hne, of_decide_eq_true hzero])
    | succ zeros ih =>
        rw [List.replicate_succ', ← List.append_assoc, rstripZeros,
          List.rdropWhile_concat_pos _ _ _ (by rfl)]
        exact ih

/-! ## Lines -/

theorem not_newline_of_hexDigit {b : UInt8} (h : isHexDigit b = true) : b ≠ 10 := by
  rintro rfl
  revert h
  decide

/-- Blanks up to the end of a line without a newline. -/
theorem blankToEol_append {line : List UInt8} (hline : 10 ∉ line) (more : List UInt8) :
    blankToEol (line ++ 10 :: more) = blankToEol line := by
  induction line with
  | nil => rfl
  | cons b line ih =>
      rw [List.mem_cons, not_or] at hline
      rw [List.cons_append, blankToEol, blankToEol, ih hline.2]

theorem blankToEol_iff {line : List UInt8} (hline : 10 ∉ line) :
    blankToEol line = true ↔ ∀ b ∈ line, isSpace b = true := by
  induction line with
  | nil => simp [blankToEol]
  | cons b line ih =>
      rw [List.mem_cons, not_or] at hline
      have hb : b ≠ 10 := fun h => hline.1 h.symm
      simp [blankToEol, hb, ih hline.2]

theorem not_hexDigit_of_space {b : UInt8} (h : isSpace b = true) : isHexDigit b = false := by
  simp only [isSpace, Bool.or_eq_true, Bool.and_eq_true, decide_eq_true_eq,
    UInt8.le_iff_toNat_le] at h
  simp only [isHexDigit, Bool.or_eq_false_iff, Bool.and_eq_false_iff, decide_eq_false_iff_not,
    UInt8.le_iff_toNat_le]
  rcases h with rfl | ⟨-, hle⟩
  · decide
  · have hnine : b.toNat ≤ 13 := hle
    refine ⟨⟨Or.inl ?_, Or.inl ?_⟩, Or.inl ?_⟩ <;> intro hge
    · have : 48 ≤ b.toNat := hge
      omega
    · have : 65 ≤ b.toNat := hge
      omega
    · have : 97 ≤ b.toNat := hge
      omega

/-- What stops at a separator stops before it or at it. -/
theorem span_append {p : UInt8 → Bool} {sep : UInt8} (hsep : p sep = false)
    (line more : List UInt8) :
    (line ++ sep :: more).takeWhile p = line.takeWhile p ∧
      (line ++ sep :: more).dropWhile p = line.dropWhile p ++ sep :: more := by
  induction line with
  | nil => simp [hsep]
  | cons b line ih =>
      cases hb : p b with
      | true => simpa [hb] using ih
      | false => simp [hb]

theorem isPrefixOf_append {stem line : List UInt8} (hstem : 10 ∉ stem) (more : List UInt8) :
    stem.isPrefixOf (line ++ 10 :: more) = stem.isPrefixOf line := by
  induction stem generalizing line with
  | nil => simp
  | cons s stem ih =>
      rw [List.mem_cons, not_or] at hstem
      cases line with
      | nil =>
          have hs : s ≠ 10 := fun h => hstem.1 h.symm
          simp [List.isPrefixOf, hs]
      | cons b line => rw [List.cons_append, List.isPrefixOf, List.isPrefixOf, ih hstem.2]

/-- A match stays inside its line. -/
theorem matchHere_append {line : List UInt8} (hline : 10 ∉ line) (more : List UInt8) :
    matchHere (line ++ 10 :: more) = matchHere line := by
  have hstem : 10 ∉ ascii "BUILD-ID=" := by decide
  rw [matchHere, matchHere, isPrefixOf_append hstem]
  split
  · rename_i hmatched
    obtain ⟨rest, rfl⟩ := List.isPrefixOf_iff_prefix.mp hmatched
    have hrest : 10 ∉ rest := fun h => hline (List.mem_append_right _ h)
    obtain ⟨hdigits, hblanks⟩ := span_append (show isHexDigit 10 = false by decide) rest more
    rw [List.append_assoc, List.drop_left, List.drop_left]
    dsimp only
    rw [hdigits, hblanks, blankToEol_append fun h => hrest ((List.dropWhile_suffix _).subset h)]
  · rfl

/-- A line is matched when it gives a build id. -/
theorem matchHere_eq_some {line digits : List UInt8} (hline : 10 ∉ line) :
    matchHere line = some digits ↔ IsBuildIdLine line digits := by
  constructor
  · intro h
    rw [matchHere] at h
    split at h
    · rename_i hmatched
      obtain ⟨rest, rfl⟩ := List.isPrefixOf_iff_prefix.mp hmatched
      rw [List.drop_left] at h
      dsimp only at h
      split at h
      · rename_i hmatch
        cases h
        have hblanks : 10 ∉ rest.dropWhile isHexDigit := fun hmem =>
          hline (List.mem_append_right _ ((List.dropWhile_suffix _).subset hmem))
        refine ⟨hmatch.1, fun b hb => List.mem_takeWhile_imp hb, rest.dropWhile isHexDigit,
          (blankToEol_iff hblanks).mp hmatch.2, ?_⟩
        rw [List.append_assoc, List.takeWhile_append_dropWhile]
      · cases h
    · cases h
  · rintro ⟨hne, hdigits, blanks, hblanks, rfl⟩
    have hstop : blanks.takeWhile isHexDigit = [] ∧ blanks.dropWhile isHexDigit = blanks := by
      cases blanks with
      | nil => exact ⟨rfl, rfl⟩
      | cons b blanks =>
          have hb := not_hexDigit_of_space (hblanks b List.mem_cons_self)
          simp [hb]
    have htake : (digits ++ blanks).takeWhile isHexDigit = digits := by
      rw [List.takeWhile_append_of_pos hdigits, hstop.1, List.append_nil]
    have hdrop : (digits ++ blanks).dropWhile isHexDigit = blanks := by
      rw [List.dropWhile_append_of_pos hdigits, hstop.2]
    have hnewline : 10 ∉ blanks := fun h => hline (List.mem_append_right _ h)
    rw [matchHere, if_pos (by simp [List.append_assoc]), List.append_assoc, List.drop_left]
    dsimp only
    rw [htake, hdrop, if_pos ⟨hne, (blankToEol_iff hnewline).mpr hblanks⟩]

/-- Inside a line nothing is matched. -/
theorem searchLine_skip {line : List UInt8} (hline : 10 ∉ line) :
    searchLine false line = none ∧
      ∀ more, searchLine false (line ++ 10 :: more) = searchLine true more := by
  induction line with
  | nil => exact ⟨rfl, fun more => rfl⟩
  | cons b line ih =>
      rw [List.mem_cons, not_or] at hline
      have hb : decide (b = 10) = false := decide_eq_false fun h => hline.1 h.symm
      obtain ⟨hend, hnext⟩ := ih hline.2
      constructor
      · simp only [searchLine, hb, Bool.false_eq_true, if_false, hend]
      · intro more
        simp only [List.cons_append, searchLine, hb, Bool.false_eq_true, if_false, hnext]

/-- The search tries each line once. -/
theorem searchLine_line {line : List UInt8} (hline : 10 ∉ line) :
    searchLine true line = matchHere line ∧
      ∀ more, searchLine true (line ++ 10 :: more) =
        (matchHere line).or (searchLine true more) := by
  cases line with
  | nil => exact ⟨rfl, fun more => rfl⟩
  | cons b line =>
      have hmatch := matchHere_append hline
      rw [List.mem_cons, not_or] at hline
      have hb : decide (b = 10) = false := decide_eq_false fun h => hline.1 h.symm
      obtain ⟨hend, hnext⟩ := searchLine_skip hline.2
      constructor
      · simp only [searchLine, hb, if_true, hend]
        cases matchHere (b :: line) <;> rfl
      · intro more
        have hhere := hmatch more
        rw [List.cons_append] at hhere ⊢
        simp only [searchLine, hb, if_true, hhere, hnext]
        cases matchHere (b :: line) <;> rfl

theorem newline_not_mem_lines {desc line : List UInt8} (h : line ∈ lines desc) : 10 ∉ line := by
  intro hmem
  rw [lines, List.splitOn_eq_splitOnP] at h
  simpa using Lines.not_of_mem_splitOnP h 10 hmem

/-- The search goes line by line. -/
theorem searchLine_eq (desc : List UInt8) :
    searchLine true desc = (lines desc).findSome? matchHere := by
  have hall : ∀ ls : List (List UInt8), ls ≠ [] → (∀ l ∈ ls, 10 ∉ l) →
      searchLine true ([10].intercalate ls) = ls.findSome? matchHere := by
    intro ls
    induction ls with
    | nil => exact fun hne => absurd rfl hne
    | cons line ls ih =>
        intro _ hlines
        obtain ⟨hline, hrest⟩ := List.forall_mem_cons.mp hlines
        cases ls with
        | nil =>
            rw [List.intercalate_singleton, (searchLine_line hline).1]
            simp
        | cons next ls =>
            rw [List.intercalate_cons_cons, List.append_assoc, List.singleton_append,
              (searchLine_line hline).2, ih (List.cons_ne_nil _ _) hrest]
            conv_rhs => rw [List.findSome?_cons]
            cases matchHere line <;> rfl
  have hwhole := hall (lines desc) (List.splitOn_ne_nil 10 desc) fun _ => newline_not_mem_lines
  rwa [lines, List.intercalate_splitOn] at hwhole

/-- The first line of a descriptor that gives a build id. -/
def FirstBuildIdLine (desc digits : List UInt8) : Prop :=
  ∃ front line back, lines desc = front ++ line :: back ∧ IsBuildIdLine line digits ∧
    ∀ other ∈ front, ∀ d, ¬ IsBuildIdLine other d

/-- A `VMCOREINFO` note with a line that gives a build id. -/
def HasBuildId (note : Note) : Prop :=
  IsVmcoreinfo note ∧ ∃ line ∈ lines note.desc, ∃ digits, IsBuildIdLine line digits

theorem searchLine_eq_some {desc digits : List UInt8} :
    searchLine true desc = some digits ↔ FirstBuildIdLine desc digits := by
  rw [searchLine_eq, List.findSome?_eq_some_iff]
  constructor
  · rintro ⟨front, line, back, hsplit, hmatch, hnone⟩
    have hnewline : ∀ l ∈ front ++ line :: back, 10 ∉ l := fun l hl =>
      newline_not_mem_lines (hsplit ▸ hl)
    refine ⟨front, line, back, hsplit, (matchHere_eq_some (hnewline line (by simp))).mp hmatch,
      fun other hother d hd => ?_⟩
    have hsome := (matchHere_eq_some (hnewline other (by simp [hother]))).mpr hd
    rw [hnone other hother] at hsome
    cases hsome
  · rintro ⟨front, line, back, hsplit, hline, hnone⟩
    have hnewline : ∀ l ∈ front ++ line :: back, 10 ∉ l := fun l hl =>
      newline_not_mem_lines (hsplit ▸ hl)
    refine ⟨front, line, back, hsplit, (matchHere_eq_some (hnewline line (by simp))).mpr hline,
      fun other hother => ?_⟩
    cases hmatch : matchHere other with
    | none => rfl
    | some d =>
        exact absurd ((matchHere_eq_some (hnewline other (by simp [hother]))).mp hmatch)
          (hnone other hother d)

theorem searchLine_eq_none {desc : List UInt8} :
    searchLine true desc = none ↔ ∀ line ∈ lines desc, ∀ digits, ¬ IsBuildIdLine line digits := by
  rw [searchLine_eq, List.findSome?_eq_none_iff]
  refine forall₂_congr fun line hline => ?_
  have hnewline := newline_not_mem_lines hline
  constructor
  · intro hnone digits hdigits
    rw [(matchHere_eq_some hnewline).mpr hdigits] at hnone
    cases hnone
  · intro hnone
    cases hmatch : matchHere line with
    | none => rfl
    | some digits => exact absurd ((matchHere_eq_some hnewline).mp hmatch) (hnone digits)

/-! ## What is picked -/

theorem pickGnu_of {note : Note} (h : IsGnu note) :
    pickGnu note.ntype note.name note.desc = some (hex note.desc) :=
  if_pos ⟨h.1, (rstripZeros_eq_iff (by decide)).mpr h.2⟩

theorem pickGnu_of_not {note : Note} (h : ¬ IsGnu note) :
    pickGnu note.ntype note.name note.desc = none :=
  if_neg fun hpick => h ⟨hpick.1, (rstripZeros_eq_iff (by decide)).mp hpick.2⟩

theorem pickVmcoreinfo_of {note : Note} {digits : List UInt8} (h : IsVmcoreinfo note)
    (hline : FirstBuildIdLine note.desc digits) :
    pickVmcoreinfo note.ntype note.name note.desc = some (lowerAscii digits) := by
  rw [pickVmcoreinfo, if_pos ((rstripZeros_eq_iff (by decide)).mpr h),
    searchLine_eq_some.mpr hline]
  rfl

theorem pickVmcoreinfo_of_not {note : Note} (h : ¬ HasBuildId note) :
    pickVmcoreinfo note.ntype note.name note.desc = none := by
  rw [pickVmcoreinfo]
  split
  · rename_i hname
    rw [searchLine_eq_none.mpr]
    · rfl
    · intro line hline digits hdigits
      exact h ⟨(rstripZeros_eq_iff (by decide)).mp hname, line, hline, digits, hdigits⟩
  · rfl

/-! ## A writer -/

/-- Zeros between two parts. -/
def gap (size : Nat) : List UInt8 := List.replicate size 0

@[simp] theorem length_gap (size : Nat) : (gap size).length = size := List.length_replicate

namespace Elf

variable (elf : Elf)

/-- The octets of `EI_CLASS` and `EI_DATA`. -/
def classAndData : List UInt8 :=
  [if elf.is64 then 2 else 1, if elf.order = .little then 1 else 2]

/-- The header. -/
def ehdr : List UInt8 :=
  elfMagic ++ (elf.classAndData ++ (gap (elf.layout.phoffAt - 6) ++
    (write elf.order elf.layout.wordSize elf.phoff ++
    (gap (elf.layout.phentsizeAt - elf.layout.phoffAt - elf.layout.wordSize) ++
    (write elf.order 2 elf.phentsize ++ (write elf.order 2 elf.segments.length ++
    gap (elf.layout.ehdrSize - elf.layout.phentsizeAt - 4)))))))

/-- What a segment holds. -/
def data (segment : Segment) : List UInt8 := encodeNotes elf.order segment.held

/-- The entry of a segment that stands at an offset. -/
def entry (offset : Nat) (segment : Segment) : List UInt8 :=
  write elf.order 4 segment.ptype ++ (gap (elf.layout.offsetAt - 4) ++
    (write elf.order elf.layout.wordSize offset ++
    (gap (elf.layout.fileszAt - elf.layout.offsetAt - elf.layout.wordSize) ++
    (write elf.order elf.layout.wordSize (elf.data segment).length ++
    gap (elf.phentsize - elf.layout.fileszAt - elf.layout.wordSize)))))

/-- The table of segments that stand one behind the other. -/
def table : Nat → List Segment → List UInt8
  | _, [] => []
  | offset, segment :: rest =>
      elf.entry offset segment ++ table (offset + (elf.data segment).length) rest

/-- A file: the header, the table where it shall stand, and the notes behind it. -/
def encode : List UInt8 :=
  elf.ehdr ++ (gap (elf.phoff - elf.layout.ehdrSize) ++
    (elf.table (elf.phoff + elf.phentsize * elf.segments.length) elf.segments ++
    elf.segments.flatMap elf.data))

variable {elf}

theorem length_ehdr : elf.ehdr.length = elf.layout.ehdrSize := by
  rcases elf.layout_cases with h | h <;> simp [ehdr, classAndData, h, elf64, elf32, elfMagic]

theorem length_entry (offset : Nat) (segment : Segment) :
    (elf.entry offset segment).length = elf.phentsize := by
  obtain ⟨-, -, hle⟩ := elf.layout_bounds
  rcases elf.layout_cases with h | h <;> rw [h] at hle <;>
    simp only [elf64, elf32] at hle <;> simp [entry, h, elf64, elf32] <;> omega

theorem length_table (offset : Nat) (segments : List Segment) :
    (elf.table offset segments).length = elf.phentsize * segments.length := by
  induction segments generalizing offset with
  | nil => rfl
  | cons segment rest ih =>
      rw [table, List.length_append, length_entry, ih, List.length_cons, Nat.mul_succ, Nat.add_comm]

theorem table_append (offset : Nat) (done rest : List Segment) :
    elf.table offset (done ++ rest) =
      elf.table offset done ++ elf.table (offset + (done.flatMap elf.data).length) rest := by
  induction done generalizing offset with
  | nil => rfl
  | cons segment done ih =>
      rw [List.cons_append, table, table, ih, List.flatMap_cons, List.length_append,
        List.append_assoc, Nat.add_assoc]

theorem holds_of {content : List UInt8} (before : List UInt8) {width off n : Nat}
    (hn : n < 256 ^ width)
    (hcontent : ∃ after, content = before ++ (write elf.order width n ++ after))
    (hoff : off = before.length) : elf.Holds content width off n := by
  obtain ⟨after, hcontent⟩ := hcontent
  exact ⟨hn, extract_of_eq before _ hcontent hoff (by rw [length_write, hoff])⟩

/-- An entry of the table holds its fields. -/
theorem entry_of {content before : List UInt8} {offset : Nat} {segment : Segment}
    (hcontent : ∃ after, content = before ++ (elf.entry offset segment ++ after))
    (hoffset : offset + (elf.data segment).length ≤ content.length)
    (hfits : content.length < 256 ^ elf.layout.wordSize)
    (hdata : content.extract offset (offset + (elf.data segment).length) = elf.data segment) :
    elf.Entry content before.length segment where
  ptype := by
    obtain ⟨after, hcontent⟩ := hcontent
    have hlt : segment.ptype < 256 ^ 4 := by
      cases segment with
      | notes _ => exact (by decide : 4 < 256 ^ 4)
      | other ptype hother hlt => exact hlt
    exact holds_of before hlt ⟨_, by rw [hcontent, entry, List.append_assoc]⟩ rfl
  place := by
    rintro notes rfl
    obtain ⟨after, hcontent⟩ := hcontent
    have hbounds : 4 ≤ elf.layout.offsetAt ∧
        elf.layout.offsetAt + elf.layout.wordSize ≤ elf.layout.fileszAt := by
      rcases elf.layout_cases with h | h <;> rw [h] <;> decide
    refine ⟨offset, ?_, ?_, hoffset, hdata⟩
    · refine holds_of (before ++ write elf.order 4 ptNote ++ gap (elf.layout.offsetAt - 4))
        (by omega) ?_ ?_
      · rw [hcontent, entry]
        simp only [List.append_assoc]
        exact ⟨_, rfl⟩
      · simp
        omega
    · refine holds_of (before ++ write elf.order 4 ptNote ++ gap (elf.layout.offsetAt - 4) ++
        write elf.order elf.layout.wordSize offset ++
        gap (elf.layout.fileszAt - elf.layout.offsetAt - elf.layout.wordSize)) ?_ ?_ ?_
      · have hle : (encodeNotes elf.order notes).length ≤ content.length := by
          have : offset + (encodeNotes elf.order notes).length ≤ content.length := hoffset
          omega
        omega
      · rw [hcontent, entry]
        simp only [List.append_assoc]
        exact ⟨_, rfl⟩
      · simp
        omega

/-- The writer lays a file out as decided, if the table stands behind the header and
the offsets fit their fields. -/
theorem written_encode (hphoff : elf.layout.ehdrSize ≤ elf.phoff)
    (hfits : elf.encode.length < 256 ^ elf.layout.wordSize) : elf.Written elf.encode := by
  have hbounds : 6 ≤ elf.layout.phoffAt ∧
      elf.layout.phoffAt + elf.layout.wordSize ≤ elf.layout.phentsizeAt := by
    rcases elf.layout_cases with h | h <;> rw [h] <;> decide
  have hlength : elf.encode.length = elf.phoff + elf.phentsize * elf.segments.length +
      (elf.segments.flatMap elf.data).length := by
    rw [encode, List.length_append, List.length_append, List.length_append, length_ehdr, length_gap,
      length_table]
    omega
  refine {
    magic := by rw [encode, ehdr]; rfl
    eiClass := by rw [encode, ehdr]; rfl
    eiData := by rw [encode, ehdr]; rfl
    complete := by rw [hlength]; omega
    phoff := ?_
    phentsize := ?_
    phnum := ?_
    table := fun _ => by rw [hlength]; omega
    entry := ?_ }
  · refine holds_of (elfMagic ++ elf.classAndData ++ gap (elf.layout.phoffAt - 6)) elf.phoff_lt ?_ ?_
    · rw [encode, ehdr]
      simp only [List.append_assoc]
      exact ⟨_, rfl⟩
    · simp [elfMagic, classAndData]
      omega
  · refine holds_of (elfMagic ++ elf.classAndData ++ gap (elf.layout.phoffAt - 6) ++
      write elf.order elf.layout.wordSize elf.phoff ++
      gap (elf.layout.phentsizeAt - elf.layout.phoffAt - elf.layout.wordSize)) elf.phentsize_lt ?_ ?_
    · rw [encode, ehdr]
      simp only [List.append_assoc]
      exact ⟨_, rfl⟩
    · simp [elfMagic, classAndData]
      omega
  · refine holds_of (elfMagic ++ elf.classAndData ++ gap (elf.layout.phoffAt - 6) ++
      write elf.order elf.layout.wordSize elf.phoff ++
      gap (elf.layout.phentsizeAt - elf.layout.phoffAt - elf.layout.wordSize) ++
      write elf.order 2 elf.phentsize) elf.segments_lt ?_ ?_
    · rw [encode, ehdr]
      simp only [List.append_assoc]
      exact ⟨_, rfl⟩
    · simp [elfMagic, classAndData]
      omega
  · intro i segment hi
    obtain ⟨hlt, hget⟩ := List.getElem?_eq_some_iff.mp hi
    -- the segments before this one, and behind it
    have hsplit : elf.segments = elf.segments.take i ++ segment :: elf.segments.drop (i + 1) := by
      rw [← hget, List.getElem_cons_drop, List.take_append_drop]
    have hdone : (elf.segments.take i).length = i := List.length_take_of_le (Nat.le_of_lt hlt)
    generalize elf.segments.take i = done at hsplit hdone
    generalize elf.segments.drop (i + 1) = rest at hsplit
    have hbefore : (elf.ehdr ++ gap (elf.phoff - elf.layout.ehdrSize) ++
        elf.table (elf.phoff + elf.phentsize * elf.segments.length) done).length =
          elf.phoff + i * elf.phentsize := by
      rw [List.length_append, List.length_append, length_ehdr, length_gap, length_table, hdone,
        Nat.mul_comm]
      omega
    have hdata : elf.segments.flatMap elf.data =
        done.flatMap elf.data ++ (elf.data segment ++ rest.flatMap elf.data) := by
      rw [hsplit, List.flatMap_append, List.flatMap_cons]
    have htext : elf.encode = (elf.ehdr ++ gap (elf.phoff - elf.layout.ehdrSize) ++
        elf.table (elf.phoff + elf.phentsize * elf.segments.length) elf.segments ++
        done.flatMap elf.data) ++ (elf.data segment ++ rest.flatMap elf.data) := by
      rw [encode, hdata]
      simp only [List.append_assoc]
    have hoffset : (elf.ehdr ++ gap (elf.phoff - elf.layout.ehdrSize) ++
        elf.table (elf.phoff + elf.phentsize * elf.segments.length) elf.segments ++
        done.flatMap elf.data).length =
          elf.phoff + elf.phentsize * elf.segments.length + (done.flatMap elf.data).length := by
      rw [List.length_append, List.length_append, List.length_append, length_ehdr, length_gap,
        length_table]
      omega
    have hplace := extract_of_eq _ _ htext hoffset.symm rfl
    rw [hoffset] at hplace
    rw [← hbefore]
    refine entry_of ?_ ?_ hfits hplace
    · have htable := congrArg
        (elf.table (elf.phoff + elf.phentsize * elf.segments.length)) hsplit
      rw [table_append, table] at htable
      rw [encode, htable]
      simp only [List.append_assoc]
      exact ⟨_, rfl⟩
    · rw [hlength, hdata, List.length_append, List.length_append]
      omega

end Elf

/-! ## What is read back -/

/-- Reading a written file gives the first GNU build id in the order of the segments,
and the first build id of a `VMCOREINFO` note, or says that there is none. -/
theorem build_ids_read_back (elf : Elf) (path : String) (file : File)
    (hwritten : elf.Written file.content) (hopen : file.denied = none)
    (hfits : ∀ n ≤ file.content.length, file.fits n = true) :
    (∀ before note after, elf.notes = before ++ note :: after → IsGnu note →
      (∀ other ∈ before, ¬ IsGnu other) →
        ((readElfBuildId path).run (exec file) 0).1 = .ok (hex note.desc)) ∧
    ((∀ note ∈ elf.notes, ¬ IsGnu note) →
      ((readElfBuildId path).run (exec file) 0).1 = .error (.documented
        (if elf.segments = [] then elfSpec.noHeaders else elfSpec.absent))) ∧
    (∀ before note after digits, elf.notes = before ++ note :: after → IsVmcoreinfo note →
      FirstBuildIdLine note.desc digits → (∀ other ∈ before, ¬ HasBuildId other) →
        ((readVmcoreBuildId path).run (exec file) 0).1 = .ok (lowerAscii digits)) ∧
    ((∀ note ∈ elf.notes, ¬ HasBuildId note) →
      ∃ message, ((readVmcoreBuildId path).run (exec file) 0).1 =
        .error (.documented (.buildIdAbsent message))) := by
  have hlength : 16 ≤ file.content.length := by
    have hcomplete := hwritten.complete
    rcases elf.layout_cases with h | h <;> rw [h] at hcomplete <;>
      simp only [elf64, elf32] at hcomplete <;> omega
  have hident : (file.content.extract 0 16).take 4 = elfMagic := by
    rw [← hwritten.magic]
    simp [List.take_take]
  have helf : ((readElfBuildId path).run (exec file) 0).1 =
      match elf.notes.findSome? fun note => pickGnu note.ntype note.name note.desc with
      | some id => .ok id
      | none => .error (.documented
          (if elf.segments = [] then elfSpec.noHeaders else elfSpec.absent)) := by
    rw [run_readElfBuildId, elfResult, hopen, Elf.readResult_of_le hfits (by omega)]
    dsimp only [bind, Except.bind]
    rw [if_neg (not_not.mpr hident), hwritten.headersResult hfits (fun blob => rfl)]
    cases elf.notes.findSome? fun note => pickGnu note.ntype note.name note.desc <;> rfl
  have hvmcore : ((readVmcoreBuildId path).run (exec file) 0).1 =
      match elf.notes.findSome? fun note => pickVmcoreinfo note.ntype note.name note.desc with
      | some id => .ok id
      | none => .error (.documented
          (if elf.segments = [] then vmcoreSpec.noHeaders else vmcoreSpec.absent)) := by
    rw [run_readVmcoreBuildId, vmcoreResult, hopen, hfits 16 hlength, if_neg (by simp)]
    dsimp only
    have hsize : (file.content.extract 0 16).length = 16 := by
      rw [List.length_take, List.length_drop]
      omega
    rw [if_neg (not_not.mpr hident), if_neg (by omega),
      hwritten.headersResult hfits (fun blob => rfl)]
    cases elf.notes.findSome? fun note => pickVmcoreinfo note.ntype note.name note.desc <;> rfl
  rw [helf, hvmcore]
  refine ⟨?_, ?_, ?_, ?_⟩
  · intro before note after hnotes hnote hfirst
    rw [List.findSome?_eq_some_iff.mpr
      ⟨before, note, after, hnotes, pickGnu_of hnote, fun other h => pickGnu_of_not (hfirst other h)⟩]
  · intro hnone
    rw [List.findSome?_eq_none_iff.mpr fun note h => pickGnu_of_not (hnone note h)]
  · intro before note after digits hnotes hnote hline hfirst
    rw [List.findSome?_eq_some_iff.mpr ⟨before, note, after, hnotes,
      pickVmcoreinfo_of hnote hline, fun other h => pickVmcoreinfo_of_not (hfirst other h)⟩]
  · intro hnone
    rw [List.findSome?_eq_none_iff.mpr fun note h => pickVmcoreinfo_of_not (hnone note h)]
    dsimp only
    split
    · exact ⟨_, rfl⟩
    · exact ⟨_, rfl⟩

/-- A note of another type. -/
def abiNote : Note := ⟨1, ascii "GNU" ++ [0], [0, 0, 0, 0], by decide, by decide, by decide⟩

/-- A note with a build id of three octets. -/
def gnuNote : Note := ⟨3, ascii "GNU" ++ [0], [0x0a, 0xff, 0x10], by decide, by decide, by decide⟩

/-- A 32-bit file in the other byte order, with one segment of notes behind another. -/
def smallElf : Elf where
  is64 := false
  order := .big
  phoff := 60
  phentsize := 36
  segments := [.other 1 (by decide) (by decide), .notes [abiNote, gnuNote]]
  phentsize_ge := by decide
  phoff_lt := by decide
  phentsize_lt := by decide
  segments_lt := by decide

/-- The file that the writer writes. -/
def smallFile : File where
  content := smallElf.encode
  short := by decide +kernel
  fits := fun _ => true

theorem build_id_of_smallElf :
    ((readElfBuildId "vmlinux").run (exec smallFile) 0).1 = .ok "0aff10".toList :=
  (build_ids_read_back smallElf "vmlinux" smallFile
    (Elf.written_encode (by decide) (by decide +kernel)) rfl (fun _ _ => rfl)).1
    [abiNote] gnuNote [] rfl ⟨rfl, 1, rfl⟩ (by
      intro other hother
      rw [List.mem_singleton.mp hother]
      rintro ⟨htype, -⟩
      revert htype
      decide)

end Kdive.Symbols

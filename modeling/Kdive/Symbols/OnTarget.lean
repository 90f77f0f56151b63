import Kdive.Lib.Checked
import Kdive.Symbols.ElfWriting

/-!
# The build-id reader on the target

The probe script carries a reader of its own to a target.  It reads the same tables
as `readElfBuildId`, but it takes the sizes of notes for little-endian numbers, reads
what there is of a segment or a note that is cut off, and takes an empty id for none.

`onTarget_agrees_iff` says of which files the two readers say the same.
-/

namespace Kdive.Symbols

open Program Prog ByteOrder

/-! ## The script -/

/-- `(n + 3) & ~3`. -/
def align4 (n : Nat) : Nat := (n + 3) / 4 * 4

/-- `_parse_notes`, from an offset. -/
def parseNotes (blob : List UInt8) (off : Nat) : Option (List Char) :=
  if off + 12 ≤ blob.length then
    let namesz := ByteOrder.read .little (blob.extract off (off + 4))
    let descsz := ByteOrder.read .little (blob.extract (off + 4) (off + 8))
    let ntype := ByteOrder.read .little (blob.extract (off + 8) (off + 12))
    let name := blob.extract (off + 12) (off + 12 + namesz)
    let descStart := off + 12 + align4 namesz
    let desc := blob.extract descStart (descStart + descsz)
    if ntype = 3 ∧ rstripZeros name = ascii "GNU" then some (hex desc)
    else parseNotes blob (descStart + align4 descsz)
  else none
termination_by blob.length - off

/-- A reader that raises nothing of its own. -/
abbrev Script (α : Type) := Reader Empty α

/-- The loop of `_elf_build_id` over the program headers. -/
def findOnTarget (layout : Layout) (order : Order) (ePhoff ePhentsize : Nat) :
    List Nat → Script (Option (List Char))
  | [] => pure none
  | i :: rest => do
      seek (ePhoff + i * ePhentsize)
      let ph ← readUpTo ePhentsize
      let pType ← unpackFrom order 4 ph 0
      let pOff ← unpackFrom order layout.wordSize ph layout.offsetAt
      let pFilesz ← unpackFrom order layout.wordSize ph layout.fileszAt
      if pType ≠ 4 then findOnTarget layout order ePhoff ePhentsize rest
      else
        seek pOff
        let blob ← readUpTo pFilesz
        match parseNotes blob 0 with
        | some (c :: id) => pure (some (c :: id))
        | _ => findOnTarget layout order ePhoff ePhentsize rest

/-- The body of `_elf_build_id`. -/
def readOnTarget : Script (Option (List Char)) := do
  openRb
  let head ← readUpTo 64
  if head.take 4 ≠ elfMagic then pure none
  else
    let eiClass ← octet head 4
    let layout := if eiClass = 2 then elf64 else elf32
    let eiData ← octet head 5
    let order : Order := if eiData = 1 then .little else .big
    let ePhoff ← unpackFrom order layout.wordSize head layout.phoffAt
    let ePhentsize ← unpackFrom order 2 head layout.phentsizeAt
    let ePhnum ← unpackFrom order 2 head (layout.phentsizeAt + 2)
    if ePhnum = 0 ∨ ePhentsize < layout.minPhentsize then pure none
    else
      let fileSize ← seekEnd
      if fileSize < ePhoff + ePhnum * ePhentsize then pure none
      else findOnTarget layout order ePhoff ePhentsize (List.range ePhnum)

/-- `_elf_build_id`: whatever is raised, there is no id. -/
def elfBuildId : Script (Option (List Char)) := rescue readOnTarget fun _ => pure none

/-! ## Segment by segment -/

/-- What a reader makes of one segment. -/
inductive Step where
  /-- It looks at the next one. -/
  | next
  /-- It gives up. -/
  | stop
  /-- It has an id. -/
  | found (id : List Char)
deriving DecidableEq, Repr

/-- The id that comes out of a walk. -/
def settle (step : Nat × Nat → Step) : List (Nat × Nat) → Option (List Char)
  | [] => none
  | segment :: rest =>
      match step segment with
      | .next => settle step rest
      | .stop => none
      | .found id => some id

variable (file : File)

/-- What `seek` and `read` give of a segment. -/
def segmentData (segment : Nat × Nat) : List UInt8 :=
  file.content.extract segment.1 (segment.1 + segment.2)

/-- A read of so many octets is answered. -/
def File.Answers (size : Nat) : Prop := size < seekLimit ∧ file.fits size = true

instance (size : Nat) : Decidable (file.Answers size) :=
  inferInstanceAs (Decidable (size < seekLimit ∧ file.fits size = true))

/-- The reader on the host. -/
def hostStep (order : Order) (segment : Nat × Nat) : Step :=
  if segment.1 < seekLimit ∧ file.Answers segment.2 ∧
      (segmentData file segment).length = segment.2 then
    match scanNotes (segmentData file segment) order with
    | some id => .found id
    | none => .next
  else .stop

/-- The reader on the target. -/
def targetStep (segment : Nat × Nat) : Step :=
  if segment.1 < seekLimit ∧ file.Answers segment.2 then
    match parseNotes (segmentData file segment) 0 with
    | some (c :: id) => .found (c :: id)
    | _ => .next
  else .stop

/-- The table is announced and inside the file. -/
def HasTable : Prop :=
  let header := headerOf file.content
  header.Plausible ∧ header.ePhoff + header.tableBytes ≤ file.content.length

/-- The host goes on to the segments: the file opens, its header is whole and of a
known class and byte order, and its table can be read. -/
structure HostAccepts : Prop where
  opens : file.denied = none
  magic : file.content.take 4 = elfMagic
  supported : Supported file.content
  whole : (headerOf file.content).layout.ehdrSize ≤ file.content.length
  table : HasTable file
  answers : ∀ size ∈ [16, (headerOf file.content).layout.ehdrSize,
    (headerOf file.content).tableBytes], file.fits size = true

/-- The target goes on to the segments: the file opens, the fields of the header it
needs are there, and its table can be read entry by entry. -/
structure TargetAccepts : Prop where
  opens : file.denied = none
  magic : file.content.take 4 = elfMagic
  whole : (headerOf file.content).layout.phentsizeAt + 4 ≤ file.content.length
  table : HasTable file
  answers : ∀ size ∈ [64, (headerOf file.content).ePhentsize], file.fits size = true

/-! ## The host -/

section

variable {file}

variable {ε : Type} {truncated : Nat → Nat → ε} {offset size : Nat}

/-- A read that is answered in full is the part of the file. -/
theorem readResult_of_answers (hoffset : offset < seekLimit) (hanswers : file.Answers size)
    (hlength : (file.content.extract offset (offset + size)).length = size) :
    readResult truncated file offset size = .ok (file.content.extract offset (offset + size)) := by
  rw [readResult, if_neg (not_or.mpr ⟨Nat.not_le.mpr hoffset, Nat.not_le.mpr hanswers.1⟩),
    hanswers.2, if_neg (by simp)]
  exact if_neg (not_not.mpr hlength)

theorem answers_of_readResult {data : List UInt8}
    (h : readResult truncated file offset size = .ok data) :
    offset < seekLimit ∧ file.Answers size := by
  rw [readResult] at h
  split at h
  · cases h
  · rename_i hseek
    split at h
    · cases h
    · rename_i hfits
      exact ⟨by omega, by omega, (Bool.not_eq_false _).mp hfits⟩

/-- A read inside the file succeeds if it is answered. -/
theorem readResult_of_fits (hle : offset + size ≤ file.content.length)
    (hfits : file.fits size = true) :
    readResult truncated file offset size = .ok (file.content.extract offset (offset + size)) := by
  have hshort := file.short
  exact readResult_of_answers (by omega) ⟨by omega, hfits⟩ (length_extract_of_le hle)

theorem walk_eq_ok (order : Order) (segments : List (Nat × Nat)) (id : List Char) :
    walk elfSpec file order segments = .ok (some id) ↔
      settle (hostStep file order) segments = some id := by
  induction segments with
  | nil => simp [walk, settle]
  | cons segment rest ih =>
      obtain ⟨offset, size⟩ := segment
      have hscan : elfSpec.scan (file.content.extract offset (offset + size)) order =
          scanNotes (segmentData file (offset, size)) order := rfl
      rw [walk, settle, hostStep]
      cases hread : readResult elfSpec.truncated file offset size with
      | ok data =>
          obtain ⟨rfl, hlength⟩ := readResult_eq_ok hread
          obtain ⟨hoffset, hanswers⟩ := answers_of_readResult hread
          rw [if_pos ⟨hoffset, hanswers, hlength⟩]
          dsimp only [Bind.bind, Except.bind]
          rw [hscan]
          cases scanNotes (segmentData file (offset, size)) order with
          | some id' => simp
          | none => exact ih
      | error e =>
          rw [if_neg fun h => by
            rw [readResult_of_answers h.1 h.2.1 h.2.2] at hread
            cases hread]
          simp [Bind.bind, Except.bind]

/-- The host's reader returns what its walk settles on, of a file it accepts. -/
theorem elfResult_eq_ok (path : String) (id : List Char) :
    elfResult path file = .ok id ↔ HostAccepts file ∧
      settle (hostStep file (headerOf file.content).order)
        ((headerOf file.content).segments file.content) = some id := by
  rw [elfResult, rescued_eq_ok, ← walk_eq_ok]
  constructor
  · intro h
    cases hopen : file.denied with
    | some text =>
        rw [hopen] at h
        cases h
    | none =>
        rw [hopen] at h
        obtain ⟨ident, hident, h⟩ := Checked.bind_eq_ok.mp h
        obtain ⟨rfl, -⟩ := readResult_eq_ok hident
        split at h
        · cases h
        · rename_i hmagic
          rw [headersResult] at h
          split at h
          · cases h
          · rename_i hsupported
            obtain ⟨ehdr, hehdr, h⟩ := Checked.bind_eq_ok.mp h
            obtain ⟨rfl, hcomplete⟩ := readResult_eq_ok hehdr
            split at h
            · cases h
            · rename_i hnum
              split at h
              · cases h
              · rename_i hsize
                split at h
                · cases h
                · rename_i hend
                  obtain ⟨_, htable, h⟩ := Checked.bind_eq_ok.mp h
                  obtain ⟨found, hwalk, h⟩ := Checked.bind_eq_ok.mp h
                  cases found with
                  | none => cases h
                  | some id' =>
                      cases h
                      rw [List.length_take, List.length_drop] at hcomplete
                      refine ⟨⟨hopen, ?_, supported_iff.mpr hsupported, by omega,
                        ⟨⟨hnum, Nat.le_of_not_lt hsize⟩, Nat.le_of_not_lt hend⟩, ?_⟩, hwalk⟩
                      · simpa [List.take_take] using not_not.mp hmagic
                      · simp [(answers_of_readResult hident).2.2, (answers_of_readResult hehdr).2.2,
                          (answers_of_readResult htable).2.2]
  · rintro ⟨⟨hopen, hmagic, hsupported, hcomplete, ⟨⟨hnum, hsize⟩, hend⟩, hanswers⟩, hwalk⟩
    simp only [List.mem_cons, List.not_mem_nil, or_false, forall_eq_or_imp, forall_eq] at hanswers
    obtain ⟨hfits16, hfitsEhdr, hfitsTable⟩ := hanswers
    have hident : 16 ≤ file.content.length := by
      rcases headerOf_layout file.content with h | h <;> rw [h] at hcomplete <;>
        simp only [elf64, elf32] at hcomplete <;> omega
    have hmagic : ¬ (file.content.extract 0 (0 + 16)).take 4 ≠ elfMagic := by
      rw [← hmagic]
      simp [List.take_take]
    rw [hopen]
    dsimp only
    rw [readResult_of_fits (by omega) hfits16]
    dsimp only [Bind.bind, Except.bind]
    rw [if_neg hmagic, headersResult, if_neg (supported_iff.mp hsupported)]
    dsimp only
    rw [readResult_of_fits (by omega) hfitsEhdr]
    dsimp only [Bind.bind, Except.bind]
    rw [if_neg hnum, if_neg (Nat.not_lt.mpr hsize), if_neg (Nat.not_lt.mpr hend),
      readResult_of_fits hend hfitsTable]
    dsimp only
    rw [hwalk]

end

/-! ## The target -/

section

variable {file} {α : Type} {id : List Char} {position : Nat}

/-- A part of the script has this id, from a position on. -/
def Gives (file : File) (id : List Char) (part : Script (Option (List Char))) (position : Nat) :
    Prop :=
  (part.run (exec file) position).1 = .ok (some id)

theorem gives_none : ¬ Gives file id (pure none) position := by
  rintro ⟨⟩

theorem gives_unpackFrom {order : Order} {width off : Nat} {blob : List UInt8}
    {f : Nat → Script (Option (List Char))} :
    Gives file id (unpackFrom order width blob off >>= f) position ↔
      off + width ≤ blob.length ∧ Gives file id (f (fieldAt order width blob off)) position := by
  by_cases hin : off + width ≤ blob.length
  · rw [unpackFrom_bind hin, and_iff_right hin]
  · rw [unpackFrom, if_neg hin]
    constructor
    · rintro ⟨⟩
    · exact fun h => absurd h.1 hin

theorem gives_octet {blob : List UInt8} {i : Nat} {f : UInt8 → Script (Option (List Char))} :
    Gives file id (octet blob i >>= f) position ↔
      ∃ b, blob[i]? = some b ∧ Gives file id (f b) position := by
  cases hb : blob[i]? with
  | some b => simp [octet_bind hb]
  | none =>
      rw [octet, hb]
      constructor
      · rintro ⟨⟩
      · rintro ⟨b, ⟨⟩, -⟩

theorem gives_seekEnd {f : Nat → Script (Option (List Char))} :
    Gives file id (seekEnd >>= f) position ↔
      Gives file id (f file.content.length) file.content.length := Iff.rfl

theorem gives_openRb {f : Unit → Script (Option (List Char))} :
    Gives file id (openRb >>= f) position ↔
      file.denied = none ∧ Gives file id (f ()) position := by
  rw [Gives, run_bind, openRb, run_perform, exec]
  cases file.denied with
  | none => simp [Gives]
  | some text => simp

theorem gives_readUpTo {size : Nat} {f : List UInt8 → Script (Option (List Char))} :
    Gives file id (readUpTo size >>= f) position ↔
      file.Answers size ∧ Gives file id (f (file.content.extract position (position + size)))
        (position + (file.content.extract position (position + size)).length) := by
  rw [Gives, run_bind, readUpTo, run_perform, exec, File.Answers]
  by_cases hsize : size < seekLimit
  · rw [if_neg (Nat.not_le.mpr hsize), and_iff_right hsize]
    cases file.fits size with
    | true => rw [if_neg (by simp), and_iff_right rfl]; rfl
    | false => simp
  · rw [if_pos (Nat.le_of_not_lt hsize)]
    constructor
    · rintro ⟨⟩
    · exact fun h => absurd h.1.1 hsize

/-- A read at an offset. -/
theorem gives_readAt {offset size : Nat} {f : List UInt8 → Script (Option (List Char))} {next : Prop}
    (hnext : ∀ position', Gives file id (f (file.content.extract offset (offset + size))) position' ↔
      next) :
    Gives file id (do seek offset; let blob ← readUpTo size; f blob) position ↔
      offset < seekLimit ∧ file.Answers size ∧ next := by
  rw [Gives, run_bind, seek, run_perform, exec]
  by_cases hoffset : offset < seekLimit
  · rw [if_neg (Nat.not_le.mpr hoffset), and_iff_right hoffset, ← hnext]
    exact gives_readUpTo
  · rw [if_pos (Nat.le_of_not_lt hoffset)]
    constructor
    · rintro ⟨⟩
    · exact fun h => absurd h.1 hoffset

/-- The loop over the program headers settles like the walk over the segments of notes. -/
theorem gives_findOnTarget {header : Header}
    (hlayout : header.layout = elf64 ∨ header.layout = elf32)
    (hsize : header.layout.minPhentsize ≤ header.ePhentsize)
    (hfits : file.fits header.ePhentsize = true)
    (hend : header.ePhoff + header.tableBytes ≤ file.content.length)
    {entries : List Nat} (hentries : ∀ i ∈ entries, i < header.ePhnum) :
    Gives file id (findOnTarget header.layout header.order header.ePhoff header.ePhentsize entries)
        position ↔
      settle (targetStep file)
        (entries.filterMap (header.segmentAt (header.table file.content))) = some id := by
  induction entries generalizing position with
  | nil => simp [findOnTarget, settle, Gives]
  | cons i rest ih =>
      obtain ⟨hi, hrest⟩ := List.forall_mem_cons.mp hentries
      have hshort := file.short
      have hentry : i * header.ePhentsize + header.ePhentsize ≤ header.tableBytes := by
        rw [Header.tableBytes, ← Nat.succ_mul, Nat.mul_comm header.ePhentsize]
        exact Nat.mul_le_mul_right _ hi
      have hinside : 4 ≤ header.ePhentsize ∧
          header.layout.offsetAt + header.layout.wordSize ≤ header.ePhentsize ∧
          header.layout.fileszAt + header.layout.wordSize ≤ header.ePhentsize := by
        rcases hlayout with hlayout | hlayout <;> rw [hlayout] at hsize ⊢ <;>
          simp only [elf64, elf32] at hsize ⊢ <;> omega
      have hlength : (file.content.extract (header.ePhoff + i * header.ePhentsize)
          (header.ePhoff + i * header.ePhentsize + header.ePhentsize)).length = header.ePhentsize :=
        length_extract_of_le (by omega)
      -- a field of the entry is a field of the table
      have hfield : ∀ width off, off + width ≤ header.ePhentsize →
          fieldAt header.order width (file.content.extract (header.ePhoff + i * header.ePhentsize)
            (header.ePhoff + i * header.ePhentsize + header.ePhentsize)) off =
          fieldAt header.order width (header.table file.content) (i * header.ePhentsize + off) := by
        intro width off hoff
        rw [fieldAt, extract_extract _ (by omega), Elf.fieldAt_table header header.order (by omega),
          fieldAt]
        simp only [Nat.add_assoc]
      rw [findOnTarget]
      refine (gives_readAt fun position' => ?_).trans
        ((and_iff_right (by omega)).trans (and_iff_right ⟨by omega, hfits⟩))
      rw [gives_unpackFrom, gives_unpackFrom, gives_unpackFrom, hlength,
        and_iff_right (by omega), and_iff_right (by omega), and_iff_right (by omega),
        hfield 4 0 (by omega), hfield _ _ hinside.2.1, hfield _ _ hinside.2.2, Nat.add_zero]
      by_cases hnote : fieldAt header.order 4 (header.table file.content) (i * header.ePhentsize) = 4
      · rw [if_neg (not_not.mpr hnote), List.filterMap_cons_some
          (by rw [Header.segmentAt, ptNote, if_pos hnote]), settle, targetStep, segmentData]
        generalize fieldAt header.order header.layout.wordSize (header.table file.content)
          (i * header.ePhentsize + header.layout.offsetAt) = offset
        generalize fieldAt header.order header.layout.wordSize (header.table file.content)
          (i * header.ePhentsize + header.layout.fileszAt) = size
        have hnext : ∀ position', Gives file id
            (match parseNotes (file.content.extract offset (offset + size)) 0 with
            | some (c :: id) => pure (some (c :: id))
            | _ => findOnTarget header.layout header.order header.ePhoff header.ePhentsize rest)
            position' ↔
            (match (match parseNotes (file.content.extract offset (offset + size)) 0 with
              | some (c :: id) => Step.found (c :: id)
              | _ => Step.next) with
            | .next => settle (targetStep file)
                (rest.filterMap (header.segmentAt (header.table file.content)))
            | .stop => none
            | .found id => some id) = some id := by
          intro position'
          rcases parseNotes (file.content.extract offset (offset + size)) 0 with _ | _ | ⟨c, id'⟩
          · exact ih hrest
          · exact ih hrest
          · simp [Gives]
        refine (gives_readAt hnext).trans ?_
        rw [← and_assoc]
        by_cases hreads : offset < seekLimit ∧ file.Answers size
        · rw [if_pos hreads, and_iff_right hreads]
        · rw [if_neg hreads]
          simp [hreads]
      · rw [if_pos hnote, List.filterMap_cons_none (by rw [Header.segmentAt, ptNote, if_neg hnote])]
        exact ih hrest

/-- Nothing comes out of a table whose entries cannot be read. -/
theorem not_gives_findOnTarget {layout : Layout} {order : Order} {ePhoff ePhentsize : Nat}
    (hfits : file.fits ePhentsize ≠ true) (entries : List Nat) :
    ¬ Gives file id (findOnTarget layout order ePhoff ePhentsize entries) position := by
  cases entries with
  | nil => exact gives_none
  | cons i rest =>
      rw [findOnTarget, Gives, run_bind, seek, run_perform, exec]
      split
      · rename_i hseek
        split at hseek <;> cases hseek
        rintro h
        exact hfits (gives_readUpTo.mp h).1.2
      · rintro ⟨⟩

/-- What the script does with the fields of the header. -/
def readOnTargetFrom (layout : Layout) (order : Order) (head : List UInt8) :
    Script (Option (List Char)) := do
  let ePhoff ← unpackFrom order layout.wordSize head layout.phoffAt
  let ePhentsize ← unpackFrom order 2 head layout.phentsizeAt
  let ePhnum ← unpackFrom order 2 head (layout.phentsizeAt + 2)
  if ePhnum = 0 ∨ ePhentsize < layout.minPhentsize then pure none
  else
    let fileSize ← seekEnd
    if fileSize < ePhoff + ePhnum * ePhentsize then pure none
    else findOnTarget layout order ePhoff ePhentsize (List.range ePhnum)

/-- From the fields on, the script settles on what its walk settles on. -/
theorem gives_fields :
    Gives file id (readOnTargetFrom (headerOf file.content).layout (headerOf file.content).order
        (file.content.extract 0 (0 + 64))) position ↔
      ((headerOf file.content).layout.phentsizeAt + 4 ≤ file.content.length ∧ HasTable file ∧
        file.fits (headerOf file.content).ePhentsize = true) ∧
      settle (targetStep file) ((headerOf file.content).segments file.content) = some id := by
  have hlayout := headerOf_layout file.content
  have hfields : (headerOf file.content).layout.phoffAt + (headerOf file.content).layout.wordSize ≤
        (headerOf file.content).layout.phentsizeAt ∧
      (headerOf file.content).layout.phentsizeAt + 4 ≤ 64 := by
    rcases hlayout with h | h <;> rw [h] <;> decide
  have hlength : (file.content.extract 0 (0 + 64)).length = min 64 file.content.length := by
    simp
  have hsize : (headerOf file.content).ePhnum * (headerOf file.content).ePhentsize =
      (headerOf file.content).tableBytes := Nat.mul_comm _ _
  rw [readOnTargetFrom, gives_unpackFrom, gives_unpackFrom, gives_unpackFrom, hlength,
    fieldAt_extract _ _ (by omega), fieldAt_extract _ _ (by omega), fieldAt_extract _ _ (by omega)]
  rw [show fieldAt (headerOf file.content).order (headerOf file.content).layout.wordSize file.content
        (headerOf file.content).layout.phoffAt = (headerOf file.content).ePhoff from rfl,
    show fieldAt (headerOf file.content).order 2 file.content
        (headerOf file.content).layout.phentsizeAt = (headerOf file.content).ePhentsize from rfl,
    show fieldAt (headerOf file.content).order 2 file.content
        ((headerOf file.content).layout.phentsizeAt + 2) = (headerOf file.content).ePhnum from rfl]
  by_cases hannounced : (headerOf file.content).Plausible
  · rw [if_neg fun h => h.elim hannounced.1 (Nat.not_lt.mpr hannounced.2), gives_seekEnd, hsize]
    by_cases hend : (headerOf file.content).ePhoff + (headerOf file.content).tableBytes ≤
        file.content.length
    · rw [if_neg (Nat.not_lt.mpr hend)]
      by_cases hfits : file.fits (headerOf file.content).ePhentsize = true
      · rw [gives_findOnTarget hlayout hannounced.2 hfits hend fun i hi => List.mem_range.mp hi,
          ← Header.segments, ← and_assoc, ← and_assoc]
        refine and_congr_left fun _ => ?_
        constructor
        · rintro ⟨⟨-, -⟩, h⟩
          exact ⟨by omega, ⟨hannounced, hend⟩, hfits⟩
        · rintro ⟨h, -⟩
          exact ⟨⟨by omega, by omega⟩, by omega⟩
      · constructor
        · exact fun h => absurd h.2.2.2 (not_gives_findOnTarget hfits _)
        · exact fun h => absurd h.1.2.2 hfits
    · rw [if_pos (Nat.lt_of_not_le hend)]
      constructor
      · exact fun h => absurd h.2.2.2 gives_none
      · exact fun h => absurd h.1.2.1.2 hend
  · rw [if_pos (by rw [Header.Plausible] at hannounced; omega)]
    constructor
    · exact fun h => absurd h.2.2.2 gives_none
    · exact fun h => absurd h.1.2.1.1 hannounced

/-- The script's reader returns what its walk settles on, of a file it accepts. -/
theorem gives_readOnTarget (id : List Char) :
    Gives file id readOnTarget 0 ↔ TargetAccepts file ∧
      settle (targetStep file) ((headerOf file.content).segments file.content) = some id := by
  have hhead : (file.content.extract 0 (0 + 64)).take 4 = file.content.take 4 := by
    simp [List.take_take]
  have hbyte : ∀ i < 64, (file.content.extract 0 (0 + 64))[i]? = file.content[i]? := by
    intro i hi
    simp [hi]
  rw [readOnTarget, gives_openRb, gives_readUpTo, hhead]
  by_cases hmagic : file.content.take 4 = elfMagic
  · rw [if_neg (not_not.mpr hmagic)]
    by_cases hsix : 6 ≤ file.content.length
    · obtain ⟨eiClass, hc⟩ : ∃ b, file.content[4]? = some b :=
        ⟨_, List.getElem?_eq_getElem (by omega)⟩
      obtain ⟨eiData, hd⟩ : ∃ b, file.content[5]? = some b :=
        ⟨_, List.getElem?_eq_getElem (by omega)⟩
      have hheader : headerOf file.content = headerAs (if eiClass = 2 then elf64 else elf32)
          (if eiData = 1 then .little else .big) file.content := by
        simp only [headerOf, hc, hd, Option.some.injEq]
      rw [octet_bind ((hbyte 4 (by omega)).trans hc), octet_bind ((hbyte 5 (by omega)).trans hd)]
      dsimp only
      rw [show (if eiClass = 2 then elf64 else elf32) = (headerOf file.content).layout by
          rw [hheader]; rfl,
        show (if eiData = 1 then Order.little else .big) = (headerOf file.content).order by
          rw [hheader]; rfl, ← readOnTargetFrom, gives_fields]
      constructor
      · rintro ⟨hopen, hanswers, ⟨hwhole, htable, hfits⟩, hsettle⟩
        exact ⟨⟨hopen, hmagic, hwhole, htable, by simp [hanswers.2, hfits]⟩, hsettle⟩
      · rintro ⟨⟨hopen, -, hwhole, htable, hanswers⟩, hsettle⟩
        simp only [List.mem_cons, List.not_mem_nil, or_false, forall_eq_or_imp,
          forall_eq] at hanswers
        exact ⟨hopen, ⟨by decide, hanswers.1⟩, ⟨hwhole, htable, hanswers.2⟩, hsettle⟩
    · constructor
      · rintro ⟨-, -, h⟩
        obtain ⟨_, -, h⟩ := gives_octet.mp h
        obtain ⟨_, hb, -⟩ := gives_octet.mp h
        rw [hbyte 5 (by omega), List.getElem?_eq_none (by omega)] at hb
        cases hb
      · rintro ⟨h, -⟩
        have := h.whole
        rcases headerOf_layout file.content with hlayout | hlayout <;> rw [hlayout] at this <;>
          simp only [elf64, elf32] at this <;> omega
  · rw [if_pos hmagic]
    constructor
    · exact fun h => absurd h.2.2 gives_none
    · exact fun h => absurd h.1.magic hmagic

/-- The script raises nothing. -/
theorem elfBuildId_ok (file : File) :
    ∃ found, (elfBuildId.run (exec file) 0).1 = .ok found := by
  rw [elfBuildId, run_rescue]
  rcases readOnTarget.run (exec file) 0 with ⟨e | found, position⟩
  · exact ⟨none, rfl⟩
  · exact ⟨found, rfl⟩

/-- It returns the id that its reader comes to. -/
theorem elfBuildId_eq_ok (id : List Char) :
    (elfBuildId.run (exec file) 0).1 = .ok (some id) ↔ TargetAccepts file ∧
      settle (targetStep file) ((headerOf file.content).segments file.content) = some id := by
  rw [← gives_readOnTarget, Gives, elfBuildId, run_rescue]
  rcases readOnTarget.run (exec file) 0 with ⟨e | found, position⟩
  · simp
  · exact Iff.rfl

end

/-! ## Where the readers part -/

/-- The id that a step ends a walk with. -/
def Step.id : Step → Option (List Char)
  | .found id => some id
  | .next | .stop => none

/-- Two walks end alike: up to the first segment that ends one of them both go on, and
the one that goes on there comes to what the other has. -/
def EndAlike (host target : Nat × Nat → Step) : List (Nat × Nat) → Prop
  | [] => True
  | segment :: rest =>
      match host segment, target segment with
      | .next, .next => EndAlike host target rest
      | .next, ended => settle host rest = ended.id
      | ended, .next => settle target rest = ended.id
      | ended, ended' => ended.id = ended'.id

theorem endAlike_iff (host target : Nat × Nat → Step) (segments : List (Nat × Nat)) :
    EndAlike host target segments ↔ settle host segments = settle target segments := by
  induction segments with
  | nil => simp [EndAlike, settle]
  | cons segment rest ih =>
      rw [EndAlike, settle, settle]
      cases host segment with
      | next =>
          cases target segment with
          | next => exact ih
          | stop => exact Iff.rfl
          | found id => exact Iff.rfl
      | stop => cases target segment <;> first | exact Iff.rfl | exact eq_comm
      | found id => cases target segment <;> first | exact Iff.rfl | exact eq_comm

/-- The script returns an id exactly when the host does, and then the same one. -/
def Agree (path : String) : Prop :=
  ∀ id, (elfBuildId.run (exec file) 0).1 = .ok (some id) ↔
    ((readElfBuildId path).run (exec file) 0).1 = .ok id

/-- Of a file that both accept, the walks end alike.  One that only one of them accepts
has no id for it. -/
structure ReadAlike : Prop where
  both : HostAccepts file → TargetAccepts file →
    EndAlike (hostStep file (headerOf file.content).order) (targetStep file)
      ((headerOf file.content).segments file.content)
  hostOnly : HostAccepts file → ¬ TargetAccepts file →
    settle (hostStep file (headerOf file.content).order)
      ((headerOf file.content).segments file.content) = none
  targetOnly : TargetAccepts file → ¬ HostAccepts file →
    settle (targetStep file) ((headerOf file.content).segments file.content) = none

theorem agree_iff (path : String) : Agree file path ↔ ReadAlike file := by
  have hagree : Agree file path ↔ ∀ id,
      (TargetAccepts file ∧
        settle (targetStep file) ((headerOf file.content).segments file.content) = some id) ↔
      (HostAccepts file ∧ settle (hostStep file (headerOf file.content).order)
        ((headerOf file.content).segments file.content) = some id) := by
    refine forall_congr' fun id => ?_
    rw [elfBuildId_eq_ok, run_readElfBuildId, elfResult_eq_ok]
  rw [hagree]
  constructor
  · intro h
    refine ⟨fun hhost htarget => ?_, fun hhost htarget => ?_, fun htarget hhost => ?_⟩
    · rw [endAlike_iff]
      refine Option.ext fun id => ?_
      simpa [hhost, htarget] using (h id).symm
    · refine Option.eq_none_iff_forall_ne_some.mpr fun id hid => ?_
      exact htarget ((h id).mpr ⟨hhost, hid⟩).1
    · refine Option.eq_none_iff_forall_ne_some.mpr fun id hid => ?_
      exact hhost ((h id).mp ⟨htarget, hid⟩).1
  · intro h id
    by_cases hhost : HostAccepts file
    · by_cases htarget : TargetAccepts file
      · have heq := (endAlike_iff _ _ _).mp (h.both hhost htarget)
        rw [heq]
        simp only [hhost, htarget]
      · simp [hhost, htarget, h.hostOnly hhost htarget]
    · by_cases htarget : TargetAccepts file
      · simp [hhost, htarget, h.targetOnly htarget hhost]
      · simp only [hhost, htarget, false_and]

/-! ## Segments both read alike -/

/-- The GNU build id that the script takes from the note at which the host's walk ends,
a note that runs past its segment. -/
def overrun (blob : List UInt8) (off : Nat) : Option (List Char) :=
  if off + 12 ≤ blob.length then
    let namesz := ByteOrder.read .little (blob.extract off (off + 4))
    let descsz := ByteOrder.read .little (blob.extract (off + 4) (off + 8))
    let ntype := ByteOrder.read .little (blob.extract (off + 8) (off + 12))
    let nameEnd := off + 12 + namesz
    let descStart := nameEnd + pad nameEnd
    let descEnd := descStart + descsz
    if blob.length < descEnd then
      pickGnu ntype (blob.extract (off + 12) nameEnd) (blob.extract descStart descEnd)
    else overrun blob (descEnd + pad descEnd)
  else none
termination_by blob.length - off

/-- Of little-endian notes the script makes what the host makes, and something of a
note that runs past the segment. -/
theorem parseNotes_eq {blob : List UInt8} {off : Nat} (hoff : off % 4 = 0) :
    parseNotes blob off = (scanNotesWith pickGnu blob .little off).or (overrun blob off) := by
  induction hleft : blob.length - off using Nat.strong_induction_on generalizing off with
  | _ left ih =>
      rw [parseNotes, scanNotesWith, overrun]
      split
      · dsimp only
        generalize ByteOrder.read .little (blob.extract off (off + 4)) = namesz
        generalize ByteOrder.read .little (blob.extract (off + 4) (off + 8)) = descsz
        generalize ByteOrder.read .little (blob.extract (off + 8) (off + 12)) = ntype
        have hstart : off + 12 + align4 namesz = off + 12 + namesz + pad (off + 12 + namesz) := by
          simp only [align4, pad]
          omega
        have hnext : off + 12 + align4 namesz + align4 descsz =
            off + 12 + namesz + pad (off + 12 + namesz) + descsz +
              pad (off + 12 + namesz + pad (off + 12 + namesz) + descsz) := by
          simp only [align4, pad]
          omega
        rw [hnext, hstart]
        by_cases hover : blob.length < off + 12 + namesz + pad (off + 12 + namesz) + descsz
        · have hstop : parseNotes blob (off + 12 + namesz + pad (off + 12 + namesz) + descsz +
              pad (off + 12 + namesz + pad (off + 12 + namesz) + descsz)) = none := by
            rw [parseNotes, if_neg (by omega)]
          rw [if_pos hover, if_pos hover, hstop]
          rfl
        · rw [if_neg hover, if_neg hover, ih _ (by omega) (add_pad_mod _) rfl, pickGnu, ntGnuBuildId]
          split
          · rfl
          · rfl
      · rfl

/-- A segment in reach of both readers is whole, its first GNU build id is not empty,
and if it has none the walk ends at no such note that runs past it. -/
def Clean (segment : Nat × Nat) : Prop :=
  segment.1 < seekLimit → file.Answers segment.2 →
    (segmentData file segment).length = segment.2 ∧
    scanNotes (segmentData file segment) .little ≠ some [] ∧
    (scanNotes (segmentData file segment) .little = none →
      overrun (segmentData file segment) 0 ∈ [none, some []])

/-- These are the segments that both take alike in a little-endian file. -/
theorem hostStep_eq_targetStep (segment : Nat × Nat) :
    hostStep file .little segment = targetStep file segment ↔ Clean file segment := by
  rw [hostStep, targetStep, Clean, parseNotes_eq (by rfl), ← scanNotes]
  by_cases hreach : segment.1 < seekLimit ∧ file.Answers segment.2
  · rw [if_pos hreach, forall_prop_of_true hreach.1, forall_prop_of_true hreach.2]
    by_cases hlength : (segmentData file segment).length = segment.2
    · rw [if_pos ⟨hreach.1, hreach.2, hlength⟩, and_iff_right hlength]
      rcases scanNotes (segmentData file segment) .little with _ | _ | ⟨c, id⟩
      · rcases overrun (segmentData file segment) 0 with _ | _ | ⟨c, id⟩ <;> simp
      · simp
      · simp
    · rw [if_neg fun h => hlength h.2.2]
      split <;> simp [hlength]
  · rw [if_neg hreach, if_neg fun h => hreach ⟨h.1, h.2.1⟩]
    exact iff_of_true rfl fun h h' => absurd ⟨h, h'⟩ hreach

theorem settle_congr {host target : Nat × Nat → Step} {segments : List (Nat × Nat)}
    (h : ∀ segment ∈ segments, host segment = target segment) :
    settle host segments = settle target segments := by
  induction segments with
  | nil => rfl
  | cons segment rest ih =>
      obtain ⟨hsegment, hrest⟩ := List.forall_mem_cons.mp h
      rw [settle, settle, hsegment, ih hrest]

/-- A 64-bit file whose one segment of notes is cut off four octets before its end. -/
def cutElf : List UInt8 :=
  elfMagic ++ [2, 1] ++ gap 26 ++ write .little 8 64 ++ gap 14 ++ write .little 2 56 ++
    write .little 2 1 ++ gap 6 ++
    (write .little 4 4 ++ gap 4 ++ write .little 8 120 ++ gap 16 ++ write .little 8 24 ++ gap 16) ++
    gnuNote.encode .little

/-- The file. -/
def cutFile : File where
  content := cutElf
  short := by decide +kernel
  fits := fun _ => true

/-- The host takes the first GNU note of a segment. -/
theorem scanNotes_encode (order : Order) (notes : List Note) :
    scanNotes (encodeNotes order notes) order =
      notes.findSome? fun note => pickGnu note.ntype note.name note.desc :=
  @scanNotesWith_encode pickGnu order _ [] notes rfl rfl

theorem headerOf_cutElf : headerOf cutElf = ⟨elf64, .little, 64, 56, 1⟩ := by decide +kernel

theorem segments_cutElf : (headerOf cutElf).segments cutElf = [(120, 24)] := by decide +kernel

theorem headerOf_smallElf : headerOf smallElf.encode = ⟨elf32, .big, 60, 36, 2⟩ := by decide +kernel

theorem segments_smallElf : (headerOf smallElf.encode).segments smallElf.encode = [(132, 40)] := by
  decide +kernel

end Kdive.Symbols

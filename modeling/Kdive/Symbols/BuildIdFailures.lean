import Kdive.Lib.Checked
import Kdive.Symbols.ElfWriting

/-!
# How the build-id readers fail

The table of program headers is bounded by the size of the file before it is read,
and a segment of notes is not.  So a reader keeps to its documented exceptions, and
asks for no more than the file holds, exactly when the segments up to the one that
decides have an offset that can be sought and a size that the file has.

`fails_as_documented_iff` says so for both readers, of any file.
-/

namespace Kdive.Symbols

open Program Prog ByteOrder

/-! ## What is promised -/

/-- A call asks for no more octets than the file has. -/
def NoLarger (file : File) : FileOp → Prop
  | .read size => size ≤ file.content.length
  | _ => True

/-- A lower-case hexadecimal digit. -/
def IsLowerHex (c : Char) : Prop := c ∈ "0123456789abcdef".toList

/-- A build id: lower-case hexadecimal digits, and at least one. -/
def IsBuildId (id : List Char) : Prop := id ≠ [] ∧ ∀ c ∈ id, IsLowerHex c

/-- A reader returns a build id or raises an exception of its own. -/
def Documented {ε : Type} : Except (Raised ε) (List Char) → Prop
  | .ok id => IsBuildId id
  | .error (.documented _) => True
  | .error _ => False

/-- What the whole promise says of a run: its outcome, and what it asks for. -/
def AsPromised {ε : Type} (file : File) (reader : Reader ε (List Char)) : Prop :=
  Documented (reader.run (exec file) 0).1 ∧ reader.Asks (NoLarger file) (exec file) 0

theorem not_asPromised {ε : Type} {file : File} {reader : Reader ε (List Char)}
    (h : (reader.run (exec file) 0).1 = .error .overflowError) : ¬ AsPromised file reader := by
  rintro ⟨hdocumented, -⟩
  rw [h] at hdocumented
  exact hdocumented

/-! ## When it is kept -/

/-- So many octets can be read at once: the file has them, and memory too. -/
def File.Holds (file : File) (size : Nat) : Prop :=
  size ≤ file.content.length ∧ file.fits size = true

section

variable {ε α : Type} (spec : Spec ε) (file : File)

/-- Each segment up to the one that decides can be sought and read, and the id that
is found is not empty. -/
def SegmentsReadable (order : Order) : List (Nat × Nat) → Prop
  | [] => True
  | (offset, size) :: rest =>
      offset < seekLimit ∧ file.Holds size ∧
        ((file.content.extract offset (offset + size)).length = size →
          match spec.scan (file.content.extract offset (offset + size)) order with
          | some id => id ≠ []
          | none => SegmentsReadable order rest)

/-- The header can be read, and then the table and the segments. -/
def HeadersReadable : Prop :=
  Supported file.content →
    let header := headerOf file.content
    file.Holds header.layout.ehdrSize ∧
      (header.ePhnum ≠ 0 → header.layout.minPhentsize ≤ header.ePhentsize →
        header.ePhoff + header.tableBytes ≤ file.content.length →
          file.Holds header.tableBytes ∧
            SegmentsReadable spec file header.order (header.segments file.content))

/-- The identification can be read, and then the headers of an ELF file. -/
def FileReadable : Prop :=
  file.denied = none →
    file.Holds 16 ∧ (file.content.take 4 = elfMagic → HeadersReadable spec file)

end

/-! ## One read after the other -/

section

variable {ε α β : Type} {spec : Spec ε} {file : File}

/-- The promise inside the `try`, where an `OSError` is still caught. -/
def Kept (P : α → Prop) : Except (Raised ε) α → Prop
  | .ok a => P a
  | .error (.documented _) | .error (.osError _) => True
  | .error _ => False

/-- A part of a reader keeps the promise from a position on. -/
def KeepsFrom (file : File) (P : α → Prop) (part : Reader ε α) (position : Nat) : Prop :=
  Kept P (part.run (exec file) position).1 ∧ part.Asks (NoLarger file) (exec file) position

theorem keepsFrom_bind {P : β → Prop} {x : Reader ε α} {f : α → Reader ε β} {position : Nat} :
    KeepsFrom file P (x >>= f) position ↔
      x.Asks (NoLarger file) (exec file) position ∧
        match x.run (exec file) position with
        | (.ok a, position') => KeepsFrom file P (f a) position'
        | (.error e, _) => Kept P (.error e) := by
  rw [KeepsFrom, run_bind, asks_bind]
  rcases x.run (exec file) position with ⟨r, position'⟩
  cases r with
  | ok a => exact and_left_comm
  | error e =>
      show Kept P (.error e) ∧ _ ∧ True ↔ _ ∧ Kept P (.error e)
      rw [and_true, and_comm]

theorem keepsFrom_raise {P : α → Prop} {e : ε} {position : Nat} :
    KeepsFrom file P (.raise (.documented e) : Reader ε α) position ↔ True :=
  ⟨fun _ => trivial, fun _ => ⟨trivial, trivial⟩⟩

theorem keepsFrom_pure {P : α → Prop} {a : α} {position : Nat} :
    KeepsFrom file P (pure a : Reader ε α) position ↔ P a :=
  ⟨And.left, fun h => ⟨h, trivial⟩⟩

/-- What a read asks for: nothing when it cannot be sought. -/
theorem asks_readExact {truncated : Nat → Nat → ε} {offset size position : Nat} :
    (readExact truncated offset size : Reader ε (List UInt8)).Asks (NoLarger file) (exec file)
        position ↔ (offset < seekLimit → size ≤ file.content.length) := by
  rw [readExact, asks_bind, seek, asks_perform, run_perform, exec]
  by_cases hoffset : offset < seekLimit
  · have hrest : ∀ blob position', (if blob.length ≠ size then
        .raise (.documented (truncated size offset)) else pure blob :
          Reader ε (List UInt8)).Asks (NoLarger file) (exec file) position' := by
      intro blob position'
      split <;> trivial
    rw [if_neg (Nat.not_le.mpr hoffset)]
    dsimp only
    rw [asks_bind, readUpTo, asks_perform]
    rcases (perform (FileOp.read size) : Reader ε _).run (exec file) offset with ⟨r, position'⟩
    cases r with
    | ok blob =>
        exact ⟨fun h _ => h.2.1, fun h => ⟨trivial, h hoffset, hrest blob position'⟩⟩
    | error e => simp [NoLarger, hoffset]
  · rw [if_pos (Nat.le_of_not_lt hoffset)]
    simp [NoLarger, hoffset]

/-- A read keeps the promise when it can be sought and the file holds it.  What
follows matters when it did not come short. -/
theorem keepsFrom_readExact {P : α → Prop} {truncated : Nat → Nat → ε} {offset size position : Nat}
    {f : List UInt8 → Reader ε α} {next : Prop}
    (hnext : ∀ position', (file.content.extract offset (offset + size)).length = size →
      (KeepsFrom file P (f (file.content.extract offset (offset + size))) position' ↔ next)) :
    KeepsFrom file P (readExact truncated offset size >>= f) position ↔
      offset < seekLimit ∧ file.Holds size ∧
        ((file.content.extract offset (offset + size)).length = size → next) := by
  have hshort := file.short
  have hread := run_readExact truncated file offset size position
  rw [keepsFrom_bind, asks_readExact]
  rcases hrun : (readExact truncated offset size).run (exec file) position with ⟨r, position'⟩
  rw [hrun] at hread
  change r = _ at hread
  subst hread
  by_cases hoffset : offset < seekLimit
  · by_cases hsize : size ≤ file.content.length
    · rw [readResult, if_neg (by omega)]
      cases hmemory : file.fits size with
      | false => simp [File.Holds, hmemory, Kept]
      | true =>
          by_cases hlength : (file.content.extract offset (offset + size)).length = size
          · simp only [Bool.true_eq_false, if_false, hlength, ne_eq, not_true_eq_false,
              hnext position' hlength]
            simp [File.Holds, hoffset, hsize, hmemory]
          · simp only [Bool.true_eq_false, if_false, ne_eq, hlength, not_false_eq_true, if_true]
            simp [File.Holds, hoffset, hsize, hmemory, Kept]
    · simp [File.Holds, hoffset, hsize]
  · rw [readResult, if_pos (Or.inl (Nat.le_of_not_lt hoffset))]
    simp [hoffset, Kept]

/-- The walk over the segments keeps the promise when they can be read. -/
theorem keepsFrom_findSegments (order : Order) (segments : List (Nat × Nat)) (position : Nat) :
    KeepsFrom file (fun found => ∀ id ∈ found, id ≠ []) (findSegments spec order segments) position ↔
      SegmentsReadable spec file order segments := by
  induction segments generalizing position with
  | nil =>
      rw [findSegments, SegmentsReadable, keepsFrom_pure]
      simp
  | cons segment rest ih =>
      obtain ⟨offset, size⟩ := segment
      rw [findSegments, SegmentsReadable]
      refine keepsFrom_readExact fun position' _ => ?_
      cases spec.scan (file.content.extract offset (offset + size)) order with
      | some id =>
          rw [keepsFrom_pure]
          simp
      | none => exact ih position'

/-- A part whose continuation needs only its value. -/
theorem keepsFrom_bind_of {P : β → Prop} {R : α → Prop} {x : Reader ε α} {f : α → Reader ε β}
    {position : Nat} (hf : ∀ a position', KeepsFrom file P (f a) position' ↔ R a) :
    KeepsFrom file P (x >>= f) position ↔ KeepsFrom file R x position := by
  rw [keepsFrom_bind, KeepsFrom]
  rcases x.run (exec file) position with ⟨r, position'⟩
  cases r with
  | ok a =>
      show _ ∧ KeepsFrom file P (f a) position' ↔ R a ∧ _
      rw [hf, and_comm]
  | error e =>
      show _ ∧ Kept P (.error e) ↔ Kept R (.error e) ∧ _
      rw [and_comm]
      cases e <;> rfl

theorem keepsFrom_seekEnd {P : α → Prop} {f : Nat → Reader ε α} {position : Nat} :
    KeepsFrom file P (seekEnd >>= f) position ↔
      KeepsFrom file P (f file.content.length) file.content.length := by
  rw [keepsFrom_bind, seekEnd, asks_perform]
  exact ⟨And.right, And.intro trivial⟩

/-- A search that finds nothing fails as documented. -/
theorem keepsFrom_found (found : Option (List Char)) (position : Nat) :
    KeepsFrom file (fun id => id ≠ []) (match found with
      | some id => pure id
      | none => .raise (.documented spec.absent) : Reader ε (List Char)) position ↔
        ∀ id ∈ found, id ≠ [] := by
  cases found with
  | some id =>
      rw [keepsFrom_pure]
      simp
  | none =>
      rw [keepsFrom_raise]
      simp

/-- The table and what follows keep the promise when they can be read. -/
theorem keepsFrom_readTable {header : Header} (hlayout : header.layout = elf64 ∨ header.layout = elf32)
    (position : Nat) :
    KeepsFrom file (fun id => id ≠ []) (readTable spec header) position ↔
      (header.ePhnum ≠ 0 → header.layout.minPhentsize ≤ header.ePhentsize →
        header.ePhoff + header.tableBytes ≤ file.content.length →
          file.Holds header.tableBytes ∧
            SegmentsReadable spec file header.order (header.segments file.content)) := by
  have hshort := file.short
  rw [readTable]
  split
  · rename_i hnum
    simp [keepsFrom_raise, hnum]
  · rename_i hnum
    split
    · rename_i hsize
      simp [keepsFrom_raise, hnum, Nat.not_le.mpr hsize]
    · rename_i hsize
      have hsize := Nat.le_of_not_lt hsize
      rw [keepsFrom_seekEnd]
      split
      · rename_i hend
        simp [keepsFrom_raise, Nat.not_le.mpr hend]
      · rename_i hend
        have hend := Nat.le_of_not_lt hend
        have hlength : (file.content.extract header.ePhoff
            (header.ePhoff + header.tableBytes)).length = header.tableBytes :=
          length_extract_of_le hend
        rw [keepsFrom_readExact fun position' hdata => by
          rw [findNote_range hlength rfl hlayout hsize]
          exact (keepsFrom_bind_of keepsFrom_found).trans (keepsFrom_findSegments _ _ position')]
        constructor
        · intro h _ _ _
          exact ⟨h.2.1, h.2.2 hlength⟩
        · intro h
          obtain ⟨hholds, hsegments⟩ := h hnum hsize hend
          exact ⟨by omega, hholds, fun _ => hsegments⟩

/-- The headers and what follows keep the promise when they can be read. -/
theorem keepsFrom_readHeaders (hident : 16 ≤ file.content.length) (position : Nat) :
    KeepsFrom file (fun id => id ≠ []) (readHeaders spec (file.content.extract 0 16)) position ↔
      HeadersReadable spec file := by
  obtain ⟨rest, hreader, hrest⟩ := readHeaders_eq spec hident
  rw [hreader, HeadersReadable]
  rw [supported_iff]
  split
  · rename_i hnot
    rw [keepsFrom_raise]
    exact ⟨fun _ h => absurd hnot h, fun _ => trivial⟩
  · rename_i hok
    rw [keepsFrom_readExact fun position' hlength => by
      rw [hrest _ rfl hlength, keepsFrom_readTable (headerOf_layout _)]]
    constructor
    · intro h _
      refine ⟨h.2.1, h.2.2 (length_extract_of_le ?_)⟩
      rw [Nat.zero_add]
      exact h.2.1.1
    · intro h
      obtain ⟨hholds, hnext⟩ := h hok
      exact ⟨by decide, hholds, fun _ => hnext⟩

theorem keepsFrom_openRb {P : α → Prop} {f : Unit → Reader ε α} :
    KeepsFrom file P (openRb >>= f) 0 ↔ (file.denied = none → KeepsFrom file P (f ()) 0) := by
  rw [keepsFrom_bind, openRb, asks_perform, run_perform, exec]
  cases file.denied with
  | some text => simp [NoLarger, Kept]
  | none => simp [NoLarger]

end

/-! ## What an id looks like -/

section

variable {ε : Type} {spec : Spec ε} {file : File}

theorem lowerHex_digitChar {n : Nat} (h : n < 16) : IsLowerHex (Nat.digitChar n) := by
  have hall : ∀ n < 16, Nat.digitChar n ∈ "0123456789abcdef".toList := by decide
  exact hall n h

theorem lowerHex_hex (octets : List UInt8) : ∀ c ∈ hex octets, IsLowerHex c := by
  intro c hc
  obtain ⟨b, -, hb⟩ := List.mem_flatMap.mp hc
  have hlt := b.toNat_lt
  rcases List.mem_cons.mp hb with rfl | hb
  · exact lowerHex_digitChar (by omega)
  · rw [List.mem_singleton.mp hb]
    exact lowerHex_digitChar (Nat.mod_lt _ (by decide))

theorem lowerHex_lowerAscii {digits : List UInt8} (h : ∀ b ∈ digits, isHexDigit b = true) :
    ∀ c ∈ lowerAscii digits, IsLowerHex c := by
  have hall : ∀ n < 256, isHexDigit (UInt8.ofNat n) = true →
      (Char.ofNat n).toLower ∈ "0123456789abcdef".toList := by decide +kernel
  intro c hc
  obtain ⟨b, hb, rfl⟩ := List.mem_map.mp hc
  exact hall b.toNat b.toNat_lt (by rw [UInt8.ofNat_toNat]; exact h b hb)

/-- What a walk returns was picked. -/
theorem scanNotesWith_picked {pick : Nat → List UInt8 → List UInt8 → Option (List Char)}
    {blob : List UInt8} {order : Order} {off : Nat} {id : List Char}
    (h : scanNotesWith pick blob order off = some id) :
    ∃ ntype name desc, pick ntype name desc = some id := by
  fun_induction scanNotesWith pick blob order off with
  | case1 => cases h
  | case2 off _ namesz descsz ntype nameEnd descStart descEnd hfits id' hpick =>
      cases h
      exact ⟨_, _, _, hpick⟩
  | case3 _ _ _ _ _ _ _ _ _ _ ih => exact ih h
  | case4 => cases h

theorem walk_scanned {order : Order} {segments : List (Nat × Nat)} {id : List Char}
    (h : walk spec file order segments = .ok (some id)) :
    ∃ blob, spec.scan blob order = some id := by
  induction segments with
  | nil => cases h
  | cons segment rest ih =>
      obtain ⟨blob, -, h⟩ := Checked.bind_eq_ok.mp h
      cases hscan : spec.scan blob order with
      | some id' =>
          rw [hscan] at h
          cases h
          exact ⟨blob, hscan⟩
      | none =>
          rw [hscan] at h
          exact ih h

/-- What a reader returns was found in a segment. -/
theorem headersResult_scanned {id : List Char} (h : headersResult spec file = .ok id) :
    ∃ blob order, spec.scan blob order = some id := by
  rw [headersResult] at h
  split at h
  · cases h
  · obtain ⟨_, -, h⟩ := Checked.bind_eq_ok.mp h
    split at h
    · cases h
    · split at h
      · cases h
      · split at h
        · cases h
        · obtain ⟨_, -, h⟩ := Checked.bind_eq_ok.mp h
          obtain ⟨found, hwalk, h⟩ := Checked.bind_eq_ok.mp h
          cases found with
          | none => cases h
          | some id' =>
              cases h
              obtain ⟨blob, hscan⟩ := walk_scanned hwalk
              exact ⟨blob, _, hscan⟩

theorem elfResult_scanned {path : String} {id : List Char} (h : elfResult path file = .ok id) :
    ∃ blob order, scanNotes blob order = some id := by
  rw [elfResult, rescued_eq_ok] at h
  split at h
  · cases h
  · obtain ⟨_, -, h⟩ := Checked.bind_eq_ok.mp h
    split at h
    · cases h
    · exact headersResult_scanned h

theorem vmcoreResult_scanned {path : String} {id : List Char}
    (h : vmcoreResult path file = .ok id) : ∃ blob order, scanVmcoreinfo blob order = some id := by
  rw [vmcoreResult, rescued_eq_ok] at h
  split at h
  · cases h
  · split at h
    · cases h
    · dsimp only at h
      split at h
      · cases h
      · split at h
        · cases h
        · exact headersResult_scanned h

/-- The digits of an id are lower-case. -/
theorem lowerHex_elfResult {path : String} {id : List Char} (h : elfResult path file = .ok id) :
    ∀ c ∈ id, IsLowerHex c := by
  obtain ⟨blob, order, hscan⟩ := elfResult_scanned h
  obtain ⟨ntype, name, desc, hpick⟩ := scanNotesWith_picked hscan
  rw [pickGnu] at hpick
  split at hpick
  · cases hpick
    exact lowerHex_hex desc
  · cases hpick

theorem lowerHex_vmcoreResult {path : String} {id : List Char}
    (h : vmcoreResult path file = .ok id) : ∀ c ∈ id, IsLowerHex c := by
  obtain ⟨blob, order, hscan⟩ := vmcoreResult_scanned h
  obtain ⟨ntype, name, desc, hpick⟩ := scanNotesWith_picked hscan
  rw [pickVmcoreinfo] at hpick
  split at hpick
  · obtain ⟨digits, hline, rfl⟩ := Option.map_eq_some_iff.mp hpick
    obtain ⟨_, _, _, _, ⟨-, hdigits, -⟩, -⟩ := searchLine_eq_some.mp hline
    exact lowerHex_lowerAscii hdigits
  · cases hpick

end

/-! ## Both readers -/

section

variable {ε : Type} {file : File}

/-- A reader keeps the promise when what it tries does. -/
theorem asPromised_rescue {x : Reader ε (List Char)} {wrap : String → ε}
    (hdigits : ∀ id, rescued wrap (x.run (exec file) 0).1 = .ok id → ∀ c ∈ id, IsLowerHex c) :
    AsPromised file (rescue x (catchOsError wrap)) ↔ KeepsFrom file (fun id => id ≠ []) x 0 := by
  have hquiet : ∀ e position,
      (catchOsError wrap e : Reader ε (List Char)).Asks (NoLarger file) (exec file) position := by
    intro e position
    cases e <;> trivial
  rw [AsPromised, KeepsFrom, run_catchOsError, asks_rescue]
  rcases hrun : x.run (exec file) 0 with ⟨r, position⟩
  rw [hrun] at hdigits
  cases r with
  | ok id =>
      show (id ≠ [] ∧ _) ∧ _ ∧ True ↔ id ≠ [] ∧ _
      rw [and_true, and_iff_left (hdigits id rfl)]
  | error e =>
      show _ ∧ _ ∧ (catchOsError wrap e : Reader ε (List Char)).Asks _ _ position ↔ _
      rw [and_iff_left (hquiet e position)]
      cases e <;> rfl

theorem extract_zero_take (octets : List UInt8) : (octets.extract 0 16).take 4 = octets.take 4 := by
  simp [List.take_take]

/-- After the identification of a file that has one. -/
theorem keepsFrom_ident {spec : Spec ε} {e : ε} (hlength : 16 ≤ file.content.length)
    (position : Nat) :
    KeepsFrom file (fun id => id ≠ [])
        (if (file.content.extract 0 16).take 4 ≠ elfMagic then .raise (.documented e)
          else readHeaders spec (file.content.extract 0 16)) position ↔
      (file.content.take 4 = elfMagic → HeadersReadable spec file) := by
  rw [extract_zero_take]
  split
  · rename_i hmagic
    simp [keepsFrom_raise, hmagic]
  · rename_i hmagic
    rw [keepsFrom_readHeaders hlength]
    exact ⟨fun h _ => h, fun h => h (not_not.mp hmagic)⟩

theorem readElfBuildId_promise (path : String) :
    AsPromised file (readElfBuildId path) ↔ FileReadable elfSpec file := by
  have hdigits : ∀ id, rescued _ _ = .ok id → ∀ c ∈ id, IsLowerHex c := fun id hid =>
    lowerHex_elfResult ((run_readElfBuildId path file).symm.trans (run_catchOsError.trans hid))
  rw [readElfBuildId, asPromised_rescue hdigits, FileReadable, keepsFrom_openRb]
  refine forall_congr' fun _ => ?_
  have hlength : (file.content.extract 0 (0 + 16)).length = 16 → 16 ≤ file.content.length := by
    rw [List.length_take, List.length_drop]
    omega
  refine (keepsFrom_readExact fun position' hdata => keepsFrom_ident (hlength hdata) position').trans ?_
  constructor
  · intro h
    exact ⟨h.2.1, h.2.2 (length_extract_of_le (by rw [Nat.zero_add]; exact h.2.1.1))⟩
  · intro h
    exact ⟨by decide, h.1, fun _ => h.2⟩

theorem readVmcoreBuildId_promise (path : String) :
    AsPromised file (readVmcoreBuildId path) ↔ FileReadable vmcoreSpec file := by
  have hdigits : ∀ id, rescued _ _ = .ok id → ∀ c ∈ id, IsLowerHex c := fun id hid =>
    lowerHex_vmcoreResult ((run_readVmcoreBuildId path file).symm.trans (run_catchOsError.trans hid))
  rw [readVmcoreBuildId, asPromised_rescue hdigits, FileReadable, keepsFrom_openRb]
  refine forall_congr' fun _ => ?_
  rw [keepsFrom_bind, readUpTo, asks_perform, run_perform, exec, if_neg (by decide)]
  by_cases hsize : 16 ≤ file.content.length
  · cases hmemory : file.fits 16 with
    | false => simp [File.Holds, hmemory, Kept]
    | true =>
        have hident : (file.content.extract 0 16).length = 16 := by
          rw [List.length_take, List.length_drop]
          omega
        have hnext := @keepsFrom_ident _ file vmcoreSpec
          (.formatUnsupported "vmcore is not an ELF container") hsize (0 + 16)
        simp only [NoLarger, File.Holds, hsize, hmemory, true_and, Bool.true_eq_false, if_false,
          Nat.zero_add, hident, Nat.lt_irrefl] at hnext ⊢
        exact hnext
  · simp [NoLarger, File.Holds, hsize]

end

/-- Both readers keep to their exceptions, and ask for no more than the file has,
exactly when what they read up to the end can be read. -/
theorem fails_as_documented_iff (path : String) (file : File) :
    (AsPromised file (readElfBuildId path) ↔ FileReadable elfSpec file) ∧
      (AsPromised file (readVmcoreBuildId path) ↔ FileReadable vmcoreSpec file) :=
  ⟨readElfBuildId_promise path, readVmcoreBuildId_promise path⟩

/-! ## A segment out of reach -/

/-- A 64-bit file with one segment of notes, whose offset no `seek` takes. -/
def farElf : List UInt8 :=
  elfMagic ++ [2, 1] ++ gap 26 ++ write .little 8 64 ++ gap 14 ++ write .little 2 56 ++
    write .little 2 1 ++ gap 6 ++
    (write .little 4 4 ++ gap 4 ++ write .little 8 seekLimit ++ gap 16 ++ write .little 8 24 ++ gap 16)

/-- It is a file of the size of its headers. -/
def farFile : File where
  content := farElf
  short := by decide
  fits := fun _ => true

/-- Both readers let the `OverflowError` of the `seek` through. -/
theorem far_segment_overflows :
    farFile.denied = none ∧ (∀ n, farFile.fits n = true) ∧
      ((readElfBuildId "vmlinux").run (exec farFile) 0).1 = .error .overflowError ∧
      ((readVmcoreBuildId "vmcore").run (exec farFile) 0).1 = .error .overflowError ∧
      ¬ AsPromised farFile (readElfBuildId "vmlinux") ∧
      ¬ AsPromised farFile (readVmcoreBuildId "vmcore") := by
  have helf : ((readElfBuildId "vmlinux").run (exec farFile) 0).1 = .error .overflowError := by
    decide +kernel
  have hvmcore : ((readVmcoreBuildId "vmcore").run (exec farFile) 0).1 = .error .overflowError := by
    decide +kernel
  exact ⟨rfl, fun _ => rfl, helf, hvmcore, not_asPromised helf, not_asPromised hvmcore⟩

end Kdive.Symbols

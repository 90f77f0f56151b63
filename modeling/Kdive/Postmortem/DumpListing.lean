import Mathlib.Data.Char
import Mathlib.Data.List.Lex
import Mathlib.Data.Rat.Floor
import Kdive.Lib.Checked
import Kdive.Lib.Dict
import Kdive.Lib.PosixPath
import Kdive.GdbMi.Commands
import Kdive.Safety.RedactValue

/-!
# Dump listings and the gate of a fetch

The target lists its dumps as JSON, which is not trusted.  A listing is read into entries, a
number that makes no sense as zero, and a listing of another shape is refused.  A fetch finds
its entry, checks where the entry lies and how large it is, and plans which files to copy.

*The gate.*  The size that is compared with the ceiling and with the free space is the sum of
`file_sizes`, or `size` if that sum is zero.  The plan looks each file up in `file_sizes`, and
takes `size` for a core that is not there.  `gated_iff` says when the two agree.
-/

namespace Kdive.Dumps

open Checked Dictionary PosixPath

/-! ## Numbers -/

/-- `int` of a text, `isoformat` of a moment in seconds, and `repr`, of the interpreter. -/
structure Interpreter where
  parseInt : Text → Option Int
  isoformat : ℚ → Option Text
  repr : Text → Text

/-- The value of a binary64, if it is finite. -/
def floatValue (bits : UInt64) : Option ℚ :=
  let exponent := (bits >>> 52 &&& 0x7ff).toNat
  let fraction := (bits &&& 0xfffffffffffff).toNat
  let sign : ℚ := if bits >>> 63 = 0 then 1 else -1
  if exponent = 0x7ff then none
  else if exponent = 0 then some (sign * fraction / 2 ^ 1074)
  else if 1075 ≤ exponent then some (sign * (2 ^ 52 + fraction) * 2 ^ (exponent - 1075))
  else some (sign * (2 ^ 52 + fraction) / 2 ^ (1075 - exponent))

/-- `int` of a finite number. -/
def truncate (q : ℚ) : Int := if q < 0 then ⌈q⌉ else ⌊q⌋

/-- `int(value)`, if it does not raise. -/
def intOf (py : Interpreter) : Value Text → Option Int
  | .scalar (.bool b) => some (if b then 1 else 0)
  | .scalar (.int n) => some n
  | .scalar (.float bits) => (floatValue bits).map truncate
  | .str text => py.parseInt text
  | _ => none

/-- `_nonneg_int` -/
def nonnegInt (py : Interpreter) (value : Option (Value Text)) : Nat :=
  ((value.bind (intOf py)).getD 0).toNat

/-- `_MAX_PLAUSIBLE_MTIME` -/
def MAX_PLAUSIBLE_MTIME : ℚ := 4102444800

/-- A number that is not a `bool`. -/
def numberOf : Value Text → Option ℚ
  | .scalar (.int n) => some n
  | .scalar (.float bits) => floatValue bits
  | _ => none

/-- `_capture_time` -/
def captureTime (py : Interpreter) (mtime : Option (Value Text)) : Option Text :=
  (mtime.bind numberOf).bind fun seconds =>
    if 0 ≤ seconds ∧ seconds ≤ MAX_PLAUSIBLE_MTIME then py.isoformat seconds else none

/-- `bool(value)` -/
def truthy : Value Text → Bool
  | .str text => !text.isEmpty
  | .scalar .none => false
  | .scalar (.bool b) => b
  | .scalar (.int n) => n ≠ 0
  | .scalar (.float bits) => floatValue bits ≠ some 0
  | .mapping items => !items.isEmpty
  | .list items => !items.isEmpty
  | .tuple items => !items.isEmpty

/-! ## Listings -/

/-- The items of a mapping. -/
abbrev Items := List (Key × Value Text)

/-- `items.get(name)` -/
def getItem (items : Items) (name : String) : Option (Value Text) := items.lookup (.str name.toList)

/-- `items.get(name) or …`, with nothing for what is false. -/
def getTruthy (items : Items) (name : String) : Option (Value Text) :=
  (getItem items name).filter truthy

/-- `DumpEntry` -/
structure DumpEntry where
  path : Text
  kernel : Option Text
  captureTime : Option Text
  sizeBytes : Nat
  incomplete : Bool
  availableFiles : List Text
  fileSizes : Dict Text Nat
deriving DecidableEq

/-- A value that is a string. -/
def strOf : Value Text → Option Text
  | .str text => some text
  | _ => none

/-- `list(value)`, if all its items are strings. -/
def stringsOf : Value Text → Option (List Text)
  | .list items => items.mapM strOf
  | .str text => some (text.map fun c => [c])
  | .mapping items => some (items.map fun item => item.1.shown)
  | _ => none

/-- `value.items()` -/
def itemsOf : Value Text → Option Items
  | .mapping items => some items
  | _ => none

/-- A string or `None`. -/
def optionalStr : Option (Value Text) → Option (Option Text)
  | none | some (.scalar .none) => some none
  | some (.str text) => some (some text)
  | _ => none

/-- The sizes of files. -/
def fileSizesOf (py : Interpreter) (items : Items) : Dict Text Nat :=
  Dict.empty.setAll (items.map fun item => (item.1.shown, nonnegInt py (some item.2)))

/-- A record of a listing, if it has the shape of one. -/
def parseRecord (py : Interpreter) (record : Value Text) : Option DumpEntry := do
  let items ← itemsOf record
  let sizes ← (getTruthy items "file_sizes").elim (some []) itemsOf
  let path ← (getItem items "dir").bind strOf
  let kernel ← optionalStr (getItem items "kernel")
  let available ← (getTruthy items "present").elim (some []) stringsOf
  return {
    path
    kernel
    captureTime := captureTime py (getItem items "mtime")
    sizeBytes := nonnegInt py (getItem items "size")
    incomplete := (getTruthy items "incomplete").isSome
    availableFiles := available
    fileSizes := fileSizesOf py sizes
  }

/-- `_invert`, the codes of its characters. -/
def invert (iso : Text) : List Nat := iso.map fun c => 0x10FFFF - c.toNat

/-- `_sort_key` -/
def sortKey (entry : DumpEntry) : Bool × List Nat × Text :=
  match entry.captureTime with
  | none => (true, [], entry.path)
  | some time => (false, invert time, entry.path)

/-- `key(a) <= key(b)` of tuples. -/
def keyLe (a b : DumpEntry) : Bool :=
  let (late, time, path) := sortKey a
  let (late', time', path') := sortKey b
  late < late' || (late = late' && (time < time' || (time = time' && path ≤ path')))

/-- `parse_dump_listing`, if it does not raise. -/
def parseDumpListing (py : Interpreter) (probe : Items) : Option (List DumpEntry) :=
  match getTruthy probe "dumps" with
  | none => some []
  | some (.list records) => (records.mapM (parseRecord py)).map fun entries => entries.mergeSort keyLe
  | some _ => none

/-! ## The plan -/

/-- `VMCORE_NAME` -/
def VMCORE_NAME : Text := "vmcore".toList

/-- `SYMBOL_REF_KEYS` -/
def SYMBOL_REF_KEYS : List (Text × Text) :=
  [("vmcore-dmesg.txt".toList, "vmcore_dmesg_ref".toList), ("vmlinux".toList, "vmlinux_ref".toList),
    ("vmcoreinfo".toList, "vmcoreinfo_ref".toList)]

/-- `FetchSpec` -/
structure FetchSpec where
  remotePath : Text
  localName : Text
  refKey : Text
  expectedSize : Nat
deriving DecidableEq

/-- The names a core can have. -/
def CORE_NAMES : List Text := ["vmcore".toList, "vmcore.flat".toList, "vmcore-incomplete".toList]

/-- `_core_name` -/
def coreName (entry : DumpEntry) : Text :=
  (CORE_NAMES.find? fun name => name ∈ entry.fileSizes.keys).getD VMCORE_NAME

/-- A file below the directory of an entry. -/
def remotePath (entry : DumpEntry) (name : Text) : Text := entry.path ++ '/' :: name

/-- The symbol files that are there. -/
def symbolFiles (entry : DumpEntry) : List (Text × Text) :=
  SYMBOL_REF_KEYS.filter fun symbol => symbol.1 ∈ entry.availableFiles

/-- `plan_fetch` -/
def planFetch (entry : DumpEntry) (vmcoreName : Text) : List FetchSpec :=
  { remotePath := remotePath entry vmcoreName
    localName := VMCORE_NAME
    refKey := "vmcore_ref".toList
    expectedSize := (entry.fileSizes.get? vmcoreName).getD entry.sizeBytes } ::
  (symbolFiles entry).map fun symbol =>
    { remotePath := remotePath entry symbol.1
      localName := symbol.1
      refKey := symbol.2
      expectedSize := (entry.fileSizes.get? symbol.1).getD 0 }

/-! ## The gate -/

/-- `DEFAULT_DUMP_DIR` -/
def DEFAULT_DUMP_DIR : Text := "/var/crash".toList

/-- `DEFAULT_FETCH_MAX_BYTES` -/
def DEFAULT_FETCH_MAX_BYTES : Int := 32 * 1024 * 1024 * 1024

/-- `FETCH_DISK_HEADROOM_BYTES` -/
def FETCH_DISK_HEADROOM_BYTES : Nat := 1 * 1024 * 1024 * 1024

/-- `DebugPostmortemFetchRequest`, what the gate reads of it. -/
structure FetchRequest where
  dumpRef : Text
  force : Bool
  dumpDir : Option Text
  maxBytes : Option Int

inductive ErrorCategory where
  | configuration_error
  | infrastructure_failure
  | readiness_failure
deriving DecidableEq

/-- A failure response. -/
structure FetchFailure where
  category : ErrorCategory
  message : Text
  code : String
deriving DecidableEq

/-- `validated_dump_dir` -/
def validatedDumpDir (py : Interpreter) (request : FetchRequest) : Except FetchFailure Text :=
  let dumpDir := (request.dumpDir.filter fun dir => !dir.isEmpty).getD DEFAULT_DUMP_DIR
  if dumpDir.head? = some '/' then .ok dumpDir
  else .error ⟨.configuration_error,
    "dump_dir must be an absolute path; got ".toList ++ py.repr dumpDir, "invalid_dump_dir"⟩

/-- `is_within_dump_dir` -/
def isWithinDumpDir (path dumpDir : Text) : Bool := decide ((normalise path).Within (normalise dumpDir))

/-- `_match_dump_at_boundary` -/
def matchDump (py : Interpreter) (parsed : Items) (dumpRef : Text) :
    Except FetchFailure (Option DumpEntry) :=
  if (getTruthy parsed "enumeration_errors").isSome then
    .error ⟨.infrastructure_failure, "dump enumeration was incomplete on the target".toList,
      "dump_enumeration_incomplete"⟩
  else
    match parseDumpListing py parsed with
    | none => .error ⟨.infrastructure_failure,
        "dump enumeration returned malformed listing data".toList, "malformed_dump_listing"⟩
    | some entries => .ok (entries.find? fun entry => entry.path = dumpRef)

/-- The size that is compared. -/
def totalSize (entry : DumpEntry) : Nat :=
  if (entry.fileSizes.entries.map Prod.snd).sum = 0 then entry.sizeBytes
  else (entry.fileSizes.entries.map Prod.snd).sum

/-- The ceiling of a request. -/
def ceiling (request : FetchRequest) : Int := request.maxBytes.getD DEFAULT_FETCH_MAX_BYTES

/-- `_admit_fetch_entry`, with what the target listed and the free space of the disk. -/
def admitFetchEntry (py : Interpreter) (request : FetchRequest) (dumpDir : Text)
    (enumerated : Except FetchFailure Items) (free : Nat) : Except FetchFailure DumpEntry := do
  let parsed ← enumerated
  let entry ← require (← matchDump py parsed request.dumpRef) ⟨.configuration_error,
    "dump_ref not found in current listing: ".toList ++ py.repr request.dumpRef, "dump_not_found"⟩
  refuse (isWithinDumpDir entry.path dumpDir = false) ⟨.configuration_error,
    "dump path ".toList ++ py.repr entry.path ++ " is outside the enumerated dump_dir ".toList ++
      py.repr dumpDir, "dump_path_outside_dir"⟩
  refuse (coreName entry = "vmcore.flat".toList) ⟨.readiness_failure,
    ("dump is in makedumpfile flat format (vmcore.flat); rebuild it on the target with " ++
      "`makedumpfile -R` to a vmcore before fetching").toList, "dump_flat_format"⟩
  refuse (entry.incomplete ∧ ¬ request.force) ⟨.readiness_failure,
    "dump is in-progress (vmcore-incomplete); pass force to fetch the partial anyway".toList,
    "dump_incomplete"⟩
  refuse (ceiling request < totalSize entry) ⟨.configuration_error,
    "dump total ".toList ++ GdbMi.decimalText (totalSize entry) ++ " bytes exceeds ceiling ".toList ++
      (toString (ceiling request)).toList, "dump_too_large"⟩
  refuse (free < totalSize entry + FETCH_DISK_HEADROOM_BYTES) ⟨.infrastructure_failure,
    "insufficient host disk: ".toList ++ GdbMi.decimalText free ++ " free, need ".toList ++
      GdbMi.decimalText (totalSize entry) ++ " + headroom".toList, "insufficient_disk"⟩
  return entry

/-- What the gate promises of the plan of an entry. -/
structure Gated (request : FetchRequest) (dumpDir : Text) (free : Nat) (entry : DumpEntry) :
    Prop where
  within : ∀ spec ∈ planFetch entry (coreName entry), isWithinDumpDir spec.remotePath dumpDir = true
  distinct : ((planFetch entry (coreName entry)).map FetchSpec.remotePath).Nodup
  locals : ((planFetch entry (coreName entry)).map FetchSpec.localName).Nodup
  compared : (totalSize entry : Int) ≤ ceiling request ∧
    totalSize entry + FETCH_DISK_HEADROOM_BYTES ≤ free
  bounded : ((planFetch entry (coreName entry)).map FetchSpec.expectedSize).sum ≤ totalSize entry
  /-- Files that were copied with the expected sizes are no larger than what was compared. -/
  verified : ∀ sizes : List Nat,
    sizes <+: (planFetch entry (coreName entry)).map FetchSpec.expectedSize →
      sizes.sum ≤ totalSize entry

/-- The sizes of the symbol files of a plan. -/
def symbolSizes (entry : DumpEntry) : Nat :=
  ((symbolFiles entry).map fun symbol => (entry.fileSizes.get? symbol.1).getD 0).sum

/-- The directory of an entry is not written as bare slashes, and its core has a size of its own,
or no file has a size, or `size` and the symbol files take no more than all of `file_sizes`. -/
structure Measured (entry : DumpEntry) : Prop where
  named : entry.path ≠ ['/'] ∧ entry.path ≠ ['/', '/']
  sized : coreName entry ∈ entry.fileSizes.keys ∨
    (entry.fileSizes.entries.map Prod.snd).sum = 0 ∨
    entry.sizeBytes + symbolSizes entry ≤ (entry.fileSizes.entries.map Prod.snd).sum

/-! ## What is planned -/

/-- What an admitted entry was checked for. -/
theorem admitted {py : Interpreter} {request : FetchRequest} {dumpDir : Text}
    {enumerated : Except FetchFailure Items} {free : Nat} {entry : DumpEntry}
    (h : admitFetchEntry py request dumpDir enumerated free = .ok entry) :
    isWithinDumpDir entry.path dumpDir = true ∧ coreName entry ≠ "vmcore.flat".toList ∧
      (totalSize entry : Int) ≤ ceiling request ∧
      totalSize entry + FETCH_DISK_HEADROOM_BYTES ≤ free := by
  simp only [admitFetchEntry, bind_eq_ok, require_eq_ok, refuse_eq_ok, pure_eq_ok] at h
  obtain ⟨parsed, -, found, -, candidate, -, -, hwithin, -, hcore, -, -, -, hceiling, -, hfree, rfl⟩ := h
  exact ⟨by simpa using hwithin, hcore, by omega, by omega⟩

/-- A core has one of two names. -/
theorem coreName_cases (entry : DumpEntry) (h : coreName entry ≠ "vmcore.flat".toList) :
    coreName entry = "vmcore".toList ∨ coreName entry = "vmcore-incomplete".toList := by
  have hmem : coreName entry ∈ CORE_NAMES := by
    rw [coreName]
    cases hfind : CORE_NAMES.find? fun name => name ∈ entry.fileSizes.keys with
    | none => decide
    | some name => exact List.mem_of_find?_eq_some hfind
  simp only [CORE_NAMES, List.mem_cons, List.not_mem_nil, or_false] at hmem
  rcases hmem with hname | hname | hname
  · exact .inl hname
  · exact absurd hname h
  · exact .inr hname

/-- The names of the files of a plan, with the name of the core. -/
def plannedNames (entry : DumpEntry) : List Text := coreName entry :: (symbolFiles entry).map Prod.fst

theorem symbolFiles_names (entry : DumpEntry) :
    ((symbolFiles entry).map Prod.fst).Nodup ∧
      ∀ name ∈ (symbolFiles entry).map Prod.fst, name ∈ SYMBOL_REF_KEYS.map Prod.fst := by
  have hsub : ((symbolFiles entry).map Prod.fst).Sublist (SYMBOL_REF_KEYS.map Prod.fst) :=
    List.filter_sublist.map _
  have hnodup : (SYMBOL_REF_KEYS.map Prod.fst).Nodup := by decide
  exact ⟨hnodup.sublist hsub, fun name hname => hsub.subset hname⟩

/-- No core is named as a symbol file. -/
theorem plannedNames_nodup (entry : DumpEntry) (h : coreName entry ≠ "vmcore.flat".toList) :
    (plannedNames entry).Nodup := by
  obtain ⟨hnodup, hsub⟩ := symbolFiles_names entry
  refine List.nodup_cons.mpr ⟨fun hmem => ?_, hnodup⟩
  have hsymbol := hsub _ hmem
  rcases coreName_cases entry h with hname | hname <;> rw [hname] at hsymbol <;>
    revert hsymbol <;> decide

theorem isName_planned (entry : DumpEntry) (h : coreName entry ≠ "vmcore.flat".toList) :
    ∀ name ∈ plannedNames entry, IsName name := by
  have hsymbols : ∀ name ∈ SYMBOL_REF_KEYS.map Prod.fst, IsName name := by
    intro name hname
    simp only [SYMBOL_REF_KEYS, List.map_cons, List.map_nil, List.mem_cons, List.not_mem_nil,
      or_false] at hname
    rcases hname with rfl | rfl | rfl <;> exact ⟨by decide, by decide, by decide, by decide⟩
  intro name hname
  cases hname with
  | head =>
      rcases coreName_cases entry h with hcore | hcore <;> rw [hcore] <;>
        exact ⟨by decide, by decide, by decide, by decide⟩
  | tail _ hname => exact hsymbols name ((symbolFiles_names entry).2 name hname)

theorem remotePath_plan (entry : DumpEntry) :
    (planFetch entry (coreName entry)).map FetchSpec.remotePath =
      (plannedNames entry).map (remotePath entry) := by
  simp [planFetch, plannedNames, Function.comp_def]

theorem localName_plan (entry : DumpEntry) :
    (planFetch entry (coreName entry)).map FetchSpec.localName =
      VMCORE_NAME :: (symbolFiles entry).map Prod.fst := by
  simp [planFetch, Function.comp_def]

theorem localNames_nodup (entry : DumpEntry) :
    ((planFetch entry (coreName entry)).map FetchSpec.localName).Nodup := by
  rw [localName_plan, List.nodup_cons]
  refine ⟨fun hmem => ?_, (symbolFiles_names entry).1⟩
  have hsymbol := (symbolFiles_names entry).2 _ hmem
  revert hsymbol
  decide

theorem expectedSize_plan (entry : DumpEntry) :
    ((planFetch entry (coreName entry)).map FetchSpec.expectedSize).sum =
      (entry.fileSizes.get? (coreName entry)).getD entry.sizeBytes + symbolSizes entry := by
  simp [planFetch, symbolSizes, Function.comp_def]

theorem remotePath_injective (entry : DumpEntry) : Function.Injective (remotePath entry) := by
  intro left right h
  simpa [remotePath] using h

/-- The paths of a plan are within the directory if the entry is not written as bare slashes. -/
theorem within_plan_iff {entry : DumpEntry} {dumpDir : Text} (hroot : root dumpDir ≠ 0)
    (hwithin : isWithinDumpDir entry.path dumpDir = true)
    (hcore : coreName entry ≠ "vmcore.flat".toList) :
    (∀ spec ∈ planFetch entry (coreName entry), isWithinDumpDir spec.remotePath dumpDir = true) ↔
      entry.path ≠ ['/'] ∧ entry.path ≠ ['/', '/'] := by
  have hpath : (normalise entry.path).Within (normalise dumpDir) := of_decide_eq_true hwithin
  have hchild : ∀ name ∈ plannedNames entry,
      (isWithinDumpDir (remotePath entry name) dumpDir = true ↔
        entry.path ≠ ['/'] ∧ entry.path ≠ ['/', '/']) := fun name hname =>
    decide_eq_true_iff.trans (within_child_iff (isName_planned entry hcore name hname) hpath hroot)
  have hmap : (∀ spec ∈ planFetch entry (coreName entry),
      isWithinDumpDir spec.remotePath dumpDir = true) ↔
      ∀ path ∈ (plannedNames entry).map (remotePath entry), isWithinDumpDir path dumpDir = true := by
    rw [← remotePath_plan, List.forall_mem_map]
  rw [hmap, List.forall_mem_map]
  constructor
  · intro h
    exact (hchild _ List.mem_cons_self).mp (h _ List.mem_cons_self)
  · intro h name hname
    exact (hchild name hname).mpr h

/-- What is looked up for the symbol files, with or without the core, is no more than there is. -/
theorem symbolSizes_le (entry : DumpEntry) :
    symbolSizes entry ≤ (entry.fileSizes.entries.map Prod.snd).sum := by
  have hle := Association.sum_lookup_le entry.fileSizes.entries (symbolFiles_names entry).1
  rwa [List.map_map] at hle

theorem coreSize_le (entry : DumpEntry) (hcore : coreName entry ≠ "vmcore.flat".toList) :
    ((entry.fileSizes.get? (coreName entry)).getD 0) + symbolSizes entry ≤
      (entry.fileSizes.entries.map Prod.snd).sum := by
  have hle := Association.sum_lookup_le entry.fileSizes.entries (plannedNames_nodup entry hcore)
  rwa [plannedNames, List.map_cons, List.sum_cons, List.map_map] at hle

/-- The sizes of a plan stay below the size that is compared exactly if the core has a size of its
own, or no file has one, or `size` and the symbol files take no more than all of them. -/
theorem size_plan_iff (entry : DumpEntry) (hcore : coreName entry ≠ "vmcore.flat".toList) :
    ((planFetch entry (coreName entry)).map FetchSpec.expectedSize).sum ≤ totalSize entry ↔
      coreName entry ∈ entry.fileSizes.keys ∨
        (entry.fileSizes.entries.map Prod.snd).sum = 0 ∨
        entry.sizeBytes + symbolSizes entry ≤ (entry.fileSizes.entries.map Prod.snd).sum := by
  have hsymbols := symbolSizes_le entry
  rw [expectedSize_plan, totalSize]
  cases hget : entry.fileSizes.get? (coreName entry) with
  | some size =>
      have hkey : coreName entry ∈ entry.fileSizes.keys := by
        by_contra hnot
        rw [Dict.get?_eq_none.mpr hnot] at hget
        cases hget
      have hall := coreSize_le entry hcore
      rw [hget] at hall
      simp only [Option.getD_some] at hall ⊢
      simp only [hkey, true_or, iff_true]
      split <;> omega
  | none =>
      have hkey : coreName entry ∉ entry.fileSizes.keys := Dict.get?_eq_none.mp hget
      simp only [Option.getD_none, hkey, false_or]
      split
      · next hzero =>
          simp only [hzero, true_or, iff_true]
          omega
      · next hsum => simp only [hsum, false_or]

theorem root_validated {py : Interpreter} {request : FetchRequest} {dumpDir : Text}
    (h : validatedDumpDir py request = .ok dumpDir) : root dumpDir ≠ 0 := by
  rw [validatedDumpDir] at h
  split at h
  · next hhead =>
      cases h
      obtain ⟨rest, hrest⟩ := List.head?_eq_some_iff.mp hhead
      rw [hrest]
      exact root_slash rest
  · cases h

/-- The gate keeps its promises for an admitted entry exactly if the entry is measured. -/
theorem gated_iff {py : Interpreter} {request : FetchRequest} {dumpDir : Text}
    {enumerated : Except FetchFailure Items} {free : Nat} {entry : DumpEntry}
    (hdir : validatedDumpDir py request = .ok dumpDir)
    (hentry : admitFetchEntry py request dumpDir enumerated free = .ok entry) :
    Gated request dumpDir free entry ↔ Measured entry := by
  obtain ⟨hwithin, hcore, hceiling, hfree⟩ := admitted hentry
  have hpaths := within_plan_iff (root_validated hdir) hwithin hcore
  have hsizes := size_plan_iff entry hcore
  constructor
  · intro h
    exact ⟨hpaths.mp h.within, hsizes.mp h.bounded⟩
  · intro h
    have hbounded := hsizes.mpr h.sized
    exact {
      within := hpaths.mpr h.named
      distinct := by
        rw [remotePath_plan]
        exact (plannedNames_nodup entry hcore).map (remotePath_injective entry)
      locals := localNames_nodup entry
      compared := ⟨hceiling, hfree⟩
      bounded := hbounded
      verified := by
        rintro sizes ⟨rest, hrest⟩
        rw [← hrest, List.sum_append] at hbounded
        omega
    }

/-- An interpreter that knows no numbers in texts and no dates. -/
def plainInterpreter : Interpreter where
  parseInt _ := none
  isoformat _ := none
  repr text := '\'' :: text ++ ['\'']

/-- A listing with one dump in a directory. -/
def listing (dir : String) (size : Int) (sizes : List (String × Int)) : Items :=
  [(.str "dumps".toList, .list [.mapping
    [(.str "dir".toList, .str dir.toList), (.str "size".toList, .scalar (.int size)),
      (.str "file_sizes".toList, .mapping (sizes.map fun item =>
        (.str item.1.toList, .scalar (.int item.2))))]])]

/-- Its entry. -/
def listed (dir : String) (size : Nat) (sizes : List (Text × Nat)) : DumpEntry where
  path := dir.toList
  kernel := none
  captureTime := none
  sizeBytes := size
  incomplete := false
  availableFiles := []
  fileSizes := Dict.empty.setAll sizes

def fetchRequest : FetchRequest where
  dumpRef := "/var/crash/d".toList
  force := false
  dumpDir := none
  maxBytes := some 1000

theorem gated_listed :
    Gated fetchRequest DEFAULT_DUMP_DIR 2000000000 (listed "/var/crash/d" 10 [("vmcore".toList, 10)]) := by
  have hentry : admitFetchEntry plainInterpreter fetchRequest DEFAULT_DUMP_DIR
      (.ok (listing "/var/crash/d" 10 [("vmcore", 10)])) 2000000000 =
      .ok (listed "/var/crash/d" 10 [("vmcore".toList, 10)]) := by decide +kernel
  have hdir : validatedDumpDir plainInterpreter fetchRequest = .ok DEFAULT_DUMP_DIR := by
    decide +kernel
  exact (gated_iff hdir hentry).mpr ⟨by decide, .inl (by decide)⟩

/-- A core without a size of its own is not part of the sum that is compared. -/
theorem admitted_unmeasured :
    admitFetchEntry plainInterpreter fetchRequest DEFAULT_DUMP_DIR
        (.ok (listing "/var/crash/d" 1000000 [("vmlinux", 1)])) 2000000000 =
        .ok (listed "/var/crash/d" 1000000 [("vmlinux".toList, 1)]) ∧
      ¬ Gated fetchRequest DEFAULT_DUMP_DIR 2000000000
        (listed "/var/crash/d" 1000000 [("vmlinux".toList, 1)]) := by
  refine ⟨by decide +kernel, fun h => ?_⟩
  have hbounded := h.bounded
  revert hbounded
  decide +kernel

end Kdive.Dumps

import Mathlib.Data.Bool.Basic
import Mathlib.Data.Prod.Lex
import Kdive.Lib.IsoTime
import Kdive.Lib.Rounding
import Kdive.Postmortem.DumpListing

/-!
# The order of a listing

A listing is sorted by the texts of the times, character by character and inverted.
Texts of different moments differ in the order of the moments, so the newest entry
comes first.  A moment is a whole number of microseconds: `fromtimestamp` rounds the
time that the target sent, and entries of one microsecond are sorted by their paths.
-/

namespace Kdive.Dumps

open Dictionary Rounding IsoTime

/-! ## Times -/

/-- `datetime.fromtimestamp(mtime, UTC)`, in microseconds: the fraction is multiplied as a
float, and rounded. -/
def fromtimestamp (mtime : ℚ) : Nat :=
  (⌊mtime⌋ * 1000000 + halfEven (toDouble ((mtime - ⌊mtime⌋) * 1000000))).toNat

/-- An interpreter with this calendar. -/
def python (parseInt : Text → Option Int) (repr : Text → Text) : Interpreter where
  parseInt := parseInt
  isoformat mtime := some (isoformat (fromtimestamp mtime))
  repr := repr

theorem toDouble_million : toDouble 1000000 = 1000000 := by
  have hlog : Int.log 2 (1000000 : ℚ) = 19 := by
    have h := Int.log_natCast 2 1000000 (R := ℚ)
    rw [Nat.cast_ofNat] at h
    rw [h]
    decide +kernel
  have hbit : lastBit 1000000 = -33 := by
    rw [lastBit, hlog]
    decide
  have hinteger : (1000000 : ℚ) / 2 ^ (-33 : ℤ) = ((1000000 * 2 ^ 33 : ℤ) : ℚ) := by norm_num
  rw [toDouble, hbit, hinteger, halfEven_intCast]
  norm_num

/-- The microseconds of a fraction of a second. -/
theorem micros_bounds {fraction : ℚ} (h : 0 ≤ fraction) (h' : fraction ≤ 1) :
    0 ≤ halfEven (toDouble (fraction * 1000000)) ∧
      halfEven (toDouble (fraction * 1000000)) ≤ 1000000 := by
  have hnonneg : 0 ≤ fraction * 1000000 := mul_nonneg h (by norm_num)
  constructor
  · refine le_halfEven ?_
    have := toDouble_mono (le_refl 0) hnonneg
    rwa [toDouble_zero] at this
  · refine halfEven_le ?_
    have := toDouble_mono hnonneg (mul_le_mul_of_nonneg_right h' (by norm_num))
    rw [one_mul, toDouble_million] at this
    simpa using this

theorem fromtimestamp_eq {mtime : ℚ} (h : 0 ≤ mtime) : (fromtimestamp mtime : ℤ) =
    ⌊mtime⌋ * 1000000 + halfEven (toDouble ((mtime - ⌊mtime⌋) * 1000000)) := by
  have hfloor : 0 ≤ ⌊mtime⌋ := Int.floor_nonneg.mpr h
  have hmicros := (micros_bounds (sub_nonneg.mpr (Int.floor_le mtime))
    (by linarith [Int.lt_floor_add_one mtime])).1
  exact Int.toNat_of_nonneg (by omega)

/-- A later time is no earlier moment. -/
theorem fromtimestamp_mono {p q : ℚ} (hp : 0 ≤ p) (h : p ≤ q) : fromtimestamp p ≤ fromtimestamp q := by
  have hfraction := sub_nonneg.mpr (Int.floor_le p)
  have hle := micros_bounds hfraction (by linarith [Int.lt_floor_add_one p])
  have hle' := micros_bounds (sub_nonneg.mpr (Int.floor_le q)) (by linarith [Int.lt_floor_add_one q])
  refine Int.ofNat_le.mp ?_
  rw [fromtimestamp_eq hp, fromtimestamp_eq (hp.trans h)]
  rcases (Int.floor_mono h).lt_or_eq with hlt | heq
  · omega
  · rw [← heq]
    have hmono : halfEven (toDouble ((p - ⌊p⌋) * 1000000)) ≤
        halfEven (toDouble ((q - ⌊p⌋) * 1000000)) :=
      halfEven_mono (toDouble_mono (mul_nonneg hfraction (by norm_num))
        (mul_le_mul_of_nonneg_right (sub_le_sub_right h _) (by norm_num)))
    omega

/-- Whole seconds are not rounded. -/
theorem fromtimestamp_intCast (n : Nat) : fromtimestamp n = n * 1000000 := by
  refine Int.ofNat_inj.mp ?_
  have hzero : halfEven 0 = 0 := by simpa using halfEven_intCast 0
  rw [fromtimestamp_eq (Nat.cast_nonneg n), Int.floor_natCast, Int.cast_natCast, sub_self, zero_mul,
    toDouble_zero, hzero]
  push_cast
  ring

/-- A plausible time is one with a year of four digits. -/
theorem fromtimestamp_lt {mtime : ℚ} (h : 0 ≤ mtime) (h' : mtime ≤ MAX_PLAUSIBLE_MTIME) :
    fromtimestamp mtime < fourDigits := by
  have hmax : fromtimestamp MAX_PLAUSIBLE_MTIME = 4102444800 * 1000000 := by
    have := fromtimestamp_intCast 4102444800
    rwa [Nat.cast_ofNat] at this
  have hle := fromtimestamp_mono h h'
  rw [hmax] at hle
  rw [fourDigits]
  omega

/-! ## Keys -/

/-- Inverted, a text before another one comes behind it. -/
theorem invert_lt {first second : Text} (h : Before first second) : invert second < invert first := by
  obtain ⟨same, c, d, rest, rest', rfl, rfl, hlt⟩ := h
  have hvalid : d.toNat ≤ 0x10FFFF := by
    have := d.valid
    rw [UInt32.isValidChar, Nat.isValidChar, Char.toNat_val] at this
    omega
  induction same with
  | nil =>
      have hinverted : 0x10FFFF - d.toNat < 0x10FFFF - c.toNat := by omega
      exact List.cons_lt_cons_iff.mpr (Or.inl hinverted)
  | cons x same ih => exact List.cons_lt_cons_iff.mpr (Or.inr ⟨rfl, ih⟩)

/-- The order of the keys, lexicographic. -/
def sortLex (entry : DumpEntry) : Bool ×ₗ (List Nat ×ₗ Text) :=
  toLex ((sortKey entry).1, toLex (sortKey entry).2)

theorem keyLe_iff {a b : DumpEntry} : keyLe a b = true ↔ sortLex a ≤ sortLex b := by
  simp only [keyLe, sortLex, Prod.Lex.toLex_le_toLex, Bool.or_eq_true, Bool.and_eq_true,
    decide_eq_true_eq]

theorem keyLe_trans (a b c : DumpEntry) (h : keyLe a b = true) (h' : keyLe b c = true) :
    keyLe a c = true :=
  keyLe_iff.mpr ((keyLe_iff.mp h).trans (keyLe_iff.mp h'))

theorem keyLe_total (a b : DumpEntry) : (keyLe a b || keyLe b a) = true := by
  rw [Bool.or_eq_true, keyLe_iff, keyLe_iff]
  exact le_total _ _

/-! ## Records -/

/-- The name of its directory. -/
def pathOf (record : Value Text) : Text :=
  (((itemsOf record).bind fun items => getItem items "dir").bind strOf).getD []

/-- Its time, if that is a number and plausible. -/
def mtimeOf (record : Value Text) : Option ℚ :=
  (((itemsOf record).bind fun items => getItem items "mtime").bind numberOf).filter
    fun mtime => 0 ≤ mtime ∧ mtime ≤ MAX_PLAUSIBLE_MTIME

/-- A record may stand in front of another one. -/
def StandsBefore (first second : Value Text) : Prop :=
  match mtimeOf first, mtimeOf second with
  | some mtime, some mtime' =>
      fromtimestamp mtime' < fromtimestamp mtime ∨
        (fromtimestamp mtime = fromtimestamp mtime' ∧ pathOf first ≤ pathOf second)
  | some _, none => True
  | none, some _ => False
  | none, none => pathOf first ≤ pathOf second

section

variable {parseInt : Text → Option Int} {repr : Text → Text}

/-- The entry of a record has its path and its time. -/
theorem parseRecord_eq_some {record : Value Text} {entry : DumpEntry}
    (h : parseRecord (python parseInt repr) record = some entry) :
    entry.path = pathOf record ∧
      entry.captureTime = (mtimeOf record).map fun mtime => isoformat (fromtimestamp mtime) := by
  simp only [parseRecord, Option.bind_eq_bind, Option.bind_eq_some_iff, Option.pure_def,
    Option.some.injEq] at h
  obtain ⟨items, hitems, sizes, -, path, ⟨dir, hdir, hpath⟩, kernel, -, available, -, rfl⟩ := h
  refine ⟨?_, ?_⟩
  · rw [pathOf, hitems, Option.bind_some, hdir, Option.bind_some, hpath, Option.getD_some]
  · rw [mtimeOf, hitems, Option.bind_some, captureTime]
    cases (getItem items "mtime").bind numberOf with
    | none => rfl
    | some mtime =>
        by_cases hrange : 0 ≤ mtime ∧ mtime ≤ MAX_PLAUSIBLE_MTIME
        · simp [hrange, python]
        · rw [Option.bind_some, if_neg hrange, Option.filter_some, if_neg (by simpa using hrange)]
          rfl

/-- Moments whose inverted texts are in order are in the other order. -/
theorem invert_isoformat {m n : Nat} (hm : m < fourDigits) (hn : n < fourDigits) :
    (invert (isoformat m) < invert (isoformat n) → n < m) ∧
      (invert (isoformat m) = invert (isoformat n) → m = n) := by
  rcases Nat.lt_trichotomy m n with h | h | h
  · have hlt := invert_lt (before_isoformat h hn)
    exact ⟨fun h' => absurd h' hlt.asymm, fun h' => absurd h'.symm hlt.ne⟩
  · exact ⟨fun h' => absurd h' (by rw [h]; exact lt_irrefl _), fun _ => h⟩
  · have hlt := invert_lt (before_isoformat h hm)
    exact ⟨fun _ => h, fun h' => absurd h' hlt.ne⟩

theorem mtimeOf_bounds {record : Value Text} {mtime : ℚ} (h : mtimeOf record = some mtime) :
    0 ≤ mtime ∧ mtime ≤ MAX_PLAUSIBLE_MTIME := by
  have := (Option.filter_eq_some_iff.mp h).2
  simpa using this

/-- Entries in the order of their keys come from records in the order of their times. -/
theorem standsBefore_of_keyLe {first second : Value Text} {a b : DumpEntry}
    (ha : parseRecord (python parseInt repr) first = some a)
    (hb : parseRecord (python parseInt repr) second = some b) (h : keyLe a b = true) :
    StandsBefore first second := by
  obtain ⟨hpath, htime⟩ := parseRecord_eq_some ha
  obtain ⟨hpath', htime'⟩ := parseRecord_eq_some hb
  simp only [keyLe, sortKey, Bool.or_eq_true, Bool.and_eq_true, decide_eq_true_eq, htime, htime',
    hpath, hpath'] at h
  rw [StandsBefore]
  cases hmtime : mtimeOf first with
  | none =>
      cases hmtime' : mtimeOf second with
      | none => simpa [hmtime, hmtime'] using h
      | some mtime' =>
          simp only [hmtime, hmtime', Option.map_none, Option.map_some, Bool.true_eq_false, false_and,
            or_false] at h
          exact absurd h (by decide)
  | some mtime =>
      cases hmtime' : mtimeOf second with
      | none => trivial
      | some mtime' =>
          obtain ⟨hlt, heq⟩ := invert_isoformat
            (fromtimestamp_lt (mtimeOf_bounds hmtime).1 (mtimeOf_bounds hmtime).2)
            (fromtimestamp_lt (mtimeOf_bounds hmtime').1 (mtimeOf_bounds hmtime').2)
          simp only [hmtime, hmtime', Option.map_some] at h
          rcases h with h | ⟨-, h | ⟨h, hle⟩⟩
          · exact absurd h (by decide)
          · exact Or.inl (hlt h)
          · exact Or.inr ⟨heq h, hle⟩

/-! ## Listings -/

/-- The records of a listing. -/
def dumpRecords (probe : Items) : List (Value Text) :=
  match getTruthy probe "dumps" with
  | some (.list records) => records
  | _ => []

/-- Records and their entries. -/
theorem exists_pairs {f : Value Text → Option DumpEntry} {records : List (Value Text)}
    {entries : List DumpEntry} (h : records.mapM f = some entries) :
    ∃ pairs : List (Value Text × DumpEntry), pairs.map Prod.fst = records ∧
      pairs.map Prod.snd = entries ∧ ∀ pair ∈ pairs, f pair.1 = some pair.2 := by
  induction records generalizing entries with
  | nil =>
      cases h
      exact ⟨[], rfl, rfl, by simp⟩
  | cons record rest ih =>
      simp only [List.mapM_cons, Option.bind_eq_bind, Option.bind_eq_some_iff, Option.pure_def,
        Option.some.injEq] at h
      obtain ⟨entry, hentry, entries', hrest, rfl⟩ := h
      obtain ⟨pairs, hfst, hsnd, hpairs⟩ := ih hrest
      refine ⟨(record, entry) :: pairs, by simp [hfst], by simp [hsnd], ?_⟩
      exact List.forall_mem_cons.mpr ⟨hentry, hpairs⟩

/-- The entries of a listing are those of its records, put in order. -/
theorem parseDumpListing_order {probe : Items} {entries : List DumpEntry}
    (h : parseDumpListing (python parseInt repr) probe = some entries) :
    ∃ order : List (Value Text), order.Perm (dumpRecords probe) ∧
      order.map (parseRecord (python parseInt repr)) = entries.map some ∧
      order.Pairwise StandsBefore := by
  rw [parseDumpListing] at h
  rw [dumpRecords]
  split at h
  · rename_i hdumps
    cases h
    exact ⟨[], by rw [hdumps], rfl, List.Pairwise.nil⟩
  · rename_i records hdumps
    obtain ⟨parsed, hparsed, rfl⟩ := Option.map_eq_some_iff.mp h
    obtain ⟨pairs, rfl, rfl, hpairs⟩ := exists_pairs hparsed
    have hsorted : (pairs.mergeSort fun p q => keyLe p.2 q.2).map Prod.snd =
        (pairs.map Prod.snd).mergeSort keyLe := List.map_mergeSort fun _ _ _ _ => rfl
    refine ⟨(pairs.mergeSort fun p q => keyLe p.2 q.2).map Prod.fst, ?_, ?_, ?_⟩
    · rw [hdumps]
      exact (List.mergeSort_perm _ _).map _
    · rw [← hsorted, List.map_map, List.map_map]
      exact List.map_congr_left fun pair hpair => hpairs pair (List.mem_mergeSort.mp hpair)
    · rw [List.pairwise_map]
      have hkeys := @List.pairwise_mergeSort _ (fun (p q : Value Text × DumpEntry) => keyLe p.2 q.2)
        (fun p q r => keyLe_trans p.2 q.2 r.2) (fun p q => keyLe_total p.2 q.2) pairs
      refine hkeys.imp_of_mem fun {p q} hp hq hle => ?_
      exact standsBefore_of_keyLe (hpairs p (List.mem_mergeSort.mp hp))
        (hpairs q (List.mem_mergeSort.mp hq)) hle
  · cases h

/-! ## What is read -/

theorem isSome_mapM {α β : Type} {f : α → Option β} {items : List α} :
    (items.mapM f).isSome = true ↔ ∀ item ∈ items, (f item).isSome = true := by
  induction items with
  | nil => simp
  | cons item rest ih =>
      rw [List.forall_mem_cons, ← ih, List.mapM_cons]
      cases f item with
      | none => simp
      | some b => cases rest.mapM f <;> simp

/-- The items of a record have their types: a directory name, sizes by name, a kernel
that is a string, and names of files. -/
structure HasShape (items : Items) : Prop where
  dir : ∃ path, getItem items "dir" = some (.str path)
  fileSizes : ∀ value ∈ getTruthy items "file_sizes", ∃ sizes, value = .mapping sizes
  kernel : ∀ value ∈ getItem items "kernel", value = .scalar .none ∨ ∃ kernel, value = .str kernel
  present : ∀ value ∈ getTruthy items "present",
    (∃ names, value = .list names ∧ ∀ name ∈ names, ∃ text, name = .str text) ∨
      (∃ text, value = .str text) ∨ ∃ names, value = .mapping names

theorem isSome_strOf {value : Value Text} : (strOf value).isSome = true ↔ ∃ text, value = .str text := by
  cases value <;> simp [strOf]

theorem isSome_itemsOf {value : Value Text} :
    (itemsOf value).isSome = true ↔ ∃ items, value = .mapping items := by
  cases value <;> simp [itemsOf]

theorem isSome_stringsOf {value : Value Text} : (stringsOf value).isSome = true ↔
    (∃ names, value = .list names ∧ ∀ name ∈ names, ∃ text, name = .str text) ∨
      (∃ text, value = .str text) ∨ ∃ names, value = .mapping names := by
  cases value with
  | list names => simp [stringsOf, isSome_mapM, isSome_strOf]
  | _ => simp [stringsOf]

theorem isSome_optionalStr {value : Option (Value Text)} : (optionalStr value).isSome = true ↔
    ∀ v ∈ value, v = .scalar .none ∨ ∃ text, v = .str text := by
  cases value with
  | none => simp [optionalStr]
  | some v =>
      cases v with
      | scalar s => cases s <;> simp [optionalStr]
      | _ => simp [optionalStr]

theorem isSome_elim {α : Type} {value : Option (Value Text)} {f : Value Text → Option α} {a : α} :
    (value.elim (some a) f).isSome = true ↔ ∀ v ∈ value, (f v).isSome = true := by
  cases value <;> simp

/-- A record is read exactly if it is a mapping of this shape. -/
theorem isSome_parseRecord {py : Interpreter} {record : Value Text} :
    (parseRecord py record).isSome = true ↔ ∃ items, record = .mapping items ∧ HasShape items := by
  rw [parseRecord]
  cases hitems : itemsOf record with
  | none =>
      have hnot : ¬ (itemsOf record).isSome = true := by simp [hitems]
      refine iff_of_false (by simp) ?_
      rintro ⟨items, hrecord, -⟩
      exact hnot (isSome_itemsOf.mpr ⟨items, hrecord⟩)
  | some items =>
      obtain ⟨items', hrecord⟩ := isSome_itemsOf.mp (by rw [hitems]; rfl)
      rw [hrecord, itemsOf] at hitems
      cases hitems
      -- each of the four reads either fails, and the shape with it, or is done
      have hparts : (∃ items', record = .mapping items' ∧ HasShape items') ↔
          ((getTruthy items "file_sizes").elim (some []) itemsOf).isSome = true ∧
          ((getItem items "dir").bind strOf).isSome = true ∧
          (optionalStr (getItem items "kernel")).isSome = true ∧
          ((getTruthy items "present").elim (some []) stringsOf).isSome = true := by
        have hdir : ((getItem items "dir").bind strOf).isSome = true ↔
            ∃ path, getItem items "dir" = some (.str path) := by
          cases getItem items "dir" with
          | none => simp
          | some value => simp [isSome_strOf]
        simp only [isSome_elim, hdir, isSome_optionalStr, isSome_itemsOf, isSome_stringsOf]
        constructor
        · rintro ⟨items', heq, hshape⟩
          rw [hrecord] at heq
          cases heq
          exact ⟨hshape.fileSizes, hshape.dir, hshape.kernel, hshape.present⟩
        · rintro ⟨hsizes, hdir, hkernel, hpresent⟩
          exact ⟨items, hrecord, hdir, hsizes, hkernel, hpresent⟩
      rw [hparts, Option.bind_eq_bind, Option.bind_some]
      cases (getTruthy items "file_sizes").elim (some []) itemsOf with
      | none => simp
      | some sizes =>
          cases (getItem items "dir").bind strOf with
          | none => simp
          | some path =>
              cases optionalStr (getItem items "kernel") with
              | none => simp
              | some kernel =>
                  cases (getTruthy items "present").elim (some []) stringsOf <;> simp

/-- The dumps of a listing are records of this shape. -/
def ListingShape (probe : Items) : Prop :=
  ∀ value ∈ getTruthy probe "dumps", ∃ records, value = .list records ∧
    ∀ record ∈ records, ∃ items, record = .mapping items ∧ HasShape items

theorem isSome_parseDumpListing {py : Interpreter} {probe : Items} :
    (parseDumpListing py probe).isSome = true ↔ ListingShape probe := by
  rw [parseDumpListing, ListingShape]
  cases getTruthy probe "dumps" with
  | none => simp
  | some value =>
      cases value with
      | list records => simp [isSome_mapM, isSome_parseRecord]
      | _ => simp

/-- A listing is read exactly if its dumps are records with items of their types.  Then
there is one entry for each record, and the entries are in the order of the records'
moments, where moments are times rounded to a microsecond. -/
theorem listing_in_order (parseInt : Text → Option Int) (repr : Text → Text) (probe : Items) :
    ((parseDumpListing (python parseInt repr) probe).isSome = true ↔ ListingShape probe) ∧
    (∀ entries, parseDumpListing (python parseInt repr) probe = some entries →
      ∃ order : List (Value Text), order.Perm (dumpRecords probe) ∧
        order.map (parseRecord (python parseInt repr)) = entries.map some ∧
        order.Pairwise StandsBefore) ∧
    (∀ p q : ℚ, 0 ≤ p → p ≤ q → fromtimestamp p ≤ fromtimestamp q) ∧
    ∀ n : Nat, fromtimestamp n = n * 1000000 :=
  ⟨isSome_parseDumpListing, fun _ => parseDumpListing_order, fun _ _ => fromtimestamp_mono,
    fromtimestamp_intCast⟩

end

/-! ## Two dumps of one microsecond -/

/-- A record with a directory and a time. -/
def timedRecord (dir : String) (mtime : Scalar) : Value Text :=
  .mapping [(.str "dir".toList, .str dir.toList), (.str "mtime".toList, .scalar mtime)]

/-- The second dump is the newer one, by a part of a microsecond. -/
def closeListing : Items :=
  [(.str "dumps".toList, .list [timedRecord "/var/crash/a" (.int 1),
    timedRecord "/var/crash/b" (.float 0x3ff0000000000001)])]

/-- A record with a kernel that is a number. -/
def oddListing : Items :=
  [(.str "dumps".toList, .list [.mapping
    [(.str "dir".toList, .str "/var/crash/a".toList), (.str "kernel".toList, .scalar (.int 5))]])]

/-- The entry of such a record. -/
def timedEntry (dir : String) (time : Option Text) : DumpEntry where
  path := dir.toList
  kernel := none
  captureTime := time
  sizeBytes := 0
  incomplete := false
  availableFiles := []
  fileSizes := Dict.empty.setAll []

theorem parseRecord_timed (py : Interpreter) (dir : String) (mtime : Scalar) :
    parseRecord py (timedRecord dir mtime) =
      some (timedEntry dir (captureTime py (some (.scalar mtime)))) := rfl

/-- A small part of a microsecond is rounded away. -/
theorem fromtimestamp_small {part : ℚ} (h : 0 ≤ part) (h' : part ≤ 1 / 4000000) :
    fromtimestamp (1 + part) = 1000000 := by
  have hquarter : toDouble (1 / 4) = 1 / 4 := by
    have hlog : Int.log 2 (1 / 4 : ℚ) = -2 := by
      have h := Int.log_zpow (R := ℚ) (by norm_num : 1 < 2) (-2)
      rwa [show ((2 : ℕ) : ℚ) ^ (-2 : ℤ) = 1 / 4 by norm_num] at h
    have hbit : lastBit (1 / 4) = -54 := by
      rw [lastBit, hlog]
      decide
    have hinteger : (1 / 4 : ℚ) / 2 ^ (-54 : ℤ) = ((2 ^ 52 : ℤ) : ℚ) := by norm_num
    rw [toDouble, hbit, hinteger, halfEven_intCast]
    norm_num
  have hfloor : ⌊(1 : ℚ) + part⌋ = 1 := by
    rw [Int.floor_eq_iff]
    constructor
    · push_cast
      linarith
    · push_cast
      linarith
  have hnonneg : 0 ≤ part * 1000000 := mul_nonneg h (by norm_num)
  have hlow : 0 ≤ halfEven (toDouble (part * 1000000)) :=
    (micros_bounds h (by linarith)).1
  have hhigh : halfEven (toDouble (part * 1000000)) ≤ 0 := by
    have hle : toDouble (part * 1000000) ≤ 1 / 4 := by
      rw [← hquarter]
      exact toDouble_mono hnonneg (by linarith)
    have hround : halfEven (1 / 4) = 0 := by decide +kernel
    rw [← hround]
    exact halfEven_mono hle
  have heq := @fromtimestamp_eq (1 + part) (by linarith)
  rw [hfloor, Int.cast_one, add_sub_cancel_left] at heq
  omega

/-- The older of two dumps comes first, and a listing with a directory name is not read. -/
theorem older_first :
    ((parseDumpListing (python (fun _ => none) id) closeListing).map fun entries =>
        entries.map DumpEntry.path) = some ["/var/crash/a".toList, "/var/crash/b".toList] ∧
      mtimeOf (timedRecord "/var/crash/a" (.int 1)) = some 1 ∧
      mtimeOf (timedRecord "/var/crash/b" (.float 0x3ff0000000000001)) = some (1 + 1 / 2 ^ 52) ∧
      parseDumpListing (python (fun _ => none) id) oddListing = none := by
  refine ⟨?_, by decide +kernel, by decide +kernel, by decide +kernel⟩
  have hone : captureTime (python (fun _ => none) id) (some (.scalar (.int 1))) =
      some (isoformat 1000000) := by
    have hmoment := @fromtimestamp_small 0 (le_refl 0) (by norm_num)
    rw [add_zero] at hmoment
    rw [← hmoment]
    rfl
  have hclose : captureTime (python (fun _ => none) id)
      (some (.scalar (.float 0x3ff0000000000001))) = some (isoformat 1000000) := by
    have hvalue : numberOf (.scalar (.float 0x3ff0000000000001)) = some (1 + 1 / 2 ^ 52) := by
      decide +kernel
    have hrange : (0 : ℚ) ≤ 1 + 1 / 2 ^ 52 ∧ (1 + 1 / 2 ^ 52 : ℚ) ≤ MAX_PLAUSIBLE_MTIME := by
      decide +kernel
    rw [captureTime, Option.bind_some, hvalue, Option.bind_some, if_pos hrange,
      ← @fromtimestamp_small (1 / 2 ^ 52) (by norm_num) (by norm_num)]
    rfl
  have hdumps : getTruthy closeListing "dumps" = some (.list
      [timedRecord "/var/crash/a" (.int 1), timedRecord "/var/crash/b" (.float 0x3ff0000000000001)]) := rfl
  have hsorted : keyLe (timedEntry "/var/crash/a" (some (isoformat 1000000)))
      (timedEntry "/var/crash/b" (some (isoformat 1000000))) = true := by
    simp only [keyLe, sortKey, timedEntry, lt_irrefl, decide_false, decide_true, Bool.false_or,
      Bool.true_and]
    decide
  rw [parseDumpListing, hdumps]
  simp only [List.mapM_cons, List.mapM_nil, parseRecord_timed, hone, hclose, Option.bind_eq_bind,
    Option.bind_some, Option.pure_def, Option.map_some]
  rw [List.mergeSort_of_pairwise (by simpa using hsorted)]
  rfl

end Kdive.Dumps

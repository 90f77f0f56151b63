import Kdive.Lib.JsonWriting

/-!
# Models as JSON objects

A model is dumped to a JSON object with a member for each field, and is validated from one.  A
`Shape` says how a value stands in JSON, a `Row` which members of an object hold it.  Rows are put
together field by field, and a row with distinct names is an object.

*Round trip.*  Every shape comes with the law that what it dumps it loads, so a model that is put
together of shapes has it too.

*Text.*  What is dumped can be written, but for integers with too many digits (`Json.fits`), and its
text is read into it again (`loads_dumps`).
-/

namespace PythonJson

/-! ## Values that are dumped -/

namespace Json

mutual

/-- `json.dump` raises on no integer. -/
def fits : Json → Bool
  | .int n => decide ((Nat.toDigits 10 n.natAbs).length ≤ maxDigits)
  | .list items => fitsItems items
  | .dict entries => fitsEntries entries
  | _ => true

def fitsItems : List Json → Bool
  | [] => true
  | item :: items => fits item && fitsItems items

def fitsEntries : List (List Nat × Json) → Bool
  | [] => true
  | (_, item) :: entries => fits item && fitsEntries entries

end

mutual

/-- Strings of characters, no floats, distinct names, and containers nested at most so deep. -/
def Tidy : Nat → Json → Prop
  | _, .float _ => False
  | _, .str points => Plain points
  | room, .list items => 0 < room ∧ TidyItems (room - 1) items
  | room, .dict entries =>
      0 < room ∧ (entries.map Prod.fst).Nodup ∧ TidyEntries (room - 1) entries
  | _, .null | _, .bool _ | _, .int _ => True

def TidyItems : Nat → List Json → Prop
  | _, [] => True
  | room, item :: items => Tidy room item ∧ TidyItems room items

def TidyEntries : Nat → List (List Nat × Json) → Prop
  | _, [] => True
  | room, (key, item) :: entries => Plain key ∧ Tidy room item ∧ TidyEntries room entries

end

mutual

theorem Tidy.proper : ∀ {room : Nat} {v : Json}, v.Tidy room → v.fits = true → v.Proper
  | _, .null, _, _ | _, .bool _, _, _ => by simp [Proper]
  | _, .int n, _, hfits => by simpa [Proper, fits] using hfits
  | _, .str points, h, _ => by simpa [Proper, Tidy] using h
  | room, .list items, h, hfits => by
      rw [Tidy] at h
      rw [fits] at hfits
      rw [Proper]
      exact TidyItems.proper h.2 hfits
  | room, .dict entries, h, hfits => by
      rw [Tidy] at h
      rw [fits] at hfits
      rw [Proper]
      exact TidyEntries.proper h.2.2 hfits

theorem TidyItems.proper : ∀ {room : Nat} {items : List Json}, TidyItems room items →
    fitsItems items = true → ProperItems items
  | _, [], _, _ => by simp [ProperItems]
  | _, item :: items, h, hfits => by
      rw [TidyItems] at h
      rw [fitsItems, Bool.and_eq_true] at hfits
      rw [ProperItems]
      exact ⟨Tidy.proper h.1 hfits.1, TidyItems.proper h.2 hfits.2⟩

theorem TidyEntries.proper : ∀ {room : Nat} {entries : List (List Nat × Json)},
    TidyEntries room entries → fitsEntries entries = true → ProperEntries entries
  | _, [], _, _ => by simp [ProperEntries]
  | _, (key, item) :: entries, h, hfits => by
      rw [TidyEntries] at h
      rw [fitsEntries, Bool.and_eq_true] at hfits
      rw [ProperEntries]
      exact ⟨h.1, Tidy.proper h.2.1 hfits.1, TidyEntries.proper h.2.2 hfits.2⟩

end

mutual

theorem Tidy.depth : ∀ {room : Nat} {v : Json}, v.Tidy room → v.depth ≤ room
  | _, .null, _ | _, .bool _, _ | _, .int _, _ | _, .str _, _ => by simp [Json.depth]
  | room, .list items, h => by
      rw [Tidy] at h
      have hitems := TidyItems.depth h.2
      rw [Json.depth]
      omega
  | room, .dict entries, h => by
      rw [Tidy] at h
      have hentries := TidyEntries.depth h.2.2
      rw [Json.depth]
      omega

theorem TidyItems.depth : ∀ {room : Nat} {items : List Json}, TidyItems room items →
    depthItems items ≤ room
  | _, [], _ => by simp [depthItems]
  | _, item :: items, h => by
      rw [TidyItems] at h
      rw [depthItems]
      exact max_le (Tidy.depth h.1) (TidyItems.depth h.2)

theorem TidyEntries.depth : ∀ {room : Nat} {entries : List (List Nat × Json)},
    TidyEntries room entries → depthEntries entries ≤ room
  | _, [], _ => by simp [depthEntries]
  | _, (key, item) :: entries, h => by
      rw [TidyEntries] at h
      rw [depthEntries]
      exact max_le (Tidy.depth h.2.1) (TidyEntries.depth h.2.2)

end

mutual

theorem Tidy.distinct : ∀ {room : Nat} {v : Json}, v.Tidy room → v.Distinct
  | _, .null, _ | _, .bool _, _ | _, .int _, _ | _, .str _, _ => by simp [Distinct]
  | room, .list items, h => by
      rw [Tidy] at h
      rw [Distinct]
      exact TidyItems.distinct h.2
  | room, .dict entries, h => by
      rw [Tidy] at h
      rw [Distinct]
      exact ⟨h.2.1, TidyEntries.distinct h.2.2⟩

theorem TidyItems.distinct : ∀ {room : Nat} {items : List Json}, TidyItems room items →
    DistinctItems items
  | _, [], _ => by simp [DistinctItems]
  | _, item :: items, h => by
      rw [TidyItems] at h
      rw [DistinctItems]
      exact ⟨Tidy.distinct h.1, TidyItems.distinct h.2⟩

theorem TidyEntries.distinct : ∀ {room : Nat} {entries : List (List Nat × Json)},
    TidyEntries room entries → DistinctEntries entries
  | _, [], _ => by simp [DistinctEntries]
  | _, (key, item) :: entries, h => by
      rw [TidyEntries] at h
      rw [DistinctEntries]
      exact ⟨Tidy.distinct h.2.1, TidyEntries.distinct h.2.2⟩

end

theorem tidyItems_iff {room : Nat} {items : List Json} :
    TidyItems room items ↔ ∀ item ∈ items, Tidy room item := by
  induction items with
  | nil => simp [TidyItems]
  | cons item items ih => simp [TidyItems, ih]

theorem tidyEntries_iff {room : Nat} {entries : List (List Nat × Json)} :
    TidyEntries room entries ↔ ∀ entry ∈ entries, Plain entry.1 ∧ Tidy room entry.2 := by
  induction entries with
  | nil => simp [TidyEntries]
  | cons entry entries ih => simp [TidyEntries, ih, and_assoc]

end Json

/-- `json.dumps`, which raises on an integer with too many digits. -/
def dumps (v : Json) : Option (List Char) := if v.fits then some (write v) else none

/-- What is dumped is read again. -/
theorem loads_dumps {v : Json} {room : Nat} (h : v.Tidy room) {text : List Char}
    (hdumps : dumps v = some text) : loads Json.builder room text = .ok v := by
  unfold dumps at hdumps
  split at hdumps
  · next hfits =>
      cases hdumps
      rw [loads_write (h.proper hfits) h.depth, Json.build_builder v h.distinct]
  · cases hdumps

/-! ## Scalars -/

/-- A string of characters. -/
def readText : Json → Option (List Char)
  | .str points =>
      if ∀ point ∈ points, point.isValidChar then some (points.map Char.ofNat) else none
  | _ => none

/-- An integer. -/
def readInt : Json → Option Int
  | .int n => some n
  | _ => none

theorem readText_text (text : List Char) : readText (.str (text.map Char.toNat)) = some text := by
  have hvalid : ∀ point ∈ text.map Char.toNat, point.isValidChar := by
    intro point hpoint
    obtain ⟨c, -, rfl⟩ := List.mem_map.mp hpoint
    exact c.valid
  rw [readText, if_pos hvalid, List.map_map]
  exact congrArg some ((List.map_congr_left fun c _ => Char.ofNat_toNat c).trans (List.map_id text))

/-! ## Shapes -/

/-- How a value stands in JSON. -/
structure Shape (α : Type) where
  dump : α → Json
  load : Json → Option α
  /-- How deep its containers are nested. -/
  deep : Nat
  tidy : ∀ a room, deep ≤ room → (dump a).Tidy room
  load_dump : ∀ a, load (dump a) = some a

namespace Shape

variable {α β : Type}

/-- A string. -/
def text (load : Json → Option (List Char))
    (hload : ∀ text, load (.str (text.map Char.toNat)) = some text) : Shape (List Char) where
  dump text := .str (text.map Char.toNat)
  load := load
  deep := 0
  tidy text _ _ := by
    rw [Json.Tidy]
    exact plain_text text
  load_dump := hload

/-- An integer. -/
def int (load : Json → Option Int) (hload : ∀ n, load (.int n) = some n) : Shape Int where
  dump := .int
  load := load
  deep := 0
  tidy _ _ _ := by simp [Json.Tidy]
  load_dump := hload

/-- A truth value. -/
def bool (load : Json → Option Bool) (hload : ∀ b, load (.bool b) = some b) : Shape Bool where
  dump := .bool
  load := load
  deep := 0
  tidy _ _ _ := by simp [Json.Tidy]
  load_dump := hload

/-- The values of one type as some of another. -/
def map (shape : Shape β) (f : α → β) (g : β → α) (hg : ∀ a, g (f a) = a) : Shape α where
  dump a := shape.dump (f a)
  load v := (shape.load v).map g
  deep := shape.deep
  tidy a := shape.tidy (f a)
  load_dump a := by simp [shape.load_dump, hg]

/-- The values that pass a check. -/
def refine (shape : Shape α) (legal : α → Prop) [DecidablePred legal] :
    Shape { a : α // legal a } where
  dump a := shape.dump a.val
  load v := (shape.load v).bind fun a => if h : legal a then some ⟨a, h⟩ else none
  deep := shape.deep
  tidy a := shape.tidy a.val
  load_dump a := by simp [shape.load_dump, a.property]

/-- The members of an enumeration, by their texts. -/
def choice (shape : Shape (List Char)) (value : α → List Char) (all : List α)
    (hall : ∀ a, a ∈ all) (hinj : ∀ a b, value a = value b → a = b) : Shape α where
  dump a := shape.dump (value a)
  load v := (shape.load v).bind fun text => all.find? fun a => value a = text
  deep := shape.deep
  tidy a := shape.tidy (value a)
  load_dump a := by
    rw [shape.load_dump, Option.bind_some]
    cases hfound : all.find? fun b => decide (value b = value a) with
    | none => simpa using List.find?_eq_none.mp hfound a (hall a)
    | some b => rw [hinj b a (by simpa using List.find?_some hfound)]

/-- A value or none. -/
def optional (shape : Shape α) (hsome : ∀ a, shape.dump a ≠ .null) : Shape (Option α) where
  dump
    | none => .null
    | some a => shape.dump a
  load
    | .null => some none
    | v => (shape.load v).map some
  deep := shape.deep
  tidy
    | none, _, _ => by simp [Json.Tidy]
    | some a, room, h => shape.tidy a room h
  load_dump
    | none => rfl
    | some a => by
        have hne := hsome a
        cases hdump : shape.dump a with
        | null => exact absurd hdump hne
        | bool b | int n | float text | str points | list items | dict entries =>
            simp [shape.load_dump]

/-- A list. -/
def list (shape : Shape α) : Shape (List α) where
  dump items := .list (items.map shape.dump)
  load
    | .list items => items.mapM shape.load
    | _ => none
  deep := shape.deep + 1
  tidy items room h := by
    rw [Json.Tidy, Json.tidyItems_iff]
    refine ⟨by omega, fun item hitem => ?_⟩
    obtain ⟨a, -, rfl⟩ := List.mem_map.mp hitem
    exact shape.tidy a _ (by omega)
  load_dump items := by
    show (items.map shape.dump).mapM shape.load = some items
    induction items with
    | nil => rfl
    | cons a items ih => simp [shape.load_dump, ih]

/-- One of two kinds of values, which can be told apart. -/
def either (left : Shape α) (right : Shape β) (isLeft : Json → Option Bool)
    (hleft : ∀ a, isLeft (left.dump a) = some true)
    (hright : ∀ b, isLeft (right.dump b) = some false) : Shape (α ⊕ β) where
  dump
    | .inl a => left.dump a
    | .inr b => right.dump b
  load v :=
    match isLeft v with
    | some true => (left.load v).map .inl
    | some false => (right.load v).map .inr
    | none => none
  deep := max left.deep right.deep
  tidy
    | .inl a, room, h => left.tidy a room (le_trans (le_max_left _ _) h)
    | .inr b, room, h => right.tidy b room (le_trans (le_max_right _ _) h)
  load_dump
    | .inl a => by simp [hleft, left.load_dump]
    | .inr b => by simp [hright, right.load_dump]

/-- What is dumped to a text is loaded from it. -/
theorem loads_dumps (shape : Shape α) {room : Nat} (hroom : shape.deep ≤ room) {a : α}
    {text : List Char} (h : dumps (shape.dump a) = some text) :
    (loads Json.builder room text).toOption.bind shape.load = some a := by
  rw [PythonJson.loads_dumps (shape.tidy a room hroom) h]
  exact shape.load_dump a

end Shape

/-! ## Rows -/

/-- Some members of an object. -/
structure Row (α : Type) where
  names : List (List Nat)
  dump : α → List (List Nat × Json)
  load : List (List Nat × Json) → Option α
  deep : Nat
  names_dump : ∀ a, (dump a).map Prod.fst = names
  tidy : ∀ a room, deep ≤ room → ∀ entry ∈ dump a, Plain entry.1 ∧ entry.2.Tidy room
  load_dump : ∀ a entries, (∀ key v, (key, v) ∈ dump a → entries.lookup key = some v) →
    load entries = some a

/-- A name, by its code points. -/
def key (name : List Char) : List Nat := name.map Char.toNat

namespace Row

variable {α β : Type}

/-- A field, and what it is without a member. -/
def field (name : List Char) (shape : Shape α) (default : Option α) : Row α where
  names := [key name]
  dump a := [(key name, shape.dump a)]
  load entries :=
    match entries.lookup (key name) with
    | none => default
    | some v => shape.load v
  deep := shape.deep
  names_dump _ := rfl
  tidy a room h entry hentry := by
    rw [List.mem_singleton.mp hentry]
    exact ⟨plain_text name, shape.tidy a room h⟩
  load_dump a entries h := by
    rw [h _ _ (List.mem_singleton_self _)]
    exact shape.load_dump a

/-- One row behind another. -/
def and (left : Row α) (right : Row β) : Row (α × β) where
  names := left.names ++ right.names
  dump a := left.dump a.1 ++ right.dump a.2
  load entries := do
    let a ← left.load entries
    let b ← right.load entries
    return (a, b)
  deep := max left.deep right.deep
  names_dump a := by rw [List.map_append, left.names_dump, right.names_dump]
  tidy a room h entry hentry := by
    rcases List.mem_append.mp hentry with hentry | hentry
    · exact left.tidy a.1 room (le_trans (le_max_left _ _) h) entry hentry
    · exact right.tidy a.2 room (le_trans (le_max_right _ _) h) entry hentry
  load_dump a entries h := by
    have hleft := left.load_dump a.1 entries fun key v hmem => h key v (List.mem_append_left _ hmem)
    have hright := right.load_dump a.2 entries fun key v hmem =>
      h key v (List.mem_append_right _ hmem)
    rw [hleft, hright]
    rfl

/-- The values of one type as some of another. -/
def map (row : Row β) (f : α → β) (g : β → α) (hg : ∀ a, g (f a) = a) : Row α where
  names := row.names
  dump a := row.dump (f a)
  load entries := (row.load entries).map g
  deep := row.deep
  names_dump a := row.names_dump (f a)
  tidy a := row.tidy (f a)
  load_dump a entries h := by
    rw [row.load_dump (f a) entries h]
    exact congrArg some (hg a)

/-- An object with these members, and with others if they are ignored. -/
def object (row : Row α) (ignores : Bool) (hnames : row.names.Nodup) : Shape α where
  dump a := .dict (row.dump a)
  load
    | .dict entries =>
        if ignores = true ∨ ∀ entry ∈ entries, entry.1 ∈ row.names then row.load entries else none
    | _ => none
  deep := row.deep + 1
  tidy a room h := by
    rw [Json.Tidy, row.names_dump, Json.tidyEntries_iff]
    exact ⟨by omega, hnames, row.tidy a (room - 1) (by omega)⟩
  load_dump a := by
    have hknown : ∀ entry ∈ row.dump a, entry.1 ∈ row.names := fun entry hentry =>
      row.names_dump a ▸ List.mem_map_of_mem hentry
    have hnodup : ((row.dump a).map Prod.fst).Nodup := (row.names_dump a).symm ▸ hnames
    show (if _ then _ else _) = _
    rw [if_pos (.inr hknown)]
    exact row.load_dump a _ fun key v hmem => Association.lookup_of_mem hnodup hmem

end Row

end PythonJson

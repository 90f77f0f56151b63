import Kdive.Coordination.AdmissionChange
import Kdive.Seams.RoutingData

/-!
# A channel through JSON

A caller has its copy of a channel from JSON.  `modelDump` is what a channel is written
as, and `modelValidate` reads it.  The text in between is up to the JSON of the platform
(`JsonText`): a value that it carries comes back as it was.

*Equality*.  A copy is the channel itself, container by container (`modelValidate_dump`).
So it is equal to it as `_rebind` compares (`rebind_view`).
-/

namespace Kdive.RoutingData

open AdmissionService

/-! ## Channels -/

/-- A mapping that was frozen. -/
structure FrozenMapping where
  entries : List (PyKey × PyValue)
  /-- Freezing leaves it. -/
  frozen : deepFreeze (.mapping .proxy entries) = .ok (.mapping .proxy entries)

/-- The mapping as a value. -/
def FrozenMapping.value (mapping : FrozenMapping) : PyValue := .mapping .proxy mapping.entries

/-- `MappingProxyType({})` -/
def FrozenMapping.empty : FrozenMapping := ⟨[], rfl⟩

/-- `_freeze_routing_data` -/
def FrozenMapping.ofValue (value : PyValue) : Option FrozenMapping :=
  match h : deepFreeze value with
  | .ok (.mapping .proxy entries) => some ⟨entries, deepFreeze_frozen h⟩
  | _ => none

theorem FrozenMapping.ofValue_thaw (mapping : FrozenMapping) :
    ofValue (deepThaw mapping.value) = some mapping := by
  have hfreeze : deepFreeze (deepThaw mapping.value) = .ok (.mapping .proxy mapping.entries) :=
    deepFreeze_deepThaw mapping.frozen
  unfold ofValue
  split
  · rename_i entries h
    rw [hfreeze] at h
    cases h
    rfl
  · rename_i hnone
    exact absurd hfreeze (hnone _)

/-- `TransportRef`. -/
structure TransportRef where
  provider : String
  channelId : String
  lineRole : LineRole
  caps : List String
  targetRef : FrozenMapping
  opts : FrozenMapping
  secretRefs : List String

/-- The text of a role. -/
def lineRoleValue : LineRole → String
  | .sharedConsole => "shared_console"
  | .dedicatedDebug => "dedicated_debug"
  | .rsp => "rsp"

/-- The role of a text. -/
def lineRoleOf (text : String) : Option LineRole :=
  [LineRole.sharedConsole, .dedicatedDebug, .rsp].find? fun role => lineRoleValue role = text

theorem lineRoleOf_value (role : LineRole) : lineRoleOf (lineRoleValue role) = some role := by
  cases role <;> decide

/-! ## Writing and reading -/

/-- A list of strings. -/
def texts (items : List String) : PyValue := .sequence .list (items.map .str)

/-- `ref.model_dump(mode="json")`, with the field serializer of the routing data. -/
def TransportRef.modelDump (ref : TransportRef) : PyValue :=
  .mapping .dict [(.str "provider", .str ref.provider), (.str "channel_id", .str ref.channelId),
    (.str "line_role", .str (lineRoleValue ref.lineRole)), (.str "caps", texts ref.caps),
    (.str "target_ref", deepThaw ref.targetRef.value), (.str "opts", deepThaw ref.opts.value),
    (.str "secret_refs", texts ref.secretRefs)]

/-- A string. -/
def text? : PyValue → Option String
  | .str text => some text
  | _ => none

/-- The strings of an array. -/
def texts? : PyValue → Option (List String)
  | .sequence _ items => items.mapM text?
  | _ => none

/-- The fields of a `TransportRef`. -/
def fieldNames : List String :=
  ["provider", "channel_id", "line_role", "caps", "target_ref", "opts", "secret_refs"]

/-- A field that has a default. -/
def orDefault {α : Type} (value : Option PyValue) (default : α) (read : PyValue → Option α) :
    Option α :=
  match value with
  | some value => read value
  | none => some default

/-- `TransportRef.model_validate`. -/
def modelValidate : PyValue → Option TransportRef
  | .mapping _ entries =>
      if ∀ entry ∈ entries, ∃ name ∈ fieldNames, entry.1 = .str name then do
        let provider ← (entries.lookup (.str "provider")).bind text?
        let channelId ← (entries.lookup (.str "channel_id")).bind text?
        let lineRole ← ((entries.lookup (.str "line_role")).bind text?).bind lineRoleOf
        let caps ← orDefault (entries.lookup (.str "caps")) [] texts?
        let targetRef ← orDefault (entries.lookup (.str "target_ref")) .empty FrozenMapping.ofValue
        let opts ← orDefault (entries.lookup (.str "opts")) .empty FrozenMapping.ofValue
        let secretRefs ← orDefault (entries.lookup (.str "secret_refs")) [] texts?
        return ⟨provider, channelId, lineRole, caps, targetRef, opts, secretRefs⟩
      else none
  | _ => none

theorem texts?_texts (items : List String) : texts? (texts items) = some items := by
  show (items.map PyValue.str).mapM text? = some items
  induction items with
  | nil => rfl
  | cons item items ih =>
      rw [List.map_cons, List.mapM_cons, ih]
      rfl

theorem str_beq (s t : String) : (PyKey.str s == PyKey.str t) = (s == t) := by
  rw [Bool.eq_iff_iff, beq_iff_eq, beq_iff_eq, PyKey.str.injEq]

/-- A channel is read back as it was. -/
theorem modelValidate_dump (ref : TransportRef) : modelValidate ref.modelDump = some ref := by
  have hfields : ∀ entry ∈ [(PyKey.str "provider", PyValue.str ref.provider),
      (.str "channel_id", .str ref.channelId),
      (.str "line_role", .str (lineRoleValue ref.lineRole)), (.str "caps", texts ref.caps),
      (.str "target_ref", deepThaw ref.targetRef.value), (.str "opts", deepThaw ref.opts.value),
      (.str "secret_refs", texts ref.secretRefs)], ∃ name ∈ fieldNames, entry.1 = .str name := by
    simp [fieldNames]
  rw [TransportRef.modelDump, modelValidate, if_pos hfields]
  simp [List.lookup_cons, str_beq, orDefault, text?, lineRoleOf_value, texts?_texts,
    FrozenMapping.ofValue_thaw]

/-- JSON text: what a value is written as, and what a text is read as. -/
structure JsonText where
  dumps : PyValue → Option String
  loads : String → Option PyValue

/-- The value comes back from its text as it was. -/
def JsonText.Carries (json : JsonText) (value : PyValue) : Prop :=
  (json.dumps value).bind json.loads = some value

/-- `model_validate_json(model_dump_json())` -/
def JsonText.copy (json : JsonText) (ref : TransportRef) : Option TransportRef :=
  ((json.dumps ref.modelDump).bind json.loads).bind modelValidate

theorem JsonText.copy_eq {json : JsonText} {ref : TransportRef}
    (h : json.Carries ref.modelDump) : json.copy ref = some ref := by
  rw [copy, h, Option.bind_some, modelValidate_dump]

/-! ## Rebinding -/

mutual

/-- The value as a snapshot compares it. -/
def routing : PyValue → Routing
  | .none => .null
  | .bool b => .bool b
  | .int n => .int n
  | .float bits => .float ((Dumps.floatValue bits).getD 0)
  | .str text => .str text
  | .mapping _ entries => .map (routingEntries entries)
  | .sequence _ items => .seq (routingItems items)

/-- The entries of a mapping under string keys. -/
def routingEntries : List (PyKey × PyValue) → List (String × Routing)
  | [] => []
  | (.str key, item) :: entries => (key, routing item) :: routingEntries entries
  | (.other _ _, _) :: entries => routingEntries entries

/-- The items of a sequence. -/
def routingItems : List PyValue → List Routing
  | [] => []
  | item :: items => routing item :: routingItems items

end

theorem lookup_routingEntries {key : String} : ∀ entries : List (PyKey × PyValue),
    (routingEntries entries).lookup key = (entries.lookup (.str key)).map routing
  | [] => rfl
  | (.str key', item) :: entries => by
      rw [routingEntries, List.lookup_cons, List.lookup_cons, str_beq,
        lookup_routingEntries entries]
      cases key == key' <;> rfl
  | (.other _ _, item) :: entries => by
      rw [routingEntries, List.lookup_cons, lookup_routingEntries entries]
      rfl

mutual

/-- Routing data equals itself. -/
theorem eq_routing : ∀ {value}, Proper value → Routing.eq (routing value) (routing value) = true
  | .none, _ => rfl
  | .bool _, _ | .int _, _ | .float _, _ => by simp [routing, Routing.eq, Routing.number?]
  | .str _, _ => by simp [routing, Routing.eq]
  | .sequence _ items, h => by
      rw [Proper] at h
      rw [routing, Routing.eq]
      exact eqSeq_routing h
  | .mapping _ entries, h => by
      rw [Proper] at h
      refine Routing.eq_map.mpr ⟨rfl, eqMap_routing h.2 fun key item hmem => ?_⟩
      exact Association.lookup_of_mem h.1 hmem

theorem eqMap_routing {all : List (PyKey × PyValue)} : ∀ {entries}, ProperEntries entries →
    (∀ key item, (key, item) ∈ entries → all.lookup key = some item) →
      Routing.eqMap (routingEntries entries) (routingEntries all) = true
  | [], _, _ => rfl
  | (.other _ _, _) :: entries, ⟨_, hentries⟩, hlookup => by
      rw [routingEntries]
      exact eqMap_routing hentries fun key item hmem =>
        hlookup key item (List.mem_cons_of_mem _ hmem)
  | (.str key, item) :: entries, ⟨hitem, hentries⟩, hlookup => by
      have hrest : Routing.eqMap (routingEntries entries) (routingEntries all) = true :=
        eqMap_routing hentries fun key' item' hmem =>
          hlookup key' item' (List.mem_cons_of_mem _ hmem)
      rw [routingEntries, Routing.eqMap, lookup_routingEntries,
        hlookup _ _ List.mem_cons_self, hrest, Bool.and_true]
      exact eq_routing hitem

theorem eqSeq_routing : ∀ {items}, ProperItems items →
    Routing.eqSeq (routingItems items) (routingItems items) = true
  | [], _ => rfl
  | _ :: _, ⟨hitem, hitems⟩ => by
      rw [routingItems, Routing.eqSeq, eq_routing hitem, eqSeq_routing hitems]
      rfl

end

/-- The channel as admission has it. -/
def TransportRef.view (ref : TransportRef) : Kdive.TransportRef where
  provider := ref.provider
  channelId := ref.channelId
  lineRole := ref.lineRole
  caps := ref.caps
  targetRef := routingEntries ref.targetRef.entries
  opts := routingEntries ref.opts.entries
  secretRefs := ref.secretRefs

/-- The channel is bound to itself in a snapshot that offers it. -/
theorem rebind_view {ref : TransportRef} {snapshot : TargetSnapshot}
    (hproper : Proper ref.targetRef.value)
    (hoffered : snapshot.transports.find? (fun offered => SameChannel offered ref.view) =
      some ref.view) :
    rebind ref.view snapshot = .ok ref.view :=
  rebind_eq_ok.mpr ⟨hoffered, eq_routing hproper, rfl, rfl⟩

/-- Frozen data equals itself. -/
theorem pyEq_frozen {value frozen : PyValue} (h : deepFreeze value = .ok frozen)
    (hproper : Proper value) : pyEq frozen frozen = true := by
  obtain ⟨hclean, rfl⟩ := deepFreeze_eq_ok.mp h
  exact pyEq_rebuild hproper hclean

/-- A value with a tuple in a list. -/
def nested : PyValue :=
  .mapping .dict [(.str "baud", .int 115200),
    (.str "ports", .sequence .list [.sequence .tuple [.int 1234, .none], .bool true])]

/-- A channel with an endpoint. -/
def stubChannel : TransportRef where
  provider := "local-qemu"
  channelId := "rsp0"
  lineRole := .rsp
  caps := ["rsp"]
  targetRef := ⟨[(.str "host", .str "127.0.0.1"), (.str "ports", .sequence .tuple [.int 1234])],
    rfl⟩
  opts := .empty
  secretRefs := []

/-- JSON as it writes and reads that channel. -/
def stubJson : JsonText where
  dumps _ := some ("\x7b\"provider\":\"local-qemu\",\"channel_id\":\"rsp0\",\"line_role\":\"rsp\"," ++
    "\"caps\":[\"rsp\"],\"target_ref\":\x7b\"host\":\"127.0.0.1\",\"ports\":[1234]\x7d," ++
    "\"opts\":\x7b\x7d,\"secret_refs\":[]\x7d")
  loads _ := some stubChannel.modelDump

end Kdive.RoutingData

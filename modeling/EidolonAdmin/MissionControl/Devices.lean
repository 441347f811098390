import EidolonAdmin.MissionControl.OwnerRuntime

/-! # The devices lane: who is present, joined with who exists

`_merge_devices` composes the bodies that some source observed, the projection turns them
into the lane's rows, and `join_owner_devices` adds the Owner's inventory to them.
-/

namespace EidolonAdmin.MissionControl

open Foundation

/-! ## The bodies that were observed -/

structure DataDevice where
  deviceId : String
  name : String := ""
  kind : String := ""
  lastSeenAt : Option Instant := none
  boundCompanionId : Option String := none
  deriving DecidableEq, Repr

structure HubDevice where
  deviceId : String
  ownerId : Option String := none
  name : String := ""
  kind : String := ""
  status : String := ""
  lastSeen : Option Instant := none
  deriving DecidableEq, Repr

/-- `isOnline` is the lease-aware verdict, `capabilities` are the names of the capabilities. -/
structure RuntimeDeviceEntry where
  deviceId : String
  name : String := ""
  isOnline : Bool := false
  lastSeenAt : Option Instant := none
  capabilities : List String := []
  providerCompanionId : Option String := none
  deriving DecidableEq, Repr

structure Companion where
  companionId : String
  kind : String := ""
  deriving DecidableEq, Repr

/-- What `_merge_devices` is given. `runtime` is absent when the blackboard is not available
or has no snapshot; `channel` says whether a body is on its channel, if the channel knows. -/
structure DeviceSources where
  data : List DataDevice := []
  hub : List HubDevice := []
  runtime : Option (List RuntimeDeviceEntry) := none
  ownerId : String
  companions : List Companion := []
  guardDeviceIds : List String := []
  channel : List (String × Option Bool) := []

structure DeviceParts where
  data : Option DataDevice := none
  hub : Option HubDevice := none
  runtime : Option RuntimeDeviceEntry := none
  deriving DecidableEq, Repr

section Merge

variable (py : Python)

def withData (row : DataDevice) (_ : Option DeviceParts) : DeviceParts := { data := some row }

def withRuntime (row : RuntimeDeviceEntry) (parts : Option DeviceParts) : DeviceParts :=
  { parts.getD {} with runtime := some row }

def withHub (row : HubDevice) (parts : Option DeviceParts) : DeviceParts :=
  { parts.getD {} with hub := some row }

/-- `by_id.setdefault(device_id, ...)` -/
def seed (_ : String) (parts : Option DeviceParts) : DeviceParts := parts.getD {}

/-- A row of Hub's global list joins when its body is known already or is this owner's. -/
def joinHub (ownerId : String) (byId : List (String × DeviceParts)) (row : HubDevice) :
    List (String × DeviceParts) :=
  if (Dict.get byId row.deviceId).isNone ∧ row.ownerId ≠ some ownerId then byId
  else Dict.set byId row.deviceId (withHub row (Dict.get byId row.deviceId))

/-- The bodies that Data, the channel and the blackboard name. -/
def DeviceSources.ownById (sources : DeviceSources) : List (String × DeviceParts) :=
  let fromData := Dict.upsertAll DataDevice.deviceId withData [] sources.data
  let fromChannel := Dict.upsertAll id seed fromData (sources.channel.map Prod.fst)
  Dict.upsertAll RuntimeDeviceEntry.deviceId withRuntime fromChannel (sources.runtime.getD [])

def DeviceSources.byId (sources : DeviceSources) : List (String × DeviceParts) :=
  sources.hub.foldl (joinHub sources.ownerId) sources.ownById

/-- The status, whether it is online, and who said so. `onChannel` is absent when the
channel was not asked about this body. -/
def devicePresence (runtime : Option RuntimeDeviceEntry) (hub : Option HubDevice)
    (onChannel : Option (Option Bool)) : String × Bool × String :=
  match runtime, onChannel, hub with
  | some entry, _, _ =>
    (if entry.isOnline then "online" else "offline", entry.isOnline, "runtime_blackboard")
  | none, some (some true), _ => ("online", true, "channel")
  | none, some (some false), _ => ("offline", false, "channel")
  | none, some none, _ => ("unknown", false, "channel")
  | none, none, some row =>
    let said := py.lower (py.strip row.status)
    let status := if said ∈ ["online", "degraded", "offline", "unknown"] then said else "offline"
    (status, status = "online", "hub")
  | none, none, none => ("offline", false, "data")

def isGuardCompanion (companion : Option Companion) : Bool :=
  companion.any fun companion => companion.kind = "guard"

def deviceRole (boundCompanion : Option Companion) (isGuard : Bool) : String × String :=
  if isGuard then ("守护哨兵", "guard")
  else if boundCompanion.isSome then ("对话身体", "persona")
  else ("未绑定", "unbound")

def mergedDevice (sources : DeviceSources) (deviceId : String) (parts : DeviceParts) : RuntimeDevice :=
  let name := fun (runtime data hub : String) => orText runtime (orText data (orText hub deviceId))
  let presence := devicePresence py parts.runtime parts.hub (Dict.get sources.channel deviceId)
  let companionId :=
    (filled (parts.runtime.bind RuntimeDeviceEntry.providerCompanionId)).or
      (parts.data.bind DataDevice.boundCompanionId)
  let bound := (filled companionId).bind fun id =>
    Dict.get (Dict.index Companion.companionId
      (sources.companions.filter fun companion => companion.companionId ≠ "")) id
  let role := deviceRole bound (deviceId ∈ sources.guardDeviceIds ∨ isGuardCompanion bound)
  { deviceId
    name := name (parts.runtime.elim "" RuntimeDeviceEntry.name) (parts.data.elim "" DataDevice.name)
      (parts.hub.elim "" HubDevice.name)
    role := role.1
    roleKind := role.2
    kind := orText (parts.data.elim "" DataDevice.kind)
      (orText (parts.hub.elim "" HubDevice.kind) "unknown")
    status := presence.1
    online := presence.2.1
    companionId
    lastSeenAt := ((parts.runtime.bind RuntimeDeviceEntry.lastSeenAt).or
      (parts.hub.bind HubDevice.lastSeen)).or (parts.data.bind DataDevice.lastSeenAt)
    capabilities :=
      if presence.2.1 then
        (parts.runtime.elim [] RuntimeDeviceEntry.capabilities).insertionSort fun a b => a ≤ b
      else []
    presenceSource := presence.2.2 }

/-- The order of the sort key `(not online, role_kind, device_id)`. -/
def DevicePrecedes (a b : RuntimeDevice) : Prop :=
  (a.online ∧ ¬ b.online) ∨
    (a.online = b.online ∧ (a.roleKind < b.roleKind ∨
      (a.roleKind = b.roleKind ∧ a.deviceId ≤ b.deviceId)))

instance : DecidableRel DevicePrecedes := fun _ _ => inferInstanceAs (Decidable (_ ∨ _))

def mergeDevices (sources : DeviceSources) : List RuntimeDevice :=
  (sources.byId.map fun item => mergedDevice py sources item.1 item.2).insertionSort DevicePrecedes

end Merge

/-! ## The Owner's inventory -/

structure DeviceView where
  deviceId : String
  label : String := ""
  kind : String := ""
  answersAsCompanionId : Option String := none
  deriving DecidableEq, Repr

def roleAnswering : String × String := ("对话身体", "persona")

def roleUnbound : String × String := ("未绑定", "unbound")

/-- `_row` -/
def inventoryRow (device : DeviceView) : OwnerDevice :=
  let role := if (filled device.answersAsCompanionId).isSome then roleAnswering else roleUnbound
  { deviceId := device.deviceId
    displayName := orText device.label device.deviceId
    deviceKind := device.kind
    role := role.1
    roleKind := role.2
    companionId := device.answersAsCompanionId
    capabilities := []
    presence := { state := "unknown", source := "none", observedAt := none } }

/-- `_fill` -/
def fill (row : OwnerDevice) (device : DeviceView) : OwnerDevice :=
  let binds := (filled device.answersAsCompanionId).isSome ∧ (filled row.companionId).isNone
  let answers := binds ∧ row.roleKind ∈ ["", "unbound"]
  { row with
    displayName := if device.label ≠ "" ∧ row.displayName = "" then device.label else row.displayName
    deviceKind := if device.kind ≠ "" ∧ row.deviceKind = "" then device.kind else row.deviceKind
    companionId := if binds then device.answersAsCompanionId else row.companionId
    role := if answers then roleAnswering.1 else row.role
    roleKind := if answers then roleAnswering.2 else row.roleKind }

/-- The row that `by_id` keeps of an id, which is the last one, is filled in place. -/
def fillRow (device : DeviceView) : List OwnerDevice → List OwnerDevice
  | [] => []
  | row :: rest =>
    if row.deviceId = device.deviceId ∧ ¬ rest.any fun other => other.deviceId = device.deviceId then
      fill row device :: rest
    else row :: fillRow device rest

/-- One device of the inventory, with the ids the lane had before the join. -/
def joinDevice (known : List String) (rows : List OwnerDevice) (device : DeviceView) : List OwnerDevice :=
  if device.deviceId = "" then rows
  else if device.deviceId ∈ known then fillRow device rows
  else rows ++ [inventoryRow device]

def joinHealth (presenceReadable : Bool) (presenceDetail : String) (existenceReadable : Bool)
    (existenceDetail : String) (degraded : Bool) : LaneState × String :=
  let reasons := [if presenceReadable then "" else presenceDetail,
    if existenceReadable then "" else existenceDetail].filter fun text => text ≠ ""
  if ¬ presenceReadable ∧ ¬ existenceReadable then
    (.unavailable, orText ("；".intercalate reasons) "身体既读不到在场，也读不到清单")
  else if ¬ presenceReadable ∨ ¬ existenceReadable then
    (.degraded, orText ("；".intercalate reasons) "这条 lane 只读到了一半")
  else (if degraded then .degraded else .ok, presenceDetail)

section Join

variable {ℓ : Type}

def joinOwnerDevices (snapshot : OwnerRuntime ℓ) (devices : Option (List DeviceView)) (failure : String) :
    OwnerRuntime ℓ :=
  let lane := snapshot.devices
  let rows := (devices.getD []).foldl (joinDevice (lane.items.map OwnerDevice.deviceId)) lane.items
  let health := joinHealth (lane.state ≠ .unavailable) lane.detail devices.isSome failure
    (lane.state = .degraded)
  { snapshot with
    devices := { lane with
      state := health.1
      detail := health.2
      items := if health.1 ≠ .unavailable then rows else [] } }

end Join

/-! ## What was observed of one body -/

namespace DeviceSources

def dataRow (sources : DeviceSources) : String → Option DataDevice :=
  Dict.last DataDevice.deviceId sources.data

def hubRow (sources : DeviceSources) : String → Option HubDevice := Dict.last HubDevice.deviceId sources.hub

def runtimeRow (sources : DeviceSources) : String → Option RuntimeDeviceEntry :=
  Dict.last RuntimeDeviceEntry.deviceId (sources.runtime.getD [])

def Known (sources : DeviceSources) (deviceId : String) : Prop :=
  (∃ row ∈ sources.data, row.deviceId = deviceId) ∨ (∃ item ∈ sources.channel, item.1 = deviceId) ∨
    ∃ row ∈ sources.runtime.getD [], row.deviceId = deviceId

def Observed (sources : DeviceSources) (deviceId : String) : Prop :=
  sources.Known deviceId ∨ ∃ row ∈ sources.hub, row.deviceId = deviceId ∧ row.ownerId = some sources.ownerId

end DeviceSources

theorem nodup_foldl_joinHub {ownerId : String} {byId : List (String × DeviceParts)}
    (hUnique : (byId.map Prod.fst).Nodup) (rows : List HubDevice) :
    ((rows.foldl (joinHub ownerId) byId).map Prod.fst).Nodup := by
  induction rows using List.reverseRecOn with
  | nil => exact hUnique
  | append_singleton rows row ih =>
    rw [List.foldl_append, List.foldl_cons, List.foldl_nil, joinHub]
    split
    · exact ih
    · exact Dict.nodup_set ih _ _

theorem get_foldl_joinHub (ownerId : String) (byId : List (String × DeviceParts)) (rows : List HubDevice)
    (deviceId : String) :
    Dict.get (rows.foldl (joinHub ownerId) byId) deviceId =
      if (Dict.get byId deviceId).isSome ∨ ∃ row ∈ rows, row.deviceId = deviceId ∧ row.ownerId = some ownerId
      then some ((Dict.last HubDevice.deviceId rows deviceId).elim ((Dict.get byId deviceId).getD {})
        fun row => withHub row (Dict.get byId deviceId))
      else none := by
  induction rows using List.reverseRecOn with
  | nil => cases hGet : Dict.get byId deviceId <;> simp [hGet, Dict.last]
  | append_singleton rows row ih =>
    rw [List.foldl_append, List.foldl_cons, List.foldl_nil, joinHub]
    by_cases hRow : row.deviceId = deviceId
    · subst hRow
      have hLast : Dict.last HubDevice.deviceId (rows ++ [row]) row.deviceId = some row := by
        rw [Dict.last_append_singleton, if_pos rfl]
      rw [ih, hLast]
      by_cases hJoined : (Dict.get byId row.deviceId).isSome ∨
          ∃ other ∈ rows, other.deviceId = row.deviceId ∧ other.ownerId = some ownerId
      · have hJoined' : (Dict.get byId row.deviceId).isSome ∨ ∃ other ∈ rows ++ [row],
            other.deviceId = row.deviceId ∧ other.ownerId = some ownerId := by
          refine hJoined.imp_right ?_
          rintro ⟨other, hOther, hOwn⟩
          exact ⟨other, List.mem_append_left _ hOther, hOwn⟩
        rw [if_pos hJoined, if_neg (by simp), Dict.get_set, if_pos rfl, if_pos hJoined']
        cases Dict.last HubDevice.deviceId rows row.deviceId <;> rfl
      · have hNone : Dict.get byId row.deviceId = none := by
          simpa using (not_or.mp hJoined).1
        by_cases hOwn : row.ownerId = some ownerId
        · rw [if_neg hJoined, if_neg (by simp [hOwn]), Dict.get_set, if_pos rfl,
            if_pos (.inr ⟨row, by simp, rfl, hOwn⟩), hNone]
          rfl
        · rw [if_neg hJoined, if_pos ⟨rfl, hOwn⟩, ih, if_neg hJoined, if_neg]
          rintro (hSome | ⟨other, hOther, hSame, hOther'⟩)
          · exact hJoined (.inl hSome)
          · obtain hOther | rfl := List.mem_append.mp hOther |>.imp_right List.mem_singleton.mp
            · exact hJoined (.inr ⟨other, hOther, hSame, hOther'⟩)
            · exact hOwn hOther'
    · have hLast : Dict.last HubDevice.deviceId (rows ++ [row]) deviceId =
          Dict.last HubDevice.deviceId rows deviceId := by rw [Dict.last_append_singleton, if_neg hRow]
      have hOwners : (∃ other ∈ rows ++ [row], other.deviceId = deviceId ∧ other.ownerId = some ownerId) ↔
          ∃ other ∈ rows, other.deviceId = deviceId ∧ other.ownerId = some ownerId := by
        simp [or_and_right, exists_or, hRow]
      simp only [hOwners]
      rw [hLast, ← ih]
      split
      · rfl
      · rw [Dict.get_set, if_neg (Ne.symm hRow)]

theorem DeviceSources.nodup_byId (sources : DeviceSources) : (sources.byId.map Prod.fst).Nodup := by
  refine nodup_foldl_joinHub (Dict.nodup_upsertAll _ _ (Dict.nodup_upsertAll _ _ ?_ _) _) _
  refine Dict.nodup_upsertAll _ _ ?_ _
  exact List.nodup_nil

theorem DeviceSources.get_ownById (sources : DeviceSources) (deviceId : String) :
    (sources.Known deviceId →
      Dict.get sources.ownById deviceId =
        some ⟨sources.dataRow deviceId, none, sources.runtimeRow deviceId⟩) ∧
      (¬ sources.Known deviceId → Dict.get sources.ownById deviceId = none ∧
        sources.dataRow deviceId = none ∧ sources.runtimeRow deviceId = none) := by
  have hData : Dict.get (Dict.upsertAll DataDevice.deviceId withData [] sources.data) deviceId =
      (sources.dataRow deviceId).map fun row => { data := some row } := by
    rw [Dict.get_upsertAll _ _ (fun _ _ _ => rfl)]
    exact Option.or_none
  have hOwn : Dict.get sources.ownById deviceId = _ :=
    Dict.get_upsertAll RuntimeDeviceEntry.deviceId withRuntime (fun _ _ _ => rfl) _ _ deviceId
  rw [Dict.get_upsertAll _ _ (fun _ _ _ => rfl), hData] at hOwn
  have hKnown : sources.Known deviceId ↔ (sources.dataRow deviceId).isSome ∨
      (Dict.last id (sources.channel.map Prod.fst) deviceId).isSome ∨ (sources.runtimeRow deviceId).isSome := by
    unfold Known dataRow runtimeRow
    rw [Dict.isSome_last, Dict.isSome_last, Dict.isSome_last]
    simp
  rw [hKnown, hOwn]
  change (_ → ((sources.runtimeRow deviceId).map _).or _ = _) ∧
    (_ → ((sources.runtimeRow deviceId).map _).or _ = _ ∧ _)
  cases sources.dataRow deviceId <;> cases Dict.last id (sources.channel.map Prod.fst) deviceId <;>
    cases sources.runtimeRow deviceId <;> simp [withRuntime, seed]

/-- What is composed of a body: the last row of each source, if any of them observed it. -/
theorem DeviceSources.get_byId (sources : DeviceSources) (deviceId : String) :
    (sources.Observed deviceId →
      Dict.get sources.byId deviceId =
        some ⟨sources.dataRow deviceId, sources.hubRow deviceId, sources.runtimeRow deviceId⟩) ∧
      (¬ sources.Observed deviceId → Dict.get sources.byId deviceId = none) := by
  have hGet : Dict.get sources.byId deviceId = _ := get_foldl_joinHub _ sources.ownById _ deviceId
  obtain ⟨hKnown, hUnknown⟩ := sources.get_ownById deviceId
  rw [hGet]
  constructor
  · intro hObserved
    by_cases hOwn : sources.Known deviceId
    · rw [hKnown hOwn, if_pos (.inl rfl)]
      change some ((sources.hubRow deviceId).elim _ _) = _
      cases sources.hubRow deviceId <;> rfl
    · obtain ⟨hAbsent, hNoData, hNoRuntime⟩ := hUnknown hOwn
      rw [if_pos (.inr (hObserved.resolve_left hOwn)), hAbsent, hNoData, hNoRuntime]
      change some ((sources.hubRow deviceId).elim _ _) = _
      cases sources.hubRow deviceId <;> rfl
  · intro hNot
    obtain ⟨hNotKnown, hNotHub⟩ := not_or.mp hNot
    rw [if_neg]
    rintro (hSome | hHub)
    · rw [(hUnknown hNotKnown).1] at hSome
      exact absurd hSome (by simp)
    · exact hNotHub hHub

section Merged

variable (py : Python) (sources : DeviceSources)

theorem mergeDevices_perm :
    (mergeDevices py sources).Perm (sources.byId.map fun item => mergedDevice py sources item.1 item.2) :=
  List.perm_insertionSort _ _

theorem mergeDevices_ids :
    ((mergeDevices py sources).map RuntimeDevice.deviceId).Perm (sources.byId.map Prod.fst) := by
  have hIds := (mergeDevices_perm py sources).map RuntimeDevice.deviceId
  rwa [List.map_map] at hIds

theorem nodup_mergeDevices : ((mergeDevices py sources).map RuntimeDevice.deviceId).Nodup :=
  (mergeDevices_ids py sources).nodup_iff.mpr sources.nodup_byId

theorem mem_ids_mergeDevices {deviceId : String} :
    deviceId ∈ (mergeDevices py sources).map RuntimeDevice.deviceId ↔ sources.Observed deviceId := by
  rw [(mergeDevices_ids py sources).mem_iff]
  obtain ⟨hObserved, hUnobserved⟩ := sources.get_byId deviceId
  constructor
  · intro hMem
    by_contra hNot
    obtain ⟨item, hItem, hKey⟩ := List.mem_map.mp hMem
    exact Dict.get_eq_none_iff.mp (hUnobserved hNot) item hItem hKey
  · intro h
    exact List.mem_map_of_mem (Dict.get_mem (hObserved h))

/-- The bodies that the lane carries: the first of those observed, in the order of the merge. -/
def DeviceSources.carried : List String :=
  ((mergeDevices py sources).take 64).map RuntimeDevice.deviceId

theorem mem_carried_iff (hShort : (mergeDevices py sources).length ≤ 64) {deviceId : String} :
    deviceId ∈ sources.carried py ↔ sources.Observed deviceId := by
  rw [DeviceSources.carried, List.take_of_length_le hShort, mem_ids_mergeDevices]

theorem observed_of_mem_carried {deviceId : String} (h : deviceId ∈ sources.carried py) :
    sources.Observed deviceId :=
  (mem_ids_mergeDevices py sources).mp (((List.take_sublist 64 _).map _).subset h)

def DeviceSources.row (deviceId : String) : RuntimeDevice :=
  mergedDevice py sources deviceId
    ⟨sources.dataRow deviceId, sources.hubRow deviceId, sources.runtimeRow deviceId⟩

theorem row_mem_mergeDevices {deviceId : String} (h : sources.Observed deviceId) :
    sources.row py deviceId ∈ mergeDevices py sources := by
  rw [(mergeDevices_perm py sources).mem_iff]
  exact List.mem_map_of_mem (f := fun item => mergedDevice py sources item.1 item.2)
    (Dict.get_mem ((sources.get_byId deviceId).1 h))

theorem row_mem_take {deviceId : String} (h : deviceId ∈ sources.carried py) :
    sources.row py deviceId ∈ (mergeDevices py sources).take 64 := by
  obtain ⟨device, hDevice, rfl⟩ := List.mem_map.mp h
  have hRow := row_mem_mergeDevices py sources (observed_of_mem_carried py sources h)
  have hSame : device = sources.row py device.deviceId :=
    List.inj_on_of_nodup_map (nodup_mergeDevices py sources) ((List.take_subset 64 _) hDevice) hRow rfl
  rwa [← hSame]

end Merged

/-! ## What the join keeps -/

/-- A row that kept its body, its presence, and any name and kind it had. -/
structure Kept (row row' : OwnerDevice) : Prop where
  deviceId : row'.deviceId = row.deviceId
  presence : row'.presence = row.presence
  displayName : row.displayName ≠ "" → row'.displayName = row.displayName
  deviceKind : row.deviceKind ≠ "" → row'.deviceKind = row.deviceKind

theorem Kept.refl (row : OwnerDevice) : Kept row row := ⟨rfl, rfl, fun _ => rfl, fun _ => rfl⟩

theorem Kept.trans {a b c : OwnerDevice} (h : Kept a b) (h' : Kept b c) : Kept a c where
  deviceId := h'.deviceId.trans h.deviceId
  presence := h'.presence.trans h.presence
  displayName hName := by
    have hSame := h.displayName hName
    exact (h'.displayName (hSame ▸ hName)).trans hSame
  deviceKind hKind := by
    have hSame := h.deviceKind hKind
    exact (h'.deviceKind (hSame ▸ hKind)).trans hSame

theorem kept_fill (row : OwnerDevice) (device : DeviceView) : Kept row (fill row device) where
  deviceId := rfl
  presence := rfl
  displayName hName := by simp [fill, hName]
  deviceKind hKind := by simp [fill, hKind]

theorem forall₂_kept_refl (rows : List OwnerDevice) : List.Forall₂ Kept rows rows := by
  induction rows with
  | nil => exact .nil
  | cons row rest ih => exact .cons (Kept.refl row) ih

theorem forall₂_kept_trans {a b c : List OwnerDevice} (h : List.Forall₂ Kept a b)
    (h' : List.Forall₂ Kept b c) : List.Forall₂ Kept a c := by
  induction h generalizing c with
  | nil => exact h'
  | cons hRow _ ih =>
    cases h' with
    | cons hRow' hRest => exact .cons (hRow.trans hRow') (ih hRest)

theorem fillRow_kept (device : DeviceView) (rows : List OwnerDevice) :
    List.Forall₂ Kept rows (fillRow device rows) := by
  induction rows with
  | nil => exact .nil
  | cons row rest ih =>
    unfold fillRow
    split
    · exact .cons (kept_fill row device) (forall₂_kept_refl rest)
    · exact .cons (Kept.refl row) ih

theorem fillRow_of_absent {device : DeviceView} {rows : List OwnerDevice}
    (h : ∀ row ∈ rows, row.deviceId ≠ device.deviceId) : fillRow device rows = rows := by
  induction rows with
  | nil => rfl
  | cons row rest ih =>
    rw [List.forall_mem_cons] at h
    rw [fillRow, if_neg fun hRow => h.1 hRow.1, ih h.2]

theorem fillRow_append {device : DeviceView} {tail : List OwnerDevice}
    (hTail : ∀ row ∈ tail, row.deviceId ≠ device.deviceId) (rows : List OwnerDevice) :
    fillRow device (rows ++ tail) = fillRow device rows ++ tail := by
  induction rows with
  | nil => exact fillRow_of_absent hTail
  | cons row rest ih =>
    have hAny : ((rest ++ tail).any fun other => other.deviceId = device.deviceId) =
        rest.any fun other => other.deviceId = device.deviceId := by
      rw [List.any_append, Bool.or_eq_left_iff_imp]
      intro hTrue
      obtain ⟨other, hOther, hSame⟩ := List.any_eq_true.mp hTrue
      exact absurd (of_decide_eq_true hSame) (hTail other hOther)
    rw [List.cons_append, fillRow, fillRow, hAny]
    split
    · rfl
    · rw [ih, List.cons_append]

def unseen (known : List String) (devices : List DeviceView) : List DeviceView :=
  devices.filter fun device => device.deviceId ≠ "" ∧ device.deviceId ∉ known

/-- The join keeps every row of the lane in its place and adds the unseen devices after them. -/
theorem joinDevice_run (rows : List OwnerDevice) (devices : List DeviceView) :
    ∃ kept, List.Forall₂ Kept rows kept ∧
      devices.foldl (joinDevice (rows.map OwnerDevice.deviceId)) rows =
        kept ++ (unseen (rows.map OwnerDevice.deviceId) devices).map inventoryRow := by
  induction devices using List.reverseRecOn with
  | nil => exact ⟨rows, forall₂_kept_refl rows, (List.append_nil rows).symm⟩
  | append_singleton devices device ih =>
    obtain ⟨kept, hKept, hJoined⟩ := ih
    rw [List.foldl_append, List.foldl_cons, List.foldl_nil, hJoined]
    have hUnseen : unseen (rows.map OwnerDevice.deviceId) (devices ++ [device]) =
        unseen (rows.map OwnerDevice.deviceId) devices ++
          if device.deviceId ≠ "" ∧ device.deviceId ∉ rows.map OwnerDevice.deviceId then [device] else [] := by
      unfold unseen
      rw [List.filter_append, List.filter_singleton, Bool.cond_decide]
    rw [hUnseen]
    unfold joinDevice
    by_cases hEmpty : device.deviceId = ""
    · exact ⟨kept, hKept, by simp [hEmpty]⟩
    by_cases hKnown : device.deviceId ∈ rows.map OwnerDevice.deviceId
    · refine ⟨fillRow device kept, forall₂_kept_trans hKept (fillRow_kept device kept), ?_⟩
      rw [if_neg hEmpty, if_pos hKnown, if_neg (fun h => h.2 hKnown), List.append_nil, fillRow_append]
      intro row hRow hSame
      obtain ⟨other, hOther, rfl⟩ := List.mem_map.mp hRow
      have hNotKnown := (of_decide_eq_true (List.mem_filter.mp hOther).2).2
      have hSameId : other.deviceId = device.deviceId := hSame
      exact hNotKnown (hSameId ▸ hKnown)
    · refine ⟨kept, hKept, ?_⟩
      rw [if_neg hEmpty, if_neg hKnown, if_pos ⟨hEmpty, hKnown⟩, List.append_assoc, List.map_append]
      rfl

/-! ## The joined lane -/

/-- What the code relies on in the SDK's vocabulary. -/
structure Contract.AdmitsPresence (contract : Contract) : Prop where
  sources : ∀ source ∈ ["runtime_blackboard", "channel", "hub"],
    source ∈ contract.presenceSources ∧ source ≠ contract.presenceSourceNone
  states : ∀ state ∈ ["online", "degraded", "offline", "unknown"], state ∈ contract.presenceStates

def runtimeSays (entry : RuntimeDeviceEntry) : String × String :=
  (if entry.isOnline then "online" else "offline", "runtime_blackboard")

def channelSays (onChannel : Option Bool) : String × String :=
  (onChannel.elim "unknown" fun online => if online then "online" else "offline", "channel")

def hubSays (py : Python) (row : HubDevice) : String × String :=
  let said := py.lower (py.strip row.status)
  (if said ∈ ["online", "degraded", "offline", "unknown"] then said else "offline", "hub")

/-- The presence that the first of the blackboard, the channel and Hub said, with who it was. -/
def DeviceSources.firstAnswer (py : Python) (sources : DeviceSources) (deviceId : String) :
    Option (String × String) :=
  ((sources.runtimeRow deviceId).map runtimeSays).or
    (((Dict.get sources.channel deviceId).map channelSays).or
      ((sources.hubRow deviceId).map (hubSays py)))

def DeviceSources.suppliedName (sources : DeviceSources) (deviceId : String) : String :=
  orText ((sources.runtimeRow deviceId).elim "" RuntimeDeviceEntry.name)
    (orText ((sources.dataRow deviceId).elim "" DataDevice.name)
      ((sources.hubRow deviceId).elim "" HubDevice.name))

def DeviceSources.suppliedKind (sources : DeviceSources) (deviceId : String) : String :=
  orText ((sources.dataRow deviceId).elim "" DataDevice.kind)
    ((sources.hubRow deviceId).elim "" HubDevice.kind)

theorem orText_assoc (first second third : String) :
    orText (orText first second) third = orText first (orText second third) := by
  unfold orText
  split_ifs <;> rfl

section Joined

variable {ℓ : Type} (py : Python) (contract : Contract)

theorem devicePresence_of_answer {py : Python} {runtime : Option RuntimeDeviceEntry} {hub : Option HubDevice}
    {onChannel : Option (Option Bool)} {answer : String × String}
    (h : (runtime.map runtimeSays).or ((onChannel.map channelSays).or (hub.map (hubSays py))) = some answer) :
    (devicePresence py runtime hub onChannel).1 = answer.1 ∧
      (devicePresence py runtime hub onChannel).2.2 = answer.2 ∧
      answer.1 ∈ ["online", "degraded", "offline", "unknown"] ∧
      answer.2 ∈ ["runtime_blackboard", "channel", "hub"] := by
  cases runtime with
  | some entry =>
    obtain rfl : runtimeSays entry = answer := by simpa using h
    cases hOnline : entry.isOnline <;> simp [devicePresence, runtimeSays, hOnline]
  | none =>
    cases onChannel with
    | some on =>
      obtain rfl : channelSays on = answer := by simpa using h
      obtain _ | _ | _ := on <;> simp [devicePresence, channelSays]
    | none =>
      cases hub with
      | some row =>
        obtain rfl : hubSays py row = answer := by simpa using h
        refine ⟨rfl, rfl, ?_, by simp [hubSays]⟩
        unfold hubSays
        dsimp only
        split
        · assumption
        · simp
      | none => simp at h

theorem ownerDevice_presence {contract : Contract} (hContract : contract.AdmitsPresence)
    {sources : DeviceSources} {deviceId : String} {answer : String × String}
    (h : sources.firstAnswer py deviceId = some answer) :
    (ownerDevice contract (sources.row py deviceId)).presence.state = answer.1 ∧
      (ownerDevice contract (sources.row py deviceId)).presence.source = answer.2 := by
  obtain ⟨hState, hSource, hStates, hSources⟩ := devicePresence_of_answer h
  have hStatus : (sources.row py deviceId).status = answer.1 := hState
  have hSaid : (sources.row py deviceId).presenceSource = answer.2 := hSource
  obtain ⟨hAdmitted, hNotNone⟩ := hContract.sources _ hSources
  have hFilled : answer.2 ≠ "" := by
    rintro hBlank
    rw [hBlank] at hSources
    exact absurd hSources (by decide)
  unfold ownerDevice
  dsimp only
  rw [hSaid, hStatus, orText, if_neg hFilled, if_pos hAdmitted, if_neg hNotNone,
    if_pos (hContract.states _ hStates)]
  exact ⟨rfl, rfl⟩

theorem displayName_of_supplied {sources : DeviceSources} {deviceId : String}
    (h : sources.suppliedName deviceId ≠ "") :
    (ownerDevice contract (sources.row py deviceId)).displayName = sources.suppliedName deviceId := by
  have hName : (ownerDevice contract (sources.row py deviceId)).displayName =
      orText (sources.suppliedName deviceId) deviceId := by
    unfold DeviceSources.suppliedName
    rw [orText_assoc, orText_assoc]
    rfl
  rw [hName, orText, if_neg h]

theorem deviceKind_of_supplied {sources : DeviceSources} {deviceId : String}
    (h : sources.suppliedKind deviceId ≠ "") :
    (ownerDevice contract (sources.row py deviceId)).deviceKind = sources.suppliedKind deviceId := by
  have hKind : (ownerDevice contract (sources.row py deviceId)).deviceKind =
      orText (sources.suppliedKind deviceId) "unknown" := by
    unfold DeviceSources.suppliedKind
    rw [orText_assoc]
    rfl
  rw [hKind, orText, if_neg h]

/-- The devices lane that the Owner is shown, of a composition of these sources. -/
def joinedLane [LinearOrder ℓ] (sources : DeviceSources) (snapshot : RuntimeSnapshot ℓ) (ledger : LaneLedger ℓ)
    (auditEvents : Option (List (Audit.IndexedAuditEvent EventContent)))
    (devices : Option (List DeviceView)) (failure : String) : ItemsLane ℓ OwnerDevice :=
  (joinOwnerDevices
    (ownerRuntimeProjection py contract ⟨{ snapshot with devices := mergeDevices py sources }, ledger⟩
      auditEvents) devices failure).devices

def observedRows (sources : DeviceSources) (outcome : LaneOutcome ℓ) : List OwnerDevice :=
  (itemsLane outcome ((mergeDevices py sources).map (ownerDevice contract)) .devices).items

theorem observedRows_of_readable (sources : DeviceSources) {outcome : LaneOutcome ℓ}
    (h : outcome.state ≠ .unavailable) :
    observedRows py contract sources outcome =
      ((mergeDevices py sources).take 64).map (ownerDevice contract) := by
  have hReadable : ¬ outcome.readable = false := by simpa [LaneOutcome.readable] using h
  rw [observedRows, itemsLane, if_neg hReadable]
  simp only [laneLimit]
  split
  · exact (List.map_take).symm
  · rename_i hShort
    rw [List.length_map] at hShort
    rw [List.take_of_length_le (by omega)]

theorem observedRows_of_unavailable (sources : DeviceSources) {outcome : LaneOutcome ℓ}
    (h : outcome.state = .unavailable) : observedRows py contract sources outcome = [] := by
  have hReadable : outcome.readable = false := by simpa [LaneOutcome.readable] using h
  rw [observedRows, itemsLane, if_pos hReadable]

theorem observedRows_ids (sources : DeviceSources) {outcome : LaneOutcome ℓ}
    (h : outcome.state ≠ .unavailable) :
    (observedRows py contract sources outcome).map OwnerDevice.deviceId = sources.carried py := by
  rw [observedRows_of_readable py contract sources h, List.map_map]
  rfl

theorem nodup_observedRows (sources : DeviceSources) (outcome : LaneOutcome ℓ) :
    ((observedRows py contract sources outcome).map OwnerDevice.deviceId).Nodup := by
  by_cases h : outcome.state = .unavailable
  · rw [observedRows_of_unavailable py contract sources h]
    exact List.nodup_nil
  · rw [observedRows_ids py contract sources h]
    exact (nodup_mergeDevices py sources).sublist ((List.take_sublist 64 _).map _)

theorem joinOwnerDevices_items {runtime : OwnerRuntime ℓ} {devices : Option (List DeviceView)}
    {failure : String} (h : (joinOwnerDevices runtime devices failure).devices.state ≠ .unavailable) :
    (joinOwnerDevices runtime devices failure).devices.items =
      (devices.getD []).foldl (joinDevice (runtime.devices.items.map OwnerDevice.deviceId))
        runtime.devices.items := by
  unfold joinOwnerDevices at h ⊢
  dsimp only at h ⊢
  rw [if_pos h]

end Joined

theorem map_deviceId_of_kept {rows rows' : List OwnerDevice} (h : List.Forall₂ Kept rows rows') :
    rows'.map OwnerDevice.deviceId = rows.map OwnerDevice.deviceId := by
  induction h with
  | nil => rfl
  | cons hRow _ ih => rw [List.map_cons, List.map_cons, ih, hRow.deviceId]

theorem exists_kept {rows rows' : List OwnerDevice} (h : List.Forall₂ Kept rows rows') {row : OwnerDevice}
    (hRow : row ∈ rows) : ∃ row' ∈ rows', Kept row row' := by
  induction h with
  | nil => exact absurd hRow List.not_mem_nil
  | @cons first first' rest rest' hFirst _ ih =>
    obtain rfl | hRest := List.mem_cons.mp hRow
    · exact ⟨first', List.mem_cons_self, hFirst⟩
    · obtain ⟨row', hRow', hKept⟩ := ih hRest
      exact ⟨row', List.mem_cons_of_mem _ hRow', hKept⟩

theorem mem_unseen_ids {known : List String} {devices : List DeviceView} {deviceId : String} :
    deviceId ∈ (unseen known devices).map DeviceView.deviceId ↔
      deviceId ≠ "" ∧ deviceId ∉ known ∧ deviceId ∈ devices.map DeviceView.deviceId := by
  simp only [unseen, List.mem_map, List.mem_filter, decide_eq_true_eq]
  constructor
  · rintro ⟨device, ⟨hDevice, hUnseen⟩, rfl⟩
    exact ⟨hUnseen.1, hUnseen.2, device, hDevice, rfl⟩
  · rintro ⟨hFilled, hUnknown, device, hDevice, rfl⟩
    exact ⟨device, ⟨hDevice, hFilled, hUnknown⟩, rfl⟩

section JoinedLane

variable {ℓ : Type} [LinearOrder ℓ] (py : Python) (contract : Contract) (sources : DeviceSources)
  (snapshot : RuntimeSnapshot ℓ) (ledger : LaneLedger ℓ)
  (auditEvents : Option (List (Audit.IndexedAuditEvent EventContent)))
  (devices : Option (List DeviceView)) (failure : String)

theorem joinedLane_items
    (hLane : (joinedLane py contract sources snapshot ledger auditEvents devices failure).state ≠
      .unavailable) :
    ∃ kept, List.Forall₂ Kept
        (observedRows py contract sources (ledger.outcome .devices snapshot.generatedAt)) kept ∧
      (joinedLane py contract sources snapshot ledger auditEvents devices failure).items =
        kept ++ (unseen ((observedRows py contract sources
          (ledger.outcome .devices snapshot.generatedAt)).map OwnerDevice.deviceId)
          (devices.getD [])).map inventoryRow := by
  unfold joinedLane at hLane ⊢
  rw [joinOwnerDevices_items hLane]
  exact joinDevice_run _ _

theorem joinedLane_ids
    (hLane : (joinedLane py contract sources snapshot ledger auditEvents devices failure).state ≠
      .unavailable) :
    (joinedLane py contract sources snapshot ledger auditEvents devices failure).items.map
        OwnerDevice.deviceId =
      (observedRows py contract sources (ledger.outcome .devices snapshot.generatedAt)).map
          OwnerDevice.deviceId ++
        (unseen ((observedRows py contract sources (ledger.outcome .devices snapshot.generatedAt)).map
          OwnerDevice.deviceId) (devices.getD [])).map DeviceView.deviceId := by
  obtain ⟨kept, hKept, hItems⟩ :=
    joinedLane_items py contract sources snapshot ledger auditEvents devices failure hLane
  rw [hItems, List.map_append, map_deviceId_of_kept hKept, List.map_map]
  rfl

theorem nodup_joinedLane (hInventory : ((devices.getD []).map DeviceView.deviceId).Nodup)
    (hLane : (joinedLane py contract sources snapshot ledger auditEvents devices failure).state ≠
      .unavailable) :
    ((joinedLane py contract sources snapshot ledger auditEvents devices failure).items.map
      OwnerDevice.deviceId).Nodup := by
  rw [joinedLane_ids py contract sources snapshot ledger auditEvents devices failure hLane]
  refine List.nodup_append'.mpr ⟨nodup_observedRows py contract sources _, ?_, ?_⟩
  · exact hInventory.sublist (List.filter_sublist.map _)
  · intro deviceId hShown hUnseen
    exact (mem_unseen_ids.mp hUnseen).2.1 hShown

theorem mem_joinedLane_ids {deviceId : String}
    (hLane : (joinedLane py contract sources snapshot ledger auditEvents devices failure).state ≠
      .unavailable)
    (hReadable : (ledger.outcome .devices snapshot.generatedAt).state ≠ .unavailable) :
    deviceId ∈ (joinedLane py contract sources snapshot ledger auditEvents devices failure).items.map
        OwnerDevice.deviceId ↔
      deviceId ∈ sources.carried py ∨
        (deviceId ≠ "" ∧ deviceId ∈ (devices.getD []).map DeviceView.deviceId) := by
  rw [joinedLane_ids py contract sources snapshot ledger auditEvents devices failure hLane,
    List.mem_append, mem_unseen_ids, observedRows_ids py contract sources hReadable]
  tauto

theorem joinedLane_truncated
    (hReadable : (ledger.outcome .devices snapshot.generatedAt).state ≠ .unavailable)
    (hLong : 64 < (mergeDevices py sources).length) :
    (joinedLane py contract sources snapshot ledger auditEvents devices failure).truncated = true := by
  change (itemsLane (ledger.outcome .devices snapshot.generatedAt)
    ((mergeDevices py sources).map (ownerDevice contract)) .devices).truncated = true
  have hNot : ¬ (ledger.outcome .devices snapshot.generatedAt).readable = false := by
    simpa [LaneOutcome.readable] using hReadable
  rw [itemsLane, if_neg hNot]
  simp only [laneLimit, List.length_map]
  rw [if_pos hLong]

theorem exists_carried_row
    (hLane : (joinedLane py contract sources snapshot ledger auditEvents devices failure).state ≠
      .unavailable)
    (hReadable : (ledger.outcome .devices snapshot.generatedAt).state ≠ .unavailable) {deviceId : String}
    (hCarried : deviceId ∈ sources.carried py) :
    ∃ row ∈ (joinedLane py contract sources snapshot ledger auditEvents devices failure).items,
      Kept (ownerDevice contract (sources.row py deviceId)) row := by
  obtain ⟨kept, hKept, hItems⟩ :=
    joinedLane_items py contract sources snapshot ledger auditEvents devices failure hLane
  have hRow : ownerDevice contract (sources.row py deviceId) ∈
      observedRows py contract sources (ledger.outcome .devices snapshot.generatedAt) := by
    rw [observedRows_of_readable py contract sources hReadable]
    exact List.mem_map_of_mem (row_mem_take py sources hCarried)
  obtain ⟨row, hMem, hRowKept⟩ := exists_kept hKept hRow
  rw [hItems]
  exact ⟨row, List.mem_append_left _ hMem, hRowKept⟩

theorem inventoryRow_mem_joinedLane
    (hLane : (joinedLane py contract sources snapshot ledger auditEvents devices failure).state ≠
      .unavailable)
    (hReadable : (ledger.outcome .devices snapshot.generatedAt).state ≠ .unavailable)
    {device : DeviceView} (hDevice : device ∈ devices.getD []) (hFilled : device.deviceId ≠ "")
    (hUncarried : device.deviceId ∉ sources.carried py) :
    inventoryRow device ∈
      (joinedLane py contract sources snapshot ledger auditEvents devices failure).items := by
  obtain ⟨kept, hKept, hItems⟩ :=
    joinedLane_items py contract sources snapshot ledger auditEvents devices failure hLane
  have hUnseen : device ∈ unseen ((observedRows py contract sources
      (ledger.outcome .devices snapshot.generatedAt)).map OwnerDevice.deviceId) (devices.getD []) := by
    rw [observedRows_ids py contract sources hReadable]
    exact List.mem_filter.mpr ⟨hDevice, decide_eq_true ⟨hFilled, hUncarried⟩⟩
  rw [hItems]
  exact List.mem_append_right _ (List.mem_map_of_mem hUnseen)

/-- The devices lane joins what was observed with what exists: one row for each body, with
the presence that the first authority stated and `unknown` where none did. -/
theorem devices_lane_join (hContract : contract.AdmitsPresence)
    (hInventory : ((devices.getD []).map DeviceView.deviceId).Nodup)
    (hLane : (joinedLane py contract sources snapshot ledger auditEvents devices failure).state ≠
      .unavailable) :
    ((joinedLane py contract sources snapshot ledger auditEvents devices failure).items.map
        OwnerDevice.deviceId).Nodup ∧
      ((ledger.outcome .devices snapshot.generatedAt).state ≠ .unavailable →
        ((mergeDevices py sources).length ≤ 64 →
          ∀ deviceId, deviceId ∈ (joinedLane py contract sources snapshot ledger auditEvents devices
              failure).items.map OwnerDevice.deviceId ↔
            sources.Observed deviceId ∨
              (deviceId ≠ "" ∧ deviceId ∈ (devices.getD []).map DeviceView.deviceId)) ∧
          (64 < (mergeDevices py sources).length →
            (joinedLane py contract sources snapshot ledger auditEvents devices failure).truncated = true ∧
              ∀ deviceId, deviceId ∈ (joinedLane py contract sources snapshot ledger auditEvents devices
                  failure).items.map OwnerDevice.deviceId ↔
                deviceId ∈ sources.carried py ∨
                  (deviceId ≠ "" ∧ deviceId ∈ (devices.getD []).map DeviceView.deviceId)) ∧
          (∀ deviceId ∈ sources.carried py,
            ∃ row ∈ (joinedLane py contract sources snapshot ledger auditEvents devices failure).items,
              row.deviceId = deviceId ∧
              (∀ answer, sources.firstAnswer py deviceId = some answer →
                row.presence.state = answer.1 ∧ row.presence.source = answer.2) ∧
              (sources.suppliedName deviceId ≠ "" → row.displayName = sources.suppliedName deviceId) ∧
              (sources.suppliedKind deviceId ≠ "" → row.deviceKind = sources.suppliedKind deviceId)) ∧
          ((mergeDevices py sources).length ≤ 64 →
            ∀ deviceId, sources.Observed deviceId → deviceId ∈ sources.carried py) ∧
          ∀ device ∈ devices.getD [], device.deviceId ≠ "" → ¬ sources.Observed device.deviceId →
            ∃ row ∈ (joinedLane py contract sources snapshot ledger auditEvents devices failure).items,
              row.deviceId = device.deviceId ∧ row.presence = ⟨"unknown", "none", none⟩ ∧
              (device.label ≠ "" → row.displayName = device.label) ∧ row.deviceKind = device.kind) ∧
      ((ledger.outcome .devices snapshot.generatedAt).state = .unavailable →
        (joinedLane py contract sources snapshot ledger auditEvents devices failure).items =
          ((devices.getD []).filter fun device => device.deviceId ≠ "").map inventoryRow) := by
  refine ⟨nodup_joinedLane py contract sources snapshot ledger auditEvents devices failure hInventory hLane,
    fun hReadable => ⟨fun hShort deviceId => ?_, fun hLong => ⟨?_, fun deviceId => ?_⟩,
      fun deviceId hCarried => ?_, fun hShort deviceId => (mem_carried_iff py sources hShort).mpr, ?_⟩,
    fun hUnavailable => ?_⟩
  · rw [mem_joinedLane_ids py contract sources snapshot ledger auditEvents devices failure hLane hReadable,
      mem_carried_iff py sources hShort]
  · exact joinedLane_truncated py contract sources snapshot ledger auditEvents devices failure hReadable hLong
  · exact mem_joinedLane_ids py contract sources snapshot ledger auditEvents devices failure hLane hReadable
  · obtain ⟨row, hRow, hKept⟩ := exists_carried_row py contract sources snapshot ledger auditEvents
      devices failure hLane hReadable hCarried
    refine ⟨row, hRow, hKept.deviceId, fun answer hAnswer => ?_, fun hName => ?_, fun hKind => ?_⟩
    · rw [hKept.presence]
      exact ownerDevice_presence py hContract hAnswer
    · have hSupplied := displayName_of_supplied py contract hName
      rw [hKept.displayName (hSupplied ▸ hName), hSupplied]
    · have hSupplied := deviceKind_of_supplied py contract hKind
      rw [hKept.deviceKind (hSupplied ▸ hKind), hSupplied]
  · intro device hDevice hFilled hUnobserved
    have hUncarried : device.deviceId ∉ sources.carried py :=
      fun hCarried => hUnobserved (observed_of_mem_carried py sources hCarried)
    refine ⟨inventoryRow device, ?_, rfl, rfl, fun hLabel => if_neg hLabel, rfl⟩
    exact inventoryRow_mem_joinedLane py contract sources snapshot ledger auditEvents devices failure
      hLane hReadable hDevice hFilled hUncarried
  · obtain ⟨kept, hKept, hItems⟩ :=
      joinedLane_items py contract sources snapshot ledger auditEvents devices failure hLane
    rw [observedRows_of_unavailable py contract sources hUnavailable] at hKept hItems
    cases hKept
    rw [hItems]
    simp [unseen]

theorem joinedLane_state :
    (joinedLane py contract sources snapshot ledger auditEvents devices failure).state =
      (joinHealth ((ledger.outcome .devices snapshot.generatedAt).state ≠ .unavailable)
        (ledger.outcome .devices snapshot.generatedAt).detail devices.isSome failure
        ((ledger.outcome .devices snapshot.generatedAt).state = .degraded)).1 := by
  have hHead := itemsLane_head (ledger.outcome .devices snapshot.generatedAt)
    ((mergeDevices py sources).map (ownerDevice contract)) .devices
  have hState := congrArg LaneHead.state hHead
  have hDetail := congrArg LaneHead.detail hHead
  simp only [joinedLane, joinOwnerDevices, ownerRuntimeProjection, hState, hDetail, laneHead]

theorem exists_left_out
    (hLane : (joinedLane py contract sources snapshot ledger auditEvents (some []) failure).state ≠
      .unavailable)
    (hReadable : (ledger.outcome .devices snapshot.generatedAt).state ≠ .unavailable)
    (hDistinct : (sources.channel.map Prod.fst).Nodup) (hMany : 64 < sources.channel.length) :
    ∃ item ∈ sources.channel,
      item.1 ∉ (joinedLane py contract sources snapshot ledger auditEvents (some []) failure).items.map
        OwnerDevice.deviceId := by
  by_contra hAll
  have hShown : sources.channel.map Prod.fst ⊆ sources.carried py := by
    intro deviceId hId
    obtain ⟨item, hItem, rfl⟩ := List.mem_map.mp hId
    by_contra hNot
    refine hAll ⟨item, hItem, fun hRow => hNot ?_⟩
    rw [mem_joinedLane_ids py contract sources snapshot ledger auditEvents _ failure hLane hReadable]
      at hRow
    simpa using hRow
  have hLength := (hDistinct.subperm hShown).length_le
  rw [DeviceSources.carried, List.length_map, List.length_map, List.length_take] at hLength
  omega

end JoinedLane

def channelCalls : List (LedgerCall Nat) := [.record "channel.presence" true "1 bodies on channels" none none]

def speakerSources : DeviceSources := { ownerId := "owner", channel := [("speaker", some true)] }

def lampInventory : Option (List DeviceView) := some [{ deviceId := "lamp", label := "Lamp", kind := "light" }]

theorem sampleContract_admitsPresence : sampleContract.AdmitsPresence where
  sources := by decide
  states := by decide

theorem lamp_joined :
    ∃ ledger, LedgerCall.run {} channelCalls = .ok ledger ∧
      ∀ deviceId, deviceId ∈ (joinedLane plainPython sampleContract speakerSources
          ({ generatedAt := 0 } : RuntimeSnapshot Nat) ledger none lampInventory "").items.map
            OwnerDevice.deviceId ↔
        speakerSources.Observed deviceId ∨
          (deviceId ≠ "" ∧ deviceId ∈ (lampInventory.getD []).map DeviceView.deviceId) := by
  refine ⟨_, rfl, ?_⟩
  exact ((devices_lane_join plainPython sampleContract speakerSources { generatedAt := 0 } _ none
    lampInventory "" sampleContract_admitsPresence (by decide) (by decide +kernel)).2.1
      (by decide +kernel)).1 (by decide +kernel)

def crowdedSources : DeviceSources :=
  { ownerId := "owner", channel := (List.range 65).map fun number => (toString number, some true) }

theorem crowded_lane_leaves_out :
    ∃ ledger, LedgerCall.run {} channelCalls = .ok ledger ∧
      ∃ lane, lane = joinedLane plainPython sampleContract crowdedSources
          ({ generatedAt := 0 } : RuntimeSnapshot Nat) ledger none (some []) "" ∧
        lane.state = .ok ∧ ∃ item ∈ crowdedSources.channel, item.1 ∉ lane.items.map OwnerDevice.deviceId := by
  refine ⟨_, rfl, _, rfl, ?_, ?_⟩
  · rw [joinedLane_state]
    decide +kernel
  · refine exists_left_out _ _ _ _ _ _ _ ?_ (by decide +kernel) (by decide +kernel) (by decide)
    rw [joinedLane_state]
    decide +kernel

end EidolonAdmin.MissionControl

import EidolonAdmin.Removal.Submission

/-! # What a completed removal says about the Kernel

The wait looks at the first entry of the device on the first page of the Owner's
mounts. That decides whether an active mount is left exactly for the listings in
which an active mount of the device, if there is one, comes first.
-/

namespace EidolonAdmin.Removal

def lastListing (ownerId deviceId : String) (deadline : Int) :
    List Poll → Option (List KernelMount)
  | [] => none
  | poll :: rest =>
    match poll.held with
    | .error _ => none
    | .ok held =>
      match ownerMount ownerId deviceId false (.ok held) with
      | .error _ => none
      | .ok none => some held
      | .ok (some mount) =>
        if mount.active = false ∨ deadline ≤ poll.clock then some held
        else lastListing ownerId deviceId deadline rest

def NoActiveMount (deviceId : String) (held : List KernelMount) : Prop :=
  ∀ mount ∈ held, mount.deviceId = deviceId → mount.active = false

def firstEntry (deviceId : String) (held : List KernelMount) : Option KernelMount :=
  (held.take pageLimit).find? fun mount => mount.deviceId = deviceId

/-- If the device has an active mount, its first entry on the first page is active. -/
def ActiveFirst (deviceId : String) (held : List KernelMount) : Prop :=
  (∃ mount ∈ held, mount.deviceId = deviceId ∧ mount.active = true) →
    ∃ first, firstEntry deviceId held = some first ∧ first.active = true

theorem firstEntry_of_ownerMount {ownerId deviceId : String} {held : List KernelMount}
    {mount : Option KernelMount} (h : ownerMount ownerId deviceId false (.ok held) = .ok mount) :
    firstEntry deviceId held = mount := by
  simp only [ownerMount, listMounts, bind, Except.bind, pure, Except.pure] at h
  split at h
  · cases h
  · rename_i mounts hListed
    split at hListed
    · cases hListed
    · cases hListed
      simpa [firstEntry] using h

theorem wait_eq_ok_iff {ownerId deviceId : String} {deadline : Int} {polls : List Poll}
    {mount : Option KernelMount} :
    waitForMountRemoval ownerId deviceId deadline polls = some (.ok mount) ↔
      ∃ held, lastListing ownerId deviceId deadline polls = some held ∧
        firstEntry deviceId held = mount := by
  induction polls with
  | nil => simp [waitForMountRemoval, lastListing]
  | cons poll rest ih =>
    unfold waitForMountRemoval lastListing
    cases hHeld : poll.held with
    | error failure => simp [ownerMount, bind, Except.bind]
    | ok held =>
      cases hMount : ownerMount ownerId deviceId false (.ok held) with
      | error failure => simp [hMount]
      | ok found =>
        have hFirst := firstEntry_of_ownerMount hMount
        cases found with
        | none => simp [hMount, hFirst]
        | some first =>
          simp only [hMount]
          split
          · simp [hFirst]
          · exact ih

theorem noActiveMount_iff {deviceId : String} {held : List KernelMount}
    (h : mountState (firstEntry deviceId held) = .yes) :
    NoActiveMount deviceId held ↔ ActiveFirst deviceId held := by
  constructor
  · rintro hNone ⟨mount, hMount, hDevice, hActive⟩
    rw [hNone mount hMount hDevice] at hActive
    cases hActive
  · intro hDecides mount hMount hDevice
    by_contra hActive
    obtain ⟨first, hFirst, hFirstActive⟩ :=
      hDecides ⟨mount, hMount, hDevice, Bool.eq_true_of_not_eq_false hActive⟩
    simp [mountState, hFirst, hFirstActive] at h

theorem activeFirst_of_not_removed {deviceId : String} {held : List KernelMount}
    (h : mountState (firstEntry deviceId held) ≠ .yes) : ActiveFirst deviceId held := by
  intro _
  cases hFirst : firstEntry deviceId held with
  | none => simp [mountState, hFirst] at h
  | some first =>
    refine ⟨first, rfl, ?_⟩
    simpa [mountState, hFirst] using h

section Truthful

variable {encoding : Encoding} {ports : HubPorts} {payload : ControllerDeviceRemovalRequest}
  {workloadPrincipalId : String} {context : RemovalOwnerAuthorizationContext}
  {around : Surroundings} {ledger next : Ledger} {result : DeviceRemovalResult}

/-- A removal that Hub has not revoked is never reported completed. One that it has
is reported truthfully exactly if, in the listing the wait returned on, an active
mount of the device would come first. -/
theorem completed_removal_truthful_iff
    (hRun : removeControllerDevice encoding ports payload workloadPrincipalId context around
      ledger = (some (.ok result), next)) :
    (result.hub = none → result.outcome ≠ .completed) ∧
    (result.hub.isSome →
      ((result.outcome = .completed →
          ∃ held, lastListing payload.ownerId payload.deviceId around.deadline around.polls =
            some held ∧ NoActiveMount payload.deviceId held) ↔
        ∀ held, lastListing payload.ownerId payload.deviceId around.deadline around.polls =
          some held → ActiveFirst payload.deviceId held)) := by
  rcases removeControllerDevice_ok hRun with ⟨intent, failure, rfl⟩ | ⟨intent, hub, auth, hObserved⟩
  · refine ⟨fun _ hCompleted => ?_, nofun⟩
    simp only [refusedResult] at hCompleted
    split at hCompleted <;> cases hCompleted
  · rcases (observeRemoval_ok hObserved).2 with ⟨failure, hWait, rfl⟩ |
      ⟨mount, eraseState, eraseRef, hWait, _, rfl⟩
    · refine ⟨nofun, fun _ => ⟨fun _ held hHeld => ?_, nofun⟩⟩
      have hOk := wait_eq_ok_iff.mpr ⟨held, hHeld, rfl⟩
      rw [hWait] at hOk
      cases hOk
    · refine ⟨nofun, fun _ => ?_⟩
      obtain ⟨held, hHeld, rfl⟩ := wait_eq_ok_iff.mp hWait
      simp only [hHeld, Option.some.injEq, exists_eq_left', forall_eq']
      by_cases hRemoved : mountState (firstEntry payload.deviceId held) = .yes
      · rw [← noActiveMount_iff hRemoved]
        simp [revokedResult, hRemoved]
      · have hFirst := activeFirst_of_not_removed hRemoved
        simp [revokedResult, hRemoved, hFirst]

end Truthful

namespace Sample

def ports : HubPorts where
  hubCredentials := some fun _ => .ok "Bearer removal-intent"
  revoke call := .ok
    { commandId := call.commandId
      outcome := .committed
      deviceRef := call.deviceRef
      aggregateRevision := 5
      occurredAt := 1787659201000000
      eventId := some "admission-event_1f2e3d4c" }
  getDeviceControlOperation call := .ok
    { operationId := "erase_1f2e3d4c"
      deviceRef := call.deviceRef
      state := "pending"
      terminalResult := none }

def around (held : List KernelMount) : Surroundings where
  startedAt := submission.startedAt
  committedAt := 1787659202000000
  observedAt _ := 1787659203000000
  meanwhile := []
  deadline := 10
  polls := [⟨.ok held, 1⟩]

def mount (deviceId : String) (active : Bool) : KernelMount :=
  { deviceId, ownerId := payload.ownerId, active }

def mountedTwice : List KernelMount :=
  [mount payload.deviceId false, mount payload.deviceId true]

def secondPage : List KernelMount :=
  List.replicate pageLimit (mount "device-0a1b2c3d4e5f" true) ++ [mount payload.deviceId true]

def hub : HubClaimRevocationResult where
  commandId := intent.hubCommandId
  outcome := .committed
  deviceRef := deviceRef
  aggregateRevision := 5
  occurredAt := 1787659201000000
  eventId := some "admission-event_1f2e3d4c"

def committed : RemovalIntent := Ledger.committed hub 1787659202000000 intent

theorem removeControllerDevice_submission (held : List KernelMount) :
    removeControllerDevice encoding ports payload "eidolon-local-api" context (around held) [] =
      (observeRemoval ports payload committed hub "Bearer removal-intent" (around held),
        [committed]) := by
  have hAccepts : Ledger.accepts [] intent := by decide
  have hOpened : openIntent encoding payload "eidolon-local-api" context
      (around held).startedAt [] = (.ok intent, [intent]) := openIntent_new rfl hAccepts rfl
  have hMarked : Ledger.markHubCommitted intent.intentId hub (around held).committedAt
      (ledgerAtAnswer encoding (around held) [intent]) = (.ok committed, [committed]) := by
    have hFound : Ledger.findIntent [intent] intent.intentId = some intent := by
      simp [Ledger.findIntent, Foundation.Table.lookup]
    have hWritten : Foundation.Table.updateWhere (fun row => row.intentId = intent.intentId)
        (Ledger.committed hub 1787659202000000) [intent] = [committed] := by
      simp [Foundation.Table.updateWhere, committed]
    rw [← hWritten]
    exact Ledger.markHubCommitted_first hFound rfl
  rw [removeControllerDevice_issued rfl hOpened rfl]
  exact revokeAndObserve_committed rfl rfl hMarked

def Finishes (held : List KernelMount) (result : DeviceRemovalResult) : Prop :=
  removeControllerDevice encoding ports payload "eidolon-local-api" context (around held) [] =
    (some (.ok result), [committed])

theorem finishes_of_observeRemoval {held : List KernelMount} {result : DeviceRemovalResult}
    (h : observeRemoval ports payload committed hub "Bearer removal-intent" (around held) =
      some (.ok result)) : Finishes held result := by
  rw [Finishes, removeControllerDevice_submission, h]

theorem completed_with_active_mount :
    ((∃ result, Finishes mountedTwice result ∧ result.outcome = .completed) ∧
      mount payload.deviceId true ∈ mountedTwice) ∧
    (∃ result, Finishes secondPage result ∧ result.outcome = .completed) ∧
      mount payload.deviceId true ∈ secondPage := by
  refine ⟨⟨?_, by simp [mountedTwice]⟩, ?_, by simp [secondPage]⟩
  · exact ⟨_, finishes_of_observeRemoval rfl, rfl⟩
  · exact ⟨_, finishes_of_observeRemoval rfl, rfl⟩

theorem completed_removal_truthful_iff_unmounted :
    ∃ result, Finishes [mount payload.deviceId false] result ∧ result.outcome = .completed ∧
      ∃ held, lastListing payload.ownerId payload.deviceId 10
          (around [mount payload.deviceId false]).polls = some held ∧
        NoActiveMount payload.deviceId held := by
  have hRun : ∃ result, Finishes [mount payload.deviceId false] result ∧
      result.hub.isSome ∧ result.outcome = .completed :=
    ⟨_, finishes_of_observeRemoval rfl, rfl, rfl⟩
  obtain ⟨result, hResult, hHub, hCompleted⟩ := hRun
  refine ⟨result, hResult, hCompleted, ?_⟩
  refine ((completed_removal_truthful_iff hResult).2 hHub).mpr ?_ hCompleted
  rintro held hHeld ⟨found, hFound, _, hActive⟩
  cases hHeld
  rw [List.mem_singleton.mp hFound] at hActive
  cases hActive

end Sample

end EidolonAdmin.Removal

import EidolonAdmin.Bootstrap.NetworkPhase
import EidolonAdmin.Bootstrap.NetworkManager

/-! # The change in progress, in the store and in the adapter

Both sides keep the active change and write it around awaits that may raise. An
operation is active in the store while the adapter holds it, while `begin_change`
has not staged it yet or is undoing it, or while a call that has dropped it still
reads the state; that is the whole account where calls end as they should.
-/

namespace EidolonAdmin.Bootstrap

open Foundation Foundation.Table Foundation.Transition

namespace Store

def Pending (s : Store) (operationId : String) : Prop :=
  ∃ row ∈ s.operations, row.operationId = operationId ∧ row.state.active = true

def Known (s : Store) (operationId : String) : Prop :=
  ∃ row ∈ s.operations, row.operationId = operationId

theorem Pending.known {s : Store} {operationId : String} (h : s.Pending operationId) :
    s.Known operationId := by
  obtain ⟨row, hRow, hId, _⟩ := h
  exact ⟨row, hRow, hId⟩

theorem known_iff {s : Store} {operationId : String} :
    s.Known operationId ↔ s.getOperation operationId ≠ none := by
  rw [Ne, getOperation, lookup_eq_none_iff]
  simp only [Known]
  push Not
  rfl

theorem known_of_found {s : Store} {operationId : String} {operation : BootstrapOperation}
    (h : s.getOperation operationId = some operation) : s.Known operationId :=
  known_iff.mpr (by rw [h]; exact Option.some_ne_none operation)

theorem pending_of_found {s : Store} {operationId : String} {operation : BootstrapOperation}
    (h : s.getOperation operationId = some operation) (hActive : operation.state.active = true) :
    s.Pending operationId :=
  ⟨operation, (lookup_mem h).1, (lookup_mem h).2, hActive⟩

structure Puts (s : Store) (operationId : String) (state : BootstrapOperationState) (t : Store) :
    Prop where
  known : ∀ id, s.Known id → t.Known id
  pending : ∀ id, t.Pending id ↔ if id = operationId then state.active = true else s.Pending id

theorem puts_updateOperation {s : Store} {operationId : String} (h : s.Known operationId)
    (state : BootstrapOperationState) (networkState : NetworkState) (updatedAt : String)
    (errorCode : Option String) :
    s.Puts operationId state
      (s.apply (.updateOperation operationId state networkState updatedAt errorCode)) := by
  obtain ⟨current, hFound⟩ := Option.ne_none_iff_exists'.mp (known_iff.mp h)
  have hRows : (s.apply (.updateOperation operationId state networkState updatedAt
      errorCode)).operations = updateWhere (fun row => row.operationId = operationId)
        (writeOperation state updatedAt errorCode) s.operations := by
    simp [apply, perform, updateOperation, hFound, setNetworkState]
  constructor
  · rintro id ⟨row, hRow, hId⟩
    refine ⟨_, hRows ▸ mem_updateWhere.mpr ⟨row, hRow, rfl⟩, ?_⟩
    split
    · exact hId
    · exact hId
  · intro id
    constructor
    · rintro ⟨row, hRow, hId, hActive⟩
      rw [hRows] at hRow
      obtain ⟨old, hOld, rfl⟩ := mem_updateWhere.mp hRow
      split at hId
      · rename_i hWritten
        rw [if_pos hWritten] at hActive
        rw [if_pos (hId.symm.trans (by simpa [writeOperation] using hWritten))]
        exact hActive
      · rename_i hOther
        rw [if_neg hOther] at hActive
        have hNe : id ≠ operationId := fun hSame => hOther (by simp [hId, hSame])
        rw [if_neg hNe]
        exact ⟨old, hOld, hId, hActive⟩
    · intro hPending
      split at hPending
      · rename_i hSame
        obtain ⟨row, hRow, hId⟩ := h
        exact ⟨writeOperation state updatedAt errorCode row,
          hRows ▸ mem_updateWhere.mpr ⟨row, hRow, by simp [hId]⟩, hId.trans hSame.symm, hPending⟩
      · rename_i hNe
        obtain ⟨row, hRow, hId, hActive⟩ := hPending
        exact ⟨row, hRows ▸ mem_updateWhere.mpr ⟨row, hRow, by simp [hId, hNe]⟩, hId, hActive⟩

theorem puts_of_same {s t : Store} (h : t.operations = s.operations) :
    (∀ id, t.Known id ↔ s.Known id) ∧ ∀ id, t.Pending id ↔ s.Pending id := by
  simp only [Known, Pending, h, implies_true, and_self]

end Store

/-! ## The use cases up to the adapter -/

theorem isSpace_of_isLowerHex {c : Char} (h : isLowerHex c = true) : isSpace c = false := by
  rw [Bool.eq_false_iff]
  intro hSpace
  simp only [isSpace, List.mem_cons, List.not_mem_nil, or_false, Bool.or_eq_true,
    decide_eq_true_eq, Bool.and_eq_true] at hSpace
  rcases hSpace with hListed | ⟨hLow, _⟩
  · rcases hListed with rfl | rfl | rfl | rfl | rfl | rfl | rfl | rfl | rfl | rfl | rfl | rfl |
      rfl | rfl | rfl | rfl | rfl | rfl
    all_goals revert h; decide
  · simp only [isLowerHex, Bool.or_eq_true, Bool.and_eq_true, decide_eq_true_eq] at h
    rcases h with ⟨_, hHigh⟩ | ⟨_, hHigh⟩
    · exact absurd (le_trans hLow hHigh) (by decide)
    · exact absurd (le_trans hLow hHigh) (by decide)

theorem strip_eq_self {value : String} (h : ∀ c ∈ value.toList, isSpace c = false) :
    strip value = value := by
  have hDrop : ∀ chars : List Char, (∀ c ∈ chars, isSpace c = false) →
      chars.dropWhile isSpace = chars := by
    intro chars hChars
    cases chars with
    | nil => rfl
    | cons c rest => simp [hChars c List.mem_cons_self]
  rw [strip, hDrop _ h, hDrop _ (fun c hC => h c (List.mem_reverse.mp hC)), List.reverse_reverse,
    String.ofList_toList]

theorem strip_of_isCanonicalUuid {value : String} (h : isCanonicalUuid value = true) :
    strip value = value := by
  refine strip_eq_self fun c hC => ?_
  rw [isCanonicalUuid, Bool.and_eq_true, List.all_eq_true] at h
  obtain ⟨i, hI⟩ := List.mem_iff_getElem?.mp hC
  have hRead := h.2 (c, i) (List.mem_zipIdx_iff_getElem?.mpr hI)
  simp only at hRead
  split at hRead
  · rw [show c = '-' by simpa using hRead]
    decide
  · exact isSpace_of_isLowerHex hRead

theorem readNetworkChange_canonical {platform : Platform} {payload : Json}
    {request : NetworkChangeRequest} (h : readNetworkChange platform payload = .ok request) :
    isCanonicalUuid request.operationId = true := by
  unfold readNetworkChange readOperationId at h
  split at h
  · split at h
    · rename_i hCanonical
      simp only [bind, Except.bind, pure, Except.pure] at h
      split at h
      · cases h
      · split at h
        · cases h
        · split at h
          · cases h
          · cases h
            exact hCanonical
    · split at h
      · cases h
      · cases h
  · cases h

inductive Opened (s : Store) : Progress → Store → Prop where
  | ended {result : Except ServiceError (Option BootstrapOperation)} {t : Store}
      (hRows : t.operations = s.operations) : Opened s (.ended result) t
  | configured {request : NetworkChangeRequest} {previous : NetworkState} {t : Store}
      (hId : strip request.operationId = request.operationId)
      (hNew : ¬ s.Known request.operationId) (hIdle : ∀ id, ¬ s.Pending id)
      (hKnown : ∀ id, s.Known id → t.Known id)
      (hPending : ∀ id, t.Pending id ↔ id = request.operationId) :
      Opened s (.suspended (.configure request previous)) t
  | confirmed {operationId : String} (hKnown : s.Known operationId) :
      Opened s (.suspended (.confirm operationId)) s
  | rolledBack {operationId : String} {t : Store} (hPending : s.Pending operationId)
      (hPuts : s.Puts operationId .compensating t) :
      Opened s (.suspended (.rollback operationId)) t

theorem checked_operations {s t : Store} (h : s.Checked t) : t.operations = s.operations := by
  rcases h with rfl | ⟨sessionId, secretHash, now, rfl⟩
  · rfl
  · exact (Store.apply_leavesNetwork (by trivial) s).1

theorem createOperation_rows {s t : Store} {operation stored : BootstrapOperation}
    (hNew : s.getOperation operation.operationId = none)
    (h : s.createOperation operation = (.ok stored, t)) :
    t.operations = s.operations ++ [operation] ∧
      ∀ row ∈ s.operations, row.state.active = false := by
  simp only [Store.createOperation, hNew] at h
  split at h
  · cases h
  · split at h
    · cases h
    · rename_i hIdle
      cases h
      exact ⟨rfl, by simpa using hIdle⟩

theorem opened_configured {s t u : Store} {request : NetworkChangeRequest}
    {previous : NetworkState} {operation stored : BootstrapOperation}
    (hRequest : isCanonicalUuid request.operationId = true)
    (hId : operation.operationId = request.operationId)
    (hNew : s.getOperation operation.operationId = none)
    (hCreated : s.createOperation operation = (.ok stored, t))
    (hPuts : t.Puts request.operationId .running u) :
    Opened s (.suspended (.configure request previous)) u := by
  obtain ⟨hRows, hIdle⟩ := createOperation_rows hNew hCreated
  have hNone : ∀ id, ¬ s.Pending id := by
    rintro id ⟨row, hRow, _, hActive⟩
    rw [hIdle row hRow] at hActive
    cases hActive
  refine .configured (strip_of_isCanonicalUuid hRequest) ?_ hNone ?_ ?_
  · rw [← hId, Store.known_iff, hNew]
    exact fun hSome => hSome rfl
  · rintro id ⟨row, hRow, hRowId⟩
    exact hPuts.known id ⟨row, hRows ▸ List.mem_append_left _ hRow, hRowId⟩
  · intro id
    rw [hPuts.pending]
    split
    · rename_i hSame
      exact ⟨fun _ => hSame, fun _ => rfl⟩
    · rename_i hNe
      refine ⟨?_, fun hSame => absurd hSame hNe⟩
      rintro ⟨row, hRow, hRowId, hActive⟩
      rw [hRows] at hRow
      rcases List.mem_append.mp hRow with hOld | hLast
      · exact absurd ⟨row, hOld, hRowId, hActive⟩ (hNone id)
      · rw [← hRowId, List.mem_singleton.mp hLast]
        exact hId

theorem configureNetwork_opened (platform : Platform) (access : Access) (payload : Json)
    (now failedAt : String) (s : Store) :
    Opened s (s.configureNetwork platform access payload now failedAt).1
      (s.configureNetwork platform access payload now failedAt).2 := by
  have hChecked := Store.requireHostAdmin_checked access now s
  unfold Store.configureNetwork
  split
  · rename_i hEq
    rw [hEq] at hChecked
    exact .ended (checked_operations hChecked)
  · rename_i t hEq
    obtain rfl := Store.requireHostAdmin_ok hEq
    split
    · exact .ended rfl
    · rename_i request hRead
      split
      · split
        · exact .ended rfl
        · exact .ended rfl
      · rename_i hNew
        simp only
        split
        · rename_i hEq
          rw [Store.createOperation_error hEq]
          exact .ended rfl
        · rename_i hEq
          rw [Store.createOperation_error hEq]
          exact .ended rfl
        · rename_i stored u hEq
          obtain ⟨_, hStored⟩ := Store.createOperation_new hNew hEq
          rw [Store.updateOperation_found hStored]
          exact opened_configured (readNetworkChange_canonical hRead) rfl hNew hEq
            (Store.puts_updateOperation (Store.known_of_found hStored) _ _ _ _)

theorem confirmNetwork_opened (platform : Platform) (access : Access) (operationId : Json)
    (now : String) (s : Store) :
    Opened s (s.confirmNetwork platform access operationId now).1
      (s.confirmNetwork platform access operationId now).2 := by
  unfold Store.confirmNetwork
  split
  · rename_i hEq
    exact .ended (checked_operations (Store.namedOperation_error hEq))
  · rename_i operation t hEq
    obtain ⟨rfl, hFound⟩ := Store.namedOperation_ok hEq
    split
    · exact .ended rfl
    · split
      · exact .ended rfl
      · exact .confirmed (Store.known_of_found hFound)

theorem rollbackNetwork_opened {platform : Platform} {access : Access} {operationId : Json}
    {now : String} {s : Store}
    (h : ∀ operation t, s.namedOperation platform access operationId now = (.ok operation, t) →
      operation.state ≠ .succeeded) :
    Opened s (s.rollbackNetwork platform access operationId now).1
      (s.rollbackNetwork platform access operationId now).2 := by
  unfold Store.rollbackNetwork
  split
  · rename_i hEq
    exact .ended (checked_operations (Store.namedOperation_error hEq))
  · rename_i operation t hEq
    obtain ⟨rfl, hFound⟩ := Store.namedOperation_ok hEq
    split
    · exact .ended rfl
    · rename_i hState
      rw [Store.updateOperation_found hFound]
      exact .rolledBack
        (Store.pending_of_found hFound (Host.active_of_ne (h operation t hEq) hState))
        (Store.puts_updateOperation (Store.known_of_found hFound) _ _ _ _)

/-! ## Where a call stands -/

section Waiting

variable {α : Type} {R : α → α → Prop} {calls : List α} {i : Nat} {call next other : α}

theorem mem_set_or_eq (hCall : calls[i]? = some call) (hOther : other ∈ calls) :
    other ∈ calls.set i next ∨ other = call := by
  obtain ⟨j, hJ⟩ := List.mem_iff_getElem?.mp hOther
  by_cases hSame : i = j
  · subst hSame
    exact .inr (Option.some.inj (hJ.symm.trans hCall))
  · exact .inl (List.mem_of_getElem? ((List.getElem?_set_ne hSame).trans hJ))

theorem mem_eraseIdx_or_eq (hCall : calls[i]? = some call) (hOther : other ∈ calls) :
    other ∈ calls.eraseIdx i ∨ other = call := by
  obtain ⟨j, hJ⟩ := List.mem_iff_getElem?.mp hOther
  by_cases hSame : j = i
  · subst hSame
    exact .inr (Option.some.inj (hJ.symm.trans hCall))
  · exact .inl (List.mem_eraseIdx_iff_getElem?.mpr ⟨j, hSame, hJ⟩)

theorem pairwise_at {j : Nat} (h : calls.Pairwise R) (hSymm : ∀ a b, R a b → R b a)
    (hCall : calls[i]? = some call) (hOther : calls[j]? = some other) (hNe : j ≠ i) :
    R other call := by
  obtain ⟨hI, rfl⟩ := List.getElem?_eq_some_iff.mp hCall
  obtain ⟨hJ, rfl⟩ := List.getElem?_eq_some_iff.mp hOther
  rw [List.pairwise_iff_getElem] at h
  rcases Nat.lt_or_gt_of_ne hNe with hLt | hGt
  · exact h j i hJ hI hLt
  · exact hSymm _ _ (h i j hI hJ hGt)

theorem pairwise_set (h : calls.Pairwise R) (hCall : calls[i]? = some call)
    (hAfter : ∀ b, R call b → R next b) (hBefore : ∀ b, R b call → R b next) :
    (calls.set i next).Pairwise R := by
  induction calls generalizing i with
  | nil => exact h
  | cons first rest ih =>
    rw [List.pairwise_cons] at h
    cases i with
    | zero =>
      obtain rfl : first = call := by simpa using hCall
      exact List.pairwise_cons.mpr ⟨fun b hB => hAfter b (h.1 b hB), h.2⟩
    | succ i =>
      have hRest : rest[i]? = some call := by simpa using hCall
      refine List.pairwise_cons.mpr ⟨fun b hB => ?_, ih h.2 hRest⟩
      rcases List.mem_or_eq_of_mem_set hB with hOld | rfl
      · exact h.1 b hOld
      · exact hBefore first (h.1 call (List.mem_of_getElem? hRest))

end Waiting

namespace InFlight

def opening : InFlight → Bool
  | configure _ _ .interfaces => true
  | _ => false

def staged : InFlight → Bool
  | configure _ _ .state => true
  | _ => false

def early : InFlight → Bool
  | configure _ _ .interfaces | configure _ _ .previousSsid | configure _ _ (.checkpoint _)
  | configure _ _ (.activation _ _) => true
  | _ => false

def undoing : InFlight → Bool
  | configure _ _ (.undoRollback _ _) | configure _ _ (.undoDestroy _) => true
  | _ => false

def closing : InFlight → Bool
  | confirm _ .state | rollback _ .state => true
  | _ => false

def accounts (call : InFlight) : Bool := call.early || call.undoing || call.closing

/-- The awaits after which the adapter drops the change it holds. -/
def clears : InFlight → Answer → Bool
  | configure _ _ (.activation checkpointPath _), answer =>
    checkpointPath = "/" ∧ (addFailure? answer).isSome
  | configure _ _ (.activated checkpointPath), answer =>
    checkpointPath = "/" ∧ (waitFailure? answer).isSome
  | configure _ _ (.undoRollback _ _), answer => answer.fails
  | configure _ _ (.undoDestroy _), answer => answer = .done ∨ answer.fails
  | confirm _ .destroy, answer | rollback _ .destroy, answer => answer = .done
  | _, _ => false

structure Follows (call next : InFlight) : Prop where
  id : next.operationId = call.operationId
  early : next.early = true → call.early = true
  request : ∀ request previous await, next = configure request previous await →
    ∃ earlier, call = configure request previous earlier

end InFlight

namespace Wired

/-- The adapter drops no change of another operation; the interfaces of a new change
are refused as provisioning errors; the last reading of a staged change fails only
when the adapter no longer holds it and succeeds only while it does; that of a
confirmation or a rollback fails only when the operation has ended. -/
structure Careful (w : Wired) (call : InFlight) (answer : Answer) : Prop where
  own : call.clears answer = true →
    ∀ change ∈ w.manager.active, change.operationId = call.operationId
  opening : call.opening = true → answer ≠ .raised
  unread : call.staged = true → answer.fails = true → ¬ w.manager.holds call.operationId
  read : call.staged = true → answer.reads = true → w.manager.holds call.operationId
  closed : call.closing = true → answer.fails = true → ¬ w.store.Pending call.operationId

variable (platform : Platform)

instance (s : Store) (operationId : String) : Decidable (s.Pending operationId) :=
  inferInstanceAs (Decidable (∃ row ∈ s.operations, _))

instance (w : Wired) (call : InFlight) (answer : Answer) : Decidable (w.Careful call answer) :=
  decidable_of_iff
    ((call.clears answer = true →
      ∀ change ∈ w.manager.active, change.operationId = call.operationId) ∧
    (call.opening = true → answer ≠ .raised) ∧
    (call.staged = true → answer.fails = true → ¬ w.manager.holds call.operationId) ∧
    (call.staged = true → answer.reads = true → w.manager.holds call.operationId) ∧
    (call.closing = true → answer.fails = true → ¬ w.store.Pending call.operationId))
    ⟨fun ⟨own, opening, unread, read, closed⟩ => ⟨own, opening, unread, read, closed⟩,
      fun h => ⟨h.own, h.opening, h.unread, h.read, h.closed⟩⟩

/-- A rollback is not asked of a succeeded operation, and answers are careful. -/
def Guarded (w : Wired) : NetworkEvent → Prop
  | .rollbackNetwork access operationId now =>
    ∀ operation t, w.store.namedOperation platform access operationId now = (.ok operation, t) →
      operation.state ≠ .succeeded
  | .answered i answer _ _ => ∀ call, w.calls[i]? = some call → w.Careful call answer
  | .configureNetwork .. | .confirmNetwork .. => True

instance (w : Wired) (event : NetworkEvent) : Decidable (w.Guarded platform event) :=
  match event with
  | .rollbackNetwork access operationId now =>
    match hNamed : w.store.namedOperation platform access operationId now with
    | (.ok operation, _) =>
      decidable_of_iff (operation.state ≠ .succeeded)
        ⟨fun h other t hOther => by
          rw [hNamed] at hOther
          cases hOther
          exact h,
        fun h => h operation _ hNamed⟩
    | (.error _, _) => .isTrue fun other t hOther => by
        rw [hNamed] at hOther
        cases hOther
  | .answered i answer _ _ =>
    match hCall : w.calls[i]? with
    | some call =>
      decidable_of_iff (w.Careful call answer)
        ⟨fun h other hOther => by
          rw [hCall] at hOther
          cases hOther
          exact h,
        fun h => h call hCall⟩
    | none => .isTrue fun other hOther => by
        rw [hCall] at hOther
        cases hOther
  | .configureNetwork .. | .confirmNetwork .. => .isTrue trivial

variable {platform}

structure Sound (w : Wired) : Prop where
  exclusive : ∀ first second, w.store.Pending first → w.store.Pending second → first = second
  held : ∀ id, w.manager.holds id → w.store.Pending id
  accounted : ∀ id, w.store.Pending id →
    w.manager.holds id ∨ ∃ call ∈ w.calls, call.operationId = id ∧ call.accounts = true
  early : ∀ call ∈ w.calls, call.early = true →
    w.store.Pending call.operationId ∧ ¬ w.manager.holds call.operationId
  /-- An early call shares its operation with no other call. -/
  alone : w.calls.Pairwise fun first second =>
    first.early = true ∨ second.early = true → first.operationId ≠ second.operationId
  closing : ∀ call ∈ w.calls, call.closing = true → ¬ w.manager.holds call.operationId
  known : ∀ call ∈ w.calls, w.store.Known call.operationId
  canonical : ∀ request previous await, .configure request previous await ∈ w.calls →
    strip request.operationId = request.operationId

theorem alone_at {w : Wired} (h : w.Sound) {i j : Nat} {call other : InFlight}
    (hCall : w.calls[i]? = some call) (hOther : w.calls[j]? = some other) (hNe : j ≠ i)
    (hEarly : other.early = true ∨ call.early = true) : other.operationId ≠ call.operationId :=
  pairwise_at h.alone (fun _ _ hAlone hOr => (hAlone hOr.symm).symm) hCall hOther hNe hEarly

theorem sound_store {w : Wired} (h : w.Sound) {t : Store}
    (hPending : ∀ id, t.Pending id ↔ w.store.Pending id)
    (hKnown : ∀ id, w.store.Known id → t.Known id) : Sound { w with store := t } where
  exclusive first second hFirst hSecond :=
    h.exclusive first second ((hPending first).mp hFirst) ((hPending second).mp hSecond)
  held id hHolds := (hPending id).mpr (h.held id hHolds)
  accounted id hActive := h.accounted id ((hPending id).mp hActive)
  early call hCall hEarly :=
    ⟨(hPending _).mpr (h.early call hCall hEarly).1, (h.early call hCall hEarly).2⟩
  alone := h.alone
  closing := h.closing
  known call hCall := hKnown _ (h.known call hCall)
  canonical := h.canonical

theorem sound_ends_inactive {w : Wired} (h : w.Sound) {i : Nat} {call : InFlight}
    (hCall : w.calls[i]? = some call) {t : Store} {manager : NetworkManager}
    (hPending : ∀ id, t.Pending id ↔ w.store.Pending id ∧ id ≠ call.operationId)
    (hKnown : ∀ id, w.store.Known id → t.Known id)
    (hHolds : ∀ id, manager.holds id ↔ w.manager.holds id ∧ id ≠ call.operationId) :
    Sound ⟨t, manager, w.calls.eraseIdx i⟩ where
  exclusive first second hFirst hSecond :=
    h.exclusive first second ((hPending first).mp hFirst).1 ((hPending second).mp hSecond).1
  held id hId := (hPending id).mpr
    ⟨h.held id ((hHolds id).mp hId).1, ((hHolds id).mp hId).2⟩
  accounted id hActive := by
    obtain ⟨hBefore, hNe⟩ := (hPending id).mp hActive
    rcases h.accounted id hBefore with hHeld | ⟨other, hOther, hId, hAccounts⟩
    · exact .inl ((hHolds id).mpr ⟨hHeld, hNe⟩)
    · rcases mem_eraseIdx_or_eq hCall hOther with hStays | rfl
      · exact .inr ⟨other, hStays, hId, hAccounts⟩
      · exact absurd hId.symm hNe
  early other hOther hEarly := by
    obtain ⟨j, hNe, hAt⟩ := List.mem_eraseIdx_iff_getElem?.mp hOther
    obtain ⟨hActive, hFree⟩ := h.early other (List.mem_of_getElem? hAt) hEarly
    exact ⟨(hPending _).mpr ⟨hActive, alone_at h hCall hAt hNe (.inl hEarly)⟩,
      fun hId => hFree ((hHolds _).mp hId).1⟩
  alone := h.alone.sublist (List.eraseIdx_sublist w.calls i)
  closing other hOther hClosing hId :=
    h.closing other (List.mem_of_mem_eraseIdx hOther) hClosing ((hHolds _).mp hId).1
  known other hOther := hKnown _ (h.known other (List.mem_of_mem_eraseIdx hOther))
  canonical request previous await hOther :=
    h.canonical request previous await (List.mem_of_mem_eraseIdx hOther)

theorem sound_ends_kept {w : Wired} (h : w.Sound) {i : Nat} {call : InFlight}
    (hCall : w.calls[i]? = some call) {t : Store}
    (hPending : ∀ id, t.Pending id ↔ w.store.Pending id)
    (hKnown : ∀ id, w.store.Known id → t.Known id)
    (hIdle : call.accounts = false) :
    Sound ⟨t, w.manager, w.calls.eraseIdx i⟩ := by
  have hBefore := sound_store h hPending hKnown
  refine ⟨hBefore.exclusive, hBefore.held, ?_, ?_, ?_, ?_, ?_, ?_⟩
  · intro id hActive
    rcases hBefore.accounted id hActive with hHeld | ⟨other, hOther, hId, hAccounts⟩
    · exact .inl hHeld
    · rcases mem_eraseIdx_or_eq hCall hOther with hStays | rfl
      · exact .inr ⟨other, hStays, hId, hAccounts⟩
      · rw [hIdle] at hAccounts
        cases hAccounts
  · exact fun other hOther => hBefore.early other (List.mem_of_mem_eraseIdx hOther)
  · exact h.alone.sublist (List.eraseIdx_sublist w.calls i)
  · exact fun other hOther => hBefore.closing other (List.mem_of_mem_eraseIdx hOther)
  · exact fun other hOther => hBefore.known other (List.mem_of_mem_eraseIdx hOther)
  · exact fun request previous await hOther =>
      h.canonical request previous await (List.mem_of_mem_eraseIdx hOther)

theorem forall_set {w : Wired} {i : Nat} {next : InFlight} {P : InFlight → Prop}
    (hOld : ∀ other ∈ w.calls, P other) (hNext : P next) :
    ∀ other ∈ w.calls.set i next, P other := by
  intro other hOther
  rcases List.mem_or_eq_of_mem_set hOther with hStays | rfl
  · exact hOld other hStays
  · exact hNext

theorem next_mem_set {w : Wired} {i : Nat} {call : InFlight} (hCall : w.calls[i]? = some call)
    (next : InFlight) : next ∈ w.calls.set i next :=
  List.mem_set (List.getElem?_eq_some_iff.mp hCall).1 next

theorem sound_set {w : Wired} (h : w.Sound) {i : Nat} {call next : InFlight}
    {manager : NetworkManager} (hCall : w.calls[i]? = some call) (hNext : call.Follows next)
    (hHeld : ∀ id, manager.holds id → w.store.Pending id)
    (hAccounted : ∀ id, w.store.Pending id → manager.holds id ∨
      ∃ other ∈ w.calls.set i next, other.operationId = id ∧ other.accounts = true)
    (hEarly : ∀ other ∈ w.calls.set i next, other.early = true → ¬ manager.holds other.operationId)
    (hClosing : ∀ other ∈ w.calls.set i next, other.closing = true →
      ¬ manager.holds other.operationId) :
    Sound { w with manager, calls := w.calls.set i next } := by
  have hMem := List.mem_of_getElem? hCall
  refine ⟨h.exclusive, hHeld, hAccounted, ?_, ?_, hClosing, ?_, ?_⟩
  · have hActive : ∀ other ∈ w.calls.set i next, other.early = true →
        w.store.Pending other.operationId := by
      refine forall_set (fun other hOther hNow => (h.early other hOther hNow).1) fun hNow => ?_
      rw [hNext.id]
      exact (h.early call hMem (hNext.early hNow)).1
    exact fun other hOther hNow => ⟨hActive other hOther hNow, hEarly other hOther hNow⟩
  · refine pairwise_set h.alone hCall ?_ ?_
    · intro other hAlone hNow
      rw [hNext.id]
      exact hAlone (hNow.imp_left hNext.early)
    · intro other hAlone hNow
      rw [hNext.id]
      exact hAlone (hNow.imp_right hNext.early)
  · refine forall_set h.known ?_
    rw [hNext.id]
    exact h.known call hMem
  · intro request previous await hOther
    rcases List.mem_or_eq_of_mem_set hOther with hStays | hSame
    · exact h.canonical request previous await hStays
    · obtain ⟨earlier, rfl⟩ := hNext.request request previous await hSame.symm
      exact h.canonical request previous earlier hMem

theorem accounted_set {w : Wired} {i : Nat} {call next : InFlight} {id : String}
    (hCall : w.calls[i]? = some call) (hNext : call.Follows next)
    (hAccounts : call.accounts = true → next.accounts = true)
    (h : ∃ other ∈ w.calls, other.operationId = id ∧ other.accounts = true) :
    ∃ other ∈ w.calls.set i next, other.operationId = id ∧ other.accounts = true := by
  obtain ⟨other, hOther, hId, hAccount⟩ := h
  rcases mem_set_or_eq hCall hOther with hStays | rfl
  · exact ⟨other, hStays, hId, hAccount⟩
  · exact ⟨next, next_mem_set hCall next, hNext.id.trans hId, hAccounts hAccount⟩

theorem sound_proceeds {w : Wired} (h : w.Sound) {i : Nat} {call next : InFlight}
    (hCall : w.calls[i]? = some call) (hNext : call.Follows next)
    (hAccounts : call.accounts = true → next.accounts = true)
    (hClosing : next.closing = true → call.closing = true) :
    Sound { w with calls := w.calls.set i next } := by
  have hMem := List.mem_of_getElem? hCall
  refine sound_set h hCall hNext h.held ?_ ?_ ?_
  · exact fun id hActive => (h.accounted id hActive).imp_right (accounted_set hCall hNext hAccounts)
  · refine forall_set (fun other hOther hNow => (h.early other hOther hNow).2) fun hNow => ?_
    rw [hNext.id]
    exact (h.early call hMem (hNext.early hNow)).2
  · refine forall_set h.closing fun hNow => ?_
    rw [hNext.id]
    exact h.closing call hMem (hClosing hNow)

theorem sound_drops {w : Wired} (h : w.Sound) {i : Nat} {call next : InFlight}
    (hCall : w.calls[i]? = some call) (hNext : call.Follows next)
    (hOwn : ∀ id, w.manager.holds id → id = call.operationId) (hClosing : next.closing = true) :
    Sound { w with manager := w.manager.cleared, calls := w.calls.set i next } := by
  have hNone : ∀ id, ¬ w.manager.cleared.holds id := fun id hHolds => by cases hHolds
  have hAccounts : next.accounts = true := by simp [InFlight.accounts, hClosing]
  refine sound_set h hCall hNext ?_ ?_ ?_ ?_
  · exact fun id hHolds => absurd hHolds (hNone id)
  · intro id hActive
    rcases h.accounted id hActive with hHeld | hOther
    · exact .inr ⟨next, next_mem_set hCall next, hNext.id.trans (hOwn id hHeld).symm, hAccounts⟩
    · exact .inr (accounted_set hCall hNext (fun _ => hAccounts) hOther)
  · exact fun other _ _ => hNone other.operationId
  · exact fun other _ _ => hNone other.operationId

theorem sound_stages {w : Wired} (h : w.Sound) {i : Nat} {call next : InFlight}
    (hCall : w.calls[i]? = some call) (hNext : call.Follows next) (hEarly : call.early = true)
    (hStaged : next.accounts = false) {manager : NetworkManager}
    (hHolds : ∀ id, manager.holds id ↔ id = call.operationId) :
    Sound { w with manager, calls := w.calls.set i next } := by
  have hActive := (h.early call (List.mem_of_getElem? hCall) hEarly).1
  simp only [InFlight.accounts, Bool.or_eq_false_iff] at hStaged
  have hOther : ∀ other ∈ w.calls.set i next, other.early = true ∨ other.closing = true →
      ¬ manager.holds other.operationId := by
    intro other hSet hNow hId
    obtain ⟨j, hJ⟩ := List.mem_iff_getElem?.mp hSet
    by_cases hSame : i = j
    · subst hSame
      rw [List.getElem?_set_self (List.getElem?_eq_some_iff.mp hCall).1] at hJ
      cases hJ
      simp [hStaged.1.1, hStaged.2] at hNow
    · rw [List.getElem?_set_ne hSame] at hJ
      exact alone_at h hCall hJ (Ne.symm hSame) (.inr hEarly) ((hHolds _).mp hId)
  refine sound_set h hCall hNext ?_ ?_ ?_ ?_
  · intro id hId
    rw [(hHolds id).mp hId]
    exact hActive
  · exact fun id hId => .inl ((hHolds id).mpr (h.exclusive id _ hId hActive))
  · exact fun other hSet hNow => hOther other hSet (.inl hNow)
  · exact fun other hSet hNow => hOther other hSet (.inr hNow)

theorem sound_joins {w : Wired} (h : w.Sound) {call : InFlight}
    (hHolds : w.manager.holds call.operationId) (hIdle : call.accounts = false)
    (hRequest : ∀ request previous await, call ≠ .configure request previous await) :
    Sound { w with calls := w.calls ++ [call] } := by
  simp only [InFlight.accounts, Bool.or_eq_false_iff] at hIdle
  have hBoth : ∀ {P : InFlight → Prop}, (∀ other ∈ w.calls, P other) → P call →
      ∀ other ∈ w.calls ++ [call], P other := by
    intro P hOld hNew other hOther
    rcases List.mem_append.mp hOther with hStays | hLast
    · exact hOld other hStays
    · rw [List.mem_singleton.mp hLast]
      exact hNew
  refine ⟨h.exclusive, h.held, ?_, hBoth h.early ?_, ?_, hBoth h.closing ?_, hBoth h.known ?_, ?_⟩
  · intro id hActive
    rcases h.accounted id hActive with hHeld | ⟨other, hOther, hAccount⟩
    · exact .inl hHeld
    · exact .inr ⟨other, List.mem_append_left _ hOther, hAccount⟩
  · intro hEarly
    rw [hIdle.1.1] at hEarly
    cases hEarly
  · refine List.pairwise_append.mpr ⟨h.alone, List.pairwise_singleton _ _, ?_⟩
    intro other hOther last hLast hNow hSame
    obtain rfl := List.mem_singleton.mp hLast
    rcases hNow with hEarly | hEarly
    · exact (h.early other hOther hEarly).2 (hSame ▸ hHolds)
    · rw [hIdle.1.1] at hEarly
      cases hEarly
  · intro hClosing
    rw [hIdle.2] at hClosing
    cases hClosing
  · obtain ⟨row, hRow, hId, _⟩ := h.held _ hHolds
    exact ⟨row, hRow, hId⟩
  · intro request previous await hOther
    rcases List.mem_append.mp hOther with hStays | hLast
    · exact h.canonical request previous await hStays
    · exact absurd (List.mem_singleton.mp hLast).symm (hRequest request previous await)

end Wired

/-! ## What an answer can do -/

namespace InFlight

inductive Advanced (call : InFlight) (answer : Answer) (manager : NetworkManager) :
    NetworkManager → Went InFlight → Prop where
  | kept {next : InFlight} (hNext : call.Follows next)
      (hAccounts : call.accounts = true → next.accounts = true)
      (hClosing : next.closing = true → call.closing = true) :
      Advanced call answer manager manager (.waits next)
  | staged {request : NetworkChangeRequest} {previous : NetworkState} {await : BeginAwait}
      {change : ActiveNetworkChange} {next : InFlight}
      (hRequest : call = configure request previous await) (hEarly : call.early = true)
      (hNext : call.Follows next) (hStaged : next.accounts = false)
      (hChange : change.operationId = strip request.operationId) :
      Advanced call answer manager { manager with active := some change } (.waits next)
  | dropped {next : InFlight} (hClears : call.clears answer = true) (hNext : call.Follows next)
      (hClosing : next.closing = true) :
      Advanced call answer manager manager.cleared (.waits next)
  | undone {outcome : PortOutcome} (hClears : call.clears answer = true)
      (hWrites : Host.writes call.suspended outcome = some (call.operationId, .failed)) :
      Advanced call answer manager manager.cleared (.ends outcome)
  | unstaged {outcome : PortOutcome} (hEarly : call.early = true)
      (hWrites : Host.writes call.suspended outcome = some (call.operationId, .failed)) :
      Advanced call answer manager manager (.ends outcome)
  | unread {outcome : PortOutcome} (hStaged : call.staged = true) (hFails : answer.fails = true)
      (hWrites : Host.writes call.suspended outcome = some (call.operationId, .failed)) :
      Advanced call answer manager manager (.ends outcome)
  | returned {outcome : PortOutcome} (hStaged : call.staged = true) (hRead : answer.reads = true)
      (hIdle : call.accounts = false)
      (hWrites : Host.writes call.suspended outcome =
        some (call.operationId, .waitingConfirmation)) :
      Advanced call answer manager manager (.ends outcome)
  | raised (hOpening : call.opening = true) (hRaised : answer = .raised) :
      Advanced call answer manager manager (.ends .raised)
  | gaveUp {outcome : PortOutcome} (hIdle : call.accounts = false)
      (hWrites : Host.writes call.suspended outcome = none) :
      Advanced call answer manager manager (.ends outcome)
  | unclosed {outcome : PortOutcome} (hClosing : call.closing = true) (hFails : answer.fails = true)
      (hWrites : Host.writes call.suspended outcome = none) :
      Advanced call answer manager manager (.ends outcome)
  | closed {outcome : PortOutcome} {state : BootstrapOperationState}
      (hClosing : call.closing = true)
      (hWrites : Host.writes call.suspended outcome = some (call.operationId, state))
      (hEnded : state.active = false) :
      Advanced call answer manager manager (.ends outcome)

theorem Follows.configure {request : NetworkChangeRequest} {previous : NetworkState}
    {await next : BeginAwait}
    (hEarly : (InFlight.configure request previous next).early = true →
      (InFlight.configure request previous await).early = true) :
    (InFlight.configure request previous await).Follows (.configure request previous next) where
  id := rfl
  early := hEarly
  request _ _ _ hSame := by
    cases hSame
    exact ⟨await, rfl⟩

theorem Follows.confirm {active : ActiveNetworkChange} {await next : ConfirmAwait} :
    (InFlight.confirm active await).Follows (.confirm active next) where
  id := rfl
  early hEarly := by cases hEarly
  request _ _ _ hSame := by cases hSame

theorem Follows.rollback {active : ActiveNetworkChange} {await next : RollbackAwait} :
    (InFlight.rollback active await).Follows (.rollback active next) where
  id := rfl
  early hEarly := by cases hEarly
  request _ _ _ hSame := by cases hSame

theorem Advanced.stays {call : InFlight} {answer : Answer} {manager : NetworkManager} :
    Advanced call answer manager manager (.waits call) :=
  .kept ⟨rfl, id, fun _ _ await hSame => ⟨await, hSame⟩⟩ id id

theorem stagingFailed_advanced {request : NetworkChangeRequest} {previous : NetworkState}
    {await : BeginAwait} {answer : Answer} {manager : NetworkManager} {checkpointPath failure : String}
    (hClears : checkpointPath = "/" → (configure request previous await).clears answer = true) :
    Advanced (configure request previous await) answer manager
      (manager.stagingFailed checkpointPath failure).1
      ((manager.stagingFailed checkpointPath failure).2.map (configure request previous)) := by
  unfold NetworkManager.stagingFailed
  split
  · exact .kept (.configure nofun) (fun _ => rfl) nofun
  · rename_i hRoot
    exact .undone (hClears (not_not.mp hRoot)) rfl

theorem beginAnswered_advanced (request : NetworkChangeRequest) (previous : NetworkState)
    (await : BeginAwait) (answer : Answer) (manager : NetworkManager) :
    Advanced (configure request previous await) answer manager
      (manager.beginAnswered request await answer).1
      ((manager.beginAnswered request await answer).2.map (configure request previous)) := by
  cases await with
  | interfaces =>
    cases answer with
    | done => exact .kept (.configure fun _ => rfl) (fun _ => rfl) nofun
    | provisioningError => exact .unstaged rfl rfl
    | raised => exact .raised rfl rfl
    | _ => exact .stays
  | previousSsid =>
    cases answer with
    | ssid => exact .kept (.configure fun _ => rfl) (fun _ => rfl) nofun
    | provisioningError | raised => exact .unstaged rfl rfl
    | _ => exact .stays
  | checkpoint =>
    cases answer with
    | checkpoint => exact .kept (.configure fun _ => rfl) (fun _ => rfl) nofun
    | provisioningError | raised => exact .unstaged rfl rfl
    | _ => exact .stays
  | activation checkpointPath previousSsid =>
    simp only [NetworkManager.beginAnswered]
    split
    · rename_i failure hFailure
      exact stagingFailed_advanced fun hRoot => by simp [clears, hRoot, hFailure]
    · split
      · exact .staged rfl rfl (.configure nofun) rfl rfl
      · exact .stays
  | activated checkpointPath =>
    simp only [NetworkManager.beginAnswered]
    split
    · rename_i failure hFailure
      exact stagingFailed_advanced fun hRoot => by simp [clears, hRoot, hFailure]
    · split
      · exact .kept (.configure nofun) nofun nofun
      · exact .stays
  | undoRollback checkpointPath failure =>
    simp only [NetworkManager.beginAnswered]
    split
    · exact .kept (.configure nofun) (fun _ => rfl) nofun
    · split
      · rename_i hFails
        exact .undone (by simpa [clears] using hFails) rfl
      · exact .stays
  | undoDestroy failure =>
    simp only [NetworkManager.beginAnswered]
    split
    · rename_i hEnds
      exact .undone (by simpa [clears] using hEnds) rfl
    · exact .stays
  | state =>
    cases answer with
    | ssid => exact .returned rfl rfl rfl rfl
    | provisioningError | raised => exact .unread rfl rfl rfl
    | _ => exact .stays

theorem confirmAnswered_advanced (active : ActiveNetworkChange) (await : ConfirmAwait)
    (answer : Answer) (manager : NetworkManager) :
    Advanced (confirm active await) answer manager
      (manager.confirmAnswered active await answer).1
      ((manager.confirmAnswered active await answer).2.map (confirm active)) := by
  cases await with
  | interfaces =>
    cases answer with
    | done => exact .kept .confirm nofun nofun
    | provisioningError | raised => exact .gaveUp rfl rfl
    | _ => exact .stays
  | currentSsid =>
    cases answer with
    | ssid current =>
      simp only [NetworkManager.confirmAnswered, Went.currentSsid]
      split
      · exact .gaveUp rfl rfl
      · exact .kept .confirm nofun nofun
    | provisioningError | raised => exact .gaveUp rfl rfl
    | _ => exact .stays
  | destroy =>
    simp only [NetworkManager.confirmAnswered]
    split
    · rename_i hDone
      exact .dropped (by simpa [clears] using hDone) .confirm rfl
    · split
      · exact .gaveUp rfl rfl
      · exact .stays
  | state =>
    cases answer with
    | ssid => exact .closed rfl rfl rfl
    | provisioningError | raised => exact .unclosed rfl rfl rfl
    | _ => exact .stays

theorem rollbackAnswered_advanced (active : ActiveNetworkChange) (await : RollbackAwait)
    (answer : Answer) (manager : NetworkManager) :
    Advanced (rollback active await) answer manager (manager.rollbackAnswered await answer).1
      ((manager.rollbackAnswered await answer).2.map (rollback active)) := by
  cases await with
  | interfaces =>
    cases answer with
    | done => exact .kept .rollback nofun nofun
    | provisioningError | raised => exact .gaveUp rfl rfl
    | _ => exact .stays
  | rollback =>
    simp only [NetworkManager.rollbackAnswered]
    split
    · exact .kept .rollback nofun nofun
    · split
      · exact .gaveUp rfl rfl
      · exact .stays
  | destroy =>
    simp only [NetworkManager.rollbackAnswered]
    split
    · rename_i hDone
      exact .dropped (by simpa [clears] using hDone) .rollback rfl
    · split
      · exact .gaveUp rfl rfl
      · exact .stays
  | state =>
    cases answer with
    | ssid => exact .closed rfl rfl rfl
    | provisioningError | raised => exact .unclosed rfl rfl rfl
    | _ => exact .stays

theorem answered_advanced (call : InFlight) (answer : Answer) (manager : NetworkManager) :
    Advanced call answer manager (call.answered answer manager).1
      (call.answered answer manager).2 := by
  cases call with
  | configure request previous await =>
    exact beginAnswered_advanced request previous await answer manager
  | confirm active await => exact confirmAnswered_advanced active await answer manager
  | rollback active await => exact rollbackAnswered_advanced active await answer manager

theorem resumed_puts (call : InFlight) {outcome : PortOutcome} {state : BootstrapOperationState}
    {s : Store} (h : s.Known call.operationId)
    (hWrites : Host.writes call.suspended outcome = some (call.operationId, state))
    (now failedAt : String) :
    s.Puts call.operationId state (call.suspended.resumed outcome now failedAt s).2 := by
  obtain ⟨current, hFound⟩ := Option.ne_none_iff_exists'.mp (Store.known_iff.mp h)
  obtain ⟨networkState, updatedAt, errorCode, hStore⟩ :=
    Host.resumed_store hWrites hFound now failedAt
  rw [hStore]
  exact Store.puts_updateOperation h state networkState updatedAt errorCode

theorem resumed_same {call : InFlight} {outcome : PortOutcome}
    (hWrites : Host.writes call.suspended outcome = none) (now failedAt : String) (s : Store) :
    (call.suspended.resumed outcome now failedAt s).2 = s := by
  cases call with
  | configure =>
    cases outcome with
    | returned | provisioningError => cases hWrites
    | raised => rfl
  | confirm | rollback =>
    cases outcome with
    | returned => cases hWrites
    | provisioningError | raised => rfl

end InFlight

namespace Wired

variable {platform : Platform}

theorem sound_ends_written {w : Wired} (h : w.Sound) {i : Nat} {call : InFlight}
    (hCall : w.calls[i]? = some call) {outcome : PortOutcome} {state : BootstrapOperationState}
    (hWrites : Host.writes call.suspended outcome = some (call.operationId, state))
    (hEnded : state.active = false) (now failedAt : String) {manager : NetworkManager}
    (hHolds : ∀ id, manager.holds id ↔ w.manager.holds id ∧ id ≠ call.operationId) :
    Sound ⟨(call.suspended.resumed outcome now failedAt w.store).2, manager,
      w.calls.eraseIdx i⟩ := by
  have hPuts := InFlight.resumed_puts call (h.known call (List.mem_of_getElem? hCall)) hWrites
    now failedAt
  refine sound_ends_inactive h hCall (fun id => ?_) hPuts.known hHolds
  rw [hPuts.pending, hEnded]
  split
  · rename_i hSame
    simp [hSame]
  · rename_i hNe
    simp [hNe]

theorem holds_same {manager : NetworkManager} {operationId : String}
    (h : ¬ manager.holds operationId) (id : String) :
    manager.holds id ↔ manager.holds id ∧ id ≠ operationId :=
  ⟨fun hHolds => ⟨hHolds, fun hSame => h (hSame ▸ hHolds)⟩, And.left⟩

theorem holds_cleared {manager : NetworkManager} {operationId : String}
    (h : ∀ id, manager.holds id → id = operationId) (id : String) :
    manager.cleared.holds id ↔ manager.holds id ∧ id ≠ operationId :=
  ⟨fun hHolds => (by cases hHolds), fun hOther => absurd (h id hOther.1) hOther.2⟩

theorem Careful.owns {w : Wired} {call : InFlight} {answer : Answer} (h : w.Careful call answer)
    (hClears : call.clears answer = true) (id : String) (hHolds : w.manager.holds id) :
    id = call.operationId := by
  obtain ⟨change, hActive, rfl⟩ := Option.map_eq_some_iff.mp hHolds
  exact h.own hClears change hActive

theorem sound_answered {w : Wired} (h : w.Sound) {i : Nat} {call : InFlight}
    (hCall : w.calls[i]? = some call) {answer : Answer} (hCareful : w.Careful call answer)
    (now failedAt : String) {manager : NetworkManager} {went : Went InFlight}
    (hAdvanced : call.Advanced answer w.manager manager went) :
    (w.settle i call now failedAt (manager, went)).Sound := by
  have hMem := List.mem_of_getElem? hCall
  cases hAdvanced with
  | kept hNext hAccounts hClosing =>
    exact sound_proceeds h hCall hNext hAccounts hClosing
  | @staged request previous await change next hRequest hEarly hNext hStaged hChange =>
    refine sound_stages h hCall hNext hEarly hStaged fun id => ?_
    subst hRequest
    rw [h.canonical request previous await hMem] at hChange
    simp only [NetworkManager.holds, Option.map_some, Option.some.injEq, hChange,
      InFlight.operationId]
    exact eq_comm
  | dropped hClears hNext hClosing =>
    exact sound_drops h hCall hNext (hCareful.owns hClears) hClosing
  | undone hClears hWrites =>
    exact sound_ends_written h hCall hWrites rfl now failedAt
      (holds_cleared (hCareful.owns hClears))
  | unstaged hEarly hWrites =>
    exact sound_ends_written h hCall hWrites rfl now failedAt
      (holds_same (h.early call hMem hEarly).2)
  | unread hStaged hFails hWrites =>
    exact sound_ends_written h hCall hWrites rfl now failedAt
      (holds_same (hCareful.unread hStaged hFails))
  | returned hStaged hRead hIdle hWrites =>
    have hPuts := InFlight.resumed_puts call (h.known call hMem) hWrites now failedAt
    have hActive := h.held _ (hCareful.read hStaged hRead)
    refine sound_ends_kept h hCall (fun id => ?_) hPuts.known hIdle
    rw [hPuts.pending]
    split
    · rename_i hSame
      exact ⟨fun _ => hSame ▸ hActive, fun _ => rfl⟩
    · rfl
  | raised hOpening hRaised => exact absurd hRaised (hCareful.opening hOpening)
  | gaveUp hIdle hWrites =>
    simp only [settle, InFlight.resumed_same hWrites]
    exact sound_ends_kept h hCall (fun _ => .rfl) (fun _ => id) hIdle
  | unclosed hClosing hFails hWrites =>
    simp only [settle, InFlight.resumed_same hWrites]
    have hEnded := hCareful.closed hClosing hFails
    refine sound_ends_inactive h hCall (fun id => ?_) (fun _ => id)
      (holds_same (h.closing call hMem hClosing))
    exact ⟨fun hActive => ⟨hActive, fun hSame => hEnded (hSame ▸ hActive)⟩, And.left⟩
  | closed hClosing hWrites hEnded =>
    exact sound_ends_written h hCall hWrites hEnded now failedAt
      (holds_same (h.closing call hMem hClosing))

theorem requireActive_ok {manager : NetworkManager} {operationId : String}
    {active : ActiveNetworkChange} (h : manager.requireActive operationId = .ok active) :
    active.operationId = operationId ∧ manager.active = some active := by
  unfold NetworkManager.requireActive at h
  split at h
  · rename_i held hActive
    split at h
    · cases h
    · rename_i hSame
      cases h
      exact ⟨not_not.mp hSame, hActive⟩
  · cases h

theorem beginChange_cases (manager : NetworkManager) (request : NetworkChangeRequest) :
    (∃ message, manager.beginChange request = .ends (.provisioningError message)) ∨
      manager.beginChange request = .waits .interfaces := by
  unfold NetworkManager.beginChange
  split
  · exact .inl ⟨_, rfl⟩
  · split
    · exact .inl ⟨_, rfl⟩
    · split
      · exact .inl ⟨_, rfl⟩
      · exact .inr rfl

theorem sound_begins {w : Wired} (h : w.Sound) {request : NetworkChangeRequest}
    (previous : NetworkState) {t : Store} (hId : strip request.operationId = request.operationId)
    (hNew : ¬ w.store.Known request.operationId) (hIdle : ∀ id, ¬ w.store.Pending id)
    (hKnown : ∀ id, w.store.Known id → t.Known id)
    (hPending : ∀ id, t.Pending id ↔ id = request.operationId) :
    Sound { w with
      store := t
      calls := w.calls ++ [.configure request previous .interfaces] } := by
  have hNone : ∀ id, ¬ w.manager.holds id := fun id hHolds => hIdle id (h.held id hHolds)
  have hLate : ∀ call ∈ w.calls, call.early = false := by
    intro call hCall
    rw [Bool.eq_false_iff]
    exact fun hEarly => hIdle _ (h.early call hCall hEarly).1
  refine ⟨?_, ?_, ?_, ?_, ?_, ?_, ?_, ?_⟩
  · intro first second hFirst hSecond
    rw [(hPending first).mp hFirst, (hPending second).mp hSecond]
  · exact fun id hHolds => absurd hHolds (hNone id)
  · intro id hActive
    exact .inr ⟨_, List.mem_append_right _ List.mem_cons_self, ((hPending id).mp hActive).symm, rfl⟩
  · intro call hCall hEarly
    rcases List.mem_append.mp hCall with hOld | hLast
    · rw [hLate call hOld] at hEarly
      cases hEarly
    · rw [List.mem_singleton.mp hLast]
      exact ⟨(hPending _).mpr rfl, hNone _⟩
  · refine List.pairwise_append.mpr ⟨h.alone, List.pairwise_singleton _ _, ?_⟩
    intro call hCall last hLast _ hSame
    rw [List.mem_singleton.mp hLast] at hSame
    have hKnownId := h.known call hCall
    rw [hSame] at hKnownId
    exact hNew hKnownId
  · exact fun call _ _ => hNone _
  · intro call hCall
    rcases List.mem_append.mp hCall with hOld | hLast
    · exact hKnown _ (h.known call hOld)
    · rw [List.mem_singleton.mp hLast]
      exact ((hPending request.operationId).mpr rfl).known
  · intro other earlier await hCall
    rcases List.mem_append.mp hCall with hOld | hLast
    · exact h.canonical other earlier await hOld
    · cases List.mem_singleton.mp hLast
      exact hId

theorem sound_configured {w : Wired} (h : w.Sound) {request : NetworkChangeRequest}
    {previous : NetworkState} {t : Store} (hId : strip request.operationId = request.operationId)
    (hNew : ¬ w.store.Known request.operationId) (hIdle : ∀ id, ¬ w.store.Pending id)
    (hKnown : ∀ id, w.store.Known id → t.Known id)
    (hPending : ∀ id, t.Pending id ↔ id = request.operationId) (now failedAt : String) :
    (w.enter (.suspended (.configure request previous), t) now failedAt).Sound := by
  have hSelf : t.Known request.operationId := ((hPending request.operationId).mpr rfl).known
  have hFailed : ∀ message, Sound { w with
      store := ((Suspended.configure request previous).resumed (.provisioningError message) now
        failedAt t).2 } := by
    intro message
    have hPuts : t.Puts request.operationId .failed
        ((Suspended.configure request previous).resumed (.provisioningError message) now
          failedAt t).2 :=
      InFlight.resumed_puts (.configure request previous .interfaces) hSelf rfl now failedAt
    refine sound_store h (fun id => ?_) fun id hOld => hPuts.known id (hKnown id hOld)
    refine iff_of_false (fun hActive => ?_) (hIdle id)
    have hAfter := (hPuts.pending id).mp hActive
    split at hAfter
    · cases hAfter
    · rename_i hNe
      exact hNe ((hPending id).mp hAfter)
  rcases beginChange_cases w.manager request with ⟨message, hBegin⟩ | hBegin
  · simp only [enter, NetworkManager.entered, hBegin, Went.map]
    exact hFailed message
  · simp only [enter, NetworkManager.entered, hBegin, Went.map]
    exact sound_begins h previous hId hNew hIdle hKnown hPending

theorem sound_entered {w : Wired} (h : w.Sound) {operationId : String} {call : Suspended}
    (flight : ActiveNetworkChange → InFlight) (now failedAt : String)
    (hEntered : w.manager.entered call = some
      (match w.manager.requireActive operationId with
      | .ok active => .waits (flight active)
      | .error message => .ends (.provisioningError message)))
    (hFlight : ∀ active, (flight active).operationId = active.operationId ∧
      (flight active).accounts = false ∧
      ∀ request previous await, flight active ≠ .configure request previous await)
    (hRefused : ∀ message, (call.resumed (.provisioningError message) now failedAt w.store).2 =
      w.store) :
    (w.enter (.suspended call, w.store) now failedAt).Sound := by
  cases hActive : w.manager.requireActive operationId with
  | error message =>
    simp only [enter, hEntered, hActive, hRefused]
    exact h
  | ok active =>
    obtain ⟨_, hHeld⟩ := requireActive_ok hActive
    obtain ⟨hSame, hIdle, hRequest⟩ := hFlight active
    simp only [enter, hEntered, hActive]
    refine sound_joins h ?_ hIdle hRequest
    rw [hSame, NetworkManager.holds, hHeld]
    rfl

theorem sound_opened {w : Wired} (h : w.Sound) {progress : Progress} {t : Store}
    (hOpened : Opened w.store progress t) (now failedAt : String) :
    (w.enter (progress, t) now failedAt).Sound := by
  cases hOpened with
  | ended hRows =>
    obtain ⟨hKnown, hPending⟩ := Store.puts_of_same hRows
    exact sound_store h hPending fun id => (hKnown id).mpr
  | configured hId hNew hIdle hKnown hPending =>
    exact sound_configured h hId hNew hIdle hKnown hPending now failedAt
  | @confirmed operationId hKnown =>
    exact sound_entered h (fun active => .confirm active .interfaces) now failedAt rfl
      (fun _ => ⟨rfl, rfl, fun _ _ _ hSame => by cases hSame⟩) fun _ => rfl
  | @rolledBack operationId t hActive hPuts =>
    have hWritten : Sound { w with store := t } := by
      refine sound_store h (fun id => ?_) hPuts.known
      rw [hPuts.pending]
      split
      · rename_i hSame
        exact ⟨fun _ => hSame ▸ hActive, fun _ => rfl⟩
      · rfl
    exact sound_entered hWritten (fun active => .rollback active .interfaces) now failedAt rfl
      (fun _ => ⟨rfl, rfl, fun _ _ _ hSame => by cases hSame⟩) fun _ => rfl

theorem sound_step {w : Wired} (h : w.Sound) {event : NetworkEvent}
    (hGuarded : w.Guarded platform event) : (w.step platform event).Sound := by
  cases event with
  | configureNetwork access payload now failedAt =>
    exact sound_opened h (configureNetwork_opened platform access payload now failedAt w.store)
      now failedAt
  | confirmNetwork access operationId now =>
    exact sound_opened h (confirmNetwork_opened platform access operationId now w.store) now now
  | rollbackNetwork access operationId now =>
    exact sound_opened h (rollbackNetwork_opened hGuarded) now now
  | answered i answer now failedAt =>
    simp only [step]
    split
    · exact h
    · rename_i call hCall
      exact sound_answered h hCall (hGuarded call hCall) now failedAt
        (call.answered_advanced answer w.manager)

theorem not_pending_restart (platform : Platform) (settings : BootstrapSettings) (store : Store)
    (now : String) (draw : WindowDraw) (id : String) :
    ¬ (store.restart platform settings now draw).2.Pending id := by
  obtain ⟨opened, hOpened⟩ := Store.openWindow_cases (s := (store.failInterruptedOperations now).2)
    (t := (store.restart platform settings now draw).2) (.inl rfl)
  have hRows : (store.restart platform settings now draw).2.operations =
      Store.failActive now "daemon_restarted" store.operations := by
    have hFailed : (store.failInterruptedOperations now).2.operations =
        Store.failActive now "daemon_restarted" store.operations := by
      simp only [Store.failInterruptedOperations]
      split
      · rfl
      · rfl
    rw [hOpened, ← hFailed]
    cases opened with
    | none => rfl
    | some drawn => exact (Store.apply_leavesNetwork (by trivial) _).1
  rintro ⟨row, hRow, _, hActive⟩
  rw [hRows] at hRow
  obtain ⟨old, _, rfl⟩ := mem_updateWhere.mp hRow
  split at hActive
  · cases hActive
  · rename_i hEnded
    exact hEnded hActive

theorem sound_started (platform : Platform) (settings : BootstrapSettings) (store : Store)
    (now : String) (draw : WindowDraw) (recoveryComplete : Bool) :
    (started platform settings store now draw recoveryComplete).Sound := by
  have hNone := not_pending_restart platform settings store now draw
  refine ⟨?_, ?_, ?_, ?_, List.Pairwise.nil, ?_, ?_, ?_⟩
  · exact fun first _ hFirst => absurd hFirst (hNone first)
  · intro id hHolds
    cases hHolds
  · exact fun id hActive => absurd hActive (hNone id)
  · intro call hCall
    cases hCall
  · intro call hCall
    cases hCall
  · intro call hCall
    cases hCall
  · intro request previous await hCall
    cases hCall

/-- Between calls the two sides name the same change: the adapter finishes the
operation that the store has active, and is free when there is none. -/
structure Agrees (w : Wired) : Prop where
  same : ∀ id, w.store.Pending id ↔ w.manager.holds id
  finishes : ∀ id, w.store.Pending id → ∃ active, w.manager.requireActive id = .ok active
  free : (∀ id, ¬ w.store.Pending id) → w.manager.active = none

theorem agrees_of_sound {w : Wired} (h : w.Sound) (hIdle : w.calls = []) : w.Agrees := by
  have hSame : ∀ id, w.store.Pending id ↔ w.manager.holds id := by
    refine fun id => ⟨fun hActive => ?_, h.held id⟩
    rcases h.accounted id hActive with hHeld | ⟨call, hCall, _⟩
    · exact hHeld
    · rw [hIdle] at hCall
      cases hCall
  refine ⟨hSame, ?_, ?_⟩
  · intro id hActive
    obtain ⟨active, hHeld, hId⟩ := Option.map_eq_some_iff.mp ((hSame id).mp hActive)
    exact ⟨active, by simp [NetworkManager.requireActive, hHeld, hId]⟩
  · intro hNone
    cases hHeld : w.manager.active with
    | none => rfl
    | some active =>
      have hHolds : w.manager.holds active.operationId := by
        rw [NetworkManager.holds, hHeld]
        rfl
      exact absurd ((hSame _).mpr hHolds) (hNone _)

end Wired

/-- Over every run of the three use cases, in any interleaving at the awaits of the
adapter, whose events are guarded: whenever no call is in flight, the store and the
adapter agree on the change in progress. -/
theorem store_and_adapter_agree (platform : Platform) (settings : BootstrapSettings) (store : Store)
    (now : String) (draw : WindowDraw) (recoveryComplete : Bool) (events : List NetworkEvent)
    (hGuarded : Meets (Wired.step platform) (Wired.Guarded platform)
      (Wired.started platform settings store now draw recoveryComplete) events) :
    ∀ before rest, events = before ++ rest →
      (run (Wired.step platform)
        (Wired.started platform settings store now draw recoveryComplete) before).calls = [] →
      (run (Wired.step platform)
        (Wired.started platform settings store now draw recoveryComplete) before).Agrees := by
  intro before rest hSplit hIdle
  rw [hSplit, meets_append] at hGuarded
  refine Wired.agrees_of_sound (Meets.run_invariant (P := Wired.Sound) ?_ ?_ hGuarded.1) hIdle
  · exact fun w event hEvent h => Wired.sound_step h hEvent
  · exact Wired.sound_started platform settings store now draw recoveryComplete

namespace UnreadState

open RollbackAfterConfirm

def host : Wired :=
  .started platform {} (Host.after platform {} "" (confirmed.take 2)).store "2026-08-05T00:00:02Z"
    ⟨none, "", "", ""⟩ true

def wiredAfter (events : List NetworkEvent) : Wired := run (Wired.step platform) host events

def answer (answer : Answer) : NetworkEvent :=
  .answered 0 answer "2026-08-05T00:00:04Z" "2026-08-05T00:00:04Z"

def staging : List NetworkEvent :=
  [.configureNetwork (.controller grant)
    (.obj [("operation_id", .str operationId), ("ssid", .str "Home")])
    "2026-08-05T00:00:03Z" "2026-08-05T00:00:03Z",
   answer .done, answer (.ssid (some "Office")), answer (.checkpoint "/Checkpoint/1"), answer .done,
   answer (.deviceState 70), answer (.deviceState 100)]

def confirming : List NetworkEvent :=
  staging ++ [answer (.ssid (some "Home")),
    .confirmNetwork (.controller grant) (.str operationId) "2026-08-05T00:00:05Z",
    answer .done, answer (.ssid (some "Home")), answer .done]

def sides (w : Wired) : Option (List String × Option String) :=
  if w.calls = [] then
    some ((w.store.operations.filter fun row => row.state.active).map (fun row => row.operationId),
      w.manager.active.map fun change => change.operationId)
  else none

theorem mem_of_agrees {w : Wired} {pending : List String} {held : Option String}
    (hSides : sides w = some (pending, held)) (h : w.Agrees) (id : String) :
    id ∈ pending ↔ held = some id := by
  unfold sides at hSides
  split at hSides
  · cases hSides
    refine Iff.trans ?_ (h.same id)
    simp only [List.mem_map, List.mem_filter, Store.Pending]
    constructor
    · rintro ⟨row, ⟨hRow, hActive⟩, hId⟩
      exact ⟨row, hRow, hId, hActive⟩
    · rintro ⟨row, hRow, hId, hActive⟩
      exact ⟨row, ⟨hRow, hActive⟩, hId⟩
  · cases hSides

theorem sides_staging :
    sides (wiredAfter (staging ++ [answer .raised])) = some ([], some operationId) := by
  decide +kernel

theorem sides_confirming :
    sides (wiredAfter (confirming ++ [answer .raised])) = some ([operationId], none) := by
  decide +kernel

/-- A failed last reading leaves a failed operation that the adapter holds, or an
active operation that it no longer holds. -/
theorem last_reading_parts_store_and_adapter :
    ((wiredAfter (staging ++ [answer .raised])).calls = [] ∧
      ¬ (wiredAfter (staging ++ [answer .raised])).Agrees) ∧
    ((wiredAfter (confirming ++ [answer .raised])).calls = [] ∧
      ¬ (wiredAfter (confirming ++ [answer .raised])).Agrees) := by
  refine ⟨⟨by decide +kernel, fun h => ?_⟩, ⟨by decide +kernel, fun h => ?_⟩⟩
  · have hHeld := (mem_of_agrees sides_staging h operationId).mpr rfl
    cases hHeld
  · have hHeld := (mem_of_agrees sides_confirming h operationId).mp List.mem_cons_self
    cases hHeld

theorem store_and_adapter_agree_confirmed :
    (wiredAfter (confirming ++ [answer (.ssid (some "Home"))])).calls = [] ∧
    (wiredAfter (confirming ++ [answer (.ssid (some "Home"))])).Agrees :=
  ⟨by decide +kernel,
    store_and_adapter_agree platform {} _ "2026-08-05T00:00:02Z" ⟨none, "", "", ""⟩ true
      (confirming ++ [answer (.ssid (some "Home"))]) (by decide +kernel) _ []
      (List.append_nil _).symm (by decide +kernel)⟩

end UnreadState

end EidolonAdmin.Bootstrap

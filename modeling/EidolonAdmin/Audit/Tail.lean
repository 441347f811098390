import EidolonAdmin.Foundation.Table
import EidolonAdmin.Foundation.Transition
import EidolonAdmin.Audit.Index

/-! # Following the audit tail with a cursor

A consumer reads the tail behind the last sequence it received, while events are
ingested and old rows are pruned. Sequences stay unused and nothing is skipped
over exactly the runs in which no pruning deletes the row of the highest
sequence.
-/

namespace EidolonAdmin.Audit

open Foundation.Transition Foundation.Rowid

universe u

variable {ν : Type u}

/-- The table, the rows it was ever given (which no operation reads), and the
cursor of the consumer. -/
structure Watched (ν : Type u) where
  rows : Rows ν := []
  handedOut : Rows ν := []
  cursor : Option Nat := none

inductive TailAction (ν : Type u) where
  | ingest (events : List (AuditEnvelope ν))
  | prune (before maxRows : Int)
  | read (limit : Int)

namespace Watched

def insertOne (s : Watched ν) (item : AuditEnvelope ν) : Watched ν :=
  { s with
    rows := ingestOne s.rows item
    handedOut := s.handedOut ++ (ingestOne s.rows item).drop s.rows.length }

variable (ownerId : String)

def step (s : Watched ν) : TailAction ν → Watched ν
  | .ingest events => run insertOne s events
  | .prune before maxRows => { s with rows := prune before maxRows s.rows }
  | .read limit =>
    { s with
      cursor := ((tailForOwner ownerId s.cursor limit s.rows).getLast?.map seqOf).or s.cursor }

def after (actions : List (TailAction ν)) : Watched ν := run (step ownerId) {} actions

def NeverReused (s : Watched ν) : Prop :=
  (s.handedOut.map seqOf).Nodup ∧ ∀ row ∈ s.handedOut, row.ingestSeq ≠ nextSeq s.rows

/-- What the Owner has in the table in `t`, and what came behind the cursor of `s`,
is in the tail read in `t`, or the tail is full before it. -/
def Delivers (s t : Watched ν) : Prop :=
  ∀ cursor limit, s.cursor = some cursor → ∀ row ∈ t.rows, row.envelope.ownerId = some ownerId →
    row ∈ t.handedOut.drop s.handedOut.length ∨ (row ∈ s.rows ∧ cursor < row.ingestSeq) →
      row ∈ tailForOwner ownerId t.cursor limit t.rows ∨
        (((tailForOwner ownerId t.cursor limit t.rows).length : Int) = limit ∧
          ∀ returned ∈ tailForOwner ownerId t.cursor limit t.rows,
            returned.ingestSeq < row.ingestSeq)

/-- A pruning whose cutoff spares the row of the highest sequence. -/
def KeepsNewest (s : Watched ν) : TailAction ν → Prop
  | .prune before _ => ∀ row ∈ s.rows, row.ingestSeq = largest seqOf s.rows →
      before ≤ row.envelope.occurredAt
  | _ => True

variable {ownerId}

theorem insertOne_cases (s : Watched ν) (item : AuditEnvelope ν) :
    s.insertOne item = s ∨
    s.insertOne item = { s with
      rows := s.rows ++ [⟨nextSeq s.rows, item⟩]
      handedOut := s.handedOut ++ [⟨nextSeq s.rows, item⟩] } := by
  rcases ingestOne_cases s.rows item with hSame | hNew
  · left
    simp [insertOne, hSame]
  · right
    simp [insertOne, hNew]

theorem rows_run_insertOne (s : Watched ν) (events : List (AuditEnvelope ν)) :
    (run insertOne s events).rows = ingest s.rows events := by
  induction events generalizing s with
  | nil => rfl
  | cons item rest ih => exact ih (s.insertOne item)

/-- What holds of every run: the stored rows were handed out, under distinct
sequences, and below a sequence that was handed out there is none that was not. -/
structure Tracked (s : Watched ν) : Prop where
  unique : (s.rows.map seqOf).Nodup
  subset : ∀ row ∈ s.rows, row ∈ s.handedOut
  positive : ∀ row ∈ s.handedOut, 0 < row.ingestSeq
  dense : ∀ row ∈ s.handedOut, ∀ k, 1 ≤ k → k ≤ row.ingestSeq →
    ∃ other ∈ s.handedOut, other.ingestSeq = k

theorem tracked_insertOne (s : Watched ν) (item : AuditEnvelope ν) (h : s.Tracked) :
    (s.insertOne item).Tracked := by
  rcases s.insertOne_cases item with hSame | hNew
  · rw [hSame]
    exact h
  · rw [hNew]
    refine ⟨?_, ?_, ?_, ?_⟩
    · refine Foundation.Table.nodup_append_row h.unique fun row hRow => ?_
      exact Nat.ne_of_lt (lt_nextSeq hRow)
    · intro row hRow
      rcases List.mem_append.mp hRow with hOld | hLast
      · exact List.mem_append_left _ (h.subset row hOld)
      · exact List.mem_append_right _ hLast
    · intro row hRow
      rcases List.mem_append.mp hRow with hOld | hLast
      · exact h.positive row hOld
      · rw [List.mem_singleton.mp hLast]
        exact Nat.succ_pos _
    · have hOld : ∀ row ∈ s.handedOut, ∀ k, 1 ≤ k → k ≤ row.ingestSeq →
          ∃ other ∈ s.handedOut ++ [⟨nextSeq s.rows, item⟩], other.ingestSeq = k := by
        intro row hRow k hPos hLe
        obtain ⟨other, hOther, hSeq⟩ := h.dense row hRow k hPos hLe
        exact ⟨other, List.mem_append_left _ hOther, hSeq⟩
      intro row hRow k hPos hLe
      rcases List.mem_append.mp hRow with hBefore | hLast
      · exact hOld row hBefore k hPos hLe
      · rw [List.mem_singleton.mp hLast] at hLe
        by_cases hNext : k = nextSeq s.rows
        · exact ⟨_, List.mem_append_right _ (List.mem_singleton_self _), hNext.symm⟩
        · have hStored : s.rows ≠ [] := by
            rintro hNil
            simp only [hNil, nextSeq, nextRowid, largest, List.foldr_nil] at hLe hNext
            omega
          obtain ⟨newest, hNewest, hSeq⟩ : ∃ row ∈ s.rows, seqOf row = largest seqOf s.rows :=
            exists_key_eq_largest hStored
          refine hOld newest (h.subset newest hNewest) k hPos ?_
          have hSeq' : newest.ingestSeq = largest seqOf s.rows := hSeq
          simp only [nextSeq, nextRowid] at hLe hNext
          omega

theorem tracked_step (s : Watched ν) (a : TailAction ν) (h : s.Tracked) :
    (s.step ownerId a).Tracked := by
  cases a with
  | ingest events => exact run_invariant tracked_insertOne h events
  | prune before maxRows =>
    have hSublist := prune_sublist before maxRows s.rows
    exact ⟨h.unique.sublist (hSublist.map _), fun row hRow => h.subset row (hSublist.subset hRow),
      h.positive, h.dense⟩
  | read limit => exact ⟨h.unique, h.subset, h.positive, h.dense⟩

/-- What holds where no pruning deleted the newest row: everything handed out and
everything received lies below the next sequence. -/
structure Ahead (s : Watched ν) : Prop where
  distinct : (s.handedOut.map seqOf).Nodup
  handedOut : ∀ row ∈ s.handedOut, row.ingestSeq < nextSeq s.rows
  cursor : ∀ cursor, s.cursor = some cursor → cursor < nextSeq s.rows

def Continues (s t : Watched ν) : Prop :=
  nextSeq s.rows ≤ nextSeq t.rows ∧
    ∃ new, t.handedOut = s.handedOut ++ new ∧ ∀ row ∈ new, nextSeq s.rows ≤ row.ingestSeq

theorem Continues.refl (s : Watched ν) : s.Continues s := ⟨le_rfl, [], by simp, nofun⟩

theorem Continues.trans {s t u : Watched ν} (h : s.Continues t) (hNext : t.Continues u) :
    s.Continues u := by
  obtain ⟨hLe, new, hNew, hSeqs⟩ := h
  obtain ⟨hLe', new', hNew', hSeqs'⟩ := hNext
  refine ⟨hLe.trans hLe', new ++ new', by rw [hNew', hNew, List.append_assoc], ?_⟩
  intro row hRow
  rcases List.mem_append.mp hRow with hFirst | hSecond
  · exact hSeqs row hFirst
  · exact hLe.trans (hSeqs' row hSecond)

theorem continues_insertOne (s : Watched ν) (item : AuditEnvelope ν) :
    s.Continues (s.insertOne item) := by
  rcases s.insertOne_cases item with hSame | hNew
  · rw [hSame]
    exact .refl s
  · rw [hNew]
    refine ⟨?_, _, rfl, fun row hRow => ?_⟩
    · simp only [nextSeq, nextRowid, largest_append]
      omega
    · rw [List.mem_singleton.mp hRow]

theorem continues_step {s : Watched ν} {a : TailAction ν} (hKeeps : s.KeepsNewest a) :
    s.Continues (s.step ownerId a) := by
  cases a with
  | ingest events =>
    exact run_invariant (P := s.Continues) (fun t item h => h.trans (continues_insertOne t item))
      (.refl s) events
  | prune before maxRows =>
    have hSame := nextSeq_prune before maxRows hKeeps
    exact ⟨hSame.ge, [], by simp [step], nofun⟩
  | read limit => exact .refl s

theorem ahead_insertOne (s : Watched ν) (item : AuditEnvelope ν) (h : s.Ahead) :
    (s.insertOne item).Ahead := by
  have hGrows := (continues_insertOne s item).1
  rcases s.insertOne_cases item with hSame | hNew
  · rw [hSame]
    exact h
  · rw [hNew] at hGrows ⊢
    refine ⟨?_, fun row hRow => ?_, fun cursor hCursor => (h.cursor cursor hCursor).trans_le hGrows⟩
    · exact Foundation.Table.nodup_append_row h.distinct fun row hRow =>
        Nat.ne_of_lt (h.handedOut row hRow)
    · rcases List.mem_append.mp hRow with hOld | hLast
      · exact (h.handedOut row hOld).trans_le hGrows
      · rw [List.mem_singleton.mp hLast]
        exact lt_nextSeq (List.mem_append_right _ (List.mem_singleton_self _))

theorem ahead_step {s : Watched ν} {a : TailAction ν} (hKeeps : s.KeepsNewest a)
    (h : s.Ahead) : (s.step ownerId a).Ahead := by
  cases a with
  | ingest events => exact run_invariant ahead_insertOne h events
  | prune before maxRows =>
    have hSame := nextSeq_prune before maxRows hKeeps
    refine ⟨h.distinct, fun row hRow => ?_, fun cursor hCursor => ?_⟩
    · simp only [step, hSame]
      exact h.handedOut row hRow
    · simp only [step, hSame]
      exact h.cursor cursor hCursor
  | read limit =>
    refine ⟨h.distinct, h.handedOut, fun cursor hCursor => ?_⟩
    rcases Option.or_eq_some_iff.mp hCursor with hLast | ⟨_, hOld⟩
    · obtain ⟨row, hRow, rfl⟩ := Option.map_eq_some_iff.mp hLast
      exact lt_nextSeq (mem_of_mem_tailForOwner (List.mem_of_getLast? hRow))
    · exact h.cursor cursor hOld

theorem delivers_of_continues {s t : Watched ν} (hAhead : s.Ahead) (hTracked : t.Tracked)
    (hNext : s.Continues t) (hCursor : t.cursor = s.cursor) : Delivers ownerId s t := by
  intro cursor limit hRead row hRow hOwner hSource
  rw [hCursor, hRead]
  refine mem_tailForOwner hTracked.unique hRow hOwner ?_
  rcases hSource with hNew | ⟨_, hAfter⟩
  · obtain ⟨_, new, hHanded, hSeqs⟩ := hNext
    rw [hHanded, List.drop_left] at hNew
    have hBelow := hAhead.cursor cursor hRead
    have hAbove := hSeqs row hNew
    omega
  · exact hAfter

def isRead : TailAction ν → Bool
  | .read _ => true
  | _ => false

theorem cursor_step {s : Watched ν} {a : TailAction ν} (h : isRead a = false) :
    (s.step ownerId a).cursor = s.cursor := by
  cases a with
  | ingest events =>
    refine run_invariant (P := fun t : Watched ν => t.cursor = s.cursor) (fun t item hSame => ?_) rfl events
    rw [← hSame]
    rfl
  | prune before maxRows => rfl
  | read limit => cases h

theorem reused_of_prune {s : Watched ν} {before maxRows : Int} (h : s.Tracked)
    (hLost : ¬ s.KeepsNewest (.prune before maxRows)) :
    ∃ row ∈ s.handedOut, row.ingestSeq = nextSeq (prune before maxRows s.rows) := by
  simp only [KeepsNewest, not_forall, not_le] at hLost
  obtain ⟨newest, hNewest, hTop, hAged⟩ := hLost
  have hBelow : ∀ row ∈ prune before maxRows s.rows, row.ingestSeq < newest.ingestSeq := by
    intro row hRow
    have hAgedRow : row ∈ dropAged before s.rows := (dropOverflow_sublist _ _).subset hRow
    obtain ⟨hStored, hKept⟩ := List.mem_filter.mp hAgedRow
    have hLe : row.ingestSeq ≤ largest seqOf s.rows := key_le_largest hStored
    refine lt_of_le_of_ne (hTop ▸ hLe) fun hSame => ?_
    have hEq : row = newest := List.inj_on_of_nodup_map h.unique hStored hNewest hSame
    simp only [hEq, decide_eq_true_eq] at hKept
    exact hKept hAged
  refine h.dense newest (h.subset newest hNewest) _ (Nat.succ_pos _) ?_
  exact nextRowid_le (h.positive newest (h.subset newest hNewest)) hBelow

theorem tracked_empty : ({} : Watched ν).Tracked := ⟨List.nodup_nil, nofun, nofun, nofun⟩

theorem tracked_after (actions : List (TailAction ν)) : (after ownerId actions).Tracked :=
  run_invariant tracked_step tracked_empty actions

theorem ahead_empty : ({} : Watched ν).Ahead := ⟨List.nodup_nil, nofun, nofun⟩

theorem cursor_run {s : Watched ν} {actions : List (TailAction ν)}
    (h : ∀ a ∈ actions, isRead a = false) : (run (step ownerId) s actions).cursor = s.cursor :=
  Meets.run_invariant (P := fun t : Watched ν => t.cursor = s.cursor)
    (fun _ _ hOther hSame => (cursor_step hOther).trans hSame) rfl (Meets.of_mem s h)

/-- Over a run of ingesting, pruning and reading, no sequence is given out twice and
what comes behind the cursor is delivered by the next read, in every state of the
run, exactly if no pruning has a cutoff behind the row of the highest sequence. -/
theorem tail_never_loses_iff (ownerId : String) (actions : List (TailAction ν)) :
    (∀ before middle rest, actions = before ++ middle ++ rest →
      (after ownerId before).NeverReused ∧
      ((∀ a ∈ middle, isRead a = false) →
        Delivers ownerId (after ownerId before) (after ownerId (before ++ middle)))) ↔
    Meets (step ownerId) KeepsNewest {} actions := by
  constructor
  · intro h
    rw [meets_iff]
    intro before a rest hSplit
    by_contra hLost
    cases a with
    | ingest events => exact hLost trivial
    | read limit => exact hLost trivial
    | prune cutoff maxRows =>
      obtain ⟨row, hRow, hSeq⟩ := reused_of_prune (tracked_after before) hLost
      have hUnused := (h (before ++ [.prune cutoff maxRows]) [] rest (by simp [hSplit])).1.2
      rw [after, run_append] at hUnused
      exact hUnused row hRow hSeq
  · intro hMeets before middle rest hSplit
    rw [hSplit, meets_append, meets_append] at hMeets
    obtain ⟨⟨hBefore, hMiddle⟩, _⟩ := hMeets
    have hAhead : (after ownerId before).Ahead :=
      hBefore.run_invariant (fun _ _ hKeeps h => ahead_step hKeeps h) ahead_empty
    refine ⟨⟨hAhead.distinct, fun row hRow => Nat.ne_of_lt (hAhead.handedOut row hRow)⟩, ?_⟩
    intro hSilent
    have hContinues : (after ownerId before).Continues (after ownerId (before ++ middle)) := by
      rw [after, after, run_append]
      exact hMiddle.run_related (P := fun _ => True) Continues.refl (fun _ _ _ => .trans)
        (fun _ _ _ _ => trivial) (fun _ _ hKeeps _ => continues_step hKeeps) trivial
    refine delivers_of_continues hAhead (tracked_after _) hContinues ?_
    rw [after, after, run_append]
    exact cursor_run hSilent

namespace LateArrival

def recent : AuditEnvelope Unit := ⟨"e-1", some "owner", 100, ()⟩

def late : AuditEnvelope Unit := ⟨"e-2", some "owner", 10, ()⟩

def fresh : AuditEnvelope Unit := ⟨"e-3", some "owner", 110, ()⟩

def beforeRead : List (TailAction Unit) := [.ingest [recent, late], .read 50]

def sinceRead : List (TailAction Unit) := [.prune 50 1000, .ingest [fresh]]

/-- An event that arrives late takes sequence 2 and is pruned by its age; the next
event takes sequence 2 again, and the consumer behind cursor 2 never receives it. -/
theorem event_lost_behind_reused_sequence :
    (after "owner" beforeRead).cursor = some 2 ∧
    (⟨2, late⟩ ∈ (after "owner" (beforeRead ++ sinceRead)).handedOut ∧
      ⟨2, fresh⟩ ∈ (after "owner" (beforeRead ++ sinceRead)).handedOut) ∧
    ⟨2, fresh⟩ ∈ (after "owner" (beforeRead ++ sinceRead)).rows ∧
    tailForOwner "owner" (after "owner" (beforeRead ++ sinceRead)).cursor 50
      (after "owner" (beforeRead ++ sinceRead)).rows = [] ∧
    ¬ (after "owner" (beforeRead ++ sinceRead)).NeverReused ∧
    ¬ Delivers "owner" (after "owner" beforeRead) (after "owner" (beforeRead ++ sinceRead)) := by
  have hRows : (after "owner" (beforeRead ++ sinceRead)).rows = [⟨1, recent⟩, ⟨2, fresh⟩] := by
    decide
  have hHanded : (after "owner" (beforeRead ++ sinceRead)).handedOut =
      [⟨1, recent⟩, ⟨2, late⟩, ⟨2, fresh⟩] := by decide
  have hTail : tailForOwner "owner" (after "owner" (beforeRead ++ sinceRead)).cursor 50
      (after "owner" (beforeRead ++ sinceRead)).rows = [] := by decide
  refine ⟨by decide, ⟨by simp [hHanded], by simp [hHanded]⟩, by simp [hRows], hTail, ?_, ?_⟩
  · rintro ⟨hDistinct, _⟩
    rw [hHanded] at hDistinct
    exact absurd hDistinct (by decide)
  · intro hDelivers
    have hFresh := hDelivers 2 50 (by decide) ⟨2, fresh⟩ (by simp [hRows]) rfl (.inl (by decide))
    rw [hTail] at hFresh
    rcases hFresh with hIn | ⟨hFull, _⟩
    · exact absurd hIn (by simp)
    · exact absurd hFull (by decide)

end LateArrival

end Watched

end EidolonAdmin.Audit

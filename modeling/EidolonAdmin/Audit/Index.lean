import Mathlib.Tactic.Common
import EidolonAdmin.Foundation.Rowid

/-! # The audit index

`AuditIndexStore` on its one table. `ingest_seq` is an `INTEGER PRIMARY KEY`
without `AUTOINCREMENT`, so it is the largest stored sequence plus one. Instants
are numbers; the fields of an envelope that the index copies without reading
them are its content.
-/

namespace EidolonAdmin.Audit

open Foundation.Rowid

universe u

structure AuditEnvelope (ν : Type u) where
  eventId : String
  ownerId : Option String
  occurredAt : Int
  content : ν
deriving DecidableEq, Repr

structure IndexedAuditEvent (ν : Type u) where
  ingestSeq : Nat
  envelope : AuditEnvelope ν
deriving DecidableEq, Repr

variable {ν : Type u}

abbrev Rows (ν : Type u) := List (IndexedAuditEvent ν)

abbrev seqOf (row : IndexedAuditEvent ν) : Nat := row.ingestSeq

def nextSeq (rows : Rows ν) : Nat := nextRowid seqOf rows

/-- One row of the `INSERT ... ON CONFLICT(event_id) DO NOTHING`. -/
def ingestOne (rows : Rows ν) (item : AuditEnvelope ν) : Rows ν :=
  if rows.any fun row => row.envelope.eventId = item.eventId then rows
  else rows ++ [⟨nextSeq rows, item⟩]

def ingest (rows : Rows ν) (events : List (AuditEnvelope ν)) : Rows ν :=
  events.foldl ingestOne rows

/-- `DELETE ... WHERE occurred_at < before`. -/
def dropAged (before : Int) (rows : Rows ν) : Rows ν :=
  rows.filter fun row => ¬ row.envelope.occurredAt < before

/-- The sequence of the `max_rows`-th newest row; a negative offset counts as none. -/
def floorSeq (maxRows : Int) (rows : Rows ν) : Option Nat :=
  ((descending seqOf rows)[(maxRows - 1).toNat]?).map seqOf

def dropOverflow (maxRows : Int) (rows : Rows ν) : Rows ν :=
  match floorSeq maxRows rows with
  | none => rows
  | some floor => rows.filter fun row => ¬ row.ingestSeq < floor

def prune (before maxRows : Int) (rows : Rows ν) : Rows ν :=
  dropOverflow maxRows (dropAged before rows)

/-- `tail_for_owner`, oldest first with and without a cursor. -/
def tailForOwner (ownerId : String) (afterSeq : Option Nat) (limit : Int) (rows : Rows ν) :
    Rows ν :=
  let owned := rows.filter fun row => row.envelope.ownerId = some ownerId
  match afterSeq with
  | some cursor => limited limit (ascending seqOf (owned.filter fun row => cursor < row.ingestSeq))
  | none => (limited limit (descending seqOf owned)).reverse

theorem ingestOne_cases (rows : Rows ν) (item : AuditEnvelope ν) :
    ingestOne rows item = rows ∨ ingestOne rows item = rows ++ [⟨nextSeq rows, item⟩] := by
  unfold ingestOne
  split
  · exact .inl rfl
  · exact .inr rfl

theorem lt_nextSeq {rows : Rows ν} {row : IndexedAuditEvent ν} (h : row ∈ rows) :
    row.ingestSeq < nextSeq rows := Nat.lt_succ_of_le (key_le_largest h)

theorem dropOverflow_sublist (maxRows : Int) (rows : Rows ν) :
    (dropOverflow maxRows rows).Sublist rows := by
  unfold dropOverflow
  split
  · exact List.Sublist.refl rows
  · exact List.filter_sublist

theorem prune_sublist (before maxRows : Int) (rows : Rows ν) :
    (prune before maxRows rows).Sublist rows :=
  (dropOverflow_sublist maxRows _).trans List.filter_sublist

theorem floorSeq_le {maxRows : Int} {rows : Rows ν} {floor : Nat}
    (h : floorSeq maxRows rows = some floor) : floor ≤ largest seqOf rows := by
  obtain ⟨row, hRow, rfl⟩ := Option.map_eq_some_iff.mp h
  exact key_le_largest ((List.mem_insertionSort _).mp (List.mem_of_getElem? hRow))

theorem mem_dropOverflow {maxRows : Int} {rows : Rows ν} {row : IndexedAuditEvent ν}
    (hRow : row ∈ rows) (hNewest : row.ingestSeq = largest seqOf rows) :
    row ∈ dropOverflow maxRows rows := by
  unfold dropOverflow
  split
  · exact hRow
  · rename_i floor hFloor
    have hLe := floorSeq_le hFloor
    exact List.mem_filter.mpr ⟨hRow, by simp; omega⟩

theorem largest_prune_le (before maxRows : Int) (rows : Rows ν) :
    largest seqOf (prune before maxRows rows) ≤ largest seqOf rows :=
  largest_le fun _ hRow => key_le_largest ((prune_sublist before maxRows rows).subset hRow)

theorem nextSeq_prune (before maxRows : Int) {rows : Rows ν}
    (hNewest : ∀ row ∈ rows, row.ingestSeq = largest seqOf rows →
      before ≤ row.envelope.occurredAt) :
    nextSeq (prune before maxRows rows) = nextSeq rows := by
  by_cases hNil : rows = []
  · simp [hNil, prune, dropAged, dropOverflow, floorSeq, descending]
  · obtain ⟨newest, hMem, hSeq⟩ : ∃ row ∈ rows, seqOf row = largest seqOf rows :=
      exists_key_eq_largest hNil
    have hKept : newest ∈ dropAged before rows :=
      List.mem_filter.mpr ⟨hMem, by simpa using hNewest newest hMem hSeq⟩
    have hTop : newest.ingestSeq = largest seqOf (dropAged before rows) := by
      refine le_antisymm (key_le_largest hKept) ?_
      rw [show newest.ingestSeq = largest seqOf rows from hSeq]
      exact largest_le fun _ hRow => key_le_largest (List.mem_of_mem_filter hRow)
    have hStored : newest ∈ prune before maxRows rows := mem_dropOverflow hKept hTop
    have hGe : largest seqOf rows ≤ largest seqOf (prune before maxRows rows) :=
      hSeq ▸ key_le_largest hStored
    have hLe := largest_prune_le before maxRows rows
    unfold nextSeq nextRowid
    omega

theorem mem_of_mem_tailForOwner {ownerId : String} {afterSeq : Option Nat} {limit : Int}
    {rows : Rows ν} {row : IndexedAuditEvent ν}
    (h : row ∈ tailForOwner ownerId afterSeq limit rows) : row ∈ rows := by
  cases afterSeq with
  | none =>
    have hSorted := (List.mem_insertionSort _).mp (mem_limited (List.mem_reverse.mp h))
    exact List.mem_of_mem_filter hSorted
  | some cursor =>
    have hSorted := (List.mem_insertionSort _).mp (mem_limited h)
    exact List.mem_of_mem_filter (List.mem_of_mem_filter hSorted)

theorem mem_tailForOwner {ownerId : String} {cursor : Nat} {limit : Int} {rows : Rows ν}
    {row : IndexedAuditEvent ν} (hUnique : (rows.map seqOf).Nodup) (hRow : row ∈ rows)
    (hOwner : row.envelope.ownerId = some ownerId) (hAfter : cursor < row.ingestSeq) :
    row ∈ tailForOwner ownerId (some cursor) limit rows ∨
      (((tailForOwner ownerId (some cursor) limit rows).length : Int) = limit ∧
        ∀ returned ∈ tailForOwner ownerId (some cursor) limit rows,
          returned.ingestSeq < row.ingestSeq) := by
  apply mem_limited_ascending
  · exact hUnique.sublist ((List.filter_sublist.trans List.filter_sublist).map _)
  · simp [List.mem_filter, hRow, hOwner, hAfter]

end EidolonAdmin.Audit

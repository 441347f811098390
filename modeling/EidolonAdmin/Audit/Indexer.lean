import Mathlib.Data.List.Induction
import EidolonAdmin.Foundation.Table
import EidolonAdmin.Foundation.Transition
import EidolonAdmin.Audit.Index

/-! # Filling the audit index

`consume_once` cut at its awaits, beside the pruning of the table: a batch is
fetched, its malformed messages are terminated one by one, the rest is committed in
one statement and then acknowledged. Any call may fail and the process may end at
any point, and the stream delivers again what was not acknowledged.
-/

namespace EidolonAdmin.Audit

open Foundation.Transition Foundation.Rowid

universe u v

variable {ν : Type u} {μ : Type v}

/-- `prune`, with the number of rows it reports. -/
def pruneOnce (before maxRows : Int) (rows : Rows ν) : Nat × Rows ν :=
  let aged := (rows.filter fun row => row.envelope.occurredAt < before).length
  let kept := dropAged before rows
  match floorSeq maxRows kept with
  | none => (aged, kept)
  | some floor =>
    (aged + (kept.filter fun row => row.ingestSeq < floor).length,
      kept.filter fun row => ¬ row.ingestSeq < floor)

theorem pruneOnce_snd (before maxRows : Int) (rows : Rows ν) :
    (pruneOnce before maxRows rows).2 = prune before maxRows rows := by
  simp only [pruneOnce, prune, dropOverflow]
  cases floorSeq maxRows (dropAged before rows) with
  | none => rfl
  | some floor => rfl

def recent (before : Int) (rows : Rows ν) : Rows ν :=
  rows.filter fun row => before ≤ row.envelope.occurredAt

theorem dropAged_eq_recent (before : Int) (rows : Rows ν) : dropAged before rows = recent before rows := by
  simp [dropAged, recent]

structure Stored (rows : Rows ν) : Prop where
  seqs : (rows.map seqOf).Nodup
  events : (rows.map fun row => row.envelope.eventId).Nodup

theorem Stored.sublist {rows kept : Rows ν} (h : Stored rows) (hSublist : kept.Sublist rows) :
    Stored kept :=
  ⟨h.seqs.sublist (hSublist.map _), h.events.sublist (hSublist.map _)⟩

theorem Stored.ingestOne {rows : Rows ν} (h : Stored rows) (item : AuditEnvelope ν) :
    Stored (ingestOne rows item) := by
  unfold Audit.ingestOne
  split
  · exact h
  · rename_i hNew
    constructor
    · exact Foundation.Table.nodup_append_row h.seqs fun row hRow => Nat.ne_of_lt (lt_nextSeq hRow)
    · refine Foundation.Table.nodup_append_row h.events fun row hRow hSame => hNew ?_
      exact List.any_eq_true.mpr ⟨row, hRow, by simpa using hSame⟩

section Retention

structure Retains (before maxRows : Int) (rows : Rows ν) : Prop where
  kept : ∀ row, row ∈ (pruneOnce before maxRows rows).2 ↔ row ∈ recent before rows ∧
    (((recent before rows).filter fun other => row.ingestSeq < other.ingestSeq).length : Int) < maxRows
  size : ((pruneOnce before maxRows rows).2.length : Int) = min maxRows (recent before rows).length
  returned : (pruneOnce before maxRows rows).1 + (pruneOnce before maxRows rows).2.length = rows.length
  again : pruneOnce before maxRows (pruneOnce before maxRows rows).2 =
    (0, (pruneOnce before maxRows rows).2)

variable {before maxRows : Int} {rows : Rows ν}

theorem pruneOnce_of_none (h : floorSeq maxRows (recent before rows) = none) :
    pruneOnce before maxRows rows =
      ((rows.filter fun row => row.envelope.occurredAt < before).length, recent before rows) := by
  simp only [pruneOnce, dropAged_eq_recent, h]

theorem pruneOnce_of_floor {floor : Nat} (h : floorSeq maxRows (recent before rows) = some floor) :
    pruneOnce before maxRows rows =
      ((rows.filter fun row => row.envelope.occurredAt < before).length +
        ((recent before rows).filter fun row => row.ingestSeq < floor).length,
        (recent before rows).filter fun row => ¬ row.ingestSeq < floor) := by
  simp only [pruneOnce, dropAged_eq_recent, h]

theorem length_aged_add :
    (rows.filter fun row => row.envelope.occurredAt < before).length + (recent before rows).length =
      rows.length := by
  have hSplit := List.length_eq_length_filter_add (l := rows)
    fun row => decide (row.envelope.occurredAt < before)
  simp only [← decide_not, not_lt] at hSplit
  exact hSplit.symm

theorem floorSeq_eq_none_iff (hRows : 1 ≤ maxRows) :
    floorSeq maxRows rows = none ↔ (rows.length : Int) < maxRows := by
  rw [floorSeq, Option.map_eq_none_iff, List.getElem?_eq_none_iff, length_descending]
  omega

theorem exists_floor {floor : Nat} (h : floorSeq maxRows rows = some floor) :
    ∃ row, (descending seqOf rows)[(maxRows - 1).toNat]? = some row ∧ row.ingestSeq = floor := by
  obtain ⟨row, hRow, hSeq⟩ := Option.map_eq_some_iff.mp h
  exact ⟨row, hRow, hSeq⟩

theorem length_from_floor {floor : Nat} (hUnique : (rows.map seqOf).Nodup) (hRows : 1 ≤ maxRows)
    (h : floorSeq maxRows rows = some floor) :
    ((rows.filter fun row => ¬ row.ingestSeq < floor).length : Int) = maxRows := by
  obtain ⟨row, hRow, rfl⟩ := exists_floor h
  have hFrom := (length_newer hUnique hRow).2
  simp only [seqOf] at hFrom
  rw [hFrom]
  omega

theorem newer_than_floor {floor : Nat} (hUnique : (rows.map seqOf).Nodup) (hRows : 1 ≤ maxRows)
    (h : floorSeq maxRows rows = some floor) (row : IndexedAuditEvent ν) :
    ((rows.filter fun other => row.ingestSeq < other.ingestSeq).length : Int) < maxRows ↔
      ¬ row.ingestSeq < floor := by
  have hFrom := length_from_floor hUnique hRows h
  constructor
  · intro hFew hOlder
    have hLe : (rows.filter fun other => ¬ other.ingestSeq < floor).length ≤
        (rows.filter fun other => row.ingestSeq < other.ingestSeq).length := by
      refine (List.monotone_filter_right rows ?_).length_le
      intro other hOther
      simp only [decide_eq_true_eq] at hOther ⊢
      omega
    omega
  · intro hFromFloor
    obtain ⟨top, hTop, rfl⟩ := exists_floor h
    have hNewer := (length_newer hUnique hTop).1
    simp only [seqOf] at hNewer
    have hLe : (rows.filter fun other => row.ingestSeq < other.ingestSeq).length ≤
        (rows.filter fun other => top.ingestSeq < other.ingestSeq).length := by
      refine (List.monotone_filter_right rows ?_).length_le
      intro other hOther
      simp only [decide_eq_true_eq] at hOther ⊢
      omega
    omega

theorem pruneOnce_returned :
    (pruneOnce before maxRows rows).1 + (pruneOnce before maxRows rows).2.length = rows.length := by
  have hAged : (rows.filter fun row => row.envelope.occurredAt < before).length +
    (recent before rows).length = rows.length := length_aged_add
  cases hFloor : floorSeq maxRows (recent before rows) with
  | none =>
    rw [pruneOnce_of_none hFloor]
    exact hAged
  | some floor =>
    rw [pruneOnce_of_floor hFloor]
    have hSplit := List.length_eq_length_filter_add (l := recent before rows)
      fun row => decide (row.ingestSeq < floor)
    simp only [decide_not] at hSplit ⊢
    omega

theorem pruneOnce_fits (hUnique : (rows.map seqOf).Nodup) (hRows : 1 ≤ maxRows)
    (hRecent : recent before rows = rows) (hSize : (rows.length : Int) ≤ maxRows) :
    pruneOnce before maxRows rows = (0, rows) := by
  have hReturned : (pruneOnce before maxRows rows).1 + (pruneOnce before maxRows rows).2.length =
    rows.length := pruneOnce_returned
  have hKept : (pruneOnce before maxRows rows).2 = rows := by
    cases hFloor : floorSeq maxRows (recent before rows) with
    | none => rw [pruneOnce_of_none hFloor, hRecent]
    | some floor =>
      rw [pruneOnce_of_floor hFloor, hRecent]
      rw [hRecent] at hFloor
      have hFrom := length_from_floor hUnique hRows hFloor
      exact List.filter_sublist.eq_of_length_le (by omega)
  rw [hKept] at hReturned
  exact Prod.ext (by omega) hKept

theorem retains (h : Stored rows) (hRows : 1 ≤ maxRows) : Retains before maxRows rows := by
  have hUnique : ((recent before rows).map seqOf).Nodup := (h.sublist List.filter_sublist).seqs
  have hKept : ∀ row, row ∈ (pruneOnce before maxRows rows).2 ↔ row ∈ recent before rows ∧
      (((recent before rows).filter fun other => row.ingestSeq < other.ingestSeq).length : Int) <
        maxRows := by
    intro row
    cases hFloor : floorSeq maxRows (recent before rows) with
    | none =>
      rw [pruneOnce_of_none hFloor]
      have hFew := (floorSeq_eq_none_iff hRows).mp hFloor
      have hLe : ((recent before rows).filter fun other => row.ingestSeq < other.ingestSeq).length ≤
        (recent before rows).length := List.length_filter_le ..
      exact ⟨fun hRow => ⟨hRow, by omega⟩, And.left⟩
    | some floor =>
      rw [pruneOnce_of_floor hFloor, newer_than_floor hUnique hRows hFloor]
      simp [List.mem_filter]
  have hSize : ((pruneOnce before maxRows rows).2.length : Int) =
      min maxRows (recent before rows).length := by
    cases hFloor : floorSeq maxRows (recent before rows) with
    | none =>
      rw [pruneOnce_of_none hFloor]
      have hFew := (floorSeq_eq_none_iff hRows).mp hFloor
      exact (min_eq_right hFew.le).symm
    | some floor =>
      rw [pruneOnce_of_floor hFloor]
      have hFrom := length_from_floor hUnique hRows hFloor
      have hLe : ((recent before rows).filter fun row => ¬ row.ingestSeq < floor).length ≤
        (recent before rows).length := List.length_filter_le ..
      rw [min_eq_left (by omega)]
      exact hFrom
  refine ⟨hKept, hSize, pruneOnce_returned, ?_⟩
  have hSublist : (pruneOnce before maxRows rows).2.Sublist rows := by
    rw [pruneOnce_snd]
    exact prune_sublist ..
  refine pruneOnce_fits (h.sublist hSublist).seqs hRows ?_ (by omega)
  refine List.filter_eq_self.mpr fun row hRow => ?_
  exact (List.mem_filter.mp ((hKept row).mp hRow).1).2

end Retention

/-- Where a call of `consume_once` stands: in the loop over the fetched messages, with
the messages it has still to look at and the envelopes it has collected, or past the
commit. -/
inductive Phase (ν : Type u) (μ : Type v) where
  | idle
  | sifting (rest : List μ) (valid : List (μ × AuditEnvelope ν))
  | acking

/-- What has been done, in order; an insertion is one row of the committed statement. -/
inductive Mark (ν : Type u) (μ : Type v) where
  | inserted (item : AuditEnvelope ν)
  | pruned (before maxRows : Int)
  | acked (message : μ)
  | terminated (message : μ)

/-- The table, the running call, the acknowledgements under way, and what no operation
reads: the batch fetched last and the marks. -/
structure Indexer (ν : Type u) (μ : Type v) where
  rows : Rows ν := []
  phase : Phase ν μ := .idle
  outstanding : List μ := []
  batch : List μ := []
  journal : List (Mark ν μ) := []

/-- `termed` and `stored` say whether the call went through; `leave` is the end of
`consume_once`, by returning or raising, and `crash` that of the process. -/
inductive Happening (μ : Type v) where
  | fetch (messages : List μ)
  | sift (termed : Bool)
  | commit (stored : Bool)
  | ack (index : Nat)
  | leave
  | crash
  | prune (before maxRows : Int)

namespace Indexer

variable (decode : μ → Option (AuditEnvelope ν))

/-- One round of the loop: a malformed message is terminated and left out. -/
def sift (s : Indexer ν μ) (message : μ) (rest : List μ) (valid : List (μ × AuditEnvelope ν))
    (termed : Bool) : Indexer ν μ :=
  match decode message with
  | some envelope => { s with phase := .sifting rest (valid ++ [(message, envelope)]) }
  | none =>
    if termed then
      { s with phase := .sifting rest valid, journal := s.journal ++ [.terminated message] }
    else { s with phase := .idle }

/-- `ingest` commits the envelopes before any of their messages is acknowledged. -/
def commit (s : Indexer ν μ) (valid : List (μ × AuditEnvelope ν)) (stored : Bool) : Indexer ν μ :=
  if valid = [] then { s with phase := .idle }
  else if stored then
    { s with
      rows := ingest s.rows (valid.map Prod.snd)
      phase := .acking
      outstanding := s.outstanding ++ valid.map Prod.fst
      journal := s.journal ++ valid.map fun found => .inserted found.2 }
  else { s with phase := .idle }

def step (s : Indexer ν μ) : Happening μ → Indexer ν μ
  | .fetch messages =>
    match s.phase with
    | .idle => { s with phase := .sifting messages [], batch := messages }
    | _ => s
  | .sift termed =>
    match s.phase with
    | .sifting (message :: rest) valid => s.sift decode message rest valid termed
    | _ => s
  | .commit stored =>
    match s.phase with
    | .sifting [] valid => s.commit valid stored
    | _ => s
  | .ack index =>
    match s.outstanding[index]? with
    | some message =>
      { s with
        outstanding := s.outstanding.eraseIdx index
        journal := s.journal ++ [.acked message] }
    | none => s
  | .leave => { s with phase := .idle }
  | .crash => { s with phase := .idle, outstanding := [] }
  | .prune before maxRows =>
    { s with
      rows := (pruneOnce before maxRows s.rows).2
      journal := s.journal ++ [.pruned before maxRows] }

end Indexer

def Mark.apply (rows : Rows ν) : Mark ν μ → Rows ν
  | inserted item => ingestOne rows item
  | pruned before maxRows => (pruneOnce before maxRows rows).2
  | acked _ => rows
  | terminated _ => rows

def rowsAfter (journal : List (Mark ν μ)) : Rows ν := run Mark.apply [] journal

/-- The row holds the first delivery of its event since the event was last absent. -/
def FirstSince (journal : List (Mark ν μ)) (row : IndexedAuditEvent ν) : Prop :=
  ∃ earlier later, journal = earlier ++ .inserted row.envelope :: later ∧
    (∀ other ∈ rowsAfter earlier, other.envelope.eventId ≠ row.envelope.eventId) ∧
    ∀ between rest, later = between ++ rest →
      row ∈ rowsAfter (earlier ++ .inserted row.envelope :: between)

/-- The event of the message was committed, and was in the table then. -/
def Committed (decode : μ → Option (AuditEnvelope ν)) (journal : List (Mark ν μ)) (message : μ) :
    Prop :=
  ∃ item earlier later, decode message = some item ∧ journal = earlier ++ .inserted item :: later ∧
    ∃ row ∈ rowsAfter (earlier ++ [.inserted item]), row.envelope.eventId = item.eventId

/-- Each event once, from its first delivery; acknowledged only when committed; no
message of a batch in the way of the others; and the bounds of every pruning. -/
structure ExactlyOnce (decode : μ → Option (AuditEnvelope ν)) (s : Indexer ν μ) : Prop where
  once : (s.rows.map fun row => row.envelope.eventId).Nodup
  first : s.rows = rowsAfter s.journal ∧ ∀ row ∈ s.rows, FirstSince s.journal row
  acked : ∀ earlier message later, s.journal = earlier ++ .acked message :: later →
    Committed decode earlier message
  unblocked : ∀ rest valid, s.phase = .sifting rest valid →
    (run (Indexer.step decode) s
      (List.replicate rest.length (.sift true) ++ [.commit true])).rows =
        ingest s.rows (s.batch.filterMap decode) ∧
    (run (Indexer.step decode) s
      (List.replicate rest.length (.sift true) ++ [.commit true])).outstanding =
        s.outstanding ++ s.batch.filter fun message => (decode message).isSome
  retention : ∀ before maxRows, 1 ≤ maxRows → Retains before maxRows s.rows

section Journal

variable {journal : List (Mark ν μ)} {row : IndexedAuditEvent ν}

theorem rowsAfter_append (first second : List (Mark ν μ)) :
    rowsAfter (first ++ second) = run Mark.apply (rowsAfter first) second := run_append ..

theorem rowsAfter_inserted (journal : List (Mark ν μ)) (found : List (μ × AuditEnvelope ν)) :
    rowsAfter (journal ++ found.map fun pair => .inserted pair.2) =
      ingest (rowsAfter journal) (found.map Prod.snd) := by
  rw [rowsAfter_append]
  generalize rowsAfter journal = rows
  induction found generalizing rows with
  | nil => rfl
  | cons pair rest ih => exact ih (ingestOne rows pair.2)

theorem stored_rowsAfter (journal : List (Mark ν μ)) : Stored (rowsAfter journal) := by
  refine run_invariant ?_ ⟨List.nodup_nil, List.nodup_nil⟩ journal
  intro rows mark h
  cases mark with
  | inserted item => exact h.ingestOne item
  | pruned before maxRows =>
    rw [Mark.apply, pruneOnce_snd]
    exact h.sublist (prune_sublist ..)
  | acked message => exact h
  | terminated message => exact h

theorem exists_ingestOne (rows : Rows ν) (item : AuditEnvelope ν) :
    ∃ row ∈ ingestOne rows item, row.envelope.eventId = item.eventId := by
  unfold ingestOne
  split
  · rename_i hFound
    obtain ⟨row, hRow, hSame⟩ := List.any_eq_true.mp hFound
    exact ⟨row, hRow, by simpa using hSame⟩
  · exact ⟨⟨nextSeq rows, item⟩, by simp, rfl⟩

theorem FirstSince.append {mark : Mark ν μ} (h : FirstSince journal row)
    (hKept : row ∈ rowsAfter (journal ++ [mark])) : FirstSince (journal ++ [mark]) row := by
  obtain ⟨earlier, later, rfl, hAbsent, hSince⟩ := h
  refine ⟨earlier, later ++ [mark], by simp, hAbsent, ?_⟩
  intro between rest hSplit
  rcases List.eq_nil_or_concat rest with rfl | ⟨front, last, rfl⟩
  · rw [List.append_nil] at hSplit
    rw [← hSplit]
    simpa using hKept
  · rw [List.concat_eq_append, ← List.append_assoc] at hSplit
    exact hSince between front (List.append_inj_left' hSplit rfl)

theorem mem_apply {rows : Rows ν} {mark : Mark ν μ} (h : row ∈ Mark.apply rows mark) :
    row ∈ rows ∨ mark = .inserted row.envelope ∧
      ∀ other ∈ rows, other.envelope.eventId ≠ row.envelope.eventId := by
  cases mark with
  | inserted item =>
    simp only [Mark.apply, ingestOne] at h
    split at h
    · exact .inl h
    · rename_i hNew
      rcases List.mem_append.mp h with hOld | hLast
      · exact .inl hOld
      · obtain rfl := List.mem_singleton.mp hLast
        refine .inr ⟨rfl, fun other hOther hSame => hNew ?_⟩
        exact List.any_eq_true.mpr ⟨other, hOther, by simpa using hSame⟩
  | pruned before maxRows =>
    rw [Mark.apply, pruneOnce_snd] at h
    exact .inl ((prune_sublist ..).subset h)
  | acked message => exact .inl h
  | terminated message => exact .inl h

theorem firstSince_of_mem (h : row ∈ rowsAfter journal) : FirstSince journal row := by
  induction journal using List.reverseRecOn with
  | nil => cases h
  | append_singleton journal mark ih =>
    have hKept := h
    rw [rowsAfter_append] at h
    rcases mem_apply h with hOld | ⟨rfl, hAbsent⟩
    · exact (ih hOld).append hKept
    · refine ⟨journal, [], rfl, hAbsent, ?_⟩
      intro between rest hSplit
      obtain ⟨rfl, _⟩ := List.append_eq_nil_iff.mp hSplit.symm
      exact hKept

end Journal

namespace Indexer

variable {decode : μ → Option (AuditEnvelope ν)}

def Sifted (decode : μ → Option (AuditEnvelope ν)) (batch : List μ) : Phase ν μ → Prop
  | .sifting rest valid => ∃ done, batch = done ++ rest ∧
    valid = done.filterMap fun message => (decode message).map fun item => (message, item)
  | _ => True

structure Tracks (decode : μ → Option (AuditEnvelope ν)) (s : Indexer ν μ) : Prop where
  rows : s.rows = rowsAfter s.journal
  sifted : Sifted decode s.batch s.phase
  outstanding : ∀ message ∈ s.outstanding, Committed decode s.journal message
  acked : ∀ earlier message later, s.journal = earlier ++ .acked message :: later →
    Committed decode earlier message

theorem committed_append {journal : List (Mark ν μ)} {message : μ}
    (h : Committed decode journal message) (more : List (Mark ν μ)) :
    Committed decode (journal ++ more) message := by
  obtain ⟨item, earlier, later, hDecoded, rfl, hStored⟩ := h
  exact ⟨item, earlier, later ++ more, hDecoded, by simp, hStored⟩

theorem acked_append {journal more : List (Mark ν μ)}
    (h : ∀ earlier message later, journal = earlier ++ .acked message :: later →
      Committed decode earlier message)
    (hMore : ∀ earlier message later, more = earlier ++ .acked message :: later →
      Committed decode (journal ++ earlier) message) :
    ∀ earlier message later, journal ++ more = earlier ++ .acked message :: later →
      Committed decode earlier message := by
  intro earlier message later hSplit
  rcases List.append_eq_append_iff.mp hSplit with ⟨between, rfl, hBetween⟩ | ⟨between, rfl, hBetween⟩
  · exact hMore between message later hBetween
  · rcases List.cons_eq_append_iff.mp hBetween with ⟨rfl, hFirst⟩ | ⟨rest, rfl, _⟩
    · have hAfter := hMore [] message later hFirst
      simpa using hAfter
    · exact h earlier message rest rfl

theorem acked_append_of_notMem {journal more : List (Mark ν μ)}
    (h : ∀ earlier message later, journal = earlier ++ .acked message :: later →
      Committed decode earlier message) (hMore : ∀ message, .acked message ∉ more) :
    ∀ earlier message later, journal ++ more = earlier ++ .acked message :: later →
      Committed decode earlier message := by
  refine acked_append h ?_
  rintro earlier message later rfl
  exact absurd (by simp) (hMore message)

theorem tracks_sift {s : Indexer ν μ} {message : μ} {rest : List μ}
    {valid : List (μ × AuditEnvelope ν)} (h : s.Tracks decode) (hPhase : s.phase = .sifting (message :: rest) valid)
    (termed : Bool) : (s.sift decode message rest valid termed).Tracks decode := by
  have hSifted := h.sifted
  rw [hPhase] at hSifted
  obtain ⟨done, hBatch, hValid⟩ := hSifted
  have hNext : s.batch = (done ++ [message]) ++ rest := by
    rw [hBatch, List.append_assoc, List.singleton_append]
  unfold sift
  split
  · rename_i envelope hDecoded
    refine ⟨h.rows, ⟨done ++ [message], hNext, ?_⟩, h.outstanding, h.acked⟩
    rw [List.filterMap_append, ← hValid]
    simp [hDecoded]
  · rename_i hMalformed
    split
    · refine ⟨?_, ⟨done ++ [message], hNext, ?_⟩, ?_, acked_append_of_notMem h.acked (by simp)⟩
      · rw [rowsAfter_append]
        exact h.rows
      · rw [List.filterMap_append, ← hValid]
        simp [hMalformed]
      · exact fun pending hPending => committed_append (h.outstanding pending hPending) _
    · exact ⟨h.rows, trivial, h.outstanding, h.acked⟩

theorem mem_valid {done : List μ} {found : μ × AuditEnvelope ν}
    (h : found ∈ done.filterMap fun message => (decode message).map fun item => (message, item)) :
    decode found.1 = some found.2 := by
  obtain ⟨message, _, hFound⟩ := List.mem_filterMap.mp h
  obtain ⟨item, hDecoded, rfl⟩ := Option.map_eq_some_iff.mp hFound
  exact hDecoded

theorem committed_inserted {journal : List (Mark ν μ)} {valid : List (μ × AuditEnvelope ν)}
    {found : μ × AuditEnvelope ν} (hDecoded : decode found.1 = some found.2) (hFound : found ∈ valid) :
    Committed decode (journal ++ valid.map fun pair => .inserted pair.2) found.1 := by
  obtain ⟨front, back, rfl⟩ := List.append_of_mem hFound
  refine ⟨found.2, journal ++ front.map (fun pair => .inserted pair.2),
    back.map (fun pair => .inserted pair.2), hDecoded, by simp, ?_⟩
  rw [rowsAfter_append]
  exact exists_ingestOne _ _

theorem tracks_commit {s : Indexer ν μ} {valid : List (μ × AuditEnvelope ν)} (h : s.Tracks decode)
    (hPhase : s.phase = .sifting [] valid) (stored : Bool) : (s.commit valid stored).Tracks decode := by
  have hSifted := h.sifted
  rw [hPhase] at hSifted
  obtain ⟨done, _, hValid⟩ := hSifted
  unfold commit
  split
  · exact ⟨h.rows, trivial, h.outstanding, h.acked⟩
  · split
    · refine ⟨?_, trivial, ?_, acked_append_of_notMem h.acked (by simp)⟩
      · rw [rowsAfter_inserted, h.rows]
      · intro message hMessage
        rcases List.mem_append.mp hMessage with hOld | hNew
        · exact committed_append (h.outstanding message hOld) _
        · obtain ⟨found, hFound, rfl⟩ := List.mem_map.mp hNew
          exact committed_inserted (mem_valid (hValid ▸ hFound)) hFound
    · exact ⟨h.rows, trivial, h.outstanding, h.acked⟩

theorem tracks_ack {s : Indexer ν μ} {message : μ} {index : Nat} (h : s.Tracks decode)
    (hPending : s.outstanding[index]? = some message) :
    Tracks decode { s with
      outstanding := s.outstanding.eraseIdx index
      journal := s.journal ++ [.acked message] } := by
  have hCommitted := h.outstanding message (List.mem_of_getElem? hPending)
  refine ⟨?_, h.sifted, ?_, acked_append h.acked ?_⟩
  · rw [rowsAfter_append]
    exact h.rows
  · intro other hOther
    exact committed_append (h.outstanding other (List.mem_of_mem_eraseIdx hOther)) _
  · intro earlier other later hSplit
    cases earlier with
    | nil =>
      obtain ⟨hSame, _⟩ := List.cons.inj hSplit
      obtain rfl := Mark.acked.inj hSame
      simpa using hCommitted
    | cons first rest => simp at hSplit

theorem tracks_step (s : Indexer ν μ) (a : Happening μ) (h : s.Tracks decode) :
    (s.step decode a).Tracks decode := by
  cases a with
  | fetch messages =>
    simp only [step]
    split
    · exact ⟨h.rows, ⟨[], rfl, rfl⟩, h.outstanding, h.acked⟩
    · exact h
  | sift termed =>
    simp only [step]
    split
    · rename_i message rest valid hPhase
      exact tracks_sift h hPhase termed
    · exact h
  | commit stored =>
    simp only [step]
    split
    · rename_i valid hPhase
      exact tracks_commit h hPhase stored
    · exact h
  | ack index =>
    simp only [step]
    split
    · rename_i message hPending
      exact tracks_ack h hPending
    · exact h
  | leave => exact ⟨h.rows, trivial, h.outstanding, h.acked⟩
  | crash => exact ⟨h.rows, trivial, fun _ hNone => absurd hNone List.not_mem_nil, h.acked⟩
  | prune before maxRows =>
    simp only [step]
    refine ⟨?_, h.sifted, ?_, acked_append_of_notMem h.acked (by simp)⟩
    · rw [rowsAfter_append, ← h.rows]
      rfl
    · exact fun message hMessage => committed_append (h.outstanding message hMessage) _

theorem tracks_empty : Tracks decode ({} : Indexer ν μ) :=
  ⟨rfl, trivial, fun _ hNone => absurd hNone List.not_mem_nil,
    fun earlier _ _ hSplit => absurd hSplit (by simp)⟩

theorem step_sift {s : Indexer ν μ} {message : μ} {rest : List μ}
    {valid : List (μ × AuditEnvelope ν)} (hPhase : s.phase = .sifting (message :: rest) valid)
    (termed : Bool) : s.step decode (.sift termed) = s.sift decode message rest valid termed := by
  simp only [step, hPhase]

theorem run_sift (decode : μ → Option (AuditEnvelope ν)) {s : Indexer ν μ} {rest : List μ}
    {valid : List (μ × AuditEnvelope ν)} (hPhase : s.phase = .sifting rest valid) :
    ∃ journal, run (step decode) s (List.replicate rest.length (.sift true)) =
      { s with
        phase := .sifting [] (valid ++ rest.filterMap fun message =>
          (decode message).map fun item => (message, item))
        journal } := by
  induction rest generalizing s valid with
  | nil => exact ⟨s.journal, by simp [← hPhase]⟩
  | cons message rest ih =>
    rw [List.length_cons, List.replicate_succ, run_cons, step_sift hPhase, sift]
    cases hDecoded : decode message with
    | some envelope =>
      obtain ⟨journal, hRun⟩ := ih (s := { s with phase := .sifting rest (valid ++ [(message, envelope)]) }) rfl
      refine ⟨journal, hRun.trans ?_⟩
      simp [hDecoded]
    | none =>
      obtain ⟨journal, hRun⟩ := ih (s := { s with
        phase := .sifting rest valid
        journal := s.journal ++ [.terminated message] }) rfl
      refine ⟨journal, hRun.trans ?_⟩
      simp [hDecoded]

theorem commit_true (s : Indexer ν μ) (valid : List (μ × AuditEnvelope ν)) :
    (s.commit valid true).rows = ingest s.rows (valid.map Prod.snd) ∧
      (s.commit valid true).outstanding = s.outstanding ++ valid.map Prod.fst := by
  unfold commit
  split
  · rename_i hNone
    simp [hNone, ingest]
  · exact ⟨rfl, rfl⟩

theorem map_snd_valid (batch : List μ) :
    (batch.filterMap fun message => (decode message).map fun item => (message, item)).map Prod.snd =
      batch.filterMap decode := by
  rw [List.map_filterMap]
  congr 1
  funext message
  simp [Option.map_map, Function.comp_def]

theorem map_fst_valid (batch : List μ) :
    (batch.filterMap fun message => (decode message).map fun item => (message, item)).map Prod.fst =
      batch.filter fun message => (decode message).isSome := by
  induction batch with
  | nil => rfl
  | cons message rest ih => cases hDecoded : decode message <;> simp [hDecoded, ih]

theorem Tracks.unblocked {s : Indexer ν μ} (h : s.Tracks decode) {rest : List μ}
    {valid : List (μ × AuditEnvelope ν)} (hPhase : s.phase = .sifting rest valid) :
    (run (step decode) s (List.replicate rest.length (.sift true) ++ [.commit true])).rows =
        ingest s.rows (s.batch.filterMap decode) ∧
      (run (step decode) s (List.replicate rest.length (.sift true) ++ [.commit true])).outstanding =
        s.outstanding ++ s.batch.filter fun message => (decode message).isSome := by
  have hSifted := h.sifted
  rw [hPhase] at hSifted
  obtain ⟨done, hBatch, hValid⟩ := hSifted
  obtain ⟨journal, hRun⟩ := run_sift decode hPhase
  have hAll : valid ++ rest.filterMap (fun message => (decode message).map fun item => (message, item)) =
      s.batch.filterMap fun message => (decode message).map fun item => (message, item) := by
    rw [hBatch, List.filterMap_append, hValid]
  rw [run_append, hRun, hAll, ← map_snd_valid, ← map_fst_valid]
  exact commit_true _ _

end Indexer

/-- Over every sequence of deliveries, failures, restarts and prunings. -/
theorem exactlyOnce_run (decode : μ → Option (AuditEnvelope ν)) (happenings : List (Happening μ)) :
    ExactlyOnce decode (run (Indexer.step decode) {} happenings) := by
  have hTracks : Indexer.Tracks decode (run (Indexer.step decode) {} happenings) :=
    run_invariant Indexer.tracks_step Indexer.tracks_empty happenings
  have hStored : Stored (run (Indexer.step decode) {} happenings).rows := by
    rw [hTracks.rows]
    exact stored_rowsAfter _
  refine ⟨hStored.events, ⟨hTracks.rows, ?_⟩, hTracks.acked, ?_, ?_⟩
  · intro row hRow
    rw [hTracks.rows] at hRow
    exact firstSince_of_mem hRow
  · exact fun rest valid hPhase => hTracks.unblocked hPhase
  · exact fun before maxRows hRows => retains hStored hRows

end EidolonAdmin.Audit

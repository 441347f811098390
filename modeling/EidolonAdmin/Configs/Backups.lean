import Mathlib.Data.List.Sort
import EidolonAdmin.Foundation.Transition

/-! # Backup rotation for config edits

Before a config is written or restored, the file is copied to a backup that is named by a
timestamp; the ten latest backups are kept. A backup file is known by its timestamp, which
is the suffix of its name.
-/

namespace EidolonAdmin.Configs

open Foundation

variable {κ : Type}

def maxBackups : Nat := 10

structure Backup (κ : Type) where
  timestamp : Int
  content : κ
  deriving DecidableEq, Repr

structure Config (κ : Type) where
  target : Option κ
  files : List (Backup κ) := []

def listBackups (files : List (Backup κ)) : List (Backup κ) :=
  files.insertionSort fun a b => b.timestamp ≤ a.timestamp

def copyTo (files : List (Backup κ)) (backup : Backup κ) : List (Backup κ) :=
  files.filter (fun file => file.timestamp ≠ backup.timestamp) ++ [backup]

def rotate (files : List (Backup κ)) : List (Backup κ) :=
  files.filter fun file => file.timestamp ∉ ((listBackups files).drop maxBackups).map Backup.timestamp

def snapshotTimestamp (files : List (Backup κ)) (clock : Int) : Int :=
  max clock ((listBackups files).head?.elim 0 fun newest => newest.timestamp + 1)

def snapshot (config : Config κ) (clock : Int) : Config κ × Option (Backup κ) :=
  match config.target with
  | none => (config, none)
  | some content =>
    let backup : Backup κ := { timestamp := snapshotTimestamp config.files clock, content }
    ({ config with files := rotate (copyTo config.files backup) }, some backup)

inductive RestoreError where
  /-- the check before the snapshot finds no such backup -/
  | noSuchBackup
  /-- the copy after the snapshot finds no such file -/
  | sourceGone
  deriving DecidableEq, Repr

def findBackup (files : List (Backup κ)) (timestamp : Int) : Option (Backup κ) :=
  files.find? fun file => file.timestamp = timestamp

/-- What a restore leaves, what it answers, and the snapshot it took first. -/
def restore (config : Config κ) (timestamp clock : Int) :
    Config κ × Except RestoreError (Backup κ) × Option (Backup κ) :=
  match findBackup config.files timestamp with
  | none => (config, .error .noSuchBackup, none)
  | some _ =>
    let saved := snapshot config clock
    match findBackup saved.1.files timestamp with
    | none => (saved.1, .error .sourceGone, saved.2)
    | some source => ({ saved.1 with target := some source.content }, .ok source, saved.2)

section Write

variable (valid : κ → Bool)

/-- A text of a wrong format is refused before anything is written. -/
def writeConfig (config : Config κ) (text : κ) (clock : Int) : Config κ × Option (Backup κ) :=
  if valid text then
    let saved := snapshot config clock
    ({ saved.1 with target := some text }, saved.2)
  else (config, none)

inductive Operation (κ : Type) where
  | write (text : κ) (clock : Int)
  | restore (timestamp clock : Int)

structure History (κ : Type) extends Config κ where
  taken : List (Backup κ) := []

def History.step (history : History κ) : Operation κ → History κ
  | .write text clock =>
    let after := writeConfig valid history.toConfig text clock
    { toConfig := after.1, taken := after.2.toList ++ history.taken }
  | .restore timestamp clock =>
    let after := Configs.restore history.toConfig timestamp clock
    { toConfig := after.1, taken := after.2.2.toList ++ history.taken }

/-- Operations on a target that has no backups yet. -/
def History.run (target : Option κ) (operations : List (Operation κ)) : History κ :=
  Transition.run (History.step valid) { target } operations

end Write

/-! ## What is kept -/

def LatestFirst (backups : List (Backup κ)) : Prop :=
  backups.Pairwise fun a b => b.timestamp < a.timestamp

theorem LatestFirst.timestamp_inj {backups : List (Backup κ)} (h : LatestFirst backups) {a b : Backup κ}
    (hA : a ∈ backups) (hB : b ∈ backups) (hSame : a.timestamp = b.timestamp) : a = b := by
  induction backups with
  | nil => exact absurd hA List.not_mem_nil
  | cons first rest ih =>
    obtain ⟨hFirst, hRest⟩ := List.pairwise_cons.mp h
    obtain rfl | hInA := List.mem_cons.mp hA
    · obtain rfl | hInB := List.mem_cons.mp hB
      · rfl
      · have hLater := hFirst b hInB
        omega
    · obtain rfl | hInB := List.mem_cons.mp hB
      · have hLater := hFirst a hInA
        omega
      · exact ih hRest hInA hInB

theorem listBackups_reverse {backups : List (Backup κ)} (h : LatestFirst backups) :
    listBackups backups.reverse = backups := by
  have : Std.Total fun a b : Backup κ => b.timestamp ≤ a.timestamp :=
    ⟨fun a b => le_total b.timestamp a.timestamp⟩
  have : IsTrans (Backup κ) fun a b => b.timestamp ≤ a.timestamp := ⟨fun _ _ _ hFirst hSecond => hSecond.trans hFirst⟩
  have hPerm : (listBackups backups.reverse).Perm backups :=
    (List.perm_insertionSort _ _).trans (List.reverse_perm backups)
  refine List.Perm.eq_of_pairwise ?_ (List.pairwise_insertionSort _ _) (h.imp le_of_lt) hPerm
  intro a b hA hB hLe hGe
  exact h.timestamp_inj (hPerm.mem_iff.mp hA) hB (le_antisymm hGe hLe)

theorem rotate_reverse {backups : List (Backup κ)} (h : LatestFirst backups) :
    rotate backups.reverse = (backups.take maxBackups).reverse := by
  unfold rotate
  rw [listBackups_reverse h, List.filter_reverse]
  congr 1
  have hSplit : LatestFirst (backups.take maxBackups ++ backups.drop maxBackups) := by
    rw [List.take_append_drop]
    exact h
  have hLater := (List.pairwise_append.mp hSplit).2.2
  refine (congrArg (List.filter _) (List.take_append_drop maxBackups backups).symm).trans ?_
  rw [List.filter_append, List.filter_eq_self.mpr, List.filter_eq_nil_iff.mpr, List.append_nil]
  · intro file hFile
    simp only [decide_eq_true_eq, not_not]
    exact List.mem_map_of_mem hFile
  · intro file hFile
    simp only [decide_eq_true_eq, List.mem_map, not_exists, not_and]
    intro old hOld hSame
    have hBefore := hLater file hFile old hOld
    omega

theorem LatestFirst.not_mem_of_concat {init : List (Backup κ)} {last : Backup κ}
    (h : LatestFirst (init ++ [last])) : last ∉ init := by
  intro hMem
  have hBefore := (List.pairwise_append.mp h).2.2 last hMem last (List.mem_singleton_self last)
  omega

theorem LatestFirst.mem_take_iff {backups : List (Backup κ)} (h : LatestFirst backups) {n : Nat}
    (hLength : backups.length ≤ n + 1) {backup : Backup κ} (hMem : backup ∈ backups) :
    backup ∈ backups.take n ↔ backups.length < n + 1 ∨ backups.getLast? ≠ some backup := by
  by_cases hShort : backups.length < n + 1
  · rw [List.take_of_length_le (by omega)]
    simp [hMem, hShort]
  · obtain rfl | ⟨init, last, rfl⟩ := List.eq_nil_or_concat backups
    · exact absurd hMem List.not_mem_nil
    · rw [List.concat_eq_append] at *
      rw [List.length_append, List.length_singleton] at hLength hShort
      rw [List.take_left' (by omega), List.getLast?_concat]
      have hNotLast := h.not_mem_of_concat
      constructor
      · intro hInit
        refine .inr fun hSame => ?_
        rw [Option.some.inj hSame] at hNotLast
        exact hNotLast hInit
      · rintro (hLess | hOther)
        · rw [List.length_append, List.length_singleton] at hLess
          omega
        · obtain hInit | hLast := List.mem_append.mp hMem
          · exact hInit
          · exact absurd (congrArg some (List.mem_singleton.mp hLast).symm) hOther

theorem findBackup_of_mem {backups : List (Backup κ)} (h : LatestFirst backups) {backup : Backup κ}
    (hMem : backup ∈ backups) : findBackup backups.reverse backup.timestamp = some backup := by
  cases hFound : findBackup backups.reverse backup.timestamp with
  | none =>
    have hAbsent := List.find?_eq_none.mp hFound backup (List.mem_reverse.mpr hMem)
    exact absurd (decide_eq_true rfl) hAbsent
  | some found =>
    have hSame : found.timestamp = backup.timestamp := by simpa using List.find?_some hFound
    rw [h.timestamp_inj (List.mem_reverse.mp (List.mem_of_find?_eq_some hFound)) hMem hSame]

theorem findBackup_eq_none {backups : List (Backup κ)} {timestamp : Int}
    (h : ∀ backup ∈ backups, backup.timestamp ≠ timestamp) : findBackup backups.reverse timestamp = none := by
  refine List.find?_eq_none.mpr fun file hFile => ?_
  simpa using h file (List.mem_reverse.mp hFile)

section Restore

variable {config : Config κ} {timestamp clock : Int}

theorem restore_of_absent (h : findBackup config.files timestamp = none) :
    restore config timestamp clock = (config, .error .noSuchBackup, none) := by
  simp only [restore, h]

theorem restore_of_gone {found : Backup κ} (h : findBackup config.files timestamp = some found)
    (hGone : findBackup (snapshot config clock).1.files timestamp = none) :
    restore config timestamp clock =
      ((snapshot config clock).1, .error .sourceGone, (snapshot config clock).2) := by
  simp only [restore, h, hGone]

theorem restore_of_found {found source : Backup κ} (h : findBackup config.files timestamp = some found)
    (hSource : findBackup (snapshot config clock).1.files timestamp = some source) :
    restore config timestamp clock =
      ({ (snapshot config clock).1 with target := some source.content }, .ok source,
        (snapshot config clock).2) := by
  simp only [restore, h, hSource]

end Restore

structure History.Kept (history : History κ) : Prop where
  files : history.files = (history.taken.take maxBackups).reverse
  ordered : LatestFirst history.taken
  target : history.taken ≠ [] → history.target.isSome

namespace History.Kept

variable {history : History κ}

theorem ordered_take (hKept : history.Kept) (n : Nat) : LatestFirst (history.taken.take n) :=
  List.Pairwise.sublist (List.take_sublist n _) hKept.ordered

theorem listBackups_eq (hKept : history.Kept) :
    listBackups history.files = history.taken.take maxBackups := by
  rw [hKept.files, listBackups_reverse (hKept.ordered_take _)]

theorem lt_snapshotTimestamp (hKept : history.Kept) (clock : Int) {backup : Backup κ}
    (h : backup ∈ history.taken) : backup.timestamp < snapshotTimestamp history.files clock := by
  unfold snapshotTimestamp
  rw [hKept.listBackups_eq]
  cases hTaken : history.taken with
  | nil => exact absurd h (by simp [hTaken])
  | cons newest rest =>
    have hOrdered := hKept.ordered
    rw [hTaken] at h hOrdered
    have hNewest : backup.timestamp ≤ newest.timestamp := by
      obtain rfl | hRest := List.mem_cons.mp h
      · exact le_refl _
      · exact le_of_lt ((List.pairwise_cons.mp hOrdered).1 backup hRest)
    have hNext : newest.timestamp + 1 ≤ max clock (newest.timestamp + 1) := le_max_right _ _
    change backup.timestamp < max clock (newest.timestamp + 1)
    omega

theorem snapshot_eq (hKept : history.Kept) {content : κ} (hTarget : history.target = some content)
    (clock : Int) :
    ∃ backup : Backup κ, backup.content = content ∧ LatestFirst (backup :: history.taken) ∧
      snapshot history.toConfig clock =
        ({ target := history.target, files := ((backup :: history.taken).take maxBackups).reverse },
          some backup) := by
  refine ⟨⟨snapshotTimestamp history.files clock, content⟩, rfl, ?_, ?_⟩
  · exact List.pairwise_cons.mpr ⟨fun backup hBackup => hKept.lt_snapshotTimestamp clock hBackup,
      hKept.ordered⟩
  · have hFresh : ∀ file ∈ history.files, file.timestamp ≠ snapshotTimestamp history.files clock := by
      intro file hFile
      rw [hKept.files, List.mem_reverse] at hFile
      exact ne_of_lt (hKept.lt_snapshotTimestamp clock (List.mem_of_mem_take hFile))
    have hCopy : copyTo history.files ⟨snapshotTimestamp history.files clock, content⟩ =
        (⟨snapshotTimestamp history.files clock, content⟩ :: history.taken.take maxBackups).reverse := by
      unfold copyTo
      rw [List.filter_eq_self.mpr (by simpa using hFresh), List.reverse_cons, ← hKept.files]
    unfold snapshot
    rw [hTarget]
    dsimp only
    rw [hCopy, rotate_reverse]
    · simp [maxBackups, List.take_take]
    · refine List.pairwise_cons.mpr ⟨fun backup hBackup => ?_, hKept.ordered_take _⟩
      exact hKept.lt_snapshotTimestamp clock (List.mem_of_mem_take hBackup)

theorem withTarget (hKept : history.Kept) (content : κ) :
    History.Kept { history with target := some content } where
  files := hKept.files
  ordered := hKept.ordered
  target _ := rfl

theorem snapshot_kept (hKept : history.Kept) (clock : Int) :
    (snapshot history.toConfig clock).1.target = history.target ∧
      History.Kept { toConfig := (snapshot history.toConfig clock).1
                     taken := (snapshot history.toConfig clock).2.toList ++ history.taken } := by
  cases hTarget : history.target with
  | none =>
    have hNothing : snapshot history.toConfig clock = (history.toConfig, none) := by
      unfold snapshot
      rw [hTarget]
    rw [hNothing]
    exact ⟨hTarget, hKept⟩
  | some content =>
    obtain ⟨backup, -, hOrdered, hSnapshot⟩ := hKept.snapshot_eq hTarget clock
    rw [hSnapshot]
    refine ⟨hTarget, rfl, hOrdered, fun _ => ?_⟩
    simp [hTarget]

theorem step (hKept : history.Kept) (valid : κ → Bool) (operation : Operation κ) :
    (history.step valid operation).Kept := by
  cases operation with
  | write text clock =>
    unfold History.step writeConfig
    by_cases hValid : valid text
    · simp only [hValid, if_true]
      exact (hKept.snapshot_kept clock).2.withTarget text
    · simp only [hValid, Bool.false_eq_true, if_false]
      exact hKept
  | restore timestamp clock =>
    change History.Kept { toConfig := (Configs.restore history.toConfig timestamp clock).1
                          taken := (Configs.restore history.toConfig timestamp clock).2.2.toList ++
                            history.taken }
    cases hFound : findBackup history.files timestamp with
    | none =>
      rw [restore_of_absent hFound]
      exact hKept
    | some found =>
      cases hSource : findBackup (snapshot history.toConfig clock).1.files timestamp with
      | none =>
        rw [restore_of_gone hFound hSource]
        exact (hKept.snapshot_kept clock).2
      | some source =>
        rw [restore_of_found hFound hSource]
        exact (hKept.snapshot_kept clock).2.withTarget source.content

theorem run (valid : κ → Bool) (target : Option κ) (operations : List (Operation κ)) :
    (History.run valid target operations).Kept := by
  refine Transition.run_invariant (P := History.Kept)
    (fun history operation hKept => step hKept valid operation) ?_ operations
  exact ⟨rfl, List.Pairwise.nil, fun hTaken => absurd rfl hTaken⟩

/-- The source of a restore is still there after the snapshot unless it was the last of ten. -/
theorem mem_after_snapshot_iff (hKept : history.Kept) {backup : Backup κ}
    (h : backup ∈ listBackups history.files) :
    backup ∈ history.taken.take (maxBackups - 1) ↔
      (listBackups history.files).length < maxBackups ∨
        (listBackups history.files).getLast? ≠ some backup := by
  rw [hKept.listBackups_eq] at h ⊢
  have hTake : history.taken.take (maxBackups - 1) = (history.taken.take maxBackups).take (maxBackups - 1) := by
    rw [List.take_take]
    rfl
  rw [hTake]
  refine (hKept.ordered_take maxBackups).mem_take_iff ?_ h
  rw [List.length_take]
  exact Nat.min_le_left _ _

end History.Kept

/-- The restore succeeds, brings the content back, and leaves the content that was there
before as the newest backup. -/
def Reversible (config : Config κ) (backup : Backup κ) (clock : Int) : Prop :=
  (restore config backup.timestamp clock).2.1 = .ok backup ∧
    (restore config backup.timestamp clock).1.target = some backup.content ∧
    (listBackups (restore config backup.timestamp clock).1.files).head?.map Backup.content = config.target

theorem History.Kept.reversible_iff {history : History κ} (hKept : history.Kept) {backup : Backup κ}
    (h : backup ∈ listBackups history.files) (clock : Int) :
    Reversible history.toConfig backup clock ↔ backup ∈ history.taken.take (maxBackups - 1) := by
  rw [hKept.listBackups_eq] at h
  have hTaken : history.taken ≠ [] := List.ne_nil_of_mem (List.mem_of_mem_take h)
  obtain ⟨content, hTarget⟩ := Option.isSome_iff_exists.mp (hKept.target hTaken)
  obtain ⟨saved, hContent, hOrdered, hSnapshot⟩ := hKept.snapshot_eq hTarget clock
  have hFound : findBackup history.files backup.timestamp = some backup := by
    rw [hKept.files]
    exact findBackup_of_mem (hKept.ordered_take maxBackups) h
  have hLater : LatestFirst ((saved :: history.taken).take maxBackups) :=
    List.Pairwise.sublist (List.take_sublist _ _) hOrdered
  have hTake : (saved :: history.taken).take maxBackups = saved :: history.taken.take (maxBackups - 1) := rfl
  unfold Reversible
  by_cases hStays : backup ∈ history.taken.take (maxBackups - 1)
  · have hSource : findBackup (snapshot history.toConfig clock).1.files backup.timestamp = some backup := by
      rw [hSnapshot]
      refine findBackup_of_mem hLater ?_
      rw [hTake]
      exact List.mem_cons_of_mem saved hStays
    rw [restore_of_found hFound hSource, hSnapshot]
    refine iff_of_true ⟨rfl, rfl, ?_⟩ hStays
    rw [listBackups_reverse hLater, hTake, hTarget, ← hContent]
    rfl
  · have hGone : findBackup (snapshot history.toConfig clock).1.files backup.timestamp = none := by
      rw [hSnapshot]
      refine findBackup_eq_none fun file hFile hSame => ?_
      rw [hTake] at hFile
      obtain rfl | hFile := List.mem_cons.mp hFile
      · have hBefore := (List.pairwise_cons.mp hOrdered).1 backup (List.mem_of_mem_take h)
        omega
      · have hFileTaken : file ∈ history.taken := List.mem_of_mem_take hFile
        rw [hKept.ordered.timestamp_inj hFileTaken (List.mem_of_mem_take h) hSame] at hFile
        exact hStays hFile
    rw [restore_of_gone hFound hGone]
    refine iff_of_false (fun hReversible => ?_) hStays
    exact absurd hReversible.1 (by simp)

/-- In every state that writes and restores reach, the backups are those of the ten latest
snapshots and a new one never takes the name of another; a listed backup can be restored,
and the restore undone, exactly if it is not the oldest of ten. -/
theorem backups_reversible_iff (valid : κ → Bool) (target : Option κ) (operations : List (Operation κ)) :
    listBackups (History.run valid target operations).files =
        (History.run valid target operations).taken.take maxBackups ∧
      LatestFirst (History.run valid target operations).taken ∧
      (∀ clock, ∀ file ∈ (History.run valid target operations).files,
        file.timestamp ≠ snapshotTimestamp (History.run valid target operations).files clock) ∧
      ∀ backup ∈ listBackups (History.run valid target operations).files, ∀ clock,
        Reversible (History.run valid target operations).toConfig backup clock ↔
          (listBackups (History.run valid target operations).files).length < maxBackups ∨
            (listBackups (History.run valid target operations).files).getLast? ≠ some backup := by
  have hKept := History.Kept.run valid target operations
  refine ⟨hKept.listBackups_eq, hKept.ordered, fun clock file hFile => ?_, fun backup hBackup clock => ?_⟩
  · rw [hKept.files, List.mem_reverse] at hFile
    exact ne_of_lt (hKept.lt_snapshotTimestamp clock (List.mem_of_mem_take hFile))
  · rw [hKept.reversible_iff hBackup clock, hKept.mem_after_snapshot_iff hBackup]

def elevenWrites : List (Operation Nat) := (List.range 11).map fun text => .write text 100

theorem oldest_of_ten_not_restored :
    ∃ backup ∈ listBackups (History.run (fun _ => true) none elevenWrites).files,
      (restore (History.run (fun _ => true) none elevenWrites).toConfig backup.timestamp 100).2.1 =
          .error .sourceGone ∧
        (restore (History.run (fun _ => true) none elevenWrites).toConfig backup.timestamp 100).1.target ≠
          some backup.content :=
  ⟨⟨100, 0⟩, by decide, rfl, by decide⟩

end EidolonAdmin.Configs

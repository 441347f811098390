import Mathlib.Data.String.Basic
import EidolonAdmin.Foundation.StableSort
import EidolonAdmin.Bootstrap.Domain
import EidolonAdmin.Tools.Cancellation

/-! # Backups of partitions, and restoring NVS from one

`_backup_partition_step` and `_restore_partition_step` with the listing they rest on. A
backup file tells what it is a copy of by its name only, and the listing ends at the last
eighty names; the latest backup is the one written last.
-/

namespace EidolonAdmin.Tools

open Foundation Bootstrap

/-- The labels under which `backup_nvs`, `backup_config` and `backup_assets` take backups. -/
inductive BackupLabel where
  | nvs
  | configNvs
  | configOtadata
  | assets
deriving DecidableEq, Repr

namespace BackupLabel

def text : BackupLabel → String
  | nvs => "nvs"
  | configNvs => "config-nvs"
  | configOtadata => "config-otadata"
  | assets => "assets"

def partition : BackupLabel → String
  | nvs => "nvs"
  | configNvs => "nvs"
  | configOtadata => "otadata"
  | assets => "assets"

end BackupLabel

/-- A file of a board's backup directory. `createdAt` is its modification time. -/
structure BackupFile where
  label : BackupLabel
  stamp : String
  createdAt : Int
deriving DecidableEq, Repr

def BackupFile.name (file : BackupFile) : String := file.label.text ++ "-" ++ file.stamp ++ ".bin"

structure BackupDirectory where
  root : String
  files : List BackupFile := []
  distinct : (files.map BackupFile.name).Nodup := by decide

structure Partition where
  name : String
  offset : String
  size : String
deriving DecidableEq, Repr

structure Esp32Board where
  id : String
  target : String
  partitionCsv : String
  partitions : List Partition
deriving DecidableEq, Repr

/-- What every step of the service is run with. -/
structure Toolchain where
  esptool : String
  clientRoot : String
  env : List (String × String) := []
deriving DecidableEq, Repr

inductive Esp32Error where
  | tool (text : String)
  | notFound (text : String)
deriving DecidableEq, Repr

def Esp32Board.partition (board : Esp32Board) (name : String) : Except Esp32Error Partition :=
  match board.partitions.find? fun partition => partition.name = name with
  | some partition =>
    if partition.offset = "" ∨ partition.size = "" then
      .error (.tool ("partition '" ++ name ++ "' has no offset/size"))
    else .ok partition
  | none => .error (.tool ("partition '" ++ name ++ "' not found in " ++ board.partitionCsv))

/-- `path.name.split("-", 1)[0]`. -/
def recoveredPartition (name : String) : String :=
  String.ofList (name.toList.takeWhile fun c => c ≠ '-')

namespace BackupDirectory

def path (dir : BackupDirectory) (file : BackupFile) : String := dir.root ++ "/" ++ file.name

/-- `esptool` writes a backup; one of the same name is overwritten. -/
def take (dir : BackupDirectory) (file : BackupFile) : BackupDirectory where
  root := dir.root
  files := dir.files.filter (fun other => other.name ≠ file.name) ++ [file]
  distinct := by
    rw [List.map_append, List.nodup_append]
    refine ⟨dir.distinct.sublist (List.filter_sublist.map _), by simp, ?_⟩
    simp only [List.mem_map, List.mem_filter, decide_eq_true_eq, List.map_singleton,
      List.mem_singleton]
    rintro name ⟨other, ⟨-, hOther⟩, rfl⟩ last rfl
    exact hOther

def listingLimit : Nat := 80

def backups (dir : BackupDirectory) : List BackupFile :=
  let listed := dir.files.insertionSort fun a b => a.name ≤ b.name
  listed.drop (listed.length - listingLimit)

def latestBackup (dir : BackupDirectory) (boardId partition : String) :
    Except Esp32Error BackupFile :=
  match StableSort.firstMax BackupFile.createdAt
      (dir.backups.filter fun file => recoveredPartition file.name = partition) with
  | none => .error (.tool ("no " ++ partition ++ " backup found for " ++ boardId))
  | some file => .ok file

/-- `fileId` is the start of the SHA-1 digest of a path. -/
def backupPath (dir : BackupDirectory) (fileId : String → String) (backupId : String) :
    Except Esp32Error BackupFile :=
  match dir.backups.find? fun file => fileId (dir.path file) = backupId with
  | none => .error (.notFound ("ESP32 backup not found: " ++ backupId))
  | some file => .ok file

end BackupDirectory

/-- A value of `Esp32JobRequest.options`. -/
inductive OptionValue where
  | text (value : String)
  | number (value : Int)
  | flag (value : Bool)
  | null
deriving DecidableEq, Repr

/-- `str(value or "")`. -/
def OptionValue.str : OptionValue → String
  | text value => value
  | number value => if value = 0 then "" else toString value
  | flag value => if value then "True" else ""
  | null => ""

structure RestoreRequest where
  port : Option String := none
  backupId : Option OptionValue := none
deriving DecidableEq, Repr

def RestoreRequest.wanted (req : RestoreRequest) : String :=
  strip ((req.backupId.map OptionValue.str).getD "")

namespace Toolchain

/-- A call of `esptool` at 460800 baud. -/
def esptoolStep (tools : Toolchain) (board : Esp32Board) (port : Option String)
    (command : List String) : CommandStep where
  args := [tools.esptool, "--chip", board.target, "-p", port.getD "", "-b", "460800"] ++ command
  cwd := tools.clientRoot
  env := tools.env

def backupPartitionStep (tools : Toolchain) (board : Esp32Board) (dir : BackupDirectory)
    (port : Option String) (label : BackupLabel) (stamp : String) : Except Esp32Error CommandStep := do
  let partition ← board.partition label.partition
  let path := dir.root ++ "/" ++ label.text ++ "-" ++ stamp ++ ".bin"
  return tools.esptoolStep board port ["read_flash", partition.offset, partition.size, path]

def writeFlashStep (tools : Toolchain) (board : Esp32Board) (dir : BackupDirectory)
    (req : RestoreRequest) (partition : Partition) (file : BackupFile) : CommandStep :=
  tools.esptoolStep board req.port ["write_flash", partition.offset, dir.path file]

def backupToRestore (fileId : String → String) (board : Esp32Board) (dir : BackupDirectory)
    (req : RestoreRequest) (name : String) : Except Esp32Error BackupFile :=
  if req.wanted ≠ "" then dir.backupPath fileId req.wanted else dir.latestBackup board.id name

def restorePartitionStep (tools : Toolchain) (fileId : String → String) (board : Esp32Board)
    (dir : BackupDirectory) (req : RestoreRequest) (name : String) :
    Except Esp32Error CommandStep := do
  let partition ← board.partition name
  let backup ← backupToRestore fileId board dir req name
  return tools.writeFlashStep board dir req partition backup

end Toolchain

def BackupFile.OfNvs (file : BackupFile) : Prop := file.label.partition = "nvs"

instance (file : BackupFile) : Decidable file.OfNvs := inferInstanceAs (Decidable (_ = _))

namespace BackupDirectory

variable {dir : BackupDirectory} {file other : BackupFile}

def laterNames (dir : BackupDirectory) (file : BackupFile) : Nat :=
  dir.files.countP fun other => file.name < other.name

theorem eq_of_name (hFile : file ∈ dir.files) (hOther : other ∈ dir.files)
    (hName : file.name = other.name) : file = other :=
  List.inj_on_of_nodup_map dir.distinct hFile hOther hName

theorem pairwise_listed (dir : BackupDirectory) :
    (dir.files.insertionSort fun a b => a.name ≤ b.name).Pairwise fun a b => a.name < b.name := by
  have hSorted : (dir.files.insertionSort fun a b => a.name ≤ b.name).Pairwise
      fun a b => a.name ≤ b.name :=
    List.pairwise_insertionSort _ dir.files
  have hDistinct : ((dir.files.insertionSort fun a b => a.name ≤ b.name).map BackupFile.name).Nodup :=
    ((List.perm_insertionSort _ dir.files).map _).nodup_iff.mpr dir.distinct
  refine (hSorted.and (List.pairwise_map.mp hDistinct)).imp ?_
  rintro a b ⟨hLe, hNe⟩
  exact lt_of_le_of_ne hLe hNe

structure Listed (dir : BackupDirectory) (file : BackupFile) : Prop where
  stored : file ∈ dir.files
  few : dir.laterNames file < listingLimit

theorem mem_backups_iff : file ∈ dir.backups ↔ dir.Listed file := by
  have hPerm := List.perm_insertionSort (fun a b : BackupFile => a.name ≤ b.name) dir.files
  have hCount : (dir.files.insertionSort fun a b => a.name ≤ b.name).countP
      (fun other => file.name < other.name) = dir.laterNames file :=
    hPerm.countP_eq _
  constructor
  · intro h
    have hListed := List.mem_of_mem_drop h
    refine ⟨hPerm.mem_iff.mp hListed, ?_⟩
    rw [← hCount]
    exact (StableSort.mem_drop_iff (fun _ _ => lt_asymm) (pairwise_listed dir) hListed _).mp h
  · rintro ⟨hFile, hFew⟩
    rw [← hCount] at hFew
    exact (StableSort.mem_drop_iff (fun _ _ => lt_asymm) (pairwise_listed dir)
      (hPerm.mem_iff.mpr hFile) _).mpr hFew

theorem recoveredPartition_name (file : BackupFile) :
    recoveredPartition file.name = "nvs" ↔ file.label = .nvs := by
  cases hLabel : file.label <;>
    simp [recoveredPartition, BackupFile.name, BackupLabel.text, hLabel]

theorem latestBackup_eq_ok_iff {boardId : String} : dir.latestBackup boardId "nvs" = .ok file ↔
    StableSort.firstMax BackupFile.createdAt
      (dir.backups.filter fun file => recoveredPartition file.name = "nvs") = some file := by
  unfold latestBackup
  cases hMax : StableSort.firstMax BackupFile.createdAt
    (dir.backups.filter fun file => recoveredPartition file.name = "nvs") <;> simp

theorem mem_filter_nvs :
    file ∈ (dir.backups.filter fun file => recoveredPartition file.name = "nvs") ↔
      file ∈ dir.backups ∧ file.label = .nvs := by
  rw [List.mem_filter, decide_eq_true_iff, recoveredPartition_name]

theorem latestBackup_ok {boardId : String} (h : dir.latestBackup boardId "nvs" = .ok file) :
    dir.Listed file ∧ file.label = .nvs ∧
      ∀ other, dir.Listed other → other.label = .nvs → other.createdAt ≤ file.createdAt := by
  obtain ⟨hFile, hLatest⟩ := StableSort.firstMax_spec (latestBackup_eq_ok_iff.mp h)
  rw [mem_filter_nvs] at hFile
  refine ⟨mem_backups_iff.mp hFile.1, hFile.2, fun other hOther hLabel => ?_⟩
  exact hLatest other (mem_filter_nvs.mpr ⟨mem_backups_iff.mpr hOther, hLabel⟩)

theorem exists_latestBackup (hFile : dir.Listed file) (hLabel : file.label = .nvs)
    (boardId : String) : ∃ latest, dir.latestBackup boardId "nvs" = .ok latest := by
  have hMem := mem_filter_nvs.mpr ⟨mem_backups_iff.mpr hFile, hLabel⟩
  obtain ⟨latest, hLatest⟩ := StableSort.exists_firstMax hMem
  exact ⟨latest, latestBackup_eq_ok_iff.mpr hLatest⟩

theorem backupPath_eq_ok_iff {fileId : String → String} {backupId : String} :
    dir.backupPath fileId backupId = .ok file ↔
      dir.backups.find? (fun file => fileId (dir.path file) = backupId) = some file := by
  unfold backupPath
  cases hFind : dir.backups.find? fun file => fileId (dir.path file) = backupId <;> simp

theorem backupPath_ok {fileId : String → String} {backupId : String}
    (h : dir.backupPath fileId backupId = .ok file) :
    dir.Listed file ∧ fileId (dir.path file) = backupId := by
  have hFind := backupPath_eq_ok_iff.mp h
  have hId := List.find?_some hFind
  exact ⟨mem_backups_iff.mp (List.mem_of_find?_eq_some hFind), of_decide_eq_true hId⟩

theorem exists_backupPath {fileId : String → String} {backupId : String}
    (hFile : dir.Listed file) (hId : fileId (dir.path file) = backupId) :
    ∃ found, dir.backupPath fileId backupId = .ok found := by
  have hSome : (dir.backups.find? fun file => fileId (dir.path file) = backupId).isSome :=
    List.find?_isSome.mpr ⟨file, mem_backups_iff.mpr hFile, decide_eq_true hId⟩
  obtain ⟨found, hFound⟩ := Option.isSome_iff_exists.mp hSome
  exact ⟨found, backupPath_eq_ok_iff.mpr hFound⟩

structure MostRecent (dir : BackupDirectory) (file : BackupFile) : Prop where
  stored : file ∈ dir.files
  ofNvs : file.OfNvs
  youngest : ∀ other ∈ dir.files, other.OfNvs → other.createdAt ≤ file.createdAt

end BackupDirectory

namespace Toolchain

variable {tools : Toolchain} {fileId : String → String} {board : Esp32Board} {dir : BackupDirectory}
  {req : RestoreRequest} {partition : Partition} {file other : BackupFile}

theorem writeFlashStep_inj (hFile : file ∈ dir.files) (hOther : other ∈ dir.files)
    (h : tools.writeFlashStep board dir req partition file =
      tools.writeFlashStep board dir req partition other) : file = other := by
  have hPath : dir.root ++ "/" ++ file.name = dir.root ++ "/" ++ other.name := by
    simpa [writeFlashStep, esptoolStep, BackupDirectory.path] using h
  refine BackupDirectory.eq_of_name hFile hOther (String.toList_injective ?_)
  have hText := congrArg String.toList hPath
  simpa only [String.toList_append, List.append_cancel_left_eq] using hText

/-- A backup is a copy of the partition of its label. -/
theorem backupPartitionStep_reads {port : Option String} {step : CommandStep}
    (h : tools.backupPartitionStep board dir port file.label file.stamp = .ok step) :
    ∃ partition, board.partition file.label.partition = .ok partition ∧
      step = tools.esptoolStep board port
        ["read_flash", partition.offset, partition.size, dir.path file] := by
  cases hPartition : board.partition file.label.partition with
  | error trouble => simp [backupPartitionStep, hPartition, bind, Except.bind] at h
  | ok partition =>
    refine ⟨partition, rfl, ?_⟩
    simp only [backupPartitionStep, hPartition, bind, Except.bind, pure, Except.pure,
      Except.ok.injEq] at h
    rw [← h]
    simp [BackupDirectory.path, BackupFile.name, String.append_assoc]

theorem restore_eq_ok_iff {step : CommandStep}
    (hPartition : board.partition "nvs" = .ok partition) :
    tools.restorePartitionStep fileId board dir req "nvs" = .ok step ↔
      ∃ file, backupToRestore fileId board dir req "nvs" = .ok file ∧
        step = tools.writeFlashStep board dir req partition file := by
  rw [restorePartitionStep, hPartition]
  cases hBackup : backupToRestore fileId board dir req "nvs" with
  | error trouble => simp [bind, Except.bind]
  | ok file => simp [bind, Except.bind, pure, Except.pure, eq_comm]

theorem restore_error_of_partition {trouble : Esp32Error}
    (hPartition : board.partition "nvs" = .error trouble) :
    tools.restorePartitionStep fileId board dir req "nvs" = .error trouble := by
  rw [restorePartitionStep, hPartition]
  rfl

/-- Restoring NVS writes only NVS data: what is written comes from a backup of the
partition; without an id it is the most recent one, if there is any; and an id of another
partition's backup is refused. -/
structure RestoresNvs (tools : Toolchain) (fileId : String → String) (board : Esp32Board)
    (dir : BackupDirectory) (req : RestoreRequest) : Prop where
  onlyNvs : ∀ partition, board.partition "nvs" = .ok partition → ∀ step,
    tools.restorePartitionStep fileId board dir req "nvs" = .ok step →
      ∃ file ∈ dir.files, file.OfNvs ∧ step = tools.writeFlashStep board dir req partition file
  latest : req.wanted = "" → ∀ partition, board.partition "nvs" = .ok partition →
    (∃ file ∈ dir.files, file.OfNvs) → ∃ file, dir.MostRecent file ∧
      tools.restorePartitionStep fileId board dir req "nvs" =
        .ok (tools.writeFlashStep board dir req partition file)
  refused : req.wanted ≠ "" → ∀ file ∈ dir.files, fileId (dir.path file) = req.wanted →
    ¬ file.OfNvs → ∃ trouble,
      tools.restorePartitionStep fileId board dir req "nvs" = .error trouble

/-- With an id: no listed backup has it, or no backup of another partition has. Without:
there is no backup of NVS, or a most recent one was taken by `backup_nvs` and is among the
last eighty names. -/
def Restorable (fileId : String → String) (dir : BackupDirectory) (req : RestoreRequest) : Prop :=
  if req.wanted = "" then
    (∀ file ∈ dir.files, ¬ file.OfNvs) ∨
      ∃ file, dir.MostRecent file ∧ file.label = .nvs ∧
        dir.laterNames file < BackupDirectory.listingLimit
  else
    (∀ file ∈ dir.files, fileId (dir.path file) = req.wanted →
      BackupDirectory.listingLimit ≤ dir.laterNames file) ∨
      ∀ file ∈ dir.files, fileId (dir.path file) = req.wanted → file.OfNvs

theorem ofNvs_of_label (h : file.label = .nvs) : file.OfNvs := by
  simp [BackupFile.OfNvs, h, BackupLabel.partition]

theorem backupToRestore_of_id (h : req.wanted ≠ "") :
    backupToRestore fileId board dir req "nvs" = dir.backupPath fileId req.wanted :=
  if_pos h

theorem backupToRestore_of_none (h : req.wanted = "") :
    backupToRestore fileId board dir req "nvs" = dir.latestBackup board.id "nvs" :=
  if_neg (not_not.mpr h)

theorem restore_refused (hPartition : board.partition "nvs" = .ok partition)
    (h : ∀ file, backupToRestore fileId board dir req "nvs" ≠ .ok file) :
    ∃ trouble, tools.restorePartitionStep fileId board dir req "nvs" = .error trouble := by
  cases hStep : tools.restorePartitionStep fileId board dir req "nvs" with
  | error trouble => exact ⟨trouble, rfl⟩
  | ok step =>
    obtain ⟨file, hFile, -⟩ := (restore_eq_ok_iff hPartition).mp hStep
    exact absurd hFile (h file)

theorem restoresNvs_of_id (hId : req.wanted ≠ "")
    (hPartition : board.partition "nvs" = .ok partition) :
    RestoresNvs tools fileId board dir req ↔ Restorable fileId dir req := by
  rw [Restorable, if_neg hId]
  constructor
  · intro h
    by_cases hListed : ∃ file, dir.Listed file ∧ fileId (dir.path file) = req.wanted
    · right
      intro file hFile hSame
      by_contra hOther
      obtain ⟨trouble, hError⟩ := h.refused hId file hFile hSame hOther
      obtain ⟨listed, hMem, hListedId⟩ := hListed
      obtain ⟨found, hFound⟩ := BackupDirectory.exists_backupPath hMem hListedId
      have hOk : tools.restorePartitionStep fileId board dir req "nvs" =
          .ok (tools.writeFlashStep board dir req partition found) :=
        (restore_eq_ok_iff hPartition).mpr ⟨found, (backupToRestore_of_id hId).trans hFound, rfl⟩
      rw [hError] at hOk
      cases hOk
    · left
      intro file hFile hSame
      by_contra hFew
      exact hListed ⟨file, ⟨hFile, by omega⟩, hSame⟩
  · intro h
    refine ⟨fun other hOther step hStep => ?_, fun hNone => absurd hNone hId,
      fun _ file hFile hSame hApart => ?_⟩
    · obtain ⟨file, hFile, rfl⟩ := (restore_eq_ok_iff hOther).mp hStep
      rw [backupToRestore_of_id hId] at hFile
      obtain ⟨⟨hStored, hFew⟩, hSame⟩ := BackupDirectory.backupPath_ok hFile
      obtain hUnlisted | hAll := h
      · have hMany := hUnlisted file hStored hSame
        exact absurd hFew (by omega)
      · exact ⟨file, hStored, hAll file hStored hSame, rfl⟩
    · obtain hUnlisted | hAll := h
      · refine restore_refused hPartition fun found hFound => ?_
        rw [backupToRestore_of_id hId] at hFound
        obtain ⟨⟨hStored, hFew⟩, hFoundId⟩ := BackupDirectory.backupPath_ok hFound
        have hMany := hUnlisted found hStored hFoundId
        omega
      · exact absurd (hAll file hFile hSame) hApart

theorem restoresNvs_of_none (hNone : req.wanted = "")
    (hPartition : board.partition "nvs" = .ok partition) :
    RestoresNvs tools fileId board dir req ↔ Restorable fileId dir req := by
  rw [Restorable, if_pos hNone]
  constructor
  · intro h
    by_cases hSome : ∃ file ∈ dir.files, file.OfNvs
    · right
      obtain ⟨file, hRecent, hOk⟩ := h.latest hNone partition hPartition hSome
      obtain ⟨found, hFound, hSame⟩ := (restore_eq_ok_iff hPartition).mp hOk
      rw [backupToRestore_of_none hNone] at hFound
      obtain ⟨hListed, hLabel, -⟩ := BackupDirectory.latestBackup_ok hFound
      obtain rfl := writeFlashStep_inj hRecent.stored hListed.stored hSame
      exact ⟨file, hRecent, hLabel, hListed.few⟩
    · left
      intro file hFile hOf
      exact hSome ⟨file, hFile, hOf⟩
  · intro h
    refine ⟨fun other hOther step hStep => ?_, fun _ other hOther hSome => ?_,
      fun hId => absurd hNone hId⟩
    · obtain ⟨file, hFile, rfl⟩ := (restore_eq_ok_iff hOther).mp hStep
      rw [backupToRestore_of_none hNone] at hFile
      obtain ⟨hListed, hLabel, -⟩ := BackupDirectory.latestBackup_ok hFile
      exact ⟨file, hListed.stored, ofNvs_of_label hLabel, rfl⟩
    · obtain hNoNvs | ⟨file, hRecent, hLabel, hFew⟩ := h
      · obtain ⟨file, hFile, hOf⟩ := hSome
        exact absurd hOf (hNoNvs file hFile)
      · have hListed : dir.Listed file := ⟨hRecent.stored, hFew⟩
        obtain ⟨found, hFound⟩ := BackupDirectory.exists_latestBackup hListed hLabel board.id
        obtain ⟨hFoundListed, hFoundLabel, hLatest⟩ := BackupDirectory.latestBackup_ok hFound
        have hRestore : backupToRestore fileId board dir req "nvs" = .ok found :=
          (backupToRestore_of_none hNone).trans hFound
        refine ⟨found, ⟨hFoundListed.stored, ofNvs_of_label hFoundLabel, ?_⟩,
          (restore_eq_ok_iff hOther).mpr ⟨found, hRestore, rfl⟩⟩
        intro another hAnother hOf
        calc
          another.createdAt ≤ file.createdAt := hRecent.youngest another hAnother hOf
          _ ≤ found.createdAt := hLatest file hListed hLabel

theorem restores_nvs_iff (tools : Toolchain) (fileId : String → String) (board : Esp32Board)
    (dir : BackupDirectory) (req : RestoreRequest) :
    RestoresNvs tools fileId board dir req ↔
      ((∃ partition, board.partition "nvs" = .ok partition) → Restorable fileId dir req) := by
  cases hPartition : board.partition "nvs" with
  | error trouble =>
    have hError : tools.restorePartitionStep fileId board dir req "nvs" = .error trouble :=
      restore_error_of_partition hPartition
    refine iff_of_true ⟨?_, ?_, fun _ _ _ _ _ => ⟨trouble, hError⟩⟩ (by simp)
    · simp [hPartition]
    · simp [hPartition]
  | ok partition =>
    have hFound : ∃ partition', (.ok partition : Except Esp32Error Partition) = .ok partition' :=
      ⟨partition, rfl⟩
    rw [forall_prop_of_true hFound]
    by_cases hNone : req.wanted = ""
    · exact restoresNvs_of_none hNone hPartition
    · exact restoresNvs_of_id hNone hPartition

/-- A backup of the assets, and a younger one of NVS that `backup_config` took. -/
def boxBackups : BackupDirectory :=
  (BackupDirectory.take { root := "/srv/backups/esp-box-3" }
    ⟨.assets, "20260101-000000", 1767225600⟩).take ⟨.configNvs, "20260101-000500", 1767225900⟩

def box : Esp32Board :=
  { id := "esp-box-3", target := "esp32s3", partitionCsv := "partitions.csv"
    partitions := [⟨"nvs", "0x9000", "0x4000"⟩] }

def boxFileId (path : String) : String :=
  if path = "/srv/backups/esp-box-3/assets-20260101-000000.bin" then "73aef88599b04089" else "64f537653668867b"

def boxTools : Toolchain := { esptool := "esptool.py", clientRoot := "." }

/-- The assets are written over NVS when their backup is named, and without a name the
backup of NVS is not found. -/
theorem assets_written_to_nvs :
    boxTools.restorePartitionStep boxFileId box boxBackups
        { port := some "/dev/ttyACM0", backupId := some (.text "73aef88599b04089") } "nvs" =
      .ok (boxTools.esptoolStep box (some "/dev/ttyACM0")
        ["write_flash", "0x9000", "/srv/backups/esp-box-3/assets-20260101-000000.bin"]) ∧
    ¬ RestoresNvs boxTools boxFileId box boxBackups
        { port := some "/dev/ttyACM0", backupId := some (.text "73aef88599b04089") } ∧
    boxTools.restorePartitionStep boxFileId box boxBackups {} "nvs" =
      .error (.tool "no nvs backup found for esp-box-3") ∧
    ¬ RestoresNvs boxTools boxFileId box boxBackups {} := by
  refine ⟨rfl, fun h => ?_, rfl, fun h => ?_⟩
  · obtain ⟨trouble, hError⟩ :=
      h.refused (by decide) ⟨.assets, "20260101-000000", 1767225600⟩ (by decide) (by decide) (by decide)
    cases hError
  · obtain ⟨file, -, hOk⟩ :=
      h.latest (by decide) ⟨"nvs", "0x9000", "0x4000"⟩ rfl
        ⟨⟨.configNvs, "20260101-000500", 1767225900⟩, by decide, by decide⟩
    cases hOk

end Toolchain

end EidolonAdmin.Tools

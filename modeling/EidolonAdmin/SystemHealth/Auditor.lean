import Mathlib.Logic.Relation
import EidolonAdmin.Foundation.Dict
import EidolonAdmin.Foundation.Traverse

/-! # Who listens on the declared ports

The audit holds the ports that the services declare against the processes that listen on
them and against supervisord's programs. A result that is absent stands for an exception.
-/

namespace EidolonAdmin.SystemHealth

open Foundation

/-! ## The processes, as psutil reads them -/

inductive ParentReading where
  | parent (pid : Nat)
  | gone
  | denied
  deriving DecidableEq, Repr

/-- One process. `listening` is absent where its connections cannot be read, `readable` says
whether its command line and its creation time can be. -/
structure ProcessEntry where
  pid : Nat
  ppid : ParentReading
  listening : Option (List Nat) := some []
  readable : Bool := true
  deriving DecidableEq, Repr

abbrev ProcessTable := List ProcessEntry

namespace ProcessTable

def find (table : ProcessTable) (pid : Nat) : Option ProcessEntry :=
  List.find? (fun entry => entry.pid = pid) table

/-- `psutil.Process(pid).ppid()` -/
def parentOf (table : ProcessTable) (pid : Nat) : ParentReading :=
  (table.find pid).elim .gone ProcessEntry.ppid

def findPortListener (table : ProcessTable) (port : Nat) : Option ProcessEntry :=
  List.find? (fun entry => entry.listening.any fun ports => port ∈ ports) table

/-- The walk up the parents, of at most so many processes. -/
def ppidChain (table : ProcessTable) : Nat → Nat → Option (List Nat)
  | 0, _ => some []
  | depth + 1, current =>
    if current ≤ 1 then some [current]
    else
      match table.parentOf current with
      | .gone => some [current]
      | .denied => none
      | .parent ppid => (table.ppidChain depth ppid).map fun chain => current :: chain

def maxDepth : Nat := 20

def getProcess (table : ProcessTable) (pid : Nat) : Option (Option Nat) :=
  match table.find pid with
  | none => some none
  | some entry =>
    match entry.ppid with
    | .gone => some none
    | .denied => none
    | .parent ppid => if entry.readable then some (some ppid) else none

def ageKnown (table : ProcessTable) (pid : Nat) : Bool :=
  (table.find pid).all ProcessEntry.readable

end ProcessTable

/-! ## The audit -/

structure ProcessInfo where
  fullName : String
  pid : Int
  deriving DecidableEq, Repr

inductive SupervisorAnswer where
  | unavailable
  | error
  | infos (infos : List ProcessInfo)
  deriving DecidableEq, Repr

structure ServiceConfig where
  id : String
  declared : List Nat
  deriving DecidableEq, Repr

inductive PortState where
  | ok | wrongOwner | down | unmanaged
  deriving DecidableEq, Repr

structure PortAudit where
  port : Nat
  state : PortState
  listener : Option Nat
  chain : List Nat
  supervised : Bool
  deriving DecidableEq, Repr

structure OrphanAudit where
  pid : Nat
  declaredForService : String
  port : Nat
  deriving DecidableEq, Repr

structure Auditor where
  services : List ServiceConfig
  /-- the ports of a service that may be served from outside supervisord -/
  unmanagedPorts : List (String × List Nat) := [("admin", [9001])]

section Audit

variable (table : ProcessTable)

/-- supervisord's programs that run, by their names. -/
def programPids : SupervisorAnswer → List (String × Int)
  | .unavailable | .error => []
  | .infos infos =>
    (Dict.index ProcessInfo.fullName (infos.filter fun info => 0 < info.pid)).map fun item =>
      (item.1, item.2.pid)

/-- The pid that is taken for supervisord's: the parent of its first program. -/
def supervisordPid (answer : SupervisorAnswer) : Option (Option Nat) :=
  match (programPids answer).head? with
  | none => some none
  | some program => table.getProcess program.2.toNat

variable (unmanaged : List Nat) (service : ServiceConfig) (supervisord : Option Nat)

def auditPort (port : Nat) : Option (PortAudit × Option OrphanAudit) :=
  match table.findPortListener port with
  | none => some ({ port, state := .down, listener := none, chain := [], supervised := false }, none)
  | some listener => do
    let chain ← table.ppidChain ProcessTable.maxDepth listener.pid
    if supervisord.any fun pid => pid ∈ chain then
      return ({ port, state := .ok, listener := some listener.pid, chain, supervised := true }, none)
    else if port ∈ unmanaged then
      return ({ port, state := .unmanaged, listener := some listener.pid, chain, supervised := false },
        none)
    else if table.ageKnown listener.pid then
      return ({ port, state := .wrongOwner, listener := some listener.pid, chain, supervised := false },
        some { pid := listener.pid, declaredForService := service.id, port })
    else none

def auditServicePorts : Option (List PortAudit × List OrphanAudit) :=
  (service.declared.mapM (auditPort table unmanaged service supervisord)).map fun rows =>
    (rows.map Prod.fst, rows.filterMap Prod.snd)

end Audit

namespace Auditor

variable (auditor : Auditor)

def unmanagedFor (service : ServiceConfig) : List Nat :=
  (Dict.get auditor.unmanagedPorts service.id).getD []

def auditService (table : ProcessTable) (supervisord : Option Nat) (service : ServiceConfig) :
    Option ((String × List PortAudit) × List OrphanAudit) :=
  (auditServicePorts table (auditor.unmanagedFor service) service supervisord).map fun ports =>
    ((service.id, ports.1), ports.2)

def audit (table : ProcessTable) (answer : SupervisorAnswer) :
    Option (List (String × List PortAudit) × List OrphanAudit) := do
  let supervisord ← supervisordPid table answer
  let services ← auditor.services.mapM (auditor.auditService table supervisord)
  return (services.map Prod.fst, services.flatMap Prod.snd)

inductive KillResult where
  | notListener
  | raised
  | notOrphan
  | signalled
  deriving DecidableEq, Repr

/-- The processes are read before supervisord is asked and again after it answered. -/
def killOrphan (before after : ProcessTable) (answer : SupervisorAnswer) (pid expectedPort : Nat) :
    KillResult :=
  match before.findPortListener expectedPort with
  | none => .notListener
  | some live =>
    if live.pid ≠ pid then .notListener
    else
      match auditor.audit after answer with
      | none => .raised
      | some found =>
        if found.2.any fun orphan => orphan.pid = pid ∧ orphan.port = expectedPort then .signalled
        else .notOrphan

end Auditor

/-! ## Who is signalled -/

def ProcessTable.Descendant (table : ProcessTable) (pid root : Nat) : Prop :=
  Relation.TransGen (fun child parent => table.parentOf child = .parent parent) pid root

section Verdicts

variable {table : ProcessTable} {unmanaged : List Nat} {service : ServiceConfig}
  {supervisord : Option Nat} {port : Nat}

def PortReadable (table : ProcessTable) (unmanaged : List Nat) (supervisord : Option Nat) (port : Nat) :
    Prop :=
  ∀ listener, table.findPortListener port = some listener →
    ∃ chain, table.ppidChain ProcessTable.maxDepth listener.pid = some chain ∧
      ((∃ root, supervisord = some root ∧ root ∈ chain) ∨ port ∈ unmanaged ∨
        table.ageKnown listener.pid = true)

theorem any_mem_iff {chain : List Nat} :
    (supervisord.any fun pid => pid ∈ chain) = true ↔ ∃ root, supervisord = some root ∧ root ∈ chain := by
  cases supervisord <;> simp

theorem isSome_auditPort :
    (auditPort table unmanaged service supervisord port).isSome ↔
      PortReadable table unmanaged supervisord port := by
  unfold auditPort PortReadable
  cases table.findPortListener port with
  | none => simp
  | some listener =>
    simp only [Option.some.injEq, forall_eq']
    cases table.ppidChain ProcessTable.maxDepth listener.pid with
    | none => simp
    | some chain =>
      simp only [Option.some.injEq, exists_eq_left', ← any_mem_iff]
      by_cases hOwned : (supervisord.any fun pid => pid ∈ chain) = true
      · simp [hOwned]
      · by_cases hUnmanaged : port ∈ unmanaged
        · simp [hOwned, hUnmanaged]
        · cases table.ageKnown listener.pid <;> simp [hOwned, hUnmanaged]

def Unowned (table : ProcessTable) (supervisord : Option Nat) (pid : Nat) : Prop :=
  ∃ chain, table.ppidChain ProcessTable.maxDepth pid = some chain ∧
    ¬ ∃ root, supervisord = some root ∧ root ∈ chain

theorem auditPort_orphan_iff {row : PortAudit × Option OrphanAudit}
    (h : auditPort table unmanaged service supervisord port = some row) {pid expectedPort : Nat} :
    (∃ orphan, row.2 = some orphan ∧ orphan.pid = pid ∧ orphan.port = expectedPort) ↔
      port = expectedPort ∧ port ∉ unmanaged ∧
        ∃ listener, table.findPortListener port = some listener ∧ listener.pid = pid ∧
          Unowned table supervisord listener.pid := by
  unfold auditPort at h
  unfold Unowned
  cases hListener : table.findPortListener port with
  | none =>
    simp only [hListener, Option.some.injEq] at h
    subst h
    simp
  | some listener =>
    cases hChain : table.ppidChain ProcessTable.maxDepth listener.pid with
    | none => simp [hListener, hChain] at h
    | some chain =>
      simp only [hListener, hChain, Option.bind_eq_bind, Option.bind_some, Option.pure_def] at h
      simp only [hChain, Option.some.injEq, exists_eq_left', ← any_mem_iff]
      by_cases hOwned : (supervisord.any fun pid => pid ∈ chain) = true
      · rw [if_pos hOwned, Option.some.injEq] at h
        subst h
        simp [hOwned]
      · rw [if_neg hOwned] at h
        by_cases hUnmanaged : port ∈ unmanaged
        · rw [if_pos hUnmanaged, Option.some.injEq] at h
          subst h
          simp [hUnmanaged]
        · rw [if_neg hUnmanaged] at h
          by_cases hAge : table.ageKnown listener.pid = true
          · rw [if_pos hAge, Option.some.injEq] at h
            subst h
            simp [hOwned, hUnmanaged, and_comm]
          · rw [if_neg hAge] at h
            exact absurd h (by simp)

end Verdicts

namespace Auditor

variable (auditor : Auditor) (before after : ProcessTable) (answer : SupervisorAnswer) (pid expectedPort : Nat)

def Readable : Prop :=
  ∃ supervisord, supervisordPid after answer = some supervisord ∧
    ∀ service ∈ auditor.services, ∀ port ∈ service.declared,
      PortReadable after (auditor.unmanagedFor service) supervisord port

theorem isSome_auditService {supervisord : Option Nat} {service : ServiceConfig} :
    (auditor.auditService after supervisord service).isSome ↔
      ∀ port ∈ service.declared, PortReadable after (auditor.unmanagedFor service) supervisord port := by
  unfold auditService auditServicePorts
  rw [Option.isSome_map, Option.isSome_map, Traverse.isSome_mapM_iff]
  exact forall₂_congr fun port _ => isSome_auditPort

theorem isSome_audit : (auditor.audit after answer).isSome ↔ auditor.Readable after answer := by
  unfold audit Readable
  cases supervisordPid after answer with
  | none => simp
  | some supervisord =>
    have hServices : (auditor.services.mapM (auditor.auditService after supervisord)).isSome ↔ _ :=
      Traverse.isSome_mapM_iff
    simp only [isSome_auditService] at hServices
    simp [← hServices, Option.isSome_iff_exists, Option.bind_eq_some_iff]

theorem auditService_orphan_iff {supervisord : Option Nat} {service : ServiceConfig}
    {row : (String × List PortAudit) × List OrphanAudit}
    (h : auditor.auditService after supervisord service = some row) :
    (∃ orphan ∈ row.2, orphan.pid = pid ∧ orphan.port = expectedPort) ↔
      expectedPort ∈ service.declared ∧ expectedPort ∉ auditor.unmanagedFor service ∧
        ∃ listener, after.findPortListener expectedPort = some listener ∧ listener.pid = pid ∧
          Unowned after supervisord listener.pid := by
  obtain ⟨ports, hPorts, rfl⟩ := Option.map_eq_some_iff.mp h
  obtain ⟨rows, hRows, rfl⟩ := Option.map_eq_some_iff.mp hPorts
  simp only [List.mem_filterMap, Traverse.mem_of_mapM hRows]
  constructor
  · rintro ⟨orphan, ⟨row, ⟨port, hPort, hRow⟩, hOrphan⟩, hSame⟩
    obtain ⟨rfl, hListener⟩ := (auditPort_orphan_iff hRow).mp ⟨orphan, hOrphan, hSame⟩
    exact ⟨hPort, hListener⟩
  · rintro ⟨hPort, hListener⟩
    obtain ⟨row, hRow⟩ := Option.isSome_iff_exists.mp (Traverse.isSome_of_mapM hRows _ hPort)
    obtain ⟨orphan, hOrphan, hSame⟩ := (auditPort_orphan_iff hRow).mpr ⟨rfl, hListener⟩
    exact ⟨orphan, ⟨row, ⟨expectedPort, hPort, hRow⟩, hOrphan⟩, hSame⟩

theorem audit_orphan_iff {supervisord : Option Nat}
    (hSupervisord : supervisordPid after answer = some supervisord)
    {found : List (String × List PortAudit) × List OrphanAudit}
    (h : auditor.audit after answer = some found) :
    (∃ orphan ∈ found.2, orphan.pid = pid ∧ orphan.port = expectedPort) ↔
      ∃ service ∈ auditor.services, expectedPort ∈ service.declared ∧
        expectedPort ∉ auditor.unmanagedFor service ∧
        ∃ listener, after.findPortListener expectedPort = some listener ∧ listener.pid = pid ∧
          Unowned after supervisord listener.pid := by
  unfold audit at h
  rw [hSupervisord, Option.bind_eq_bind, Option.bind_some] at h
  obtain ⟨rows, hRows, h⟩ := Option.bind_eq_some_iff.mp h
  obtain rfl := Option.some.inj h
  simp only [List.mem_flatMap, Traverse.mem_of_mapM hRows]
  constructor
  · rintro ⟨orphan, ⟨row, ⟨service, hService, hRow⟩, hOrphan⟩, hSame⟩
    exact ⟨service, hService,
      (auditor.auditService_orphan_iff after pid expectedPort hRow).mp ⟨orphan, hOrphan, hSame⟩⟩
  · rintro ⟨service, hService, hListener⟩
    obtain ⟨row, hRow⟩ := Option.isSome_iff_exists.mp (Traverse.isSome_of_mapM hRows _ hService)
    obtain ⟨orphan, hOrphan, hSame⟩ :=
      (auditor.auditService_orphan_iff after pid expectedPort hRow).mpr hListener
    exact ⟨orphan, ⟨row, ⟨service, hService, hRow⟩, hOrphan⟩, hSame⟩

/-- The request names the process that listens on a declared port that supervisord has to
serve, before supervisord is asked and after. -/
def Asked : Prop :=
  (∃ live, before.findPortListener expectedPort = some live ∧ live.pid = pid) ∧
    (∃ listener, after.findPortListener expectedPort = some listener ∧ listener.pid = pid) ∧
    ∃ service ∈ auditor.services, expectedPort ∈ service.declared ∧
      expectedPort ∉ auditor.unmanagedFor service

/-- The first program that supervisord reports is still there, and its parent is among the
first twenty of the process and its ancestors. -/
def Recognised : Prop :=
  ∃ root, supervisordPid after answer = some (some root) ∧
    ∃ chain, after.ppidChain ProcessTable.maxDepth pid = some chain ∧ root ∈ chain

theorem unowned_iff {supervisord : Option Nat} (h : supervisordPid after answer = some supervisord)
    (hChain : (after.ppidChain ProcessTable.maxDepth pid).isSome) :
    Unowned after supervisord pid ↔ ¬ Recognised after answer pid := by
  obtain ⟨chain, hChain⟩ := Option.isSome_iff_exists.mp hChain
  unfold Unowned Recognised
  simp only [h, hChain, Option.some.injEq, exists_eq_left']

theorem killOrphan_eq_signalled :
    auditor.killOrphan before after answer pid expectedPort = .signalled ↔
      (∃ live, before.findPortListener expectedPort = some live ∧ live.pid = pid) ∧
        ∃ found, auditor.audit after answer = some found ∧
          ∃ orphan ∈ found.2, orphan.pid = pid ∧ orphan.port = expectedPort := by
  unfold killOrphan
  cases before.findPortListener expectedPort with
  | none => simp
  | some live =>
    by_cases hLive : live.pid = pid
    · cases auditor.audit after answer with
      | none => simp [hLive]
      | some found => simp [hLive]
    · simp [hLive]

/-- A process is signalled exactly if it is asked for, the audit can read it, and no
supervisord is recognised above it. -/
theorem killOrphan_signalled_iff :
    auditor.killOrphan before after answer pid expectedPort = .signalled ↔
      auditor.Asked before after pid expectedPort ∧ auditor.Readable after answer ∧
        ¬ Recognised after answer pid := by
  rw [killOrphan_eq_signalled, ← isSome_audit, Option.isSome_iff_exists]
  constructor
  · rintro ⟨hLive, found, hFound, hOrphan⟩
    obtain ⟨supervisord, hSupervisord, -⟩ :=
      (auditor.isSome_audit after answer).mp (Option.isSome_iff_exists.mpr ⟨found, hFound⟩)
    obtain ⟨service, hService, hPort, hManaged, listener, hListener, rfl, hUnowned⟩ :=
      (auditor.audit_orphan_iff after answer pid expectedPort hSupervisord hFound).mp hOrphan
    obtain ⟨chain, hChain, -⟩ := id hUnowned
    refine ⟨⟨hLive, ⟨listener, hListener, rfl⟩, service, hService, hPort, hManaged⟩, ⟨found, hFound⟩, ?_⟩
    exact (unowned_iff after answer _ hSupervisord (by simp [hChain])).mp hUnowned
  · rintro ⟨⟨hLive, ⟨listener, hListener, rfl⟩, service, hService, hPort, hManaged⟩, ⟨found, hFound⟩, hNot⟩
    obtain ⟨supervisord, hSupervisord, hReadable⟩ :=
      (auditor.isSome_audit after answer).mp (Option.isSome_iff_exists.mpr ⟨found, hFound⟩)
    obtain ⟨chain, hChain, -⟩ := hReadable service hService expectedPort hPort listener hListener
    have hUnowned := (unowned_iff after answer _ hSupervisord (by simp [hChain])).mpr hNot
    exact ⟨hLive, found, hFound, (auditor.audit_orphan_iff after answer _ expectedPort hSupervisord
      hFound).mpr ⟨service, hService, hPort, hManaged, listener, hListener, rfl, hUnowned⟩⟩

/-- A signal goes only to the listener of the declared port, and to no descendant of the
running supervisord, exactly if every such descendant is recognised when it is asked for. -/
theorem no_managed_process_signalled_iff (running : Option Nat) :
    (auditor.killOrphan before after answer pid expectedPort = .signalled →
      (∃ listener, after.findPortListener expectedPort = some listener ∧ listener.pid = pid) ∧
        (∃ service ∈ auditor.services, expectedPort ∈ service.declared) ∧
        ∀ root, running = some root → ¬ after.Descendant pid root) ↔
      (auditor.Asked before after pid expectedPort → auditor.Readable after answer →
        (∃ root, running = some root ∧ after.Descendant pid root) → Recognised after answer pid) := by
  rw [killOrphan_signalled_iff]
  constructor
  · rintro hSafe hAsked hReadable ⟨root, hRunning, hDescendant⟩
    by_contra hNot
    exact (hSafe ⟨hAsked, hReadable, hNot⟩).2.2 root hRunning hDescendant
  · rintro hRecognised ⟨hAsked, hReadable, hNot⟩
    obtain ⟨-, hListener, service, hService, hPort, -⟩ := id hAsked
    refine ⟨hListener, ⟨service, hService, hPort⟩, fun root hRunning hDescendant => ?_⟩
    exact hNot (hRecognised hAsked hReadable ⟨root, hRunning, hDescendant⟩)

end Auditor

def supervisedTable : ProcessTable :=
  [{ pid := 100, ppid := .parent 1 }, { pid := 200, ppid := .parent 100, listening := some [9000] }]

def gateway : Auditor := { services := [{ id := "gateway", declared := [9000] }] }

theorem managed_listener_signalled :
    gateway.killOrphan supervisedTable supervisedTable .unavailable 200 9000 = .signalled ∧
      supervisedTable.Descendant 200 100 :=
  ⟨by decide, Relation.TransGen.single (by decide)⟩

end EidolonAdmin.SystemHealth

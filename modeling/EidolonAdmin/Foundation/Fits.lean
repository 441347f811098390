import EidolonAdmin.Foundation.Connection
import EidolonAdmin.Foundation.Layout

/-! # Tables that fit a declared shape

A table fits a shape when it lists the shape's columns in some order, has its keys
and holds rows that meet all of its constraints. Adding or dropping a column and
updating a column that no key mentions keep a table fitting; rebuilding a table
under another shape succeeds exactly if every row meets that shape's constraints,
and rebuilding it a second time changes nothing.
-/

namespace EidolonAdmin.Foundation.Sql

open Connection

section

variable {γ : Type}

structure Fits (shape : Shape γ) (table : Table γ) : Prop where
  columns : table.columns.Perm shape.columns
  keys : table.keys = shape.keys
  admitted : ∀ row ∈ table.rows, table.Admits row
  distinct : table.rows.Pairwise table.Distinct

theorem Fits.mem_names {shape : Shape γ} {table : Table γ} (h : Fits shape table) {c : γ} :
    c ∈ table.names ↔ c ∈ shape.names := (h.columns.map Column.name).mem_iff

theorem Fits.admits_iff {shape : Shape γ} {table : Table γ} (h : Fits shape table) {row : Row γ} :
    table.Admits row ↔ shape.Admits row :=
  ⟨fun hRow column hMem => hRow column (h.columns.mem_iff.mpr hMem),
    fun hRow column hMem => hRow column (h.columns.mem_iff.mp hMem)⟩

theorem Fits.empty (shape : Shape γ) : Fits shape ⟨shape, []⟩ :=
  ⟨.refl _, rfl, fun _ hRow => absurd hRow List.not_mem_nil, .nil⟩

theorem Shape.Distinct.symm {shape : Shape γ} {a b : Row γ} (h : shape.Distinct a b) :
    shape.Distinct b a := by
  intro key hMem hCollide
  refine h key hMem fun c hC => ?_
  obtain ⟨hEq, hNull⟩ := hCollide c hC
  exact ⟨hEq.symm, hEq ▸ hNull⟩

theorem insertRow_eq_some_iff {table stored : Table γ} {row : Row γ} :
    table.insertRow row = some stored ↔
      (table.Admits row ∧ ∀ other ∈ table.rows, table.Distinct other row) ∧
        stored = { table with rows := table.rows ++ [row] } := by
  unfold Table.insertRow
  split
  · rename_i hOk
    rw [Option.some.injEq, eq_comm]
    exact ⟨fun hStored => ⟨hOk, hStored⟩, And.right⟩
  · rename_i hNot
    exact ⟨fun h => absurd h.symm (Option.some_ne_none stored), fun h => absurd h.1 hNot⟩

/-- A list of rows is stored exactly if each row meets the constraints and no two
rows, stored or new, violate a key. -/
theorem insertRows_eq_some_iff {table stored : Table γ} {rows : List (Row γ)} :
    table.insertRows rows = some stored ↔
      ((∀ row ∈ rows, table.Admits row) ∧
        (∀ old ∈ table.rows, ∀ row ∈ rows, table.Distinct old row) ∧
        rows.Pairwise table.Distinct) ∧
        stored = { table with rows := table.rows ++ rows } := by
  induction rows generalizing table with
  | nil => simp [Table.insertRows, eq_comm]
  | cons row rest ih =>
    rw [Table.insertRows]
    constructor
    · intro h
      cases hRow : table.insertRow row with
      | none => rw [hRow] at h; cases h
      | some next =>
        rw [hRow] at h
        obtain ⟨⟨hAdmits, hFirst⟩, rfl⟩ := insertRow_eq_some_iff.mp hRow
        obtain ⟨⟨hRest, hStored, hPairs⟩, rfl⟩ := ih.mp h
        refine ⟨⟨?_, ?_, ?_⟩, by simp⟩
        · rintro other (_ | ⟨_, hOther⟩)
          · exact hAdmits
          · exact hRest other hOther
        · rintro old hOld other (_ | ⟨_, hOther⟩)
          · exact hFirst old hOld
          · exact hStored old (List.mem_append_left _ hOld) other hOther
        · refine List.pairwise_cons.mpr ⟨fun other hOther => ?_, hPairs⟩
          exact hStored row (List.mem_append_right _ List.mem_cons_self) other hOther
    · rintro ⟨⟨hAdmits, hStored, hPairs⟩, rfl⟩
      obtain ⟨hRow, hRest⟩ := List.pairwise_cons.mp hPairs
      have hNext : table.insertRow row = some { table with rows := table.rows ++ [row] } :=
        insertRow_eq_some_iff.mpr
          ⟨⟨hAdmits row List.mem_cons_self, fun old hOld => hStored old hOld row List.mem_cons_self⟩,
            rfl⟩
      rw [hNext]
      refine ih.mpr ⟨⟨fun other hOther => hAdmits other (List.mem_cons_of_mem _ hOther), ?_, hRest⟩,
        by simp⟩
      intro old hOld other hOther
      rcases List.mem_append.mp hOld with hOld | hOld
      · exact hStored old hOld other (List.mem_cons_of_mem _ hOther)
      · rw [List.mem_singleton.mp hOld]
        exact hRow other hOther

end

section

variable {γ : Type} [DecidableEq γ]

theorem Fits.lists_eq {shape : Shape γ} {table : Table γ} (h : Fits shape table) :
    table.lists = shape.lists := funext fun _ => decide_eq_decide.mpr h.mem_names

theorem collide_update {key : List γ} {c : γ} (hKey : c ∉ key) (a b : Row γ) (x y : Value) :
    Collide key (Function.update a c x) (Function.update b c y) ↔ Collide key a b := by
  have hOther : ∀ other ∈ key, other ≠ c := fun other hMem hEq => hKey (hEq ▸ hMem)
  constructor
  · intro h other hMem
    simpa [hOther other hMem] using h other hMem
  · intro h other hMem
    simpa [hOther other hMem] using h other hMem

theorem distinct_update {shape : Shape γ} {c : γ} (hKeys : ∀ key ∈ shape.keys, c ∉ key)
    {a b : Row γ} (x y : Value) (h : shape.Distinct a b) :
    shape.Distinct (Function.update a c x) (Function.update b c y) := fun key hMem hCollide =>
  h key hMem ((collide_update (hKeys key hMem) a b x y).mp hCollide)

theorem Fits.addColumn {shape : Shape γ} {table : Table γ} (h : Fits shape table)
    {column : Column γ} (hNew : column.name ∉ shape.names)
    (hKeys : ∀ key ∈ shape.keys, column.name ∉ key) (hDefault : column.Admits column.default) :
    Fits ⟨shape.columns ++ [column], shape.keys⟩ (table.addColumn column) where
  columns := h.columns.append_right [column]
  keys := h.keys
  admitted := by
    intro row hRow
    obtain ⟨old, hOld, rfl⟩ := List.mem_map.mp hRow
    intro stored hStored
    rcases List.mem_append.mp hStored with hListed | hAdded
    · have hOther : stored.name ≠ column.name := fun hEq =>
        hNew (h.mem_names.mp (hEq ▸ List.mem_map_of_mem hListed))
      rw [Function.update_of_ne hOther]
      exact h.admitted old hOld stored hListed
    · rw [List.mem_singleton.mp hAdded, Function.update_self]
      exact hDefault
  distinct := by
    refine List.pairwise_map.mpr (h.distinct.imp fun hDistinct => ?_)
    exact distinct_update (fun key hKey => hKeys key (h.keys ▸ hKey)) _ _ hDistinct

theorem Fits.dropColumn {shape : Shape γ} {table : Table γ} (h : Fits shape table) {c : γ}
    (hKeys : ∀ key ∈ shape.keys, c ∉ key) :
    Fits ⟨shape.columns.filter fun column => column.name ≠ c, shape.keys⟩
      (table.dropColumn c) where
  columns := h.columns.filter _
  keys := h.keys
  admitted := by
    intro row hRow
    obtain ⟨old, hOld, rfl⟩ := List.mem_map.mp hRow
    intro stored hStored
    obtain ⟨hListed, hName⟩ := List.mem_filter.mp hStored
    rw [Function.update_of_ne (of_decide_eq_true hName)]
    exact h.admitted old hOld stored hListed
  distinct := by
    refine List.pairwise_map.mpr (h.distinct.imp fun hDistinct => ?_)
    exact distinct_update (fun key hKey => hKeys key (h.keys ▸ hKey)) _ _ hDistinct

def setWhere (column : γ) (old new : Value) (row : Row γ) : Row γ :=
  if row column = old then Function.update row column new else row

theorem setWhere_eq_update (column : γ) (old new : Value) (row : Row γ) :
    ∃ x, setWhere column old new row = Function.update row column x := by
  unfold setWhere
  split
  · exact ⟨new, rfl⟩
  · exact ⟨row column, (Function.update_eq_self column row).symm⟩

theorem distinct_setWhere {shape : Shape γ} {column : γ}
    (hKeys : ∀ key ∈ shape.keys, column ∉ key) (old new : Value) {a b : Row γ}
    (h : shape.Distinct a b) :
    shape.Distinct (setWhere column old new a) (setWhere column old new b) := by
  obtain ⟨x, hA⟩ := setWhere_eq_update column old new a
  obtain ⟨y, hB⟩ := setWhere_eq_update column old new b
  rw [hA, hB]
  exact distinct_update hKeys x y h

theorem updateRows_eq_some {shape : Shape γ} {column : γ} {old new : Value}
    (hKeys : ∀ key ∈ shape.keys, column ∉ key) {done rest : List (Row γ)}
    (hAdmits : ∀ row ∈ rest, shape.Admits (setWhere column old new row))
    (hPairs : (done ++ rest).Pairwise shape.Distinct) :
    Table.updateRows shape column old new done rest =
      some (done ++ rest.map (setWhere column old new)) := by
  induction rest generalizing done with
  | nil => simp [Table.updateRows]
  | cons row rest ih =>
    have hRest : ∀ other ∈ rest, shape.Admits (setWhere column old new other) :=
      fun other hOther => hAdmits other (List.mem_cons_of_mem _ hOther)
    rw [Table.updateRows, List.map_cons]
    by_cases hOld : row column = old
    · have hSet : setWhere column old new row = Function.update row column new := if_pos hOld
      obtain ⟨hRow, hOthers⟩ := List.pairwise_cons.mp
        ((List.pairwise_middle fun h => h.symm).mp hPairs)
      have hFresh : ∀ stored ∈ done ++ rest,
          shape.Distinct stored (Function.update row column new) := by
        intro stored hStored
        have hPair := distinct_update hKeys (stored column) new (hRow stored hStored).symm
        rwa [Function.update_eq_self] at hPair
      have hAdmit := hAdmits row List.mem_cons_self
      rw [hSet] at hAdmit
      have hNext : ((done ++ [Function.update row column new]) ++ rest).Pairwise shape.Distinct := by
        rw [List.append_assoc]
        exact (List.pairwise_middle fun h => h.symm).mpr
          (List.pairwise_cons.mpr ⟨fun stored hStored => (hFresh stored hStored).symm, hOthers⟩)
      rw [if_neg (not_not.mpr hOld), if_pos ⟨hAdmit, hFresh⟩, ih hRest hNext, hSet]
      simp
    · have hSet : setWhere column old new row = row := if_neg hOld
      have hNext : ((done ++ [row]) ++ rest).Pairwise shape.Distinct := by simpa using hPairs
      rw [if_pos hOld, ih hRest hNext, hSet]
      simp

theorem rewriteRows_eq_some {shape : Shape γ} {column : γ} {f : Value → Option Value}
    {g : Row γ → Value} (hKeys : ∀ key ∈ shape.keys, column ∉ key) {done rest : List (Row γ)}
    (hValue : ∀ row ∈ rest, f (row column) = some (g row))
    (hAdmits : ∀ row ∈ rest, shape.Admits (Function.update row column (g row)))
    (hPairs : (done ++ rest).Pairwise shape.Distinct) :
    Table.rewriteRows shape column f done rest =
      some (done ++ rest.map fun row => Function.update row column (g row)) := by
  induction rest generalizing done with
  | nil => simp [Table.rewriteRows]
  | cons row rest ih =>
    obtain ⟨hRow, hOthers⟩ := List.pairwise_cons.mp
      ((List.pairwise_middle fun h => h.symm).mp hPairs)
    have hFresh : ∀ stored ∈ done ++ rest,
        shape.Distinct stored (Function.update row column (g row)) := by
      intro stored hStored
      have hPair := distinct_update hKeys (stored column) (g row) (hRow stored hStored).symm
      rwa [Function.update_eq_self] at hPair
    have hNext : ((done ++ [Function.update row column (g row)]) ++ rest).Pairwise
        shape.Distinct := by
      rw [List.append_assoc]
      exact (List.pairwise_middle fun h => h.symm).mpr
        (List.pairwise_cons.mpr ⟨fun stored hStored => (hFresh stored hStored).symm, hOthers⟩)
    rw [Table.rewriteRows, hValue row List.mem_cons_self]
    simp only
    rw [if_pos ⟨hAdmits row List.mem_cons_self, hFresh⟩,
      ih (fun other hOther => hValue other (List.mem_cons_of_mem _ hOther))
        (fun other hOther => hAdmits other (List.mem_cons_of_mem _ hOther)) hNext]
    simp

end

/-! ## Statements on tables that fit -/

variable {ν γ : Type} [DecidableEq ν]

theorem filter_retargeted {name old : ν} {indexes : List (Index ν γ)}
    (h : ∀ index ∈ indexes, index.table ≠ old) :
    (indexes.map fun index =>
        if index.table = name then { index with table := old } else index).filter
      (fun index => index.table ≠ old) = indexes.filter fun index => index.table ≠ name := by
  induction indexes with
  | nil => rfl
  | cons index rest ih =>
    have hRest := ih fun other hMem => h other (List.mem_cons_of_mem _ hMem)
    have hIndex : index.table ≠ old := h index List.mem_cons_self
    by_cases hName : index.table = name
    · rw [List.map_cons, if_pos hName, List.filter_cons_of_neg (by simp),
        List.filter_cons_of_neg (by simp [hName]), hRest]
    · rw [List.map_cons, if_neg hName, List.filter_cons_of_pos (by simp [hIndex]),
        List.filter_cons_of_pos (by simp [hName]), hRest]

variable [DecidableEq γ]

namespace Statement

theorem exec_addColumn {db : Db ν γ} {name : ν} {shape : Shape γ} {table : Table γ}
    (hTable : db.tables name = some table) (hFits : Fits shape table) {column : Column γ}
    (hNew : column.name ∉ shape.names) (hDefault : column.Admits column.default) :
    exec db (.addColumn name column) = .ok (db.put name (table.addColumn column)) := by
  have hAbsent : column.name ∉ table.names := fun h => hNew (hFits.mem_names.mp h)
  simp [exec, execAddColumn, hTable, hAbsent, hDefault]

theorem exec_dropColumn {db : Db ν γ} {name : ν} {shape : Shape γ} {table : Table γ}
    (hTable : db.tables name = some table) (hFits : Fits shape table) {c : γ}
    (hListed : c ∈ shape.names) (hKeys : ∀ key ∈ shape.keys, c ∉ key)
    (hIndexes : ∀ index ∈ db.indexes, index.table ≠ name)
    (hRest : (shape.columns.filter fun column => column.name ≠ c) ≠ []) :
    exec db (.dropColumn name c) = .ok (db.put name (table.dropColumn c)) := by
  rw [exec, execDropColumn, hTable]
  have hKept : (table.dropColumn c).columns.Perm
      (shape.columns.filter fun column => column.name ≠ c) := hFits.columns.filter _
  have hUsed : ¬ ((∃ key ∈ table.keys, c ∈ key) ∨
      (∃ i ∈ db.indexes, i.table = name ∧ i.column = c) ∨ (table.dropColumn c).columns = []) := by
    rintro (⟨key, hKey, hMem⟩ | ⟨index, hIndex, hOn, _⟩ | hNil)
    · exact hKeys key (hFits.keys ▸ hKey) hMem
    · exact hIndexes index hIndex hOn
    · rw [hNil] at hKept
      exact hRest hKept.nil_eq.symm
  simp only [hFits.mem_names.mpr hListed, not_true_eq_false, if_false, if_neg hUsed]

theorem exec_update {db : Db ν γ} {name : ν} {shape : Shape γ} {table : Table γ}
    (hTable : db.tables name = some table) (hFits : Fits shape table) {column : γ}
    {old new : Value} (hListed : column ∈ shape.names)
    (hKeys : ∀ key ∈ shape.keys, column ∉ key)
    (hNew : ∀ row, shape.Admits row → shape.Admits (setWhere column old new row)) :
    exec db (.update name column old new) =
      .ok (db.put name { table with rows := table.rows.map (setWhere column old new) }) := by
  have hRows : Table.updateRows table.toShape column old new [] table.rows =
      some (table.rows.map (setWhere column old new)) := by
    refine updateRows_eq_some (fun key hKey => hKeys key (hFits.keys ▸ hKey)) ?_ hFits.distinct
    intro row hRow
    exact hFits.admits_iff.mpr (hNew row (hFits.admits_iff.mp (hFits.admitted row hRow)))
  simp [exec, execUpdate, hTable, hFits.mem_names.mpr hListed, hRows]

theorem storeRows_empty_eq_ok_iff {db db' : Db ν γ} {name : ν} {shape : Shape γ}
    {rows : List (Row γ)} :
    storeRows db name ⟨shape, []⟩ shape.names rows = .ok db' ↔
      ((∀ row ∈ rows, shape.Admits (shape.complete shape.names row)) ∧
        (rows.map (shape.complete shape.names)).Pairwise shape.Distinct) ∧
        db' = db.put name ⟨shape, rows.map (shape.complete shape.names)⟩ := by
  have hNone : (shape.names.find? fun c => c ∉ shape.names) = none := by simp
  rw [storeRows, hNone]
  cases hStored : Table.insertRows ⟨shape, []⟩ (rows.map (shape.complete shape.names)) with
  | none =>
    refine ⟨fun h => (by cases h), fun h => ?_⟩
    have hSome : Table.insertRows ⟨shape, []⟩ (rows.map (shape.complete shape.names)) =
        some ⟨shape, rows.map (shape.complete shape.names)⟩ :=
      insertRows_eq_some_iff.mpr
        ⟨⟨List.forall_mem_map.mpr h.1.1, fun _ hOld => absurd hOld List.not_mem_nil, h.1.2⟩, rfl⟩
    rw [hStored] at hSome
    cases hSome
  | some stored =>
    obtain ⟨⟨hAdmits, _, hPairs⟩, rfl⟩ := insertRows_eq_some_iff.mp hStored
    constructor
    · intro h
      cases h
      exact ⟨⟨List.forall_mem_map.mp hAdmits, hPairs⟩, rfl⟩
    · rintro ⟨_, rfl⟩
      rfl

end Statement

/-! ## Rebuilding a table -/

/-- Rename the table away, create it under its new shape, copy every column of that
shape and drop the old table. -/
def rebuild (name old : ν) (shape : Shape γ) : List (Statement ν γ) :=
  [.renameTable name old, .createTable name shape, .insertSelect name shape.names old,
    .dropTable old false]

def Rebuildable (shape : Shape γ) (rows : List (Row γ)) : Prop :=
  (∀ row ∈ rows, shape.Admits (shape.complete shape.names row)) ∧
    (rows.map (shape.complete shape.names)).Pairwise shape.Distinct

def Db.rebuilt (db : Db ν γ) (name : ν) (shape : Shape γ) (rows : List (Row γ)) : Db ν γ where
  tables := Function.update db.tables name (some ⟨shape, rows.map (shape.complete shape.names)⟩)
  indexes := db.indexes.filter fun index => index.table ≠ name
  userVersion := db.userVersion

/-- Nothing but the table itself answers to its name or to the name it is moved to. -/
structure Movable (db : Db ν γ) (name old : ν) : Prop where
  ne : name ≠ old
  free : db.tables old = none
  indexNames : ∀ index ∈ db.indexes, index.name ≠ name ∧ index.name ≠ old
  indexTables : ∀ index ∈ db.indexes, index.table ≠ old

def Db.moved (db : Db ν γ) (name old : ν) (table copy : Table γ) : Db ν γ where
  tables := Function.update (Function.update (Function.update db.tables name none) old
    (some table)) name (some copy)
  indexes := db.indexes.map fun index =>
    if index.table = name then { index with table := old } else index
  userVersion := db.userVersion

namespace Movable

variable {db db' : Db ν γ} {name old : ν} {table : Table γ} {shape : Shape γ}

theorem exec_rename (h : Movable db name old) (hTable : db.tables name = some table) :
    Statement.exec db (.renameTable name old) =
      .ok ⟨Function.update (Function.update db.tables name none) old (some table),
        (db.moved name old table table).indexes, db.userVersion⟩ := by
  have hFree : ¬ db.Taken old := by
    rintro (hSome | ⟨index, hIndex, hName⟩)
    · simp [h.free] at hSome
    · exact (h.indexNames index hIndex).2 hName
  simp only [Statement.exec, Statement.execRenameTable, hTable, if_neg hFree, Db.moved]

theorem exec_create (h : Movable db name old) :
    Statement.exec ⟨Function.update (Function.update db.tables name none) old (some table),
        (db.moved name old table table).indexes, db.userVersion⟩ (.createTable name shape) =
      .ok (db.moved name old table ⟨shape, []⟩) := by
  rw [Statement.exec, if_neg]
  · rfl
  · rintro (hSome | ⟨index, hIndex, hName⟩)
    · simp [h.ne] at hSome
    · obtain ⟨stored, hStored, rfl⟩ := List.mem_map.mp hIndex
      refine (h.indexNames stored hStored).1 ?_
      split at hName <;> exact hName

theorem exec_copy_iff (h : Movable db name old) (hListed : ∀ c ∈ shape.names, c ∈ table.names) :
    Statement.exec (db.moved name old table ⟨shape, []⟩) (.insertSelect name shape.names old) =
        .ok db' ↔
      Rebuildable shape table.rows ∧
        db' = db.moved name old table ⟨shape, table.rows.map (shape.complete shape.names)⟩ := by
  have hName : (db.moved name old table ⟨shape, []⟩).tables name = some ⟨shape, []⟩ := by
    simp [Db.moved]
  have hOld : (db.moved name old table ⟨shape, []⟩).tables old = some table := by
    simp [Db.moved, h.ne.symm]
  have hNone : (shape.names.find? fun c => c ∉ table.names) = none := by simpa using hListed
  rw [Statement.exec, Statement.execInsertSelect, hName, hOld]
  simp only [hNone, Statement.storeRows_empty_eq_ok_iff]
  refine and_congr_right fun _ => ?_
  simp [Db.put, Db.moved]

theorem exec_drop (h : Movable db name old) (rows : List (Row γ)) :
    Statement.exec (db.moved name old table ⟨shape, rows.map (shape.complete shape.names)⟩)
      (.dropTable old false) = .ok (db.rebuilt name shape rows) := by
  have hOld : (db.moved name old table
      ⟨shape, rows.map (shape.complete shape.names)⟩).tables old = some table := by
    simp [Db.moved, h.ne.symm]
  rw [Statement.exec, Statement.execDropTable, hOld]
  simp only [Option.isSome_some, if_true, Db.moved, Db.rebuilt, Except.ok.injEq, Db.mk.injEq,
    and_true]
  constructor
  · funext other
    by_cases hOther : other = name
    · subst hOther
      simp [h.ne]
    · by_cases hMoved : other = old
      · subst hMoved
        simp [hOther, h.free]
      · simp [hOther, hMoved]
  · exact filter_retargeted h.indexTables

/-- A rebuild succeeds exactly if every row meets the constraints of the new shape. -/
theorem execAll_rebuild_iff (h : Movable db name old) (hTable : db.tables name = some table)
    (hListed : ∀ c ∈ shape.names, c ∈ table.names) :
    execAll Statement.exec db (rebuild name old shape) = .ok db' ↔
      Rebuildable shape table.rows ∧ db' = db.rebuilt name shape table.rows := by
  simp only [rebuild, execAll, h.exec_rename hTable, h.exec_create]
  constructor
  · intro hRun
    cases hCopy : Statement.exec (db.moved name old table ⟨shape, []⟩)
        (.insertSelect name shape.names old) with
    | error e => rw [hCopy] at hRun; cases hRun
    | ok copied =>
      rw [hCopy] at hRun
      obtain ⟨hRows, rfl⟩ := (h.exec_copy_iff hListed).mp hCopy
      simp only [h.exec_drop, Except.ok.injEq] at hRun
      exact ⟨hRows, hRun.symm⟩
  · rintro ⟨hRows, rfl⟩
    rw [(h.exec_copy_iff hListed).mpr ⟨hRows, rfl⟩]
    simp only [h.exec_drop]

theorem performAll_rebuild_iff (h : Movable db name old) (hTable : db.tables name = some table)
    (hListed : ∀ c ∈ shape.names, c ∈ table.names) {c : Connection (Db ν γ)} :
    (fresh db).performAll Statement.exec Statement.opens
        (executescript (rebuild name old shape)) = .ok c ↔
      Rebuildable shape table.rows ∧ c = fresh (db.rebuilt name shape table.rows) := by
  rw [performAll_executescript]
  constructor
  · intro hRun
    cases hExec : execAll Statement.exec db (rebuild name old shape) with
    | error e => rw [hExec] at hRun; cases hRun
    | ok next =>
      rw [hExec] at hRun
      cases hRun
      obtain ⟨hRows, rfl⟩ := (h.execAll_rebuild_iff hTable hListed).mp hExec
      exact ⟨hRows, rfl⟩
  · rintro ⟨hRows, rfl⟩
    rw [(h.execAll_rebuild_iff hTable hListed).mpr ⟨hRows, rfl⟩]

end Movable

theorem complete_complete (shape : Shape γ) (row : Row γ) :
    shape.complete shape.names (shape.complete shape.names row) =
      shape.complete shape.names row := by
  funext c
  by_cases hMem : c ∈ shape.names
  · simp [Shape.complete, hMem]
  · simp [Shape.complete, hMem]

theorem map_complete_complete (shape : Shape γ) (rows : List (Row γ)) :
    (rows.map (shape.complete shape.names)).map (shape.complete shape.names) =
      rows.map (shape.complete shape.names) := by
  rw [List.map_map]
  exact List.map_congr_left fun row _ => complete_complete shape row

theorem Rebuildable.again {shape : Shape γ} {rows : List (Row γ)} (h : Rebuildable shape rows) :
    Rebuildable shape (rows.map (shape.complete shape.names)) := by
  refine ⟨List.forall_mem_map.mpr fun row hRow => ?_, ?_⟩
  · rw [complete_complete]
    exact h.1 row hRow
  · rw [map_complete_complete]
    exact h.2

theorem Db.rebuilt_rebuilt (db : Db ν γ) (name : ν) (shape : Shape γ) (rows : List (Row γ)) :
    (db.rebuilt name shape rows).rebuilt name shape (rows.map (shape.complete shape.names)) =
      db.rebuilt name shape rows := by
  rw [Db.rebuilt, map_complete_complete]
  simp [Db.rebuilt]

theorem Rebuildable.fits {shape : Shape γ} {rows : List (Row γ)} (h : Rebuildable shape rows) :
    Fits shape ⟨shape, rows.map (shape.complete shape.names)⟩ :=
  ⟨.refl _, rfl, List.forall_mem_map.mpr h.1, h.2⟩

theorem performAll_rebuild_again {db : Db ν γ} {name old : ν} {shape : Shape γ}
    {rows : List (Row γ)} (h : Movable (db.rebuilt name shape rows) name old)
    (hRows : Rebuildable shape rows) :
    (fresh (db.rebuilt name shape rows)).performAll Statement.exec Statement.opens
      (executescript (rebuild name old shape)) = .ok (fresh (db.rebuilt name shape rows)) := by
  have hTable : (db.rebuilt name shape rows).tables name =
      some ⟨shape, rows.map (shape.complete shape.names)⟩ := Function.update_self _ _ _
  refine (h.performAll_rebuild_iff hTable fun _ hC => hC).mpr ⟨hRows.again, ?_⟩
  rw [Db.rebuilt_rebuilt]

theorem complete_name (shape : Shape γ) (row : Row γ) {column : Column γ}
    (hColumn : column ∈ shape.columns) :
    shape.complete shape.names row column.name = row column.name :=
  if_pos (List.mem_map.mpr ⟨column, hColumn, rfl⟩)

theorem Rebuildable.admits {shape : Shape γ} {rows : List (Row γ)} (h : Rebuildable shape rows)
    {row : Row γ} (hRow : row ∈ rows) {column : Column γ} (hColumn : column ∈ shape.columns) :
    column.Admits (row column.name) := by
  have hAdmits := h.1 row hRow column hColumn
  rwa [complete_name shape row hColumn] at hAdmits

theorem Rebuildable.of_fits {shape source : Shape γ} {table : Table γ} (hFits : Fits source table)
    (hColumns : ∀ row ∈ table.rows, shape.Admits row)
    (hKeys : ∀ key ∈ shape.keys, key ⊆ shape.names ∧ ∃ narrower ∈ source.keys, narrower ⊆ key) :
    Rebuildable shape table.rows := by
  constructor
  · intro row hRow column hColumn
    rw [complete_name shape row hColumn]
    exact hColumns row hRow column hColumn
  · refine List.pairwise_map.mpr (hFits.distinct.imp fun hDistinct => ?_)
    intro key hKey hCollide
    obtain ⟨hListed, narrower, hNarrower, hSub⟩ := hKeys key hKey
    refine hDistinct narrower (hFits.keys ▸ hNarrower) fun c hC => ?_
    have hPair := hCollide c (hSub hC)
    simpa only [Shape.complete, if_pos (hListed (hSub hC))] using hPair

end EidolonAdmin.Foundation.Sql

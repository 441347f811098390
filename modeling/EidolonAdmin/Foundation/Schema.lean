import EidolonAdmin.Foundation.Fits

/-! # Databases that match a schema

A schema declares a shape for each of its tables. Each rule below takes a database
that matches a schema through one statement: it succeeds, the result matches the
schema that the statement makes of it, and every other table is what it was.
-/

namespace EidolonAdmin.Foundation.Sql

variable {ν γ : Type}

/-- Every table fits its declared shape, and every index is one of those that the
schema may carry and is on a table that exists. -/
structure Matches (schema : ν → Option (Shape γ)) (allowed : List (Index ν γ)) (db : Db ν γ) :
    Prop where
  tables : ∀ name, Option.Rel Fits (schema name) (db.tables name)
  indexes : ∀ index ∈ db.indexes, index ∈ allowed ∧ (db.tables index.table).isSome = true

structure DifferAt (name : ν) (db db' : Db ν γ) : Prop where
  tables : ∀ other, other ≠ name → db'.tables other = db.tables other
  userVersion : db'.userVersion = db.userVersion

namespace Matches

variable {schema : ν → Option (Shape γ)} {allowed : List (Index ν γ)} {db : Db ν γ} {name : ν}
  {shape : Shape γ}

theorem exists_table (h : Matches schema allowed db) (hShape : schema name = some shape) :
    ∃ table, db.tables name = some table ∧ Fits shape table := by
  have hRel := h.tables name
  rw [hShape] at hRel
  cases hTable : db.tables name with
  | none => rw [hTable] at hRel; cases hRel
  | some table =>
    rw [hTable] at hRel
    cases hRel with
    | some hFits => exact ⟨table, rfl, hFits⟩

theorem table_eq_none (h : Matches schema allowed db) (hShape : schema name = none) :
    db.tables name = none := by
  have hRel := h.tables name
  rw [hShape] at hRel
  cases hTable : db.tables name with
  | none => rfl
  | some table => rw [hTable] at hRel; cases hRel

theorem of_eq {schema' : ν → Option (Shape γ)} (h : Matches schema allowed db)
    (hSchema : ∀ name, schema' name = schema name) : Matches schema' allowed db :=
  ⟨fun name => hSchema name ▸ h.tables name, h.indexes⟩

theorem layout_eq [DecidableEq γ] (h : Matches schema allowed db) :
    db.layout = ⟨fun name => (schema name).map Shape.lists, db.userVersion⟩ := by
  refine Layout.ext (funext fun name => ?_) rfl
  cases hShape : schema name with
  | none => simp [Db.layout, h.table_eq_none hShape, hShape]
  | some shape =>
    obtain ⟨table, hTable, hFits⟩ := h.exists_table hShape
    simp [Db.layout, hTable, hShape, hFits.lists_eq]

variable [DecidableEq ν]

theorem put (h : Matches schema allowed db) (name : ν) {table : Table γ} (hFits : Fits shape table) :
    Matches (Function.update schema name (some shape)) allowed (db.put name table) where
  tables := by
    intro other
    by_cases hName : other = name
    · subst hName
      simpa [Db.put] using Option.Rel.some hFits
    · simpa [Db.put, hName] using h.tables other
  indexes := by
    intro index hIndex
    obtain ⟨hAllowed, hSome⟩ := h.indexes index hIndex
    refine ⟨hAllowed, ?_⟩
    by_cases hName : index.table = name
    · simp [Db.put, hName]
    · simpa [Db.put, hName] using hSome

theorem differAt_put (db : Db ν γ) (name : ν) (table : Table γ) :
    DifferAt name db (db.put name table) :=
  ⟨fun _ hName => Function.update_of_ne hName _ _, rfl⟩

theorem removed (h : Matches schema allowed db) :
    Matches (Function.update schema name none) allowed
      ⟨Function.update db.tables name none, db.indexes.filter fun index => index.table ≠ name,
        db.userVersion⟩ where
  tables := by
    intro other
    by_cases hName : other = name
    · subst hName
      simp
    · simpa [hName] using h.tables other
  indexes := by
    intro index hIndex
    obtain ⟨hMem, hName⟩ := List.mem_filter.mp hIndex
    obtain ⟨hAllowed, hSome⟩ := h.indexes index hMem
    have hOther : index.table ≠ name := of_decide_eq_true hName
    exact ⟨hAllowed, by simpa [hOther] using hSome⟩

variable [DecidableEq γ]

theorem exec_createTable (h : Matches schema allowed db) (hFree : schema name = none)
    (hIndexes : ∀ index ∈ allowed, index.name ≠ name) :
    Statement.exec db (.createTable name shape) = .ok (db.put name ⟨shape, []⟩) := by
  have hNotTaken : ¬ db.Taken name := by
    rintro (hSome | ⟨index, hIndex, hName⟩)
    · simp [h.table_eq_none hFree] at hSome
    · exact hIndexes index (h.indexes index hIndex).1 hName
  rw [Statement.exec, if_neg hNotTaken]

theorem exec_addColumn (h : Matches schema allowed db) (hShape : schema name = some shape)
    (column : Column γ) (hNew : column.name ∉ shape.names)
    (hKeys : ∀ key ∈ shape.keys, column.name ∉ key) (hDefault : column.Admits column.default) :
    ∃ db', Statement.exec db (.addColumn name column) = .ok db' ∧
      Matches (Function.update schema name (some ⟨shape.columns ++ [column], shape.keys⟩))
        allowed db' ∧ DifferAt name db db' := by
  obtain ⟨table, hTable, hFits⟩ := h.exists_table hShape
  exact ⟨_, Statement.exec_addColumn hTable hFits hNew hDefault,
    h.put name (hFits.addColumn hNew hKeys hDefault), differAt_put _ _ _⟩

theorem exec_dropColumn (h : Matches schema allowed db) (hShape : schema name = some shape)
    (c : γ) (hListed : c ∈ shape.names) (hKeys : ∀ key ∈ shape.keys, c ∉ key)
    (hIndexes : ∀ index ∈ allowed, index.table ≠ name)
    (hRest : (shape.columns.filter fun column => column.name ≠ c) ≠ []) :
    ∃ db', Statement.exec db (.dropColumn name c) = .ok db' ∧
      Matches (Function.update schema name
          (some ⟨shape.columns.filter fun column => column.name ≠ c, shape.keys⟩))
        allowed db' ∧ DifferAt name db db' := by
  obtain ⟨table, hTable, hFits⟩ := h.exists_table hShape
  have hOn : ∀ index ∈ db.indexes, index.table ≠ name :=
    fun index hIndex => hIndexes index (h.indexes index hIndex).1
  exact ⟨_, Statement.exec_dropColumn hTable hFits hListed hKeys hOn hRest,
    h.put name (hFits.dropColumn hKeys), differAt_put _ _ _⟩

theorem exec_dropTableIfExists (h : Matches schema allowed db) :
    ∃ db', Statement.exec db (.dropTable name true) = .ok db' ∧
      Matches (Function.update schema name none) allowed db' ∧ DifferAt name db db' := by
  cases hShape : schema name with
  | none =>
    refine ⟨db, by simp [Statement.exec, Statement.execDropTable, h.table_eq_none hShape],
      h.of_eq fun other => ?_, fun _ _ => rfl, rfl⟩
    rw [← hShape, Function.update_eq_self]
  | some shape =>
    obtain ⟨table, hTable, _⟩ := h.exists_table hShape
    exact ⟨_, by simp only [Statement.exec, Statement.execDropTable, hTable,
      Option.isSome_some, if_true], h.removed,
      fun _ hName => Function.update_of_ne hName _ _, rfl⟩

theorem rebuilt (h : Matches schema allowed db) {rows : List (Row γ)}
    (hRows : Rebuildable shape rows) :
    Matches (Function.update schema name (some shape)) allowed (db.rebuilt name shape rows) := by
  have hPut : Matches (Function.update schema name (some shape)) allowed
      (db.put name ⟨shape, rows.map (shape.complete shape.names)⟩) := h.put name hRows.fits
  exact ⟨hPut.tables, fun index hIndex => hPut.indexes index (List.mem_of_mem_filter hIndex)⟩

end Matches

end EidolonAdmin.Foundation.Sql

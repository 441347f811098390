import EidolonAdmin.Foundation.Sql

/-! # The layout of a database

The layout of a database says which tables it has and which columns they list. A
statement that succeeds succeeds on the layout, so a statement that the layout
refuses fails whatever the rows are.
-/

namespace EidolonAdmin.Foundation.Sql

variable {ν γ : Type}

theorem insertRow_shape {table stored : Table γ} {row : Row γ}
    (h : table.insertRow row = some stored) : stored.toShape = table.toShape := by
  unfold Table.insertRow at h
  split at h
  · cases h
    rfl
  · cases h

theorem insertRows_shape {table stored : Table γ} {rows : List (Row γ)}
    (h : table.insertRows rows = some stored) : stored.toShape = table.toShape := by
  induction rows generalizing table with
  | nil => cases h; rfl
  | cons row rest ih =>
    rw [Table.insertRows] at h
    cases hRow : table.insertRow row with
    | none => rw [hRow] at h; cases h
    | some next =>
      rw [hRow] at h
      rw [ih h, insertRow_shape hRow]

/-! ## Layouts -/

@[ext] structure Layout (ν γ : Type) where
  tables : ν → Option (γ → Bool)
  userVersion : Nat

section

variable [DecidableEq ν]

def Layout.put (layout : Layout ν γ) (name : ν) (columns : Option (γ → Bool)) : Layout ν γ :=
  { layout with tables := Function.update layout.tables name columns }

theorem Layout.put_self {layout : Layout ν γ} {name : ν} {columns : Option (γ → Bool)}
    (h : layout.tables name = columns) : layout.put name columns = layout :=
  Layout.ext (by rw [Layout.put, ← h, Function.update_eq_self]) rfl

end

variable [DecidableEq γ]

def Shape.lists (shape : Shape γ) : γ → Bool := fun c => decide (c ∈ shape.names)

def Db.layout (db : Db ν γ) : Layout ν γ :=
  ⟨fun name => (db.tables name).map fun table => table.lists, db.userVersion⟩

theorem layout_tables {db : Db ν γ} {name : ν} {table : Table γ}
    (h : db.tables name = some table) : db.layout.tables name = some table.lists := by
  simp [Db.layout, h]

theorem layout_isSome (db : Db ν γ) (name : ν) :
    (db.layout.tables name).isSome = (db.tables name).isSome := Option.isSome_map

variable [DecidableEq ν]

namespace Layout

/-- The effect of a statement on the layout, where rows, constraints and indexes
are not looked at. -/
def reshape (layout : Layout ν γ) : Statement ν γ → Except (Error ν γ) (Layout ν γ)
  | .createTable name shape =>
    if (layout.tables name).isSome then .error (.alreadyExists name)
    else .ok (layout.put name (some shape.lists))
  | .createIndex _ => .ok layout
  | .dropTable name ifExists =>
    if (layout.tables name).isSome || ifExists then .ok (layout.put name none)
    else .error (.noSuchTable name)
  | .renameTable name target =>
    match layout.tables name with
    | none => .error (.noSuchTable name)
    | some columns =>
      if (layout.tables target).isSome then .error (.alreadyExists target)
      else .ok ((layout.put name none).put target (some columns))
  | .addColumn name column =>
    match layout.tables name with
    | none => .error (.noSuchTable name)
    | some columns =>
      if columns column.name then .error (.duplicateColumn column.name)
      else .ok (layout.put name (some (Function.update columns column.name true)))
  | .dropColumn name c =>
    match layout.tables name with
    | none => .error (.noSuchTable name)
    | some columns =>
      if columns c then .ok (layout.put name (some (Function.update columns c false)))
      else .error (.noSuchColumn c)
  | .insert name _ | .insertSelect name _ _ | .update name _ _ _ =>
    if (layout.tables name).isSome then .ok layout else .error (.noSuchTable name)
  | .setUserVersion version => .ok { layout with userVersion := version }

end Layout

theorem layout_update (db : Db ν γ) (name : ν) (table : Option (Table γ))
    (indexes : List (Index ν γ)) :
    Db.layout ⟨Function.update db.tables name table, indexes, db.userVersion⟩ =
      db.layout.put name (table.map fun t => t.lists) := by
  refine Layout.ext (funext fun other => ?_) rfl
  by_cases hName : other = name
  · subst hName
    simp [Db.layout, Layout.put]
  · simp [Db.layout, Layout.put, hName]

theorem layout_put (db : Db ν γ) (name : ν) (table : Table γ) :
    (db.put name table).layout = db.layout.put name (some table.lists) :=
  layout_update db name (some table) db.indexes

theorem layout_put_self {db : Db ν γ} {name : ν} {table stored : Table γ}
    (hTable : db.tables name = some table) (hShape : stored.toShape = table.toShape) :
    (db.put name stored).layout = db.layout := by
  rw [layout_put, hShape]
  exact Layout.put_self (by simp [Db.layout, hTable])

theorem mem_names_addColumn {table : Table γ} {column : Column γ} {c : γ} :
    c ∈ (table.addColumn column).names ↔ c ∈ table.names ∨ c = column.name := by
  simp [Shape.names, Table.addColumn]

theorem mem_names_dropColumn {table : Table γ} {c other : γ} :
    other ∈ (table.dropColumn c).names ↔ other ∈ table.names ∧ other ≠ c := by
  simp only [Shape.names, Table.dropColumn, List.mem_map, List.mem_filter, decide_eq_true_eq]
  constructor
  · rintro ⟨column, ⟨hMem, hName⟩, rfl⟩
    exact ⟨⟨column, hMem, rfl⟩, hName⟩
  · rintro ⟨⟨column, hMem, rfl⟩, hName⟩
    exact ⟨column, ⟨hMem, hName⟩, rfl⟩

theorem lists_addColumn (table : Table γ) (column : Column γ) :
    (table.addColumn column).lists = Function.update table.lists column.name true := by
  funext c
  by_cases hName : c = column.name
  · rw [hName, Function.update_self]
    exact decide_eq_true (mem_names_addColumn.mpr (.inr rfl))
  · rw [Function.update_of_ne hName]
    exact decide_eq_decide.mpr (by simp [mem_names_addColumn, hName])

theorem lists_dropColumn (table : Table γ) (c : γ) :
    (table.dropColumn c).lists = Function.update table.lists c false := by
  funext other
  by_cases hName : other = c
  · rw [hName, Function.update_self]
    exact decide_eq_false fun hMem => (mem_names_dropColumn.mp hMem).2 rfl
  · rw [Function.update_of_ne hName]
    exact decide_eq_decide.mpr (by simp [mem_names_dropColumn, hName])

namespace Statement

theorem storeRows_layout {db db' : Db ν γ} {name : ν} {table : Table γ} {columns : List γ}
    {rows : List (Row γ)} (hTable : db.tables name = some table)
    (h : storeRows db name table columns rows = .ok db') : db'.layout = db.layout := by
  unfold storeRows at h
  split at h
  · cases h
  · split at h
    · cases h
    · rename_i stored hStored
      cases h
      exact layout_put_self hTable (insertRows_shape hStored)

theorem execDropTable_layout {db db' : Db ν γ} {name : ν} {ifExists : Bool}
    (h : execDropTable db name ifExists = .ok db') :
    db.layout.reshape (.dropTable name ifExists) = .ok db'.layout := by
  unfold execDropTable at h
  simp only [Layout.reshape, layout_isSome]
  by_cases hTable : (db.tables name).isSome = true
  · rw [if_pos hTable] at h
    cases h
    rw [layout_update]
    simp [hTable]
  · rw [if_neg hTable] at h
    cases hIf : ifExists with
    | false => simp [hIf] at h
    | true =>
      simp only [hIf, if_true, Except.ok.injEq] at h
      subst h
      have hAbsent : db.layout.tables name = none := by simpa [Db.layout] using hTable
      simp [Layout.put_self hAbsent]

theorem execRenameTable_layout {db db' : Db ν γ} {name target : ν}
    (h : execRenameTable db name target = .ok db') :
    db.layout.reshape (.renameTable name target) = .ok db'.layout := by
  unfold execRenameTable at h
  cases hTable : db.tables name with
  | none => simp [hTable] at h
  | some table =>
    simp only [hTable] at h
    split at h
    · cases h
    · rename_i hFree
      cases h
      have hLayout := layout_tables hTable
      have hTarget : ¬ (db.layout.tables target).isSome = true := by
        rw [layout_isSome]
        exact fun hTaken => hFree (.inl hTaken)
      simp only [Layout.reshape, hLayout, if_neg hTarget]
      have hRemoved : db.layout.put name none =
          Db.layout ⟨Function.update db.tables name none, db.indexes, db.userVersion⟩ :=
        (layout_update db name none db.indexes).symm
      rw [hRemoved]
      exact congrArg Except.ok (layout_update _ target (some table) _).symm

theorem execAddColumn_layout {db db' : Db ν γ} {name : ν} {column : Column γ}
    (h : execAddColumn db name column = .ok db') :
    db.layout.reshape (.addColumn name column) = .ok db'.layout := by
  unfold execAddColumn at h
  cases hTable : db.tables name with
  | none => simp [hTable] at h
  | some table =>
    simp only [hTable] at h
    split at h
    · cases h
    · rename_i hNew
      split at h
      · cases h
      · cases h
        have hLayout := layout_tables hTable
        simp only [Layout.reshape, hLayout]
        rw [if_neg (by simpa [Shape.lists] using hNew), layout_put, lists_addColumn]

theorem execDropColumn_layout {db db' : Db ν γ} {name : ν} {c : γ}
    (h : execDropColumn db name c = .ok db') :
    db.layout.reshape (.dropColumn name c) = .ok db'.layout := by
  unfold execDropColumn at h
  cases hTable : db.tables name with
  | none => simp [hTable] at h
  | some table =>
    simp only [hTable] at h
    split at h
    · cases h
    · rename_i hListed
      split at h
      · cases h
      · cases h
        have hLayout := layout_tables hTable
        simp only [Layout.reshape, hLayout]
        rw [if_pos (by simpa [Shape.lists] using hListed), layout_put, lists_dropColumn]

theorem execInsert_layout {db db' : Db ν γ} {name : ν} {values : List (γ × Value)}
    (h : execInsert db name values = .ok db') :
    db.layout.reshape (.insert name values) = .ok db'.layout := by
  unfold execInsert at h
  cases hTable : db.tables name with
  | none => simp [hTable] at h
  | some table =>
    simp only [hTable] at h
    simp [Layout.reshape, layout_isSome, hTable, storeRows_layout hTable h]

theorem execInsertSelect_layout {db db' : Db ν γ} {name source : ν} {columns : List γ}
    (h : execInsertSelect db name columns source = .ok db') :
    db.layout.reshape (.insertSelect name columns source) = .ok db'.layout := by
  unfold execInsertSelect at h
  cases hTable : db.tables name with
  | none => simp [hTable] at h
  | some table =>
    cases hSource : db.tables source with
    | none => simp [hTable, hSource] at h
    | some from_ =>
      simp only [hTable, hSource] at h
      split at h
      · cases h
      · simp [Layout.reshape, layout_isSome, hTable, storeRows_layout hTable h]

theorem execUpdate_layout {db db' : Db ν γ} {name : ν} {column : γ} {old new : Value}
    (h : execUpdate db name column old new = .ok db') :
    db.layout.reshape (.update name column old new) = .ok db'.layout := by
  unfold execUpdate at h
  cases hTable : db.tables name with
  | none => simp [hTable] at h
  | some table =>
    simp only [hTable] at h
    split at h
    · cases h
    · split at h
      · cases h
      · cases h
        simp [Layout.reshape, layout_isSome, hTable, layout_put_self hTable]

theorem exec_layout (db : Db ν γ) (statement : Statement ν γ) (db' : Db ν γ)
    (h : exec db statement = .ok db') : db.layout.reshape statement = .ok db'.layout := by
  cases statement with
  | createTable name shape =>
    rw [exec] at h
    split at h
    · cases h
    · rename_i hFree
      cases h
      have hAbsent : ¬ (db.layout.tables name).isSome = true := by
        rw [layout_isSome]
        exact fun hTaken => hFree (.inl hTaken)
      rw [Layout.reshape, if_neg hAbsent, layout_put]
  | createIndex index =>
    rw [exec, execCreateIndex] at h
    split at h
    · cases h
    · split at h
      · cases h
      · split at h
        · cases h
        · cases h
          rfl
  | dropTable name ifExists => exact execDropTable_layout h
  | renameTable name target => exact execRenameTable_layout h
  | addColumn name column => exact execAddColumn_layout h
  | dropColumn name c => exact execDropColumn_layout h
  | insert name values => exact execInsert_layout h
  | insertSelect name columns source => exact execInsertSelect_layout h
  | update name column old new => exact execUpdate_layout h
  | setUserVersion version =>
    cases h
    rfl

end Statement

end EidolonAdmin.Foundation.Sql

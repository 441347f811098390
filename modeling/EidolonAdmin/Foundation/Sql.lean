import Mathlib.Data.List.Perm.Basic
import Mathlib.Logic.Function.Basic

/-! # Tables, constraints and the statements that change them

A database maps names to tables and records its indexes and its user version.
Rows assign values to column names, so no statement depends on the order in which
a table lists its columns. A statement that fails leaves no trace.
-/

namespace EidolonAdmin.Foundation.Sql

inductive Value where
  | null
  | integer (n : Int)
  | text (s : String)
deriving DecidableEq, Repr

inductive ColumnType where
  | integer
  | text
deriving DecidableEq, Repr

inductive Check where
  | equals (n : Int)
  | atLeast (n : Int)
deriving DecidableEq, Repr

/-- A check of NULL passes, and every text sorts after every integer. -/
def Check.passes : Check → Value → Bool
  | _, .null => true
  | .equals n, .integer m => m == n
  | .equals _, .text _ => false
  | .atLeast n, .integer m => decide (n ≤ m)
  | .atLeast _, .text _ => true

structure Column (γ : Type) where
  name : γ
  type : ColumnType
  notNull : Bool
  default : Value
  check : Option Check
deriving DecidableEq, Repr

def Column.plain {γ : Type} (name : γ) (type : ColumnType) : Column γ :=
  ⟨name, type, false, .null, none⟩

def Column.required {γ : Type} (column : Column γ) : Column γ := { column with notNull := true }

def Column.checked {γ : Type} (column : Column γ) (check : Check) : Column γ :=
  { column with check := some check }

def Column.defaulted {γ : Type} (column : Column γ) (value : Value) : Column γ :=
  { column with default := value }

def Column.Admits {γ : Type} (column : Column γ) (value : Value) : Prop :=
  (column.notNull = true → value ≠ .null) ∧ ∀ check ∈ column.check, check.passes value = true

instance {γ : Type} (column : Column γ) (value : Value) : Decidable (column.Admits value) :=
  inferInstanceAs (Decidable (_ ∧ _))

theorem Column.plain_admits {γ : Type} (name : γ) (type : ColumnType) (value : Value) :
    (Column.plain name type).Admits value :=
  ⟨fun h => absurd h Bool.false_ne_true, fun _ h => absurd h (Option.not_mem_none _)⟩

abbrev Row (γ : Type) := γ → Value

/-- Two rows violate a key when they agree on its columns and none of them is NULL. -/
def Collide {γ : Type} (key : List γ) (a b : Row γ) : Prop := ∀ c ∈ key, a c = b c ∧ a c ≠ .null

instance {γ : Type} (key : List γ) (a b : Row γ) : Decidable (Collide key a b) :=
  inferInstanceAs (Decidable (∀ c ∈ key, _))

structure Shape (γ : Type) where
  columns : List (Column γ)
  keys : List (List γ)
deriving DecidableEq, Repr

variable {ν γ : Type} [DecidableEq ν] [DecidableEq γ]

namespace Shape

def names (shape : Shape γ) : List γ := shape.columns.map Column.name

def Admits (shape : Shape γ) (row : Row γ) : Prop :=
  ∀ column ∈ shape.columns, column.Admits (row column.name)

instance (shape : Shape γ) (row : Row γ) : Decidable (shape.Admits row) :=
  inferInstanceAs (Decidable (∀ column ∈ shape.columns, _))

def Distinct (shape : Shape γ) (a b : Row γ) : Prop := ∀ key ∈ shape.keys, ¬ Collide key a b

instance (shape : Shape γ) (a b : Row γ) : Decidable (shape.Distinct a b) :=
  inferInstanceAs (Decidable (∀ key ∈ shape.keys, _))

def defaultOf (shape : Shape γ) (c : γ) : Value :=
  ((shape.columns.find? fun column => column.name = c).map Column.default).getD .null

def complete (shape : Shape γ) (columns : List γ) (row : Row γ) : Row γ := fun c =>
  if c ∈ columns then row c else shape.defaultOf c

/-- A row of the source under the columns of the target, by their positions. -/
def transfer (target source : Shape γ) (row : Row γ) : Row γ := fun c =>
  (((target.names.zip source.names).find? fun pair => pair.1 = c).map
    fun pair => row pair.2).getD .null

end Shape

structure Table (γ : Type) extends Shape γ where
  rows : List (Row γ)

namespace Table

def insertRow (table : Table γ) (row : Row γ) : Option (Table γ) :=
  if table.Admits row ∧ ∀ stored ∈ table.rows, table.Distinct stored row then
    some { table with rows := table.rows ++ [row] }
  else none

def insertRows (table : Table γ) : List (Row γ) → Option (Table γ)
  | [] => some table
  | row :: rest =>
    match table.insertRow row with
    | none => none
    | some next => next.insertRows rest

/-- `UPDATE ... SET column = new WHERE column = old`, one row after another, each
checked against the rows as they stand by then. -/
def updateRows (shape : Shape γ) (column : γ) (old new : Value) :
    List (Row γ) → List (Row γ) → Option (List (Row γ))
  | done, [] => some done
  | done, row :: rest =>
    if row column ≠ old then updateRows shape column old new (done ++ [row]) rest
    else if shape.Admits (Function.update row column new) ∧
        ∀ stored ∈ done ++ rest, shape.Distinct stored (Function.update row column new) then
      updateRows shape column old new (done ++ [Function.update row column new]) rest
    else none

/-- `UPDATE ... SET column = f(column)` on every row, likewise. -/
def rewriteRows (shape : Shape γ) (column : γ) (f : Value → Option Value) :
    List (Row γ) → List (Row γ) → Option (List (Row γ))
  | done, [] => some done
  | done, row :: rest =>
    match f (row column) with
    | none => none
    | some value =>
      if shape.Admits (Function.update row column value) ∧
          ∀ stored ∈ done ++ rest, shape.Distinct stored (Function.update row column value) then
        rewriteRows shape column f (done ++ [Function.update row column value]) rest
      else none

def addColumn (table : Table γ) (column : Column γ) : Table γ :=
  { columns := table.columns ++ [column]
    keys := table.keys
    rows := table.rows.map fun row => Function.update row column.name column.default }

def dropColumn (table : Table γ) (c : γ) : Table γ :=
  { columns := table.columns.filter fun column => column.name ≠ c
    keys := table.keys
    rows := table.rows.map fun row => Function.update row c .null }

end Table

structure Index (ν γ : Type) where
  name : ν
  table : ν
  column : γ
deriving DecidableEq, Repr

structure Db (ν γ : Type) where
  tables : ν → Option (Table γ)
  indexes : List (Index ν γ)
  userVersion : Nat

def Db.empty : Db ν γ := ⟨fun _ => none, [], 0⟩

def Db.put (db : Db ν γ) (name : ν) (table : Table γ) : Db ν γ :=
  { db with tables := Function.update db.tables name (some table) }

/-- Tables and indexes share one name space. -/
def Db.Taken (db : Db ν γ) (name : ν) : Prop :=
  (db.tables name).isSome = true ∨ ∃ index ∈ db.indexes, index.name = name

instance (db : Db ν γ) (name : ν) : Decidable (db.Taken name) :=
  inferInstanceAs (Decidable (_ ∨ _))

inductive Error (ν γ : Type) where
  | alreadyExists (name : ν)
  | noSuchTable (name : ν)
  | duplicateColumn (column : γ)
  | noSuchColumn (column : γ)
  | cannotAddColumn (column : γ)
  | cannotDropColumn (column : γ)
  | constraintFailed (table : ν)
deriving DecidableEq, Repr

inductive Statement (ν γ : Type) where
  | createTable (name : ν) (shape : Shape γ)
  | createIndex (index : Index ν γ)
  | dropTable (name : ν) (ifExists : Bool)
  | renameTable (name target : ν)
  | addColumn (name : ν) (column : Column γ)
  | dropColumn (name : ν) (column : γ)
  | insert (name : ν) (values : List (γ × Value))
  | insertSelect (name : ν) (columns : List γ) (source : ν)
  | update (name : ν) (column : γ) (old new : Value)
  | setUserVersion (version : Nat)

namespace Statement

/-- INSERT and UPDATE are what the driver opens a transaction for. -/
def opens : Statement ν γ → Bool
  | .insert .. | .insertSelect .. | .update .. => true
  | _ => false

def valueRow (values : List (γ × Value)) : Row γ := fun c =>
  ((values.find? fun item => item.1 = c).map Prod.snd).getD .null

def execCreateIndex (db : Db ν γ) (index : Index ν γ) : Except (Error ν γ) (Db ν γ) :=
  match db.tables index.table with
  | none => .error (.noSuchTable index.table)
  | some table =>
    if db.Taken index.name then .error (.alreadyExists index.name)
    else if index.column ∉ table.names then .error (.noSuchColumn index.column)
    else .ok { db with indexes := db.indexes ++ [index] }

def execDropTable (db : Db ν γ) (name : ν) (ifExists : Bool) : Except (Error ν γ) (Db ν γ) :=
  if (db.tables name).isSome then
    .ok { db with
      tables := Function.update db.tables name none
      indexes := db.indexes.filter fun index => index.table ≠ name }
  else if ifExists then .ok db
  else .error (.noSuchTable name)

def execRenameTable (db : Db ν γ) (name target : ν) : Except (Error ν γ) (Db ν γ) :=
  match db.tables name with
  | none => .error (.noSuchTable name)
  | some table =>
    if db.Taken target then .error (.alreadyExists target)
    else .ok { db with
      tables := Function.update (Function.update db.tables name none) target (some table)
      indexes := db.indexes.map fun index =>
        if index.table = name then { index with table := target } else index }

def execAddColumn (db : Db ν γ) (name : ν) (column : Column γ) : Except (Error ν γ) (Db ν γ) :=
  match db.tables name with
  | none => .error (.noSuchTable name)
  | some table =>
    if column.name ∈ table.names then .error (.duplicateColumn column.name)
    else if table.rows ≠ [] ∧ ¬ column.Admits column.default then
      .error (.cannotAddColumn column.name)
    else .ok (db.put name (table.addColumn column))

def execDropColumn (db : Db ν γ) (name : ν) (c : γ) : Except (Error ν γ) (Db ν γ) :=
  match db.tables name with
  | none => .error (.noSuchTable name)
  | some table =>
    if c ∉ table.names then .error (.noSuchColumn c)
    else if (∃ key ∈ table.keys, c ∈ key) ∨ (∃ i ∈ db.indexes, i.table = name ∧ i.column = c) ∨
        (table.dropColumn c).columns = [] then .error (.cannotDropColumn c)
    else .ok (db.put name (table.dropColumn c))

def storeRows (db : Db ν γ) (name : ν) (table : Table γ) (columns : List γ)
    (rows : List (Row γ)) : Except (Error ν γ) (Db ν γ) :=
  match columns.find? fun c => c ∉ table.names with
  | some c => .error (.noSuchColumn c)
  | none =>
    match table.insertRows (rows.map (table.complete columns)) with
    | none => .error (.constraintFailed name)
    | some stored => .ok (db.put name stored)

def execInsert (db : Db ν γ) (name : ν) (values : List (γ × Value)) :
    Except (Error ν γ) (Db ν γ) :=
  match db.tables name with
  | none => .error (.noSuchTable name)
  | some table => storeRows db name table (values.map Prod.fst) [valueRow values]

def execInsertSelect (db : Db ν γ) (name : ν) (columns : List γ) (source : ν) :
    Except (Error ν γ) (Db ν γ) :=
  match db.tables name, db.tables source with
  | none, _ => .error (.noSuchTable name)
  | some _, none => .error (.noSuchTable source)
  | some table, some from_ =>
    match columns.find? fun c => c ∉ from_.names with
    | some c => .error (.noSuchColumn c)
    | none => storeRows db name table columns from_.rows

def execUpdate (db : Db ν γ) (name : ν) (column : γ) (old new : Value) :
    Except (Error ν γ) (Db ν γ) :=
  match db.tables name with
  | none => .error (.noSuchTable name)
  | some table =>
    if column ∉ table.names then .error (.noSuchColumn column)
    else
      match Table.updateRows table.toShape column old new [] table.rows with
      | none => .error (.constraintFailed name)
      | some rows => .ok (db.put name { table with rows := rows })

def exec (db : Db ν γ) : Statement ν γ → Except (Error ν γ) (Db ν γ)
  | .createTable name shape =>
    if db.Taken name then .error (.alreadyExists name) else .ok (db.put name ⟨shape, []⟩)
  | .createIndex index => execCreateIndex db index
  | .dropTable name ifExists => execDropTable db name ifExists
  | .renameTable name target => execRenameTable db name target
  | .addColumn name column => execAddColumn db name column
  | .dropColumn name c => execDropColumn db name c
  | .insert name values => execInsert db name values
  | .insertSelect name columns source => execInsertSelect db name columns source
  | .update name column old new => execUpdate db name column old new
  | .setUserVersion version => .ok { db with userVersion := version }

end Statement

end EidolonAdmin.Foundation.Sql

import EidolonAdmin.Foundation.JsonRoundtrip

/-! # Validated models

A model is a type with what `model_dump_json(exclude_none=True)` writes of its values and what
validation makes of a document. A value that is absent is never written and is never written as
null, so that validation reads each value back from what was written of it.
-/

namespace EidolonAdmin.Foundation

open Text (ofString)
open JsonText

structure Model where
  Carrier : Type
  dump : Carrier → Document
  validate : Document → Option Carrier
  undone : ∀ value, validate (dump value) = some value
  wellFormed : ∀ value, WellFormed (dump value)
  notNull : ∀ value, dump value ≠ .null
  /-- How deep the documents of the model nest at most. -/
  depth : Nat
  shallow : ∀ value, nesting (dump value) ≤ depth

namespace Model

/-! ## Scalars -/

/-- A text under a constraint; nothing but a text is taken for one. -/
def text (p : Text → Prop) [DecidablePred p] : Model where
  Carrier := { text : Text // p text }
  dump value := .str value.val
  validate
    | .str text => if h : p text then some ⟨text, h⟩ else none
    | _ => none
  undone value := dif_pos value.property
  wellFormed _ := trivial
  notNull _ := Document.noConfusion
  depth := 0
  shallow _ := Nat.le_refl 0

/-- An integer under a constraint, where `lax` reads what else is taken for one. -/
def integer (lax : Document → Option Int) (p : Int → Prop) [DecidablePred p] : Model where
  Carrier := { n : Int // p n }
  dump value := .int value.val
  validate document :=
    (match document with
      | .int n => some n
      | _ => lax document).bind fun n => if h : p n then some ⟨n, h⟩ else none
  undone value := dif_pos value.property
  wellFormed _ := trivial
  notNull _ := Document.noConfusion
  depth := 0
  shallow _ := Nat.le_refl 0

/-- A truth value, where `lax` reads what else is taken for one. -/
def boolean (lax : Document → Option Bool) : Model where
  Carrier := Bool
  dump value := .bool value
  validate document :=
    match document with
    | .bool value => some value
    | _ => lax document
  undone _ := rfl
  wellFormed _ := trivial
  notNull _ := Document.noConfusion
  depth := 0
  shallow _ := Nat.le_refl 0

/-- `Literal` of one truth value -/
def flag (value : Bool) : Model where
  Carrier := Unit
  dump _ := .bool value
  validate
    | .bool found => if found = value then some () else none
    | _ => none
  undone _ := if_pos rfl
  wellFormed _ := trivial
  notNull _ := Document.noConfusion
  depth := 0
  shallow _ := Nat.le_refl 0

/-- `Literal` of the texts that name the values listed. -/
def literal {α : Type} (all : List α) (name : α → String) (hAll : ∀ value, value ∈ all)
    (hNames : (all.map fun value => ofString (name value)).Nodup) : Model where
  Carrier := α
  dump value := .str (ofString (name value))
  validate
    | .str text => Table.lookup (fun value => ofString (name value)) text all
    | _ => none
  undone value := (Table.lookup_eq_some_iff hNames).mpr ⟨hAll value, rfl⟩
  wellFormed _ := trivial
  notNull _ := Document.noConfusion
  depth := 0
  shallow _ := Nat.le_refl 0

/-- `Literal` of one text -/
def constant (name : String) : Model :=
  literal [()] (fun _ => name) (fun _ => List.mem_singleton.mpr rfl) (List.nodup_singleton _)

/-! ## Tuples -/

theorem mapM_validate_dump (model : Model) (values : List model.Carrier) :
    (values.map model.dump).mapM model.validate = some values := by
  induction values with
  | nil => rfl
  | cons value values ih =>
    rw [List.map_cons, List.mapM_cons, model.undone, ih]
    rfl

/-- `tuple[model, ...]` -/
def tuple (model : Model) : Model where
  Carrier := List model.Carrier
  dump values := .arr (values.map model.dump)
  validate
    | .arr items => items.mapM model.validate
    | _ => none
  undone := mapM_validate_dump model
  wellFormed values := by
    rw [WellFormed, wellFormedItems_iff, List.forall_mem_map]
    exact fun value _ => model.wellFormed value
  notNull _ := Document.noConfusion
  depth := model.depth + 1
  shallow values := by
    rw [nesting, Nat.add_le_add_iff_right, nestingItems_le_iff, List.forall_mem_map]
    exact fun value _ => model.shallow value

/-- `model | None`, where none is left out. -/
def nullable (model : Model) : Document → Option (Option model.Carrier)
  | .null => some none
  | document => (model.validate document).map some

theorem nullable_dump (model : Model) (value : model.Carrier) :
    model.nullable (model.dump value) = some (some value) := by
  unfold nullable
  split
  · rename_i hNull
    exact absurd hNull (model.notNull value)
  · rw [model.undone]
    rfl

/-! ## Fields -/

/-- What an object holds under a name: a value, a value or none (`T | None = None`), or a value
that has a default. -/
inductive Field where
  | required (name : String) (model : Model)
  | optional (name : String) (model : Model)
  | withDefault (name : String) (model : Model) (default : model.Carrier)

namespace Field

def name : Field → Text
  | required name _ | optional name _ | withDefault name _ _ => ofString name

def model : Field → Model
  | required _ model | optional _ model | withDefault _ model _ => model

def Carrier : Field → Type
  | required _ model | withDefault _ model _ => model.Carrier
  | optional _ model => Option model.Carrier

/-- The value that is written, unless it is none. -/
def write : (field : Field) → field.Carrier → Option Document
  | required _ model, value | withDefault _ model _, value => some (model.dump value)
  | optional _ model, value => value.map model.dump

def read : (field : Field) → Option Document → Option field.Carrier
  | required _ model, found => found.bind model.validate
  | optional _ model, found =>
    match found with
    | none => some none
    | some document => model.nullable document
  | withDefault _ model default, found =>
    match found with
    | none => some default
    | some document => model.validate document

theorem read_write (field : Field) (value : field.Carrier) : field.read (field.write value) = some value := by
  cases field with
  | required name model => exact model.undone value
  | withDefault name model default => exact model.undone value
  | optional name model =>
    cases value with
    | none => rfl
    | some value => exact model.nullable_dump value

theorem exists_of_write {field : Field} {value : field.Carrier} {document : Document}
    (h : field.write value = some document) : ∃ inner, document = field.model.dump inner := by
  cases field with
  | required name model => exact ⟨value, (Option.some.inj h).symm⟩
  | withDefault name model default => exact ⟨value, (Option.some.inj h).symm⟩
  | optional name model =>
    obtain ⟨inner, _, hDump⟩ := Option.map_eq_some_iff.mp h
    exact ⟨inner, hDump.symm⟩

end Field

/-! ## Objects -/

def Values : List Field → Type
  | [] => Unit
  | field :: fields => field.Carrier × Values fields

def members : (fields : List Field) → Values fields → List (Text × Document)
  | [], _ => []
  | field :: fields, (value, values) =>
    ((field.write value).map fun document => (field.name, document)).toList ++ members fields values

def readAll : (fields : List Field) → List (Text × Document) → Option (Values fields)
  | [], _ => some ()
  | field :: fields, found =>
    (field.read (Dict.get found field.name)).bind fun value => (readAll fields found).map fun values => (value, values)

theorem keys_members_sublist (fields : List Field) (values : Values fields) :
    ((members fields values).map Prod.fst).Sublist (fields.map Field.name) := by
  induction fields with
  | nil => exact List.Sublist.slnil
  | cons field fields ih =>
    obtain ⟨value, values⟩ := values
    rw [members, List.map_append, List.map_cons]
    cases field.write value with
    | none => exact (ih values).cons _
    | some document => exact (ih values).cons_cons _

theorem readAll_congr {fields : List Field} {found found' : List (Text × Document)}
    (h : ∀ field ∈ fields, Dict.get found field.name = Dict.get found' field.name) :
    readAll fields found = readAll fields found' := by
  induction fields with
  | nil => rfl
  | cons field fields ih =>
    rw [List.forall_mem_cons] at h
    rw [readAll, readAll, h.1, ih h.2]

theorem get_toList_append {found : Option Document} {name : Text} {rest : List (Text × Document)}
    (hRest : name ∉ rest.map Prod.fst) :
    Dict.get ((found.map fun document => (name, document)).toList ++ rest) name = found := by
  cases found with
  | none =>
    rw [Option.map_none, Option.toList_none, List.nil_append, Dict.get_eq_none_iff]
    intro item hItem hName
    exact hRest (List.mem_map.mpr ⟨item, hItem, hName⟩)
  | some document => simp [Dict.get, Table.lookup]

theorem get_toList_append_of_ne {found : Option Document} {name other : Text} {rest : List (Text × Document)}
    (h : other ≠ name) :
    Dict.get ((found.map fun document => (name, document)).toList ++ rest) other = Dict.get rest other := by
  cases found with
  | none => rfl
  | some document => simp [Dict.get, Table.lookup, Ne.symm h]

theorem get_members_cons {field : Field} {fields : List Field} (hNames : ((field :: fields).map Field.name).Nodup)
    (value : field.Carrier) (values : Values fields) :
    Dict.get (members (field :: fields) (value, values)) field.name = field.write value := by
  rw [List.map_cons, List.nodup_cons] at hNames
  exact get_toList_append fun hIn => hNames.1 ((keys_members_sublist fields values).subset hIn)

theorem readAll_members {fields : List Field} (hNames : (fields.map Field.name).Nodup) (values : Values fields) :
    readAll fields (members fields values) = some values := by
  induction fields with
  | nil => rfl
  | cons field fields ih =>
    obtain ⟨value, values⟩ := values
    have hHead := get_members_cons hNames value values
    rw [List.map_cons, List.nodup_cons] at hNames
    have hRest : readAll fields (members (field :: fields) (value, values)) = some values := by
      rw [← ih hNames.2 values]
      refine readAll_congr fun other hOther => get_toList_append_of_ne fun hSame => ?_
      exact hNames.1 (hSame ▸ List.mem_map_of_mem hOther)
    rw [readAll, hRest, hHead, Field.read_write]
    rfl

theorem mem_members {fields : List Field} {values : Values fields} {member : Text × Document}
    (h : member ∈ members fields values) : ∃ field ∈ fields, ∃ inner, member.2 = field.model.dump inner := by
  induction fields with
  | nil => cases h
  | cons field fields ih =>
    obtain ⟨value, values⟩ := values
    rw [members, List.mem_append] at h
    rcases h with hHead | hRest
    · rw [Option.mem_toList, Option.map_eq_some_iff] at hHead
      obtain ⟨document, hWrite, rfl⟩ := hHead
      exact ⟨field, List.mem_cons_self, Field.exists_of_write hWrite⟩
    · obtain ⟨other, hOther, hInner⟩ := ih hRest
      exact ⟨other, List.mem_cons_of_mem _ hOther, hInner⟩

def deepest : List Model → Nat
  | [] => 0
  | model :: models => max model.depth (deepest models)

theorem depth_le_deepest {models : List Model} {model : Model} (h : model ∈ models) : model.depth ≤ deepest models := by
  induction models with
  | nil => cases h
  | cons first models ih =>
    rcases List.mem_cons.mp h with rfl | hRest
    · exact Nat.le_max_left _ _
    · exact Nat.le_trans (ih hRest) (Nat.le_max_right _ _)

/-- A model with `extra="forbid"`. -/
def object (fields : List Field) (hNames : (fields.map Field.name).Nodup) : Model where
  Carrier := Values fields
  dump values := .obj (members fields values)
  validate
    | .obj found => if ∀ member ∈ found, member.1 ∈ fields.map Field.name then readAll fields found else none
    | _ => none
  undone values := by
    have hKnown : ∀ member ∈ members fields values, member.1 ∈ fields.map Field.name := fun member hMember =>
      (keys_members_sublist fields values).subset (List.mem_map_of_mem hMember)
    exact (if_pos hKnown).trans (readAll_members hNames values)
  wellFormed values := by
    rw [WellFormed, wellFormedMembers_iff]
    refine ⟨hNames.sublist (keys_members_sublist fields values), fun member hMember => ?_⟩
    obtain ⟨field, _, inner, hInner⟩ := mem_members hMember
    rw [hInner]
    exact field.model.wellFormed inner
  notNull _ := Document.noConfusion
  depth := deepest (fields.map Field.model) + 1
  shallow values := by
    rw [nesting, Nat.add_le_add_iff_right, nestingMembers_le_iff]
    intro member hMember
    obtain ⟨field, hField, inner, hInner⟩ := mem_members hMember
    rw [hInner]
    exact Nat.le_trans (field.model.shallow inner) (depth_le_deepest (List.mem_map_of_mem hField))

theorem dump_object_constant {name tag : String} {fields : List Field}
    (hNames : ((.withDefault name (constant tag) () :: fields).map Field.name).Nodup)
    (values : Values (.withDefault name (constant tag) () :: fields)) :
    ∃ found, (object (.withDefault name (constant tag) () :: fields) hNames).dump values = .obj found ∧
      Dict.get found (ofString name) = some (.str (ofString tag)) := by
  obtain ⟨value, values⟩ := values
  exact ⟨_, rfl, get_members_cons hNames value values⟩

/-! ## Derived models -/

/-- The model of a type whose values are some of another's, such as those that a check after the
initialisation lets through. -/
def refine (α : Type) (model : Model) (raw : α → model.Carrier) (check : model.Carrier → Option α)
    (hUndone : ∀ value, check (raw value) = some value) : Model where
  Carrier := α
  dump value := model.dump (raw value)
  validate document := (model.validate document).bind check
  undone value := by rw [model.undone, Option.bind_some, hUndone]
  wellFormed value := model.wellFormed (raw value)
  notNull value := model.notNull (raw value)
  depth := model.depth
  shallow value := model.shallow (raw value)

/-- `str` -/
def string : Model :=
  refine Text (text fun _ => True) (fun value => ⟨value, trivial⟩) (fun value => some value.val) fun _ => rfl

/-- `int` -/
def number (lax : Document → Option Int) : Model :=
  refine Int (integer lax fun _ => True) (fun value => ⟨value, trivial⟩) (fun value => some value.val) fun _ => rfl

/-- A union that a text under `key` discriminates. -/
def tagged {ι : Type} (key : String) (all : List ι) (tag : ι → String) (cases : ι → Model)
    (hAll : ∀ i, i ∈ all) (hTags : (all.map fun i => ofString (tag i)).Nodup)
    (hKey : ∀ i value, ∃ found, (cases i).dump value = .obj found ∧
      Dict.get found (ofString key) = some (.str (ofString (tag i)))) : Model where
  Carrier := (i : ι) × (cases i).Carrier
  dump value := (cases value.1).dump value.2
  validate
    | .obj found =>
      match Dict.get found (ofString key) with
      | some (.str text) =>
        (Table.lookup (fun i => ofString (tag i)) text all).bind fun i =>
          ((cases i).validate (.obj found)).map fun value => ⟨i, value⟩
      | _ => none
    | _ => none
  undone value := by
    obtain ⟨i, value⟩ := value
    obtain ⟨found, hDump, hTag⟩ := hKey i value
    have hLookup : Table.lookup (fun i => ofString (tag i)) (ofString (tag i)) all = some i :=
      (Table.lookup_eq_some_iff hTags).mpr ⟨hAll i, rfl⟩
    have hUndone := (cases i).undone value
    dsimp only
    rw [hDump] at hUndone ⊢
    dsimp only
    rw [hTag]
    dsimp only
    rw [hLookup, Option.bind_some, hUndone, Option.map_some]
  wellFormed value := (cases value.1).wellFormed value.2
  notNull value := (cases value.1).notNull value.2
  depth := deepest (all.map cases)
  shallow value :=
    Nat.le_trans ((cases value.1).shallow value.2) (depth_le_deepest (List.mem_map_of_mem (hAll value.1)))

end Model

end EidolonAdmin.Foundation

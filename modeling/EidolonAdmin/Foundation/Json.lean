import Mathlib.Data.Rat.Defs

/-! # Decoded JSON documents

What a JSON parser returns. An object keeps its members in order; of a repeated
name the last member counts.
-/

namespace EidolonAdmin.Foundation

inductive Json where
  | null
  | bool (value : Bool)
  | int (value : Int)
  | float (value : Rat)
  | str (value : String)
  | arr (items : List Json)
  | obj (members : List (String × Json))

namespace Json

def get? : Json → String → Option Json
  | obj members, name => (members.reverse.find? fun member => member.1 = name).map Prod.snd
  | _, _ => none

/-- `payload.get(name)`, where an absent member reads as `None`. -/
def get (document : Json) (name : String) : Json := (document.get? name).getD null

def isText : Json → String → Bool
  | str value, text => value = text
  | _, _ => false

/-- `isinstance(value, int)`, which a truth value also is. -/
def isInteger : Json → Bool
  | int _ | bool _ => true
  | _ => false

/-- Whether the value compares equal to a natural number: truth values count as
0 and 1, and a float may be integral. -/
def isNumber : Json → Nat → Bool
  | bool value, n => value.toNat = n
  | int value, n => value = n
  | float value, n => value = n
  | _, _ => false

/-- `bool(value)`. -/
def truthy : Json → Bool
  | null => false
  | bool value => value
  | int value => value ≠ 0
  | float value => value ≠ 0
  | str value => value ≠ ""
  | arr items => ¬ items.isEmpty
  | obj members => ¬ members.isEmpty

def isObject : Json → Bool
  | obj _ => true
  | _ => false

end Json

end EidolonAdmin.Foundation

import Mathlib.Data.List.Sort
import Mathlib.Data.Nat.Digits.Lemmas
import EidolonAdmin.Foundation.Dict
import EidolonAdmin.Foundation.Text

/-! # JSON texts

The documents that Python's `json` reads and writes: what `json.dumps` prints without spaces and
without escaping beyond ASCII, and what `json.loads` makes of a text or of bytes in any encoding
it detects, with each way in which it fails.
-/

namespace EidolonAdmin.Foundation

open Text (ofChar ofString)

/-- A decoded document. A float is kept as the literal it was read from. -/
inductive Document where
  | null
  | bool (value : Bool)
  | int (value : Int)
  | float (literal : Text)
  | str (text : Text)
  | arr (items : List Document)
  | obj (members : List (Text × Document))

@[elab_as_elim]
theorem Document.inductionOn {motive : Document → Prop} (document : Document) (null : motive .null)
    (bool : ∀ value, motive (.bool value)) (int : ∀ value, motive (.int value))
    (float : ∀ literal, motive (.float literal)) (str : ∀ text, motive (.str text))
    (arr : ∀ items, (∀ item ∈ items, motive item) → motive (.arr items))
    (obj : ∀ members, (∀ member ∈ members, motive member.2) → motive (.obj members)) : motive document :=
  @Document.rec motive (fun items => ∀ item ∈ items, motive item)
    (fun members => ∀ member ∈ members, motive member.2) (fun member => motive member.2) null bool int float str (fun items ih => arr items ih)
    (fun members ih => obj members ih) (List.forall_mem_nil _)
    (fun _ _ hItem hItems => List.forall_mem_cons.mpr ⟨hItem, hItems⟩) (List.forall_mem_nil _)
    (fun _ _ hMember hMembers => List.forall_mem_cons.mpr ⟨hMember, hMembers⟩) (fun _ _ ih => ih) document

namespace JsonText

/-- `str` of a document, where `repr` gives what it makes of one that is no text. -/
def strOf (repr : Document → Option Text) : Document → Option Text
  | .str text => some text
  | document => repr document

def quote : CodePoint := ofChar '"'
def backslash : CodePoint := ofChar '\\'

/-- `sys.int_info.default_max_str_digits` -/
def intDigitLimit : Nat := 4300

/-! ## Printing -/

def digitPoint (n : Nat) : CodePoint := Fin.ofNat _ (48 + n)

def hexPoint (n : Nat) : CodePoint := if n < 10 then digitPoint n else Fin.ofNat _ (87 + n)

def shortEscape (point : CodePoint) : Option CodePoint :=
  if point.val = 8 then some (ofChar 'b')
  else if point.val = 9 then some (ofChar 't')
  else if point.val = 10 then some (ofChar 'n')
  else if point.val = 12 then some (ofChar 'f')
  else if point.val = 13 then some (ofChar 'r')
  else none

def escaped (point : CodePoint) : Text :=
  if point = quote ∨ point = backslash then [backslash, point]
  else
    match shortEscape point with
    | some letter => [backslash, letter]
    | none =>
      if point.val < 0x20 then
        [backslash, ofChar 'u', digitPoint 0, digitPoint 0, hexPoint (point.val / 16), hexPoint (point.val % 16)]
      else [point]

def printString (text : Text) : Text := quote :: text.flatMap escaped ++ [quote]

def printNat (n : Nat) : Text :=
  if n = 0 then [digitPoint 0] else (Nat.digits 10 n).reverse.map digitPoint

def printInt : Int → Text
  | .ofNat n => printNat n
  | .negSucc n => ofChar '-' :: printNat (n + 1)

def commas : List Text → Text
  | [] => []
  | [text] => text
  | text :: texts => text ++ ofChar ',' :: commas texts

mutual

/-- The text of the document, without spaces and without escaping beyond ASCII. -/
def print : Document → Text
  | .null => ofString "null"
  | .bool true => ofString "true"
  | .bool false => ofString "false"
  | .int n => printInt n
  | .float literal => literal
  | .str text => printString text
  | .arr items => ofChar '[' :: commas (printItems items) ++ [ofChar ']']
  | .obj members => ofChar '{' :: commas (printMembers members) ++ [ofChar '}']

def printItems : List Document → List Text
  | [] => []
  | item :: items => print item :: printItems items

def printMembers : List (Text × Document) → List Text
  | [] => []
  | (key, value) :: members =>
    (printString key ++ ofChar ':' :: print value) :: printMembers members

end

mutual

/-- `json.dumps` prints the document with `room` levels left before the recursion limit: no integer
has more digits than `str` writes, and no container lies deeper. -/
def dumpable : Document → Nat → Bool
  | .int n, _ => n.natAbs < 10 ^ intDigitLimit
  | .arr items, room => 0 < room && dumpableItems items (room - 1)
  | .obj members, room => 0 < room && dumpableMembers members (room - 1)
  | _, _ => true

def dumpableItems : List Document → Nat → Bool
  | [], _ => true
  | item :: items, room => dumpable item room && dumpableItems items room

def dumpableMembers : List (Text × Document) → Nat → Bool
  | [], _ => true
  | (_, value) :: members, room => dumpable value room && dumpableMembers members room

end

theorem dumpableItems_iff {items : List Document} {room : Nat} :
    dumpableItems items room = true ↔ ∀ item ∈ items, dumpable item room = true := by
  induction items with
  | nil => simp [dumpableItems]
  | cons item items ih => rw [dumpableItems, Bool.and_eq_true, ih, List.forall_mem_cons]

theorem dumpableMembers_iff {members : List (Text × Document)} {room : Nat} :
    dumpableMembers members room = true ↔ ∀ member ∈ members, dumpable member.2 room = true := by
  induction members with
  | nil => simp [dumpableMembers]
  | cons member members ih => rw [dumpableMembers, Bool.and_eq_true, ih, List.forall_mem_cons]

mutual

def nesting : Document → Nat
  | .arr items => nestingItems items + 1
  | .obj members => nestingMembers members + 1
  | _ => 0

def nestingItems : List Document → Nat
  | [] => 0
  | item :: items => max (nesting item) (nestingItems items)

def nestingMembers : List (Text × Document) → Nat
  | [] => 0
  | (_, value) :: members => max (nesting value) (nestingMembers members)

end

mutual

/-- No integer of the document has more digits than `str` writes and `int` reads. -/
def intsFit : Document → Bool
  | .int n => n.natAbs < 10 ^ intDigitLimit
  | .arr items => intsFitItems items
  | .obj members => intsFitMembers members
  | _ => true

def intsFitItems : List Document → Bool
  | [] => true
  | item :: items => intsFit item && intsFitItems items

def intsFitMembers : List (Text × Document) → Bool
  | [] => true
  | (_, value) :: members => intsFit value && intsFitMembers members

end

theorem nestingItems_le_iff {items : List Document} {room : Nat} :
    nestingItems items ≤ room ↔ ∀ item ∈ items, nesting item ≤ room := by
  induction items with
  | nil => simp [nestingItems]
  | cons item items ih => rw [nestingItems, max_le_iff, ih, List.forall_mem_cons]

theorem nestingMembers_le_iff {members : List (Text × Document)} {room : Nat} :
    nestingMembers members ≤ room ↔ ∀ member ∈ members, nesting member.2 ≤ room := by
  induction members with
  | nil => simp [nestingMembers]
  | cons member members ih => rw [nestingMembers, max_le_iff, ih, List.forall_mem_cons]

theorem intsFitItems_iff {items : List Document} :
    intsFitItems items = true ↔ ∀ item ∈ items, intsFit item = true := by
  induction items with
  | nil => simp [intsFitItems]
  | cons item items ih => rw [intsFitItems, Bool.and_eq_true, ih, List.forall_mem_cons]

theorem intsFitMembers_iff {members : List (Text × Document)} :
    intsFitMembers members = true ↔ ∀ member ∈ members, intsFit member.2 = true := by
  induction members with
  | nil => simp [intsFitMembers]
  | cons member members ih => rw [intsFitMembers, Bool.and_eq_true, ih, List.forall_mem_cons]

/-- The two reasons for which a document cannot be printed are independent. -/
theorem dumpable_iff (document : Document) {room : Nat} :
    dumpable document room = true ↔ intsFit document = true ∧ nesting document ≤ room := by
  induction document using Document.inductionOn generalizing room with
  | null | bool | float | str => simp [dumpable, intsFit, nesting]
  | int => simp [dumpable, intsFit, nesting]
  | arr items ih =>
    rw [dumpable, Bool.and_eq_true, decide_eq_true_eq, dumpableItems_iff, intsFit, intsFitItems_iff, nesting]
    cases room with
    | zero => simp
    | succ room =>
      rw [Nat.add_le_add_iff_right, nestingItems_le_iff, Nat.add_sub_cancel]
      constructor
      · exact fun ⟨_, hItems⟩ =>
          ⟨fun item hItem => ((ih item hItem).mp (hItems item hItem)).1,
            fun item hItem => ((ih item hItem).mp (hItems item hItem)).2⟩
      · exact fun ⟨hInts, hNesting⟩ =>
          ⟨Nat.succ_pos room, fun item hItem => (ih item hItem).mpr ⟨hInts item hItem, hNesting item hItem⟩⟩
  | obj members ih =>
    rw [dumpable, Bool.and_eq_true, decide_eq_true_eq, dumpableMembers_iff, intsFit, intsFitMembers_iff, nesting]
    cases room with
    | zero => simp
    | succ room =>
      rw [Nat.add_le_add_iff_right, nestingMembers_le_iff, Nat.add_sub_cancel]
      constructor
      · exact fun ⟨_, hMembers⟩ =>
          ⟨fun member hMember => ((ih member hMember).mp (hMembers member hMember)).1,
            fun member hMember => ((ih member hMember).mp (hMembers member hMember)).2⟩
      · exact fun ⟨hInts, hNesting⟩ =>
          ⟨Nat.succ_pos room, fun member hMember =>
            (ih member hMember).mpr ⟨hInts member hMember, hNesting member hMember⟩⟩

/-- `json.dumps(document, ensure_ascii=False, separators=(",", ":"))`, absent where it raises. -/
def dumps (room : Nat) (document : Document) : Option Text :=
  if dumpable document room then some (print document) else none

theorem printItems_eq_map (items : List Document) : printItems items = items.map print := by
  induction items with
  | nil => rfl
  | cons item items ih => rw [printItems, ih, List.map_cons]

theorem printMembers_eq_map (members : List (Text × Document)) :
    printMembers members = members.map fun member => printString member.1 ++ ofChar ':' :: print member.2 := by
  induction members with
  | nil => rfl
  | cons member members ih => rw [printMembers, ih, List.map_cons]

mutual

/-- The document with the members of each object in the order of their keys, as `sort_keys=True`
prints them. -/
def sortKeys : Document → Document
  | .arr items => .arr (sortItems items)
  | .obj members => .obj ((sortMembers members).insertionSort fun a b => a.1 ≤ b.1)
  | document => document

def sortItems : List Document → List Document
  | [] => []
  | item :: items => sortKeys item :: sortItems items

def sortMembers : List (Text × Document) → List (Text × Document)
  | [] => []
  | (key, value) :: members => (key, sortKeys value) :: sortMembers members

end

theorem sortKeys_str (text : Text) : sortKeys (.str text) = .str text := by
  rw [sortKeys] <;> simp

/-! ## Scanning -/

/-- What `json.loads` raises: `JSONDecodeError`, `UnicodeDecodeError`, the `ValueError` about the
digits of an integer, `RecursionError`. -/
inductive LoadsError where
  | jsonDecode
  | unicodeDecode
  | intDigits
  | recursion
deriving DecidableEq, Repr

abbrev Scanned (α : Type) := Except LoadsError (α × Text)

def isSpace (point : CodePoint) : Bool :=
  point = ofChar ' ' || point = ofChar '\t' || point = ofChar '\n' || point = ofChar '\r'

def skipSpace (text : Text) : Text := text.dropWhile isSpace

def hexValue (point : CodePoint) : Option Nat :=
  let n := point.val
  if 48 ≤ n ∧ n ≤ 57 then some (n - 48)
  else if 97 ≤ n ∧ n ≤ 102 then some (n - 87)
  else if 65 ≤ n ∧ n ≤ 70 then some (n - 55)
  else none

def hex4 (a b c d : CodePoint) : Option Nat := do
  return ((← hexValue a) * 4096 + (← hexValue b) * 256 + (← hexValue c) * 16 + (← hexValue d))

def unescape (letter : CodePoint) : Option CodePoint :=
  if letter = quote ∨ letter = backslash ∨ letter = ofChar '/' then some letter
  else if letter = ofChar 'b' then some (Fin.ofNat _ 8)
  else if letter = ofChar 'f' then some (Fin.ofNat _ 12)
  else if letter = ofChar 'n' then some (Fin.ofNat _ 10)
  else if letter = ofChar 'r' then some (Fin.ofNat _ 13)
  else if letter = ofChar 't' then some (Fin.ofNat _ 9)
  else none

def lowSurrogate : Text → Option Nat
  | point :: letter :: a :: b :: c :: d :: _ =>
    if point = backslash ∧ letter = ofChar 'u' then
      (hex4 a b c d).filter fun n => 0xDC00 ≤ n ∧ n < 0xE000
    else none
  | _ => none

/-- `scanstring` after the opening quote, where every failure is a `JSONDecodeError`. An escaped
high surrogate joins an escaped low one that follows at once. -/
def scanString : Text → Option (Text × Text)
  | [] => none
  | point :: rest =>
    if point = quote then some ([], rest)
    else if point.val < 0x20 then none
    else if point = backslash then
      match rest with
      | [] => none
      | letter :: rest =>
        if letter = ofChar 'u' then
          match rest with
          | a :: b :: c :: d :: rest =>
            match hex4 a b c d with
            | none => none
            | some n =>
              match if 0xD800 ≤ n ∧ n < 0xDC00 then lowSurrogate rest else none with
              | none => (scanString rest).map fun scanned => (Fin.ofNat _ n :: scanned.1, scanned.2)
              | some low =>
                match rest with
                | _ :: _ :: _ :: _ :: _ :: _ :: rest =>
                  (scanString rest).map fun scanned =>
                    (Fin.ofNat _ (0x10000 + (n - 0xD800) * 0x400 + (low - 0xDC00)) :: scanned.1, scanned.2)
                | _ => none
          | _ => none
        else
          match unescape letter with
          | none => none
          | some point => (scanString rest).map fun scanned => (point :: scanned.1, scanned.2)
    else (scanString rest).map fun scanned => (point :: scanned.1, scanned.2)

def isDigit (point : CodePoint) : Bool := 48 ≤ point.val && point.val ≤ 57

def scanWhole : Text → Option (Text × Text)
  | [] => none
  | point :: rest =>
    if point = digitPoint 0 then some ([point], rest)
    else if isDigit point then some (point :: rest.takeWhile isDigit, rest.dropWhile isDigit)
    else none

def scanFraction : Text → Text × Text
  | point :: digit :: rest =>
    if point = ofChar '.' ∧ isDigit digit then
      (point :: digit :: rest.takeWhile isDigit, rest.dropWhile isDigit)
    else ([], point :: digit :: rest)
  | text => ([], text)

def scanSign : Text → Text × Text
  | [] => ([], [])
  | point :: rest =>
    if point = ofChar '+' ∨ point = ofChar '-' then ([point], rest) else ([], point :: rest)

/-- An exponent without a digit is left where it stands. -/
def scanExponent : Text → Text × Text
  | [] => ([], [])
  | point :: rest =>
    let signed := scanSign rest
    if (point = ofChar 'e' ∨ point = ofChar 'E') ∧ signed.2.takeWhile isDigit ≠ [] then
      (point :: signed.1 ++ signed.2.takeWhile isDigit, signed.2.dropWhile isDigit)
    else ([], point :: rest)

def natOf (digits : Text) : Nat := Nat.ofDigits 10 (digits.map fun point => point.val - 48).reverse

def scanUnsigned (negative : Bool) (text : Text) : Scanned Document :=
  match scanWhole text with
  | none => .error .jsonDecode
  | some (whole, rest) =>
    let fraction := scanFraction rest
    let exponent := scanExponent fraction.2
    if fraction.1 = [] ∧ exponent.1 = [] then
      if intDigitLimit < whole.length then .error .intDigits
      else .ok (.int (if negative then - (natOf whole : Int) else natOf whole), exponent.2)
    else
      let sign := if negative then [ofChar '-'] else []
      .ok (.float (sign ++ whole ++ fraction.1 ++ exponent.1), exponent.2)

def scanNumber : Text → Scanned Document
  | [] => .error .jsonDecode
  | point :: rest =>
    if point = ofChar '-' then scanUnsigned true rest else scanUnsigned false (point :: rest)

def scanConstant (name : String) (value : Document) (text : Text) : Option (Document × Text) :=
  ((ofString name).isPrefixOf? text).map fun rest => (value, rest)

def constants : List (String × Document) :=
  [("null", .null), ("true", .bool true), ("false", .bool false), ("NaN", .float (ofString "NaN")),
    ("Infinity", .float (ofString "Infinity")), ("-Infinity", .float (ofString "-Infinity"))]

def scanScalar (text : Text) : Scanned Document :=
  match constants.findSome? fun constant => scanConstant constant.1 constant.2 text with
  | some scanned => .ok scanned
  | none => scanNumber text

section Containers

variable (term : Text → Scanned Document)

/-- The items of an array after its bracket, with room for as many as there are characters. -/
def scanItems : Nat → Text → Scanned (List Document)
  | 0, _ => .error .jsonDecode
  | fuel + 1, text =>
    match term text with
    | .error error => .error error
    | .ok (item, rest) =>
      match skipSpace rest with
      | [] => .error .jsonDecode
      | point :: rest =>
        if point = ofChar ']' then .ok ([item], rest)
        else if point = ofChar ',' then
          (scanItems fuel (skipSpace rest)).map fun scanned => (item :: scanned.1, scanned.2)
        else .error .jsonDecode

def scanArray (text : Text) : Scanned Document :=
  match skipSpace text with
  | [] => .error .jsonDecode
  | point :: rest =>
    if point = ofChar ']' then .ok (.arr [], rest)
    else (scanItems term (text.length + 1) (point :: rest)).map fun scanned => (.arr scanned.1, scanned.2)

def scanKey : Text → Option (Text × Text)
  | [] => none
  | point :: rest =>
    if point = quote then
      match scanString rest with
      | none => none
      | some (key, rest) =>
        match skipSpace rest with
        | [] => none
        | point :: rest => if point = ofChar ':' then some (key, skipSpace rest) else none
    else none

/-- The members of an object after its brace; a repeated key keeps its place and takes the new
value. -/
def scanMembers : Nat → List (Text × Document) → Text → Scanned (List (Text × Document))
  | 0, _, _ => .error .jsonDecode
  | fuel + 1, members, text =>
    match scanKey text with
    | none => .error .jsonDecode
    | some (key, rest) =>
      match term rest with
      | .error error => .error error
      | .ok (value, rest) =>
        match skipSpace rest with
        | [] => .error .jsonDecode
        | point :: rest =>
          if point = ofChar '}' then .ok (Dict.set members key value, rest)
          else if point = ofChar ',' then
            scanMembers fuel (Dict.set members key value) (skipSpace rest)
          else .error .jsonDecode

def scanObject (text : Text) : Scanned Document :=
  match skipSpace text with
  | [] => .error .jsonDecode
  | point :: rest =>
    if point = ofChar '}' then .ok (.obj [], rest)
    else
      (scanMembers term (text.length + 1) [] (point :: rest)).map fun scanned => (.obj scanned.1, scanned.2)

end Containers

def scanTerm (array object : Text → Scanned Document) : Text → Scanned Document
  | [] => .error .jsonDecode
  | point :: rest =>
    if point = quote then
      match scanString rest with
      | none => .error .jsonDecode
      | some (text, rest) => .ok (.str text, rest)
    else if point = ofChar '{' then object rest
    else if point = ofChar '[' then array rest
    else scanScalar (point :: rest)

/-- `scan_once` with `room` levels left before the recursion limit. -/
def scanOnce : Nat → Text → Scanned Document
  | 0 => scanTerm (fun _ => .error .recursion) fun _ => .error .recursion
  | room + 1 => scanTerm (scanArray (scanOnce room)) (scanObject (scanOnce room))

/-- `JSONDecoder.decode` -/
def decode (room : Nat) (text : Text) : Except LoadsError Document :=
  match scanOnce room (skipSpace text) with
  | .error error => .error error
  | .ok (document, rest) => if skipSpace rest = [] then .ok document else .error .jsonDecode

/-! ## Bytes -/

inductive Encoding where
  | utf8
  | utf8Sig
  | utf16 (bigEndian : Bool)
  | utf32 (bigEndian : Bool)
deriving DecidableEq, Repr

/-- `json.detect_encoding`, with the bytes that its decoder reads after a mark. -/
def detectEncoding (bytes : List Byte) : Encoding × List Byte :=
  let values := bytes.map Fin.val
  if [0, 0, 0xFE, 0xFF].isPrefixOf values then (.utf32 true, bytes.drop 4)
  else if [0xFF, 0xFE, 0, 0].isPrefixOf values then (.utf32 false, bytes.drop 4)
  else if [0xFE, 0xFF].isPrefixOf values then (.utf16 true, bytes.drop 2)
  else if [0xFF, 0xFE].isPrefixOf values then (.utf16 false, bytes.drop 2)
  else if [0xEF, 0xBB, 0xBF].isPrefixOf values then (.utf8Sig, bytes.drop 3)
  else
    match values with
    | a :: b :: c :: d :: _ =>
      if a = 0 then (if b = 0 then .utf32 true else .utf16 true, bytes)
      else if b = 0 then (if c = 0 ∧ d = 0 then .utf32 false else .utf16 false, bytes)
      else (.utf8, bytes)
    | [a, b] =>
      if a = 0 then (.utf16 true, bytes) else if b = 0 then (.utf16 false, bytes) else (.utf8, bytes)
    | _ => (.utf8, bytes)

/-- The 16-bit units of the bytes, absent where a byte is left over. -/
def units16 (bigEndian : Bool) : List Byte → Option (List Nat)
  | [] => some []
  | [_] => none
  | a :: b :: rest =>
    (units16 bigEndian rest).map fun units =>
      (if bigEndian then a.val * 256 + b.val else b.val * 256 + a.val) :: units

/-- The code points of 16-bit units, where a surrogate without its other half stands alone. -/
def joinUnits : List Nat → Text
  | [] => []
  | [unit] => [Fin.ofNat _ unit]
  | unit :: low :: rest =>
    if (0xD800 ≤ unit ∧ unit < 0xDC00) ∧ 0xDC00 ≤ low ∧ low < 0xE000 then
      Fin.ofNat _ (0x10000 + (unit - 0xD800) * 0x400 + (low - 0xDC00)) :: joinUnits rest
    else Fin.ofNat _ unit :: joinUnits (low :: rest)

def decodeUtf32 (bigEndian : Bool) : List Byte → Option Text
  | [] => some []
  | a :: b :: c :: d :: rest => do
    let n :=
      if bigEndian then ((a.val * 256 + b.val) * 256 + c.val) * 256 + d.val
      else ((d.val * 256 + c.val) * 256 + b.val) * 256 + a.val
    return (← Text.point 0 n) :: (← decodeUtf32 bigEndian rest)
  | _ => none

/-- `bytes.decode(encoding, "surrogatepass")` -/
def decodeBytes : Encoding → List Byte → Option Text
  | .utf8, bytes | .utf8Sig, bytes => Text.decodeUtf8 bytes
  | .utf16 bigEndian, bytes => (units16 bigEndian bytes).map joinUnits
  | .utf32 bigEndian, bytes => decodeUtf32 bigEndian bytes

def textOf (bytes : List Byte) : Option Text :=
  let (encoding, rest) := detectEncoding bytes
  decodeBytes encoding rest

/-- `json.loads` of bytes -/
def loads (room : Nat) (bytes : List Byte) : Except LoadsError Document :=
  match textOf bytes with
  | none => .error .unicodeDecode
  | some text => decode room text

end JsonText

end EidolonAdmin.Foundation

import GraphRepo.Decimal.Layout
import GraphRepo.Json
import GraphRepo.Text.Escape

/-!
# Shapes

What a JSON value has to look like to be read as a number, a text or a record. Reading gives the
value in its full form: a record has all its fields, with `null` for those that are not there.

The parts of a value are read in order, the fields of an object in the order of their names, and the
first fault ends the reading.
-/

namespace GraphRepo

/-- A kind of whole number. -/
structure WholeKind where
  name : String
  least : Int
  greatest : Int

/-- What a value has to look like. -/
inductive Shape
  | any
  | whole (kind : WholeKind)
  | double
  | bool
  | string
  | char
  | unit
  | option (inner : Shape)
  | list (element : Shape)
  | tuple (elements : List Shape)
  | map (value : Shape)
  | record (name : String) (fields : List (String × Shape))

namespace Shape

def i64 : Shape := .whole ⟨"i64", -9223372036854775808, 9223372036854775807⟩

def u64 : Shape := .whole ⟨"u64", 0, 18446744073709551615⟩

def u32 : Shape := .whole ⟨"u32", 0, 4294967295⟩

def u8 : Shape := .whole ⟨"u8", 0, 255⟩

end Shape

/-- Why a value does not have a shape. -/
inductive ShapeFault
  | wrongType (found : Json) (expected : String)
  | wrongValue (found : Json) (expected : String)
  | wrongLength (length : Nat) (expected : String)
  | missingField (name : String)

def Json.described : Json → String
  | .null => "null"
  | .bool b => "boolean `" ++ (if b then "true" else "false") ++ "`"
  | .int n => "integer `" ++ toString n.val ++ "`"
  | .float x => "floating point `" ++ DoubleLayout.json.text x.val ++ "`"
  | .string s => "string " ++ Text.quoted s
  | .array _ => "sequence"
  | .object _ => "map"

def ShapeFault.message : ShapeFault → String
  | .wrongType found expected => "invalid type: " ++ found.described ++ ", expected " ++ expected
  | .wrongValue found expected => "invalid value: " ++ found.described ++ ", expected " ++ expected
  | .wrongLength length expected =>
    "invalid length " ++ toString length ++ ", expected " ++ expected
  | .missingField name => "missing field `" ++ name ++ "`"

namespace Shape

def positional (name : String) (size : Nat) : String :=
  "struct " ++ name ++ " with " ++ toString size ++ (if size = 1 then " element" else " elements")

/-- Whether an absent field of this shape is as good as `null`. -/
def isOptional : Shape → Bool
  | .option _ => true
  | _ => false

/-- Reads the fields of a record that were not in an object: those that are optional are `null`. -/
def fillIn (found : Table Json) : List (String × Shape) → Except ShapeFault (Table Json)
  | [] => .ok found
  | (name, shape) :: rest =>
    if found.has name then fillIn found rest
    else if shape.isOptional then fillIn (found.set name .null) rest
    else .error (.missingField name)

mutual

def read : Shape → Json → Except ShapeFault Json
  | .any, j => .ok j
  | .whole kind, j =>
    match j with
    | .int n =>
      if kind.least ≤ n.val ∧ n.val ≤ kind.greatest then .ok j else .error (.wrongValue j kind.name)
    | _ => .error (.wrongType j kind.name)
  | .double, j =>
    match j with
    | .int n => .ok (.ofDouble (.ofInt n.val))
    | .float _ => .ok j
    | _ => .error (.wrongType j "f64")
  | .bool, j =>
    match j with
    | .bool _ => .ok j
    | _ => .error (.wrongType j "a boolean")
  | .string, j =>
    match j with
    | .string _ => .ok j
    | _ => .error (.wrongType j "a string")
  | .char, j =>
    match j with
    | .string s => if s.length = 1 then .ok j else .error (.wrongValue j "a character")
    | _ => .error (.wrongType j "a character")
  | .unit, j =>
    match j with
    | .null => .ok j
    | _ => .error (.wrongType j "unit")
  | .option inner, j =>
    match j with
    | .null => .ok j
    | _ => read inner j
  | .list element, j =>
    match j with
    | .array items => (items.mapM (read element)).map .array
    | _ => .error (.wrongType j "a sequence")
  | .tuple elements, j =>
    let expected := "a tuple of size " ++ toString elements.length
    match j with
    | .array items => (readElements expected 0 elements items).map .array
    | _ => .error (.wrongType j expected)
  | .map value, j =>
    match j with
    | .object fields => (fields.mapM fun f => (read value f.2).map (f.1, ·)).map .object
    | _ => .error (.wrongType j "a map")
  | .record name fields, j =>
    match j with
    | .object given => do
      let found ← given.filterMapM fun f => readField fields f.1 f.2
      (fillIn found fields).map .object
    | .array items => do
      let values ← readFields (positional name fields.length) 0 fields items
      return .ofEntries values
    | _ => .error (.wrongType j ("struct " ++ name))

/-- Reads the elements of a tuple, of which `n` were read before. -/
def readElements (expected : String) (n : Nat) :
    List Shape → List Json → Except ShapeFault (List Json)
  | [], [] => .ok []
  | [], items => .error (.wrongLength (n + items.length) "fewer elements in array")
  | _ :: _, [] => .error (.wrongLength n expected)
  | shape :: shapes, item :: items => do
    let value ← read shape item
    return value :: (← readElements expected (n + 1) shapes items)

/-- Reads the fields of a record by position, of which `n` were read before. -/
def readFields (expected : String) (n : Nat) :
    List (String × Shape) → List Json → Except ShapeFault (List (String × Json))
  | [], [] => .ok []
  | [], items => .error (.wrongLength (n + items.length) "fewer elements in array")
  | _ :: _, [] => .error (.wrongLength n expected)
  | (name, shape) :: fields, item :: items => do
    let value ← read shape item
    return (name, value) :: (← readFields expected (n + 1) fields items)

/-- Reads a field of an object, if the record has one of its name. -/
def readField (fields : List (String × Shape)) (name : String) (j : Json) :
    Except ShapeFault (Option (String × Json)) :=
  match fields with
  | [] => .ok none
  | (n, shape) :: rest =>
    if n = name then (read shape j).map fun value => some (name, value)
    else readField rest name j

end

end Shape

/-- A way to read values of a type; where it fails it says why. -/
abbrev Decoder (α : Type) := Json → Except String α

def Shape.decoder (shape : Shape) : Decoder Json := fun j => (shape.read j).mapError (·.message)

/-- Reads any value and keeps nothing of it. -/
def Decoder.ignored : Decoder Unit := fun _ => .ok ()

end GraphRepo

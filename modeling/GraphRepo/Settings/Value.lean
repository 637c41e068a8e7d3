import GraphRepo.Decimal.Layout
import GraphRepo.Table
import GraphRepo.Text.Escape

/-!
# Settings

The values that configuration files and the environment hold, before anybody has asked what they are
for. Settings from several places are laid over each other key by key.
-/

namespace GraphRepo

/-- The value of a setting. -/
inductive Setting
  | bool (b : Bool)
  | signed (n : Int)
  | unsigned (n : Nat)
  | float (x : Double)
  | string (s : String)
  | list (items : List Setting)
  | table (entries : List (String × Setting))
  deriving Inhabited

namespace Setting

def describe : Setting → String
  | .bool b => "bool " ++ (if b then "true" else "false")
  | .signed n => "signed int `" ++ toString n ++ "`"
  | .unsigned n => "unsigned int `" ++ toString n ++ "`"
  | .float x => "float `" ++ DoubleLayout.display.text x ++ "`"
  | .string s => "string " ++ Text.quoted s
  | .list _ => "sequence"
  | .table _ => "map"

mutual

/-- Lays a value over another: tables are joined key by key, anything else is replaced. -/
def onto (old : Setting) : Setting → Setting
  | .table entries =>
    match old with
    | .table existing => .table (entriesOnto existing entries)
    | _ => .table entries
  | new => new

def entriesOnto (existing : Table Setting) : List (String × Setting) → Table Setting
  | [] => existing
  | (key, value) :: rest =>
    let value := match existing.find? key with
      | some old => onto old value
      | none => value
    entriesOnto (existing.set key value) rest

end

end Setting

/-- Lays tables over each other, the last on top. -/
def layered (layers : List (Table Setting)) : Table Setting :=
  layers.foldl Setting.entriesOnto []

end GraphRepo

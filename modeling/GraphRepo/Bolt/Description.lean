import GraphRepo.Bolt.Value
import GraphRepo.Decimal.Layout
import GraphRepo.Text.Escape

/-!
# Bolt values described

The text that names a Bolt value in an error: its kind and all its parts.
-/

namespace GraphRepo.BoltValue

def described (kind : String) (fields : List (String × String)) : String :=
  kind ++ " \x7b " ++ ", ".intercalate (fields.map fun f => f.1 ++ ": " ++ f.2) ++ " \x7d"

def wrapped (kind value : String) : String := described kind [("value", value)]

def describeInt (n : SignedWord) : String := wrapped "BoltInteger" (toString n.val)

def describeFloat (x : Double) : String := wrapped "BoltFloat" (DoubleLayout.debug.text x)

def describeString (s : String) : String := wrapped "BoltString" (Text.quoted s)

def hex2 (b : UInt8) : List Char :=
  let ds := Nat.toDigits 16 b.toNat
  List.replicate (2 - ds.length) '0' ++ ds

def escapeByte (b : UInt8) : List Char :=
  if b = 0 then ['\\', '0']
  else if b = 9 then ['\\', 't']
  else if b = 10 then ['\\', 'n']
  else if b = 13 then ['\\', 'r']
  else if b = 34 then ['\\', '\x22']
  else if b = 92 then ['\\', '\\']
  else if 32 ≤ b ∧ b < 127 then [Char.ofNat b.toNat]
  else '\\' :: 'x' :: hex2 b

def describeBytes (data : List UInt8) : String :=
  wrapped "BoltBytes" (String.ofList ('b' :: '\x22' :: data.flatMap escapeByte ++ ['\x22']))

def describeList (items : List String) : String :=
  wrapped "BoltList" ("[" ++ ", ".intercalate items ++ "]")

def describeMap (entries : List (String × String)) : String :=
  wrapped "BoltMap"
    ("\x7b" ++ ", ".intercalate (entries.map fun e => describeString e.1 ++ ": " ++ e.2) ++ "\x7d")

mutual

def describe : BoltValue → String
  | .null => "Null(BoltNull)"
  | .bool b => "Boolean(" ++ wrapped "BoltBoolean" (if b then "true" else "false") ++ ")"
  | .int n => "Integer(" ++ describeInt n ++ ")"
  | .float x => "Float(" ++ describeFloat x ++ ")"
  | .string s => "String(" ++ describeString s ++ ")"
  | .list items => "List(" ++ describeList (describeItems items) ++ ")"
  | .map entries => "Map(" ++ describeMap (describeEntries entries) ++ ")"
  | .node id labels properties =>
    "Node(" ++ described "BoltNode" [("id", describeInt id),
      ("labels", describeList (describeItems labels)),
      ("properties", describeMap (describeEntries properties))] ++ ")"
  | .relation id start finish type properties =>
    "Relation(" ++ described "BoltRelation" [("id", describeInt id),
      ("start_node_id", describeInt start), ("end_node_id", describeInt finish),
      ("typ", describeString type),
      ("properties", describeMap (describeEntries properties))] ++ ")"
  | .unboundRelation id type properties =>
    "UnboundedRelation(" ++ described "BoltUnboundedRelation" [("id", describeInt id),
      ("typ", describeString type),
      ("properties", describeMap (describeEntries properties))] ++ ")"
  | .bytes data => "Bytes(" ++ describeBytes data ++ ")"
  | .point2d srid x y =>
    "Point2D(" ++ described "BoltPoint2D" [("sr_id", describeInt srid), ("x", describeFloat x),
      ("y", describeFloat y)] ++ ")"
  | .point3d srid x y z =>
    "Point3D(" ++ described "BoltPoint3D" [("sr_id", describeInt srid), ("x", describeFloat x),
      ("y", describeFloat y), ("z", describeFloat z)] ++ ")"
  | .duration months days seconds nanoseconds =>
    "Duration(" ++ described "BoltDuration" [("months", describeInt months),
      ("days", describeInt days), ("seconds", describeInt seconds),
      ("nanoseconds", describeInt nanoseconds)] ++ ")"
  | .date days => "Date(" ++ described "BoltDate" [("days", describeInt days)] ++ ")"
  | .time nanoseconds offset =>
    "Time(" ++ described "BoltTime" [("nanoseconds", describeInt nanoseconds),
      ("tz_offset_seconds", describeInt offset)] ++ ")"
  | .localTime nanoseconds =>
    "LocalTime(" ++ described "BoltLocalTime" [("nanoseconds", describeInt nanoseconds)] ++ ")"
  | .dateTime seconds nanoseconds offset =>
    "DateTime(" ++ described "BoltDateTime" [("seconds", describeInt seconds),
      ("nanoseconds", describeInt nanoseconds), ("tz_offset_seconds", describeInt offset)] ++ ")"
  | .localDateTime seconds nanoseconds =>
    "LocalDateTime(" ++ described "BoltLocalDateTime" [("seconds", describeInt seconds),
      ("nanoseconds", describeInt nanoseconds)] ++ ")"
  | .dateTimeZone seconds nanoseconds zone =>
    "DateTimeZoneId(" ++ described "BoltDateTimeZoneId" [("seconds", describeInt seconds),
      ("nanoseconds", describeInt nanoseconds), ("tz_id", describeString zone)] ++ ")"
  | .path nodes relations indices =>
    "Path(" ++ described "BoltPath" [("nodes", describeList (describeItems nodes)),
      ("rels", describeList (describeItems relations)),
      ("indices", describeList (describeItems indices))] ++ ")"

def describeItems : List BoltValue → List String
  | [] => []
  | v :: rest => describe v :: describeItems rest

def describeEntries : List (String × BoltValue) → List (String × String)
  | [] => []
  | (key, v) :: rest => (key, describe v) :: describeEntries rest

end

end GraphRepo.BoltValue

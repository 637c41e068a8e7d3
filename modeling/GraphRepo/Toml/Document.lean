import GraphRepo.Toml.Node
import GraphRepo.Toml.Scalar

/-!
# TOML documents

Keys and values line by line, under headers of tables. A document that is not well-formed as a whole
has no settings.
-/

namespace GraphRepo.Toml

open Text Text.Reader

/-- How many lists and tables there may be one in another, and parts in a key. -/
def depthLimit : Nat := 79

/-! ## Keys -/

def isKeyChar (c : Char) : Bool := c.isAlphanum || c = '_' || c = '-'

def keyPart : Reader String :=
  lineString '\x22' <|> lineString '\x27' <|> do return String.ofList (← takeSome isKeyChar)

/-- The parts of a key, with points between them; `fuel` bounds their number. -/
def keyParts : Nat → Reader (List String)
  | 0 => failure
  | fuel + 1 => do
    skipBlanks
    let part ← keyPart
    skipBlanks
    if ← takes ['.'] then return part :: (← keyParts fuel) else return [part]

/-- A key: the parts on the way, and the last. -/
def key : Reader (List String × String) := do
  let parts ← keyParts depthLimit
  match parts.getLast? with
  | some last => return (parts.dropLast, last)
  | none => failure

/-! ## Values -/

/-- A comment, up to the end of its line. -/
def comment : Reader Unit := do
  exactly ['#']
  discard (takeWhile isPlain)

/-- White space, ends of lines and comments; `fuel` bounds the lines. -/
def skipGap : Nat → Reader Unit
  | 0 => return ()
  | fuel + 1 => do
    skipBlanks
    (do
      comment <|> pure ()
      newline
      skipGap fuel) <|> pure ()

def inlineTable (pairs : List ((List String × String) × Setting)) : Option Setting := do
  let entries ← pairs.foldlM
    (fun entries ((path, name), v) => addValue path name v .stated entries) []
  return .table (settingsOf entries)

/-- Parts of one kind with commas between them, and what stands around each; `trailing` says
whether a comma may follow the last. `fuel` bounds their number. -/
def separated {α : Type} (part : Reader α) (gap : Reader Unit) (trailing : Bool) :
    Nat → Reader (List α)
  | 0 => failure
  | fuel + 1 => do
    gap
    let a ← part
    gap
    if ← takes [','] then
      (do return a :: (← separated part gap trailing fuel)) <|> (do
        if !trailing then failure
        gap
        return [a])
    else return [a]

/-- A value that is no list and no table. -/
def flatValue : Reader Setting := do
  match ← peek with
  | some '\x22' | some '\x27' => return .string (← stringValue)
  | _ => scalarValue

/-- A value, in which at most `depth` lists and tables are one in another. -/
def value : Nat → Reader Setting
  | 0 => flatValue
  | depth + 1 => do
    match ← peek with
    | some '[' =>
      discard char
      let gap := do skipGap ((← left) + 1)
      let items ← separated (value depth) gap true ((← left) + 1) <|> (do gap; return [])
      exactly [']']
      return .list items
    | some '\x7b' =>
      discard char
      let pair := do
        let k ← key
        exactly ['=']
        skipBlanks
        return (k, ← value depth)
      let pairs ← separated pair skipBlanks false ((← left) + 1) <|> (do skipBlanks; return [])
      exactly ['\x7d']
      match inlineTable pairs with
      | some v => return v
      | none => failure
    | _ => flatValue

/-! ## Lines -/

/-- A document up to some line: what it holds, and the table that keys go to. -/
structure Draft where
  entries : Table Node
  current : List String

def lineEnd : Reader Unit := do
  skipBlanks
  comment <|> pure ()
  newline <|> do if (← peek).isSome then failure

/-- A header of a table, or of an element of a list of tables. -/
def header (draft : Draft) : Reader Draft := do
  exactly ['[']
  let element ← takes ['[']
  let (path, name) ← key
  exactly (if element then [']', ']'] else [']'])
  let step := if element then addElement path name else stateTable path name
  match step .stated draft.entries with
  | some entries => return ⟨entries, path ++ [name]⟩
  | none => failure

def keyValue (draft : Draft) : Reader Draft := do
  let (path, name) ← key
  exactly ['=']
  skipBlanks
  let v ← value depthLimit
  match edit false (addValue path name v) draft.current .stated draft.entries with
  | some entries => return { draft with entries }
  | none => failure

/-- The lines of a document; `fuel` bounds their number. -/
def lines : Nat → Draft → Reader Draft
  | 0, _ => failure
  | fuel + 1, draft => do
    skipBlanks
    match ← peek with
    | none => return draft
    | some '[' =>
      let draft ← header draft
      lineEnd
      lines fuel draft
    | some c =>
      let draft ← if c = '#' ∨ c = '\n' ∨ c = '\r' then pure draft else keyValue draft
      lineEnd
      lines fuel draft

def parse? (text : String) : Option (Table Setting) := do
  let cs := match text.toList with
    | '\ufeff' :: cs => cs
    | cs => cs
  let draft ← (lines (cs.length + 2) ⟨[], []⟩).whole? cs
  return settingsOf draft.entries

end GraphRepo.Toml

import GraphRepo.Settings.Value

/-!
# TOML documents in the making

A document grows by headers and by keys. What may be added to a table depends on how the table came
about: a table that has had its header gets no second one, and a dotted key only adds to tables that
dotted keys made.
-/

namespace GraphRepo.Toml

/-- How a table came about. -/
inductive Origin
  /-- By a header of its own, or as the document. -/
  | stated
  /-- By a header of a table inside it. -/
  | implied
  /-- By a dotted key. -/
  | dotted
  deriving DecidableEq, Repr

/-- What a key stands for. -/
inductive Node
  | value (v : Setting)
  | table (origin : Origin) (entries : List (String × Node))
  /-- The elements of a list of tables, which headers add. -/
  | tables (elements : List (List (String × Node)))

/-- Edits the table at the end of a path and makes the tables on the way that are missing. Of a list
of tables it is the last that is entered. A dotted path does not enter a stated table. -/
def edit (dotted : Bool) (change : Origin → Table Node → Option (Table Node)) :
    List String → Origin → Table Node → Option (Table Node)
  | [], origin, entries => change origin entries
  | key :: path, _, entries =>
    match entries.find? key with
    | none =>
      let origin := if dotted then .dotted else .implied
      (edit dotted change path origin []).map fun inner => entries.set key (.table origin inner)
    | some (.value _) => none
    | some (.tables elements) => do
      let last ← elements.getLast?
      let inner ← edit dotted change path .stated last
      return entries.set key (.tables (elements.dropLast ++ [inner]))
    | some (.table origin inner) =>
      if dotted ∧ origin = .stated then none
      else (edit dotted change path origin inner).map fun inner =>
        entries.set key (.table origin inner)

/-- Adds a value under a key at the end of a dotted path. The key has to be new. -/
def addValue (path : List String) (key : String) (v : Setting) :
    Origin → Table Node → Option (Table Node) :=
  edit true (fun origin entries =>
    if (!path.isEmpty ∧ origin ≠ .dotted) ∨ entries.has key then none
    else some (entries.set key (.value v))) path

def stateTable (path : List String) (key : String) : Origin → Table Node → Option (Table Node) :=
  edit false (fun _ entries =>
    match entries.find? key with
    | none => some (entries.set key (.table .stated []))
    | some (.table .implied inner) => some (entries.set key (.table .stated inner))
    | _ => none) path

def addElement (path : List String) (key : String) : Origin → Table Node → Option (Table Node) :=
  edit false (fun _ entries =>
    match entries.find? key with
    | none => some (entries.set key (.tables [[]]))
    | some (.tables elements) => some (entries.set key (.tables (elements ++ [[]])))
    | _ => none) path

mutual

def Node.setting : Node → Setting
  | .value v => v
  | .table _ entries => .table (settingsOf entries)
  | .tables elements => .list (elementsOf elements)

def settingsOf : List (String × Node) → List (String × Setting)
  | [] => []
  | (key, node) :: rest => (key, node.setting) :: settingsOf rest

def elementsOf : List (List (String × Node)) → List Setting
  | [] => []
  | entries :: rest => .table (settingsOf entries) :: elementsOf rest

end

end GraphRepo.Toml

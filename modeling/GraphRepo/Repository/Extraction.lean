import GraphRepo.Repository.Marker

/-!
# Reading a declaration from a trait

A trait is checked as a whole first. Then each member answers for itself: with a method to
implement, with nothing, or with its defects. The defects of all members make up the answer if there
are any.
-/

namespace GraphRepo

open Source

/-! ## Methods -/

/-- Prefix of the names that generated bodies declare. -/
def reservedPrefix : List Char := ['_', '_']

/-- The defect or the declaration of one input; `self` is neither. -/
def readInput (interface method : String) : Input → Except Diagnostic (Option Parameter)
  | .receiver .. => .ok none
  | .typed attributes (.name name) type =>
    if reservedPrefix.isPrefixOf name.toList then
      .error (.invalidSignature interface method SignatureFault.reserved.message)
    else match bindingKey attributes with
      | .error fault => .error (.attribute fault.message)
      | .ok bindingKey =>
        .ok (some { name, type := resolve type, passing := passing type, bindingKey })
  | .typed .. => .error (.invalidSignature interface method SignatureFault.pattern.message)

/-- Whether the first input is `&self`. -/
def takesSharedSelf (s : Signature) : Bool :=
  match s.inputs with
  | .receiver _ (some _) false _ :: _ => true
  | _ => false

/-- The declaration of a method without a body, whose markers have been read. -/
def readSignature (interface : String) (s : Signature) (markers : Markers) :
    Except (List Diagnostic) MethodDeclaration :=
  let invalid (fault : SignatureFault) : Diagnostic :=
    .invalidSignature interface s.name fault.message
  let receiver := if takesSharedSelf s then [] else [invalid .receiver]
  let async := if s.isAsync then [] else [invalid .notAsync]
  let (inputs, parameters) := partition (s.inputs.map (readInput interface s.name))
  let before := receiver ++ async ++ inputs
  match returnShape s.output, before with
  | .ok returns, [] =>
    .ok { name := s.name, signature := stripSignature s, parameters := parameters.filterMap id,
          returns, markers }
  | .ok _, faults => .error faults
  | .error fault, faults => .error (faults ++ [invalid (.returns fault)])

/-- What a member of a trait amounts to. -/
inductive Extracted
  | method (m : MethodDeclaration)
  /-- A method that keeps its own body. -/
  | passthrough (name : String)
  /-- A constant. -/
  | nothing

def Extracted.method? : Extracted → Option MethodDeclaration
  | .method m => some m
  | _ => none

/-- The name of the method that keeps its own body, if the member is one. -/
def Extracted.passthrough? : Extracted → Option String
  | .passthrough name => some name
  | _ => none

/-- What a method amounts to. A malformed marker is its only defect; a body of its own goes with no
marker. -/
def readMethod (interface : String) (m : Method) : Except (List Diagnostic) Extracted :=
  match readMarkers m.attributes with
  | .error fault => .error [.attribute fault.message]
  | .ok markers =>
    match m.body with
    | some _ =>
      if markers.isEmpty then .ok (.passthrough m.signature.name)
      else .error
        [.invalidSignature interface m.signature.name SignatureFault.markedDefault.message]
    | none => .method <$> readSignature interface m.signature markers

def readMember (interface : String) : Member → Except (List Diagnostic) Extracted
  | .method m => readMethod interface m
  | .constant true _ => .ok .nothing
  | _ => .error [.unavailable interface TraitFault.member.message]

/-! ## Traits -/

def boundSegments (bounds : List Bound) : List Segment :=
  bounds.filterMap fun
    | .trait _ _ path => some path.last
    | _ => none

/-- The entity and identifier types that a trait gives to the base trait. -/
def baseArguments (t : Trait) : Except TraitFault (Ty × Ty) :=
  match (boundSegments t.bounds).find? (·.name == baseTrait) with
  | some (.angled name turbofish args trailing) =>
    match (Segment.angled name turbofish args trailing).typeArguments with
    | [entity, id] => .ok (entity, id)
    | types => .error (.baseArguments types.length)
  | _ => .error (.noBase t.name)

def readMembers (interface : String) (members : List Member) :
    Except (List Diagnostic) (List Extracted) :=
  together (members.map (readMember interface))

/-- The declaration that a trait is. -/
def readTrait (t : Trait) (modulePath : Option String) :
    Except (List Diagnostic) Declaration :=
  if !t.generics.entries.isEmpty then .error [.unavailable t.name TraitFault.generic.message]
  else match baseArguments t with
    | .error fault => .error [.unavailable t.name fault.message]
    | .ok (entity, id) =>
      match readMembers t.name t.members with
      | .error errors => .error errors
      | .ok found =>
        .ok { name := t.name, modulePath, visibility := t.visibility, entity, id,
              methods := found.filterMap Extracted.method?,
              passthrough := found.filterMap Extracted.passthrough? }

/-- What an item is called that is no trait. -/
def otherName : Item → String
  | .trait t => t.name
  | .module _ name _ _ => name
  | .named name _ => name
  | .implementation _ => "impl block"
  | .other _ => "item"

/-- The declaration that an item is; only traits are any. -/
def extract (item : Item) (modulePath : Option String) : Except (List Diagnostic) Declaration :=
  match item with
  | .trait t => readTrait t modulePath
  | item => .error [.unavailable (otherName item) TraitFault.notTrait.message]

end GraphRepo

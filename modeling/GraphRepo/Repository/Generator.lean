import GraphRepo.Repository.Arguments
import GraphRepo.Repository.CleanTrait
import GraphRepo.Repository.Extraction
import GraphRepo.Repository.GeneratedUnit
import GraphRepo.Source.Reading

/-!
# The generator

From an item to its unit or its diagnostics, and the expansion of the attribute in place. Nothing is
kept from one item to the next.
-/

namespace GraphRepo

open Source

/-- Where generated code finds the runtime crate if nothing else is said. -/
def defaultRuntime : String := "::neorepo"

/-- What a generator is set to. -/
structure Generator where
  /-- The path of the runtime crate. -/
  runtime : Path
  /-- The module of traits whose own module is not known. -/
  moduleName : Option String

def Generator.ofText (runtime : String) (moduleName : Option String) :
    Except Diagnostic Generator :=
  match readPath? runtime with
  | some path => .ok ⟨path, moduleName⟩
  | none => .error (.invalidRuntime runtime)

/-- Why there is no unit for an item. -/
inductive GenerationFault
  | diagnostics (all : List Diagnostic)
  | abort (a : Abort)

namespace Generator

variable (g : Generator)

/-- The unit for an item. -/
def generate (item : Item) (modulePath : Option String) :
    Except GenerationFault GeneratedUnit :=
  match extract item (modulePath.orElse fun _ => g.moduleName) with
  | .error faults => .error (.diagnostics faults)
  | .ok d =>
    match classifyAll d with
    | .error faults => .error (.diagnostics faults)
    | .ok classified =>
      match assemble g.runtime.tokens d classified with
      | .error fault => .error (.abort ⟨fault.message⟩)
      | .ok unit => .ok unit

/-- The item as it stays: a trait without the generator's attributes, any other item as it is. -/
def cleaned : Item → Except Abort Tokens
  | .trait t => (cleanTrait t g.runtime).map Trait.tokens
  | item => .ok item.tokens

/-- The cleaned item with its implementation behind it, or with the diagnostics. The implementation
is left out if it comes from a file. -/
def expandItem (item : Item) (external : Bool) : Except Abort Tokens := do
  let kept ← g.cleaned item
  match g.generate item none with
  | .ok unit => return if external then kept else kept ++ unit.tokens
  | .error (.diagnostics faults) => return kept ++ compileErrors faults
  | .error (.abort a) => throw a

end Generator

/-- What the expansion of the attribute comes to. -/
inductive Expansion
  | tokens (ts : Tokens)
  /-- The item's tokens are no item; they stay, with an error behind them whose message is that of
  whoever reads items. -/
  | noItem (ts : Tokens)

/-- The expansion of the attribute with some arguments on some item. -/
def expand (arguments item : Tokens) : Except Abort Expansion :=
  match Arguments.ofTokens arguments with
  | .error fault => .ok (.tokens (item ++ compileError fault.message))
  | .ok args =>
    match itemOfTokens? item with
    | none => .ok (.noItem item)
    | some parsed =>
      match Generator.ofText (args.runtime.getD defaultRuntime) none with
      | .error fault => .ok (.tokens (parsed.tokens ++ compileError fault.message))
      | .ok g => (g.expandItem parsed args.external).map .tokens

end GraphRepo

import Mathlib
import GraphRepo.Proofs.Repository.Accepted
import GraphRepo.Repository.Generator

/-!
# Plans of units

Everything about a unit but the path of the runtime crate and the module is known from the trait by
itself. So a generator first plans a unit, or finds out why there is none, and then puts it together.
-/

namespace GraphRepo

open Source

/-- What is known of a trait before its unit is put together. -/
structure Plan where
  declaration : Declaration
  classified : List Classified
  factory : String

def planOf (t : Trait) : Except GenerationFault Plan :=
  match readTrait t none with
  | .error faults => .error (.diagnostics faults)
  | .ok d =>
    match classifyAll d with
    | .error faults => .error (.diagnostics faults)
    | .ok cs =>
      match d.factoryName with
      | .error fault => .error (.abort ⟨fault.message⟩)
      | .ok factory => .ok ⟨d, cs, factory⟩

theorem planOf_eq_ok {t : Trait} {p : Plan} :
    planOf t = .ok p ↔ readTrait t none = .ok p.declaration ∧
      classifyAll p.declaration = .ok p.classified ∧ p.declaration.factoryName = .ok p.factory := by
  constructor
  · intro h
    rw [planOf] at h
    cases hread : readTrait t none with
    | error faults => rw [hread] at h; cases h
    | ok d =>
      cases hclassify : classifyAll d with
      | error faults => simp only [hread, hclassify] at h; cases h
      | ok cs =>
        cases hfactory : d.factoryName with
        | error fault => simp only [hread, hclassify, hfactory] at h; cases h
        | ok factory =>
          simp only [hread, hclassify, hfactory] at h
          cases h
          exact ⟨rfl, hclassify, hfactory⟩
  · rintro ⟨hread, hclassify, hfactory⟩
    simp only [planOf, hread, hclassify, hfactory]

theorem planOf_attributes (t : Trait) (attributes : List Attribute) :
    planOf { t with attributes } = planOf t := rfl

namespace Plan

def assembly (p : Plan) (runtime : Tokens) : Assembly :=
  ⟨runtime, p.declaration, p.factory,
    p.classified.map (Classified.tokens runtime p.declaration.name)⟩

def unit (p : Plan) (runtime : Tokens) (modulePath : Option String) : GeneratedUnit :=
  let d : Declaration := { p.declaration with modulePath }
  { moduleName := modulePath.getD "self", interface := d.qualifiedName, implName := d.implName,
    fileName := d.fileName, methods := (p.assembly runtime).methods, factory := p.factory,
    returns := d.name, tokens := (p.assembly runtime).tokens }

end Plan

/-! ## Generating by a plan -/

theorem readTrait_modulePath (t : Trait) (modulePath : Option String) :
    readTrait t modulePath = (readTrait t none).map fun d => { d with modulePath } := by
  unfold readTrait
  split
  · rfl
  · cases baseArguments t with
    | error fault => rfl
    | ok base =>
      dsimp only
      cases readMembers t.name t.members <;> rfl

namespace Generator

variable {g : Generator} {t : Trait} {modulePath : Option String} {unit : GeneratedUnit}

/-- **A generator puts the plan of a trait together** for its runtime crate and the module. -/
theorem generate_trait (g : Generator) (t : Trait) (modulePath : Option String) :
    g.generate (.trait t) modulePath =
      (planOf t).map fun p =>
        p.unit g.runtime.tokens (modulePath.orElse fun _ => g.moduleName) := by
  unfold generate planOf extract
  dsimp only
  rw [readTrait_modulePath]
  cases readTrait t none with
  | error faults => rfl
  | ok d =>
    dsimp only [Except.map]
    have hclassify (moved : Option String) :
        classifyAll { d with modulePath := moved } = classifyAll d := rfl
    rw [hclassify]
    cases classifyAll d with
    | error faults => rfl
    | ok cs =>
      have hfactory (moved : Option String) :
          Declaration.factoryName { d with modulePath := moved } = d.factoryName := rfl
      dsimp only
      rw [assemble, hfactory]
      cases d.factoryName <;> rfl

theorem generate_eq_ok {item : Item} :
    g.generate item modulePath = .ok unit ↔ ∃ t p, item = .trait t ∧ planOf t = .ok p ∧
      unit = p.unit g.runtime.tokens (modulePath.orElse fun _ => g.moduleName) := by
  constructor
  · intro h
    cases item with
    | trait t =>
      rw [generate_trait] at h
      obtain ⟨p, hp, rfl⟩ := map_eq_ok.1 h
      exact ⟨t, p, rfl, hp, rfl⟩
    | _ => cases h
  · rintro ⟨t, p, rfl, hp, rfl⟩
    rw [generate_trait, hp]
    rfl

end Generator

/-- The trait of users with the one method `greet`. -/
def greetTrait : Trait := queryTrait "\x22RETURN $name\x22" greet.method.signature

theorem planOf_greet :
    planOf greetTrait = .ok ⟨queryDeclaration greet.method, [greet], "users"⟩ := by
  have haccepted : Accepted (.trait greetTrait) none (queryDeclaration greet.method) greet :=
    accepted_greet
  have hclassify : classifyAll (queryDeclaration greet.method) = .ok [greet] := by cbv
  have hfactory : (queryDeclaration greet.method).factoryName = .ok "users" := by cbv
  exact planOf_eq_ok.2 ⟨haccepted.extracted, hclassify, hfactory⟩

/-- `trait … : NeoRepository<User, String> {}` with a name and some attributes. -/
def bareTrait (name : String) (attributes : List Attribute) : Trait :=
  { greetTrait with attributes, name, members := [] }

def barePlan (name factory : String) : Plan :=
  ⟨⟨name, none, [], plainType "User", plainType "String", [], []⟩, [], factory⟩

theorem planOf_bareTrait {name factory : String} (attributes : List Attribute)
    (h : identifier (snake name) = .ok factory) :
    planOf (bareTrait name attributes) = .ok (barePlan name factory) := by
  have hread : readTrait (bareTrait name attributes) none =
      .ok (barePlan name factory).declaration := by cbv
  exact planOf_eq_ok.2 ⟨hread, rfl, h⟩

theorem Generator.generate_bareTrait {g : Generator} {name factory : String}
    (attributes : List Attribute) (h : identifier (snake name) = .ok factory)
    (modulePath : Option String) :
    g.generate (.trait (bareTrait name attributes)) modulePath =
      .ok ((barePlan name factory).unit g.runtime.tokens
        (modulePath.orElse fun _ => g.moduleName)) := by
  rw [generate_trait, planOf_bareTrait attributes h]
  rfl

theorem identifier_snake_r : identifier (snake "R") = .ok "r" := by cbv

end GraphRepo

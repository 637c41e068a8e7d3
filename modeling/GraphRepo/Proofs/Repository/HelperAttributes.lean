import Mathlib
import GraphRepo.Proofs.Repository.Cleaned
import GraphRepo.Proofs.Repository.Defects

/-!
# The generator's attributes on methods

The four attributes that the generator reads on methods and their inputs mean nothing to anybody
else. Each is taken away only from where it is read: `#[query]`, `#[insert]` and `#[update]` from
methods, `#[param]` from parameters. One that stands elsewhere is neither reported nor taken away,
and the method that is generated repeats it on its inputs.
-/

namespace GraphRepo

open Source

/-- Whether an attribute is one that the generator reads on methods or their inputs. -/
def isHelper (a : Attribute) : Bool := isMarker a || isParamMarker a

def Source.Input.helpers : Input → List Attribute
  | .receiver attributes .. => attributes.filter isHelper
  | .typed attributes .. => attributes.filter isHelper

def Source.Signature.helpers (s : Signature) : List Attribute := s.inputs.flatMap Input.helpers

/-- The generator's attributes on a method and its inputs. -/
def Source.Method.helpers (m : Method) : List Attribute :=
  m.attributes.filter isHelper ++ m.signature.helpers

def Source.Input.misplaced : Input → List Attribute
  | .receiver attributes .. => attributes.filter isHelper
  | .typed attributes .. => attributes.filter isMarker

def Source.Signature.misplaced (s : Signature) : List Attribute := s.inputs.flatMap Input.misplaced

/-- Those of them that stand where the generator does not read them: `#[param]` on the method, one
of the others on a parameter, any of them on `self`. -/
def Source.Method.misplaced (m : Method) : List Attribute :=
  m.attributes.filter isParamMarker ++ m.signature.misplaced

def Source.Trait.methods (t : Trait) : List Method := t.members.filterMap Member.method?

/-! ## What is taken away -/

theorem isNamed_iff {name : String} {a : Attribute} :
    a.isNamed name ↔ a.path.leading = false ∧ a.path.names = [name] := by
  obtain ⟨inner, ⟨leading, names⟩, payload⟩ := a
  have hsame : Attribute.isNamed name ⟨inner, ⟨leading, names⟩, payload⟩ =
      (leading == false && names == [name]) := rfl
  simp [hsame]

theorem isParamMarker_of_isMarker {a : Attribute} (h : isMarker a) : isParamMarker a = false := by
  refine Bool.eq_false_iff.2 fun hparam => ?_
  obtain ⟨-, hnames⟩ := isNamed_iff.1 hparam
  simp only [isMarker, Bool.or_eq_true, isNamed_iff, hnames] at h
  simp at h

theorem helper_not_marker (a : Attribute) : (isHelper a && !isMarker a) = isParamMarker a := by
  unfold isHelper
  by_cases hmarker : isMarker a
  · simp [hmarker, isParamMarker_of_isMarker hmarker]
  · simp [hmarker]

theorem helper_not_param (a : Attribute) : (isHelper a && !isParamMarker a) = isMarker a := by
  unfold isHelper
  by_cases hmarker : isMarker a
  · simp [hmarker, isParamMarker_of_isMarker hmarker]
  · simp [hmarker]

theorem helpers_stripInput (input : Input) : (stripInput input).helpers = input.misplaced := by
  cases input with
  | receiver attributes reference mutable type => rfl
  | typed attributes pattern type =>
    unfold stripInput Input.helpers Input.misplaced
    simp only [List.filter_filter, helper_not_param]

theorem helpers_stripSignature (s : Signature) : (stripSignature s).helpers = s.misplaced := by
  unfold Signature.helpers Signature.misplaced stripSignature
  rw [List.flatMap_map]
  simp only [helpers_stripInput]

theorem helpers_stripMethod (m : Method) : (stripMethod m).helpers = m.misplaced := by
  unfold Method.helpers Method.misplaced
  rw [show (stripMethod m).signature = stripSignature m.signature from rfl, helpers_stripSignature]
  congr 1
  unfold stripMethod
  simp only [List.filter_filter, helper_not_marker]

theorem methods_of_cleanTrait {t u : Trait} {runtime : Path} (h : cleanTrait t runtime = .ok u) :
    u.methods = t.methods.map stripMethod := by
  unfold Trait.methods
  rw [cleanTrait_members h, List.filterMap_map, List.map_filterMap]
  refine List.filterMap_congr fun member _ => ?_
  cases member <;> rfl

/-! ## What is left -/

/-- **Of the generator's attributes in an accepted trait the misplaced ones are left.** On each method
of the trait that stays they are those which were misplaced on it. Each method without a body is
emitted with the signature that stays, so on its inputs too those are left which were misplaced
there. -/
theorem helpers_of_generate {g : Generator} {item : Item} {modulePath : Option String}
    {unit : GeneratedUnit} (h : g.generate item modulePath = .ok unit) :
    ∃ t, item = .trait t ∧
      (∀ cleaned, cleanTrait t g.runtime = .ok cleaned →
        cleaned.methods.map Method.helpers = t.methods.map Method.misplaced) ∧
      List.Forall₂ (fun m ts => ∃ body, ts = (stripSignature m.signature).tokens ++ braces body ∧
          (stripSignature m.signature).helpers = m.signature.misplaced)
        (t.members.filterMap Member.bodiless?) unit.methods := by
  obtain ⟨t, p, rfl, hplan, rfl⟩ := Generator.generate_eq_ok.1 h
  obtain ⟨hread, hclassify, -⟩ := planOf_eq_ok.1 hplan
  refine ⟨t, rfl, fun cleaned hcleaned => ?_, ?_⟩
  · rw [methods_of_cleanTrait hcleaned, List.map_map]
    exact List.map_congr_left fun m _ => helpers_stripMethod m
  · have hmethods := classifyAll_methods hclassify
    obtain ⟨-, entity, id, found, -, hmembers, hd⟩ := readTrait_eq_ok hread
    have hdeclared := methods_of_read hmembers
    rw [hd] at hmethods
    dsimp only at hmethods
    rw [hmethods, List.forall₂_map_right_iff] at hdeclared
    unfold Plan.unit Plan.assembly
    rw [List.forall₂_map_right_iff]
    refine hdeclared.imp fun m c hm => ?_
    exact ⟨_, by rw [← hm.signature]; rfl, helpers_stripSignature m.signature⟩

/-- `#[param("…")]`, with the key as it is written. -/
def keyAttribute (literal : String) : Attribute :=
  ⟨false, ⟨false, ["param"]⟩, .list .paren [.literal literal]⟩

/-- `async fn greet(&self, name: String) -> Result<User>` with some attributes on its inputs. -/
def greetSignature (onSelf onName : List Attribute) : Signature :=
  { greet.method.signature with
    inputs := [.receiver onSelf (some none) false none,
      .typed onName (.name "name") (plainType "String")] }

/-- `greet` with a key on its parameter, and some attributes on `self`. -/
def keyedTrait (onSelf : List Attribute) : Trait :=
  queryTrait "\x22RETURN $who\x22" (greetSignature onSelf [keyAttribute "\x22who\x22"])

def keyedMethod (onSelf : List Attribute) : MethodDeclaration :=
  { greet.method with
    signature := greetSignature onSelf []
    parameters := [⟨"name", ⟨"String", plainType "String", false, []⟩, .owned, some "who"⟩]
    markers := ⟨some "RETURN $who", false, false⟩ }

theorem planOf_keyed (onSelf : List Attribute) :
    planOf (keyedTrait onSelf) = .ok ⟨queryDeclaration (keyedMethod onSelf),
      [⟨keyedMethod onSelf, .query "RETURN $who"⟩], "users"⟩ := by
  have hclassify : classifyAll (queryDeclaration (keyedMethod onSelf)) =
      .ok [⟨keyedMethod onSelf, .query "RETURN $who"⟩] := by cbv
  have hfactory : (queryDeclaration (keyedMethod onSelf)).factoryName = .ok "users" := by cbv
  exact planOf_eq_ok.2 ⟨rfl, hclassify, hfactory⟩

theorem generate_keyed (onSelf : List Attribute) (runtime : Path) :
    ∃ unit body,
      (⟨runtime, none⟩ : Generator).generate (.trait (keyedTrait onSelf)) none = .ok unit ∧
      unit.methods = [(greetSignature onSelf []).tokens ++ braces body] :=
  ⟨_, _, Generator.generate_eq_ok.2 ⟨_, _, rfl, planOf_keyed onSelf, rfl⟩, rfl⟩

theorem cleanTrait_keyed (onSelf : List Attribute) :
    ∃ cleaned,
      cleanTrait (keyedTrait onSelf) (.segments true [] (.plain "neorepo")) = .ok cleaned :=
  cleanTrait_isOk.2 (.inr ⟨rfl, by decide⟩)

/-- With nothing on `self`, the query and the key are gone, and no other attribute is left. -/
theorem helpers_of_generate_keyed :
    let g : Generator := ⟨.segments true [] (.plain "neorepo"), none⟩
    ∃ unit cleaned, g.generate (.trait (keyedTrait [])) none = .ok unit ∧
      cleanTrait (keyedTrait []) g.runtime = .ok cleaned ∧
      (keyedTrait []).methods.map (·.helpers.length) = [2] ∧
      cleaned.methods.map Method.helpers = [[]] ∧ unit.methods.length = 1 := by
  obtain ⟨unit, body, hunit, -⟩ := generate_keyed [] (.segments true [] (.plain "neorepo"))
  obtain ⟨cleaned, hcleaned⟩ := cleanTrait_keyed []
  obtain ⟨t, ht, hleft, hemitted⟩ := helpers_of_generate hunit
  cases ht
  exact ⟨unit, cleaned, hunit, hcleaned, by decide, hleft cleaned hcleaned,
    hemitted.length_eq.symm⟩

/-- A key on `self` is accepted. It stays on the trait, and the emitted method repeats it. -/
theorem helper_left_on_self :
    let g : Generator := ⟨.segments true [] (.plain "neorepo"), none⟩
    let key := keyAttribute "\x22key\x22"
    ∃ unit cleaned, g.generate (.trait (keyedTrait [key])) none = .ok unit ∧
      cleanTrait (keyedTrait [key]) g.runtime = .ok cleaned ∧
      cleaned.methods.map Method.helpers = [[key]] ∧
      ∃ body, unit.methods = [(greetSignature [key] []).tokens ++ braces body] ∧
        (greetSignature [key] []).tokens =
          word "async" ++ word "fn" ++ word "greet" ++
            parens (key.tokens ++ op "&" ++ word "self" ++ op "," ++
              word "name" ++ op ":" ++ word "String") ++
            op "->" ++ (appliedType "Result" (plainType "User")).tokens := by
  obtain ⟨unit, body, hunit, hmethods⟩ :=
    generate_keyed [keyAttribute "\x22key\x22"] (.segments true [] (.plain "neorepo"))
  obtain ⟨cleaned, hcleaned⟩ := cleanTrait_keyed [keyAttribute "\x22key\x22"]
  refine ⟨unit, cleaned, hunit, hcleaned, ?_, body, hmethods, rfl⟩
  rw [methods_of_cleanTrait hcleaned]
  rfl

end GraphRepo

import Mathlib
import GraphRepo.Proofs.Repository.Plan

/-!
# What an implementation defines

A trait takes two ways through the generator. It stays as it is but for the generator's attributes,
and each of its members is read, classified and emitted. The implementation fits what stays because
both ways keep the members in order and take the same attributes off the signatures.
-/

namespace GraphRepo

open Source

/-! ## Members that have to be defined -/

/-- Whether an implementation of a trait has to define the member. -/
def Source.Member.isRequired : Member → Bool
  | .method m => m.body.isNone
  | .constant hasDefault _ => !hasDefault
  | .other _ => true

/-- Whether some tokens are a method that has no body of its own, with a body. -/
def Source.Method.IsImplementedBy (m : Method) (ts : Tokens) : Prop :=
  m.body = none ∧ ∃ body, ts = m.signature.tokens ++ braces body

/-- A member that was read is a method to implement, whose signature is the one that stays, or it
need not be defined. -/
theorem readMember_eq_ok {interface : String} {member : Member} {x : Extracted}
    (h : readMember interface member = .ok x) :
    (∃ m d, stripMember member = .method m ∧ m.body = none ∧ x = .method d ∧
        m.signature = d.signature) ∨
      (stripMember member).isRequired = false ∧ x.method? = none := by
  cases member with
  | method source =>
    cases hbody : source.body with
    | some body =>
      -- A method that keeps its own body is never read as one to implement.
      refine .inr ⟨by simp [stripMember, stripMethod, Member.isRequired, hbody], ?_⟩
      cases x with
      | method d =>
        obtain ⟨m, hm, hnone, -⟩ := readMember_eq_method h
        cases hm
        rw [hbody] at hnone
        cases hnone
      | _ => rfl
    | none =>
      rw [readMember, readMethod, hbody] at h
      cases hmarkers : readMarkers source.attributes with
      | error fault => rw [hmarkers] at h; cases h
      | ok markers =>
        rw [hmarkers] at h
        obtain ⟨d, hsignature, rfl⟩ := map_eq_ok.1 h
        obtain ⟨-, -, parameters, returns, -, -, rfl⟩ := readSignature_eq_ok hsignature
        exact .inl ⟨stripMethod source, _, rfl, hbody, rfl, rfl⟩
  | constant hasDefault tokens =>
    cases hasDefault <;> cases h
    exact .inr ⟨rfl, rfl⟩
  | other tokens => cases h

/-- The members to define are the methods that were read, in order. -/
theorem required_of_readMembers {interface : String} {members : List Member}
    {found : List Extracted} (h : members.map (readMember interface) = found.map .ok) :
    ∃ ms : List Method, (members.map stripMember).filter Member.isRequired = ms.map .method ∧
      List.Forall₂ (fun m d => m.body = none ∧ m.signature = d.signature) ms
        (found.filterMap Extracted.method?) := by
  induction members generalizing found with
  | nil =>
    rw [List.map_eq_nil_iff.1 h.symm]
    exact ⟨[], rfl, .nil⟩
  | cons member members ih =>
    obtain ⟨x, found, rfl, hx, hrest⟩ := List.map_eq_cons_iff.1 h.symm
    obtain ⟨ms, hms, hsame⟩ := ih hrest.symm
    rcases readMember_eq_ok hx.symm with ⟨m, d, hm, hbody, rfl, hsignature⟩ | ⟨hfree, hnone⟩
    · have hrequired : (Member.method m).isRequired := by simp [Member.isRequired, hbody]
      refine ⟨m :: ms, ?_, .cons ⟨hbody, hsignature⟩ hsame⟩
      rw [List.map_cons, hm, List.filter_cons_of_pos hrequired, hms, List.map_cons]
    · refine ⟨ms, ?_, ?_⟩
      · rw [List.map_cons, List.filter_cons_of_neg (by simp [hfree]), hms]
      · rwa [List.filterMap_cons_none hnone]

theorem required_of_readTrait {t : Trait} {modulePath : Option String} {d : Declaration}
    (h : readTrait t modulePath = .ok d) :
    d.name = t.name ∧
      ∃ ms : List Method, (t.members.map stripMember).filter Member.isRequired = ms.map .method ∧
        List.Forall₂ (fun m d => m.body = none ∧ m.signature = d.signature) ms d.methods := by
  rcases readTrait_eq_ok h with ⟨-, entity, id, found, -, hmembers, rfl⟩
  exact ⟨rfl, required_of_readMembers hmembers⟩

/-! ## The trait that stays -/

/-- The names of segments can be those of an attribute if no segment has arguments and none is
`try`. -/
theorem attributeNames_eq_ok : ∀ {first : Bool} {segments : List Segment} {names : List String},
    attributeNames first segments = .ok names ↔
      segments.all Segment.isPlain ∧ "try" ∉ segments.map Segment.name ∧
        names = segments.map Segment.name
  | first, [], names => by simp [attributeNames, eq_comm]
  | first, .plain name :: rest, names => by
    unfold attributeNames
    by_cases hname : name = "try"
    · simp [hname, Segment.name]
    · rw [if_neg hname, map_eq_ok]
      constructor
      · rintro ⟨found, hfound, rfl⟩
        obtain ⟨hplain, htry, rfl⟩ := attributeNames_eq_ok.1 hfound
        exact ⟨hplain, List.not_mem_cons_of_ne_of_not_mem (Ne.symm hname) htry, rfl⟩
      · rintro ⟨hplain, htry, rfl⟩
        exact ⟨_, attributeNames_eq_ok.2 ⟨hplain, List.not_mem_of_not_mem_cons htry, rfl⟩, rfl⟩
  | first, .angled name turbofish args trailing :: rest, names => by
    simp [attributeNames, Segment.isPlain]
  | first, .called name tokens :: rest, names => by
    simp [attributeNames, Segment.isPlain]

/-- **When a trait can stay.** It has the attribute for asynchronous methods already, or the path of
the runtime crate can be that of an attribute. -/
theorem cleanTrait_isOk {t : Trait} {runtime : Path} :
    (∃ cleaned, cleanTrait t runtime = .ok cleaned) ↔
      (stripTrait t).attributes.any isAsyncAttribute ∨
        runtime.isPlain ∧ "try" ∉ runtime.names := by
  unfold cleanTrait
  by_cases hasync : (stripTrait t).attributes.any isAsyncAttribute
  · simp [hasync]
  · obtain ⟨leading, qualifier, last⟩ := runtime
    simp only [hasync, Bool.false_eq_true, if_false, false_or, asyncAttribute, map_eq_ok]
    simp only [attributeNames_eq_ok]
    constructor
    · rintro ⟨_, _, ⟨_, ⟨hplain, htry, _⟩, _⟩, _⟩
      exact ⟨hplain, htry⟩
    · rintro ⟨hplain, htry⟩
      exact ⟨_, _, ⟨_, ⟨hplain, htry, rfl⟩, rfl⟩, rfl⟩

theorem cleanTrait_members {t cleaned : Trait} {runtime : Path}
    (h : cleanTrait t runtime = .ok cleaned) : cleaned.members = t.members.map stripMember := by
  rw [cleanTrait] at h
  split at h
  · cases h
    rfl
  · obtain ⟨a, -, rfl⟩ := map_eq_ok.1 h
    rfl

/-! ## The methods of a unit -/

/-- **A unit defines what its trait asks for.** The trait can stay unless the path of the runtime
crate is none for an attribute. Of a trait that stays, the members to define are methods without a
body, and in their order each is emitted with its own signature and a body, and nothing else. They
make up the implementation of the trait. -/
theorem methods_of_generate {g : Generator} {item : Item} {modulePath : Option String}
    {unit : GeneratedUnit} (h : g.generate item modulePath = .ok unit) :
    ∃ t, item = .trait t ∧
      ((∃ cleaned, cleanTrait t g.runtime = .ok cleaned) ↔
        (stripTrait t).attributes.any isAsyncAttribute ∨
          g.runtime.isPlain ∧ "try" ∉ g.runtime.names) ∧
      (∀ cleaned, cleanTrait t g.runtime = .ok cleaned →
        ∃ ms : List Method, cleaned.members.filter Member.isRequired = ms.map .method ∧
          List.Forall₂ Method.IsImplementedBy ms unit.methods) ∧
      ∃ (a : Assembly) (before after : Tokens), a.runtime = g.runtime.tokens ∧
        unit.tokens =
          before ++ a.impl (some (word t.name)) unit.methods.flatten ++ after := by
  obtain ⟨t, p, rfl, hplan, rfl⟩ := Generator.generate_eq_ok.1 h
  obtain ⟨hread, hclassify, -⟩ := planOf_eq_ok.1 hplan
  obtain ⟨hname, ms, hrequired, hsame⟩ := required_of_readTrait hread
  refine ⟨t, rfl, cleanTrait_isOk, fun cleaned hcleaned => ?_, ?_⟩
  · refine ⟨ms, by rw [cleanTrait_members hcleaned, hrequired], ?_⟩
    rw [classifyAll_methods hclassify, List.forall₂_map_right_iff] at hsame
    unfold Plan.unit Plan.assembly
    rw [List.forall₂_map_right_iff]
    refine hsame.imp fun m c hm => ?_
    obtain ⟨hbody, hsignature⟩ := hm
    exact ⟨hbody, _, by rw [hsignature]; rfl⟩
  · let a := p.assembly g.runtime.tokens
    have himpl : a.implementation = a.asyncTrait ++ a.impl (some (word t.name)) a.methods.flatten := by
      rw [← hname]
      rfl
    refine ⟨a, a.implStruct ++ a.constructor ++ a.delegation ++ a.asyncTrait, a.factoryFunction,
      rfl, ?_⟩
    change a.tokens = _
    rw [Assembly.tokens, himpl, ← List.append_assoc]
    rfl

theorem generate_greet (runtime : Path) :
    ∃ unit, (⟨runtime, none⟩ : Generator).generate (.trait greetTrait) none = .ok unit :=
  ⟨_, Generator.generate_eq_ok.2 ⟨_, _, rfl, planOf_greet, rfl⟩⟩

/-- Next to `::neorepo` the trait of `greet` stays, and its only member is defined. -/
theorem methods_of_generate_greet :
    let g : Generator := ⟨.segments true [] (.plain "neorepo"), none⟩
    ∃ unit cleaned, g.generate (.trait greetTrait) none = .ok unit ∧
      cleanTrait greetTrait g.runtime = .ok cleaned ∧
      ∃ ms : List Method, cleaned.members.filter Member.isRequired = ms.map .method ∧
        ms.length = 1 ∧ List.Forall₂ Method.IsImplementedBy ms unit.methods := by
  obtain ⟨unit, hunit⟩ := generate_greet (.segments true [] (.plain "neorepo"))
  obtain ⟨t, ht, hstays, hdefined, -⟩ := methods_of_generate hunit
  cases ht
  obtain ⟨cleaned, hcleaned⟩ := hstays.2 (.inr ⟨rfl, by decide⟩)
  obtain ⟨ms, hrequired, himplemented⟩ := hdefined cleaned hcleaned
  refine ⟨unit, cleaned, hunit, hcleaned, ms, hrequired, ?_, himplemented⟩
  have hlength := congrArg List.length hrequired
  rw [cleanTrait_members hcleaned, List.length_map] at hlength
  exact hlength.symm

/-- `try` is the path of a runtime crate, for which a trait has its unit. But the trait cannot
stay. -/
theorem cleanTrait_try :
    ∃ runtime, readPath? "try" = some runtime ∧ runtime.isPlain ∧
      (∃ unit, (⟨runtime, none⟩ : Generator).generate (.trait greetTrait) none = .ok unit) ∧
      ∀ cleaned, cleanTrait greetTrait runtime ≠ .ok cleaned := by
  have hread : readPath? "try" = some (.ofName "try") := by cbv
  refine ⟨.ofName "try", hread, rfl, generate_greet _, fun cleaned h => ?_⟩
  rcases cleanTrait_isOk.1 ⟨cleaned, h⟩ with hasync | ⟨-, htry⟩
  · exact absurd hasync (by decide)
  · exact absurd htry (by decide)

end GraphRepo

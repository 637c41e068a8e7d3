import Mathlib
import GraphRepo.Proofs.Database.SaveCall
import GraphRepo.Proofs.Repository.Expansion
import GraphRepo.Proofs.Repository.FactoryName

/-!
# Where the generator aborts

What is wrong with a trait is told in diagnostics. Two steps do not answer at all when they go
wrong: the name of the factory may be no identifier, and the path of the runtime crate may be none
for an attribute. Nothing else stops the generator.
-/

namespace GraphRepo

open Source

/-! ## One item -/

variable {g : Generator} {item : Item} {t : Trait}

theorem planOf_abort_iff {a : Abort} :
    planOf t = .error (.abort a) ↔ ∃ d cs fault, readTrait t none = .ok d ∧
      classifyAll d = .ok cs ∧ identifier (snake t.name) = .error fault ∧ a = ⟨fault.message⟩ := by
  constructor
  · intro h
    rw [planOf] at h
    cases hread : readTrait t none with
    | error faults => rw [hread] at h; cases h
    | ok d =>
      have hname : d.name = t.name := (required_of_readTrait hread).1
      cases hclassify : classifyAll d with
      | error faults => simp only [hread, hclassify] at h; cases h
      | ok cs =>
        cases hfactory : d.factoryName with
        | ok factory => simp only [hread, hclassify, hfactory] at h; cases h
        | error fault =>
          simp only [hread, hclassify, hfactory] at h
          cases h
          rw [Declaration.factoryName, hname] at hfactory
          exact ⟨d, cs, fault, rfl, hclassify, hfactory, rfl⟩
  · rintro ⟨d, cs, fault, hread, hclassify, hfactory, rfl⟩
    rw [← (required_of_readTrait hread).1] at hfactory
    have hfault : d.factoryName = .error fault := hfactory
    simp only [planOf, hread, hclassify, hfault]

theorem Generator.generate_abort_iff {modulePath : Option String} {a : Abort} :
    g.generate item modulePath = .error (.abort a) ↔
      ∃ t d cs fault, item = .trait t ∧ readTrait t none = .ok d ∧ classifyAll d = .ok cs ∧
        identifier (snake t.name) = .error fault ∧ a = ⟨fault.message⟩ := by
  constructor
  · intro h
    cases item with
    | trait t =>
      rw [generate_trait, map_eq_error] at h
      obtain ⟨d, cs, fault, hplan⟩ := planOf_abort_iff.1 h
      exact ⟨t, d, cs, fault, rfl, hplan⟩
    | _ => cases h
  · rintro ⟨t, d, cs, fault, rfl, hplan⟩
    rw [generate_trait, map_eq_error]
    exact planOf_abort_iff.2 ⟨d, cs, fault, hplan⟩

theorem cleanTrait_abort_iff {runtime : Path} :
    (∃ a, cleanTrait t runtime = .error a) ↔
      ¬ (stripTrait t).attributes.any isAsyncAttribute ∧
        ¬ (runtime.isPlain ∧ "try" ∉ runtime.names) := by
  rw [← not_or, ← cleanTrait_isOk]
  cases cleanTrait t runtime <;> simp

theorem Generator.cleaned_abort_iff :
    (∃ a, g.cleaned item = .error a) ↔ ∃ t a, item = .trait t ∧ cleanTrait t g.runtime = .error a := by
  constructor
  · rintro ⟨a, h⟩
    cases item with
    | trait t => exact ⟨t, a, rfl, map_eq_error.1 h⟩
    | _ => cases h
  · rintro ⟨t, a, rfl, h⟩
    exact ⟨a, map_eq_error.2 h⟩

theorem Generator.expandItem_abort_iff {external : Bool} :
    (∃ a, g.expandItem item external = .error a) ↔
      (∃ a, g.cleaned item = .error a) ∨ ∃ a, g.generate item none = .error (.abort a) := by
  unfold expandItem
  cases g.cleaned item with
  | error a =>
    have haborts : ∃ b, (Except.error a : Except Abort Tokens) = .error b := ⟨a, rfl⟩
    exact ⟨fun _ => .inl haborts, fun _ => ⟨a, rfl⟩⟩
  | ok kept =>
    -- what is not an abort of the generator ends in tokens
    rcases g.generate item none with (faults | a) | unit
    · simp [bind, Except.bind, pure, Except.pure]
    · exact ⟨fun _ => .inr ⟨a, rfl⟩, fun _ => ⟨a, rfl⟩⟩
    · simp [bind, Except.bind, pure, Except.pure]

/-! ## The attribute -/

theorem expand_abort_iff {arguments ts : Tokens} :
    (∃ a, expand arguments ts = .error a) ↔
      ∃ args item g a, Arguments.ofTokens arguments = .ok args ∧ itemOfTokens? ts = some item ∧
        Generator.ofText (args.runtime.getD defaultRuntime) none = .ok g ∧
        g.expandItem item args.external = .error a := by
  unfold expand
  cases harguments : Arguments.ofTokens arguments with
  | error fault => simp
  | ok args =>
    cases hitem : itemOfTokens? ts with
    | none => simp
    | some item =>
      dsimp only
      cases hg : Generator.ofText (args.runtime.getD defaultRuntime) none with
      | error fault => simp [hg]
      | ok g => simp [hg, map_eq_error]

/-- **When the generator aborts.** A unit is not made exactly if the trait has no diagnostics and the
snake case of its name is no identifier; in ASCII these are the names whose first letter or digit is
not a letter. A trait does not stay exactly if the attribute for asynchronous methods cannot be
written with the path of the runtime crate. An expansion aborts where one of the two does, and a
parameter that is to be saved is always there. -/
theorem aborts_iff (g : Generator) (t : Trait) (item : Item) (modulePath : Option String)
    (external : Bool) (arguments ts : Tokens) :
    (∀ a, g.generate item modulePath = .error (.abort a) ↔
      ∃ t d cs fault, item = .trait t ∧ readTrait t none = .ok d ∧ classifyAll d = .ok cs ∧
        identifier (snake t.name) = .error fault ∧ a = ⟨fault.message⟩) ∧
    ((∀ c ∈ t.name.toList, c.toNat < 128) →
      ((∃ fault, identifier (snake t.name) = .error fault) ↔
        ¬ (t.name.toList.find? Char.isAlphanum).any Char.isAlpha)) ∧
    ((∃ a, cleanTrait t g.runtime = .error a) ↔
      ¬ (stripTrait t).attributes.any isAsyncAttribute ∧
        ¬ (g.runtime.isPlain ∧ "try" ∉ g.runtime.names)) ∧
    ((∃ a, g.expandItem item external = .error a) ↔
      (∃ t a, item = .trait t ∧ cleanTrait t g.runtime = .error a) ∨
        ∃ a, g.generate item none = .error (.abort a)) ∧
    ((∃ a, expand arguments ts = .error a) ↔
      ∃ args item g a, Arguments.ofTokens arguments = .ok args ∧ itemOfTokens? ts = some item ∧
        Generator.ofText (args.runtime.getD defaultRuntime) none = .ok g ∧
        g.expandItem item args.external = .error a) ∧
    ∀ (d : Declaration) (c : Classified), Accepted item modulePath d c →
      c.behavior = .insert ∨ c.behavior = .update → ∃ p, c.method.parameters = [p] := by
  refine ⟨fun a => Generator.generate_abort_iff, fun hname => ?_, cleanTrait_abort_iff, ?_,
    expand_abort_iff, fun d c haccepted hsave => ?_⟩
  · rw [← factoryName_ascii hname]
    cases identifier (snake t.name) <;> simp
  · rw [Generator.expandItem_abort_iff, Generator.cleaned_abort_iff]
  · obtain ⟨p, hp⟩ := haccepted.saving hsave
    exact ⟨p, hp.parameters⟩

/-- The underscore of `_1` is no part of a word, and `touch` has the one parameter that it saves. -/
theorem aborts_iff_numbered :
    (∃ fault, identifier (snake "_1") = .error fault) ∧ ∃ p, touch.method.parameters = [p] := by
  have hchars : (bareTrait "_1" []).name.toList = ['_', '1'] := rfl
  obtain ⟨-, hname, -, -, -, hsaved⟩ :=
    aborts_iff defaultGenerator (bareTrait "_1" []) (.trait touchTrait) none true [] []
  rw [hchars] at hname
  exact ⟨(hname (by simp)).2 (by decide), hsaved _ touch accepted_touch (.inr rfl)⟩

theorem itemOfTokens_numbered :
    itemOfTokens? (bareTrait "_1" []).tokens = some (.trait (bareTrait "_1" [])) := by
  set_option maxRecDepth 10000 in cbv

/-- A trait `_1` without methods stops its expansion, and so does the path `try` on any trait that has
a unit. -/
theorem expand_aborts :
    expand (word "external") (bareTrait "_1" []).tokens =
        .error ⟨"Ident cannot be a number; use Literal instead"⟩ ∧
      expand (crateArgument "try") greetTrait.tokens =
        .error ⟨"expected identifier, found keyword \x60try\x60"⟩ := by
  constructor
  · have hexternal : Arguments.ofTokens (word "external") = .ok ⟨none, true⟩ := by cbv
    have hplan : planOf (bareTrait "_1" []) =
        .error (.abort ⟨"Ident cannot be a number; use Literal instead"⟩) := by cbv
    rw [expand_eq hexternal itemOfTokens_numbered readPath_defaultRuntime]
    rw [Generator.expandItem, Generator.generate_trait, hplan]
    rfl
  · have hcrate : Arguments.ofTokens (crateArgument "try") = .ok ⟨some "try", false⟩ := by cbv
    have hpath : readPath? "try" = some (.ofName "try") := by cbv
    rw [expand_eq hcrate itemOfTokens_greet hpath]
    rfl

end GraphRepo

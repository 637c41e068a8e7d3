import Mathlib
import GraphRepo.Proofs.Repository.FileMode

/-!
# What stands behind a trait

An expansion keeps its trait and puts something behind it: the implementation, the diagnostics, or
nothing if the implementation comes from a file. All of it is known from the plan of the trait, so
the module a trait stands in leaves no trace in the code.
-/

namespace GraphRepo

open Source

/-! ## The parts of an expansion -/

def Plan.behind (runtime : Tokens) (external : Bool) :
    Except GenerationFault Plan → Except Abort Tokens
  | .ok p => .ok (if external then [] else (p.assembly runtime).tokens)
  | .error (.diagnostics faults) => .ok (compileErrors faults)
  | .error (.abort a) => .error a

/-- **A trait stays as it is cleaned, with what its plan puts behind it.** -/
theorem Generator.expandItem_eq (g : Generator) (t : Trait) (external : Bool) :
    g.expandItem (.trait t) external = (do
      let kept ← cleanTrait t g.runtime
      let behind ← Plan.behind g.runtime.tokens external (planOf t)
      return kept.tokens ++ behind) := by
  have hcleaned : g.cleaned (.trait t) = (cleanTrait t g.runtime).map Trait.tokens := rfl
  rw [expandItem, hcleaned, generate_trait]
  cases cleanTrait t g.runtime with
  | error a => rfl
  | ok kept =>
    cases planOf t with
    | ok p =>
      cases external with
      | false => rfl
      | true => exact congrArg Except.ok (List.append_nil kept.tokens).symm
    | error fault => cases fault <;> rfl

theorem expand_trait {arguments ts : Tokens} {args : Arguments} {t kept : Trait} {path : Path}
    (harguments : Arguments.ofTokens arguments = .ok args)
    (hitem : itemOfTokens? ts = some (.trait t))
    (hpath : readPath? (args.runtime.getD defaultRuntime) = some path)
    (hkept : cleanTrait t path = .ok kept) :
    expand arguments ts = (Plan.behind path.tokens args.external (planOf t)).map fun behind =>
      .tokens (kept.tokens ++ behind) := by
  rw [expand_eq harguments hitem hpath, Generator.expandItem_eq, hkept]
  cases Plan.behind path.tokens args.external (planOf t) <;> rfl

theorem readPath_defaultRuntime :
    readPath? defaultRuntime = some (.segments true [] (.plain "neorepo")) := by
  cbv

theorem exists_cleanTrait (t : Trait) :
    ∃ kept, cleanTrait t (.segments true [] (.plain "neorepo")) = .ok kept :=
  cleanTrait_isOk.2 (.inr ⟨rfl, by decide⟩)

/-! ## Both modes -/

/-- **In place and from a file the code is the same.** Next to the default runtime crate a trait that
has a unit, in whatever module, is expanded into the trait as it stays with the tokens of the unit
behind it, and with `external` into the trait alone. If there are diagnostics, both expansions have
them behind the trait. The module has no part in any of it. -/
theorem expansion_eq_unit {g : Generator} {moduleName : Option String} {t : Trait} {ts : Tokens}
    (hg : Generator.ofText defaultRuntime moduleName = .ok g)
    (hitem : itemOfTokens? ts = some (.trait t)) (modulePath : Option String) :
    ∃ kept, cleanTrait t g.runtime = .ok kept ∧
      (∀ unit, g.generate (.trait t) modulePath = .ok unit →
        expand [] ts = .ok (.tokens (kept.tokens ++ unit.tokens)) ∧
        expand (word "external") ts = .ok (.tokens kept.tokens)) ∧
      (∀ faults, g.generate (.trait t) modulePath = .error (.diagnostics faults) →
        expand [] ts = .ok (.tokens (kept.tokens ++ compileErrors faults)) ∧
        expand (word "external") ts = .ok (.tokens (kept.tokens ++ compileErrors faults))) ∧
      (∀ a, g.generate (.trait t) modulePath = .error (.abort a) →
        expand [] ts = .error a ∧ expand (word "external") ts = .error a) ∧
      ∀ (otherName otherPath : Option String),
        ((⟨g.runtime, otherName⟩ : Generator).generate (.trait t) otherPath).map
            GeneratedUnit.tokens =
          (g.generate (.trait t) modulePath).map GeneratedUnit.tokens := by
  have hpath := readPath_defaultRuntime
  let path : Path := .segments true [] (.plain "neorepo")
  have hruntime : g = ⟨path, moduleName⟩ := by
    rw [Generator.ofText, hpath] at hg
    exact (Except.ok.inj hg).symm
  subst hruntime
  obtain ⟨kept, hkept⟩ := exists_cleanTrait t
  have hnone : Arguments.ofTokens [] = .ok ⟨none, false⟩ := rfl
  have hexternal : Arguments.ofTokens (word "external") = .ok ⟨none, true⟩ := by cbv
  have hinPlace := expand_trait hnone hitem hpath hkept
  have halone := expand_trait hexternal hitem hpath hkept
  refine ⟨kept, hkept, fun unit h => ?_, fun faults h => ?_, fun a h => ?_, fun name other => ?_⟩
  · rw [Generator.generate_trait] at h
    obtain ⟨p, hplan, rfl⟩ := map_eq_ok.1 h
    rw [hinPlace, halone, hplan]
    refine ⟨rfl, ?_⟩
    exact congrArg (fun ts => Except.ok (Expansion.tokens ts)) (List.append_nil kept.tokens)
  · rw [Generator.generate_trait] at h
    rw [hinPlace, halone, map_eq_error.1 h]
    exact ⟨rfl, rfl⟩
  · rw [Generator.generate_trait] at h
    rw [hinPlace, halone, map_eq_error.1 h]
    exact ⟨rfl, rfl⟩
  · -- The plan is made from the trait alone; the module only names the file.
    rw [Generator.generate_trait, Generator.generate_trait]
    cases planOf t <;> rfl

/-- The trait of `greet` next to its unit in a module, and in place. -/
theorem expansion_eq_unit_greet :
    let g : Generator := ⟨.segments true [] (.plain "neorepo"), some "crate::store"⟩
    ∃ unit kept, Generator.ofText defaultRuntime (some "crate::store") = .ok g ∧
      g.generate (.trait greetTrait) (some "crate::users") = .ok unit ∧
      cleanTrait greetTrait g.runtime = .ok kept ∧
      expand [] greetTrait.tokens = .ok (.tokens (kept.tokens ++ unit.tokens)) ∧
      expand (word "external") greetTrait.tokens = .ok (.tokens kept.tokens) := by
  intro g
  have hg : Generator.ofText defaultRuntime (some "crate::store") = .ok g := by
    rw [Generator.ofText, readPath_defaultRuntime]
  obtain ⟨kept, hkept, hunit, -⟩ :=
    expansion_eq_unit hg itemOfTokens_greet (some "crate::users")
  obtain ⟨unit, hgenerate⟩ :
      ∃ unit, g.generate (.trait greetTrait) (some "crate::users") = .ok unit :=
    ⟨_, Generator.generate_eq_ok.2 ⟨_, _, rfl, planOf_greet, rfl⟩⟩
  exact ⟨unit, kept, hg, hgenerate, hkept, hunit unit hgenerate⟩

end GraphRepo

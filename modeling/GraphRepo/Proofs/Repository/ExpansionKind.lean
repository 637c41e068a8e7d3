import Mathlib
import GraphRepo.Proofs.Repository.ErrorForm

/-!
# Kinds of expansions

An expansion keeps the item and is of one of six kinds, by how far its arguments, its item and its
path can be read and by what the generator makes of the item. Four of the kinds are errors.
-/

namespace GraphRepo

open Source

/-- What stands behind the item: an error for what could not be read, or what the generator made. -/
inductive ExpansionKind
  | badArguments
  | noItem
  | badPath
  | refused
  | implemented
  | alone
  deriving DecidableEq

def ExpansionKind.IsError (kind : ExpansionKind) : Prop := kind ≠ .implemented ∧ kind ≠ .alone

/-- Arguments, an item and a path of the runtime crate that can be read. -/
structure Applies (arguments ts : Tokens) (args : Arguments) (item : Item) (path : Path) :
    Prop where
  arguments : Arguments.ofTokens arguments = .ok args
  item : itemOfTokens? ts = some item
  path : readPath? (args.runtime.getD defaultRuntime) = some path

/-- The expansions of each kind. Before the generator is asked an item is kept as it was given or
read, and behind it stands the one error; afterwards a trait is kept as it is cleaned, any other
item as it was read, and behind it stands one error for each diagnostic, or the unit. -/
inductive ExpandsTo (arguments ts : Tokens) : ExpansionKind → Expansion → Prop
  | badArguments {fault : ArgumentFault} (h : Arguments.ofTokens arguments = .error fault) :
      ExpandsTo arguments ts .badArguments (.tokens (ts ++ compileError fault.message))
  | noItem {args : Arguments} (harguments : Arguments.ofTokens arguments = .ok args)
      (hitem : itemOfTokens? ts = none) : ExpandsTo arguments ts .noItem (.noItem ts)
  | badPath {args : Arguments} {item : Item} (harguments : Arguments.ofTokens arguments = .ok args)
      (hitem : itemOfTokens? ts = some item)
      (hpath : readPath? (args.runtime.getD defaultRuntime) = none) :
      ExpandsTo arguments ts .badPath (.tokens (item.tokens ++
        compileError (Diagnostic.invalidRuntime (args.runtime.getD defaultRuntime)).message))
  | refused {args : Arguments} {item : Item} {path : Path} {kept : Tokens}
      {faults : List Diagnostic} (h : Applies arguments ts args item path)
      (hkept : (⟨path, none⟩ : Generator).cleaned item = .ok kept)
      (hfaults : (⟨path, none⟩ : Generator).generate item none = .error (.diagnostics faults))
      (hsome : faults ≠ []) :
      ExpandsTo arguments ts .refused
        (.tokens (kept ++ faults.flatMap fun d => compileError d.message))
  | implemented {args : Arguments} {item : Item} {path : Path} {kept : Tokens}
      {unit : GeneratedUnit} (h : Applies arguments ts args item path)
      (hkept : (⟨path, none⟩ : Generator).cleaned item = .ok kept)
      (hunit : (⟨path, none⟩ : Generator).generate item none = .ok unit)
      (hinPlace : args.external = false) :
      ExpandsTo arguments ts .implemented (.tokens (kept ++ unit.tokens))
  | alone {args : Arguments} {item : Item} {path : Path} {kept : Tokens} {unit : GeneratedUnit}
      (h : Applies arguments ts args item path)
      (hkept : (⟨path, none⟩ : Generator).cleaned item = .ok kept)
      (hunit : (⟨path, none⟩ : Generator).generate item none = .ok unit)
      (hexternal : args.external = true) : ExpandsTo arguments ts .alone (.tokens kept)

variable {arguments ts : Tokens} {kind : ExpansionKind} {x : Expansion}

/-! ## Every expansion is of a kind -/

theorem ExpandsTo.expand_eq (h : ExpandsTo arguments ts kind x) : expand arguments ts = .ok x := by
  cases h with
  | badArguments h => rw [expand, h]
  | noItem harguments hitem =>
    rw [expand, harguments]
    dsimp only
    rw [hitem]
  | badPath harguments hitem hpath =>
    rw [expand, harguments]
    dsimp only
    rw [hitem, Generator.ofText, hpath]
  | refused h hkept hfaults hsome =>
    rw [GraphRepo.expand_eq h.arguments h.item h.path, Generator.expandItem, hkept, hfaults]
    rfl
  | implemented h hkept hunit hinPlace =>
    rw [GraphRepo.expand_eq h.arguments h.item h.path, Generator.expandItem, hkept, hunit, hinPlace]
    rfl
  | alone h hkept hunit hexternal =>
    rw [GraphRepo.expand_eq h.arguments h.item h.path, Generator.expandItem, hkept, hunit,
      hexternal]
    rfl

theorem ne_nil_of_generate {g : Generator} {item : Item} {modulePath : Option String}
    {faults : List Diagnostic} (h : g.generate item modulePath = .error (.diagnostics faults)) :
    faults ≠ [] := by
  cases item with
  | trait t =>
    rw [Generator.generate_trait, map_eq_error] at h
    exact ne_nil_of_planOf h
  | _ =>
    cases h
    exact List.cons_ne_nil _ _

theorem exists_expandsTo (h : expand arguments ts = .ok x) :
    ∃ kind, ExpandsTo arguments ts kind x := by
  cases harguments : Arguments.ofTokens arguments with
  | error fault =>
    rw [expand, harguments] at h
    cases h
    exact ⟨_, .badArguments harguments⟩
  | ok args =>
    cases hitem : itemOfTokens? ts with
    | none =>
      rw [expand, harguments] at h
      dsimp only at h
      rw [hitem] at h
      cases h
      exact ⟨_, .noItem harguments hitem⟩
    | some item =>
      cases hpath : readPath? (args.runtime.getD defaultRuntime) with
      | none =>
        rw [expand, harguments] at h
        dsimp only at h
        rw [hitem, Generator.ofText, hpath] at h
        cases h
        exact ⟨_, .badPath harguments hitem hpath⟩
      | some path =>
        -- All could be read, and the generator decides.
        have happlies : Applies arguments ts args item path := ⟨harguments, hitem, hpath⟩
        rw [GraphRepo.expand_eq harguments hitem hpath] at h
        obtain ⟨tokens, htokens, rfl⟩ := map_eq_ok.1 h
        obtain ⟨kept, hkept, hbehind⟩ := bind_eq_ok.1 htokens
        rcases hgenerate : (⟨path, none⟩ : Generator).generate item none with (faults | a) | unit
        · rw [hgenerate] at hbehind
          cases hbehind
          exact ⟨_, .refused happlies hkept hgenerate (ne_nil_of_generate hgenerate)⟩
        · rw [hgenerate] at hbehind
          cases hbehind
        · rw [hgenerate] at hbehind
          cases hexternal : args.external with
          | false =>
            rw [hexternal] at hbehind
            cases hbehind
            exact ⟨_, .implemented happlies hkept hgenerate hexternal⟩
          | true =>
            rw [hexternal] at hbehind
            cases hbehind
            exact ⟨_, .alone happlies hkept hgenerate hexternal⟩

/-! ## Of one only -/

def kindOf (arguments ts : Tokens) : ExpansionKind :=
  match Arguments.ofTokens arguments with
  | .error _ => .badArguments
  | .ok args =>
    match itemOfTokens? ts with
    | none => .noItem
    | some item =>
      match readPath? (args.runtime.getD defaultRuntime) with
      | none => .badPath
      | some path =>
        match (⟨path, none⟩ : Generator).generate item none with
        | .error _ => .refused
        | .ok _ => if args.external then .alone else .implemented

theorem ExpandsTo.kind_eq (h : ExpandsTo arguments ts kind x) : kind = kindOf arguments ts := by
  cases h with
  | badArguments h => simp only [kindOf, h]
  | noItem harguments hitem => simp only [kindOf, harguments, hitem]
  | badPath harguments hitem hpath => simp only [kindOf, harguments, hitem, hpath]
  | refused h hkept hfaults hsome => simp only [kindOf, h.arguments, h.item, h.path, hfaults]
  | implemented h hkept hunit hinPlace =>
    simp [kindOf, h.arguments, h.item, h.path, hunit, hinPlace]
  | alone h hkept hunit hexternal =>
    simp [kindOf, h.arguments, h.item, h.path, hunit, hexternal]

/-! ## Errors -/

theorem ExpandsTo.isError_iff (h : ExpandsTo arguments ts kind x) :
    kind.IsError ↔ ¬∃ args item path unit, Applies arguments ts args item path ∧
      (⟨path, none⟩ : Generator).generate item none = .ok unit := by
  constructor
  · rintro ⟨himplemented, halone⟩ ⟨args, item, path, unit, happlies, hunit⟩
    have hkind := h.kind_eq
    simp only [kindOf, happlies.arguments, happlies.item, happlies.path, hunit] at hkind
    split at hkind
    · exact halone hkind
    · exact himplemented hkind
  · intro hnone
    cases h with
    | implemented h hkept hunit hinPlace => exact absurd ⟨_, _, _, _, h, hunit⟩ hnone
    | alone h hkept hunit hexternal => exact absurd ⟨_, _, _, _, h, hunit⟩ hnone
    | _ => exact ⟨by decide, by decide⟩

theorem ExpandsTo.hasError_iff (h : ExpandsTo arguments ts kind x) : x.HasError ↔ kind.IsError := by
  cases h with
  | badArguments h => exact iff_of_true ⟨_, _, rfl⟩ ⟨by decide, by decide⟩
  | noItem harguments hitem => exact iff_of_true trivial ⟨by decide, by decide⟩
  | badPath harguments hitem hpath => exact iff_of_true ⟨_, _, rfl⟩ ⟨by decide, by decide⟩
  | refused h hkept hfaults hsome =>
    exact iff_of_true (endsInError_compileErrors _ hsome) ⟨by decide, by decide⟩
  | implemented h hkept hunit hinPlace =>
    obtain ⟨t, p, rfl, hplan, rfl⟩ := Generator.generate_eq_ok.1 hunit
    exact iff_of_false (not_endsInError_assembly _ _) fun herror => herror.1 rfl
  | alone h hkept hunit hexternal =>
    obtain ⟨t, p, rfl, hplan, rfl⟩ := Generator.generate_eq_ok.1 hunit
    obtain ⟨left, hleft, rfl⟩ := map_eq_ok.1 hkept
    exact iff_of_false (not_endsInError_trait h.item hplan hleft) fun herror => herror.2 rfl

/-- **Every expansion is of exactly one kind.** It starts with the item, and what stands behind that
is nothing, the implementation, or errors, never two of these. It ends in an error exactly if not
all of the arguments, the item, the path and the trait are good. -/
theorem expansion_kind (h : expand arguments ts = .ok x) :
    ∃ kind, ExpandsTo arguments ts kind x ∧
      (∀ kind' y, ExpandsTo arguments ts kind' y → kind' = kind ∧ y = x) ∧
      (x.HasError ↔ kind.IsError) ∧
      (kind.IsError ↔ ¬∃ args item path unit, Applies arguments ts args item path ∧
        (⟨path, none⟩ : Generator).generate item none = .ok unit) := by
  obtain ⟨kind, hkind⟩ := exists_expandsTo h
  refine ⟨kind, hkind, fun kind' y hy => ⟨?_, ?_⟩, hkind.hasError_iff, hkind.isError_iff⟩
  · rw [hy.kind_eq, hkind.kind_eq]
  · exact Except.ok.inj (hy.expand_eq.symm.trans h)

/-- The trait of `greet` is expanded into itself and its implementation, without an error. -/
theorem expansion_kind_greet :
    ∃ kept unit, cleanTrait greetTrait defaultGenerator.runtime = .ok kept ∧
      defaultGenerator.generate (.trait greetTrait) none = .ok unit ∧
      expand [] greetTrait.tokens = .ok (.tokens (kept.tokens ++ unit.tokens)) ∧
      ¬EndsInError (kept.tokens ++ unit.tokens) := by
  obtain ⟨kept, hkept⟩ := exists_cleanTrait greetTrait
  obtain ⟨unit, hunit⟩ : ∃ unit, defaultGenerator.generate (.trait greetTrait) none = .ok unit :=
    ⟨_, Generator.generate_eq_ok.2 ⟨_, _, rfl, planOf_greet, rfl⟩⟩
  have happlies : Applies [] greetTrait.tokens ⟨none, false⟩ (.trait greetTrait)
      defaultGenerator.runtime := ⟨rfl, itemOfTokens_greet, readPath_defaultRuntime⟩
  have hform : ExpandsTo [] greetTrait.tokens .implemented (.tokens (kept.tokens ++ unit.tokens)) :=
    .implemented happlies (map_eq_ok.2 ⟨kept, hkept, rfl⟩) hunit rfl
  obtain ⟨kind, -, -, herror, hvalid⟩ := expansion_kind hform.expand_eq
  refine ⟨kept, unit, hkept, hunit, hform.expand_eq, fun h => ?_⟩
  exact hvalid.1 (herror.1 h) ⟨_, _, _, _, happlies, hunit⟩

end GraphRepo

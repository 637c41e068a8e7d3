import Mathlib
import GraphRepo.Proofs.Repository.Diagnosed
import GraphRepo.Proofs.Repository.Expansion
import GraphRepo.Proofs.Source.Answers

/-!
# Expansions that are errors

An expansion that reports something ends in a call of `compile_error!`. No other expansion does: an
implementation ends in a function, and a trait that stays alone ends in its members, which are never
just a literal.
-/

namespace GraphRepo

open Source

/-- The last of the tokens call `compile_error!`. -/
def EndsInError (ts : Tokens) : Prop :=
  ∃ before message, ts = before ++ compileError message

/-- An expansion with an error in it, its own or that of whoever reads items. -/
def Expansion.HasError : Expansion → Prop
  | .tokens ts => EndsInError ts
  | .noItem _ => True

def ExpandsToError (arguments item : Tokens) : Prop :=
  ∃ x, expand arguments item = .ok x ∧ x.HasError

/-! ## Errors -/

theorem endsInError_compileErrors (before : Tokens) {faults : List Diagnostic} (h : faults ≠ []) :
    EndsInError (before ++ compileErrors faults) := by
  obtain ⟨first, last, rfl⟩ := List.eq_nil_or_concat faults |>.resolve_left h
  refine ⟨before ++ compileErrors first, last.message, ?_⟩
  rw [compileErrors, List.concat_eq_append, List.flatMap_append, List.append_assoc, compileErrors]
  simp

theorem EndsInError.last_two {ts : Tokens} (h : EndsInError ts) :
    ∃ before text, ts = before ++ [.punct '!' .alone, .group .brace [.literal text]] := by
  obtain ⟨before, message, rfl⟩ := h
  unfold compileError
  exact ⟨before ++ (op "::" ++ word "core" ++ op "::" ++ word "compile_error"), _, by
    simp only [List.append_assoc]; rfl⟩

/-! ## Implementations -/

theorem not_endsInError_assembly (before : Tokens) (a : Assembly) :
    ¬EndsInError (before ++ a.tokens) := by
  intro h
  obtain ⟨before', text, heq⟩ := h.last_two
  obtain ⟨front, body, hfront⟩ : ∃ front body,
      a.tokens = front ++ [.punct '>' .alone, .group .brace body] := by
    have hend : op ">" = [.punct '>' .alone] := rfl
    unfold Assembly.tokens Assembly.factoryFunction braces
    rw [← List.append_assoc, ← List.append_assoc, hend, List.append_assoc, List.singleton_append]
    exact ⟨_, _, rfl⟩
  rw [hfront, ← List.append_assoc] at heq
  have hlast := (List.append_inj' heq rfl).2
  cases hlast

/-! ## Traits that stay alone -/

theorem mem_tokens_attribute (a : Attribute) : .punct '#' .alone ∈ a.tokens := by
  unfold Attribute.tokens
  have hmark : op "#" = [.punct '#' .alone] := rfl
  simp [hmark]

theorem exists_word_stripMember {interface : String} {m : Member} {x : Extracted}
    (h : readMember interface m = .ok x) (hconst : m.SaysConst) :
    ∃ w, .ident w ∈ (stripMember m).tokens := by
  cases m with
  | method m =>
    refine ⟨"fn", ?_⟩
    simp [stripMember, Member.tokens, Method.tokens, Signature.tokens, word]
  | constant hasDefault tokens => exact ⟨"const", hconst hasDefault tokens rfl⟩
  | other tokens => cases h

/-- What is in the braces of a trait is not just a literal. -/
theorem body_ne_literal {members : List Member} (attributes : List Attribute) (text : String)
    (hwords : ∀ m ∈ members, ∃ w, .ident w ∈ m.tokens) :
    Attribute.innerTokens attributes ++ members.flatMap Member.tokens ≠ [.literal text] := by
  intro hbody
  have honly : ∀ token ∈ Attribute.innerTokens attributes ++ members.flatMap Member.tokens,
      token = .literal text := by
    rw [hbody]
    exact fun token => List.mem_singleton.1
  cases members with
  | cons m rest =>
    obtain ⟨w, hw⟩ := hwords m List.mem_cons_self
    cases honly _ (List.mem_append_right _ (List.mem_flatMap.2 ⟨m, List.mem_cons_self, hw⟩))
  | nil =>
    cases hinner : attributes.filter (·.inner) with
    | nil =>
      rw [Attribute.innerTokens, hinner] at hbody
      cases hbody
    | cons a rest =>
      have hmark : .punct '#' .alone ∈ Attribute.innerTokens attributes := by
        rw [Attribute.innerTokens, hinner, List.flatMap_cons]
        exact List.mem_append_left _ (mem_tokens_attribute a)
      cases honly _ (List.mem_append_left _ hmark)

theorem not_endsInError_trait {ts : Tokens} {t kept : Trait} {path : Path} {p : Plan}
    (hitem : itemOfTokens? ts = some (.trait t)) (hplan : planOf t = .ok p)
    (hkept : cleanTrait t path = .ok kept) : ¬EndsInError kept.tokens := by
  intro h
  obtain ⟨before, text, heq⟩ := h.last_two
  obtain ⟨-, -, -, found, -, hfound, -⟩ := readTrait_eq_ok (planOf_eq_ok.1 hplan).1
  have hwords : ∀ m ∈ kept.members, ∃ w, .ident w ∈ m.tokens := by
    rw [cleanTrait_members hkept]
    intro stripped hstripped
    obtain ⟨m, hm, rfl⟩ := List.mem_map.1 hstripped
    have hread : readMember t.name m ∈ found.map Except.ok := hfound ▸ List.mem_map_of_mem hm
    obtain ⟨x, -, hx⟩ := List.mem_map.1 hread
    exact exists_word_stripMember hx.symm (saysConst_of_itemOfTokens hitem m hm)
  refine body_ne_literal kept.attributes text hwords ?_
  unfold Trait.tokens braces at heq
  have hlast := congrArg List.getLast? heq
  rw [List.getLast?_concat] at hlast
  simpa using hlast

/-- **An expansion with good arguments is an error exactly if the trait has diagnostics.** -/
theorem expandsToError_iff {arguments ts : Tokens} {args : Arguments} {t kept : Trait} {path : Path}
    (harguments : Arguments.ofTokens arguments = .ok args)
    (hitem : itemOfTokens? ts = some (.trait t))
    (hpath : readPath? (args.runtime.getD defaultRuntime) = some path)
    (hkept : cleanTrait t path = .ok kept) :
    ExpandsToError arguments ts ↔ ∃ faults, planOf t = .error (.diagnostics faults) := by
  have hexpand := expand_trait harguments hitem hpath hkept
  cases hplan : planOf t with
  | ok p =>
    rw [hplan] at hexpand
    constructor
    · rintro ⟨x, hx, herror⟩
      rw [hexpand] at hx
      have htokens : EndsInError
          (kept.tokens ++ if args.external then [] else (p.assembly path.tokens).tokens) := by
        cases hx
        exact herror
      -- What stands last is the trait itself or the factory, and neither is an error.
      cases hexternal : args.external with
      | true =>
        rw [hexternal, if_pos rfl, List.append_nil] at htokens
        exact absurd htokens (not_endsInError_trait hitem hplan hkept)
      | false =>
        rw [hexternal, if_neg Bool.false_ne_true] at htokens
        exact absurd htokens (not_endsInError_assembly _ _)
    · rintro ⟨faults, h⟩
      cases h
  | error fault =>
    rw [hplan] at hexpand
    cases fault with
    | abort a =>
      constructor
      · rintro ⟨x, hx, -⟩
        rw [hexpand] at hx
        cases hx
      · rintro ⟨faults, h⟩
        cases h
    | diagnostics faults =>
      refine ⟨fun _ => ⟨faults, rfl⟩, fun _ => ⟨_, hexpand, ?_⟩⟩
      exact endsInError_compileErrors kept.tokens (ne_nil_of_planOf hplan)

end GraphRepo

import GraphRepo.Proofs.Repository.Accepted
import GraphRepo.Proofs.Repository.Spelling

/-!
# Parentheses in return types

Resolving looks through parentheses, and so does the test for `()`. Whether a result holds an `Option`
or a container is read off the type as it is written. So parentheses around such a type change the
shape of the result, and around any other type they change nothing.
-/

namespace GraphRepo

open Source

/-- A type in some pairs of parentheses. -/
def Source.Ty.inParens (ty : Ty) : Nat → Ty
  | 0 => ty
  | n + 1 => .paren (ty.inParens n)

/-- Whether a type is written as an `Option` or a container of one other type. -/
def Source.Ty.isContainer : Ty → Bool
  | .path p => p.last.typeArguments.length = 1 &&
    (canonicalName p = "Option" || sequenceNames.contains (canonicalName p))
  | _ => false

/-- `Result<ok>`, or `Result<ok, error>`. -/
def resultOf (ok : Ty) (error : Option Ty) : Ty :=
  .path (.segments false []
    (.angled "Result" false (.type ok :: (error.map Argument.type).toList) false))

theorem returnShape_resultOf (ok : Ty) (error : Option Ty) :
    returnShape (some (resultOf ok error)) = .ok (shapeOf ok) := by
  cases error <;> rfl

theorem isUnit_inParens (ty : Ty) : ∀ n : Nat, isUnit (ty.inParens n) = isUnit ty
  | 0 => rfl
  | n + 1 => isUnit_inParens ty n

theorem resolve_inParens (ty : Ty) : ∀ n : Nat, resolve (ty.inParens n) = resolve ty
  | 0 => rfl
  | n + 1 => by
    rw [Ty.inParens, resolve]
    exact resolve_inParens ty n

theorem shapeOf_inParens (ty : Ty) (n : Nat) :
    shapeOf (ty.inParens (n + 1)) = if isUnit ty then .void else .nonNull (resolve ty) := by
  rw [← isUnit_inParens ty (n + 1), ← resolve_inParens ty (n + 1)]
  rfl

theorem shapeOf_of_not_isContainer {ty : Ty} (h : ty.isContainer = false) :
    shapeOf ty = if isUnit ty then .void else .nonNull (resolve ty) := by
  unfold shapeOf
  cases ty with
  | path p =>
    split_ifs
    · rfl
    · simp only
      split
      · rename_i arg harg
        simp only [Ty.isContainer, harg, List.length_singleton, decide_true, Bool.true_and,
          Bool.or_eq_false_iff, decide_eq_false_iff_not] at h
        rw [if_neg h.1, h.2]
        rfl
      · rfl
  | _ => rfl

theorem shapeOf_path_of_only {p : Path} {arg : Ty} (only : p.last.typeArguments = [arg]) :
    shapeOf (.path p) =
      if canonicalName p = "Option" then .nullable { resolve arg with nullable := true }
      else if sequenceNames.contains (canonicalName p) then .collection (resolve arg)
      else .nonNull (resolve (.path p)) := by
  unfold shapeOf
  simp only [isUnit, Bool.false_eq_true, if_false, only]

/-- An `Option` is `nullable` and resolves to the same type; a container is a `collection` and does
not resolve to its elements. -/
theorem shapeOf_of_isContainer {ty : Ty} (h : ty.isContainer = true) :
    isUnit ty = false ∧
      (shapeOf ty = .nullable (resolve ty) ∧ (resolve ty).nullable = true ∨
        (∃ element, shapeOf ty = .collection element) ∧ (resolve ty).nullable = false) := by
  cases ty with
  | path p =>
    refine ⟨rfl, ?_⟩
    obtain ⟨leading, qualifier, last⟩ := p
    simp only [Ty.isContainer, Bool.and_eq_true, decide_eq_true_eq, Bool.or_eq_true] at h
    obtain ⟨hone, hname⟩ := h
    obtain ⟨arg, harg⟩ := List.length_eq_one_iff.1 hone
    have hargs : resolveSegment last = [resolve arg] := by
      rw [resolveSegment_eq]
      exact congrArg (List.map resolve) harg
    have hshape := shapeOf_path_of_only (p := .segments leading qualifier last) harg
    by_cases hoption : canonicalName (.segments leading qualifier last) = "Option"
    · left
      rw [hshape, if_pos hoption, resolve, hargs, resolvePath_of_option hoption]
      exact ⟨rfl, rfl⟩
    · right
      rw [hshape, if_neg hoption, if_pos (hname.resolve_left hoption), resolve]
      exact ⟨⟨_, rfl⟩, (resolvePath_of_other fun h => hoption h.1).2⟩
  | _ => cases h

/-- **What parentheses around the good side of a result change.** They change its shape exactly if the
type in them is written as an `Option` or a container. Then the value is read as one that is required:
in the place of an `Option` the type of its argument, still marked as nullable, and in the place of a
container the container itself. -/
theorem returnShape_inParens (ok : Ty) (error : Option Ty) (n : Nat) :
    let bare := returnShape (some (resultOf ok error))
    let wrapped := returnShape (some (resultOf (ok.inParens (n + 1)) error))
    (wrapped = bare ↔ ok.isContainer = false) ∧
    match bare with
    | .ok (.nullable element) => wrapped = .ok (.nonNull element) ∧ element.nullable = true
    | .ok (.collection _) => wrapped = .ok (.nonNull (resolve ok)) ∧ (resolve ok).nullable = false
    | other => wrapped = other := by
  intro bare wrapped
  have hbare : bare = .ok (shapeOf ok) := returnShape_resultOf ok error
  have hwrapped : wrapped = .ok (if isUnit ok then .void else .nonNull (resolve ok)) := by
    rw [← shapeOf_inParens ok n]
    exact returnShape_resultOf _ error
  rw [hbare, hwrapped]
  cases hcontainer : ok.isContainer with
  | false =>
    rw [shapeOf_of_not_isContainer hcontainer]
    refine ⟨iff_of_true rfl rfl, ?_⟩
    split_ifs <;> rfl
  | true =>
    obtain ⟨hunit, ⟨hshape, hnullable⟩ | ⟨⟨element, hshape⟩, hnullable⟩⟩ :=
      shapeOf_of_isContainer hcontainer
    · rw [hshape, hunit]
      exact ⟨iff_of_false nofun nofun, rfl, hnullable⟩
    · rw [hshape, hunit]
      exact ⟨iff_of_false nofun nofun, rfl, hnullable⟩

/-- `Result<(Option<User>)>` requires a `User` that may be absent. -/
theorem returnShape_parenthesized_ne :
    let found := appliedType "Option" (plainType "User")
    let user : ResolvedType := ⟨"User", plainType "User", true, []⟩
    returnShape (some (resultOf (.paren found) none)) = .ok (.nonNull user) ∧
    returnShape (some (resultOf found none)) = .ok (.nullable user) ∧
    returnShape (some (resultOf (.paren found) none)) ≠ returnShape (some (resultOf found none)) := by
  refine ⟨rfl, rfl, ?_⟩
  intro h
  cases h

end GraphRepo

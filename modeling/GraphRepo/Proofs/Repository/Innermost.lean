import Mathlib.Logic.Relation
import GraphRepo.Proofs.Repository.Spelling

/-!
# Looking through types

Resolving goes inwards through parentheses, groups, references and `Option`s until it meets none of
them. The type it ends with is what the code that is generated names, and that an `Option` was met
on the way is kept as a mark. What a type was resolved to is resolved to itself.
-/

namespace GraphRepo

open Source Relation

variable {t u v : Ty}

/-! ## Going inwards -/

/-- The ways to write the path of `Option`. -/
def optionPaths : List String := ["Option", "std::option::Option", "core::option::Option"]

/-- Whether a type is an `Option` of one argument. -/
def Source.Ty.IsOption (ty : Ty) : Prop :=
  ∃ p arg, ty = .path p ∧ writtenName p ∈ optionPaths ∧ p.last.typeArguments = [arg]

/-- **One step inwards**, to what a type encloses. -/
inductive LooksInto : Ty → Ty → Prop
  | paren (inner : Ty) : LooksInto (.paren inner) inner
  | group (inner : Ty) : LooksInto (.group inner) inner
  | reference (lifetime : Option String) (exclusive : Bool) (target : Ty) :
    LooksInto (.reference lifetime exclusive target) target
  | option {p : Path} {arg : Ty} (name : writtenName p ∈ optionPaths)
    (only : p.last.typeArguments = [arg]) : LooksInto (.path p) arg

/-- Whether a type is nothing that is looked through. -/
def Source.Ty.IsInnermost (ty : Ty) : Prop := ∀ u, ¬ LooksInto ty u

theorem canonicalName_eq_option {p : Path} :
    canonicalName p = "Option" ↔ writtenName p ∈ optionPaths := by
  have hentry : ∀ e ∈ canonicalPaths, e.2 = "Option" ↔ e.1 ∈ optionPaths := by decide
  have hkeys : ∀ path ∈ optionPaths, path = "Option" ∨ path ∈ canonicalPaths.map (·.1) := by decide
  unfold canonicalName
  cases hfind : canonicalPaths.find? (·.1 == writtenName p) with
  | some e =>
    have hwritten : e.1 = writtenName p := by simpa using List.find?_some hfind
    rw [← hwritten]
    exact hentry e (List.mem_of_find?_eq_some hfind)
  | none =>
    change writtenName p = "Option" ↔ _
    constructor
    · intro h
      rw [h]
      exact List.mem_cons_self
    · intro h
      refine (hkeys _ h).resolve_right fun hmem => ?_
      obtain ⟨e, he, hwritten⟩ := List.mem_map.1 hmem
      exact List.find?_eq_none.1 hfind e he (beq_iff_eq.2 hwritten)

theorem LooksInto.unique (hu : LooksInto t u) (hv : LooksInto t v) : u = v := by
  cases hu with
  | option name only =>
    cases hv with
    | option name' only' =>
      rw [only] at only'
      exact List.head_eq_of_cons_eq only'
  | _ => cases hv; rfl

theorem sizeOf_of_mem_typeArguments {s : Segment} {arg : Ty} (h : arg ∈ s.typeArguments) :
    sizeOf arg < sizeOf s := by
  cases s with
  | angled name turbofish args trailing =>
    obtain ⟨a, ha, harg⟩ := List.mem_filterMap.1 h
    have hargs := List.sizeOf_lt_of_mem ha
    cases a with
    | type ty =>
      cases harg
      simp only [Argument.type.sizeOf_spec] at hargs
      simp only [Segment.angled.sizeOf_spec]
      omega
    | _ => cases harg
  | _ => cases h

theorem LooksInto.sizeOf_lt (h : LooksInto t u) : sizeOf u < sizeOf t := by
  cases h with
  | paren | group | reference => simp
  | @option p arg name only =>
    obtain ⟨leading, qualifier, last⟩ := p
    have hmem : u ∈ last.typeArguments := only ▸ List.mem_singleton_self u
    have harg := sizeOf_of_mem_typeArguments hmem
    simp
    omega

/-! ## Resolving on the way -/

theorem ResolvedType.mark_eq_self {r : ResolvedType} {marked : Bool} (h : r.nullable = marked) :
    { r with nullable := marked } = r := by
  cases r
  cases h
  rfl

/-- **What is looked into stands for what is in it**, marked if it is an `Option`. -/
theorem LooksInto.resolve_eq (h : LooksInto t u) :
    ∃ marked, resolve t = { resolve u with nullable := marked } ∧
      (marked ↔ t.IsOption ∨ (resolve u).nullable) := by
  cases h with
  | paren | group | reference =>
    refine ⟨(resolve u).nullable, ?_, (or_iff_right ?_).symm⟩
    · rw [resolve, ResolvedType.mark_eq_self rfl]
    · rintro ⟨p, arg, ⟨⟩, -⟩
  | option name only =>
    refine ⟨true, ?_, iff_of_true rfl (.inl ⟨_, _, rfl, name, only⟩)⟩
    rw [resolve_path, only, List.map_singleton]
    exact resolvePath_of_option (canonicalName_eq_option.2 name) (resolve u)

theorem Source.Ty.IsInnermost.resolve_eq (h : t.IsInnermost) :
    (resolve t).ty = t ∧ (resolve t).nullable = false := by
  cases t with
  | paren inner => exact absurd (.paren inner) (h inner)
  | group inner => exact absurd (.group inner) (h inner)
  | reference lifetime exclusive target => exact absurd (.reference ..) (h target)
  | path p =>
    rw [resolve_path]
    refine resolvePath_of_other fun hoption => ?_
    rw [List.length_map] at hoption
    obtain ⟨arg, harg⟩ := List.length_eq_one_iff.1 hoption.2
    exact h arg (.option (canonicalName_eq_option.1 hoption.1) harg)
  | tuple elems trailing => exact ⟨rfl, rfl⟩
  | bare parenthesized modifiers p => exact ⟨rfl, rfl⟩
  | other tokens => exact ⟨rfl, rfl⟩

theorem not_isInnermost_of_isOption (h : t.IsOption) : ¬ t.IsInnermost := by
  obtain ⟨p, arg, rfl, hname, honly⟩ := h
  exact fun hinner => hinner arg (.option hname honly)

/-! ## What resolving ends with -/

/-- What resolving a type ends with, and what it says of the way there. -/
structure EndsWith (t : Ty) (r : ResolvedType) : Prop where
  reached : ReflTransGen LooksInto t r.ty
  innermost : r.ty.IsInnermost
  nullable : r.nullable ↔ ∃ u, ReflTransGen LooksInto t u ∧ u.IsOption
  again : resolve r.ty = { r with nullable := false }

theorem Source.Ty.IsInnermost.endsWith (h : t.IsInnermost) : EndsWith t (resolve t) := by
  obtain ⟨hself, hunmarked⟩ := h.resolve_eq
  have hmet : ∀ u, ReflTransGen LooksInto t u → u = t := fun u hu =>
    (ReflTransGen.cases_head_iff.1 hu).elim Eq.symm fun ⟨v, hv, _⟩ => absurd hv (h v)
  refine ⟨by rw [hself], by rwa [hself], ?_, ?_⟩
  · rw [hunmarked]
    refine iff_of_false nofun ?_
    rintro ⟨u, hu, hoption⟩
    exact not_isInnermost_of_isOption (hmet u hu ▸ hoption) h
  · calc resolve (resolve t).ty = resolve t := by rw [hself]
      _ = { resolve t with nullable := false } := (ResolvedType.mark_eq_self hunmarked).symm

/-- The end of the way does not change with one more step before it. -/
theorem LooksInto.endsWith (h : LooksInto t u) (hu : EndsWith u (resolve u)) :
    EndsWith t (resolve t) := by
  obtain ⟨marked, hsame, hmarked⟩ := h.resolve_eq
  rw [hsame]
  refine ⟨.head h hu.reached, hu.innermost, ?_, hu.again⟩
  rw [hmarked, hu.nullable]
  constructor
  · rintro (hoption | ⟨v, hv, hoption⟩)
    · exact ⟨t, .refl, hoption⟩
    · exact ⟨v, .head h hv, hoption⟩
  · rintro ⟨v, hv, hoption⟩
    obtain rfl | ⟨w, hw, hrest⟩ := ReflTransGen.cases_head_iff.1 hv
    · exact .inl hoption
    · exact .inr ⟨v, h.unique hw ▸ hrest, hoption⟩

/-- **Resolving goes inwards as far as it can.** -/
theorem endsWith_resolve (t : Ty) : EndsWith t (resolve t) := by
  induction hsize : sizeOf t using Nat.strongRecOn generalizing t with
  | ind n ih =>
    by_cases hinner : t.IsInnermost
    · exact hinner.endsWith
    · obtain ⟨u, hu⟩ : ∃ u, LooksInto t u := by
        simpa [Ty.IsInnermost] using hinner
      exact hu.endsWith (ih _ (hsize ▸ hu.sizeOf_lt) u rfl)

/-- **What resolving makes of a type**: neither a reference nor a type in parentheses nor a group nor
an `Option`, marked if an `Option` is on the way to it, and the same when it is resolved once
more. -/
theorem resolve_innermost (t : Ty) :
    (∀ inner, (resolve t).ty ≠ .paren inner) ∧
    (∀ inner, (resolve t).ty ≠ .group inner) ∧
    (∀ lifetime exclusive target, (resolve t).ty ≠ .reference lifetime exclusive target) ∧
    ¬ (resolve t).ty.IsOption ∧
    ReflTransGen LooksInto t (resolve t).ty ∧
    ((resolve t).nullable ↔ ∃ u, ReflTransGen LooksInto t u ∧ u.IsOption) ∧
    resolve (resolve t).ty = { resolve t with nullable := false } := by
  have hends := endsWith_resolve t
  refine ⟨fun inner h => ?_, fun inner h => ?_, fun lifetime exclusive target h => ?_,
    fun h => ?_, hends.reached, hends.nullable, hends.again⟩
  · exact hends.innermost inner (h ▸ .paren inner)
  · exact hends.innermost inner (h ▸ .group inner)
  · exact hends.innermost target (h ▸ .reference ..)
  · exact not_isInnermost_of_isOption h hends.innermost

end GraphRepo

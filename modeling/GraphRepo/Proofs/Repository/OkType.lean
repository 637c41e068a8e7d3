import GraphRepo.Proofs.Repository.Accepted
import GraphRepo.Proofs.Repository.Spelling
import GraphRepo.Repository.MethodBody

/-!
# The type that a query body returns

A query body has the session decode its rows into a type, and returns what was decoded, in an
`Option` or collected or as it is. The signature is written as it was declared. The two agree as
long as the type that is decoded is the declared one; a reference or an `Option` around it is lost
on the way.
-/

namespace GraphRepo

open Source

/-! ## Typing code -/

/-- The type of the rows that a query is read into; rows that are dropped have none. -/
def Reading.decoded : Reading → List Ty
  | .ignored => []
  | .every ty => [ty]
  | .single ty => [ty]

/-- The readings that a step makes, under the names it gives them. -/
def Step.readings : Step → List (String × Reading)
  | .letRead name reading => [(name, reading)]
  | .read reading => [("_", reading)]
  | _ => []

/-- The readings that a body has made when it ends, the last first. -/
def Code.readings (code : Code) : List (String × Reading) :=
  code.steps.reverse.flatMap Step.readings

/-- The types that a body asks the session to decode. -/
def Code.decoded (code : Code) : List Ty :=
  code.readings.flatMap (fun e => e.2.decoded) ++ match code.ending with
    | .required reading _ => reading.decoded
    | _ => []

/-- An argument with another type, if it is a type. -/
def Source.Argument.withType (ty : Ty) : Argument → Argument
  | .type _ => .type ty
  | a => a

/-- A segment whose type arguments are all `ty`. -/
def Source.Segment.withArgument (ty : Ty) : Segment → Segment
  | .angled name turbofish args trailing =>
    .angled name turbofish (args.map (Argument.withType ty)) trailing
  | s => s

/-- A container like the declared one, of elements of type `ty`. -/
def Source.Ty.withArgument (declared ty : Ty) : Ty :=
  match declared with
  | .path (.segments leading qualifier last) =>
    .path (.segments leading qualifier (last.withArgument ty))
  | declared => declared

/-- The type of the value that a query body returns in `Ok`. What is collected has the type of the
declared container, of the elements that were read. -/
def Code.okType (declared : Ty) (code : Code) : Option Ty :=
  match code.ending with
  | .unit => some unitType
  | .named name =>
    match code.readings.lookup name with
    | some (.single ty) => some (optionOf ty)
    | _ => none
  | .collected name =>
    match code.readings.lookup name with
    | some (.every element) => some (declared.withArgument element)
    | _ => none
  | .required (.single ty) _ => some ty
  | .required .. => none

/-- The type of the values that a declared type holds: that of the elements of a container or of an
`Option`, or the type itself. -/
def Source.Ty.element : Ty → Ty
  | .path p =>
    match p.last.typeArguments with
    | [arg] =>
      if canonicalName p = "Option" ∨ canonicalName p ∈ sequenceNames then arg else .path p
    | _ => .path p
  | declared => declared

/-! ## Containers of another element -/

theorem typeArguments_withArgument (ty : Ty) (s : Segment) :
    (s.withArgument ty).typeArguments = s.typeArguments.map fun _ => ty := by
  cases s with
  | angled name turbofish args trailing =>
    rw [Segment.withArgument, Segment.typeArguments, Segment.typeArguments]
    induction args with
    | nil => rfl
    | cons a rest ih =>
      cases a <;> simpa [List.filterMap_cons, Argument.withType, Argument.type?] using ih
  | _ => rfl

theorem name_withArgument (ty : Ty) (s : Segment) : (s.withArgument ty).name = s.name := by
  cases s <;> rfl

theorem canonical_withArgument {ty : Ty} {s : Segment}
    (h : ∀ arg ∈ s.typeArguments, ty.canonical = arg.canonical) :
    (s.withArgument ty).canonical = s.canonical := by
  cases s with
  | angled name turbofish args trailing =>
    rw [Segment.typeArguments] at h
    rw [Segment.withArgument, Segment.canonical, Segment.canonical]
    congr 1
    induction args with
    | nil => rfl
    | cons a rest ih =>
      cases a with
      | type arg =>
        rw [List.filterMap_cons_some (b := arg) (by rfl)] at h
        obtain ⟨harg, hrest⟩ := List.forall_mem_cons.1 h
        rw [List.map_cons, Argument.withType, Argument.canonicalEach, Argument.canonicalEach, harg,
          ih hrest]
      | lifetime name =>
        have hkept : (Argument.lifetime name).withType ty = .lifetime name := rfl
        rw [List.filterMap_cons_none (by rfl)] at h
        rw [List.map_cons, hkept, Argument.canonicalEach, Argument.canonicalEach, ih h]
      | other tokens =>
        have hkept : (Argument.other tokens).withType ty = .other tokens := rfl
        rw [List.filterMap_cons_none (by rfl)] at h
        rw [List.map_cons, hkept, Argument.canonicalEach, Argument.canonicalEach, ih h]
  | _ => rfl

theorem canonical_of_argument {leading : Bool} {qualifier : List Segment} {last : Segment}
    {arg : Ty} (harg : last.typeArguments = [arg])
    (hname : canonicalName (.segments leading qualifier last) ≠ "Option") :
    ∃ p : Path, (Ty.path (.segments leading qualifier last)).canonical = .path p ∧
      p.last.typeArguments = [arg.canonical] := by
  have hargs : last.canonical.typeArguments = [arg.canonical] := by
    rw [typeArguments_canonical, harg, List.map_singleton]
  have hname' : canonicalName (.segments leading qualifier last.canonical) ≠ "Option" := by
    rw [canonicalName_canonical]
    exact hname
  refine ⟨(Path.segments leading qualifier last.canonical).short, ?_, ?_⟩
  · rw [Ty.canonical, Path.shortType, Path.last, hargs]
    exact if_neg hname'
  · rw [typeArguments_short, Path.last, hargs]

/-- **A container of other elements is the same type exactly when the elements are.** -/
theorem canonical_withArgument_iff {p : Path} {arg ty : Ty}
    (harg : p.last.typeArguments = [arg]) (hname : canonicalName p ≠ "Option") :
    ((Ty.path p).withArgument ty).canonical = (Ty.path p).canonical ↔
      ty.canonical = arg.canonical := by
  obtain ⟨leading, qualifier, last⟩ := p
  rw [Path.last] at harg
  rw [Ty.withArgument]
  constructor
  · intro h
    have harg' : (last.withArgument ty).typeArguments = [ty] := by
      rw [typeArguments_withArgument, harg, List.map_singleton]
    have hname' :
        canonicalName (.segments leading qualifier (last.withArgument ty)) ≠ "Option" := by
      rw [canonicalName_congr (names_congr leading qualifier (name_withArgument ty last))]
      exact hname
    obtain ⟨q, hq, hqarg⟩ := canonical_of_argument harg hname
    obtain ⟨q', hq', hqarg'⟩ := canonical_of_argument harg' hname'
    rw [hq, hq'] at h
    cases h
    rw [hqarg'] at hqarg
    exact List.head_eq_of_cons_eq hqarg
  · intro h
    have hlast : (last.withArgument ty).canonical = last.canonical := by
      refine canonical_withArgument fun arg' harg' => ?_
      rw [harg] at harg'
      rw [List.mem_singleton.1 harg', h]
    rw [Ty.canonical, Ty.canonical, hlast]

/-- The canonical spelling of an `Option` is that of its argument in an `Option`. -/
theorem canonical_of_option {p : Path} {arg : Ty} (harg : p.last.typeArguments = [arg])
    (hname : canonicalName p = "Option") : (Ty.path p).canonical = optionOf arg.canonical := by
  obtain ⟨leading, qualifier, last⟩ := p
  rw [Path.last] at harg
  rw [Ty.canonical, Path.shortType, Path.last, typeArguments_canonical, harg, List.map_singleton]
  refine if_pos ?_
  rw [canonicalName_canonical]
  exact hname

theorem canonical_optionOf (ty : Ty) : (optionOf ty).canonical = optionOf ty.canonical :=
  canonical_of_option rfl rfl

theorem optionOf_inj {a b : Ty} (h : optionOf a = optionOf b) : a = b := by
  cases h
  rfl

/-! ## Shapes of declared types -/

theorem canonical_of_isUnit : ∀ {t : Ty}, isUnit t = true → t.canonical = unitType
  | .paren inner, h | .group inner, h => by
    rw [Ty.canonical]
    exact canonical_of_isUnit (t := inner) h
  | .tuple [] _, _ => rfl
  | .tuple (_ :: _) _, h => by cases h
  | .reference .., h => by cases h
  | .path _, h => by cases h
  | .bare .., h => by cases h
  | .other _, h => by cases h

theorem not_isWrapped_of_isUnit : ∀ {t : Ty}, isUnit t = true → t.isWrapped = false
  | .paren inner, h | .group inner, h => not_isWrapped_of_isUnit (t := inner) h
  | .tuple .., _ => rfl
  | .reference .., h => by cases h
  | .path _, h => by cases h
  | .bare .., h => by cases h
  | .other _, h => by cases h

theorem ne_option_of_mem_sequenceNames {name : String} (h : name ∈ sequenceNames) :
    name ≠ "Option" := by
  rintro rfl
  exact absurd h (by decide)

theorem element_of_isUnit : ∀ {t : Ty}, isUnit t = true → t.element = t
  | .paren _, _ | .group _, _ => rfl
  | .tuple .., _ => rfl
  | .reference .., h => by cases h
  | .path _, h => by cases h
  | .bare .., h => by cases h
  | .other _, h => by cases h

/-- What a declared type is, by the shape that is read off it. -/
inductive Shaped : Ty → ReturnShape → Prop
  | void {t : Ty} (unit : isUnit t = true) : Shaped t .void
  | nullable {p : Path} {arg : Ty} (only : p.last.typeArguments = [arg])
    (option : canonicalName p = "Option") :
    Shaped (.path p) (.nullable { resolve arg with nullable := true })
  | collection {p : Path} {arg : Ty} (only : p.last.typeArguments = [arg])
    (sequence : canonicalName p ∈ sequenceNames) : Shaped (.path p) (.collection (resolve arg))
  | nonNull {t : Ty} (element : t.element = t) : Shaped t (.nonNull (resolve t))

theorem element_of_path {p : Path}
    (h : ∀ arg, p.last.typeArguments = [arg] →
      ¬ (canonicalName p = "Option" ∨ canonicalName p ∈ sequenceNames)) :
    (Ty.path p).element = .path p := by
  simp only [Ty.element]
  split
  · rename_i arg harg
    exact if_neg (h arg harg)
  · rfl

theorem shaped_shapeOf (declared : Ty) : Shaped declared (shapeOf declared) := by
  unfold shapeOf
  by_cases hunit : isUnit declared = true
  · rw [if_pos hunit]
    exact .void hunit
  · rw [if_neg hunit]
    cases declared with
    | path p =>
      simp only
      split
      · rename_i arg harg
        by_cases hoption : canonicalName p = "Option"
        · rw [if_pos hoption]
          exact .nullable harg hoption
        · rw [if_neg hoption]
          by_cases hsequence : sequenceNames.contains (canonicalName p) = true
          · rw [if_pos hsequence]
            exact .collection harg (by simpa using hsequence)
          · rw [if_neg hsequence]
            exact .nonNull (element_of_path fun _ _ => by simpa [hoption] using hsequence)
      · rename_i hargs
        exact .nonNull (element_of_path fun arg harg => absurd harg (hargs arg))
    | _ => exact .nonNull rfl

/-! ## Bodies -/

/-- How a body fits a declared type: what it decodes and what it returns. -/
structure Fits (declared : Ty) (code : Code) : Prop where
  /-- The body decodes the type of the elements, unless that is looked through. -/
  decoded : ∀ ty ∈ code.decoded,
    (ty.canonical = declared.element.canonical ↔ declared.element.isWrapped = false)
  /-- The body returns the declared type, unless the type of the elements is looked through. -/
  returned : ∃ ty, code.okType declared = some ty ∧
    (ty.canonical = declared.canonical ↔ declared.element.isWrapped = false)

/-- **The code of a declared type fits it**, but for what resolving looks through. -/
theorem fits_of_shaped {declared : Ty} {shape : ReturnShape} (context : String)
    (h : Shaped declared shape) : Fits declared (RowUse.ofShape context shape).code := by
  cases h with
  | void unit =>
    refine ⟨fun ty hty => (by cases hty), unitType, rfl, ?_⟩
    rw [canonical_of_isUnit unit, element_of_isUnit unit, not_isWrapped_of_isUnit unit]
    exact iff_of_true rfl rfl
  | @nullable p arg only option =>
    have helement : (Ty.path p).element = arg := by
      simp only [Ty.element, only]
      exact if_pos (.inl option)
    refine ⟨fun ty hty => ?_, optionOf (resolve arg).ty, rfl, ?_⟩
    · rw [List.mem_singleton.1 hty, helement]
      exact canonical_resolve arg
    · rw [helement, ← canonical_resolve arg, canonical_of_option only option, canonical_optionOf]
      exact ⟨optionOf_inj, congrArg optionOf⟩
  | @collection p arg only sequence =>
    have helement : (Ty.path p).element = arg := by
      simp only [Ty.element, only]
      exact if_pos (.inr sequence)
    refine ⟨fun ty hty => ?_, (Ty.path p).withArgument (resolve arg).ty, rfl, ?_⟩
    · rw [List.mem_singleton.1 hty, helement]
      exact canonical_resolve arg
    · rw [helement, ← canonical_resolve arg]
      exact canonical_withArgument_iff only (ne_option_of_mem_sequenceNames sequence)
  | nonNull element =>
    refine ⟨fun ty hty => ?_, (resolve declared).ty, rfl, ?_⟩
    · rw [List.mem_singleton.1 hty, element]
      exact canonical_resolve declared
    · rw [element]
      exact canonical_resolve declared

theorem readings_query (text : String) (bindings : List Binding) (use : RowUse) :
    (MethodBody.query text bindings use).code.readings = use.code.readings := by
  have hbindings : (bindings.map Step.insert).reverse.flatMap Step.readings = [] := by
    rw [List.flatMap_eq_nil_iff]
    intro step hstep
    obtain ⟨b, -, rfl⟩ := List.mem_map.1 (List.mem_reverse.1 hstep)
    rfl
  simp only [Code.readings, MethodBody.code, bindingSteps, List.cons_append, List.reverse_cons,
    List.reverse_append, List.flatMap_append, hbindings]
  simp [Step.readings]

theorem Fits.query {declared : Ty} {use : RowUse} (h : Fits declared use.code) (text : String)
    (bindings : List Binding) : Fits declared (MethodBody.query text bindings use).code := by
  have hreadings := readings_query text bindings use
  refine ⟨fun ty hty => h.decoded ty ?_, ?_⟩
  · unfold Code.decoded at hty ⊢
    rw [hreadings] at hty
    exact hty
  · obtain ⟨ty, hty, hiff⟩ := h.returned
    refine ⟨ty, ?_, hiff⟩
    unfold Code.okType at hty ⊢
    rw [hreadings]
    exact hty

variable {item : Item} {modulePath : Option String} {d : Declaration} {c : Classified}
  {text : String}

/-- The shape of an accepted method is that of the good side of its declared result. -/
theorem Accepted.returns_eq (h : Accepted item modulePath d c) :
    ∃ declared, c.method.signature.output.bind okType? = some declared ∧
      c.method.returns = shapeOf declared := by
  obtain ⟨t, m, markers, -, -, -, -, -, hsignature⟩ := h.source
  obtain ⟨-, -, parameters, returns, -, hreturns, hm⟩ := readSignature_eq_ok hsignature
  cases houtput : m.signature.output with
  | none => rw [houtput] at hreturns; cases hreturns
  | some output =>
    rw [houtput, returnShape] at hreturns
    cases hok : okType? output with
    | none => rw [hok] at hreturns; cases hreturns
    | some declared =>
      rw [hok] at hreturns
      cases hreturns
      refine ⟨declared, ?_, by rw [hm]⟩
      rw [hm]
      simp only [stripSignature, houtput, Option.bind_some, hok]

/-- **What an accepted query body decodes and returns, in terms of its declared type.** Up to
spelling it decodes the type of the declared elements, and returns the declared type, exactly when
that type of elements is neither a reference nor an `Option`. -/
theorem okType_of_query (h : Accepted item modulePath d c) (hq : c.behavior = .query text) :
    ∃ declared, c.method.signature.output.bind okType? = some declared ∧
      (∀ ty ∈ (c.body d.name).code.decoded,
        (ty.canonical = declared.element.canonical ↔ declared.element.isWrapped = false)) ∧
      ∃ ty, (c.body d.name).code.okType declared = some ty ∧
        (ty.canonical = declared.canonical ↔ declared.element.isWrapped = false) := by
  obtain ⟨declared, hdeclared, hreturns⟩ := h.returns_eq
  have hfits := (fits_of_shaped (d.name ++ "::" ++ c.method.name) (shaped_shapeOf declared)).query
    text c.method.bindings
  rw [← hreturns, ← Classified.body_of_query hq] at hfits
  exact ⟨declared, hdeclared, hfits.decoded, hfits.returned⟩

/-- The body of `greet` returns the `User` that is declared. -/
theorem okType_of_query_greet :
    greet.behavior = .query "RETURN $name" ∧
      ∃ ty, (greet.body "Users").code.okType (plainType "User") = some ty ∧
        ty.canonical = (plainType "User").canonical := by
  obtain ⟨declared, hdeclared, -, ty, hty, hiff⟩ := okType_of_query accepted_greet rfl
  obtain rfl : plainType "User" = declared := Option.some.inj hdeclared
  exact ⟨rfl, ty, hty, hiff.2 rfl⟩

/-- `async fn all(&self) -> Result<Vec<Option<User>>>`. -/
def allUsers : Classified where
  method := {
    name := "all"
    signature := querySignature "all" []
      (appliedType "Vec" (appliedType "Option" (plainType "User")))
    parameters := []
    returns := .collection ⟨"User", plainType "User", true, []⟩
    markers := ⟨some "RETURN 1", false, false⟩ }
  behavior := .query "RETURN 1"

/-- The body of `allUsers` decodes a `User` for each row and collects what it declares to be
`Option<User>`. -/
theorem okType_allUsers_ne :
    let declared := appliedType "Vec" (appliedType "Option" (plainType "User"))
    let returned := appliedType "Vec" (plainType "User")
    Accepted (.trait (queryTrait "\x22RETURN 1\x22" allUsers.method.signature)) none
      (queryDeclaration allUsers.method) allUsers ∧
    allUsers.method.signature.output.bind okType? = some declared ∧
    (allUsers.body "Users").code.okType declared = some returned ∧
    returned.canonical ≠ declared.canonical := by
  refine ⟨⟨?_, [allUsers], ?_, List.mem_singleton.2 rfl⟩, rfl, rfl, ?_⟩
  · cbv
  · cbv
  · intro h
    cases h

end GraphRepo

import Mathlib
import GraphRepo.Proofs.Repository.FileName
import GraphRepo.Proofs.Repository.Parentheses

/-!
# Standard names

A standard type has its full path and the short name that everyone writes. Wherever a full path
stands that resolving looks at, its short name may stand instead: what resolving says of the type
is the same, and so is the shape of a result. Only the syntax that is kept for the code to be
generated is another. A type with a qualified self is not looked into, and its tokens are its name.
-/

namespace GraphRepo

open Source Relation

/-! ## What is said of a type -/

/-- What is said of a type, without the syntax it was written in. -/
inductive Outline
  | of (name : String) (nullable : Bool) (args : List Outline)

/-- The name of an argument, with the `Option` around it. -/
def Outline.displayName : Outline → String
  | .of name nullable _ => if nullable then "Option<" ++ name ++ ">" else name

mutual

/-- What is said of a resolved type. -/
def ResolvedType.outline : ResolvedType → Outline
  | .mk name _ nullable args => .of name nullable (ResolvedType.outlineEach args)

/-- What is said of each type of a list. -/
def ResolvedType.outlineEach : List ResolvedType → List Outline
  | [] => []
  | r :: rest => r.outline :: ResolvedType.outlineEach rest

end

/-- What a shape is called, and what is said of its type. -/
def ReturnShape.outline (shape : ReturnShape) : String × Option Outline :=
  (shape.describe, shape.type?.map ResolvedType.outline)

theorem outlineEach_eq (rs : List ResolvedType) :
    ResolvedType.outlineEach rs = rs.map ResolvedType.outline := by
  induction rs with
  | nil => rfl
  | cons r rest ih => rw [ResolvedType.outlineEach, ih, List.map_cons]

theorem displayName_outline (r : ResolvedType) : r.outline.displayName = r.displayName := by
  cases r
  rfl

theorem map_displayName_outline (rs : List ResolvedType) :
    (rs.map ResolvedType.outline).map Outline.displayName = rs.map ResolvedType.displayName := by
  rw [List.map_map]
  exact List.map_congr_left fun r _ => displayName_outline r

theorem outline_marked {r s : ResolvedType} (h : r.outline = s.outline) (marked : Bool) :
    { r with nullable := marked }.outline = { s with nullable := marked }.outline := by
  cases r
  cases s
  simp only [ResolvedType.outline, Outline.of.injEq] at h ⊢
  exact ⟨h.1, trivial, h.2.2⟩

/-- A name with the names of its arguments. -/
def withArguments (name : String) (args : List String) : String :=
  if args.isEmpty then name else name ++ "<" ++ ", ".intercalate args ++ ">"

theorem resolvePath_kept {p : Path} {args : List ResolvedType}
    (h : ¬ (canonicalName p = "Option" ∧ args.length = 1)) :
    resolvePath p args =
      ⟨withArguments (canonicalName p) (args.map ResolvedType.displayName), .path p, false,
        args⟩ := by
  simp only [resolvePath]
  split
  · rename_i inner hoption
    exact absurd ⟨beq_iff_eq.1 hoption, rfl⟩ h
  · rfl
  · rename_i hnil hlone
    rw [withArguments, if_neg]
    simpa using hnil

/-- **What is said of a path depends on its canonical name** and on what is said of its arguments.
-/
theorem outline_resolvePath {p q : Path} {as bs : List ResolvedType}
    (hname : canonicalName p = canonicalName q)
    (hargs : as.map ResolvedType.outline = bs.map ResolvedType.outline) :
    (resolvePath p as).outline = (resolvePath q bs).outline := by
  have hlength : as.length = bs.length := by
    simpa only [List.length_map] using congrArg List.length hargs
  by_cases hlone : canonicalName q = "Option" ∧ bs.length = 1
  · obtain ⟨b, rfl⟩ := List.length_eq_one_iff.1 hlone.2
    obtain ⟨a, rfl⟩ := List.length_eq_one_iff.1 hlength
    rw [resolvePath_of_option (hname.trans hlone.1), resolvePath_of_option hlone.1]
    exact outline_marked (List.head_eq_of_cons_eq hargs) true
  · have hdisplay : as.map ResolvedType.displayName = bs.map ResolvedType.displayName := by
      rw [← map_displayName_outline, hargs, map_displayName_outline]
    rw [resolvePath_kept hlone, resolvePath_kept (hname ▸ hlength ▸ hlone), hname, hdisplay,
      ResolvedType.outline, ResolvedType.outline, outlineEach_eq, outlineEach_eq, hargs]

/-! ## Short names -/

/-- **One full path becomes a short name**: of the type itself, of what its parentheses, its group or
its reference enclose, or of an argument of its last segment. The names of segments are identifiers,
so none has a colon in it. -/
inductive Shortens : Ty → Ty → Prop
  | name {p : Path} {short : String} (leading : Bool)
    (entry : (writtenName p, short) ∈ canonicalPaths)
    (names : ∀ name ∈ p.names, ':' ∉ name.toList) :
    Shortens (.path p) (.path (.segments leading [] (p.last.rename short)))
  | paren {t u : Ty} (h : Shortens t u) : Shortens (.paren t) (.paren u)
  | group {t u : Ty} (h : Shortens t u) : Shortens (.group t) (.group u)
  | reference {t u : Ty} (lifetime : Option String) (exclusive : Bool) (h : Shortens t u) :
    Shortens (.reference lifetime exclusive t) (.reference lifetime exclusive u)
  | argument {t u : Ty} (leading : Bool) (qualifier : List Segment) (name : String)
    (turbofish : Bool) (before after : List Argument) (trailing : Bool) (h : Shortens t u) :
    Shortens
      (.path (.segments leading qualifier
        (.angled name turbofish (before ++ .type t :: after) trailing)))
      (.path (.segments leading qualifier
        (.angled name turbofish (before ++ .type u :: after) trailing)))

variable {t u : Ty}

/-- The full path and the short name have one canonical name, the short one. -/
theorem canonicalName_of_entry {p : Path} {short : String} (leading : Bool)
    (entry : (writtenName p, short) ∈ canonicalPaths) :
    canonicalName p = canonicalName (.segments leading [] (p.last.rename short)) := by
  have hentries : ∀ e ∈ canonicalPaths, canonicalPaths.find? (·.1 == e.1) = some e ∧
      canonicalPaths.find? (·.1 == e.2) = none := by decide +kernel
  obtain ⟨hfull, hshort⟩ := hentries _ entry
  have hwritten : writtenName (.segments leading [] (p.last.rename short)) = short := by
    rw [writtenName, Path.names, Path.all, List.nil_append, List.map_singleton, name_rename]
    rfl
  unfold canonicalName
  rw [hwritten, hfull, hshort]
  rfl

theorem name_of_entry {p : Path} {short : String}
    (entry : (writtenName p, short) ∈ canonicalPaths)
    (names : ∀ name ∈ p.names, ':' ∉ name.toList) : p.last.name = short := by
  obtain ⟨leading, qualifier, last⟩ := p
  -- A path can be cut at its colons again, since no name has one.
  have hpieces : piecesBetween ':' (writtenName (.segments leading qualifier last)).toList =
      qualifier.map (·.name.toList) ++ [last.name.toList] := by
    have hnames : (Path.segments leading qualifier last).names =
        qualifier.map Segment.name ++ [last.name] := by
      rw [Path.names, Path.all, List.map_append, List.map_singleton]
    rw [hnames] at names
    rw [writtenName, hnames, String.toList_intercalate, List.map_append, List.map_singleton,
      List.map_map]
    refine piecesBetween_intercalate (spaced_of_not_mem (names _ (by simp))) fun q hq => ?_
    obtain ⟨s, hs, rfl⟩ := List.mem_map.1 hq
    have hnone : ':' ∉ s.name.toList := names _ (List.mem_append_left _ (List.mem_map_of_mem hs))
    exact ⟨spaced_of_not_mem hnone, fun hlast => hnone (List.mem_of_getLast? hlast)⟩
  have hentries : ∀ e ∈ canonicalPaths,
      (piecesBetween ':' e.1.toList).getLast? = some e.2.toList := by decide_cbv
  have hlast := hentries _ entry
  rw [hpieces, List.getLast?_concat, Option.some_inj] at hlast
  exact String.toList_inj.1 hlast

theorem typeArguments_argument (name : String) (turbofish : Bool) (before after : List Argument)
    (ty : Ty) (trailing : Bool) :
    (Segment.angled name turbofish (before ++ .type ty :: after) trailing).typeArguments =
      before.filterMap Argument.type? ++ ty :: after.filterMap Argument.type? := by
  rw [Segment.typeArguments, List.filterMap_append, List.filterMap_cons]
  rfl

/-- **A short name says the same of a type.** -/
theorem outline_resolve (h : Shortens t u) : (resolve t).outline = (resolve u).outline := by
  induction h with
  | @name p short leading entry names =>
    rw [resolve_path, resolve_path]
    refine outline_resolvePath (canonicalName_of_entry leading entry) ?_
    rw [Path.last, typeArguments_rename]
  | paren h ih | group h ih => rwa [resolve, resolve]
  | reference lifetime exclusive h ih => rwa [resolve, resolve]
  | argument leading qualifier name turbofish before after trailing h ih =>
    -- The path keeps its name, and of its arguments one is said to be what it was.
    rw [resolve_path, resolve_path]
    refine outline_resolvePath (canonicalName_congr (names_congr _ _ rfl)) ?_
    simp only [Path.last, typeArguments_argument, List.map_append, List.map_cons, ih]

/-! ## Shapes of results -/

theorem isUnit_of_shortens (h : Shortens t u) : isUnit t = isUnit u := by
  induction h with
  | paren h ih | group h ih => rwa [isUnit, isUnit]
  | _ => rfl

/-- **A short name in a path** changes neither its canonical name nor the name of its last segment,
and in its arguments it is one short name at most. -/
theorem Shortens.of_path {p : Path} (h : Shortens (.path p) u) :
    ∃ q, u = .path q ∧ canonicalName p = canonicalName q ∧ p.last.name = q.last.name ∧
      List.Forall₂ (ReflGen Shortens) p.last.typeArguments q.last.typeArguments := by
  have hself : ∀ args : List Ty, List.Forall₂ (ReflGen Shortens) args args := fun args =>
    List.forall₂_same.2 fun _ _ => .refl
  cases h with
  | name leading entry names =>
    refine ⟨_, rfl, canonicalName_of_entry leading entry, ?_, ?_⟩
    · rw [Path.last, name_rename]
      exact name_of_entry entry names
    · rw [Path.last, typeArguments_rename]
      exact hself _
  | argument leading qualifier name turbofish before after trailing h =>
    refine ⟨_, rfl, canonicalName_congr (names_congr _ _ rfl), rfl, ?_⟩
    simp only [Path.last, typeArguments_argument]
    exact List.rel_append (hself _) (.cons (.single h) (hself _))

theorem outline_arguments {as bs : List Ty} (h : List.Forall₂ (ReflGen Shortens) as bs) :
    (as.map resolve).map ResolvedType.outline = (bs.map resolve).map ResolvedType.outline := by
  induction h with
  | nil => rfl
  | cons hab _ ih =>
    obtain rfl | hab := hab
    · simp only [List.map_cons, ih]
    · simp only [List.map_cons, outline_resolve hab, ih]

theorem outline_shapeOf_of_not_isContainer (h : Shortens t u) (ht : t.isContainer = false)
    (hu : u.isContainer = false) : (shapeOf t).outline = (shapeOf u).outline := by
  rw [shapeOf_of_not_isContainer ht, shapeOf_of_not_isContainer hu, isUnit_of_shortens h]
  split_ifs
  · rfl
  · simp only [ReturnShape.outline, ReturnShape.describe, ReturnShape.type?, Option.map_some,
      outline_resolve h]

theorem outline_shapeOf_path {p : Path} (h : Shortens (.path p) u) :
    (shapeOf (.path p)).outline = (shapeOf u).outline := by
  obtain ⟨q, rfl, hname, -, hargs⟩ := h.of_path
  by_cases honly : p.last.typeArguments.length = 1
  · obtain ⟨arg, harg⟩ := List.length_eq_one_iff.1 honly
    obtain ⟨arg', harg'⟩ := List.length_eq_one_iff.1 (hargs.length_eq ▸ honly)
    have hresolve : (resolve arg).outline = (resolve arg').outline := by
      have hmap := outline_arguments hargs
      rw [harg, harg'] at hmap
      exact List.head_eq_of_cons_eq hmap
    rw [shapeOf_path_of_only harg, shapeOf_path_of_only harg', hname]
    split_ifs <;>
      simp only [ReturnShape.outline, ReturnShape.describe, ReturnShape.type?, Option.map_some,
        hresolve, outline_resolve h, outline_marked hresolve]
  · refine outline_shapeOf_of_not_isContainer h ?_ ?_
    · simp only [Ty.isContainer, honly, decide_false, Bool.false_and]
    · simp only [Ty.isContainer, ← hargs.length_eq, honly, decide_false, Bool.false_and]

/-- **A short name gives the good side of a result the same shape.** -/
theorem outline_shapeOf (h : Shortens t u) : (shapeOf t).outline = (shapeOf u).outline := by
  cases h with
  | name leading entry names => exact outline_shapeOf_path (.name leading entry names)
  | paren h => exact outline_shapeOf_of_not_isContainer (.paren h) rfl rfl
  | group h => exact outline_shapeOf_of_not_isContainer (.group h) rfl rfl
  | reference lifetime exclusive h =>
    exact outline_shapeOf_of_not_isContainer (.reference lifetime exclusive h) rfl rfl
  | argument leading qualifier name turbofish before after trailing h =>
    exact outline_shapeOf_path (.argument leading qualifier name turbofish before after trailing h)

theorem okType_path {p : Path} (h : Shortens (.path p) u) :
    Option.Rel (ReflGen Shortens) (okType? (.path p)) (okType? u) := by
  obtain ⟨q, rfl, -, hname, hargs⟩ := h.of_path
  rw [okType?, okType?, hname]
  split_ifs
  · -- With one or two arguments the first is the good side; any other number gives none.
    generalize p.last.typeArguments = as at hargs
    generalize q.last.typeArguments = bs at hargs
    cases hargs with
    | nil => exact .none
    | cons hok hrest =>
      cases hrest with
      | nil => exact .some hok
      | cons _ hrest =>
        cases hrest with
        | nil => exact .some hok
        | cons _ _ => exact .none
  · exact .none

/-- The good side of a result is as it was, or has a short name more. -/
theorem okType_of_shortens (h : Shortens t u) :
    Option.Rel (ReflGen Shortens) (okType? t) (okType? u) := by
  induction h with
  | name leading entry names => exact okType_path (.name leading entry names)
  | paren h ih | group h ih => rwa [okType?, okType?]
  | reference lifetime exclusive h ih => exact .none
  | argument leading qualifier name turbofish before after trailing h ih =>
    exact okType_path (.argument leading qualifier name turbofish before after trailing h)

/-- **A short name gives a result the same shape.** -/
theorem outline_returnShape (h : Shortens t u) :
    (returnShape (some t)).toOption.map ReturnShape.outline =
      (returnShape (some u)).toOption.map ReturnShape.outline := by
  have hok := okType_of_shortens h
  rw [returnShape, returnShape]
  generalize okType? t = good at hok
  generalize okType? u = good' at hok
  cases hok with
  | none => rfl
  | some hgood =>
    obtain rfl | hgood := hgood
    · rfl
    · exact congrArg some (outline_shapeOf hgood)

/-- **Short names may stand wherever resolving looks.** If full paths of standard types become
short names, one after the other at any places, then the same is said of the type, and a result of
that type has the same shape or none again. -/
theorem short_names (h : ReflTransGen Shortens t u) :
    (resolve t).outline = (resolve u).outline ∧
    (returnShape (some t)).toOption.map ReturnShape.outline =
      (returnShape (some u)).toOption.map ReturnShape.outline := by
  induction h with
  | refl => exact ⟨rfl, rfl⟩
  | tail _ hstep ih =>
    exact ⟨ih.1.trans (outline_resolve hstep), ih.2.trans (outline_returnShape hstep)⟩

/-- `::std::result::Result<(std::vec::Vec<&std::string::String>)>` may be written
`Result<(Vec<&String>)>`. -/
theorem short_names_result :
    let string : Ty := .path (.segments false [.plain "std", .plain "string"] (.plain "String"))
    let vec : Ty := .path (.segments false [.plain "std", .plain "vec"]
      (.angled "Vec" false [.type (.reference none false string)] false))
    let written : Ty := .path (.segments true [.plain "std", .plain "result"]
      (.angled "Result" false [.type (.paren vec)] false))
    let short := resultOf (.paren (appliedType "Vec" (.reference none false (plainType "String"))))
      none
    ReflTransGen Shortens written short ∧
    (resolve written).outline = (resolve short).outline ∧
    (returnShape (some written)).toOption.map ReturnShape.outline =
      (returnShape (some short)).toOption.map ReturnShape.outline := by
  intro string vec written short
  have hstring : Shortens string (plainType "String") :=
    .name false (by decide_cbv) (by decide_cbv)
  have hvec : Shortens vec (appliedType "Vec" (.reference none false string)) :=
    .name false (by decide_cbv) (by decide_cbv)
  have hwritten : Shortens written (resultOf (.paren vec) none) :=
    .name false (by decide_cbv) (by decide_cbv)
  have hsteps : ReflTransGen Shortens written short :=
    .head hwritten <| .head (.argument false [] "Result" false [] [] false (.paren hvec)) <|
      .single <| .argument false [] "Result" false [] [] false <| .paren <|
        .argument false [] "Vec" false [] [] false <| .reference none false hstring
  exact ⟨hsteps, short_names hsteps⟩

/-- A path in a type with a qualified self is kept as it is written, and that is the name of the
type. -/
theorem full_name_kept_ne :
    ∃ t u, readType? "<T as P>::A<std::string::String>" = some t ∧
      readType? "<T as P>::A<String>" = some u ∧
      (resolve t).name = "< T as P > :: A < std :: string :: String >" ∧
      (resolve u).name = "< T as P > :: A < String >" ∧
      (resolve t).outline ≠ (resolve u).outline := by
  refine ⟨.other _, .other _, by cbv, by cbv, by cbv, by cbv, fun h => ?_⟩
  rw [resolve, resolve, ResolvedType.outline, ResolvedType.outline, Outline.of.injEq] at h
  exact absurd h.1 (by cbv)

end GraphRepo

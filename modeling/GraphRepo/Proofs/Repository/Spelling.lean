import GraphRepo.Repository.ReturnShape

/-!
# Types up to spelling

One type can be written in several ways: with parentheses or a group around it, and with the full
path of a standard type or its short name. The canonical spelling has neither parentheses nor groups
and only short names.
What resolving makes of a type is the same type, but for the references and `Option`s around it that
it looks through.
-/

namespace GraphRepo

open Source

/-! ## Canonical spelling -/

/-- `()`. -/
def unitType : Ty := .tuple [] false

/-- `Option<ty>`. -/
def optionOf (ty : Ty) : Ty :=
  .path (.segments false [] (.angled "Option" false [.type ty] false))

def Source.Segment.rename (name : String) : Segment → Segment
  | .plain _ => .plain name
  | .angled _ turbofish args trailing => .angled name turbofish args trailing
  | .called _ tokens => .called name tokens

/-- A path under its canonical name: a standard type that is written in full gets its short name. -/
def Source.Path.short (p : Path) : Path :=
  if canonicalName p = writtenName p then p
  else .segments false [] (p.last.rename (canonicalName p))

/-- A path as a type under its canonical name. An `Option` has one argument and nothing else. -/
def Source.Path.shortType (p : Path) : Ty :=
  match p.last.typeArguments with
  | [arg] => if canonicalName p = "Option" then optionOf arg else .path p.short
  | _ => .path p.short

mutual

def Source.Ty.canonical : Ty → Ty
  | .paren inner => inner.canonical
  | .group inner => inner.canonical
  | .reference lifetime exclusive target => .reference lifetime exclusive target.canonical
  | .path (.segments leading qualifier last) =>
    (Path.segments leading qualifier last.canonical).shortType
  | .tuple elems _ => .tuple (Ty.canonicalEach elems) false
  | .bare parenthesized modifiers p => .bare parenthesized modifiers p
  | .other tokens => .other tokens

/-- The canonical spelling of each type of a list. -/
def Source.Ty.canonicalEach : List Ty → List Ty
  | [] => []
  | ty :: rest => ty.canonical :: Ty.canonicalEach rest

/-- A segment with its arguments in canonical spelling. -/
def Source.Segment.canonical : Segment → Segment
  | .angled name turbofish args trailing =>
    .angled name turbofish (Argument.canonicalEach args) trailing
  | .plain name => .plain name
  | .called name tokens => .called name tokens

/-- Arguments with their types in canonical spelling. -/
def Source.Argument.canonicalEach : List Argument → List Argument
  | [] => []
  | .type ty :: rest => .type ty.canonical :: Argument.canonicalEach rest
  | .lifetime name :: rest => .lifetime name :: Argument.canonicalEach rest
  | .other tokens :: rest => .other tokens :: Argument.canonicalEach rest

end

/-! ## What is looked through -/

/-- Whether a type, but for parentheses and groups, is a reference or an `Option`. -/
def Source.Ty.isWrapped : Ty → Bool
  | .paren inner => inner.isWrapped
  | .group inner => inner.isWrapped
  | .reference .. => true
  | .path p => canonicalName p = "Option" && p.last.typeArguments.length = 1
  | _ => false

theorem typeArguments_canonical (s : Segment) :
    s.canonical.typeArguments = s.typeArguments.map Ty.canonical := by
  cases s with
  | angled name turbofish args trailing =>
    rw [Segment.canonical, Segment.typeArguments, Segment.typeArguments]
    induction args with
    | nil => rfl
    | cons a rest ih =>
      cases a <;> simp [List.filterMap_cons, Argument.canonicalEach, Argument.type?, ih]
  | _ => rfl

theorem name_canonical (s : Segment) : s.canonical.name = s.name := by
  cases s <;> rfl

theorem name_rename (name : String) (s : Segment) : (s.rename name).name = name := by
  cases s <;> rfl

theorem typeArguments_rename (name : String) (s : Segment) :
    (s.rename name).typeArguments = s.typeArguments := by
  cases s <;> rfl

theorem canonicalName_congr {p q : Path} (h : p.names = q.names) :
    canonicalName p = canonicalName q := by
  unfold canonicalName writtenName
  rw [h]

/-- The names of a path depend on the name of its last segment alone, whatever its arguments. -/
theorem names_congr (leading : Bool) (qualifier : List Segment) {s t : Segment}
    (h : s.name = t.name) :
    (Path.segments leading qualifier s).names = (Path.segments leading qualifier t).names := by
  rw [Path.names, Path.names, Path.all, Path.all, List.map_append, List.map_append,
    List.map_singleton, List.map_singleton, h]

theorem canonicalName_canonical (leading : Bool) (qualifier : List Segment) (last : Segment) :
    canonicalName (.segments leading qualifier last.canonical) =
      canonicalName (.segments leading qualifier last) :=
  canonicalName_congr (names_congr leading qualifier (name_canonical last))

theorem typeArguments_short (p : Path) : p.short.last.typeArguments = p.last.typeArguments := by
  unfold Path.short
  split
  · rfl
  · exact typeArguments_rename _ _

/-- **A short name is canonical.** -/
theorem canonicalName_short (p : Path) : canonicalName p.short = canonicalName p := by
  unfold Path.short
  split
  · rfl
  · rename_i hne
    have hshort : ∀ e ∈ canonicalPaths, canonicalPaths.find? (·.1 == e.2) = none := by decide
    cases hfind : canonicalPaths.find? (·.1 == writtenName p) with
    | none => exact absurd (by unfold canonicalName; rw [hfind]; rfl) hne
    | some e =>
      have hname : canonicalName p = e.2 := by
        unfold canonicalName
        rw [hfind]
        rfl
      have hwritten : writtenName (.segments false [] (p.last.rename e.2)) = e.2 := by
        rw [writtenName, Path.names, Path.all, List.nil_append, List.map_singleton, name_rename]
        rfl
      rw [hname]
      unfold canonicalName
      rw [hwritten, hshort e (List.mem_of_find?_eq_some hfind)]
      rfl

/-- The canonical spelling of a path is wrapped if the path is. -/
theorem isWrapped_shortType (p : Path) : p.shortType.isWrapped = (Ty.path p).isWrapped := by
  have hshort : (Ty.path p.short).isWrapped = (Ty.path p).isWrapped := by
    rw [Ty.isWrapped, Ty.isWrapped, canonicalName_short, typeArguments_short]
  unfold Path.shortType
  split
  · rename_i arg harg
    split
    · rename_i hoption
      have hname : canonicalName (.segments false [] (.angled "Option" false [.type arg] false)) =
          "Option" := by rfl
      rw [optionOf, Ty.isWrapped, Ty.isWrapped, hname, hoption, harg]
      rfl
    · exact hshort
  · exact hshort

/-- **Spelling does not change what a type is wrapped in.** -/
theorem isWrapped_canonical : ∀ t : Ty, t.canonical.isWrapped = t.isWrapped
  | .paren inner | .group inner => by
    rw [Ty.canonical, Ty.isWrapped]
    exact isWrapped_canonical inner
  | .reference .. => rfl
  | .path (.segments leading qualifier last) => by
    rw [Ty.canonical, isWrapped_shortType, Ty.isWrapped, Ty.isWrapped, canonicalName_canonical,
      Path.last, Path.last, typeArguments_canonical, List.length_map]
  | .tuple .. => rfl
  | .bare .. => rfl
  | .other _ => rfl

/-! ## Resolving -/

theorem resolveSegment_eq (s : Segment) : resolveSegment s = s.typeArguments.map resolve := by
  cases s with
  | angled name turbofish args trailing =>
    rw [resolveSegment, Segment.typeArguments]
    induction args with
    | nil => rfl
    | cons a rest ih => cases a <;> simp [List.filterMap_cons, resolveArguments, Argument.type?, ih]
  | _ => rfl

theorem length_resolveSegment (s : Segment) :
    (resolveSegment s).length = s.typeArguments.length := by
  rw [resolveSegment_eq, List.length_map]

theorem resolve_path (p : Path) :
    resolve (.path p) = resolvePath p (p.last.typeArguments.map resolve) := by
  obtain ⟨leading, qualifier, last⟩ := p
  rw [resolve, resolveSegment_eq]
  rfl

theorem resolvePath_of_option {p : Path} (h : canonicalName p = "Option") (inner : ResolvedType) :
    resolvePath p [inner] = { inner with nullable := true } := by
  unfold resolvePath
  rw [h]
  rfl

theorem resolvePath_of_other {p : Path} {args : List ResolvedType}
    (h : ¬ (canonicalName p = "Option" ∧ args.length = 1)) :
    (resolvePath p args).ty = .path p ∧ (resolvePath p args).nullable = false := by
  simp only [resolvePath]
  split
  · rename_i inner hoption
    exact absurd ⟨beq_iff_eq.1 hoption, rfl⟩ h
  · exact ⟨rfl, rfl⟩
  · exact ⟨rfl, rfl⟩

mutual

/-- **What resolving keeps is not wrapped.** -/
theorem isWrapped_resolve : ∀ t : Ty, (resolve t).ty.isWrapped = false
  | .paren inner | .group inner => by
    rw [resolve]
    exact isWrapped_resolve inner
  | .reference _ _ target => by
    rw [resolve]
    exact isWrapped_resolve target
  | .path (.segments leading qualifier last) => by
    rw [resolve]
    by_cases h : canonicalName (.segments leading qualifier last) = "Option" ∧
      (resolveSegment last).length = 1
    · obtain ⟨inner, hargs⟩ := List.length_eq_one_iff.1 h.2
      rw [hargs, resolvePath_of_option h.1]
      exact isWrapped_resolveSegment last inner (hargs ▸ List.mem_singleton_self inner)
    · rw [(resolvePath_of_other h).1, Ty.isWrapped, Path.last, ← length_resolveSegment]
      simpa using h
  | .tuple .. => rfl
  | .bare .. => rfl
  | .other _ => rfl

theorem isWrapped_resolveSegment :
    ∀ (s : Segment), ∀ r ∈ resolveSegment s, r.ty.isWrapped = false
  | .plain _, _, h => by cases h
  | .angled _ _ args _, r, h => by
    rw [resolveSegment] at h
    exact isWrapped_resolveArguments args r h
  | .called .., _, h => by cases h

theorem isWrapped_resolveArguments :
    ∀ (args : List Argument), ∀ r ∈ resolveArguments args, r.ty.isWrapped = false
  | [], _, h => by cases h
  | .type ty :: rest, r, h => by
    rw [resolveArguments] at h
    obtain rfl | hmem := List.mem_cons.1 h
    · exact isWrapped_resolve ty
    · exact isWrapped_resolveArguments rest r hmem
  | .lifetime _ :: rest, r, h => by
    rw [resolveArguments] at h
    exact isWrapped_resolveArguments rest r h
  | .other _ :: rest, r, h => by
    rw [resolveArguments] at h
    exact isWrapped_resolveArguments rest r h

end

/-- A type that is not wrapped is resolved to itself, but for its spelling. -/
theorem canonical_resolve_of_not_isWrapped :
    ∀ {t : Ty}, t.isWrapped = false → (resolve t).ty.canonical = t.canonical
  | .paren inner, h | .group inner, h => by
    rw [resolve, Ty.canonical]
    exact canonical_resolve_of_not_isWrapped (t := inner) h
  | .reference .., h => by cases h
  | .path (.segments leading qualifier last), h => by
    rw [Ty.isWrapped, Path.last, ← length_resolveSegment] at h
    rw [resolve, (resolvePath_of_other (by simpa using h)).1]
  | .tuple .., _ => rfl
  | .bare .., _ => rfl
  | .other _, _ => rfl

/-- **Resolving keeps a type exactly when it looks through nothing** but parentheses and groups. -/
theorem canonical_resolve (t : Ty) :
    (resolve t).ty.canonical = t.canonical ↔ t.isWrapped = false := by
  refine ⟨fun h => ?_, canonical_resolve_of_not_isWrapped⟩
  rw [← isWrapped_canonical, ← h, isWrapped_canonical]
  exact isWrapped_resolve t

end GraphRepo

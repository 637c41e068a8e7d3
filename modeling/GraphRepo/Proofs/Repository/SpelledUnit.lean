import Mathlib
import GraphRepo.Proofs.Database.SaveCall
import GraphRepo.Proofs.Repository.Defects
import GraphRepo.Proofs.Repository.FactoryFunction
import GraphRepo.Proofs.Repository.Hygiene
import GraphRepo.Proofs.Repository.Innermost
import GraphRepo.Proofs.Repository.OkType
import GraphRepo.Proofs.Repository.Plan
import GraphRepo.Proofs.Repository.SpelledCode

/-!
# Units that can be written

What a unit is put together from is taken out of its trait: the types of the base trait, signatures,
the types that rows are decoded into and names, two of which are made from the name of the trait. So
the unit can be written if the trait can.
-/

namespace GraphRepo

open Source Relation

/-! ## Types -/

theorem isSpelled_of_mem_typeArguments {s : Segment} (h : s.IsSpelled) {ty : Ty}
    (hty : ty ∈ s.typeArguments) : ty.IsSpelled := by
  cases s with
  | angled name turbofish args trailing =>
    rw [Segment.IsSpelled] at h
    obtain ⟨a, ha, harg⟩ := List.mem_filterMap.1 hty
    have hspelled := Argument.allSpelled_iff.1 h.2 a ha
    cases a with
    | type inner =>
      cases harg
      rwa [Argument.IsSpelled] at hspelled
    | _ => cases harg
  | _ => cases hty

theorem Source.Path.IsSpelled.last {p : Path} (h : p.IsSpelled) : p.last.IsSpelled := by
  cases p with
  | segments leading qualifier last =>
    rw [Path.IsSpelled] at h
    exact h.2

theorem LooksInto.isSpelled {t u : Ty} (h : LooksInto t u) (ht : t.IsSpelled) : u.IsSpelled := by
  cases h with
  | paren | group => rwa [Ty.IsSpelled] at ht
  | reference =>
    rw [Ty.IsSpelled] at ht
    exact ht.2
  | option hname honly =>
    rw [Ty.IsSpelled] at ht
    exact isSpelled_of_mem_typeArguments ht.last (by simp [honly])

theorem isSpelled_resolve {t : Ty} (h : t.IsSpelled) : (resolve t).ty.IsSpelled := by
  have hinward {u : Ty} (hu : ReflTransGen LooksInto t u) : u.IsSpelled := by
    induction hu with
    | refl => exact h
    | tail _ hstep ih => exact hstep.isSpelled ih
  exact hinward (endsWith_resolve t).reached

theorem isSpelled_okType : ∀ {t ok : Ty}, okType? t = some ok → t.IsSpelled → ok.IsSpelled
  | .paren inner, ok, hok, h | .group inner, ok, hok, h => by
    rw [Ty.IsSpelled] at h
    rw [okType?] at hok
    exact isSpelled_okType hok h
  | .path p, ok, hok, h => by
    rw [Ty.IsSpelled] at h
    rw [okType?] at hok
    split_ifs at hok
    refine isSpelled_of_mem_typeArguments h.last ?_
    split at hok
    · next heq => cases hok; simp [heq]
    · next heq => cases hok; simp [heq]
    · cases hok
  | .reference _ _ _, ok, hok, h => by cases hok
  | .tuple _ _, ok, hok, h => by cases hok
  | .bare _ _ _, ok, hok, h => by cases hok
  | .other _, ok, hok, h => by cases hok

theorem isSpelled_of_shaped {declared : Ty} {shape : ReturnShape} (hshape : Shaped declared shape)
    (h : declared.IsSpelled) : ∀ r ∈ shape.type?, r.ty.IsSpelled := by
  intro r hr
  cases hshape with
  | void => cases hr
  | @nullable p arg honly =>
    cases hr
    rw [Ty.IsSpelled] at h
    exact isSpelled_resolve (isSpelled_of_mem_typeArguments h.last (by simp [honly]))
  | @collection p arg honly =>
    cases hr
    rw [Ty.IsSpelled] at h
    exact isSpelled_resolve (isSpelled_of_mem_typeArguments h.last (by simp [honly]))
  | nonNull =>
    cases hr
    exact isSpelled_resolve h

theorem isSpelled_returnShape {output : Option Ty} {shape : ReturnShape}
    (hshape : returnShape output = .ok shape) (h : ∀ ty ∈ output, ty.IsSpelled) :
    ∀ r ∈ shape.type?, r.ty.IsSpelled := by
  cases output with
  | none => cases hshape
  | some ty =>
    rw [returnShape] at hshape
    cases hok : okType? ty with
    | none => rw [hok] at hshape; cases hshape
    | some ok =>
      rw [hok] at hshape
      cases hshape
      exact isSpelled_of_shaped (shaped_shapeOf ok) (isSpelled_okType hok (h ty rfl))

/-! ## Methods -/

theorem Source.Input.IsSpelled.strip {input : Input} (h : input.IsSpelled) :
    (stripInput input).IsSpelled := by
  cases input with
  | receiver => exact h
  | typed attributes pattern type =>
    exact ⟨fun a ha => h.1 a (List.mem_of_mem_filter ha), h.2⟩

theorem Source.Signature.IsSpelled.strip {s : Signature} (h : s.IsSpelled) :
    (stripSignature s).IsSpelled :=
  { h with inputs := List.forall_mem_map.2 fun input hinput => (h.inputs input hinput).strip }

/-- What the code of a method is made from can be written. -/
structure MethodDeclaration.IsSpelled (m : MethodDeclaration) : Prop where
  signature : m.signature.IsSpelled
  parameters : ∀ p ∈ m.parameters, (TokenTree.ident p.name).StandsAlone
  returns : ∀ r ∈ m.returns.type?, r.ty.IsSpelled

theorem standsAlone_of_declaredAs {inputs : List Input} {ps : List Parameter}
    (hdeclared : List.Forall₂ Input.DeclaredAs inputs ps) (h : ∀ i ∈ inputs, i.IsSpelled) :
    ∀ p ∈ ps, (TokenTree.ident p.name).StandsAlone := by
  induction hdeclared with
  | nil => simp
  | cons hfirst _ ih =>
    obtain ⟨attributes, type, rfl, -⟩ := hfirst
    obtain ⟨hinput, hrest⟩ := List.forall_mem_cons.1 h
    exact List.forall_mem_cons.2 ⟨(spelled_ident_cons.1 hinput.2.1).1, ih hrest⟩

theorem isSpelled_of_readSignature {interface : String} {s : Signature} {markers : Markers}
    {m : MethodDeclaration} (hread : readSignature interface s markers = .ok m)
    (h : s.IsSpelled) : m.IsSpelled := by
  have hparameters := standsAlone_of_declaredAs (readSignature_parameters hread) fun i hi =>
    h.inputs i (List.mem_of_mem_filter hi)
  obtain ⟨-, -, parameters, returns, -, hreturns, rfl⟩ := readSignature_eq_ok hread
  exact ⟨h.strip, hparameters, isSpelled_returnShape hreturns h.output⟩

theorem isSpelled_query (text : String) {bindings : List Binding}
    (hbindings : ∀ b ∈ bindings, (TokenTree.ident b.parameter).StandsAlone) {returns : ReturnShape}
    (hreturns : ∀ r ∈ returns.type?, r.ty.IsSpelled) (context : String) :
    (MethodBody.query text bindings (.ofShape context returns)).code.IsSpelled := by
  have hwords := standsAlone_codeWords
  simp only [codeWords, List.Forall] at hwords
  have hsteps : ∀ s ∈ bindingSteps bindings, s.IsSpelled :=
    List.forall_mem_cons.2 ⟨trivial, List.forall_mem_map.2 hbindings⟩
  have hrows : (TokenTree.ident rowsLocal).StandsAlone := by simp [hwords]
  have hfound : (TokenTree.ident foundLocal).StandsAlone := by simp [hwords]
  have huse : (RowUse.ofShape context returns).code.IsSpelled := by
    cases returns with
    | void => exact ⟨List.forall_mem_singleton.2 trivial, trivial⟩
    | collection element =>
      have hty := (hreturns element rfl).tokens
      exact ⟨List.forall_mem_singleton.2 ⟨hrows, hty⟩, hrows⟩
    | nonNull ty => exact ⟨List.forall_mem_nil _, (hreturns ty rfl).tokens⟩
    | nullable ty =>
      have hty := (hreturns ty rfl).tokens
      exact ⟨List.forall_mem_singleton.2 ⟨hfound, hty⟩, hfound⟩
  refine ⟨?_, huse.ending⟩
  exact List.forall_mem_cons.2 ⟨trivial, List.forall_mem_append.2 ⟨hsteps, huse.steps⟩⟩

theorem Saving.isSpelled {c : Classified} {p : Parameter} (h : Saving c p)
    (hname : (TokenTree.ident p.name).StandsAlone) (interface : String) :
    (c.body interface).code.IsSpelled := by
  have hhook : ∀ s ∈ hookSteps p.name p.passing, s.IsSpelled := by
    refine List.forall_mem_append.2 ⟨?_, List.forall_mem_singleton.2 hname⟩
    split
    · exact List.forall_mem_nil _
    · exact List.forall_mem_singleton.2 hname
  have hpreparation : ∀ s ∈ c.preparation p, s.IsSpelled := by
    rw [Classified.preparation]
    split
    · exact hhook
    · exact List.forall_mem_nil _
  rw [h.code]
  refine ⟨List.forall_mem_append.2 ⟨hpreparation, List.forall_mem_singleton.2 hname⟩, ?_⟩
  dsimp only
  split
  · exact hname
  · trivial

theorem Accepted.isSpelled_code {item : Item} {modulePath : Option String} {d : Declaration}
    {c : Classified} (h : Accepted item modulePath d c) (hmethod : c.method.IsSpelled)
    (interface : String) : (c.body interface).code.IsSpelled := by
  have hsave (hsaves : c.behavior = .insert ∨ c.behavior = .update) :
      (c.body interface).code.IsSpelled := by
    obtain ⟨p, hp⟩ := h.saving hsaves
    exact hp.isSpelled (hmethod.parameters p (by simp [hp.parameters])) interface
  cases hbehavior : c.behavior with
  | query text =>
    rw [Classified.body_of_query hbehavior]
    exact isSpelled_query text (List.forall_mem_map.2 hmethod.parameters) hmethod.returns _
  | insert => exact hsave (.inl hbehavior)
  | update => exact hsave (.inr hbehavior)

/-! ## Names -/

/-- What a name has behind its mark is a word without one. -/
theorem plainName_of_standsAlone {name : String} (h : (TokenTree.ident name).StandsAlone) :
    plainIdentEnd (Declaration.plainName name).toList = some [] ∧
      (Declaration.plainName name = name ∨ name = "r#" ++ Declaration.plainName name) := by
  refine ⟨?_, plain_or_raw name⟩
  have hident := h.isIdent
  generalize hcs : name.toList = cs at hident
  cases hident with
  | plain hword =>
    rcases plain_or_raw name with hname | hname
    · rw [hname, hcs, hword]
    · have hsharp : '#' ∈ cs := by
        rw [← hcs, hname, toList_raw]
        simp
      have hno : ¬ Text.isIdentContinue '#' := Text.not_isIdentContinue_of_mem (by decide)
      exact absurd (isIdentContinue_of_word hword '#' hsharp) hno
  | @raw word hword =>
    have hname : name = "r#" ++ String.ofList word := by
      rw [← String.toList_inj, toList_raw, hcs, String.toList_ofList]
    rw [hname, plainName_raw, String.toList_ofList, hword]

theorem standsAlone_implName {d : Declaration} (h : (TokenTree.ident d.name).StandsAlone) :
    (TokenTree.ident d.implName).StandsAlone := by
  have hsuffix : plainIdentEnd "Impl".toList = some [] := by cbv
  obtain ⟨c, rest, hname, hc, hrest⟩ := plainIdentEnd_eq_some.1 (plainName_of_standsAlone h).1
  refine standsAlone_word ?_
  rw [Declaration.implName, String.toList_append, hname, List.cons_append, plainIdentEnd, if_pos hc,
    List.dropWhile_append_of_pos (List.dropWhile_eq_nil_iff.1 hrest),
    List.dropWhile_eq_nil_iff.2 (isIdentContinue_of_word hsuffix)]

theorem standsAlone_factory {d : Declaration} {factory : String}
    (h : d.factoryName = .ok factory) : (TokenTree.ident factory).StandsAlone := by
  have hform := identifier_isOk.1 ⟨factory, h⟩
  refine standsAlone_word ?_
  rw [eq_of_identifier h]
  cases hsnake : (snake d.name).toList with
  | nil =>
    rw [hsnake] at hform
    cases hform
  | cons c rest =>
    rw [hsnake, hasIdentifierForm, Bool.and_eq_true, List.all_eq_true] at hform
    rw [plainIdentEnd, if_pos hform.1, List.dropWhile_eq_nil_iff.2 hform.2]

/-! ## The unit -/

theorem isSpelled_baseArguments {t : Trait} {entity id : Ty}
    (h : baseArguments t = .ok (entity, id)) (ht : t.IsSpelled) : entity.IsSpelled ∧ id.IsSpelled := by
  rw [baseArguments] at h
  split at h
  · next name turbofish args trailing hfind =>
    have hbound : ∀ s ∈ boundSegments t.bounds, s.IsSpelled := by
      intro s hs
      obtain ⟨bound, hmem, hlast⟩ := List.mem_filterMap.1 hs
      have hspelled := ht.bounds bound hmem
      cases bound with
      | trait parenthesized modifiers path =>
        cases hlast
        exact hspelled.2.last
      | _ => cases hlast
    have hsegment := hbound _ (List.mem_of_find?_eq_some hfind)
    split at h
    · next heq =>
      cases h
      exact ⟨isSpelled_of_mem_typeArguments hsegment (by simp [heq]),
        isSpelled_of_mem_typeArguments hsegment (by simp [heq])⟩
    · cases h
  · cases h

theorem Accepted.isSpelled {t : Trait} {modulePath : Option String} {d : Declaration}
    {c : Classified} (h : Accepted (.trait t) modulePath d c) (ht : t.IsSpelled) :
    c.method.IsSpelled := by
  obtain ⟨t', m, markers, hitem, -, hmem, -, -, hread⟩ := h.source
  cases hitem
  have hm : m.IsSpelled := ht.members _ hmem
  exact isSpelled_of_readSignature hread hm.signature

/-- **The code for a trait that can be written can be written.** -/
theorem spelled_of_planOf {t : Trait} {p : Plan} (hplan : planOf t = .ok p) (h : t.IsSpelled)
    {runtime : Tokens} (hruntime : Spelled runtime) : Spelled (p.assembly runtime).tokens := by
  obtain ⟨hread, hclassify, hfactory⟩ := planOf_eq_ok.1 hplan
  obtain ⟨-, entity, id, found, hbase, -, hd⟩ := readTrait_eq_ok hread
  obtain ⟨hentity, hid⟩ := isSpelled_baseArguments hbase h
  have hname : (TokenTree.ident p.declaration.name).StandsAlone := by
    rw [hd]
    exact (spelled_ident_cons.1 h.name).1
  have hmethods : ∀ c ∈ p.classified, Spelled (c.tokens runtime p.declaration.name) := by
    intro c hc
    have haccepted : Accepted (.trait t) none p.declaration c := ⟨hread, p.classified, hclassify, hc⟩
    have hmethod := haccepted.isSpelled h
    exact hmethod.signature.tokens.append
      ((haccepted.isSpelled_code hmethod _).tokens hruntime).inGroup
  exact Assembly.IsSpelled.tokens
    { runtime := hruntime
      name := hname
      implName := standsAlone_implName hname
      factory := standsAlone_factory hfactory
      visibility := by rw [Plan.assembly, hd]; exact h.visibility
      entity := by rw [Plan.assembly, hd]; exact hentity.tokens
      id := by rw [Plan.assembly, hd]; exact hid.tokens
      methods := List.forall_mem_map.2 hmethods }

end GraphRepo

import Mathlib
import GraphRepo.Proofs.Database.QueryCall
import GraphRepo.Proofs.Repository.Defects
import GraphRepo.Proofs.Repository.Emitted
import GraphRepo.Proofs.Repository.OkType

/-!
# Names of the user in generated code

Generated code binds names of its own around what the user wrote: the locals of a body, and the type
parameter `S` of the implementation. The check of parameters reads their names as they are written.
So a parameter has the name of a local exactly if it is written as its raw identifier, and then it
stands for the local. Types are taken over as they are, but for what is looked through when rows are
decoded, so the implementation looks up the names that the trait does: a type that is called `S` is
taken for the parameter.
-/

namespace GraphRepo

open Source Declaration

variable {α β : Type}

/-! ## Parameters and locals -/

theorem toList_raw (l : String) : ("r#" ++ l).toList = 'r' :: '#' :: l.toList := by
  rw [String.toList_append]
  rfl

theorem plainName_raw (l : String) : plainName ("r#" ++ l) = l := by
  unfold plainName
  rw [toList_raw]
  exact String.ofList_toList

theorem plain_or_raw (name : String) : plainName name = name ∨ name = "r#" ++ plainName name := by
  by_cases hraw : ∃ rest, name.toList = 'r' :: '#' :: rest
  · obtain ⟨rest, hrest⟩ := hraw
    have hname : name = "r#" ++ String.ofList rest := by
      rw [← String.toList_inj, hrest, toList_raw, String.toList_ofList]
    rw [hname, plainName_raw]
    exact .inr rfl
  · left
    unfold plainName
    split
    · rename_i rest hrest
      exact absurd ⟨rest, hrest⟩ hraw
    · rfl

/-- An identifier is a name if it is written as that name or as its raw form. -/
theorem plainName_eq_iff {l : String} (hl : plainName l = l) (name : String) :
    plainName name = l ↔ name = l ∨ name = "r#" ++ l := by
  constructor
  · rintro rfl
    exact (plain_or_raw name).imp_left Eq.symm
  · rintro (rfl | rfl)
    · exact hl
    · exact plainName_raw l

/-- The names that bodies of queries declare. -/
def bodyLocals : List String := [queryLocal, paramsLocal, rowsLocal, foundLocal]

theorem plainName_of_mem_bodyLocals : ∀ l ∈ bodyLocals, plainName l = l := by decide

theorem reserved_of_mem_bodyLocals :
    ∀ l ∈ bodyLocals, reservedPrefix.isPrefixOf l.toList = true := by
  decide

/-- A name that is not reserved is a local of a body exactly if it is written as its raw form. -/
theorem plainName_mem_iff {locals : List String} (hlocals : ∀ l ∈ locals, l ∈ bodyLocals)
    {name : String} (hname : reservedPrefix.isPrefixOf name.toList = false) :
    plainName name ∈ locals ↔ ∃ l ∈ locals, name = "r#" ++ l := by
  constructor
  · intro h
    have hbody := hlocals _ h
    refine ⟨plainName name, h, ?_⟩
    obtain heq | hraw := (plainName_eq_iff (plainName_of_mem_bodyLocals _ hbody) name).1 rfl
    · have hreserved := reserved_of_mem_bodyLocals _ hbody
      rw [← heq, hname] at hreserved
      cases hreserved
    · exact hraw
  · rintro ⟨l, hl, rfl⟩
    rwa [plainName_raw]

theorem not_reserved_of_readInput {interface method : String} {i : Input} {p : Parameter}
    (h : readInput interface method i = .ok (some p)) :
    reservedPrefix.isPrefixOf p.name.toList = false := by
  unfold readInput at h
  split at h
  · cases h
  · split at h
    · cases h
    · rename_i hreserved
      split at h
      · cases h
      · cases h
        exact Bool.eq_false_of_not_eq_true hreserved
  · cases h

section

variable {item : Item} {modulePath : Option String} {d : Declaration} {c : Classified}
  {text : String} {p : Parameter}

/-- No parameter of an accepted method is written with the prefix of the locals. -/
theorem Accepted.not_reserved (h : Accepted item modulePath d c) (hp : p ∈ c.method.parameters) :
    reservedPrefix.isPrefixOf p.name.toList = false := by
  obtain ⟨t, m, markers, -, -, -, -, -, hsignature⟩ := h.source
  obtain ⟨-, -, parameters, returns, hinputs, -, hm⟩ := readSignature_eq_ok hsignature
  rw [hm] at hp
  obtain ⟨p?, hp?, hsome⟩ := List.mem_filterMap.1 hp
  have hread : .ok p? ∈ m.signature.inputs.map (readInput d.name m.signature.name) := by
    rw [hinputs]
    exact List.mem_map_of_mem hp?
  obtain ⟨i, -, hi⟩ := List.mem_map.1 hread
  rw [id_eq] at hsome
  rw [hsome] at hi
  exact not_reserved_of_readInput hi

theorem RowUse.locals_code (use : RowUse) : ∀ l ∈ use.code.locals, l ∈ [rowsLocal, foundLocal] := by
  cases use <;> simp [RowUse.code, Code.locals, Step.locals, Ending.locals]

/-- A body of a query declares its text, its parameters and what it reads. -/
theorem locals_of_query (hq : c.behavior = .query text) (interface : String) :
    (c.body interface).code.locals = queryLocal :: paramsLocal ::
      (RowUse.ofShape (interface ++ "::" ++ c.method.name) c.method.returns).code.locals := by
  have hinserts : (c.method.bindings.map Step.insert).flatMap Step.locals = [] := by
    rw [List.flatMap_eq_nil_iff]
    intro step hstep
    obtain ⟨b, -, rfl⟩ := List.mem_map.1 hstep
    rfl
  rw [Classified.code_of_query hq]
  simp only [Code.locals, List.flatMap_cons, List.flatMap_append, hinserts, Step.locals]
  rfl

theorem mem_bodyLocals_of_query (hq : c.behavior = .query text) (interface : String) :
    ∀ l ∈ (c.body interface).code.locals, l ∈ bodyLocals := by
  intro l hl
  rw [locals_of_query hq] at hl
  unfold bodyLocals
  obtain rfl | hl := List.mem_cons.1 hl
  · exact List.mem_cons_self
  · obtain rfl | hl := List.mem_cons.1 hl
    · exact List.mem_cons_of_mem _ List.mem_cons_self
    · exact List.mem_cons_of_mem _ (List.mem_cons_of_mem _ (RowUse.locals_code _ l hl))

/-- **While the parameters are written, one stands for its argument** unless it is written as the
raw form of the text or of the parameters. -/
theorem Accepted.lookup_parameter (h : Accepted item modulePath d c) (hq : c.behavior = .query text)
    (hp : p ∈ c.method.parameters) (arguments : String → Datum) (given : α) (params : Params) :
    (queryScope text params (c.scope arguments given : Scope α β)).lookup (plainName p.name) =
        some (.datum (arguments (plainName p.name))) ↔
      p.name ≠ "r#" ++ queryLocal ∧ p.name ≠ "r#" ++ paramsLocal := by
  have hreserved := h.not_reserved hp
  have hfree (l : String) (hl : l ∈ bodyLocals) : plainName p.name = l ↔ p.name = "r#" ++ l := by
    have hmem := @plainName_mem_iff [l] (by simpa using hl) p.name hreserved
    simpa using hmem
  rw [ne_eq, ne_eq, ← hfree queryLocal (by simp [bodyLocals]),
    ← hfree paramsLocal (by simp [bodyLocals])]
  constructor
  · intro hlookup
    unfold queryScope at hlookup
    constructor
    · intro hquery
      rw [hquery] at hlookup
      cases hlookup
    · intro hparams
      rw [hparams] at hlookup
      cases hlookup
  · rintro ⟨hquery, hparams⟩
    rw [lookup_queryScope hquery hparams]
    exact Classified.lookup_scope hq arguments given hp

/-- **A parameter that is the text of the query is written as that text**, whatever its argument
is. -/
theorem run_binding_of_queryLocal {σ : Type} {b : Binding} (hb : plainName b.parameter = queryLocal)
    (world : σ) (scope : Scope α β) (params : Params) :
    b.run.run (queryFrame world text scope params) =
      .ok () (queryFrame world text scope (params.set b.key (.string text))) := by
  have hlookup : (queryScope text params scope).lookup (plainName b.parameter) =
      some (.text text) := by
    rw [hb]
    rfl
  have hread : (Work.lookUp LocalValue.datum? b.parameter).run
      (queryFrame world text scope params) =
        .ok (.json (.string text)) (queryFrame world text scope params) :=
    Work.run_lookUp hlookup rfl
  have hwrite : (Work.ofAction (Action.ofExcept (Datum.json (.string text)).toParameter)).run
      (queryFrame world text scope params) =
        .ok (.string text) (queryFrame world text scope params) := rfl
  unfold Binding.run
  rw [run_bind_ok hread, run_bind_ok hwrite,
    run_bind_ok (run_lookUp_paramsLocal world text scope params)]
  exact run_assign_paramsLocal world text scope params _

/-- A query method whose only parameter is the text of the query sends that text twice. -/
theorem call_of_queryLocal {σ : Type} (hq : c.behavior = .query text)
    (honly : c.method.parameters = [p]) (hname : plainName p.name = queryLocal)
    (interface : String) (session : Session σ) (entity : Entity α) (decoder : Ty → Decoder β)
    (order : β → β → Ordering) (arguments : String → Datum) (given : α) (log : List Call) (s : σ) :
    (c.call interface session.watched entity decoder order arguments given).run (log, s) =
      c.method.returns.answer (interface ++ "::" ++ c.method.name) session decoder
        ((containerOf c.method.signature.output).arrange order) text [(p.key, .string text)] log
        s := by
  let around : Surroundings (List Call × σ) α β := ⟨session.watched, entity, decoder,
    (containerOf c.method.signature.output).arrange order⟩
  have hcall :
      (c.call interface session.watched entity decoder order arguments given).run (log, s) =
        Work.left (((c.body interface).code.run around).run ⟨(log, s), c.scope arguments given⟩) :=
    rfl
  have hbindings : c.method.bindings = [⟨p.key, p.name⟩] := by
    rw [MethodDeclaration.bindings, honly, List.map_singleton]
  have hinsert := @run_binding_of_queryLocal α β text (List Call × σ) ⟨p.key, p.name⟩ hname (log, s)
    (c.scope arguments given) []
  have hinserts : (runSteps around (c.method.bindings.map .insert)).run
      (queryFrame (log, s) text (c.scope arguments given) []) =
        .ok () (queryFrame (log, s) text (c.scope arguments given) [(p.key, .string text)]) := by
    rw [hbindings]
    exact run_bind_ok hinsert
  rw [hcall, run_code_of_query hq, run_bind_ok hinserts]
  exact left_run_use _ session entity decoder _ text _ log s _ c.method.returns

end

/-! ## Types -/

mutual

/-- The identifiers in a token tree, at any depth. -/
def Source.TokenTree.names : TokenTree → List String
  | .ident name => [plainName name]
  | .group _ body => Tokens.names body
  | .punct .. => []
  | .literal _ => []

/-- The identifiers in some tokens, at any depth. -/
def Source.Tokens.names : List TokenTree → List String
  | [] => []
  | t :: rest => t.names ++ Tokens.names rest

end

mutual

/-- The names that a type looks up where it stands. A path looks up the first of its names, unless
it starts with `::`. Of a form that is kept as tokens every name counts. -/
def Source.Ty.roots : Ty → List String
  | .paren inner => inner.roots
  | .group inner => inner.roots
  | .reference _ _ target => target.roots
  | .path p => p.roots
  | .tuple elems _ => Ty.rootsOfEach elems
  | .bare _ modifiers p => Tokens.names modifiers ++ p.roots
  | .other tokens => Tokens.names tokens

def Source.Ty.rootsOfEach : List Ty → List String
  | [] => []
  | ty :: rest => ty.roots ++ Ty.rootsOfEach rest

def Source.Path.roots : Path → List String
  | .segments leading qualifier last =>
    (if leading then [] else [plainName ((qualifier.map Segment.name).headD last.name)])
      ++ Segment.rootsOfEach qualifier ++ last.roots

/-- The names that the arguments of a segment look up. -/
def Source.Segment.roots : Segment → List String
  | .plain _ => []
  | .angled _ _ args _ => Argument.rootsOfEach args
  | .called _ tokens => Tokens.names tokens

def Source.Segment.rootsOfEach : List Segment → List String
  | [] => []
  | s :: rest => s.roots ++ Segment.rootsOfEach rest

def Source.Argument.roots : Argument → List String
  | .lifetime _ => []
  | .type ty => ty.roots
  | .other tokens => Tokens.names tokens

def Source.Argument.rootsOfEach : List Argument → List String
  | [] => []
  | a :: rest => a.roots ++ Argument.rootsOfEach rest

end

theorem roots_of_mem_arguments {a : Argument} : ∀ {args : List Argument}, a ∈ args →
    a.roots ⊆ Argument.rootsOfEach args
  | b :: rest, h => by
    rw [Argument.rootsOfEach]
    obtain rfl | h := List.mem_cons.1 h
    · exact List.subset_append_left _ _
    · exact List.subset_append_of_subset_right _ (roots_of_mem_arguments h)

theorem roots_of_mem_typeArguments {s : Segment} {arg : Ty} (h : arg ∈ s.typeArguments) :
    arg.roots ⊆ s.roots := by
  cases s with
  | angled name turbofish args trailing =>
    obtain ⟨a, ha, harg⟩ := List.mem_filterMap.1 h
    have hroots := roots_of_mem_arguments ha
    cases a with
    | type ty =>
      cases harg
      exact hroots
    | _ => cases harg
  | _ => cases h

theorem roots_last (p : Path) : p.last.roots ⊆ p.roots := by
  obtain ⟨leading, qualifier, last⟩ := p
  rw [Path.roots]
  exact List.subset_append_right _ _

theorem roots_of_only {p : Path} {arg : Ty} (h : p.last.typeArguments = [arg]) :
    arg.roots ⊆ (Ty.path p).roots := by
  have harg : arg.roots ⊆ p.last.roots := roots_of_mem_typeArguments (by rw [h]; simp)
  rw [Ty.roots]
  exact List.Subset.trans harg (roots_last p)

/-! ## What is looked through -/

theorem roots_resolvePath {p : Path} {args : List ResolvedType}
    (hargs : ∀ r ∈ args, r.ty.roots ⊆ p.roots) : (resolvePath p args).ty.roots ⊆ p.roots := by
  unfold resolvePath
  dsimp only
  split
  · rename_i inner _
    exact hargs inner List.mem_cons_self
  · rw [Ty.roots]
    exact List.Subset.refl _
  · rw [Ty.roots]
    exact List.Subset.refl _

mutual

/-- **What a type stands for looks up nothing that the type does not.** -/
theorem roots_resolve : ∀ t : Ty, (resolve t).ty.roots ⊆ t.roots
  | .paren inner | .group inner => by
    rw [resolve, Ty.roots]
    exact roots_resolve inner
  | .reference lifetime exclusive target => by
    rw [resolve, Ty.roots]
    exact roots_resolve target
  | .path (.segments leading qualifier last) => by
    have hargs := roots_resolveSegment last
    rw [resolve, Ty.roots]
    refine roots_resolvePath fun r hr => ?_
    exact List.Subset.trans (hargs r hr) (roots_last (.segments leading qualifier last))
  | .tuple elems trailing => by
    rw [resolve]
    exact List.Subset.refl _
  | .bare parenthesized modifiers p => by
    rw [resolve]
    exact List.Subset.refl _
  | .other tokens => by
    rw [resolve]
    exact List.Subset.refl _

theorem roots_resolveSegment : ∀ s : Segment, ∀ r ∈ resolveSegment s, r.ty.roots ⊆ s.roots
  | .plain name => by simp [resolveSegment]
  | .angled name turbofish args trailing => by
    rw [resolveSegment, Segment.roots]
    exact roots_resolveArguments args
  | .called name tokens => by simp [resolveSegment]

theorem roots_resolveArguments :
    ∀ args : List Argument, ∀ r ∈ resolveArguments args, r.ty.roots ⊆ Argument.rootsOfEach args
  | [] => by simp [resolveArguments]
  | .type ty :: rest => by
    have hty := roots_resolve ty
    have hrest := roots_resolveArguments rest
    rw [resolveArguments, Argument.rootsOfEach, Argument.roots]
    intro r hr
    obtain rfl | hr := List.mem_cons.1 hr
    · exact List.Subset.trans hty (List.subset_append_left _ _)
    · exact List.subset_append_of_subset_right _ (hrest r hr)
  | .lifetime name :: rest => by
    have hrest := roots_resolveArguments rest
    rw [resolveArguments, Argument.rootsOfEach, Argument.roots]
    exact hrest
  | .other tokens :: rest => by
    have hrest := roots_resolveArguments rest
    rw [resolveArguments, Argument.rootsOfEach]
    exact fun r hr => List.subset_append_of_subset_right _ (hrest r hr)

end

theorem roots_of_okType : ∀ {t ok : Ty}, okType? t = some ok → ok.roots ⊆ t.roots
  | .paren inner, ok, h | .group inner, ok, h => by
    rw [okType?] at h
    rw [Ty.roots]
    exact roots_of_okType h
  | .path p, ok, h => by
    have hmem : ok ∈ p.last.typeArguments := by
      rw [okType?] at h
      split at h
      · split at h
        · rename_i hargs
          rw [hargs, Option.some_inj.1 h]
          exact List.mem_cons_self
        · rename_i hargs
          rw [hargs, Option.some_inj.1 h]
          exact List.mem_cons_self
        · cases h
      · cases h
    rw [Ty.roots]
    exact List.Subset.trans (roots_of_mem_typeArguments hmem) (roots_last p)
  | .reference .., _, h => by cases h
  | .tuple .., _, h => by cases h
  | .bare .., _, h => by cases h
  | .other _, _, h => by cases h

/-- What a body decodes looks up nothing that the declared type does not. -/
theorem roots_decoded_of_shaped {declared : Ty} {shape : ReturnShape} (context : String)
    (h : Shaped declared shape) :
    ∀ ty ∈ (RowUse.ofShape context shape).code.decoded, ty.roots ⊆ declared.roots := by
  intro ty hty
  cases h with
  | void unit => cases hty
  | nullable only option =>
    rw [List.mem_singleton.1 hty]
    exact List.Subset.trans (roots_resolve _) (roots_of_only only)
  | collection only sequence =>
    rw [List.mem_singleton.1 hty]
    exact List.Subset.trans (roots_resolve _) (roots_of_only only)
  | nonNull element =>
    rw [List.mem_singleton.1 hty]
    exact roots_resolve declared

/-! ## Implementations -/

def Source.Input.roots : Input → List String
  | .receiver _ _ _ type => type.elim [] Ty.roots
  | .typed _ _ type => type.roots

/-- The names that the types of a signature look up. Of its generics every name counts. -/
def Source.Signature.roots (s : Signature) : List String :=
  s.generics.entries.flatMap (fun entry => Tokens.names entry.2) ++
    Tokens.names s.generics.whereClause ++ s.inputs.flatMap Input.roots ++ s.output.elim [] Ty.roots

/-- The names that a trait looks up for its entity, its identifier and the signatures it asks
for. -/
def Source.Trait.roots (t : Trait) : List String :=
  (match baseArguments t with
    | .ok (entity, key) => entity.roots ++ key.roots
    | .error _ => []) ++ (t.members.filterMap Member.bodiless?).flatMap (·.signature.roots)

/-- The names that a generated method looks up for its signature and for what it decodes. -/
def Classified.roots (interface : String) (c : Classified) : List String :=
  c.method.signature.roots ++ (c.body interface).code.decoded.flatMap Ty.roots

/-- The names that an implementation looks up for the types it is made of. -/
def Declaration.roots (d : Declaration) (cs : List Classified) : List String :=
  d.entity.roots ++ d.id.roots ++ cs.flatMap (Classified.roots d.name)

theorem roots_stripSignature (s : Signature) : (stripSignature s).roots = s.roots := by
  have hinput (i : Input) : (stripInput i).roots = i.roots := by
    cases i <;> rfl
  unfold Signature.roots stripSignature
  rw [List.flatMap_map]
  simp only [hinput]

section

variable {item : Item} {t : Trait} {modulePath : Option String} {d : Declaration} {c : Classified}
  {cs : List Classified}

theorem decoded_save (hook echo : Bool) (entity : String) (passing : Passing) :
    (MethodBody.save hook entity passing echo).code.decoded = [] := by
  cases hook <;> cases passing <;> cases echo <;> rfl

theorem Classified.decoded_of_saving (h : c.behavior = .insert ∨ c.behavior = .update)
    (interface : String) : (c.body interface).code.decoded = [] := by
  unfold Classified.body
  obtain hinsert | hupdate := h
  · rw [hinsert]
    dsimp only
    split <;> exact decoded_save ..
  · rw [hupdate]
    dsimp only
    split <;> exact decoded_save ..

theorem Accepted.roots_decoded (h : Accepted item modulePath d c) :
    ∀ ty ∈ (c.body d.name).code.decoded, ty.roots ⊆ c.method.signature.roots := by
  intro ty hty
  obtain ⟨declared, houtput, hreturns⟩ := h.returns_eq
  obtain ⟨output, hsome, hok⟩ := Option.bind_eq_some_iff.1 houtput
  have hdeclared : declared.roots ⊆ c.method.signature.roots := by
    unfold Signature.roots
    rw [hsome, Option.elim_some]
    exact List.subset_append_of_subset_right _ (roots_of_okType hok)
  refine List.Subset.trans ?_ hdeclared
  cases hbehavior : c.behavior with
  | query text =>
    rw [Classified.body_of_query hbehavior, Code.decoded, readings_query, hreturns] at hty
    exact roots_decoded_of_shaped _ (shaped_shapeOf declared) ty hty
  | insert =>
    rw [Classified.decoded_of_saving (.inl hbehavior)] at hty
    cases hty
  | update =>
    rw [Classified.decoded_of_saving (.inr hbehavior)] at hty
    cases hty

/-- **An implementation looks up the names that its trait does.** -/
theorem mem_roots_iff (hread : readTrait t modulePath = .ok d) (hclassify : classifyAll d = .ok cs)
    (name : String) : name ∈ d.roots cs ↔ name ∈ t.roots := by
  have hmethods := classifyAll_methods hclassify
  have hdecoded (c : Classified) (hc : c ∈ cs) :
      name ∈ c.roots d.name ↔ name ∈ c.method.signature.roots := by
    have haccepted : Accepted (.trait t) modulePath d c := ⟨hread, cs, hclassify, hc⟩
    unfold Classified.roots
    rw [List.mem_append, or_iff_left_iff_imp, List.mem_flatMap]
    rintro ⟨ty, hty, hname⟩
    exact haccepted.roots_decoded ty hty hname
  obtain ⟨-, entity, id, found, hbase, hmembers, rfl⟩ := readTrait_eq_ok hread
  have hsame : (t.members.filterMap Member.bodiless?).map (·.signature.roots) =
      cs.map (·.method.signature.roots) := by
    have hdeclared := methods_of_read hmembers
    dsimp only at hmethods
    rw [hmethods, List.forall₂_map_right_iff] at hdeclared
    rw [← List.forall₂_eq_eq_eq, List.forall₂_map_left_iff, List.forall₂_map_right_iff]
    refine hdeclared.imp fun m c hm => ?_
    rw [hm.signature, roots_stripSignature]
  have hall : name ∈ cs.flatMap (Classified.roots t.name) ↔
      name ∈ (t.members.filterMap Member.bodiless?).flatMap (·.signature.roots) := by
    rw [List.flatMap_def (l := t.members.filterMap _), hsame, ← List.flatMap_def]
    simp only [List.mem_flatMap]
    exact exists_congr fun c => and_congr_right fun hc => hdecoded c hc
  unfold Declaration.roots Trait.roots
  rw [hbase]
  simp only [List.mem_append, hall]

/-- A scope with another meaning for one name gives some names the same meaning unless that one is
among them. -/
theorem map_update_eq_iff {X : Type} {scope : String → X} {name : String} {own : X}
    (hown : own ≠ scope name) (names : List String) :
    names.map (Function.update scope name own) = names.map scope ↔ name ∉ names := by
  rw [List.map_inj_left]
  constructor
  · intro h hmem
    have hsame := h name hmem
    rw [Function.update_self] at hsame
    exact hown hsame
  · intro habsent n hn
    have hne : n ≠ name := by
      rintro rfl
      exact habsent hn
    exact Function.update_of_ne hne own scope

/-- **What is captured of the names of a user.** Of the parameters of an accepted query method those
that are written as the raw form of a local are that local, and no others. While the parameters are
written, the raw forms of the text and of the parameters stand for these, and every other name
stands for its argument. The types of an implementation mean what they mean beside the trait, unless
one of the trait's types looks up `S`. -/
theorem captured_iff (hread : readTrait t modulePath = .ok d) (hclassify : classifyAll d = .ok cs) :
    (∀ c ∈ cs, ∀ text, c.behavior = .query text →
      let locals := (c.body d.name).code.locals
      (∀ l ∈ locals, l ∈ [queryLocal, paramsLocal, rowsLocal, foundLocal]) ∧
      ∀ p ∈ c.method.parameters,
        (plainName p.name ∈ locals ↔ ∃ l ∈ locals, p.name = "r#" ++ l) ∧
        ∀ (arguments : String → Datum) (given : α) (params : Params),
          ((queryScope text params (c.scope arguments given : Scope α β)).lookup
              (plainName p.name) = some (.datum (arguments (plainName p.name))) ↔
            p.name ≠ "r#" ++ queryLocal ∧ p.name ≠ "r#" ++ paramsLocal)) ∧
    ∀ (X : Type) (scope : String → X) (own : X), own ≠ scope "S" →
      ((d.roots cs).map (Function.update scope "S" own) = (d.roots cs).map scope ↔
        "S" ∉ t.roots) := by
  constructor
  · intro c hc text hq locals
    have haccepted : Accepted (.trait t) modulePath d c := ⟨hread, cs, hclassify, hc⟩
    have hlocals := mem_bodyLocals_of_query hq d.name
    refine ⟨hlocals, fun p hp => ⟨?_, ?_⟩⟩
    · exact plainName_mem_iff hlocals (haccepted.not_reserved hp)
    · exact haccepted.lookup_parameter hq hp
  · intro X scope own hown
    rw [map_update_eq_iff hown, mem_roots_iff hread hclassify]

end

/-- The parameter of `greet` stands for its argument, and its types look up no `S`. -/
theorem captured_iff_greet :
    let scope : Scope Unit Json := greet.scope (fun _ => .json (.string "Ada")) ()
    (queryScope "RETURN $name" [] scope).lookup "name" = some (.datum (.json (.string "Ada"))) ∧
    let outside : String → String := fun name => name
    ((queryDeclaration greet.method).roots [greet]).map (Function.update outside "S" "T") =
      ((queryDeclaration greet.method).roots [greet]).map outside := by
  intro scope
  obtain ⟨hvalues, htypes⟩ := @captured_iff Unit Json greetTrait none
    (queryDeclaration greet.method) [greet] (by cbv) (by cbv)
  constructor
  · obtain ⟨-, hparameters⟩ := hvalues greet List.mem_cons_self "RETURN $name" rfl
    obtain ⟨-, hlookup⟩ := hparameters _ List.mem_cons_self
    exact (hlookup (fun _ => .json (.string "Ada")) () []).2 (by decide)
  · exact (htypes String (fun name => name) "T" (by decide)).2 (by decide)

/-- `#[param("name")] r#__query: String`. -/
def rawInput : Input :=
  .typed [⟨false, ⟨false, ["param"]⟩, .list .paren [.literal "\x22name\x22"]⟩]
    (.name "r#__query") (plainType "String")

/-- `async fn greet(&self, #[param("name")] r#__query: String) -> Result<User>` with the query
`RETURN $name`. -/
def rawGreet : Classified where
  method := {
    name := "greet"
    signature := querySignature "greet" [.typed [] (.name "r#__query") (plainType "String")]
      (plainType "User")
    parameters := [⟨"r#__query", ⟨"String", plainType "String", false, []⟩, .owned, some "name"⟩]
    returns := .nonNull ⟨"User", plainType "User", false, []⟩
    markers := ⟨some "RETURN $name", false, false⟩ }
  behavior := .query "RETURN $name"

/-- A repository of entities of the type `S`, without methods. -/
def shadowedTrait : Trait where
  attributes := []
  visibility := []
  qualifiers := []
  name := "Users"
  generics := ⟨[], false, []⟩
  bounds := [.trait false [] (.segments false []
    (.angled baseTrait false [.type (plainType "S"), .type (plainType "String")] false))]
  trailing := false
  members := []

/-- A parameter `r#__query` is accepted, and the text of the query is sent in the place of its
argument. An entity type `S` is accepted, and the type parameter is taken for it. -/
theorem captured_rawGreet :
    let session := (Session.ofExecutor Script.executor).watched
    let entity : Entity Unit := ⟨"User", "id", fun _ => .ok .null, fun _ => .ok (), none⟩
    let call : Action (List Call × Script) (Returned Unit Json) :=
      rawGreet.call "Users" session entity (fun _ => .ok) (fun _ _ => .eq)
        (fun _ => .json (.string "Ada")) ()
    Accepted (.trait (queryTrait "\x22RETURN $name\x22"
        (querySignature "greet" [rawInput] (plainType "User")))) none
      (queryDeclaration rawGreet.method) rawGreet ∧
    plainName "r#__query" ∈ (rawGreet.body "Users").code.locals ∧
    (∃ s, call.run ([], Script.silent) = .error (.notFound "Users::greet")
      ([.queryForObject "RETURN $name" [("name", .string "RETURN $name")]], s)) ∧
    ∃ d, readTrait shadowedTrait none = .ok d ∧ classifyAll d = .ok [] ∧ "S" ∈ d.entity.roots := by
  intro session entity call
  have hname : plainName "r#__query" = queryLocal := by decide
  refine ⟨⟨rfl, [rawGreet], ?_, List.mem_singleton.2 rfl⟩, by decide, ?_, ?_⟩
  · cbv
  · have hcall := @call_of_queryLocal Unit Json rawGreet "RETURN $name" _ Script rfl rfl hname
      "Users" (Session.ofExecutor Script.executor) entity (fun _ => .ok) (fun _ _ => .eq)
      (fun _ => .json (.string "Ada")) () [] Script.silent
    exact ⟨_, hcall⟩
  · refine ⟨⟨"Users", none, [], plainType "S", plainType "String", [], []⟩, ?_, ?_, ?_⟩
    · rfl
    · rfl
    · decide

end GraphRepo

import Mathlib
import GraphRepo.Proofs.Repository.Classification
import GraphRepo.Proofs.Source.StringLiteral

/-!
# Literals in generated methods

The text of a query and the key of a parameter are values of literals in the source, and they stand
in the generated method as literals again. Source literals have many forms, and what is written has
one. Their values are the same.
-/

namespace GraphRepo

open Source

/-! ## The literals that are read -/

/-- Every `#[query]` of a method that was read has the text of its query. -/
theorem query_of_mem {a : Attribute} (hnamed : a.isNamed "query" = true) :
    ∀ {attributes : List Attribute} {m m' : Markers}, a ∈ attributes →
      attributes.foldlM Markers.read m = .ok m' →
      ∃ text, m'.query = some text ∧ soleString? a.payload = some text
  | b :: rest, m, m', ha, h => by
    rw [List.foldlM_cons] at h
    obtain ⟨m₁, hread, hrest⟩ := bind_eq_ok.1 h
    obtain rfl | ha := List.mem_cons.1 ha
    · obtain ⟨-, -, text, htext, hquery⟩ | ⟨hother, -⟩ := Markers.read_query hread
      · exact ⟨text, (foldlM_read_of_query hquery hrest).2, htext⟩
      · rw [hnamed] at hother
        cases hother
    · exact query_of_mem hnamed ha hrest

theorem soleString_of_paramKey {p : Payload} {key : String} (h : paramKey p = .ok key) :
    soleString? p = some key := by
  unfold paramKey at h
  split at h
  · cases h
  · cases h
  · cases h
  · rename_i literal rest
    cases hvalue : stringValue? literal with
    | none => rw [hvalue] at h; cases h
    | some value =>
      cases rest with
      | nil =>
        rw [hvalue] at h
        cases h
        exact hvalue
      | cons t rest => rw [hvalue] at h; cases h
  · cases h

theorem readParamMarker_eq_ok {key key' : Option String} {a : Attribute}
    (h : readParamMarker key a = .ok key') :
    (isParamMarker a = true ∧ key = none ∧ ∃ found, key' = some found ∧
        soleString? a.payload = some found) ∨
      isParamMarker a = false ∧ key' = key := by
  unfold readParamMarker at h
  split_ifs at h with hmarker hsome
  · obtain ⟨found, hfound, rfl⟩ := map_eq_ok.1 h
    exact .inl ⟨hmarker, by simpa using hsome, found, rfl, soleString_of_paramKey hfound⟩
  · cases h
    exact .inr ⟨by simpa using hmarker, rfl⟩

theorem foldlM_readParamMarker_some {key : String} :
    ∀ {attributes : List Attribute} {key' : Option String},
      attributes.foldlM readParamMarker (some key) = .ok key' → key' = some key
  | [], _, h => by
    cases h
    rfl
  | a :: rest, key', h => by
    rw [List.foldlM_cons] at h
    obtain ⟨key₁, hread, hrest⟩ := bind_eq_ok.1 h
    obtain ⟨-, hnone, -⟩ | ⟨-, rfl⟩ := readParamMarker_eq_ok hread
    · cases hnone
    · exact foldlM_readParamMarker_some hrest

theorem key_of_mem {a : Attribute} (hmarker : isParamMarker a = true) :
    ∀ {attributes : List Attribute} {key key' : Option String}, a ∈ attributes →
      attributes.foldlM readParamMarker key = .ok key' →
      ∃ found, key' = some found ∧ soleString? a.payload = some found
  | b :: rest, key, key', ha, h => by
    rw [List.foldlM_cons] at h
    obtain ⟨key₁, hread, hrest⟩ := bind_eq_ok.1 h
    obtain rfl | ha := List.mem_cons.1 ha
    · obtain ⟨-, -, found, rfl, hfound⟩ | ⟨hother, -⟩ := readParamMarker_eq_ok hread
      · exact ⟨found, foldlM_readParamMarker_some hrest, hfound⟩
      · rw [hmarker] at hother
        cases hother
    · exact key_of_mem hmarker ha hrest

theorem key_of_no_marker : ∀ {attributes : List Attribute} {key key' : Option String},
    (∀ a ∈ attributes, isParamMarker a = false) →
      attributes.foldlM readParamMarker key = .ok key' → key' = key
  | [], _, _, _, h => by
    cases h
    rfl
  | a :: rest, key, key', hnone, h => by
    obtain ⟨hother, hrestNone⟩ := List.forall_mem_cons.1 hnone
    rw [List.foldlM_cons] at h
    obtain ⟨key₁, hread, hrest⟩ := bind_eq_ok.1 h
    obtain ⟨hmarker, -⟩ | ⟨-, rfl⟩ := readParamMarker_eq_ok hread
    · rw [hother] at hmarker
      cases hmarker
    · exact key_of_no_marker hrestNone hrest

/-! ## The literals that are written -/

/-- `let __query: &str = literal;`. -/
def queryTokens (literal : String) : Tokens :=
  letTokens (word queryLocal ++ op ":" ++ op "&" ++ word "str") [.literal literal]

/-- `__params.insert(String::from(literal), to_param(&parameter)?,);`. -/
def insertTokens (runtime : Tokens) (literal parameter : String) : Tokens :=
  word paramsLocal ++ op "." ++ word "insert"
    ++ parens (absolute ["std", "string", "String", "from"] ++ parens [.literal literal]
      ++ op "," ++ inRuntime runtime ["to_param"] ++ parens (op "&" ++ word parameter) ++ tryOp
      ++ op ",")
    ++ semi

/-- The statements that make the parameters of a query, from the literals of their keys and their
names. -/
def paramsTokens (runtime : Tokens) (entries : List (String × String)) : Tokens :=
  (Step.letParams (!entries.isEmpty)).tokens runtime
    ++ entries.flatMap fun e => insertTokens runtime e.1 e.2

/-- An input is bound under a key that is written as the given literal: the value of its `#[param]`,
or its name if it has none. -/
def Source.Input.IsBoundBy (i : Input) (entry : String × String) : Prop :=
  ∃ attributes type key, i = .typed attributes (.name entry.2) type ∧ IsLiteralOf key entry.1 ∧
    (∀ a ∈ attributes, isParamMarker a → soleString? a.payload = some key) ∧
    ((∀ a ∈ attributes, isParamMarker a = false) → key = entry.2)

/-- The tokens of a method that was generated send the text of each `#[query]` and bind each input.
-/
def Source.Method.IsPrintedAs (runtime : Tokens) (m : Method) (ts : Tokens) : Prop :=
  ∀ a ∈ m.attributes, a.isNamed "query" →
    ∃ text literal entries rest, soleString? a.payload = some text ∧ IsLiteralOf text literal ∧
      List.Forall₂ Input.IsBoundBy (m.signature.inputs.filter (!·.isReceiver)) entries ∧
      ts = (stripSignature m.signature).tokens ++
        braces (queryTokens literal ++ paramsTokens runtime entries ++ rest)

/-- The literals of the keys of a method, each with the parameter that is bound under it. -/
def MethodDeclaration.entries (m : MethodDeclaration) : List (String × String) :=
  m.parameters.map fun p => (writtenLiteral p.key, p.name)

theorem isBoundBy_of_declaredAs {i : Input} {p : Parameter} (h : i.DeclaredAs p) :
    i.IsBoundBy (writtenLiteral p.key, p.name) := by
  obtain ⟨attributes, type, rfl, hkey, -, -⟩ := h
  refine ⟨attributes, type, p.key, rfl, isLiteralOf_written p.key, fun a ha hmarker => ?_,
    fun hnone => ?_⟩
  · obtain ⟨found, hfound, hvalue⟩ := key_of_mem hmarker ha hkey
    rw [hvalue, Parameter.key, hfound, Option.getD_some]
  · rw [Parameter.key, key_of_no_marker hnone hkey, Option.getD_none]

theorem tokens_letText (runtime : Tokens) (text : String) :
    (Step.letText text).tokens runtime = queryTokens (writtenLiteral text) := by
  rw [Step.tokens, stringLiteral_eq, queryTokens]

theorem tokens_insert (runtime : Tokens) (b : Binding) :
    (Step.insert b).tokens runtime = insertTokens runtime (writtenLiteral b.key) b.parameter := by
  rw [Step.tokens, stringLiteral_eq, insertTokens]

theorem tokens_of_query {c : Classified} {text : String} (hq : c.behavior = .query text)
    (runtime : Tokens) (interface : String) :
    ∃ rest, c.tokens runtime interface = c.method.signature.tokens ++
      braces (queryTokens (writtenLiteral text) ++ paramsTokens runtime c.method.entries ++
        rest) := by
  let use := (RowUse.ofShape (interface ++ "::" ++ c.method.name) c.method.returns).code
  refine ⟨use.steps.flatMap (Step.tokens runtime) ++ use.ending.tokens runtime, ?_⟩
  have hinserts : (c.method.bindings.map Step.insert).flatMap (Step.tokens runtime) =
      c.method.entries.flatMap fun e => insertTokens runtime e.1 e.2 := by
    rw [MethodDeclaration.bindings, MethodDeclaration.entries, List.map_map, List.flatMap_map,
      List.flatMap_map]
    simp only [Function.comp_apply, tokens_insert]
  have hgrowing : c.method.bindings.isEmpty = c.method.entries.isEmpty := by
    rw [MethodDeclaration.bindings, MethodDeclaration.entries, List.isEmpty_map, List.isEmpty_map]
  rw [Classified.tokens, Classified.body_of_query hq, MethodBody.code, Code.tokens, bindingSteps,
    paramsTokens, ← hgrowing, ← hinserts]
  simp only [List.cons_append, List.flatMap_append, List.flatMap_cons, List.append_assoc,
    tokens_letText, use]

/-! ## Units -/

theorem Assembly.tokens_of_implementation (a : Assembly) :
    ∃ before after, a.tokens =
      before ++ a.impl (some (word a.declaration.name)) a.methods.flatten ++ after := by
  refine ⟨a.implStruct ++ a.constructor ++ a.delegation ++ a.asyncTrait, a.factoryFunction, ?_⟩
  simp only [Assembly.tokens, Assembly.implementation, List.append_assoc]

theorem isPrintedAs_of_declaredAs {m : Method} {c : Classified} (h : m.DeclaredAs c.method)
    (hadmits : c.method.Admits c.behavior) (runtime : Tokens) (interface : String) :
    m.IsPrintedAs runtime (c.tokens runtime interface) := by
  intro a ha hnamed
  obtain ⟨text, htext, hvalue⟩ := query_of_mem hnamed ha h.markers
  have hq : c.behavior = .query text := by
    have hclass := (@admits_iff interface c.method c.behavior).1 hadmits
    exact Except.ok.inj (hclass.1.symm.trans (classify_eq_query_iff.2 htext))
  obtain ⟨rest, htokens⟩ := tokens_of_query hq runtime interface
  refine ⟨text, writtenLiteral text, c.method.entries, rest, hvalue, isLiteralOf_written text, ?_,
    ?_⟩
  · rw [MethodDeclaration.entries, List.forall₂_map_right_iff]
    exact h.parameters.imp fun i p hp => isBoundBy_of_declaredAs hp
  · rw [htokens, h.signature]

/-- **The literals of the source are printed with their values.** The implementation of the trait
has the methods in order, and each that runs a query has a literal for its text and one for the key
of each parameter. Each of them is one token whose value is that of the literal in the source, or
the name of a parameter that has no key. -/
theorem literals_of_generate {g : Generator} {item : Item} {modulePath : Option String}
    {unit : GeneratedUnit} (h : g.generate item modulePath = .ok unit) :
    ∃ (t : Trait) (a : Assembly) (before after : Tokens), item = .trait t ∧
      unit.tokens = before ++ a.impl (some (word t.name)) unit.methods.flatten ++ after ∧
      List.Forall₂ (Method.IsPrintedAs g.runtime.tokens) (t.members.filterMap Member.bodiless?)
        unit.methods := by
  obtain ⟨t, p, rfl, hplan, rfl⟩ := Generator.generate_eq_ok.1 h
  obtain ⟨hread, hclassify, -⟩ := planOf_eq_ok.1 hplan
  obtain ⟨-, entity, id, found, -, hmembers, hd⟩ := readTrait_eq_ok hread
  obtain ⟨before, after, htokens⟩ := (p.assembly g.runtime.tokens).tokens_of_implementation
  have hname : (p.assembly g.runtime.tokens).declaration.name = t.name := congrArg (·.name) hd
  rw [hname] at htokens
  refine ⟨t, p.assembly g.runtime.tokens, before, after, rfl, htokens, ?_⟩
  have hdeclared : List.Forall₂ Method.DeclaredAs (t.members.filterMap Member.bodiless?)
      (p.classified.map Classified.method) := by
    rw [← classifyAll_methods hclassify, hd]
    exact methods_of_read hmembers
  have hboth : List.Forall₂ (fun (c : Classified) (m : Method) =>
      c.method.Admits c.behavior ∧ m.DeclaredAs c.method) p.classified
      (t.members.filterMap Member.bodiless?) :=
    (List.forall₂_and_left _ _).2 ⟨fun c hc => admits_of_classifyAll hclassify hc,
      (List.forall₂_map_right_iff.1 hdeclared).flip⟩
  refine List.forall₂_map_right_iff.2 (hboth.imp fun c m hm => ?_).flip
  exact isPrintedAs_of_declaredAs hm.2 hm.1 g.runtime.tokens p.declaration.name

theorem forall₂_singleton {α β : Type} {R : α → β → Prop} {a : α} {bs : List β}
    (h : List.Forall₂ R [a] bs) : ∃ b, bs = [b] ∧ R a b := by
  obtain ⟨b, rest, hb, hrest, rfl⟩ := List.forall₂_cons_left_iff.1 h
  rw [List.forall₂_nil_left_iff.1 hrest]
  exact ⟨b, rfl, hb⟩

/-- A query whose comment has a NUL before a digit, and a mark that is put over it. -/
def escapedText : String := "RETURN $name // \x001\u0301"

/-- The literal of the query in the source, with escapes and a line that goes on below. -/
def escapedLiteral : String := "\x22RETURN $name \\\n  // \\0\\u\x7b31\x7d\\u\x7b301\x7d\x22"

/-- `#[param(r"name")] who: String`. -/
def rawKeyInput : Input :=
  .typed [⟨false, ⟨false, ["param"]⟩, .list .paren [.literal "r\x22name\x22"]⟩] (.name "who")
    (plainType "String")

/-- `async fn greet(&self, #[param(r"name")] who: String) -> Result<User>` with that query. -/
def escapedTrait : Trait :=
  queryTrait escapedLiteral (querySignature "greet" [rawKeyInput] (plainType "User"))

def escapedMethod : MethodDeclaration :=
  { greet.method with
    signature := querySignature "greet" [.typed [] (.name "who") (plainType "String")]
      (plainType "User")
    parameters := [⟨"who", ⟨"String", plainType "String", false, []⟩, .owned, some "name"⟩]
    markers := ⟨some escapedText, false, false⟩ }

theorem planOf_escaped : planOf escapedTrait =
    .ok ⟨queryDeclaration escapedMethod, [⟨escapedMethod, .query escapedText⟩], "users"⟩ := by
  have hclassify : classifyAll (queryDeclaration escapedMethod) =
      .ok [⟨escapedMethod, .query escapedText⟩] := by cbv
  have hfactory : (queryDeclaration escapedMethod).factoryName = .ok "users" := by cbv
  exact planOf_eq_ok.2 ⟨rfl, hclassify, hfactory⟩

theorem generate_escaped (runtime : Path) :
    ∃ unit, (⟨runtime, none⟩ : Generator).generate (.trait escapedTrait) none = .ok unit :=
  ⟨_, Generator.generate_eq_ok.2 ⟨_, _, rfl, planOf_escaped, rfl⟩⟩

/-- The query and the key, which are written with escapes and as a raw literal, are printed with
their values. -/
theorem literals_of_generate_escaped :
    let g : Generator := ⟨.segments true [] (.plain "neorepo"), none⟩
    ∃ unit literal key rest, g.generate (.trait escapedTrait) none = .ok unit ∧
      IsLiteralOf escapedText literal ∧ IsLiteralOf "name" key ∧
      unit.methods = [escapedMethod.signature.tokens ++
        braces (queryTokens literal ++ paramsTokens g.runtime.tokens [(key, "who")] ++ rest)] := by
  intro g
  obtain ⟨unit, hunit⟩ := generate_escaped (.segments true [] (.plain "neorepo"))
  obtain ⟨t, a, before, after, ht, -, hprinted⟩ := literals_of_generate hunit
  cases ht
  obtain ⟨ts, hmethods, hquery⟩ := forall₂_singleton hprinted
  obtain ⟨text, literal, entries, rest, hvalue, hliteral, hentries, hts⟩ :=
    hquery _ List.mem_cons_self rfl
  obtain ⟨⟨keyLiteral, parameter⟩, rfl, attributes, type, key, hinput, hkey, hkeyed, -⟩ :=
    forall₂_singleton hentries
  cases hinput
  have htext : stringValue? escapedLiteral = some escapedText := by cbv
  have hname : stringValue? "r\x22name\x22" = some "name" := by cbv
  obtain rfl := Option.some.inj (htext.symm.trans hvalue)
  obtain rfl := Option.some.inj (hname.symm.trans (hkeyed _ List.mem_cons_self rfl))
  exact ⟨unit, literal, keyLiteral, rest, hunit, hliteral, hkey, by rw [hmethods, hts]; rfl⟩

end GraphRepo

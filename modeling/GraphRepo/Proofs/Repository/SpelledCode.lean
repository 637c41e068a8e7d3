import Mathlib
import GraphRepo.Proofs.Source.SpelledSyntax
import GraphRepo.Repository.GeneratedUnit

/-!
# Generated code that can be written

Generated code is fixed words and operators around the runtime crate's path, the parts of the
declaration and names. If these can be written, so can all of the code.
-/

namespace GraphRepo

open Source

/-! ## What is fixed -/

/-- The words of generated code. -/
def codeWords : List String :=
  ["S", "Self", "ViaUpdatable", "WithoutHook", "_", "allow", "as", "async", "await", "base",
    "collect", "crate", "dead_code", "doc", "dyn", "entity", "fn", "for", "impl", "insert", "let",
    "match", "mut", "new", "pub", "run_update_hook", "self", "session", "static", "str", "struct",
    "unused_imports", "use", "core", "convert", "From", "from", "iter", "IntoIterator", "into_iter",
    "option", "Option", "None", "Some", "result", "Result", "Err", "Ok", "std", "boxed", "Box",
    "string", "String", "sync", "Arc", "clone", "NeoRepository", "NeoRepositoryImpl",
    "with_update_hook", "Session", "__private", "async_trait", "Params", "RepositoryError",
    "not_found", "save", "UpdateHook", "to_param", "IgnoredAny", "query", "query_for_object",
    "create", "update", "delete", "find_by_id", "delete_by_id", "data", "id", queryLocal,
    paramsLocal, rowsLocal, foundLocal]

theorem standsAlone_codeWords : codeWords.Forall fun name => (TokenTree.ident name).StandsAlone := by
  have hall : codeWords.all fun name => plainIdentEnd name.toList == some [] := by decide +kernel
  exact List.forall_iff_forall_mem.2 fun name hname =>
    standsAlone_word (eq_of_beq (List.all_eq_true.1 hall name hname))

/-- The operators of generated code. -/
def codeOperators : List String :=
  ["#", "&", "*", "+", ",", "->", ".", ":", "::", ";", "<", "=", "=>", ">", ">>", "?", "|"]

theorem spelled_codeOperators : codeOperators.Forall fun text => Spelled (op text) := by
  have hall : codeOperators.all fun text => isOperator text.toList := by decide
  exact List.forall_iff_forall_mem.2 fun text htext => spelled_op (List.all_eq_true.1 hall text htext)

theorem spelled_static : Spelled (lifetimeTokens "static") := by
  have hword : plainIdentEnd "static".toList = some [] := by decide +kernel
  exact .quote rfl (takesQuote_word hword) (spelled_word (standsAlone_word hword))

@[simp] theorem spelled_stringLiteral_cons {text : String} {rest : Tokens} :
    Spelled (stringLiteral text :: rest) ↔ Spelled rest := by
  rw [stringLiteral_eq, spelled_literal_cons, ← stringLiteral_eq]
  exact and_iff_right (standsAlone_stringLiteral text)

/-! ## Bodies -/

/-- The type that rows are decoded into can be written. -/
def Reading.IsSpelled : Reading → Prop
  | .ignored => True
  | .every ty => Spelled ty.tokens
  | .single ty => Spelled ty.tokens

def Step.IsSpelled : Step → Prop
  | .letText _ => True
  | .letParams _ => True
  | .insert b => (TokenTree.ident b.parameter).StandsAlone
  | .letRead name reading => (TokenTree.ident name).StandsAlone ∧ reading.IsSpelled
  | .read reading => reading.IsSpelled
  | .rebind entity => (TokenTree.ident entity).StandsAlone
  | .hook entity _ => (TokenTree.ident entity).StandsAlone
  | .save entity _ => (TokenTree.ident entity).StandsAlone

def Ending.IsSpelled : Ending → Prop
  | .unit => True
  | .named name => (TokenTree.ident name).StandsAlone
  | .collected name => (TokenTree.ident name).StandsAlone
  | .required reading _ => reading.IsSpelled

structure Code.IsSpelled (code : Code) : Prop where
  steps : ∀ s ∈ code.steps, s.IsSpelled
  ending : code.ending.IsSpelled

section Body

variable {runtime : Tokens} (hruntime : Spelled runtime)

include hruntime

theorem Reading.IsSpelled.tokens {r : Reading} (h : r.IsSpelled) : Spelled (r.tokens runtime) := by
  have hwords := standsAlone_codeWords
  have hops := spelled_codeOperators
  simp only [codeWords, codeOperators, List.Forall] at hwords hops
  cases r <;> simp only [Reading.IsSpelled] at h <;>
    simp [Reading.tokens, sessionQuery, sessionTokens, awaited, tryOp, word, parens, inRuntime,
      absolute, hwords, hops, hruntime, h]

theorem spelled_hook {target : Tokens} (htarget : Spelled target) :
    Spelled (hookTokens runtime target) := by
  have hwords := standsAlone_codeWords
  have hops := spelled_codeOperators
  simp only [codeWords, codeOperators, List.Forall] at hwords hops
  simp [hookTokens, semi, word, parens, brackets, braces, inRuntime, absolute, hwords, hops,
    hruntime, htarget]

theorem Step.IsSpelled.tokens {s : Step} (h : s.IsSpelled) : Spelled (s.tokens runtime) := by
  have hwords := standsAlone_codeWords
  have hops := spelled_codeOperators
  simp only [codeWords, codeOperators, List.Forall] at hwords hops
  cases s with
  | letText text => simp [Step.tokens, letTokens, semi, word, hwords, hops]
  | letParams growing =>
    have hmut : Spelled (wordIf growing "mut") := spelled_wordIf growing (by simp [syntaxWords])
    simp [Step.tokens, letTokens, semi, word, parens, inRuntime, absolute, hwords, hops, hruntime,
      hmut]
  | insert b =>
    have hparameter : (TokenTree.ident b.parameter).StandsAlone := h
    simp [Step.tokens, semi, tryOp, word, parens, inRuntime, absolute, hwords, hops, hruntime,
      hparameter]
  | letRead name reading =>
    obtain ⟨hname, hreading⟩ := h
    simp [Step.tokens, letTokens, semi, word, hwords, hops, hname, hreading.tokens hruntime]
  | read reading =>
    have hreading := Reading.IsSpelled.tokens hruntime h
    simp [Step.tokens, semi, hops, hreading]
  | rebind entity =>
    have hentity : (TokenTree.ident entity).StandsAlone := h
    simp [Step.tokens, letTokens, semi, word, hwords, hops, hentity]
  | hook entity passing =>
    have hentity : (TokenTree.ident entity).StandsAlone := h
    refine spelled_hook hruntime ?_
    cases passing <;> simp [exclusively, word, hwords, hops, hentity]
  | save entity passing =>
    have hentity : (TokenTree.ident entity).StandsAlone := h
    have hborrowed : Spelled (borrowed entity passing) := by
      cases passing <;> simp [borrowed, word, hops, hentity]
    simp [Step.tokens, sessionTokens, awaited, tryOp, semi, word, parens, inRuntime, absolute,
      hwords, hops, hruntime, hborrowed]

theorem Ending.IsSpelled.tokens {e : Ending} (h : e.IsSpelled) : Spelled (e.tokens runtime) := by
  have hwords := standsAlone_codeWords
  have hops := spelled_codeOperators
  simp only [codeWords, codeOperators, List.Forall] at hwords hops
  cases e with
  | unit => simp [Ending.tokens, okTokens, parens, absolute, word, hwords, hops]
  | named name =>
    have hname : (TokenTree.ident name).StandsAlone := h
    simp [Ending.tokens, okTokens, parens, absolute, word, hwords, hops, hname]
  | collected name =>
    have hname : (TokenTree.ident name).StandsAlone := h
    simp [Ending.tokens, okTokens, parens, absolute, word, hwords, hops, hname]
  | required reading context =>
    have hreading := Reading.IsSpelled.tokens hruntime h
    simp [Ending.tokens, okTokens, parens, braces, inRuntime, absolute, word, hwords, hops,
      hruntime, hreading]

theorem Code.IsSpelled.tokens {code : Code} (h : code.IsSpelled) : Spelled (code.tokens runtime) :=
  (Spelled.flatMap fun s hs => (h.steps s hs).tokens hruntime).append (h.ending.tokens hruntime)

end Body

/-! ## Units -/

/-- What a unit is put together from can be written. -/
structure Assembly.IsSpelled (a : Assembly) : Prop where
  runtime : Spelled a.runtime
  name : (TokenTree.ident a.declaration.name).StandsAlone
  implName : (TokenTree.ident a.declaration.implName).StandsAlone
  factory : (TokenTree.ident a.factory).StandsAlone
  visibility : Spelled a.declaration.visibility
  entity : Spelled a.declaration.entity.tokens
  id : Spelled a.declaration.id.tokens
  methods : ∀ m ∈ a.methods, Spelled m

namespace Assembly.IsSpelled

variable {a : Assembly} (h : a.IsSpelled)

include h

theorem sessionParameter : Spelled a.sessionParameter := by
  have hwords := standsAlone_codeWords
  have hops := spelled_codeOperators
  simp only [codeWords, codeOperators, List.Forall] at hwords hops
  simp [Assembly.sessionParameter, inRuntime, absolute, word, hwords, hops, h.runtime,
    spelled_static]

theorem implTypeOfSession : Spelled a.implTypeOfSession := by
  have hwords := standsAlone_codeWords
  have hops := spelled_codeOperators
  simp only [codeWords, codeOperators, List.Forall] at hwords hops
  simp [Assembly.implTypeOfSession, implType, word, hwords, hops, h.implName]

theorem impl {interface : Option Tokens} (hinterface : ∀ ts ∈ interface, Spelled ts)
    {body : Tokens} (hbody : Spelled body) : Spelled (a.impl interface body) := by
  have hwords := standsAlone_codeWords
  simp only [codeWords, List.Forall] at hwords
  have himpl : Spelled (word "impl") := spelled_word (by simp [hwords])
  have hfor : Spelled ((interface.map (· ++ word "for")).getD []) := by
    cases interface with
    | none => exact .nil
    | some ts => exact (hinterface ts rfl).append (spelled_word (by simp [hwords]))
  exact (((himpl.append h.sessionParameter).append hfor).append h.implTypeOfSession).append
    hbody.inGroup

theorem implStruct : Spelled a.implStruct := by
  have hwords := standsAlone_codeWords
  have hops := spelled_codeOperators
  simp only [codeWords, codeOperators, List.Forall] at hwords hops
  simp [Assembly.implStruct, doc, allowUnused, attributeTokens, implType, sharedSession, baseType,
    inRuntime, absolute, word, parens, brackets, braces, hwords, hops, h.sessionParameter,
    h.implName, h.runtime, h.entity, h.id]

theorem constructor : Spelled a.constructor := by
  have hwords := standsAlone_codeWords
  have hops := spelled_codeOperators
  simp only [codeWords, codeOperators, List.Forall] at hwords hops
  have hhook : Spelled (hookTokens a.runtime [.ident "entity"]) :=
    spelled_hook h.runtime (by simp [hwords])
  refine h.impl (by simp) ?_
  simp [sharedSession, inRuntime, absolute, word, parens, braces, hwords, hops, h.runtime, h.entity,
    hhook]

theorem forwarded {method argument : String} (hmethod : (TokenTree.ident method).StandsAlone)
    (hargument : (TokenTree.ident argument).StandsAlone) {type result : Tokens}
    (htype : Spelled type) (hresult : Spelled result) :
    Spelled (a.forwarded method argument type result) := by
  have hwords := standsAlone_codeWords
  have hops := spelled_codeOperators
  simp only [codeWords, codeOperators, List.Forall] at hwords hops
  simp [Assembly.forwarded, baseType, base, inRuntime, absolute, word, parens, braces, hwords, hops,
    h.runtime, h.entity, h.id, hmethod, hargument, htype, hresult]

theorem asyncTrait : Spelled a.asyncTrait := by
  have hwords := standsAlone_codeWords
  have hops := spelled_codeOperators
  simp only [codeWords, codeOperators, List.Forall] at hwords hops
  simp [Assembly.asyncTrait, attributeTokens, inRuntime, absolute, word, brackets, hwords, hops,
    h.runtime]

theorem base : Spelled a.base := by
  have hwords := standsAlone_codeWords
  have hops := spelled_codeOperators
  simp only [codeWords, codeOperators, List.Forall] at hwords hops
  simp [Assembly.base, inRuntime, absolute, word, hwords, hops, h.runtime, h.entity, h.id]

theorem delegation : Spelled a.delegation := by
  have hwords := standsAlone_codeWords
  have hops := spelled_codeOperators
  simp only [codeWords, codeOperators, List.Forall] at hwords hops
  have hentity := h.entity
  have hid := h.id
  refine h.asyncTrait.append (h.impl (by simpa using h.base) ?_)
  refine .append (.append (.append (.append ?_ ?_) ?_) ?_) ?_
  all_goals
    refine h.forwarded (by simp [hwords]) (by simp [hwords]) (by assumption) ?_
    simp [parens, absolute, word, hwords, hops, hentity]

theorem implementation : Spelled a.implementation :=
  h.asyncTrait.append (h.impl (by simpa using spelled_word h.name) (.flatten h.methods))

theorem factoryFunction : Spelled a.factoryFunction := by
  have hwords := standsAlone_codeWords
  have hops := spelled_codeOperators
  simp only [codeWords, codeOperators, List.Forall] at hwords hops
  simp [Assembly.factoryFunction, doc, allowUnused, attributeTokens, implType, sharedSession,
    absolute, word, parens, brackets, braces, hwords, hops, h.sessionParameter, h.implName, h.name,
    h.factory, h.visibility]

/-- **The code of a unit can be written.** -/
theorem tokens : Spelled a.tokens :=
  (((h.implStruct.append h.constructor).append h.delegation).append h.implementation).append
    h.factoryFunction

end Assembly.IsSpelled

end GraphRepo

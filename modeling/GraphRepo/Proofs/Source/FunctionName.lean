import Mathlib.Data.List.Basic
import GraphRepo.Source.Reading

/-!
# Names of functions in source

Behind `fn` a signature has an identifier. So a function can be read under every name but the
reserved words, whatever follows.
-/

namespace GraphRepo.Source

open GraphRepo.Source.Parser

variable {α β : Type} {name : String}

namespace Parser

/-! ## Reading on behind what was read -/

theorem bind_of_some {p : Parser α} {f : α → Parser β} {ts rest : Tokens} {a : α}
    (h : p ts = some (a, rest)) : (p >>= f) ts = f a rest :=
  congrArg (fun read => read.bind fun p => f p.1 p.2) h

theorem bind_of_none {p : Parser α} {f : α → Parser β} {ts : Tokens} (h : p ts = none) :
    (p >>= f) ts = none :=
  congrArg (fun read => read.bind fun p => f p.1 p.2) h

theorem takes_of_not_onWord {ts : Tokens} (h : ts.onWord name = false) :
    takes name ts = some (false, ts) := by
  have hsees : sees (Tokens.onWord name) ts = some (false, ts) := by rw [← h]; rfl
  unfold takes
  rw [bind_of_some hsees]
  rfl

theorem keywordIf_of_not_onWord {ts : Tokens} (h : ts.onWord name = false) :
    keywordIf name ts = some ([], ts) := by
  have hsees : sees (Tokens.onWord name) ts = some (false, ts) := by rw [← h]; rfl
  unfold keywordIf
  rw [bind_of_some hsees]
  rfl

end Parser

/-! ## Names of functions -/

/-- What is read of a signature behind `fn` and its name. -/
def Grammar.signatureBehind (grammar : Grammar) (name : String) : Parser Signature := do
  let generics ← grammar.generics
  let (inputs, trailing, variadic) ← group .paren grammar.inputs
  let output ← grammar.output true
  let whereTokens ← grammar.whereClause
  return { isConst := false, isAsync := false, qualifiers := [], name,
           generics := { generics with whereClause := whereTokens }, inputs, trailing, variadic,
           output }

theorem signature_fn (grammar : Grammar) (rest : Tokens) :
    grammar.signature (word "fn" ++ rest) = (ident >>= grammar.signatureBehind) rest := by
  have hother (other : String) (hne : "fn" ≠ other) :
      Tokens.onWord other (word "fn" ++ rest) = false := beq_false_of_ne hne
  have hlinkage : Grammar.linkage (word "fn" ++ rest) = some ([], word "fn" ++ rest) := by
    unfold Grammar.linkage
    rw [bind_of_some (keywordIf_of_not_onWord (hother "extern" (by decide)))]
    rfl
  have hfn : keyword "fn" (word "fn" ++ rest) = some (word "fn", rest) := rfl
  unfold Grammar.signature
  rw [bind_of_some (takes_of_not_onWord (hother "const" (by decide))),
    bind_of_some (takes_of_not_onWord (hother "async" (by decide))),
    bind_of_some (keywordIf_of_not_onWord (hother "unsafe" (by decide))), bind_of_some hlinkage,
    bind_of_some hfn]
  rfl

theorem ident_word (name : String) (rest : Tokens) :
    ident (word name ++ rest) = if name ∈ reservedWords then none else some (name, rest) := by
  have hcontains : isIdentifier name = true ↔ name ∉ reservedWords := by simp [isIdentifier]
  have hident : ident (word name ++ rest) =
      if isIdentifier name then some (name, rest) else none := rfl
  rw [hident]
  by_cases hname : name ∈ reservedWords
  · rw [if_pos hname, if_neg fun h => hcontains.1 h hname]
  · rw [if_neg hname, if_pos (hcontains.2 hname)]

/-- **No function has a reserved word for its name.** -/
theorem signature_reserved (hname : name ∈ reservedWords) (grammar : Grammar) (rest : Tokens) :
    grammar.signature (word "fn" ++ (word name ++ rest)) = none := by
  have hident : ident (word name ++ rest) = none := by rw [ident_word, if_pos hname]
  rw [signature_fn, bind_of_none hident]

/-- **No item starts with `fn` and a reserved word.** -/
theorem itemRule_reserved (hname : name ∈ reservedWords) (grammar : Grammar) (after : Tokens) :
    grammar.itemRule (word "fn" ++ (word name ++ after)) = none := by
  generalize htokens : word "fn" ++ (word name ++ after) = ts
  have hattributes : grammar.outerAttributes ts = some ([], ts) := by
    rw [← htokens]
    rfl
  have hvisibility : Grammar.visibility ts = some ([], ts) := by
    rw [← htokens]
    rfl
  have hsees : sees (fun ts => ts.onWord "fn" || Grammar.onSignature false ts) ts =
      some (true, ts) := by
    rw [← htokens]
    rfl
  have hsignature : grammar.signature ts = none := by
    rw [← htokens, signature_reserved hname]
  have hfunction : grammar.functionItem [] ts = none := by
    unfold Grammar.functionItem
    rw [bind_of_none hsignature]
  have hrest : grammar.itemRest [] ts = none := by
    unfold Grammar.itemRest
    rw [bind_of_some hvisibility]
    dsimp only
    rw [bind_of_some hsees, if_pos rfl, bind_of_none hfunction]
  have hitem : (grammar.outerAttributes >>= fun attributes => grammar.itemRest attributes) ts =
      none := by
    rw [bind_of_some hattributes, hrest]
  unfold Grammar.itemRule orAsWritten
  rw [hitem, Option.map_none]

theorem itemOfTokens_reserved (hname : name ∈ reservedWords) (after : Tokens) :
    itemOfTokens? (word "fn" ++ (word name ++ after)) = none := by
  have hitem (ts : Tokens) : (Grammar.forTokens ts).item =
      (Grammar.level (4 * Tokens.size ts + 7)).itemRule := rfl
  have hnone := itemRule_reserved hname
    (Grammar.level (4 * Tokens.size (word "fn" ++ (word name ++ after)) + 7)) after
  unfold itemOfTokens? read? parseAll whole
  rw [hitem, bind_of_none hnone, Option.map_none]

theorem signature_plain (hname : name ∉ reservedWords) (grammar : Grammar) :
    ∃ s, grammar.signature (word "fn" ++ (word name ++ parens [])) = some (s, []) ∧
      s.name = name := by
  have hident : ident (word name ++ parens []) = some (name, parens []) := by
    rw [ident_word, if_neg hname]
  rw [signature_fn, bind_of_some hident]
  exact ⟨_, rfl, rfl⟩
end GraphRepo.Source

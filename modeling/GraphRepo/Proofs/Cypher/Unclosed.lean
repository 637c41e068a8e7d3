import Mathlib
import GraphRepo.Proofs.Cypher.Closed

/-!
# Constructs that are not closed

A quote or a backtick that nothing closes is a token by itself, and scanning goes on behind it. A
block comment that nothing closes is a token too, but it reaches to the end of the text. So behind a
closed text the first two hide no parameter, and the comment hides all that follow.
-/

namespace GraphRepo.Cypher

def commentStart : List Char := ['/', '*']

/-- **A construct that is opened and not closed**: `Unclosed opener rest` says that nothing in
`rest` closes what `opener` opens. -/
inductive Unclosed : List Char → List Char → Prop
  | string {quote : Char} {rest : List Char} : isQuote quote →
    (∀ body after, rest = body ++ quote :: after → ¬ QuotedText quote body) →
    Unclosed [quote] rest
  | escapedName {rest : List Char} : backtick ∉ rest → Unclosed [backtick] rest
  | comment {rest : List Char} : HasNoCommentEnd rest → Unclosed commentStart rest

theorem scan_openComment {rest : List Char} (h : HasNoCommentEnd rest) :
    scan (commentStart ++ rest) = [.blockComment rest false] := by
  have hfirst : FirstToken '/' ('*' :: rest) (.blockComment rest false) [] := .openComment rfl rfl h
  rw [commentStart, List.cons_append, List.singleton_append, scan_of_firstToken hfirst, scan]

/-- **What is opened and not closed is plain text**, unless it is a comment. -/
theorem scan_unclosed {opener rest : List Char} (h : Unclosed opener rest)
    (hcomment : opener ≠ commentStart) :
    ∃ c, opener = [c] ∧ scan (opener ++ rest) = .other c :: scan rest := by
  cases h with
  | @string quote _ hq hopen =>
    exact ⟨quote, rfl, scan_of_firstToken (.strayQuote hq hopen)⟩
  | escapedName hopen =>
    exact ⟨backtick, rfl, scan_of_firstToken (.strayBacktick rfl hopen)⟩
  | comment hopen => exact absurd rfl hcomment

theorem boundNames_unclosed {opener rest : List Char} (h : Unclosed opener rest) :
    boundNames (opener ++ rest) = if opener = commentStart then [] else boundNames rest := by
  unfold boundNames
  by_cases hcomment : opener = commentStart
  · subst hcomment
    have hopen : HasNoCommentEnd rest := by
      cases h with
      | comment hopen => exact hopen
    rw [if_pos rfl, scan_openComment hopen]
    rfl
  · obtain ⟨c, -, hscan⟩ := scan_unclosed h hcomment
    rw [if_neg hcomment, hscan, List.filterMap_cons]
    rfl

/-- **The parameters of a closed text with something behind it that is opened and not closed.** With
a quote or a backtick they are those of both texts; with a block comment they are those of the
closed text. So parameters are lost exactly behind a comment, if some are named there and nowhere
before. -/
theorem parameters_unclosed {p opener rest : String} (hp : isClosed p.toList)
    (h : Unclosed opener.toList rest.toList) :
    parameters (p ++ opener ++ rest) =
      (if opener.toList = commentStart then parameters p
        else unionNames (parameters p) (parameters rest)) ∧
    (parameters (p ++ opener ++ rest) = unionNames (parameters p) (parameters rest) ↔
      opener.toList ≠ commentStart ∨ ∀ name ∈ parameters rest, name ∈ parameters p) := by
  have hall : parameters (p ++ opener ++ rest) =
      if opener.toList = commentStart then parameters p
        else unionNames (parameters p) (parameters rest) := by
    unfold parameters
    rw [String.toList_append, String.toList_append, List.append_assoc, boundNames_append hp,
      boundNames_unclosed h]
    split
    · rw [List.append_nil]
    · exact nameSet_append _ _
  refine ⟨hall, ?_⟩
  rw [hall]
  by_cases hcomment : opener.toList = commentStart
  · rw [if_pos hcomment, eq_comm]
    simp only [hcomment, ne_eq, not_true_eq_false, false_or]
    exact unionNames_eq_left _
  · simp [hcomment]

theorem unclosed_of_quotedBody {quote : Char} {rest : List Char} (hq : isQuote quote)
    (h : quotedBody quote rest = none) : Unclosed [quote] rest := by
  refine .string hq fun body after hrest hbody => ?_
  have hclosed := (quotedBody_eq_some (ne_backslash_of_isQuote hq)).2 ⟨hrest, hbody⟩
  rw [h] at hclosed
  cases hclosed

/-- Behind a quote that is not closed stand a parameter, a quote behind a backslash, and a parameter
behind a backtick that is not closed. -/
theorem parameters_unclosed_quote :
    isClosed "RETURN '$x', $a, ".toList ∧ Unclosed "'".toList "it\\'s $b \x60$c".toList ∧
      parameters ("RETURN '$x', $a, " ++ "'" ++ "it\\'s $b \x60$c") = ["a", "b", "c"] := by
  have hp : isClosed "RETURN '$x', $a, ".toList := by decide_cbv
  have hopen : Unclosed "'".toList "it\\'s $b \x60$c".toList :=
    unclosed_of_quotedBody rfl (by decide_cbv)
  refine ⟨hp, hopen, (parameters_unclosed hp hopen).1.trans ?_⟩
  decide_cbv

/-- A comment that is not closed hides the parameter behind it. -/
theorem parameters_openComment :
    isClosed "RETURN $a ".toList ∧ Unclosed "/*".toList " $b".toList ∧
      parameters ("RETURN $a " ++ "/*" ++ " $b") = ["a"] ∧
      unionNames (parameters "RETURN $a ") (parameters " $b") = ["a", "b"] := by
  have hbody : blockBody " $b".toList = (" $b".toList, none) := by decide_cbv
  have hopen : Unclosed "/*".toList " $b".toList := .comment ((blockBody_eq_none _).1 hbody).2
  exact ⟨by decide_cbv, hopen, by decide_cbv, by decide_cbv⟩

end GraphRepo.Cypher

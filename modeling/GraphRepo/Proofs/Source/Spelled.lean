import Mathlib
import GraphRepo.Proofs.Source.StringLiteral

/-!
# Tokens that can be written

In the text of tokens a space stands behind every token but the joint characters. So a token is read
back where the lexer takes it from the front of its own text. Behind a joint character it depends on
what follows: a quote needs something that a lifetime's name starts with, and a slash must not become
the start of a comment.
-/

namespace GraphRepo.Source

/-- What may stand behind a token that is no joint character: nothing, a space, a closing bracket or
the end of the line. -/
def Stops : List Char → Prop
  | [] => True
  | c :: _ => c ∈ [' ', ')', ']', '\n']

/-- The lexer takes the token from the front of its own text. -/
def TokenTree.StandsAlone (t : TokenTree) : Prop :=
  ∀ rest, Stops rest → cut (t.chars ++ rest) = some ([.tree t], rest)

/-- A quote in front of the token starts a lifetime. -/
def TokenTree.TakesQuote (t : TokenTree) : Prop :=
  ∀ rest, Stops rest →
    cut ('\x27' :: (t.chars ++ rest)) = some ([.tree (.punct '\x27' .joint)], t.chars ++ rest)

/-- Whether the character is punctuation other than a quote. -/
def isSign (c : Char) : Bool := isPunctuation c && c ≠ '\x27'

/-- Whether a slash in front of the text starts a comment. -/
def makesComment (cs : List Char) : Bool := cs.head?.any fun c => c = '/' || c = '*'

/-- A slash joined to the tokens starts no comment, and they are some. -/
def FollowSlash : Tokens → Prop
  | [] => False
  | t :: _ => t.chars ≠ [] ∧ ¬ makesComment t.chars

/-- **Tokens that can be written and read back.** -/
inductive Spelled : Tokens → Prop
  | nil : Spelled []
  | word {name : String} {rest : Tokens} : (TokenTree.ident name).StandsAlone → Spelled rest →
      Spelled (.ident name :: rest)
  | literal {text : String} {rest : Tokens} : (TokenTree.literal text).StandsAlone → Spelled rest →
      Spelled (.literal text :: rest)
  | group {d : Delimiter} {body rest : Tokens} : Spelled body → Spelled rest →
      Spelled (.group d body :: rest)
  | alone {c : Char} {rest : Tokens} : isSign c → Spelled rest → Spelled (.punct c .alone :: rest)
  | joint {c : Char} {rest : Tokens} : isSign c → (c = '/' → FollowSlash rest) → Spelled rest →
      Spelled (.punct c .joint :: rest)
  | quote {u : TokenTree} {rest : Tokens} : u.gap = [' '] → u.TakesQuote → Spelled (u :: rest) →
      Spelled (.punct '\x27' .joint :: u :: rest)

theorem FollowSlash.append {as : Tokens} (h : FollowSlash as) (bs : Tokens) :
    FollowSlash (as ++ bs) := by
  cases as with
  | nil => cases h
  | cons t us => exact h

theorem Spelled.append {as bs : Tokens} (ha : Spelled as) (hb : Spelled bs) :
    Spelled (as ++ bs) := by
  induction ha with
  | nil => exact hb
  | word hname _ ih => exact .word hname ih
  | literal htext _ ih => exact .literal htext ih
  | group hbody _ _ ih => exact .group hbody ih
  | alone hc _ ih => exact .alone hc ih
  | joint hc hslash _ ih => exact .joint hc (fun h => (hslash h).append bs) ih
  | quote hgap hu _ ih => exact .quote hgap hu ih

theorem Spelled.tail {t : TokenTree} {rest : Tokens} (h : Spelled (t :: rest)) : Spelled rest := by
  cases h <;> assumption

@[simp] theorem spelled_nil : Spelled [] := .nil

@[simp] theorem spelled_ident_cons {name : String} {rest : Tokens} :
    Spelled (.ident name :: rest) ↔ (TokenTree.ident name).StandsAlone ∧ Spelled rest := by
  constructor
  · rintro (_ | ⟨hname, hrest⟩)
    exact ⟨hname, hrest⟩
  · exact fun h => .word h.1 h.2

@[simp] theorem spelled_literal_cons {text : String} {rest : Tokens} :
    Spelled (.literal text :: rest) ↔ (TokenTree.literal text).StandsAlone ∧ Spelled rest := by
  constructor
  · rintro (_ | _ | ⟨htext, hrest⟩)
    exact ⟨htext, hrest⟩
  · exact fun h => .literal h.1 h.2

@[simp] theorem spelled_group_cons {d : Delimiter} {body rest : Tokens} :
    Spelled (.group d body :: rest) ↔ Spelled body ∧ Spelled rest := by
  constructor
  · rintro (_ | _ | _ | ⟨hbody, hrest⟩)
    exact ⟨hbody, hrest⟩
  · exact fun h => .group h.1 h.2

@[simp] theorem spelled_append_iff {as bs : Tokens} (ha : Spelled as) :
    Spelled (as ++ bs) ↔ Spelled bs := by
  refine ⟨fun h => ?_, ha.append⟩
  clear ha
  induction as with
  | nil => exact h
  | cons t as ih => exact ih h.tail

/-! ## Building them -/

theorem spelled_word {name : String} (h : (TokenTree.ident name).StandsAlone) :
    Spelled (word name) :=
  .word h .nil

theorem Spelled.inGroup {d : Delimiter} {body : Tokens} (h : Spelled body) :
    Spelled [.group d body] :=
  .group h .nil

theorem Spelled.flatten {tss : List Tokens} (h : ∀ ts ∈ tss, Spelled ts) : Spelled tss.flatten := by
  induction tss with
  | nil => exact .nil
  | cons ts rest ih =>
    obtain ⟨hts, hrest⟩ := List.forall_mem_cons.1 h
    exact hts.append (ih hrest)

theorem Spelled.flatMap {α : Type} {f : α → Tokens} {as : List α} (h : ∀ a ∈ as, Spelled (f a)) :
    Spelled (as.flatMap f) :=
  .flatten fun _ hts => by
    obtain ⟨a, ha, rfl⟩ := List.mem_map.1 hts
    exact h a ha

/-- Whether characters are an operator that can be written: no comment starts in it. -/
def isOperator : List Char → Bool
  | [] => true
  | [c] => isSign c
  | c :: d :: rest => isSign c && !(c = '/' && makesComment [d]) && isOperator (d :: rest)

theorem spelled_operator : ∀ {cs : List Char}, isOperator cs → Spelled (operator cs)
  | [], _ => .nil
  | [c], h => .alone h .nil
  | c :: d :: rest, h => by
    simp only [isOperator, Bool.and_eq_true, Bool.not_eq_true', Bool.and_eq_false_iff,
      decide_eq_false_iff_not] at h
    obtain ⟨⟨hc, hslash⟩, hrest⟩ := h
    have hrest := spelled_operator hrest
    refine .joint hc (fun heq => ?_) hrest
    have hd : ¬ makesComment [d] := by simpa [heq] using hslash
    cases rest with
    | nil => exact ⟨List.cons_ne_nil d [], hd⟩
    | cons e more => exact ⟨List.cons_ne_nil d [], hd⟩

theorem spelled_op {text : String} (h : isOperator text.toList) : Spelled (op text) :=
  spelled_operator h

theorem Spelled.separated {separator : String} (hseparator : Spelled (op separator))
    (trailing : Bool) : ∀ {items : List Tokens}, (∀ item ∈ items, Spelled item) →
      Spelled (separated separator trailing items)
  | [], _ => .nil
  | [item], h => by
    have hitem := h item (List.mem_singleton_self item)
    rw [Source.separated]
    split
    · exact hitem.append hseparator
    · exact hitem.append .nil
  | item :: next :: rest, h => by
    obtain ⟨hitem, hrest⟩ := List.forall_mem_cons.1 h
    exact (hitem.append hseparator).append (Spelled.separated hseparator trailing hrest)

theorem Spelled.commaSeparated {items : List Tokens} (h : ∀ item ∈ items, Spelled item)
    (trailing : Bool) : Spelled (commaSeparated trailing items) :=
  .separated (spelled_op (by decide)) trailing h

end GraphRepo.Source

import Mathlib
import GraphRepo.Proofs.Source.Reads.Items
import GraphRepo.Proofs.Source.Tokenized
import GraphRepo.Source.Reading

/-!
# Statements of tokens that can be written

A statement that is kept as it was written is a slice of the tokens. With statements all rules of
the grammar are at hand: where one level of it reads, the next one does. So whatever is read of
tokens that can be written, at any depth, can be written again; and the tokens of a text can be.
-/

namespace GraphRepo.Source

open GraphRepo.Source.Parser

namespace Grammar

variable {g : Grammar} (hg : g.Reads)
include hg

theorem reads_letStatement : g.letStatement.Reads Spelled := by
  refine (reads_keyword _).bind fun letWord hlet => hg.pattern.bind fun pattern hpattern => ?_
  refine (reads_signIf (by decide)).bind fun colon hcolon => ?_
  refine .either (.pure .nil) (reads_typeTokens hg) fun ty hty => ?_
  refine (reads_signIf (by decide)).bind fun eq heq => ?_
  refine .either (.pure .nil) (reads_expressionTokens hg) fun value hvalue => ?_
  refine (reads_sees _).bind fun _ _ => ?_
  extract_lets behind
  have hbehind (otherwise : Tokens) (hotherwise : Spelled otherwise) :
      (behind otherwise).Reads Spelled := by
    refine (reads_sign (by decide)).bind fun semi hsemi => .pure ?_
    have hhead := ((hlet.append hpattern.tokens).append hcolon).append hty
    exact (((hhead.append heq).append hvalue).append hotherwise).append hsemi
  refine .ite ((reads_keyword _).bind fun elseWord helse => ?_) ((Reads.pure .nil).bind hbehind)
  refine (takes_bareBlock hg).reads.bind fun body hbody => ?_
  exact (Reads.pure (helse.append hbody)).bind hbehind

theorem reads_statement : g.statement.Reads fun found => Spelled found.1 := by
  refine .ofStart fun start _ => .bind (reads_outerAttributes hg) fun attributes hattributes => ?_
  have houter := spelled_outer hattributes
  refine .choice ?call (.choice ?binding (.choice ?item ?expression))
  case call =>
    refine Reads.behind (reads_plainPath.bind fun path hpath => ?_)
    refine (reads_sign (by decide)).bind fun bang hbang => ?_
    refine takes_anyGroup.reads.bind fun body hbody => ?_
    refine (reads_signIf (by decide)).bind fun semi hsemi => .pure ?_
    exact (((houter.append hpath).append hbang).append hbody.inGroup).append hsemi
  case binding =>
    exact Reads.behind ((reads_letStatement hg).bind fun tokens htokens =>
      .pure (houter.append htokens))
  case item =>
    refine .bind (reads_itemRest hg hattributes) fun found hfound => ?_
    cases found with
    | some item => exact Reads.behind (.pure (hfound item rfl).tokens)
    | none => exact .slice fun now hslice => Reads.behind (.pure hslice)
  case expression =>
    refine .bind hg.statementExpression fun e he => .slice fun now hslice => Reads.behind ?_
    refine (reads_signIf (by decide)).bind fun semi hsemi => .pure (.append ?_ hsemi)
    split
    · exact hslice
    · exact spelled_withAttributes houter he

/-- The rule for statements; the next level of the grammar has it. -/
theorem reads_statementsRule : g.statementsRule.Reads Spelled := by
  refine .iterate (fun done hdone => .choice (.pure hdone) (.choice ?empty ?statement)) .nil
  case empty => exact (reads_sign (by decide)).bind fun semi hsemi => .pure (hdone.append hsemi)
  case statement =>
    refine (reads_statement hg).bind fun found hfound => .choice (.pure (hdone.append hfound)) ?_
    exact .ensured (.pure (hdone.append hfound))

/-! ## Levels -/

omit hg in
theorem reads_empty : empty.Reads where
  type _ := reads_failure
  bound _ _ := reads_failure
  expression _ _ := reads_failure
  rightSide _ _ := reads_failure
  statementExpression := reads_failure
  pattern := reads_failure
  statements := reads_failure
  useTree _ := reads_failure
  namedFields := reads_failure
  item := reads_failure

/-- **Where one level of the grammar reads, the next one does.** -/
theorem reads_step : g.step.Reads where
  type := reads_typeRule hg
  bound := reads_boundRule hg
  expression := reads_expressionRule hg
  rightSide := reads_rightSideRule hg
  statementExpression := reads_statementExpressionRule hg
  pattern := reads_patternRule hg
  statements := reads_statementsRule hg
  useTree := reads_useTreeRule hg
  namedFields := reads_namedFieldsRule hg
  item := reads_itemRule hg

omit hg in
theorem reads_level : ∀ depth, (level depth).Reads
  | 0 => reads_empty
  | depth + 1 => reads_step (reads_level depth)

end Grammar

/-- **What a part of the grammar reads in tokens that can be written has the property of that
part.** -/
theorem of_read? {α : Type} {part : Grammar → Parser α} {P : α → Prop} {ts : Tokens} {a : α}
    (hpart : ∀ g : Grammar, g.Reads → (part g).Reads P) (hts : Spelled ts)
    (h : read? part ts = some a) : P a := by
  obtain ⟨⟨b, rest⟩, hb, rfl⟩ := Option.map_eq_some_iff.1 h
  exact ((hpart _ (Grammar.reads_level _)).whole _ _ _ hts hb).2

/-! ## Source texts -/

theorem isSpelled_of_itemOfTokens? {ts : Tokens} {item : Item} (hts : Spelled ts)
    (h : itemOfTokens? ts = some item) : item.IsSpelled :=
  of_read? (fun _ hg => hg.item) hts h

theorem isSpelled_of_readItem? {text : String} {item : Item} (h : readItem? text = some item) :
    item.IsSpelled := by
  obtain ⟨ts, hts, hitem⟩ := Option.bind_eq_some_iff.1 h
  exact isSpelled_of_itemOfTokens? (spelled_of_tokenize hts) hitem

theorem isSpelled_of_readPath? {text : String} {p : Path} (h : readPath? text = some p) :
    p.IsSpelled := by
  obtain ⟨ts, hts, hpath⟩ := Option.bind_eq_some_iff.1 h
  exact of_read? (fun _ hg => (Grammar.takes_path hg false).reads) (spelled_of_tokenize hts) hpath

/-- **The items of a file can be written.** -/
theorem isSpelled_of_readItems? {text : String} {items : List Item}
    (h : readItems? text = some items) : ∀ item ∈ items, item.IsSpelled := by
  obtain ⟨ts, hts, hitems⟩ := Option.bind_eq_some_iff.1 h
  have hpart (g : Grammar) (hg : g.Reads) :
      (g.innerAttributes >>= fun _ => manyUntil List.isEmpty g.item).Reads
        fun items => ∀ item ∈ items, item.IsSpelled :=
    (Grammar.reads_innerAttributes hg).bind fun _ _ => .manyUntil hg.item
  exact of_read? hpart (spelled_of_tokenize hts) hitems

end GraphRepo.Source

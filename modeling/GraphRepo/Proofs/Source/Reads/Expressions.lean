import Mathlib
import GraphRepo.Proofs.Source.Reads.Patterns
import GraphRepo.Source.Grammar.Expression

/-!
# Expressions of tokens that can be written

Expressions that are read of tokens that can be written keep only such tokens. An operand takes a
token, so that a slash before one is followed by something; what an operator takes on its right is
read in rounds, and each round keeps that what was read so far can be written.
-/

namespace GraphRepo.Source

open GraphRepo.Source.Parser

/-- The tokens of the expression can be written. -/
def Expression.IsSpelled (e : Expression) : Prop := Spelled e.tokens

theorem isOperator_of_mem_binaryOperators {text : String} {p : Precedence}
    (h : (text, p) ∈ binaryOperators) : isOperator text.toList := by
  have hall : binaryOperators.all fun entry => isOperator entry.1.toList := by decide
  exact List.all_eq_true.1 hall _ h

theorem isOperator_of_operator? {ts : Tokens} {text : String} {p : Precedence}
    (h : ts.operator? = some (text, p)) : isOperator text.toList :=
  isOperator_of_mem_binaryOperators (List.mem_of_find?_eq_some h)

theorem spelled_label {label : Option String}
    (h : ∀ name ∈ label, Spelled (lifetimeTokens name)) :
    Spelled ((label.map lifetimeTokens).getD []) := by
  cases label with
  | none => exact .nil
  | some name => exact h name rfl

namespace Grammar

theorem takes_limits : limits.Takes Spelled := by
  refine (reads_sees _).thenTakes fun _ _ => (reads_ensure _).thenTakes fun _ _ => ?_
  exact .choice (takes_sign (by decide)) (takes_sign (by decide))

theorem spelled_withAttributes {attributes : Tokens} (hattributes : Spelled attributes)
    {e : Expression} (he : Spelled e.tokens) : Spelled (withAttributes attributes e) := by
  unfold withAttributes
  split
  · exact he
  · split
    · exact hattributes.append he.inGroup
    · exact he
    · exact hattributes.append he

theorem reads_operandSign : operandSign.Reads Spelled := by
  refine .choice ?_ <| .choice (reads_sign (by decide)) <|
    .choice (reads_sign (by decide)) (reads_signIf (by decide))
  refine (reads_sign (by decide)).bind fun hand hhand => .choice ?_ ?_
  · refine (reads_keyword _).bind fun raw hraw => takes_anyWord.reads.bind fun name hname => ?_
    exact .pure ((hhand.append hraw).append hname)
  · exact (reads_keywordIf _).bind fun mutable hmutable => .pure (hhand.append hmutable)

/-- The numbers of a field of a field can be written. -/
theorem reads_nestedIndex : nestedIndex.Reads fun found => ∀ index ∈ found, Spelled index.1 := by
  refine .ofTokens fun ts hts => ?_
  split
  · split
    · extract_lets parts pointed kept
      split
      · refine Reads.goOn (.pure ?_) (since_literal hts) hts
        refine forall_mem_some (.separated (spelled_op (by decide)) _ ?_)
        exact List.forall_mem_map.2 fun n _ => spelled_fieldNumber n
      · exact readsAt_failure
    · exact (Reads.pure nofun).readsAt hts
  · exact (Reads.pure nofun).readsAt hts

variable {g : Grammar} (hg : g.Reads)
include hg

theorem reads_headExpression : g.headExpression.Reads Spelled :=
  (hg.expression false .lowest).bind fun _ h => .pure h

theorem reads_expressionTokens : g.expressionTokens.Reads Spelled :=
  (reads_anyExpression hg).bind fun _ h => .pure h

theorem reads_expressionList : g.expressionList.Reads Spelled :=
  (reads_expressionTokens hg).commas.listTokens (by decide)

theorem reads_rangeEnd (allowStruct : Bool) (limits : Tokens) :
    (g.rangeEnd allowStruct limits).Reads Spelled :=
  .choice (.pure .nil) ((hg.rightSide allowStruct .range).bind fun _ h => .pure h)

/-! ## Forms with a body -/

theorem takes_ifExpression : g.ifExpression.Takes Spelled := by
  refine .iterate (fun done hdone => ?_) .nil
  refine (takes_keyword _).bind fun ifWord hif => ?_
  refine (reads_headExpression hg).bind fun condition hcondition => ?_
  refine (takes_bareBlock hg).reads.bind fun body hbody => ?_
  have hmore := ((hdone.append hif).append hcondition).append hbody
  refine .choice ?_ (.pure hmore)
  refine (reads_keyword _).bind fun elseWord helse => .choice (.pure (hmore.append helse)) ?_
  exact (takes_bareBlock hg).reads.bind fun body hbody =>
    .pure ((hmore.append helse).append hbody)

theorem reads_arm : g.arm.Reads Spelled := by
  refine (reads_outerTokens hg).bind fun attributes hattributes => ?_
  refine (reads_alternativesTokens hg).bind fun pattern hpattern => ?_
  refine (reads_keywordIf _).bind fun ifWord hif => ?_
  refine .either (.pure .nil) (reads_expressionTokens hg) fun condition hcondition => ?_
  refine (reads_sign (by decide)).bind fun arrow harrow => ?_
  refine hg.statementExpression.bind fun body hbody => ?_
  refine .eitherOn (reads_signIf (by decide)) (reads_sign (by decide)) fun comma hcomma => .pure ?_
  have hhead := ((hattributes.append hpattern).append hif).append hcondition
  exact ((hhead.append harrow).append hbody).append hcomma

theorem takes_matchExpression : g.matchExpression.Takes Spelled := by
  refine (takes_keyword _).bind fun matchWord hmatch => ?_
  refine (reads_headExpression hg).bind fun scrutinee hscrutinee => ?_
  refine Reads.bind (P := Spelled) (Takes.group ?_).reads fun body hbody =>
    .pure ((hmatch.append hscrutinee).append hbody.inGroup)
  refine (reads_innerAttributes hg).bind fun attributes hattributes => ?_
  exact (reads_arm hg).manyUntil.bind fun arms harms =>
    .pure ((spelled_inner hattributes).append (.flatten harms))

theorem takes_blockTokens : g.blockTokens.Takes Spelled :=
  (takes_block hg).bind fun _ h => .pure h.inGroup

theorem takes_loopExpression : g.loopExpression.Takes Spelled := by
  have hbody {head : Tokens} (hhead : Spelled head) :
      (do return head ++ (← g.blockTokens)).Reads Spelled :=
    (takes_blockTokens hg).reads.bind fun body hbody => .pure (hhead.append hbody)
  refine .choice ?_ (.choice ?_ ((takes_keyword _).bind fun loop hloop => hbody hloop))
  · refine (takes_keyword _).bind fun whileWord hwhile => ?_
    exact (reads_headExpression hg).bind fun condition hcondition =>
      hbody (hwhile.append hcondition)
  · refine (takes_keyword _).bind fun forWord hfor => ?_
    refine (reads_alternativesTokens hg).bind fun pattern hpattern => ?_
    refine (reads_keyword _).bind fun inWord hin => ?_
    exact (reads_headExpression hg).bind fun values hvalues =>
      hbody (((hfor.append hpattern).append hin).append hvalues)

theorem takes_labelled : g.labelled.Takes Spelled := by
  refine takes_lifetime.bind fun label hlabel => ?_
  refine (reads_sign (by decide)).bind fun colon hcolon => ?_
  exact .eitherOn (takes_blockTokens hg).reads (takes_loopExpression hg).reads fun body hbody =>
    .pure ((hlabel.append hcolon).append hbody)

/-- What is read behind a form with a body, or where there is none. -/
theorem takes_behindBlockForm {β : Type} {f : Option Tokens → Parser β} {Q : β → Prop}
    (hsome : ∀ tokens, Spelled tokens → (f (some tokens)).Reads Q) (hnone : (f none).Takes Q) :
    (g.blockForm >>= f).Takes Q := by
  have hform {p : Parser (Option Tokens)}
      (hp : p.Takes fun found => ∃ tokens, found = some tokens ∧ Spelled tokens) :
      (p >>= f).Takes Q := by
    refine hp.bind ?_
    rintro _ ⟨tokens, rfl, htokens⟩
    exact hsome tokens htokens
  have hkept {p : Parser Tokens} (hp : p.Takes Spelled) :
      (do return some (← p)).Takes fun found => ∃ tokens, found = some tokens ∧ Spelled tokens :=
    hp.bind fun tokens htokens => .pure ⟨tokens, rfl, htokens⟩
  have hworded {p : Parser Tokens} (name : String) (hp : p.Takes Spelled) :
      (do return some ((← keyword name) ++ (← p))).Takes
        fun found => ∃ tokens, found = some tokens ∧ Spelled tokens :=
    (takes_keyword name).bind fun first hfirst => hp.reads.bind fun body hbody =>
      .pure ⟨first ++ body, rfl, hfirst.append hbody⟩
  have hblock := takes_blockTokens hg
  refine .choiceThen (hform (hkept (takes_ifExpression hg))) <|
    .choiceThen (hform (hkept (takes_loopExpression hg))) <|
    .choiceThen (hform (hkept (takes_matchExpression hg))) <|
    .choiceThen (hform (hworded _ (takes_bareBlock hg))) <|
    .choiceThen (hform (hworded _ hblock)) <| .choiceThen (hform (hworded _ hblock)) <|
    .choiceThen (hform (hkept hblock)) <|
    .choiceThen (hform (hkept (takes_labelled hg))) ?_
  rw [pure_bind]
  exact hnone

/-! ## Atoms -/

theorem reads_fieldValue : g.fieldValue.Reads Spelled := by
  refine (reads_outerTokens hg).bind fun attributes hattributes => ?_
  refine reads_member.bind fun found h => ?_
  obtain ⟨named, name⟩ := found
  have hname := hattributes.append h
  refine .choice ?_ (.pure hname)
  refine (reads_sign (by decide)).bind fun colon hcolon => ?_
  exact (reads_expressionTokens hg).bind fun value hvalue =>
    .pure ((hname.append hcolon).append hvalue)

theorem reads_fieldValues : g.fieldValues.Reads Spelled := by
  refine .iterate (fun done hdone => .choice (.pure hdone) (.choice ?base ?field)) .nil
  case base =>
    refine (reads_sign (by decide)).bind fun dots hdots => ?_
    refine .eitherOn (.pure .nil) (reads_expressionTokens hg) fun base hbase => .pure ?_
    exact (hdone.append hdots).append hbase
  case field =>
    refine (reads_fieldValue hg).bind fun field hfield => .choice (.pure (hdone.append hfield)) ?_
    exact (reads_sign (by decide)).bind fun comma hcomma =>
      .pure ((hdone.append hfield).append hcomma)

theorem takes_pathExpression (allowStruct : Bool) :
    (g.pathExpression allowStruct).Takes Expression.IsSpelled := by
  refine (takes_qualifiedPath hg true).bind fun p hp => ?_
  have htokens := hp.tokens
  refine .choice ?call (.choice ?fields (.pure htokens))
  case call =>
    refine (reads_sign (by decide)).bind fun bang hbang => ?_
    refine takes_anyGroup.reads.bind fun body hbody => .pure ?_
    exact (htokens.append hbang).append hbody.inGroup
  case fields =>
    exact (Takes.group (reads_fieldValues hg)).reads.bind fun fields hfields =>
      .pure (htokens.append hfields.inGroup)

theorem reads_closureInput : g.closureInput.Reads Spelled := by
  refine (reads_outerTokens hg).bind fun attributes hattributes => ?_
  refine hg.pattern.bind fun pattern hpattern => ?_
  refine (reads_signIf (by decide)).bind fun colon hcolon => ?_
  refine .ite ?typed ?untyped
  case typed =>
    refine (hg.type true).bind fun ty hty => .pure ?_
    exact ((hattributes.append hpattern.tokens).append hcolon).append hty.tokens
  case untyped =>
    cases pattern with
    | range isOpen tokens =>
      refine .pure (hattributes.append ?_)
      split
      · exact hpattern
      · exact hpattern.inGroup
    | constant inner statements =>
      have hconst : Spelled (word "const") :=
        spelled_syntaxWord (by simp [syntaxWords])
      exact .pure ((hattributes.append hconst).append hpattern.2.inGroup)
    | asWritten tokens => exact .pure hpattern
    | name ident => exact .pure (hattributes.append hpattern)
    | other tokens => exact .pure (hattributes.append hpattern)

theorem takes_closure (allowStruct : Bool) : (g.closure allowStruct).Takes Spelled := by
  refine (reads_binder hg).thenTakes fun binder hbinder => ?_
  refine (reads_keywordIf _).thenTakes fun const hconst => ?_
  refine (reads_keywordIf _).thenTakes fun static hstatic => ?_
  refine (reads_keywordIf _).thenTakes fun async hasync => ?_
  refine (reads_keywordIf _).thenTakes fun move hmove => ?_
  refine (takes_sign (by decide)).bind fun opening hopening => ?_
  have hlist : (listTokens "," (separatedUntil (Tokens.onOp "|") "," g.closureInput)).Reads
      Spelled :=
    ((reads_closureInput hg).separatedUntil (by decide)).listTokens (by decide)
  refine hlist.bind fun inputs hinputs => (reads_sign (by decide)).bind fun close hclose => ?_
  have hwords := (((hbinder.append hconst).append hstatic).append hasync).append hmove
  have hhead := ((hwords.append hopening).append hinputs).append hclose
  refine .choice ?result ?plain
  case result =>
    refine (reads_sign (by decide)).bind fun arrow harrow => (hg.type true).bind fun ty hty => ?_
    exact (takes_bareBlock hg).reads.bind fun body hbody =>
      .pure (((hhead.append harrow).append hty.tokens).append hbody)
  case plain =>
    exact (hg.expression allowStruct .lowest).bind fun e he => .pure (hhead.append he)

theorem reads_arrayBody : g.arrayBody.Reads Spelled := by
  refine .choice (.pure .nil) ((reads_expressionTokens hg).bind fun first hfirst => ?_)
  refine .choice ?repeated (.choice (.pure hfirst) ?listed)
  case repeated =>
    refine (reads_sign (by decide)).bind fun semi hsemi => ?_
    exact (reads_expressionTokens hg).bind fun size hsize =>
      .pure ((hfirst.append hsemi).append hsize)
  case listed =>
    refine (reads_sign (by decide)).bind fun comma hcomma => ?_
    exact (reads_expressionList hg).bind fun rest hrest =>
      .pure ((hfirst.append hcomma).append hrest)

theorem takes_breakExpression (allowStruct : Bool) :
    (g.breakExpression allowStruct).Takes Spelled := by
  refine (takes_keyword _).bind fun breakWord hbreak => reads_lifetimeIf.bind fun label hlabel => ?_
  refine (reads_sees _).bind fun _ _ => .ensured ?_
  exact .eitherOn (reads_expressionTokens hg) (.pure .nil) fun value hvalue =>
    .pure ((hbreak.append (spelled_label hlabel)).append hvalue)

theorem takes_withValue (name : String) : (g.withValue name).Takes Spelled := by
  refine (takes_keyword _).bind fun first hfirst => ?_
  exact .eitherOn (reads_expressionTokens hg) (.pure .nil) fun value hvalue =>
    .pure (hfirst.append hvalue)

theorem takes_atom (allowStruct : Bool) : (g.atom allowStruct).Takes Expression.IsSpelled := by
  unfold Grammar.atom
  extract_lets other
  have hother {p : Parser Tokens} (hp : p.Takes Spelled) : (other p).Takes Expression.IsSpelled :=
    hp.bind fun _ h => .pure h
  refine .choice (hother takes_literal) <| .choice (hother ?async) <|
    .choice (hother (takes_closure hg allowStruct)) <| .choice ?builtin <|
    .choice (takes_pathExpression hg allowStruct) <| .choice (hother ?parenthesized) <|
    .choice (hother (takes_breakExpression hg allowStruct)) <| .choice (hother ?goOn) <|
    .choice (hother (takes_withValue hg _)) <| .choice ?tail <| .choice (hother ?array) <|
    .choice (hother ?binding) <| .choice (hother (takes_withValue hg _)) <| .choice ?range <|
    .choice (hother (takes_keyword _)) <|
    takes_behindBlockForm hg (fun tokens h => .pure h) takes_failure
  case async =>
    refine (takes_keyword _).bind fun async hasync => (reads_keywordIf _).bind fun move hmove => ?_
    exact (takes_bareBlock hg).reads.bind fun body hbody =>
      .pure ((hasync.append hmove).append hbody)
  case builtin => exact takes_builtinForm.asWritten.bind fun _ h => .pure h
  case parenthesized =>
    exact (Takes.group (reads_expressionList hg)).bind fun _ h => .pure h.inGroup
  case goOn =>
    refine (takes_keyword _).bind fun continueWord hcontinue => ?_
    exact reads_lifetimeIf.bind fun label hlabel => .pure (hcontinue.append (spelled_label hlabel))
  case tail =>
    refine (Takes.asWritten ((takes_keyword _).bind fun _ _ => reads_anyExpression hg)).bind ?_
    exact fun _ h => .pure h
  case array => exact (Takes.group (reads_arrayBody hg)).bind fun _ h => .pure h.inGroup
  case binding =>
    refine (takes_keyword _).bind fun letWord hlet => ?_
    refine (reads_alternativesTokens hg).bind fun pattern hpattern => ?_
    refine (reads_sign (by decide)).bind fun eq heq => ?_
    exact (hg.expression allowStruct .compare).bind fun e he =>
      .pure (((hlet.append hpattern).append heq).append he)
  case range =>
    exact takes_limits.bind fun sign hsign => (reads_rangeEnd hg allowStruct sign).bind
      fun bound hbound => .pure (hsign.append hbound)

/-! ## What follows an atom -/

theorem reads_callArguments : g.callArguments.Reads Spelled :=
  (Takes.group (reads_expressionList hg)).reads.bind fun _ h => .pure h.inGroup

theorem reads_memberAccess : g.memberAccess.Reads Spelled := by
  refine .choice (reads_keyword _) (reads_member.bind fun found hfound => ?_)
  obtain ⟨named, name⟩ := found
  refine .choice ?_ (.pure hfound)
  refine (reads_sign (by decide)).bind fun colons hcolons => ?_
  refine (reads_sign (by decide)).bind fun opening hopening => ?_
  refine ((reads_argument hg).separatedUntil (by decide)).bind fun args hargs => ?_
  refine (reads_sign (by decide)).bind fun close hclose => ?_
  refine (reads_callArguments hg).bind fun call hcall => .pure ?_
  have hentries := spelled_entries (Argument.AllSpelled.entries (Argument.allSpelled_iff.2 hargs))
  have hhead := ((Spelled.append hfound hcolons).append hopening).append (hentries args.2)
  exact (hhead.append hclose).append hcall

theorem reads_trailers {e : Expression} (he : e.IsSpelled) :
    (g.trailers e).Reads Expression.IsSpelled := by
  refine .iterate (fun e he => ?_) he
  refine .choice ?call (.choice ?access (.choice ?index (.choice ?mark (.pure he))))
  case call => exact (reads_callArguments hg).bind fun call hcall => .pure (he.append hcall)
  case access =>
    refine (reads_sign (by decide)).bind fun dot hdot => ?_
    refine reads_nestedIndex.bind fun found hfound => ?_
    have hhead := Spelled.append he hdot
    have haccess {head : Tokens} (h : Spelled head) :
        (do return ((⟨.other, head ++ (← g.memberAccess)⟩ : Expression), true)).Reads
          fun r => Expression.IsSpelled r.1 :=
      (reads_memberAccess hg).bind fun access haccess => .pure (h.append haccess)
    match found with
    | some (index, false) => exact .pure (hhead.append (hfound _ rfl))
    | some (index, true) => exact haccess (hhead.append (hfound _ rfl))
    | none => exact haccess hhead
  case index =>
    exact (Takes.group (reads_expressionTokens hg)).reads.bind fun index hindex =>
      .pure (he.append hindex.inGroup)
  case mark => exact (reads_sign (by decide)).bind fun mark hmark => .pure (he.append hmark)

/-! ## Operands -/

theorem takes_attributedAtom (allowStruct : Bool) {start attributes ts rest : Tokens}
    {e : Expression} (hattributes : Spelled attributes) (hstart : Since start ts) (hts : Spelled ts)
    (h : g.attributedAtom allowStruct start attributes ts = some (e, rest)) :
    Since ts rest ∧ rest.length < ts.length ∧ e.IsSpelled := by
  have hatom : (do g.trailers (← g.atom allowStruct)).Takes Expression.IsSpelled :=
    (takes_atom hg allowStruct).bind fun _ he => reads_trailers hg he
  obtain ⟨first, behindAtom, hfirst, h⟩ := bind_eq_some h
  obtain ⟨found, middle, hfound, h⟩ := bind_eq_some h
  have hrun : (do g.trailers (← g.atom allowStruct)) ts = some (found, middle) :=
    Option.bind_eq_some_iff.2 ⟨_, hfirst, hfound⟩
  obtain ⟨hsince, hspelled⟩ := hatom.reads _ _ _ hts hrun
  have hshorter := hatom.shorter _ _ _ hts hrun
  obtain ⟨done, behindCheck, hcheck, h⟩ := bind_eq_some h
  obtain rfl : middle = behindCheck := by
    unfold ensure at hcheck
    split at hcheck
    · cases hcheck
      rfl
    · cases hcheck
  split at h
  · obtain ⟨now, again, hget, h⟩ := bind_eq_some h
    cases hget
    cases h
    exact ⟨hsince, hshorter, (hstart.trans hsince).upTo⟩
  · cases h
    exact ⟨hsince, hshorter, hattributes.append hspelled⟩

theorem takes_operand (allowStruct : Bool) :
    (g.operand allowStruct).Takes Expression.IsSpelled := by
  have hrun {ts rest : Tokens} {e : Expression} (hts : Spelled ts)
      (h : g.operand allowStruct ts = some (e, rest)) :
      Since ts rest ∧ rest.length < ts.length ∧ e.IsSpelled := by
    obtain ⟨⟨signs, start, attributes⟩, middle, hloop, h⟩ := bind_eq_some h
    obtain ⟨found, behind, hfound, h⟩ := bind_eq_some h
    cases h
    obtain ⟨now, again, hget, hloop⟩ := bind_eq_some hloop
    cases hget
    -- Attributes that no sign follows stand in front of the atom, from where they were read.
    have hends : Since ts middle ∧ Spelled signs ∧ Since start middle ∧ Spelled attributes := by
      refine iterateWithin_ends (fun s => Spelled s.1)
        (fun s rest => Spelled s.1 ∧ Since s.2.1 rest ∧ Spelled s.2.2) ?_ _ .nil hts hloop
      rintro ⟨signs, before, unread⟩ hsigns ts r rest hts h
      obtain ⟨now, again, hget, h⟩ := bind_eq_some h
      cases hget
      obtain ⟨attributes, middle, hread, h⟩ := bind_eq_some h
      obtain ⟨hfirst, hattributes⟩ := reads_outerTokens hg _ _ _ hts hread
      obtain ⟨s, behind, hs, h⟩ := bind_eq_some h
      obtain ⟨hsecond, hsign⟩ := reads_operandSign _ _ _ (hfirst.spelled hts) hs
      have hsince := hfirst.trans hsecond
      split at h
      · cases h
        exact ⟨hsince, hsigns, hsince, hattributes⟩
      · cases h
        exact ⟨hsince, (Spelled.append hsigns hattributes).append hsign⟩
    obtain ⟨hfirst, hsigns, hstart, hattributes⟩ := hends
    obtain ⟨hsecond, hshorter, hspelled⟩ :=
      takes_attributedAtom hg allowStruct hattributes hstart (hfirst.spelled hts) hfound
    exact ⟨hfirst.trans hsecond, Nat.lt_of_lt_of_le hshorter hfirst.length_le,
      Spelled.append hsigns hspelled⟩
  exact ⟨fun _ _ _ hts h => ⟨(hrun hts h).1, (hrun hts h).2.2⟩, fun _ _ _ hts h => (hrun hts h).2.1⟩

/-! ## Operators -/

/-- What is read in some rounds behind an expression, on either side of an operator. -/
theorem reads_rounds (allowStruct : Bool) : ∀ rounds : Nat,
    (∀ base (lhs : Expression), lhs.IsSpelled →
      (g.operators allowStruct rounds base lhs).Reads Expression.IsSpelled) ∧
    ∀ p (rhs : Expression), rhs.IsSpelled →
      (g.rightWithin allowStruct rounds p rhs).Reads Expression.IsSpelled
  | 0 => ⟨fun _ _ _ => reads_failure, fun _ _ _ => reads_failure⟩
  | rounds + 1 => by
    obtain ⟨hoperators, hright⟩ := reads_rounds allowStruct rounds
    constructor
    · intro base lhs hlhs
      have hoperand (p : Precedence) (kind : ExpressionForm) {s : Tokens} (hs : Spelled s) :
          (do
            let rhs ← g.rightWithin allowStruct rounds p (← g.operand allowStruct)
            g.operators allowStruct rounds base ⟨kind, lhs.tokens ++ s ++ rhs.tokens⟩).Takes
              Expression.IsSpelled :=
        (takes_operand hg allowStruct).bind fun e he => (hright p e he).bind fun rhs hrhs =>
          hoperators base _ ((Spelled.append hlhs hs).append hrhs)
      unfold Grammar.operators
      refine .ite (.pure hlhs) (reads_get.bind fun ts _ => ?_)
      split
      · next text p hfound =>
        refine .ite (.pure hlhs) (.ensured ?_)
        exact Takes.behindOperator (isOperator_of_operator? hfound) fun s hs => hoperand p _ hs
      · refine .choice ?assign (.choice ?range (.choice ?cast (.pure hlhs)))
        case assign => exact Takes.behindOperator (by decide) fun s hs => hoperand .assign .other hs
        case range =>
          refine takes_limits.reads.bind fun s hs => ?_
          exact (reads_rangeEnd hg allowStruct s).bind fun bound hbound =>
            .pure ((Spelled.append hlhs hs).append hbound)
        case cast =>
          refine (reads_keyword _).bind fun s hs => (hg.type false).bind fun ty hty => ?_
          refine (reads_sees _).bind fun _ _ => .ensured ?_
          exact hoperators base _ ((Spelled.append hlhs hs).append hty.tokens)
    · intro p rhs hrhs
      unfold Grammar.rightWithin
      refine reads_get.bind fun _ _ => .ite ?_ (.pure hrhs)
      refine reads_get.bind fun _ _ => (hoperators _ rhs hrhs).bind fun rhs hrhs => ?_
      exact reads_get.bind fun _ _ => .ite (.pure hrhs) (hright p rhs hrhs)

theorem reads_operatorsFrom (allowStruct : Bool) (base : Precedence) {lhs : Expression}
    (hlhs : lhs.IsSpelled) : (g.operatorsFrom allowStruct base lhs).Reads Expression.IsSpelled :=
  reads_get.bind fun _ _ => (reads_rounds hg allowStruct _).1 base lhs hlhs

/-! ## Rules -/

theorem reads_expressionRule (allowStruct : Bool) (base : Precedence) :
    (g.expressionRule allowStruct base).Reads Expression.IsSpelled :=
  (takes_operand hg allowStruct).reads.bind fun _ he => reads_operatorsFrom hg allowStruct base he

theorem reads_rightSideRule (allowStruct : Bool) (p : Precedence) :
    (g.rightSideRule allowStruct p).Reads Expression.IsSpelled :=
  (takes_operand hg allowStruct).reads.bind fun _ he => reads_get.bind fun _ _ =>
    (reads_rounds hg allowStruct _).2 p _ he

/-- The rule for expressions as statements; the next level of the grammar has it. -/
theorem reads_statementExpressionRule :
    g.statementExpressionRule.Reads Expression.IsSpelled := by
  refine (reads_outerTokens hg).bind fun attributes hattributes => ?_
  refine (takes_behindBlockForm hg (fun tokens htokens => ?block) ?plain).reads
  case block =>
    have he : Expression.IsSpelled ⟨.blockLike, attributes ++ tokens⟩ := hattributes.append htokens
    exact .choice ((reads_trailers hg he).bind fun _ h => reads_operatorsFrom hg _ _ h) (.pure he)
  case plain =>
    refine (takes_operand hg true).bind fun first hfirst => reads_operatorsFrom hg _ _ ?_
    exact spelled_withAttributes hattributes hfirst

end Grammar

end GraphRepo.Source

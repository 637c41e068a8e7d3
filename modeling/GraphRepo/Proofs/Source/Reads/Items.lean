import Mathlib
import GraphRepo.Proofs.Source.Reads.Expressions
import GraphRepo.Source.Grammar.Item

/-!
# Items of tokens that can be written

Traits, their members and the other items that are read of tokens that can be written keep only such
tokens. Where a rule answers nothing, what it took is kept, and that can be written too.
-/

namespace GraphRepo.Source

open GraphRepo.Source.Parser

/-- An input, or the tokens of a last one, can be written. -/
def SpellsInput : Input ⊕ Tokens → Prop
  | .inl input => input.IsSpelled
  | .inr tokens => Spelled tokens

/-- The inputs of a function, and what stands behind them, can be written. -/
def SpellsInputs (found : List Input × Bool × Tokens) : Prop :=
  (∀ input ∈ found.1, input.IsSpelled) ∧ Spelled found.2.2

/-- The attributes inside a body, and its statements, can be written. -/
def SpellsBody (found : List Attribute × Tokens) : Prop :=
  (∀ a ∈ found.1, Spelled a.tokens) ∧ Spelled found.2

theorem SpellsBody.inBraces {found : List Attribute × Tokens} (h : SpellsBody found) :
    Spelled (braces (Attribute.innerTokens found.1 ++ found.2)) :=
  ((spelled_inner h.1).append h.2).inGroup

theorem some_mem_of_mapM {α : Type} : ∀ {found : List (Option α)} {as : List α},
    found.mapM id = some as → ∀ a ∈ as, some a ∈ found
  | [], _, h, _, ha => by
    cases h
    cases ha
  | b :: found, _, h, a, ha => by
    rw [List.mapM_cons] at h
    obtain ⟨c, hc, h⟩ := Option.bind_eq_some_iff.1 h
    obtain ⟨cs, hcs, heq⟩ := Option.bind_eq_some_iff.1 h
    cases heq
    rcases List.mem_cons.1 ha with rfl | ha
    · exact List.mem_cons.2 (.inl hc.symm)
    · exact List.mem_cons_of_mem _ (some_mem_of_mapM hcs a ha)

namespace Grammar

theorem spelled_withOuter {attributes : List Attribute}
    (hattributes : ∀ a ∈ attributes, Spelled a.tokens)
    {tokens : Tokens} (htokens : Spelled tokens) : Spelled (withOuter attributes tokens) :=
  (spelled_outer hattributes).append htokens

/-! ## Parts that items share -/

theorem reads_visibility : visibility.Reads Spelled := by
  refine .choice ((reads_keyword _).bind fun pub hpub => .ofTokens fun ts hts => ?_) (.pure .nil)
  have hkept : (pure pub : Parser Tokens).ReadsAt ts Spelled := (Reads.pure hpub).readsAt hts
  split
  · next body rest =>
    obtain ⟨hbody, -⟩ := spelled_group_cons.1 hts
    have hgroup : Since (.group .paren body :: rest) rest := ⟨[_], rfl, hbody.inGroup⟩
    split
    · split
      · have hname := spelled_word (spelled_ident_cons.1 hbody).1
        exact Reads.goOn (.pure (hpub.append hname.inGroup)) hgroup hts
      · exact hkept
    · next path =>
      split
      · next p hp =>
        have hpath : Spelled p.tokens := by
          obtain ⟨⟨q, left⟩, hq, rfl⟩ := Option.map_eq_some_iff.1 hp
          exact (reads_plainPath.whole _ _ _ (spelled_ident_cons.1 hbody).2 hq).2
        have hin : Spelled (word "in") :=
          spelled_syntaxWord (by simp [syntaxWords])
        exact Reads.goOn (.pure (hpub.append (hin.append hpath).inGroup)) hgroup hts
      · exact readsAt_failure
    · exact hkept
  · exact hkept

theorem reads_valueIf {value : Parser Tokens} (hvalue : value.Reads Spelled) :
    (valueIf value).Reads Spelled := by
  refine (reads_signIf (by decide)).bind fun eq heq => .ite (.pure .nil) ?_
  exact hvalue.bind fun tokens htokens => .pure (heq.append htokens)

theorem reads_macroItem (named : Bool) : (macroItem named).Reads Spelled := by
  refine reads_plainPath.bind fun path hpath => (reads_sign (by decide)).bind fun bang hbang => ?_
  have hword : (word <$> anyWord).Reads Spelled := takes_anyWord.reads.map fun _ h => h
  refine .eitherOn hword (.pure .nil) fun name hname => ?_
  refine takes_anyGroup.reads.bind fun body hbody => ?_
  refine .either (.pure .nil) (reads_sign (by decide)) fun semi hsemi => .pure ?_
  exact (((hpath.append hbang).append hname).append hbody.inGroup).append hsemi

theorem reads_rename : rename.Reads Spelled := by
  refine (reads_keywordIf _).bind fun asWord hasWord => .ite (.pure .nil) (.choice ?_ ?_)
  · exact (reads_keyword _).bind fun name hname => .pure (hasWord.append hname)
  · exact takes_ident.reads.bind fun name hname => .pure (hasWord.append hname)

theorem reads_macroDefinition : macroDefinition.Reads fun _ => True := by
  refine (reads_keyword _).bind fun _ _ => takes_ident.reads.bind fun _ _ => ?_
  refine (reads_sees _).bind fun _ _ => ?_
  extract_lets behind
  have hbehind : (behind ()).Reads fun _ => True :=
    (reads_sees _).bind fun _ _ => .ensured (takes_anyGroup.reads.bind fun _ _ => .pure trivial)
  exact .ite (takes_anyGroup.reads.bind fun _ _ => hbehind) hbehind

theorem reads_externCrate {vis : Tokens} (hvis : Spelled vis) :
    (externCrate vis).Reads Spelled := by
  refine (reads_keyword _).bind fun externWord hextern => ?_
  refine (reads_keyword _).bind fun crateWord hcrate => ?_
  refine .eitherOn takes_anyWord.reads takes_ident.reads fun name hname => ?_
  refine reads_rename.bind fun new hnew => (reads_sign (by decide)).bind fun semi hsemi => .pure ?_
  exact ((((hvis.append hextern).append hcrate).append hname).append hnew).append hsemi

variable {g : Grammar} (hg : g.Reads)
include hg

/-! ## Functions -/

theorem reads_receiver {attributes : List Attribute}
    (hattributes : ∀ a ∈ attributes, Spelled a.tokens) :
    (g.receiver attributes).Reads Input.IsSpelled := by
  refine (reads_sees _).bind fun _ _ => ?_
  extract_lets behind
  have hbehind (reference : Option (Option String)) (hreference : ∀ lifetime ∈ reference,
      ∀ name ∈ lifetime, Spelled (lifetimeTokens name)) :
      (behind reference).Reads Input.IsSpelled := by
    refine (reads_takes _).bind fun mutable _ => (reads_keyword _).bind fun _ _ => ?_
    refine .either (.pure .nil) (reads_signIf (by decide)) fun colon _ => ?_
    have hty : (some <$> g.type true).Reads fun ty => ∀ t ∈ ty, t.IsSpelled := by
      refine (hg.type true).map fun ty hty => ?_
      exact forall_mem_some hty
    exact .either (.pure nofun) hty fun ty hty => .pure ⟨hattributes, hreference, hty⟩
  refine .ite ((reads_sign (by decide)).bind fun _ _ => ?_) (hbehind none nofun)
  refine reads_lifetimeIf.bind fun lifetime hlifetime => hbehind (some lifetime) ?_
  exact forall_mem_some hlifetime

theorem reads_input {attributes : List Attribute}
    (hattributes : ∀ a ∈ attributes, Spelled a.tokens) :
    (g.input attributes).Reads SpellsInput := by
  have houter := spelled_outer hattributes
  refine .choice ?variadic (.choice ?self (.choice ?unnamed ?named))
  case variadic => exact (reads_sign (by decide)).bind fun dots hdots => .pure (houter.append hdots)
  case self => exact (reads_receiver hg hattributes).bind fun input hinput => .pure hinput
  case unnamed =>
    have hpattern : (Pattern.other (word "_")).IsSpelled :=
      spelled_syntaxWord (by simp [syntaxWords])
    exact (hg.type true).bind fun ty hty => .pure ⟨hattributes, hpattern, hty⟩
  case named =>
    refine hg.pattern.bind fun pattern hpattern => ?_
    refine (reads_sign (by decide)).bind fun colon hcolon => ?_
    refine .choice ?_ ((hg.type true).bind fun ty hty => .pure ⟨hattributes, hpattern, hty⟩)
    refine (reads_sign (by decide)).bind fun dots hdots => .pure ?_
    exact ((houter.append hpattern.tokens).append hcolon).append hdots

theorem reads_inputs : g.inputs.Reads SpellsInputs := by
  refine Reads.bind (P := SpellsInputs) ?_ fun found hfound => .pure ?_
  · refine .iterate (fun found hfound => .choice (.pure ⟨hfound.1, .nil⟩) ?_)
      ⟨List.forall_mem_nil _, .nil⟩
    refine (reads_outerAttributes hg).bind fun attributes hattributes => ?_
    refine (reads_input hg hattributes).bind fun last hlast => ?_
    cases last with
    | inr variadic =>
      exact (reads_signIf (by decide)).bind fun comma hcomma =>
        .pure ⟨hfound.1, Spelled.append hlast hcomma⟩
    | inl input =>
      have hmore : ∀ i ∈ input :: found.1, i.IsSpelled := List.forall_mem_cons.2 ⟨hlast, hfound.1⟩
      refine .ensured (.choice (.pure ⟨hmore, .nil⟩) ?_)
      exact (reads_sign (by decide)).bind fun _ _ => .pure ⟨hmore, .nil⟩
  · exact ⟨fun i hi => hfound.1 i (List.mem_reverse.1 hi), hfound.2⟩

theorem reads_signature : g.signature.Reads Signature.IsSpelled := by
  refine (reads_takes _).bind fun isConst _ => (reads_takes _).bind fun isAsync _ => ?_
  refine (reads_keywordIf _).bind fun unsafety hunsafety => reads_linkage.bind fun abi habi => ?_
  refine (reads_keyword _).bind fun _ _ => takes_ident.reads.bind fun name hname => ?_
  refine (reads_generics hg).bind fun generics hgenerics => ?_
  refine (Takes.group (reads_inputs hg)).reads.bind fun inputs hinputs => ?_
  refine (reads_output hg true).bind fun output houtput => ?_
  refine (reads_whereClause hg).bind fun whereTokens hwhere => .pure ?_
  exact ⟨hunsafety.append habi, hname, ⟨hgenerics.entries, hwhere⟩, hinputs.1, hinputs.2, houtput⟩

theorem reads_functionBody : g.functionBody.Reads SpellsBody :=
  (Takes.group ((reads_innerAttributes hg).bind fun _ hattributes => hg.statements.bind
    fun _ hstatements => .pure ⟨hattributes, hstatements⟩)).reads

/-! ## Declarations -/

theorem reads_typeDeclaration (whereFirst whereLast : Bool) :
    (g.typeDeclaration whereFirst whereLast).Reads fun t => Spelled t.tokens := by
  refine (reads_keyword _).bind fun typeWord htype => takes_ident.reads.bind fun name hname => ?_
  refine (reads_generics hg).bind fun generics hgenerics => ?_
  refine (reads_signIf (by decide)).bind fun colon _ => ?_
  refine Reads.either (P := fun found : List Bound × Bool => ∀ b ∈ found.1, b.IsSpelled)
    (.pure (List.forall_mem_nil _)) (reads_boundsUntil hg _ _) fun bounds hbounds => ?_
  refine (reads_sees _).bind fun isFirst _ => ?_
  refine .either (reads_whereClause hg) (.pure .nil) fun first hfirst => ?_
  refine (reads_valueIf (reads_typeTokens hg)).bind fun value hvalue => ?_
  refine .either (reads_whereClause hg) (.pure .nil) fun last hlast => ?_
  refine (reads_sign (by decide)).bind fun semi hsemi => .pure ?_
  have hhead := ((htype.append hname).append hgenerics.tokens).append (spelled_boundsTokens hbounds)
  exact (((hhead.append hfirst).append hvalue).append hlast).append hsemi

theorem reads_constantDeclaration :
    g.constantDeclaration.Reads fun found => Spelled found.2.2 := by
  refine (reads_keyword _).bind fun constWord hconst => ?_
  refine .eitherOn takes_anyWord.reads takes_ident.reads fun name hname => ?_
  refine (reads_sees _).bind fun isGeneric _ => ?_
  refine (reads_generics hg).bind fun generics hgenerics => ?_
  refine (reads_sign (by decide)).bind fun colon hcolon => (hg.type true).bind fun ty hty => ?_
  refine (reads_valueIf (reads_expressionTokens hg)).bind fun value hvalue => ?_
  refine (reads_sees _).bind fun _ _ => (reads_whereClause hg).bind fun _ _ => ?_
  refine (reads_sign (by decide)).bind fun semi hsemi => .pure ?_
  have hhead := ((hconst.append hname).append hgenerics.tokens).append hcolon
  exact ((hhead.append hty.tokens).append hvalue).append hsemi

/-! ## Members of traits -/

theorem reads_method {attributes : List Attribute}
    (hattributes : ∀ a ∈ attributes, Spelled a.tokens) :
    (g.method attributes).Reads Method.IsSpelled := by
  refine (reads_signature hg).bind fun signature hsignature => .choice ?body ?none
  case body =>
    refine (reads_functionBody hg).bind fun found hfound => .pure ?_
    refine ⟨List.forall_mem_append.2 ⟨hattributes, hfound.1⟩, hsignature, ?_⟩
    exact forall_mem_some hfound.2
  case none => exact (reads_sign (by decide)).bind fun _ _ => .pure ⟨hattributes, hsignature, nofun⟩

theorem reads_plainMember {attributes : List Attribute}
    (hattributes : ∀ a ∈ attributes, Spelled a.tokens)
    (qualified : Bool) :
    (g.plainMember attributes qualified).Reads fun found => ∀ m ∈ found, m.IsSpelled := by
  have houter := spelled_outer hattributes
  refine .choice ?method (.choice ?constant (.choice ?type ?call))
  case method => exact (reads_method hg hattributes).bind fun m hm => .pure (forall_mem_some hm)
  case constant =>
    refine (reads_constantDeclaration hg).bind fun found hfound => .pure ?_
    split
    · exact nofun
    · exact forall_mem_some (houter.append hfound)
  case type =>
    exact (reads_typeDeclaration hg false true).bind fun t ht =>
      .pure (forall_mem_some (houter.append ht))
  case call =>
    refine (reads_sees _).bind fun _ _ => .ensured ?_
    exact (reads_macroItem false).bind fun tokens htokens =>
      .pure (forall_mem_some (houter.append htokens))

theorem reads_traitMember : g.traitMember.Reads Member.IsSpelled := by
  refine .orAsWritten ?_ fun _ h => h
  refine (reads_outerAttributes hg).bind fun attributes hattributes => ?_
  refine reads_visibility.bind fun vis _ => (reads_keywordIf _).bind fun default _ => ?_
  refine (reads_plainMember hg hattributes _).bind fun member hmember => .pure ?_
  split
  · exact nofun
  · exact fun m hm => hmember m hm

/-! ## Traits -/

theorem reads_traitRest {attributes : List Attribute}
    (hattributes : ∀ a ∈ attributes, Spelled a.tokens) {vis qualifiers : Tokens}
    (hvis : Spelled vis) (hqualifiers : Spelled qualifiers) {name : String}
    (hname : Spelled (word name)) {generics : Generics} (hgenerics : generics.IsSpelled) :
    (g.traitRest attributes vis qualifiers name generics).Reads Trait.IsSpelled := by
  refine (reads_signIf (by decide)).bind fun colon _ => ?_
  refine Reads.either (P := fun found : List Bound × Bool => ∀ b ∈ found.1, b.IsSpelled)
    (.pure (List.forall_mem_nil _)) (reads_boundsUntil hg _ _) fun bounds hbounds => ?_
  refine (reads_whereClause hg).bind fun whereTokens hwhere => ?_
  refine Reads.bind (P := fun found : List Attribute × List Member =>
    (∀ a ∈ found.1, Spelled a.tokens) ∧ ∀ m ∈ found.2, m.IsSpelled) (Takes.group ?_).reads
    fun found hfound => .pure ⟨List.forall_mem_append.2 ⟨hattributes, hfound.1⟩, hvis, hqualifiers,
      hname, ⟨hgenerics.entries, hwhere⟩, hbounds, hfound.2⟩
  refine (reads_innerAttributes hg).bind fun inner hinner => ?_
  exact (reads_traitMember hg).manyUntil.bind fun members hmembers => .pure ⟨hinner, hmembers⟩

theorem reads_traitItem {attributes : List Attribute}
    (hattributes : ∀ a ∈ attributes, Spelled a.tokens)
    {vis : Tokens} (hvis : Spelled vis) : (g.traitItem attributes vis).Reads Item.IsSpelled := by
  refine (reads_keywordIf _).bind fun unsafety hunsafety => ?_
  refine (reads_keywordIf _).bind fun auto hauto => ?_
  refine (reads_keyword _).bind fun traitWord htrait => takes_ident.reads.bind fun name hname => ?_
  refine (reads_generics hg).bind fun generics hgenerics => .choice ?aliased ?trait
  case aliased =>
    refine (reads_sign (by decide)).bind fun eq heq => ?_
    refine ((hg.bound false false).separatedUntil (by decide)).bind fun bounds hbounds => ?_
    refine (reads_whereClause hg).bind fun whereTokens hwhere => ?_
    refine (reads_sign (by decide)).bind fun semi hsemi => .pure ?_
    rw [Item.IsSpelled]
    have hnamed := (((spelled_outer hattributes).append hvis).append htrait).append hname
    have hhead := (hnamed.append hgenerics.tokens).append heq
    exact ((hhead.append (spelled_bounds hbounds _)).append hwhere).append hsemi
  case trait =>
    refine (reads_traitRest hg hattributes hvis (hunsafety.append hauto) hname hgenerics).bind ?_
    intro t ht
    exact .pure (by rwa [Item.IsSpelled])

/-! ## Structures, enumerations and unions -/

theorem reads_namedField : g.namedField.Reads Spelled := by
  refine (reads_outerTokens hg).bind fun attributes hattributes => ?_
  refine reads_visibility.bind fun vis hvis => (reads_sees _).bind fun unnamed _ => ?_
  refine .either takes_anyWord.reads takes_ident.reads fun name hname => ?_
  refine (reads_sign (by decide)).bind fun colon hcolon => ?_
  have hinline : (asWritten do let _ ← anyWord; g.namedFields).Reads Spelled :=
    .asWritten (takes_anyWord.reads.bind fun _ _ => hg.namedFields)
  refine .eitherOn hinline (reads_typeTokens hg) fun ty hty => .pure ?_
  exact (((hattributes.append hvis).append hname).append hcolon).append hty

theorem reads_unnamedField : g.unnamedField.Reads Spelled := by
  refine (reads_outerTokens hg).bind fun attributes hattributes => ?_
  refine reads_visibility.bind fun vis hvis => (hg.type true).bind fun ty hty => .pure ?_
  exact (hattributes.append hvis).append hty.tokens

/-- The rule for fields in braces; the next level of the grammar has it. -/
theorem reads_namedFieldsRule : g.namedFieldsRule.Reads Spelled := by
  have hfields : (listTokens "," (commas g.namedField)).Reads Spelled :=
    (reads_namedField hg).commas.listTokens (by decide)
  exact (Takes.group hfields).reads.bind fun _ h => .pure h.inGroup

theorem reads_unnamedFields : g.unnamedFields.Reads Spelled := by
  have hfields : (listTokens "," (commas g.unnamedField)).Reads Spelled :=
    (reads_unnamedField hg).commas.listTokens (by decide)
  exact (Takes.group hfields).reads.bind fun _ h => .pure h.inGroup

variable {vis : Tokens} (hvis : Spelled vis)

include hvis in
theorem reads_structItem : (g.structItem vis).Reads fun found => Spelled found.2 := by
  refine (reads_keyword _).bind fun structWord hstruct => ?_
  refine takes_ident.reads.bind fun name hname => ?_
  refine (reads_generics hg).bind fun generics hgenerics => (reads_sees _).bind fun _ _ => ?_
  refine (reads_whereClause hg).bind fun whereTokens hwhere => ?_
  have hhead := ((hvis.append hstruct).append hname).append hgenerics.tokens
  refine .choice ?unnamed (.choice ?named ?unit)
  case unnamed =>
    refine (reads_unnamedFields hg).bind fun fields hfields => ?_
    refine (reads_whereClause hg).bind fun whereTokens hwhere => ?_
    exact (reads_sign (by decide)).bind fun semi hsemi =>
      .pure (((hhead.append hfields).append hwhere).append hsemi)
  case named =>
    exact (reads_namedFieldsRule hg).bind fun fields hfields =>
      .pure ((hhead.append hwhere).append hfields)
  case unit =>
    exact (reads_sign (by decide)).bind fun semi hsemi => .pure ((hhead.append hwhere).append hsemi)

theorem reads_variant : g.variant.Reads Spelled := by
  refine (reads_outerTokens hg).bind fun attributes hattributes => ?_
  refine reads_visibility.bind fun _ _ => takes_ident.reads.bind fun name hname => ?_
  refine (reads_sees _).bind fun _ _ => ?_
  extract_lets behind
  have hbehind (fields : Tokens) (hfields : Spelled fields) : (behind fields).Reads Spelled :=
    (reads_valueIf (reads_expressionTokens hg)).bind fun value hvalue =>
      .pure (((hattributes.append hname).append hfields).append hvalue)
  refine (reads_sees _).bind fun _ _ => .ite ((reads_namedFieldsRule hg).bind hbehind) ?_
  exact .either (reads_unnamedFields hg) (.pure .nil) hbehind

include hvis in
theorem reads_enumItem : (g.enumItem vis).Reads fun found => Spelled found.2 := by
  refine (reads_keyword _).bind fun enumWord henum => takes_ident.reads.bind fun name hname => ?_
  refine (reads_generics hg).bind fun generics hgenerics => ?_
  refine (reads_whereClause hg).bind fun whereTokens hwhere => ?_
  have hvariants : (listTokens "," (commas g.variant)).Reads Spelled :=
    (reads_variant hg).commas.listTokens (by decide)
  refine (Takes.group hvariants).reads.bind fun body hbody => .pure ?_
  have hhead := ((hvis.append henum).append hname).append hgenerics.tokens
  exact (hhead.append hwhere).append hbody.inGroup

include hvis in
theorem reads_unionItem : (g.unionItem vis).Reads fun found => Spelled found.2 := by
  refine (reads_keyword _).bind fun unionWord hunion => takes_ident.reads.bind fun name hname => ?_
  refine (reads_generics hg).bind fun generics hgenerics => ?_
  refine (reads_whereClause hg).bind fun whereTokens hwhere => ?_
  refine (reads_namedFieldsRule hg).bind fun fields hfields => .pure ?_
  have hhead := ((hvis.append hunion).append hname).append hgenerics.tokens
  exact (hhead.append hwhere).append hfields

/-! ## What `use` brings in -/

/-- The rule for what `use` brings in; the next level of the grammar has it. -/
theorem reads_useTreeRule (fromRoot : Bool) :
    (g.useTreeRule fromRoot).Reads fun found => ∀ ts ∈ found, Spelled ts := by
  refine .choice ((reads_sign (by decide)).bind fun star hstar => .pure (forall_mem_some hstar)) ?_
  refine .choice ?group ?named
  case group =>
    refine Reads.bind (P := fun found : List (Option Tokens) × Bool =>
      ∀ tree ∈ found.1, ∀ ts ∈ tree, Spelled ts) (Takes.group (.commas ?_)).reads
      fun found hfound => .pure ?_
    · refine .either (reads_signIf (by decide)) (.pure .nil) fun root _ => ?_
      refine (hg.useTree _).bind fun tree htree => .pure ?_
      split
      · exact htree
      · exact nofun
    · have htrees : ∀ trees ∈ found.1.mapM id, ∀ ts ∈ trees, Spelled ts := by
        exact fun trees htrees ts hts => hfound _ (some_mem_of_mapM htrees ts hts) ts rfl
      exact Option.forall_mem_map.2 fun trees h =>
        (Spelled.commaSeparated (htrees trees h) _).inGroup
  case named =>
    refine .eitherOn takes_anyWord.reads takes_ident.reads fun name hname => .choice ?path ?last
    case path =>
      refine (reads_sign (by decide)).bind fun colons hcolons => ?_
      exact (hg.useTree false).bind fun tree htree =>
        .pure (Option.forall_mem_map.2 fun ts hts => (hname.append hcolons).append (htree ts hts))
    case last =>
      exact reads_rename.bind fun new hnew => .pure (forall_mem_some (hname.append hnew))

include hvis in
theorem reads_useItem : (g.useItem vis).Reads fun found => ∀ ts ∈ found, Spelled ts := by
  refine (reads_keyword _).bind fun useWord huse => ?_
  refine (reads_signIf (by decide)).bind fun root hroot => ?_
  refine (hg.useTree _).bind fun tree htree => (reads_sign (by decide)).bind fun semi hsemi => ?_
  refine .pure (Option.forall_mem_map.2 fun ts hts => ?_)
  exact (((hvis.append huse).append hroot).append (htree ts hts)).append hsemi

/-! ## Foreign code -/

include hvis in
theorem reads_foreignFunction :
    (g.foreignFunction vis).Reads fun found => ∀ ts ∈ found, Spelled ts := by
  refine (reads_sees _).bind fun safe _ => ?_
  extract_lets behind
  have hbehind : (behind ()).Reads fun found => ∀ ts ∈ found, Spelled ts := by
    refine (reads_signature hg).bind fun signature hsignature => .choice ?body ?none
    case body => exact (reads_functionBody hg).bind fun _ _ => .pure nofun
    case none =>
      refine (reads_sign (by decide)).bind fun semi hsemi => .pure ?_
      split
      · exact nofun
      · exact forall_mem_some ((hvis.append hsignature.tokens).append hsemi)
  refine .ite ((reads_keywordIf _).bind fun _ _ => (reads_keywordIf _).bind fun _ _ => ?_) hbehind
  exact (reads_keyword _).bind fun _ _ => hbehind

include hvis in
theorem reads_staticItem (foreign : Bool) :
    (g.staticItem vis foreign).Reads fun found => ∀ ts ∈ found, Spelled ts := by
  have hword : (word <$> anyWord).Reads Spelled := takes_anyWord.reads.map fun _ h => h
  refine .eitherOn hword (.pure .nil) fun qualifier _ => ?_
  refine (reads_keyword _).bind fun staticWord hstatic => ?_
  refine (reads_keywordIf _).bind fun mutable hmutable => ?_
  refine takes_ident.reads.bind fun name hname => ?_
  have hvalueIf := reads_valueIf (reads_expressionTokens hg)
  refine .choice ?untyped ?typed
  case untyped =>
    exact hvalueIf.bind fun _ _ => (reads_sign (by decide)).bind fun _ _ => .pure nofun
  case typed =>
    refine (reads_sign (by decide)).bind fun colon hcolon => (hg.type true).bind fun ty hty => ?_
    refine hvalueIf.bind fun value hvalue => (reads_sign (by decide)).bind fun semi hsemi => ?_
    refine .ite (.pure nofun) (.pure ?_)
    rintro _ ⟨⟩
    have hhead := (((hvis.append hstatic).append hmutable).append hname).append hcolon
    exact ((hhead.append hty.tokens).append hvalue).append hsemi

theorem reads_foreignMember : g.foreignMember.Reads Spelled := by
  refine .orAsWritten ?_ fun _ h => h
  refine (reads_outerTokens hg).bind fun attributes hattributes => ?_
  refine reads_visibility.bind fun vis hvis => ?_
  refine .choice ?function (.choice ?static (.choice ?type ?call))
  case function =>
    exact (reads_foreignFunction hg hvis).bind fun found hfound =>
      .pure (Option.forall_mem_map.2 fun ts hts => hattributes.append (hfound ts hts))
  case static =>
    exact (reads_staticItem hg hvis true).bind fun found hfound =>
      .pure (Option.forall_mem_map.2 fun ts hts => hattributes.append (hfound ts hts))
  case type =>
    refine (reads_typeDeclaration hg true true).bind fun t ht => .pure ?_
    split
    · exact nofun
    · exact forall_mem_some ((hattributes.append hvis).append ht)
  case call =>
    refine (reads_sees _).bind fun _ _ => .ensured ?_
    exact (reads_macroItem false).bind fun call hcall =>
      .pure (forall_mem_some (hattributes.append hcall))

/-- What stands in braces: attributes for the whole, and members. -/
theorem reads_members {p : Parser Tokens} (hp : p.Reads Spelled) :
    (do
      let inner ← g.innerAttributes
      return Attribute.innerTokens inner ++ (← manyUntil List.isEmpty p).flatten).Reads Spelled :=
  (reads_innerAttributes hg).bind fun _ hinner => hp.manyUntil.bind fun _ hmembers =>
    .pure ((spelled_inner hinner).append (.flatten hmembers))

theorem reads_foreignBlock : g.foreignBlock.Reads Spelled := by
  refine (reads_keywordIf _).bind fun unsafety hunsafety => ?_
  refine (reads_keyword _).bind fun externWord hextern => ?_
  refine .eitherOn reads_quotedLiteral (.pure .nil) fun abi habi => ?_
  refine (Takes.group (reads_members hg (reads_foreignMember hg))).reads.bind fun body hbody => ?_
  exact .pure (((hunsafety.append hextern).append habi).append hbody.inGroup)

/-! ## Implementations -/

theorem reads_implMember : g.implMember.Reads Spelled := by
  refine .orAsWritten ?_ fun _ h => h
  refine (reads_outerTokens hg).bind fun attributes hattributes => ?_
  refine reads_visibility.bind fun vis hvis => ?_
  refine .eitherOn (reads_keyword _) (.pure .nil) fun default hdefault => ?_
  have hhead := (hattributes.append hvis).append hdefault
  refine .choice ?function (.choice ?constant (.choice ?type ?call))
  case function =>
    refine (reads_signature hg).bind fun signature hsignature => ?_
    refine (reads_signIf (by decide)).bind fun _ _ => .ite (.pure nofun) ?_
    refine (reads_functionBody hg).bind fun found hfound => .pure (forall_mem_some ?_)
    exact (hhead.append hsignature.tokens).append hfound.inBraces
  case constant =>
    refine (reads_constantDeclaration hg).bind fun found hfound => .pure ?_
    split
    · exact forall_mem_some (hhead.append hfound)
    · exact nofun
  case type =>
    refine (reads_typeDeclaration hg false true).bind fun t ht => .pure ?_
    split
    · exact nofun
    · exact forall_mem_some (hhead.append ht)
  case call =>
    refine (reads_sees _).bind fun _ _ => .ensured ?_
    exact (reads_macroItem false).bind fun call hcall =>
      .pure (forall_mem_some (hhead.append hcall))

theorem reads_implItem (vis : Tokens) :
    (g.implItem vis).Reads fun found => ∀ ts ∈ found, Spelled ts := by
  refine (reads_keywordIf _).bind fun default hdefault => ?_
  refine (reads_keywordIf _).bind fun unsafety hunsafety => ?_
  refine (reads_keyword _).bind fun implWord himpl => ?_
  refine .eitherOn (reads_generics hg) (.pure ⟨List.forall_mem_nil _, .nil⟩)
    fun generics hgenerics => ?_
  refine .eitherOn (reads_sign (by decide)) (.pure .nil) fun _ _ => ?_
  refine (reads_keywordIf _).bind fun constWord _ => ?_
  refine .eitherOn (reads_sign (by decide)) (.pure .nil) fun polarity hpolarity => ?_
  refine (hg.type true).bind fun first hfirst => (reads_keywordIf _).bind fun forWord hfor => ?_
  refine .ensured (.either (.pure .nil) (reads_typeTokens hg) fun self hself => ?_)
  refine (reads_whereClause hg).bind fun whereTokens hwhere => ?_
  refine (Takes.group (reads_members hg (reads_implMember hg))).reads.bind fun body hbody => ?_
  refine .ite (.pure nofun) (.pure ?_)
  rintro _ ⟨⟩
  have hhead := ((hdefault.append hunsafety).append himpl).append hgenerics.tokens
  have htypes := (((hhead.append hpolarity).append hfirst.tokens).append hfor).append hself
  exact (htypes.append hwhere).append hbody.inGroup

/-! ## Modules, constants, functions and aliases -/

theorem reads_moduleItem {attributes : List Attribute}
    (hattributes : ∀ a ∈ attributes, Spelled a.tokens) {vis : Tokens} (hvis : Spelled vis) :
    (g.moduleItem attributes vis).Reads Item.IsSpelled := by
  refine (reads_keywordIf _).bind fun unsafety hunsafety => ?_
  refine (reads_keyword _).bind fun modWord hmod => ?_
  refine .eitherOn takes_anyWord.reads takes_ident.reads fun name hname => ?_
  have hhead := spelled_withOuter hattributes ((hvis.append hunsafety).append hmod)
  refine .choice ?declared ?inline
  case declared =>
    refine (reads_sign (by decide)).bind fun semi hsemi => .pure ?_
    rw [Item.IsSpelled]
    exact (hhead.append hname).append hsemi
  case inline =>
    refine Reads.bind (P := fun found : List Attribute × List Item =>
      (∀ a ∈ found.1, Spelled a.tokens) ∧ ∀ item ∈ found.2, item.IsSpelled) (Takes.group ?_).reads
      fun found hfound => .pure ?_
    · refine (reads_innerAttributes hg).bind fun inner hinner => ?_
      exact hg.item.manyUntil.bind fun items hitems => .pure ⟨hinner, hitems⟩
    · rw [Item.IsSpelled, Item.allSpelled_iff]
      exact ⟨hhead, hname, spelled_inner (List.forall_mem_append.2 ⟨hattributes, hfound.1⟩),
        hfound.2⟩

include hvis in
theorem reads_constItem : (g.constItem vis).Reads fun found => ∀ ts ∈ found, Spelled ts := by
  refine (reads_constantDeclaration hg).bind fun found hfound => .pure ?_
  split
  · exact forall_mem_some (hvis.append hfound)
  · exact nofun

include hvis in
theorem reads_functionItem : (g.functionItem vis).Reads fun found => ∀ e ∈ found, Spelled e.2 := by
  refine (reads_signature hg).bind fun signature hsignature => ?_
  refine (reads_signIf (by decide)).bind fun _ _ => .ite (.pure nofun) ?_
  refine (reads_functionBody hg).bind fun found hfound => .pure ?_
  exact forall_mem_some ((hvis.append hsignature.tokens).append hfound.inBraces)

include hvis in
theorem reads_aliasItem : (g.aliasItem vis).Reads fun found => ∀ e ∈ found, Spelled e.2 := by
  refine (reads_typeDeclaration hg true false).bind fun t ht => .pure ?_
  split
  · exact nofun
  · exact forall_mem_some (hvis.append ht)

/-! ## Items -/

theorem reads_itemRest {attributes : List Attribute}
    (hattributes : ∀ a ∈ attributes, Spelled a.tokens) :
    (g.itemRest attributes).Reads fun found => ∀ item ∈ found, item.IsSpelled := by
  refine reads_visibility.bind fun vis hvis => ?_
  extract_lets unnamed named
  have hunnamed {p : Parser (Option Tokens)} (hp : p.Reads fun found => ∀ ts ∈ found, Spelled ts) :
      (unnamed p).Reads fun found => ∀ item ∈ found, item.IsSpelled :=
    hp.bind fun found hfound => .pure <| Option.forall_mem_map.2 fun ts hts => by
      rw [Item.IsSpelled]
      exact spelled_withOuter hattributes (hfound ts hts)
  have hnamed {p : Parser (Option (String × Tokens))}
      (hp : p.Reads fun found => ∀ e ∈ found, Spelled e.2) :
      (named p).Reads fun found => ∀ item ∈ found, item.IsSpelled :=
    hp.bind fun found hfound => .pure <| Option.forall_mem_map.2 fun e he => by
      rw [Item.IsSpelled]
      exact spelled_withOuter hattributes (hfound e he)
  have hsome {p : Parser Tokens} (hp : p.Reads Spelled) :
      (some <$> p).Reads fun found => ∀ ts ∈ found, Spelled ts :=
    hp.map fun _ h => forall_mem_some h
  have hsomeNamed {p : Parser (String × Tokens)} (hp : p.Reads fun e => Spelled e.2) :
      (some <$> p).Reads fun found => ∀ e ∈ found, Spelled e.2 :=
    hp.map fun _ h => forall_mem_some h
  refine .choice (hnamed (reads_functionItem hg hvis)) <|
    .choice (hunnamed (hsome (reads_externCrate hvis))) <|
    .choice (.ensured (hunnamed (hsome (reads_foreignBlock hg)))) <|
    .choice (hunnamed (reads_useItem hg hvis)) <|
    .choice (hunnamed (reads_staticItem hg hvis false)) <|
    .choice (hunnamed (reads_constItem hg hvis)) <| .choice ?module <|
    .choice (hnamed (reads_aliasItem hg hvis)) <|
    .choice (hnamed (hsomeNamed (reads_structItem hg hvis))) <|
    .choice (hnamed (hsomeNamed (reads_enumItem hg hvis))) <|
    .choice (hnamed (hsomeNamed (reads_unionItem hg hvis))) <| .choice ?trait <|
    .choice ?implementation <| .choice (reads_macroDefinition.bind fun _ _ => .pure nofun) <|
    (reads_sees _).bind fun _ _ => .ensured (hunnamed (hsome (reads_macroItem true)))
  case module =>
    exact (reads_moduleItem hg hattributes hvis).bind fun item hitem =>
      .pure (forall_mem_some hitem)
  case trait =>
    exact (reads_traitItem hg hattributes hvis).bind fun item hitem => .pure (forall_mem_some hitem)
  case implementation =>
    refine (reads_implItem hg vis).bind fun found hfound => .pure ?_
    refine Option.forall_mem_map.2 fun ts hts => ?_
    rw [Item.IsSpelled]
    exact spelled_withOuter hattributes (hfound ts hts)

/-- The rule for items; the next level of the grammar has it. -/
theorem reads_itemRule : g.itemRule.Reads Item.IsSpelled := by
  refine .orAsWritten ((reads_outerAttributes hg).bind fun _ h => reads_itemRest hg h)
    fun ts hts => ?_
  rwa [Item.IsSpelled]

end Grammar

end GraphRepo.Source

import Mathlib
import GraphRepo.Proofs.Source.Literals
import GraphRepo.Proofs.Source.Reads.Types
import GraphRepo.Source.Grammar.Pattern

/-!
# Patterns of tokens that can be written

Patterns that are read of tokens that can be written keep only such tokens. The number of a field is
put in as it is printed, in decimal.
-/

namespace GraphRepo.Source

open GraphRepo.Source.Parser

theorem SpellsPath.tokens {found : Path ⊕ Tokens} (h : SpellsPath found) :
    Spelled (pathTokens found) := by
  cases found with
  | inl p => exact Path.IsSpelled.tokens h
  | inr tokens => exact h

theorem spelled_fieldNumber (n : Nat) : Spelled [fieldNumberToken n] := by
  have htext : (toString n).toList = Nat.toDigits 10 n := by
    rw [Nat.toString_eq_repr, Nat.toList_repr]
  refine .literal (standsAlone_literal ?_) .nil
  rw [htext]
  exact literalEnd_digits (fun c => Nat.isDigit_of_mem_toDigits (by decide) (by decide))
    Nat.toDigits_ne_nil

theorem since_literal {text : String} {rest : Tokens} (h : Spelled (.literal text :: rest)) :
    Since (.literal text :: rest) rest :=
  ⟨[_], rfl, .literal (spelled_literal_cons.1 h).1 .nil⟩

/-- What a member is named by can be written. -/
theorem reads_member : Grammar.member.Reads fun found => Spelled found.2 := by
  refine .choice (takes_ident.reads.bind fun name hname => .pure hname) ?_
  refine .ofTokens fun ts hts => ?_
  split
  · split
    · exact Reads.goOn (.pure (spelled_fieldNumber _)) (since_literal hts) hts
    · exact readsAt_failure
  · exact readsAt_failure

namespace Grammar

theorem reads_rangeSign : rangeSign.Reads Spelled := by
  refine .choice (reads_sign (by decide)) (.choice ?_ (reads_sign (by decide)))
  exact (reads_sign (by decide)).bind fun _ _ => .pure (spelled_op (by decide))

variable {g : Grammar} (hg : g.Reads)
include hg

theorem reads_alternatives : g.alternatives.Reads Pattern.IsSpelled := by
  refine (reads_signIf (by decide)).bind fun bar hbar => hg.pattern.bind fun first hfirst => ?_
  refine Reads.bind (P := fun found : Tokens × Bool => Spelled found.1) ?_ fun found hfound =>
    .pure ?_
  · refine .iterate (fun done hdone => .choice ?_ (.pure hdone)) (hbar.append hfirst.tokens)
    refine (reads_sign (by decide)).bind fun bar hbar => hg.pattern.bind fun p hp => .pure ?_
    exact (hdone.append hbar).append hp.tokens
  · split
    · exact hfound
    · exact hfirst

theorem reads_alternativesTokens : g.alternativesTokens.Reads Spelled :=
  (reads_alternatives hg).map fun _ h => h.tokens

theorem reads_patternList : g.patternList.Reads Spelled :=
  (reads_alternativesTokens hg).commas.listTokens (by decide)

theorem reads_sliceElement : g.sliceElement.Reads Spelled :=
  (reads_alternatives hg).bind fun _ h => .ensured (.pure h.tokens)

theorem reads_value : g.value.Reads Pattern.IsSpelled := by
  refine .choice (takes_literal.reads.bind fun _ h => .pure h) (.choice ?_ ?_)
  · exact (takes_qualifiedPath hg true).reads.bind fun found hfound => .pure hfound.tokens
  · refine (reads_keyword _).bind fun _ _ => (Takes.group ?_).reads
    refine (reads_innerAttributes hg).bind fun attributes hattributes => ?_
    exact hg.statements.bind fun statements hstatements =>
      .pure ⟨spelled_inner hattributes, hstatements⟩

theorem reads_rangeBound : g.rangeBound.Reads Spelled :=
  .choice (.pure .nil) ((reads_value hg).bind fun _ h => .pure h.tokens)

theorem reads_rangeFrom {start : Tokens} (hstart : Spelled start) :
    (g.rangeFrom start).Reads Pattern.IsSpelled := by
  refine reads_rangeSign.bind fun limits hlimits => ?_
  refine (reads_rangeBound hg).bind fun bound hbound => ?_
  have htokens := (hstart.append hlimits).append hbound
  refine .ensured (.pure ?_)
  split
  · exact htokens
  · exact htokens

theorem reads_fieldPattern : g.fieldPattern.Reads Spelled := by
  refine (reads_outerTokens hg).bind fun attributes hattributes => ?_
  refine (reads_keywordIf _).bind fun boxed hboxed => ?_
  refine (reads_keywordIf _).bind fun byRef hbyRef => ?_
  refine (reads_keywordIf _).bind fun mutable hmutable => reads_member.bind fun found hfound => ?_
  obtain ⟨named, name⟩ := found
  refine .ensured (.choice ?_ (.pure ?_))
  · refine (reads_sign (by decide)).bind fun colon hcolon => ?_
    refine (reads_alternativesTokens hg).bind fun pattern hpattern => .pure ?_
    exact ((hattributes.append hfound).append hcolon).append hpattern
  · exact (hattributes.append ((hboxed.append hbyRef).append hmutable)).append hfound

theorem reads_fieldPatterns : g.fieldPatterns.Reads Spelled := by
  refine .iterate (fun done hdone => .choice (.pure hdone) ?_) .nil
  have hfield : (do
      let field ← g.fieldPattern
      if ← atEnd then return (done ++ field, false)
      return (done ++ field ++ (← sign ","), true)).Reads fun r : Tokens × Bool => Spelled r.1 := by
    refine (reads_fieldPattern hg).bind fun field hfield => .choice (.pure (hdone.append hfield)) ?_
    exact (reads_sign (by decide)).bind fun comma hcomma =>
      .pure ((hdone.append hfield).append hcomma)
  intro ts r rest hts h
  -- Attributes in front of a field are read twice: the second time from where they start.
  obtain ⟨before, start, hget, h⟩ := bind_eq_some h
  cases hget
  obtain ⟨attributes, middle, hattributes, h⟩ := bind_eq_some h
  obtain ⟨hsince, hspelled⟩ := reads_outerTokens hg _ _ _ hts hattributes
  obtain ⟨onDots, now, hsees, h⟩ := bind_eq_some h
  cases hsees
  split at h
  · obtain ⟨dots, behind, hdots, h⟩ := bind_eq_some h
    cases h
    obtain ⟨hsince', hdots⟩ := reads_sign (by decide) _ _ _ (hsince.spelled hts) hdots
    exact ⟨hsince.trans hsince', (hdone.append hspelled).append hdots⟩
  · obtain ⟨done, again, hset, h⟩ := bind_eq_some h
    cases hset
    exact hfield _ _ _ hts h

theorem reads_pathPattern : g.pathPattern.Reads Pattern.IsSpelled := by
  refine (takes_qualifiedPath hg true).reads.bind fun p hp => ?_
  have htokens := hp.tokens
  refine .choice ?call <| .choice ?fields <| .choice ?tuple <|
    .choice (reads_rangeFrom hg htokens) (.pure htokens)
  case call =>
    refine (reads_sign (by decide)).bind fun bang hbang => ?_
    refine takes_anyGroup.reads.bind fun body hbody => .pure ?_
    exact (htokens.append hbang).append hbody.inGroup
  case fields =>
    refine (Takes.group (reads_fieldPatterns hg)).reads.bind fun fields hfields => .pure ?_
    exact htokens.append hfields.inGroup
  case tuple =>
    refine (Takes.group (reads_patternList hg)).reads.bind fun elems helems => .pure ?_
    exact htokens.append helems.inGroup

theorem reads_bindingPattern : g.bindingPattern.Reads Pattern.IsSpelled := by
  refine (reads_keywordIf _).bind fun byRef hbyRef => ?_
  refine (reads_keywordIf _).bind fun mutable hmutable => ?_
  refine .eitherOn takes_anyWord.reads takes_ident.reads fun name hname => ?_
  have hhead := (hbyRef.append hmutable).append hname
  refine (reads_signIf (by decide)).bind fun bind hbind => .ite (.pure ?_) ?_
  · split
    · exact hname
    · exact hhead
  · exact hg.pattern.bind fun p hp => .pure ((hhead.append hbind).append hp.tokens)

/-- The rule for patterns; the next level of the grammar has it. -/
theorem reads_patternRule : g.patternRule.Reads Pattern.IsSpelled := by
  refine .choice (reads_pathPattern hg) <| .choice ((reads_keyword _).bind fun _ h => .pure h) <|
    .choice ?boxed <| .choice ?value <| .choice (reads_bindingPattern hg) <| .choice ?reference <|
    .choice ?tuple <| .choice ?slice <| (reads_sees _).bind fun _ _ =>
    .ensured (reads_rangeFrom hg .nil)
  case boxed =>
    refine (Reads.asWritten ((reads_keyword _).bind fun _ _ => hg.pattern)).bind fun _ h => ?_
    exact .pure h
  case value =>
    refine (reads_value hg).bind fun start hstart => ?_
    exact .choice (reads_rangeFrom hg hstart.tokens) (.pure hstart)
  case reference =>
    refine (reads_sign (by decide)).bind fun and hand => ?_
    refine (reads_keywordIf _).bind fun mutable hmutable => hg.pattern.bind fun p hp => .pure ?_
    exact (hand.append hmutable).append hp.tokens
  case tuple =>
    exact (Takes.group (reads_patternList hg)).reads.bind fun _ h => .pure h.inGroup
  case slice =>
    have helems : (listTokens "," (commas g.sliceElement)).Reads Spelled :=
      (reads_sliceElement hg).commas.listTokens (by decide)
    exact (Takes.group helems).reads.bind fun _ h => .pure h.inGroup

end Grammar

end GraphRepo.Source

import Mathlib
import GraphRepo.Proofs.Source.Reads
import GraphRepo.Source.Grammar.Type

/-!
# Types of tokens that can be written

Attributes, paths, bounds, generic parameters and types that are read of tokens that can be written
keep only such tokens. The rules are those of a level of the grammar, over the level below.
-/

namespace GraphRepo.Source

open GraphRepo.Source.Parser

/-- All parts of the grammar read. -/
structure Grammar.Reads (g : Grammar) : Prop where
  type (allowPlus : Bool) : (g.type allowPlus).Reads Ty.IsSpelled
  bound (allowCapture allowConst : Bool) : (g.bound allowCapture allowConst).Reads Bound.IsSpelled
  expression (allowStruct : Bool) (base : Precedence) :
    (g.expression allowStruct base).Reads fun e => Spelled e.tokens
  rightSide (allowStruct : Bool) (p : Precedence) :
    (g.rightSide allowStruct p).Reads fun e => Spelled e.tokens
  statementExpression : g.statementExpression.Reads fun e => Spelled e.tokens
  pattern : g.pattern.Reads Pattern.IsSpelled
  statements : g.statements.Reads Spelled
  useTree (fromRoot : Bool) : (g.useTree fromRoot).Reads fun found => ∀ ts ∈ found, Spelled ts
  namedFields : g.namedFields.Reads Spelled
  item : g.item.Reads Item.IsSpelled

/-! ## Attributes -/

theorem spelled_joinNames : ∀ {names : List String}, (∀ name ∈ names, Spelled (word name)) →
    Spelled (joinNames names)
  | [], _ => .nil
  | [name], h => h name (List.mem_singleton_self name)
  | name :: next :: rest, h => by
    obtain ⟨hname, hrest⟩ := List.forall_mem_cons.1 h
    exact (hname.append (spelled_op (by decide))).append (spelled_joinNames hrest)

theorem reads_plainPath : plainPath.Reads fun p => Spelled p.tokens := by
  refine (reads_signIf (by decide)).bind fun colons hcolons => ?_
  refine Reads.bind (P := fun names : List String => ∀ name ∈ names, Spelled (word name)) ?_
    fun names hnames => .pure ?_
  · refine .iterate (fun found hfound => ?_) (List.forall_mem_nil _)
    refine (reads_sees _).bind fun _ _ => .ensured ?_
    refine takes_anyWord.reads.bind fun name hname => ?_
    have hmore : ∀ n ∈ name :: found, Spelled (word n) :=
      List.forall_mem_cons.2 ⟨hname, hfound⟩
    refine (reads_sees _).bind fun _ _ => .ite (.pure hmore) ?_
    exact (reads_sign (by decide)).bind fun _ _ => .pure hmore
  · have hall := spelled_joinNames fun name hname => hnames name (List.mem_reverse.1 hname)
    unfold AttributePath.tokens
    split
    · exact (spelled_op (by decide)).append hall
    · exact hall

theorem spelled_attribute {inner : Bool} {path : AttributePath} {payload : Payload}
    (hpath : Spelled path.tokens) (hpayload : Spelled payload.tokens) :
    Spelled (Attribute.tokens ⟨inner, path, payload⟩) := by
  have hbang : Spelled (if inner then op "!" else []) := by
    split
    · exact spelled_op (by decide)
    · exact .nil
  exact ((spelled_op (by decide)).append hbang).append (hpath.append hpayload).inGroup

namespace Grammar

variable {g : Grammar} (hg : g.Reads)
include hg

theorem reads_typeTokens : (Ty.tokens <$> g.type true).Reads Spelled :=
  (hg.type true).map fun _ h => h.tokens

theorem reads_anyExpression : g.anyExpression.Reads fun e => Spelled e.tokens :=
  hg.expression true .lowest

theorem reads_attributeBody (inner : Bool) :
    (g.attributeBody inner).Reads fun a => Spelled a.tokens := by
  refine (reads_takes "unsafe").bind fun _ _ => ?_
  refine .either (.pure ?marked) reads_plainPath fun path hpath => ?_
  case marked => exact spelled_syntaxWord (by simp [syntaxWords])
  refine .choice ?list (.choice ?value (.pure (spelled_attribute hpath .nil)))
  case list =>
    refine takes_anyGroup.reads.bind fun found hfound => .pure ?_
    exact spelled_attribute hpath hfound.inGroup
  case value =>
    refine (reads_sign (by decide)).bind fun _ _ => (reads_sees _).bind fun _ _ => .ensured ?_
    refine (reads_anyExpression hg).bind fun e he => .pure ?_
    exact spelled_attribute hpath ((spelled_op (by decide)).append he)

theorem reads_outerAttributes :
    g.outerAttributes.Reads fun attributes => ∀ a ∈ attributes, Spelled a.tokens :=
  .manyUntil ((reads_sign (by decide)).bind fun _ _ =>
    (Takes.group (reads_attributeBody hg false)).reads)

theorem reads_innerAttributes :
    g.innerAttributes.Reads fun attributes => ∀ a ∈ attributes, Spelled a.tokens :=
  .manyUntil ((reads_sign (by decide)).bind fun _ _ => (reads_sign (by decide)).bind fun _ _ =>
    (Takes.group (reads_attributeBody hg true)).reads)

theorem reads_outerTokens : g.outerTokens.Reads Spelled :=
  (reads_outerAttributes hg).bind fun _ h => .pure (spelled_outer h)

theorem takes_block : g.block.Takes Spelled :=
  .group ((reads_innerAttributes hg).bind fun _ hinner =>
    hg.statements.bind fun _ hstatements => .pure ((spelled_inner hinner).append hstatements))

theorem takes_bareBlock : g.bareBlock.Takes Spelled :=
  (Takes.group hg.statements).bind fun _ h => .pure h.inGroup

end Grammar

/-! ## Generic parameters and paths -/

theorem Path.IsSpelled.extend {p : Path} (hp : p.IsSpelled) {s : Segment} (hs : s.IsSpelled) :
    (p.extend s).IsSpelled := by
  obtain ⟨leading, qualifier, last⟩ := p
  rw [Path.IsSpelled] at hp
  rw [Path.extend, Path.IsSpelled, Segment.allSpelled_iff]
  refine ⟨fun t ht => ?_, hs⟩
  rcases List.mem_append.1 ht with ht | ht
  · exact Segment.allSpelled_iff.1 hp.1 t ht
  · exact List.mem_singleton.1 ht ▸ hp.2

theorem Segment.IsSpelled.name {s : Segment} (h : s.IsSpelled) : Spelled (word s.name) := by
  cases s with
  | plain name => rwa [Segment.IsSpelled] at h
  | angled name turbofish args trailing =>
    rw [Segment.IsSpelled] at h
    exact h.1
  | called name tokens =>
    rw [Segment.IsSpelled] at h
    exact h.1

/-- The tokens of a path, or those that stand for one, can be written. -/
def SpellsPath : Path ⊕ Tokens → Prop
  | .inl p => p.IsSpelled
  | .inr tokens => Spelled tokens

theorem spelled_outputTokens {output : Option Ty} (h : ∀ ty ∈ output, ty.IsSpelled) :
    Spelled (Grammar.outputTokens output) := by
  cases output with
  | none => exact .nil
  | some ty => exact (spelled_op (by decide)).append (h ty rfl).tokens

/-- What stands in the parentheses of a type can be written. -/
def SpellsParens : Grammar.InParens → Prop
  | .unit => True
  | .object tokens => Spelled tokens
  | .optional modifiers p => Spelled modifiers ∧ p.IsSpelled
  | .tuple elems _ => ∀ ty ∈ elems, ty.IsSpelled
  | .single ty => ty.IsSpelled

theorem takes_builtinForm : builtinForm.Takes fun _ => True :=
  (takes_keyword _).bind fun _ _ => (reads_sign (by decide)).bind fun _ _ =>
    takes_ident.reads.bind fun _ _ => (Takes.group reads_drop).reads

theorem spelled_bounds {bounds : List Bound} (h : ∀ b ∈ bounds, b.IsSpelled) (trailing : Bool) :
    Spelled (separated "+" trailing (bounds.map Bound.tokens)) :=
  .separated (spelled_op (by decide)) trailing
    (List.forall_mem_map.2 fun b hb => (h b hb).tokens)

theorem spelled_boundsTokens {found : List Bound × Bool} (h : ∀ b ∈ found.1, b.IsSpelled) :
    Spelled (Grammar.boundsTokens found) := by
  unfold Grammar.boundsTokens
  split
  · exact .nil
  · exact (spelled_op (by decide)).append (spelled_bounds h _)

namespace Grammar

theorem reads_lifetimeBounds (stop : Tokens → Bool) : (lifetimeBounds stop).Reads Spelled := by
  refine (takes_lifetime.reads.separatedWhile (by decide)).bind fun found hfound => .pure ?_
  exact .separated (spelled_op (by decide)) _ (List.forall_mem_map.2 hfound)

variable {g : Grammar} (hg : g.Reads)
include hg

theorem reads_constant : g.constant.Reads Spelled :=
  .choice takes_literal.reads <| .choice (takes_ident.reads.bind fun _ h => .pure h) <|
    (takes_block hg).reads.bind fun _ h => .pure h.inGroup

theorem reads_boundsUntil (stop : Tokens → Bool) (constants : Bool) :
    (g.boundsUntil stop constants).Reads fun found => ∀ b ∈ found.1, b.IsSpelled :=
  (hg.bound false constants).separatedUntil (by decide)

theorem reads_boundsWhile (stop : Tokens → Bool) :
    (g.boundsWhile stop).Reads fun found => ∀ b ∈ found.1, b.IsSpelled :=
  (hg.bound false true).separatedWhile (by decide)

theorem reads_parameter (allowUnnamed : Bool) :
    (g.parameter allowUnnamed).Reads fun entry => Spelled entry.2 := by
  refine (reads_outerTokens hg).bind fun attributes hattributes => ?_
  refine .choice ?lifetime (.choice ?type (.choice ?constant ?unnamed))
  case lifetime =>
    refine takes_lifetime.reads.bind fun name hname => ?_
    refine (reads_signIf (by decide)).bind fun colon hcolon => ?_
    refine .ite (.pure (hattributes.append hname)) ?_
    refine (reads_lifetimeBounds _).bind fun bounds hbounds => .pure ?_
    refine (hattributes.append hname).append ?_
    split
    · exact .nil
    · exact hcolon.append hbounds
  case type =>
    refine takes_ident.reads.bind fun name hname => ?_
    refine (reads_signIf (by decide)).bind fun colon hcolon => ?_
    have hlist (stop : Tokens → Bool) : (boundsTokens <$> g.boundsWhile stop).Reads Spelled :=
      (reads_boundsWhile hg stop).map fun _ h => spelled_boundsTokens h
    refine .either (.pure .nil) (hlist _) fun bounds hbounds => ?_
    refine (reads_signIf (by decide)).bind fun eq heq => ?_
    refine .either (.pure .nil) (reads_typeTokens hg) fun default hdefault => .pure ?_
    exact (((hattributes.append hname).append hbounds).append heq).append hdefault
  case constant =>
    refine (reads_keyword _).bind fun const hconst => ?_
    refine takes_ident.reads.bind fun name hname => ?_
    refine (reads_sign (by decide)).bind fun colon hcolon => ?_
    refine (hg.type true).bind fun ty hty => ?_
    refine (reads_signIf (by decide)).bind fun eq heq => ?_
    refine .either (.pure .nil) (reads_constant hg) fun default hdefault => .pure ?_
    have hhead := ((hattributes.append hconst).append hname).append hcolon
    exact ((hhead.append hty.tokens).append heq).append hdefault
  case unnamed =>
    refine .ensured ?_
    exact (reads_keyword _).bind fun name hname => .pure (hattributes.append hname)

theorem reads_parameters (allowUnnamed : Bool) :
    (g.parameters allowUnnamed).Reads fun found => ∀ entry ∈ found.1, Spelled entry.2 := by
  refine (reads_sign (by decide)).bind fun _ _ => ?_
  refine ((reads_parameter hg allowUnnamed).separatedUntil (by decide)).bind fun found hfound => ?_
  exact (reads_sign (by decide)).bind fun _ _ => .pure hfound

theorem reads_binder : g.binder.Reads Spelled := by
  refine .choice ?_ (.pure .nil)
  refine (reads_keyword _).bind fun forWord hfor => ?_
  refine (reads_parameters hg false).bind fun found hfound => .pure ?_
  have hentries : Spelled (commaSeparated found.2 (found.1.map (·.2))) :=
    .commaSeparated (List.forall_mem_map.2 hfound) _
  exact ((hfor.append (spelled_op (by decide))).append hentries).append (spelled_op (by decide))

/-! ## Paths -/

theorem reads_argument : g.argument.Reads Argument.IsSpelled := by
  refine .choice ?lifetime (.choice ?constant ?type)
  case lifetime =>
    refine takes_lifetime.reads.bind fun name hname => .pure ?_
    rwa [Argument.IsSpelled]
  case constant =>
    refine (reads_constant hg).bind fun tokens htokens => .pure ?_
    rwa [Argument.IsSpelled]
  case type =>
    refine (hg.type true).bind fun ty hty => ?_
    have htype : (Argument.type ty).IsSpelled := by rwa [Argument.IsSpelled]
    have htokens := hty.tokens
    split
    · exact .pure htype
    · refine .choice ?named (.choice ?bounded (.pure htype))
      case named =>
        refine (reads_sign (by decide)).bind fun eq heq => .choice ?_ ?_
        · refine (reads_constant hg).bind fun value hvalue => .pure ?_
          rw [Argument.IsSpelled]
          exact (htokens.append heq).append hvalue
        · refine (hg.type true).bind fun value hvalue => .pure ?_
          rw [Argument.IsSpelled]
          exact (htokens.append heq).append hvalue.tokens
      case bounded =>
        refine (reads_sign (by decide)).bind fun colon hcolon => ?_
        refine (reads_boundsWhile hg _).bind fun found hfound => .pure ?_
        rw [Argument.IsSpelled]
        exact (htokens.append hcolon).append (spelled_bounds hfound _)
    · exact .pure htype

theorem takes_segment (inExpression : Bool) : (g.segment inExpression).Takes Segment.IsSpelled := by
  refine .choice ?keyword ((reads_sees _).thenTakes fun _ _ => ?named)
  case keyword =>
    refine takes_anyWord.bind fun name hname => .pure ?_
    rwa [Segment.IsSpelled]
  case named =>
    refine .either takes_anyWord takes_ident fun name hname => ?_
    refine .choice ?angled (.pure (by rwa [Segment.IsSpelled]))
    refine (reads_signIf (by decide)).bind fun _ _ => ?_
    refine (reads_sign (by decide)).bind fun _ _ => ?_
    refine ((reads_argument hg).separatedUntil (by decide)).bind fun found hfound => ?_
    refine (reads_sign (by decide)).bind fun _ _ => .pure ?_
    rw [Segment.IsSpelled]
    exact ⟨hname, Argument.allSpelled_iff.2 hfound⟩

theorem takes_path (inExpression : Bool) : (g.path inExpression).Takes Path.IsSpelled := by
  refine (reads_signIf (by decide)).thenTakes fun colons _ => ?_
  refine (takes_segment hg inExpression).bind fun first hfirst => .iterate (fun p hp => ?_) ?_
  · refine .choice ?_ (.pure hp)
    refine (reads_sign (by decide)).bind fun _ _ => ?_
    exact (takes_segment hg inExpression).reads.bind fun s hs => .pure (hp.extend hs)
  · rw [Path.IsSpelled, Segment.AllSpelled]
    exact ⟨trivial, hfirst⟩

theorem takes_qualifiedPath (inExpression : Bool) :
    (g.qualifiedPath inExpression).Takes SpellsPath := by
  refine .choice ?_ ((takes_path hg inExpression).bind fun p hp => .pure hp)
  refine (takes_sign (by decide)).bind fun opening hopening => ?_
  refine (hg.type true).bind fun ty hty => ?_
  refine (reads_keywordIf _).bind fun asWord hasWord => ?_
  have hpath : (Path.tokens <$> g.path false).Reads Spelled :=
    (takes_path hg false).reads.map fun _ h => h.tokens
  refine .either (.pure .nil) hpath fun traitTokens htrait => ?_
  refine (reads_sign (by decide)).bind fun close hclose => ?_
  refine (reads_sign (by decide)).bind fun colons hcolons => ?_
  refine (takes_segment hg inExpression).reads.bind fun first hfirst => ?_
  refine Reads.bind (P := fun rest : Tokens × Unit => Spelled rest.1) ?_ fun rest hrest => .pure ?_
  · refine .iterate (fun done hdone => ?_) (hcolons.append hfirst.tokens)
    refine .choice ((reads_sign (by decide)).bind fun colons hcolons => ?_) (.pure hdone)
    refine (takes_segment hg inExpression).reads.bind fun s hs => .pure ?_
    exact (hdone.append hcolons).append hs.tokens
  · have hhead := ((hopening.append hty.tokens).append hasWord).append htrait
    exact (hhead.append hclose).append hrest

/-! ## Bounds -/

theorem reads_output (allowPlus : Bool) :
    (g.output allowPlus).Reads fun output => ∀ ty ∈ output, ty.IsSpelled := by
  refine .choice ((reads_sign (by decide)).bind fun _ _ => ?_) (.pure nofun)
  refine (hg.type allowPlus).bind fun ty hty => .pure ?_
  exact forall_mem_some hty

theorem reads_traitPath : g.traitPath.Reads Path.IsSpelled := by
  refine (takes_path hg false).reads.bind fun p hp => ?_
  obtain ⟨leading, qualifier, last⟩ := p
  refine .choice ?_ (.pure hp)
  refine (reads_signIf (by decide)).bind fun _ _ => ?_
  refine (Takes.group (hg.type true).commas).reads.bind fun inputs hinputs => ?_
  refine (reads_output hg false).bind fun result hresult => .pure ?_
  rw [Path.IsSpelled] at hp ⊢
  refine ⟨hp.1, ?_⟩
  have htypes : Spelled (commaSeparated inputs.2 (inputs.1.map Ty.tokens)) :=
    .commaSeparated (List.forall_mem_map.2 fun ty hty => (hinputs ty hty).tokens) _
  rw [Segment.IsSpelled]
  exact ⟨hp.2.name, htypes.inGroup.append (spelled_outputTokens hresult)⟩

theorem reads_traitReference (allowConst : Bool) : (g.traitReference allowConst).Reads fun found =>
    Spelled found.1 ∧ ∀ p ∈ found.2, p.IsSpelled := by
  refine (reads_binder hg).bind fun binder hbinder => ?_
  refine (reads_sees _).bind fun isConst _ => ?_
  extract_lets behind
  have hbehind : (behind ()).Reads fun found =>
      Spelled found.1 ∧ ∀ p ∈ found.2, p.IsSpelled := by
    refine (reads_signIf (by decide)).bind fun maybe hmaybe => (reads_sees _).bind fun _ _ => ?_
    refine .ensured ((reads_traitPath hg).bind fun p hp => .pure ⟨hbinder.append hmaybe, ?_⟩)
    split
    · exact nofun
    · exact forall_mem_some hp
  refine .ite (.ensured (.choice ?_ ?_)) hbehind
  · exact (Takes.group (reads_keyword _)).reads.bind fun _ _ => hbehind
  · exact (reads_keyword _).bind fun _ _ => hbehind

/-- A rule for bounds; the next level of the grammar has it. -/
theorem reads_boundRule (allowCapture allowConst : Bool) :
    (g.boundRule allowCapture allowConst).Reads Bound.IsSpelled := by
  refine .choice (takes_lifetime.reads.bind fun name hname => .pure hname) ?_
  refine .choice ?capture
    ((reads_sees _).bind fun parenthesized _ => .ofStart fun start _ => ?trait)
  case capture =>
    refine .ensured ((reads_keyword _).bind fun use huse => ?_)
    refine (reads_sign (by decide)).bind fun opening hopening => ?_
    refine Reads.bind (P := fun found : List (Bool × Tokens) × Bool => ∀ e ∈ found.1, Spelled e.2)
      ?_ fun found hfound => (reads_sign (by decide)).bind fun close hclose => .pure ?_
    · refine Reads.separatedUntil ?_ (by decide)
      refine .choice (takes_lifetime.reads.bind fun _ h => .pure h) ?_
      refine .choice ((reads_keyword _).bind fun _ h => .pure h) ?_
      exact takes_ident.reads.bind fun _ h => .pure h
    · exact ((huse.append hopening).append (spelled_entries hfound _)).append hclose
  case trait =>
    extract_lets behind
    have hbehind (found : Tokens × Option Path) (h : Spelled found.1 ∧ ∀ p ∈ found.2, p.IsSpelled) :
        (behind found).ReadsFrom start Bound.IsSpelled := by
      obtain ⟨modifiers, _ | p⟩ := found
      · exact .slice fun now hslice => Reads.behind (.pure hslice)
      · exact Reads.behind (.pure ⟨h.1, h.2 p rfl⟩)
    have hreference := reads_traitReference hg allowConst
    exact .ite (.bind (Takes.group hreference).reads hbehind) (.bind hreference hbehind)

theorem reads_objectBounds (allowPlus allowCapture allowConst : Bool) :
    (g.objectBounds allowPlus allowCapture allowConst).Reads Spelled := by
  refine Reads.bind (P := fun found : List Bound × Bool => ∀ b ∈ found.1, b.IsSpelled) ?_
    fun found hfound => .ensured (.pure (spelled_bounds (fun b hb => ?_) _))
  · refine .iterate (fun found hfound => ?_) (List.forall_mem_nil _)
    refine (hg.bound allowCapture allowConst).bind fun b hb => ?_
    have hmore : ∀ c ∈ b :: found.1, c.IsSpelled := List.forall_mem_cons.2 ⟨hb, hfound⟩
    refine (reads_sees _).bind fun _ _ => .ite (.pure hmore) ?_
    exact (reads_sign (by decide)).bind fun _ _ => (reads_sees _).bind fun _ _ => .pure hmore
  · exact hfound b (List.mem_reverse.1 hb)

/-! ## Clauses -/

theorem reads_condition : g.condition.Reads Spelled := by
  refine .choice ?lifetime ?type
  case lifetime =>
    refine takes_lifetime.reads.bind fun name hname => ?_
    refine (reads_sign (by decide)).bind fun colon hcolon => ?_
    exact (reads_lifetimeBounds _).bind fun bounds hbounds =>
      .pure ((hname.append hcolon).append hbounds)
  case type =>
    refine (reads_binder hg).bind fun binder hbinder => ?_
    refine (hg.type true).bind fun ty hty => ?_
    refine (reads_sign (by decide)).bind fun colon hcolon => ?_
    refine (reads_boundsWhile hg _).bind fun found hfound => .pure ?_
    exact ((hbinder.append hty.tokens).append hcolon).append (spelled_bounds hfound _)

theorem reads_whereClause : g.whereClause.Reads Spelled := by
  refine .choice ((reads_keyword _).bind fun whereWord hwhere => ?_) (.pure .nil)
  refine (reads_sees _).bind fun _ _ => .ensured ?_
  refine ((reads_condition hg).separatedWhile (by decide)).bind fun found hfound => .pure ?_
  split
  · exact .nil
  · exact hwhere.append (.commaSeparated hfound _)

theorem reads_generics : g.generics.Reads Generics.IsSpelled := by
  refine .choice ((reads_parameters hg true).bind fun found hfound => .pure ⟨hfound, .nil⟩) ?_
  exact .pure ⟨List.forall_mem_nil _, .nil⟩

/-! ## Types -/

theorem reads_inParens : g.inParens.Reads SpellsParens := by
  refine .choice (.pure trivial) (.choice ?object (.choice ?optional ?types))
  case object => exact (reads_objectBounds hg true false false).bind fun _ h => .pure h
  case optional =>
    refine (reads_traitReference hg false).bind fun found h => ?_
    obtain ⟨modifiers, _ | p⟩ := found
    · exact reads_failure
    · exact .pure ⟨h.1, h.2 p rfl⟩
  case types =>
    refine (hg.type true).bind fun first hfirst => .choice ?_ (.pure hfirst)
    refine (reads_sign (by decide)).bind fun _ _ => (hg.type true).commas.bind fun rest hrest => ?_
    exact .pure (List.forall_mem_cons.2 ⟨hfirst, hrest⟩)

theorem reads_furtherBounds {modifiers : Tokens} {p : Path} (hmodifiers : Spelled modifiers)
    (hp : p.IsSpelled) : (g.furtherBounds modifiers p).Reads Ty.IsSpelled := by
  have hfirst : (Ty.bare true modifiers p).IsSpelled := by
    rw [Ty.IsSpelled]
    exact ⟨hmodifiers, hp⟩
  refine (reads_sees _).bind fun _ _ => .ite (.pure hfirst) ?_
  refine Reads.bind (P := Spelled) ?_ fun tokens htokens => .pure (by rwa [Ty.IsSpelled])
  refine .iterate (fun done hdone => .choice ?_ (.pure hdone)) hfirst.tokens
  refine (reads_sign (by decide)).bind fun plus hplus => (hg.bound false false).bind fun b hb => ?_
  exact .pure ((hdone.append hplus).append hb.tokens)

omit hg in
theorem reads_linkage : linkage.Reads Spelled := by
  refine (reads_keywordIf _).bind fun linkageWord hword => .ite (.pure .nil) ?_
  refine .choice ?_ (.pure hword)
  exact reads_quotedLiteral.bind fun _ h => .pure (hword.append h)

theorem reads_functionInput (allowSelf : Bool) : (g.functionInput allowSelf).Reads Spelled := by
  refine (reads_outerTokens hg).bind fun attributes hattributes => .ofStart fun start _ => ?_
  refine .bind (reads_sees _) fun mutSelf _ => ?_
  extract_lets behind
  have hkept {now : Tokens} (h : Spelled (start.upTo now)) :
      (pure (attributes ++ start.upTo now) : Parser Tokens).ReadsFrom start Spelled :=
    Reads.behind (.pure (hattributes.append h))
  have hbehind : (behind ()).ReadsFrom start Spelled := by
    refine .choice ?named (.ite ?self ?type)
    case named =>
      refine .bind takes_anyWord.reads fun name hname => ?_
      refine .bind (reads_sign (by decide)) fun colon hcolon => ?_
      refine .bind (hg.type true) fun ty hty => ?_
      refine .ite (.slice fun now h => hkept h) (Reads.behind (.pure ?_))
      exact ((hattributes.append hname).append hcolon).append hty.tokens
    case self => exact .bind (reads_keyword _) fun _ _ => .slice fun now h => hkept h
    case type =>
      exact .bind (hg.type true) fun ty hty => Reads.behind (.pure (hattributes.append hty.tokens))
  exact .ite (.bind (reads_keyword _) fun _ _ => hbehind) hbehind

theorem reads_functionInputs : g.functionInputs.Reads Spelled := by
  refine Reads.bind (P := fun found : List Tokens × Bool × Tokens =>
    (∀ input ∈ found.1, Spelled input) ∧ Spelled found.2.2) ?_ fun found hfound => .pure ?_
  · refine .iterate (fun found hfound => ?_) ⟨List.forall_mem_nil _, .nil⟩
    refine .choice (.pure ⟨hfound.1, .nil⟩) ?_
    refine (reads_outerTokens hg).bind fun attributes hattributes => .choice ?variadic ?input
    case variadic =>
      refine (reads_sees _).bind fun _ _ => ?_
      extract_lets behind
      have hbehind (name : Tokens) (hname : Spelled name) : (behind name).Reads
          fun r => (∀ input ∈ r.1.1, Spelled input) ∧ Spelled r.1.2.2 := by
        refine (reads_sign (by decide)).bind fun dots hdots => ?_
        refine (reads_signIf (by decide)).bind fun comma hcomma => .pure ⟨hfound.1, ?_⟩
        exact ((hattributes.append hname).append hdots).append hcomma
      refine .ite ((Reads.pure .nil).bind hbehind) (takes_anyWord.reads.bind fun name hname => ?_)
      refine (reads_sign (by decide)).bind fun colon hcolon => ?_
      exact (Reads.pure (hname.append hcolon)).bind hbehind
    case input =>
      refine (reads_functionInput hg _).bind fun input hinput => ?_
      have hmore : ∀ i ∈ (attributes ++ input) :: found.1, Spelled i :=
        List.forall_mem_cons.2 ⟨hattributes.append hinput, hfound.1⟩
      refine .choice (.pure ⟨hmore, .nil⟩) ?_
      exact (reads_sign (by decide)).bind fun _ _ => .pure ⟨hmore, .nil⟩
  · exact (Spelled.commaSeparated (fun i hi => hfound.1 i (List.mem_reverse.1 hi)) _).append
      hfound.2

theorem reads_parenthesizedType (allowPlus : Bool) :
    (g.parenthesizedType allowPlus).Reads Ty.IsSpelled := by
  refine (Takes.group (reads_inParens hg)).reads.bind fun found hfound => ?_
  cases found with
  | unit => exact .pure (by rw [Ty.IsSpelled, Ty.AllSpelled]; trivial)
  | object tokens => exact .pure (by rwa [Ty.IsSpelled, Ty.IsSpelled])
  | optional modifiers p => exact reads_furtherBounds hg hfound.1 hfound.2
  | tuple elems trailing => exact .pure (by rwa [Ty.IsSpelled, Ty.allSpelled_iff])
  | single first =>
    have hparen : (Ty.paren first).IsSpelled := by rwa [Ty.IsSpelled]
    refine (reads_sees _).bind fun _ _ => ?_
    split
    · exact reads_furtherBounds hg .nil (by rwa [SpellsParens, Ty.IsSpelled] at hfound)
    · rw [SpellsParens, Ty.IsSpelled] at hfound
      exact reads_furtherBounds hg hfound.1 hfound.2
    · exact .pure hparen

theorem reads_functionType {binder : Tokens} (hbinder : Spelled binder) :
    (g.functionType binder).Reads Ty.IsSpelled := by
  refine (reads_keywordIf _).bind fun unsafety hunsafety => ?_
  refine reads_linkage.bind fun abi habi => (reads_keyword _).bind fun fn hfn => ?_
  refine (Takes.group (reads_functionInputs hg)).reads.bind fun inputs hinputs => ?_
  refine (reads_output hg false).bind fun result hresult => .pure ?_
  rw [Ty.IsSpelled]
  have hhead := ((hbinder.append hunsafety).append habi).append hfn
  exact (hhead.append hinputs.inGroup).append (spelled_outputTokens hresult)

theorem reads_pathType (allowPlus : Bool) {binder : Tokens} (hbinder : Spelled binder) :
    (g.pathType allowPlus binder).Reads Ty.IsSpelled := by
  refine (takes_qualifiedPath hg false).reads.bind fun found hfound => ?_
  cases found with
  | inr tokens => exact .pure (by rwa [Ty.IsSpelled])
  | inl p =>
    have hp : p.IsSpelled := hfound
    refine .choice ?call ((reads_sees _).bind fun _ _ => .ite (.pure ?path) ?bounds)
    case call =>
      refine (reads_sign (by decide)).bind fun bang hbang => ?_
      refine takes_anyGroup.reads.bind fun body hbody => .pure ?_
      rw [Ty.IsSpelled]
      exact (hp.tokens.append hbang).append hbody.inGroup
    case path =>
      split
      · rwa [Ty.IsSpelled]
      · rw [Ty.IsSpelled]
        exact ⟨hbinder, hp⟩
    case bounds =>
      refine Reads.bind (P := Spelled) ?_ fun tokens htokens => .pure (by rwa [Ty.IsSpelled])
      refine .iterate (fun done hdone => .choice ?_ (.pure hdone)) (hbinder.append hp.tokens)
      refine (reads_sign (by decide)).bind fun plus hplus => ?_
      refine .choice ((hg.bound false false).bind fun b hb => .pure ?_) (.pure (hdone.append hplus))
      exact (hdone.append hplus).append hb.tokens

theorem reads_dynType (allowPlus : Bool) : (g.dynType allowPlus).Reads Ty.IsSpelled := by
  refine .ofStart fun start _ => .bind (reads_keyword _) fun dyn hdyn => ?_
  refine .bind (reads_signIf (by decide)) fun star _ => ?_
  refine .bind (reads_objectBounds hg allowPlus false false) fun bounds hbounds => ?_
  refine .slice fun now hslice => Reads.behind (.pure ?_)
  rw [Ty.IsSpelled]
  split
  · exact hdyn.append hbounds
  · exact hslice

theorem reads_arrayType : g.arrayType.Reads Ty.IsSpelled := by
  refine Reads.bind (P := Spelled) (Takes.group ?_).reads fun body hbody => .pure ?_
  · refine (hg.type true).bind fun elem helem => ?_
    refine (reads_signIf (by decide)).bind fun semi hsemi => ?_
    refine .ite (.pure helem.tokens) ((reads_anyExpression hg).bind fun e he => .pure ?_)
    exact (helem.tokens.append hsemi).append he
  · rw [Ty.IsSpelled]
    exact hbody.inGroup

theorem reads_pointerType : g.pointerType.Reads Ty.IsSpelled := by
  refine (reads_sign (by decide)).bind fun star hstar => ?_
  refine .eitherOn (reads_keyword _) (reads_keyword _) fun access haccess => ?_
  refine (hg.type false).bind fun ty hty => .pure ?_
  rw [Ty.IsSpelled]
  exact (hstar.append haccess).append hty.tokens

theorem reads_referenceType : g.referenceType.Reads Ty.IsSpelled := by
  refine (reads_sign (by decide)).bind fun _ _ => reads_lifetimeIf.bind fun lifetime hlifetime => ?_
  refine (reads_takes _).bind fun exclusive _ => (hg.type false).bind fun ty hty => .pure ?_
  rw [Ty.IsSpelled]
  exact ⟨hlifetime, hty⟩

theorem reads_implType (allowPlus : Bool) : (g.implType allowPlus).Reads Ty.IsSpelled := by
  refine (reads_keyword _).bind fun impl himpl => ?_
  refine (reads_objectBounds hg allowPlus true true).bind fun bounds hbounds => .pure ?_
  rw [Ty.IsSpelled]
  exact himpl.append hbounds

/-- The rule for types; the next level of the grammar has it. -/
theorem reads_typeRule (allowPlus : Bool) : (g.typeRule allowPlus).Reads Ty.IsSpelled := by
  refine .ofStart fun start _ => .bind (reads_binder hg) fun binder hbinder => ?_
  extract_lets behind
  have hkept {p : Parser Tokens} (hp : p.Reads Spelled) :
      (do return Ty.other (← p)).Reads Ty.IsSpelled :=
    hp.bind fun tokens htokens => .pure (by rwa [Ty.IsSpelled])
  have hbehind : (behind ()).ReadsFrom start Ty.IsSpelled := by
    refine .choice (reads_parenthesizedType hg allowPlus).behind ?_
    refine .choice (reads_functionType hg hbinder).behind <| .choice ?builtin ?_
    case builtin =>
      refine .bind takes_builtinForm.reads fun _ _ => .slice fun now hslice => ?_
      exact Reads.behind (.pure (by rwa [Ty.IsSpelled]))
    refine .choice (reads_pathType hg allowPlus hbinder).behind <|
      .choice (reads_dynType hg allowPlus).behind <| .choice (reads_arrayType hg).behind <|
      .choice (reads_pointerType hg).behind <| .choice (reads_referenceType hg).behind <|
      .choice (hkept (reads_sign (by decide))).behind <|
      .choice (reads_implType hg allowPlus).behind <|
      .choice (hkept (reads_keyword _)).behind <| .bind (reads_sees _) fun _ _ => Reads.behind ?_
    exact .ensured (hkept (reads_objectBounds hg true false false))
  refine .ite ?_ hbehind
  exact .bind (reads_sees _) fun _ _ => .bind (reads_ensure _) fun _ _ => hbehind

end Grammar

end GraphRepo.Source

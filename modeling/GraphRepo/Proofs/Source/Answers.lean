import Mathlib
import GraphRepo.Source.Reading

/-!
# What parsers answer

A property of all answers of a parser is put together from properties of its parts, one rule for each
way to build a parser. So it is known of every trait that can be read that its constants are written
with `const`.
-/

namespace GraphRepo.Source

namespace Parser

variable {α β σ : Type}

/-- Whatever the parser answers has the property. -/
def Yields (p : Parser α) (P : α → Prop) : Prop :=
  ∀ (ts : Tokens) (a : α) (rest : Tokens), p ts = some (a, rest) → P a

theorem Yields.pure {P : α → Prop} {a : α} (h : P a) : (pure a : Parser α).Yields P := by
  intro ts b rest hb
  cases hb
  exact h

theorem Yields.bind {p : Parser α} {f : α → Parser β} {P : α → Prop} {Q : β → Prop}
    (hp : p.Yields P) (hf : ∀ a, P a → (f a).Yields Q) : (p >>= f).Yields Q := by
  intro ts b rest hb
  obtain ⟨⟨a, middle⟩, ha, hfa⟩ := Option.bind_eq_some_iff.1 hb
  exact hf a (hp ts a middle ha) middle b rest hfa

theorem Yields.andThen {p : Parser α} {f : α → Parser β} {Q : β → Prop}
    (hf : ∀ a, (f a).Yields Q) : (p >>= f).Yields Q :=
  Yields.bind (P := fun _ => True) (fun _ _ _ _ => trivial) fun a _ => hf a

theorem Yields.ite {c : Prop} [Decidable c] {p q : Parser α} {P : α → Prop}
    (hp : p.Yields P) (hq : q.Yields P) : (if c then p else q).Yields P := by
  split
  · exact hp
  · exact hq

theorem Yields.choice {test : Tokens → Bool} {p q : Parser α} {P : α → Prop} (hp : p.Yields P)
    (hq : q.Yields P) : (do if ← sees test then p else q).Yields P :=
  Yields.andThen fun _ => Yields.ite hp hq

theorem Yields.group {d : Delimiter} {p : Parser α} {P : α → Prop} (hp : p.Yields P) :
    (group d p).Yields P := by
  intro ts a rest h
  unfold Parser.group at h
  split at h
  · split at h
    · obtain ⟨⟨b, left⟩, hb, heq⟩ := Option.map_eq_some_iff.1 h
      cases heq
      have hwhole : (whole p).Yields P :=
        Yields.bind hp fun c hc => Yields.andThen fun _ => Yields.andThen fun _ => Yields.pure hc
      exact hwhole _ _ _ hb
    · cases h
  · cases h

theorem Yields.orAsWritten {kept : Tokens → α} {p : Parser (Option α)} {P : α → Prop}
    (hp : p.Yields fun o => ∀ a, o = some a → P a) (hkept : ∀ ts, P (kept ts)) :
    (orAsWritten kept p).Yields P := by
  intro ts a rest h
  obtain ⟨⟨o, left⟩, ho, heq⟩ := Option.map_eq_some_iff.1 h
  cases o with
  | none =>
    cases heq
    exact hkept _
  | some b =>
    cases heq
    exact hp ts _ _ ho _ rfl

/-- What a step keeps, a loop keeps. -/
theorem Yields.iterate {step : σ → Parser (σ × Bool)} {Inv : σ → Prop}
    (hstep : ∀ s, Inv s → (step s).Yields fun r => Inv r.1) {s : σ} (hs : Inv s) :
    (iterate step s).Yields Inv := by
  have hwithin : ∀ (rounds : Nat) {s : σ}, Inv s → (iterateWithin step rounds s).Yields Inv := by
    intro rounds
    induction rounds with
    | zero =>
      intro s _ ts a rest h
      cases h
    | succ rounds ih =>
      intro s hs
      refine Yields.bind (hstep s hs) fun r hr => ?_
      exact Yields.ite (ih hr) (Yields.pure hr)
  unfold Parser.iterate
  exact Yields.andThen fun ts => hwithin _ hs

theorem Yields.manyUntil {stop : Tokens → Bool} {p : Parser α} {P : α → Prop} (hp : p.Yields P) :
    (manyUntil stop p).Yields fun as => ∀ a ∈ as, P a := by
  unfold Parser.manyUntil
  have hloop := @Yields.iterate _ (fun found : List α => do
    if ← sees stop then return (found, false)
    return ((← p) :: found, true)) (fun found => ∀ a ∈ found, P a) (fun found hfound =>
      Yields.andThen fun stops => Yields.ite (Yields.pure hfound)
        (Yields.bind hp fun a ha => Yields.pure (List.forall_mem_cons.2 ⟨ha, hfound⟩)))
    [] (List.forall_mem_nil P)
  exact Yields.bind hloop fun found hfound => Yields.pure fun a ha => hfound a (List.mem_reverse.1 ha)

theorem yields_keyword (name : String) : (keyword name).Yields (· = word name) := by
  intro ts a rest h
  unfold keyword at h
  split at h
  · cases h
    rfl
  · cases h

end Parser

open GraphRepo.Source.Parser

/-! ## Constants of traits -/

/-- A constant has the word `const` among its tokens. -/
def Member.SaysConst (m : Member) : Prop :=
  ∀ hasDefault tokens, m = .constant hasDefault tokens → .ident "const" ∈ tokens

def Item.SaysConst : Item → Prop
  | .trait t => ∀ m ∈ t.members, m.SaysConst
  | _ => True

namespace Grammar

variable (g : Grammar)

theorem yields_constantDeclaration :
    g.constantDeclaration.Yields fun declared => .ident "const" ∈ declared.2.2 := by
  refine Yields.bind (yields_keyword "const") fun constWord hword => ?_
  subst hword
  refine Yields.andThen fun isUnnamed => Yields.ite ?_ ?_
  -- What follows the word does not matter, nor how the name is read.
  all_goals
    repeat refine Yields.andThen fun _ => ?_
    exact Yields.pure (by simp [word])

theorem yields_plainMember (attributes : List Attribute) (qualified : Bool) :
    (g.plainMember attributes qualified).Yields fun m => ∀ a, m = some a → a.SaysConst := by
  unfold plainMember
  refine Yields.andThen fun isMethod => Yields.ite ?method (Yields.andThen fun isConst =>
    Yields.ite ?const (Yields.andThen fun isType => Yields.ite ?type ?other))
  case const =>
    refine Yields.bind g.yields_constantDeclaration fun declared hconst => ?_
    obtain ⟨isGeneric, hasDefault, tokens⟩ := declared
    refine Yields.pure fun a ha hasDefault' tokens' hmember => ?_
    split at ha
    · cases ha
    · cases ha
      cases hmember
      exact List.mem_append_right _ hconst
  case method =>
    refine Yields.andThen fun m => Yields.pure fun a ha hasDefault tokens hmember => ?_
    cases ha
    cases hmember
  case type =>
    refine Yields.andThen fun t => Yields.pure fun a ha hasDefault tokens hmember => ?_
    cases ha
    cases hmember
  case other =>
    repeat refine Yields.andThen fun _ => ?_
    refine Yields.pure fun a ha hasDefault tokens hmember => ?_
    cases ha
    cases hmember

theorem yields_traitMember : g.traitMember.Yields Member.SaysConst := by
  refine Yields.orAsWritten ?_ fun ts hasDefault tokens h => by cases h
  refine Yields.andThen fun attributes => Yields.andThen fun vis => Yields.andThen fun default => ?_
  refine Yields.bind (g.yields_plainMember attributes _) fun m hm => Yields.pure fun a ha => ?_
  split at ha
  · cases ha
  · exact hm a ha

theorem yields_traitRest (attributes : List Attribute) (vis qualifiers : Tokens) (name : String)
    (generics : Generics) : (g.traitRest attributes vis qualifiers name generics).Yields fun t =>
      ∀ m ∈ t.members, m.SaysConst := by
  have hbody : (group .brace do
      let inner ← g.innerAttributes
      return (inner, ← manyUntil List.isEmpty g.traitMember)).Yields fun body =>
        ∀ m ∈ body.2, m.SaysConst :=
    Yields.group (Yields.andThen fun inner =>
      Yields.bind (Yields.manyUntil g.yields_traitMember) fun members hmembers =>
        Yields.pure hmembers)
  unfold traitRest
  refine Yields.andThen fun colon => Yields.ite ?_ ?_
  · refine Yields.andThen fun bounds => Yields.andThen fun whereTokens => ?_
    exact Yields.bind hbody fun body hmembers => Yields.pure hmembers
  · refine Yields.andThen fun bounds => Yields.andThen fun whereTokens => ?_
    exact Yields.bind hbody fun body hmembers => Yields.pure hmembers

theorem yields_traitItem (attributes : List Attribute) (vis : Tokens) :
    (g.traitItem attributes vis).Yields Item.SaysConst := by
  unfold traitItem
  refine Yields.andThen fun unsafety => Yields.andThen fun auto => Yields.andThen fun traitWord =>
    Yields.andThen fun name => Yields.andThen fun generics => Yields.andThen fun isAlias =>
    Yields.ite ?_ ?_
  · repeat refine Yields.andThen fun _ => ?_
    exact Yields.pure trivial
  · exact Yields.bind (g.yields_traitRest attributes vis _ name generics) fun t ht => Yields.pure ht

theorem yields_itemRest (attributes : List Attribute) :
    (g.itemRest attributes).Yields fun item => ∀ a, item = some a → Item.SaysConst a := by
  unfold itemRest
  refine Yields.andThen fun vis => ?_
  extract_lets unnamed named
  have hunnamed (p : Parser (Option Tokens)) :
      (unnamed p).Yields fun item => ∀ a, item = some a → Item.SaysConst a := by
    refine Yields.andThen fun tokens => Yields.pure fun a ha => ?_
    obtain ⟨-, -, rfl⟩ := Option.map_eq_some_iff.1 ha
    trivial
  have hnamed (p : Parser (Option (String × Tokens))) :
      (named p).Yields fun item => ∀ a, item = some a → Item.SaysConst a := by
    refine Yields.andThen fun found => Yields.pure fun a ha => ?_
    obtain ⟨-, -, rfl⟩ := Option.map_eq_some_iff.1 ha
    trivial
  have hmodule : (g.moduleItem attributes vis).Yields Item.SaysConst := by
    unfold moduleItem
    refine .andThen fun _ => .andThen fun _ => .choice ?_ ?_
    all_goals
      refine .andThen fun name => ?_
      exact .choice (.andThen fun _ => .pure trivial) (.andThen fun body => .pure trivial)
  have hsome {p : Parser Item} (hp : p.Yields Item.SaysConst) :
      (do return some (← p)).Yields fun item => ∀ a, item = some a → Item.SaysConst a :=
    Yields.bind hp fun item hitem => Yields.pure fun a ha => Option.some.inj ha ▸ hitem
  refine .choice (hnamed _) <| .choice (hunnamed _) <| .choice (.andThen fun _ => hunnamed _) <|
    .choice (hunnamed _) <| .choice (hunnamed _) <| .choice (hunnamed _) <|
    .choice (hsome hmodule) <| .choice (hnamed _) <| .choice (hnamed _) <| .choice (hnamed _) <|
    .choice (hnamed _) <| .choice (hsome (g.yields_traitItem attributes vis)) <|
    .choice ?_ <| .choice ?_ <| .andThen fun _ => .andThen fun _ => hunnamed _
  · refine Yields.andThen fun tokens => Yields.pure fun a ha => ?_
    obtain ⟨-, -, rfl⟩ := Option.map_eq_some_iff.1 ha
    trivial
  · exact Yields.andThen fun _ => Yields.pure fun a ha => by cases ha

theorem yields_itemRule : g.itemRule.Yields Item.SaysConst := by
  refine Yields.orAsWritten ?_ fun ts => trivial
  exact Yields.andThen fun attributes => g.yields_itemRest attributes

end Grammar

theorem saysConst_of_itemOfTokens {ts : Tokens} {t : Trait} (h : itemOfTokens? ts = some (.trait t)) :
    ∀ m ∈ t.members, m.SaysConst := by
  have hwhole : (whole (Grammar.forTokens ts).item).Yields Item.SaysConst :=
    Yields.bind (Grammar.yields_itemRule _) fun item hitem =>
      Yields.andThen fun _ => Yields.andThen fun _ => Yields.pure hitem
  obtain ⟨⟨item, rest⟩, hread, hitem⟩ := Option.map_eq_some_iff.1 h
  cases hitem
  exact hwhole ts _ rest hread

end GraphRepo.Source

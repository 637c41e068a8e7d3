import Mathlib
import GraphRepo.Proofs.Source.SpelledSyntax
import GraphRepo.Source.Parser

/-!
# Reading tokens that can be written

Of tokens that can be written a parser takes some from the front that can be written by themselves.
So what it keeps as it was written can be written as well. That holds of every parser that is put
together from those that take single tokens, but for a slash that is joint to what follows: it has
to be taken together with that.
-/

namespace GraphRepo.Source

/-- The tokens from `ts` on up to `rest` can be written. -/
def Since (ts rest : Tokens) : Prop := ∃ taken, ts = taken ++ rest ∧ Spelled taken

theorem Since.refl (ts : Tokens) : Since ts ts := ⟨[], rfl, .nil⟩

theorem Since.trans {as bs cs : Tokens} (h : Since as bs) (hbs : Since bs cs) : Since as cs := by
  obtain ⟨first, rfl, hfirst⟩ := h
  obtain ⟨second, rfl, hsecond⟩ := hbs
  exact ⟨first ++ second, (List.append_assoc ..).symm, hfirst.append hsecond⟩

theorem Since.length_le {ts rest : Tokens} (h : Since ts rest) : rest.length ≤ ts.length := by
  obtain ⟨taken, rfl, -⟩ := h
  rw [List.length_append]
  exact Nat.le_add_left _ _

theorem Since.spelled {ts rest : Tokens} (h : Since ts rest) (hts : Spelled ts) : Spelled rest := by
  obtain ⟨taken, rfl, htaken⟩ := h
  exact (spelled_append_iff htaken).1 hts

theorem Since.upTo {ts rest : Tokens} (h : Since ts rest) : Spelled (ts.upTo rest) := by
  obtain ⟨taken, rfl, htaken⟩ := h
  rw [Tokens.upTo, List.length_append, Nat.add_sub_cancel, List.take_left]
  exact htaken

/-- The front of tokens can be written if its end can. -/
theorem Spelled.front {bs rest : Tokens} (hbs : Spelled bs) (hne : bs ≠ []) :
    ∀ {as : Tokens}, Spelled (as ++ bs ++ rest) → Spelled (as ++ bs)
  | [], _ => hbs
  | t :: as, h => by
    have hrest : Spelled (as ++ bs) := Spelled.front hbs hne h.tail
    have hsome : as ++ bs ≠ [] := List.append_ne_nil_of_right_ne_nil as hne
    obtain ⟨u, us, heq⟩ := List.exists_cons_of_ne_nil hsome
    rw [List.cons_append, List.cons_append, heq] at h
    rw [List.cons_append, heq]
    rw [heq] at hrest
    cases h with
    | word hname _ => exact .word hname hrest
    | literal htext _ => exact .literal htext hrest
    | group hbody _ => exact .group hbody hrest
    | alone hc _ => exact .alone hc hrest
    | joint hc hslash _ => exact .joint hc hslash hrest
    | quote hgap hu _ => exact .quote hgap hu hrest

theorem forall_mem_some {α : Type} {P : α → Prop} {a : α} (h : P a) : ∀ b ∈ some a, P b := by
  rintro _ ⟨⟩
  exact h

namespace Parser

variable {α β σ : Type}

/-- Of tokens that can be written the parser takes some that can be written, and what it answers has
the property. -/
def Reads (p : Parser α) (P : α → Prop) : Prop :=
  ∀ (ts : Tokens) (a : α) (rest : Tokens), Spelled ts → p ts = some (a, rest) → Since ts rest ∧ P a

/-- The parser reads and takes at least one token. -/
structure Takes (p : Parser α) (P : α → Prop) : Prop where
  reads : p.Reads P
  shorter : ∀ (ts : Tokens) (a : α) (rest : Tokens), Spelled ts → p ts = some (a, rest) →
    rest.length < ts.length

section Rules

variable {p : Parser α} {f : α → Parser β} {P : α → Prop} {Q : β → Prop}

theorem Reads.pure {a : α} (h : P a) : (Pure.pure a : Parser α).Reads P := by
  intro ts b rest _ hb
  cases hb
  exact ⟨.refl _, h⟩

theorem bind_eq_some {ts rest : Tokens} {b : β} (h : (p >>= f) ts = some (b, rest)) :
    ∃ a middle, p ts = some (a, middle) ∧ f a middle = some (b, rest) := by
  obtain ⟨⟨a, middle⟩, ha, hb⟩ := Option.bind_eq_some_iff.1 h
  exact ⟨a, middle, ha, hb⟩

theorem Reads.bind (hp : p.Reads P) (hf : ∀ a, P a → (f a).Reads Q) : (p >>= f).Reads Q := by
  intro ts b rest hts hb
  obtain ⟨a, middle, ha, hfa⟩ := bind_eq_some hb
  obtain ⟨hfirst, hP⟩ := hp _ _ _ hts ha
  obtain ⟨hsecond, hQ⟩ := hf a hP _ _ _ (hfirst.spelled hts) hfa
  exact ⟨hfirst.trans hsecond, hQ⟩

theorem Takes.bind (hp : p.Takes P) (hf : ∀ a, P a → (f a).Reads Q) : (p >>= f).Takes Q where
  reads := hp.reads.bind hf
  shorter := by
    intro ts b rest hts hb
    obtain ⟨a, middle, ha, hfa⟩ := bind_eq_some hb
    obtain ⟨hfirst, hP⟩ := hp.reads _ _ _ hts ha
    obtain ⟨hsecond, -⟩ := hf a hP _ _ _ (hfirst.spelled hts) hfa
    exact Nat.lt_of_le_of_lt hsecond.length_le (hp.shorter _ _ _ hts ha)

theorem Reads.thenTakes (hp : p.Reads P) (hf : ∀ a, P a → (f a).Takes Q) : (p >>= f).Takes Q where
  reads := hp.bind fun a ha => (hf a ha).reads
  shorter := by
    intro ts b rest hts hb
    obtain ⟨a, middle, ha, hfa⟩ := bind_eq_some hb
    obtain ⟨hfirst, hP⟩ := hp _ _ _ hts ha
    exact Nat.lt_of_lt_of_le ((hf a hP).shorter _ _ _ (hfirst.spelled hts) hfa) hfirst.length_le

theorem Reads.map {f : α → β} (hp : p.Reads P) (hf : ∀ a, P a → Q (f a)) : (f <$> p).Reads Q := by
  rw [map_eq_pure_bind]
  exact hp.bind fun a ha => .pure (hf a ha)

theorem Reads.ite {c : Prop} [Decidable c] {p q : Parser α} (hp : p.Reads P) (hq : q.Reads P) :
    (if c then p else q).Reads P := by
  split
  · exact hp
  · exact hq

theorem Takes.ite {c : Prop} [Decidable c] {p q : Parser α} (hp : p.Takes P) (hq : q.Takes P) :
    (if c then p else q).Takes P := by
  split
  · exact hp
  · exact hq

/-- What is read behind either of two alternatives. -/
theorem Reads.either {c : Prop} [Decidable c] {p q : Parser α} (hp : p.Reads P) (hq : q.Reads P)
    (hf : ∀ a, P a → (f a).Reads Q) : (if c then p >>= f else q >>= f).Reads Q :=
  .ite (hp.bind hf) (hq.bind hf)

theorem Takes.either {c : Prop} [Decidable c] {p q : Parser α} (hp : p.Takes P) (hq : q.Takes P)
    (hf : ∀ a, P a → (f a).Reads Q) : (if c then p >>= f else q >>= f).Takes Q :=
  .ite (hp.bind hf) (hq.bind hf)

theorem reads_failure : (failure : Parser α).Reads P := by
  intro ts a rest _ h
  cases h

theorem takes_failure : (failure : Parser α).Takes P :=
  ⟨reads_failure, fun _ _ _ _ h => by cases h⟩

theorem reads_get : (get : Parser Tokens).Reads Spelled := by
  intro ts a rest hts h
  cases h
  exact ⟨.refl _, hts⟩

theorem reads_sees (test : Tokens → Bool) : (sees test).Reads fun _ => True :=
  reads_get.bind fun _ _ => .pure trivial

theorem reads_ensure (condition : Bool) : (ensure condition).Reads fun _ => True := by
  unfold ensure
  exact .ite (.pure trivial) reads_failure

theorem Reads.choice {test : Tokens → Bool} {p q : Parser α} (hp : p.Reads P) (hq : q.Reads P) :
    (do if ← sees test then p else q).Reads P :=
  (reads_sees test).bind fun _ _ => .ite hp hq

theorem Takes.choice {test : Tokens → Bool} {p q : Parser α} (hp : p.Takes P) (hq : q.Takes P) :
    (do if ← sees test then p else q).Takes P :=
  (reads_sees test).thenTakes fun _ _ => .ite hp hq

theorem choice_bind {test : Tokens → Bool} {p q : Parser α} {f : α → Parser β} :
    ((do if ← sees test then p else q) >>= f) =
      (do if ← sees test then p >>= f else q >>= f) := by
  rw [bind_assoc]
  refine congrArg _ (funext fun answer => ?_)
  cases answer <;> rfl

/-- What is read behind either of two alternatives, as a test decides. -/
theorem Reads.eitherOn {test : Tokens → Bool} {p q : Parser α} (hp : p.Reads P) (hq : q.Reads P)
    (hf : ∀ a, P a → (f a).Reads Q) :
    (sees test >>= fun answer => if answer then p >>= f else q >>= f).Reads Q :=
  (reads_sees test).bind fun _ _ => .either hp hq hf

theorem Takes.choiceThen {test : Tokens → Bool} {p q : Parser α} (hp : (p >>= f).Takes Q)
    (hq : (q >>= f).Takes Q) : ((do if ← sees test then p else q) >>= f).Takes Q := by
  rw [choice_bind]
  exact hp.choice hq

theorem Reads.ensured {condition : Bool} {q : Parser β} (hq : q.Reads Q) :
    (do ensure condition; q).Reads Q :=
  (reads_ensure condition).bind fun _ _ => hq

theorem Reads.whole (hp : p.Reads P) : (whole p).Reads P :=
  hp.bind fun _ ha => (reads_sees _).bind fun _ _ => (reads_ensure _).bind fun _ _ => .pure ha

theorem Takes.group {d : Delimiter} (hp : p.Reads P) : (group d p).Takes P := by
  have hgroup {ts : Tokens} {a : α} {rest : Tokens} (h : Parser.group d p ts = some (a, rest)) :
      ∃ body left, ts = .group d body :: rest ∧ Parser.whole p body = some (a, left) := by
    unfold Parser.group at h
    split at h
    · split at h
      · next hd =>
        obtain ⟨⟨b, left⟩, hb, heq⟩ := Option.map_eq_some_iff.1 h
        cases heq
        exact ⟨_, left, by rw [hd], hb⟩
      · cases h
    · cases h
  constructor
  · intro ts a rest hts h
    obtain ⟨body, left, rfl, hbody⟩ := hgroup h
    have hspelled := (spelled_group_cons.1 hts).1
    exact ⟨⟨_, rfl, hspelled.inGroup⟩, (hp.whole _ _ _ hspelled hbody).2⟩
  · intro ts a rest _ h
    obtain ⟨body, left, rfl, -⟩ := hgroup h
    exact Nat.lt_succ_self _

theorem Reads.asWritten (hp : p.Reads P) : (asWritten p).Reads Spelled := by
  intro ts a rest hts h
  obtain ⟨⟨b, left⟩, hb, heq⟩ := Option.map_eq_some_iff.1 h
  cases heq
  have hsince := (hp _ _ _ hts hb).1
  exact ⟨hsince, hsince.upTo⟩

theorem Takes.asWritten (hp : p.Takes P) : (asWritten p).Takes Spelled where
  reads := hp.reads.asWritten
  shorter := by
    intro ts a rest hts h
    obtain ⟨⟨b, left⟩, hb, heq⟩ := Option.map_eq_some_iff.1 h
    cases heq
    exact hp.shorter _ _ _ hts hb

theorem Reads.orAsWritten {kept : Tokens → α} {p : Parser (Option α)}
    (hp : p.Reads fun o => ∀ a, o = some a → P a) (hkept : ∀ ts, Spelled ts → P (kept ts)) :
    (orAsWritten kept p).Reads P := by
  intro ts a rest hts h
  obtain ⟨⟨o, left⟩, ho, heq⟩ := Option.map_eq_some_iff.1 h
  obtain ⟨hsince, hP⟩ := hp _ _ _ hts ho
  cases heq
  cases o with
  | none => exact ⟨hsince, hkept _ hsince.upTo⟩
  | some b => exact ⟨hsince, hP b rfl⟩

end Rules

/-! ## Loops -/

section Loops

variable {step : σ → Parser (σ × Bool)} {Inv : σ → Prop}

/-- What a step keeps, a loop keeps. -/
theorem reads_iterateWithin (hstep : ∀ s, Inv s → (step s).Reads fun r => Inv r.1) :
    ∀ (rounds : Nat) {s : σ}, Inv s → (iterateWithin step rounds s).Reads Inv
  | 0, _, _ => reads_failure
  | rounds + 1, s, hs => (hstep s hs).bind fun _ hr =>
    .ite (reads_iterateWithin hstep rounds hr) (.pure hr)

theorem Reads.iterate (hstep : ∀ s, Inv s → (step s).Reads fun r => Inv r.1) {s : σ} (hs : Inv s) :
    (iterate step s).Reads Inv :=
  reads_get.bind fun _ _ => reads_iterateWithin hstep _ hs

theorem Takes.iterate (hstep : ∀ s, Inv s → (step s).Takes fun r => Inv r.1) {s : σ} (hs : Inv s) :
    (iterate step s).Takes Inv :=
  reads_get.thenTakes fun _ _ => (hstep s hs).bind fun _ hr =>
    .ite (reads_iterateWithin (fun s hs => (hstep s hs).reads) _ hr) (.pure hr)

/-- What the last step of a loop leaves behind it holds behind the loop. -/
theorem iterateWithin_ends (Inv : σ → Prop) (Ends : σ → Tokens → Prop)
    (hstep : ∀ s, Inv s → ∀ ts r rest, Spelled ts → step s ts = some (r, rest) →
      Since ts rest ∧ if r.2 then Inv r.1 else Ends r.1 rest) :
    ∀ (rounds : Nat) {s : σ} {ts : Tokens} {r : σ} {rest : Tokens}, Inv s → Spelled ts →
      iterateWithin step rounds s ts = some (r, rest) → Since ts rest ∧ Ends r rest
  | 0, _, _, _, _, _, _, h => by cases h
  | rounds + 1, s, ts, r, rest, hs, hts, h => by
    obtain ⟨⟨s', more⟩, middle, hfirst, h⟩ := bind_eq_some h
    obtain ⟨hsince, hends⟩ := hstep s hs _ _ _ hts hfirst
    cases more with
    | true =>
      have hmiddle := hsince.spelled hts
      obtain ⟨hlater, hends⟩ := iterateWithin_ends Inv Ends hstep rounds hends hmiddle h
      exact ⟨hsince.trans hlater, hends⟩
    | false =>
      cases h
      exact ⟨hsince, hends⟩

variable {p : Parser α} {P : α → Prop} {stop : Tokens → Bool}

theorem Reads.manyUntil (hp : p.Reads P) : (manyUntil stop p).Reads fun as => ∀ a ∈ as, P a := by
  refine Reads.bind (P := fun found : List α => ∀ a ∈ found, P a) ?_ fun found hfound =>
    .pure fun a ha => hfound a (List.mem_reverse.1 ha)
  refine .iterate (fun found hfound => ?_) (List.forall_mem_nil P)
  exact .choice (.pure hfound) (hp.bind fun a ha => .pure (List.forall_mem_cons.2 ⟨ha, hfound⟩))

end Loops

/-! ## Single tokens -/

theorem takes_keyword (name : String) : (keyword name).Takes Spelled := by
  have hword {ts a rest : Tokens} (h : keyword name ts = some (a, rest)) :
      ts = .ident name :: rest ∧ a = word name := by
    unfold keyword at h
    split at h
    · next hon =>
      unfold Tokens.onWord at hon
      split at hon
      · rw [beq_iff_eq] at hon
        cases h
        exact ⟨by rw [hon]; rfl, rfl⟩
      · cases hon
    · cases h
  constructor
  · intro ts a rest hts h
    obtain ⟨rfl, rfl⟩ := hword h
    have hname := spelled_word (spelled_ident_cons.1 hts).1
    exact ⟨⟨_, rfl, hname⟩, hname⟩
  · intro ts a rest _ h
    obtain ⟨rfl, -⟩ := hword h
    exact Nat.lt_succ_self _

theorem reads_keyword (name : String) : (keyword name).Reads Spelled := (takes_keyword name).reads

theorem reads_keywordIf (name : String) : (keywordIf name).Reads Spelled :=
  .choice (reads_keyword name) (.pure .nil)

theorem reads_takes (name : String) : (takes name).Reads fun _ => True :=
  .choice ((reads_keyword name).bind fun _ _ => .pure trivial) (.pure trivial)

theorem takes_anyWord : anyWord.Takes fun name => Spelled (word name) := by
  have hword {ts rest : Tokens} {name : String} (h : anyWord ts = some (name, rest)) :
      ts = .ident name :: rest := by
    unfold anyWord at h
    split at h
    · cases h
      rfl
    · cases h
  constructor
  · intro ts name rest hts h
    obtain rfl := hword h
    have hname := spelled_word (spelled_ident_cons.1 hts).1
    exact ⟨⟨_, rfl, hname⟩, hname⟩
  · intro ts name rest _ h
    obtain rfl := hword h
    exact Nat.lt_succ_self _

/-- An identifier is a word. -/
theorem anyWord_of_ident {ts rest : Tokens} {name : String} (h : ident ts = some (name, rest)) :
    anyWord ts = some (name, rest) := by
  unfold ident at h
  split at h
  · split at h
    · exact h
    · cases h
  · cases h

theorem takes_ident : ident.Takes fun name => Spelled (word name) where
  reads := fun _ _ _ hts h => takes_anyWord.reads _ _ _ hts (anyWord_of_ident h)
  shorter := fun _ _ _ hts h => takes_anyWord.shorter _ _ _ hts (anyWord_of_ident h)

theorem takes_lifetime : lifetime.Takes fun name => Spelled (lifetimeTokens name) := by
  have hquote {ts rest : Tokens} {name : String} (h : lifetime ts = some (name, rest)) :
      ts = lifetimeTokens name ++ rest := by
    unfold lifetime at h
    split at h
    · split at h
      · next hc =>
        cases h
        rw [hc]
        rfl
      · cases h
    · cases h
  constructor
  · intro ts name rest hts h
    obtain rfl := hquote h
    have hname : Spelled (lifetimeTokens name) := by
      cases hts with
      | joint hc _ _ => cases hc
      | quote hgap hu hrest => exact .quote hgap hu (spelled_word (spelled_ident_cons.1 hrest).1)
    exact ⟨⟨_, rfl, hname⟩, hname⟩
  · intro ts name rest _ h
    obtain rfl := hquote h
    exact Nat.lt_succ_of_lt (Nat.lt_succ_self _)

theorem reads_lifetimeIf :
    lifetimeIf.Reads fun found => ∀ name ∈ found, Spelled (lifetimeTokens name) := by
  refine .choice (takes_lifetime.reads.bind fun name hname => .pure ?_) (.pure nofun)
  exact forall_mem_some hname

theorem takes_anyGroup : anyGroup.Takes fun found => Spelled found.2 := by
  have hgroup {ts rest : Tokens} {found : Delimiter × Tokens}
      (h : anyGroup ts = some (found, rest)) : ts = .group found.1 found.2 :: rest := by
    unfold anyGroup at h
    split at h
    · cases h
      rfl
    · cases h
  constructor
  · intro ts found rest hts h
    obtain rfl := hgroup h
    have hbody := (spelled_group_cons.1 hts).1
    exact ⟨⟨_, rfl, hbody.inGroup⟩, hbody⟩
  · intro ts found rest _ h
    obtain rfl := hgroup h
    exact Nat.lt_succ_self _

theorem spelled_minus {text : String} {spacing : Spacing} {rest : Tokens}
    (h : Spelled (.punct '-' spacing :: .literal text :: rest)) :
    Spelled [.punct '-' spacing, .literal text] ∧ Spelled (op "-" ++ [.literal text]) := by
  have htext : Spelled [.literal text] := .literal (spelled_literal_cons.1 h.tail).1 .nil
  refine ⟨?_, (spelled_op (by decide)).append htext⟩
  cases spacing with
  | alone => exact .alone (by decide) htext
  | joint => exact .joint (by decide) (fun h => by cases h) htext

theorem takes_literal : literal.Takes Spelled := by
  constructor
  · intro ts a rest hts h
    unfold literal at h
    split at h
    · cases h
      have htext : Spelled [.literal _] := .literal (spelled_literal_cons.1 hts).1 .nil
      exact ⟨⟨_, rfl, htext⟩, htext⟩
    · split at h
      · cases h
        have hname := spelled_word (spelled_ident_cons.1 hts).1
        exact ⟨⟨_, rfl, hname⟩, hname⟩
      · cases h
    · split at h
      · next hminus =>
        obtain ⟨rfl, -⟩ : _ = '-' ∧ _ := by simpa using hminus
        cases h
        obtain ⟨htaken, hwritten⟩ := spelled_minus hts
        exact ⟨⟨_, rfl, htaken⟩, hwritten⟩
      · cases h
    · cases h
  · intro ts a rest hts h
    unfold literal at h
    split at h
    · cases h
      exact Nat.lt_succ_self _
    · split at h
      · cases h
        exact Nat.lt_succ_self _
      · cases h
    · split at h
      · cases h
        exact Nat.lt_succ_of_lt (Nat.lt_succ_self _)
      · cases h
    · cases h

theorem reads_quotedLiteral : quotedLiteral.Reads Spelled := by
  intro ts a rest hts h
  unfold quotedLiteral at h
  split at h
  · split at h
    · cases h
      have htext : Spelled [.literal _] := .literal (spelled_literal_cons.1 hts).1 .nil
      exact ⟨⟨_, rfl, htext⟩, htext⟩
    · cases h
  · cases h

theorem reads_drop : (set ([] : Tokens) : Parser PUnit).Reads fun _ => True := by
  intro ts a rest hts h
  cases h
  exact ⟨⟨ts, (List.append_nil ts).symm, hts⟩, trivial⟩

/-! ## Operators -/

/-- Whether a text is an operator that can be written, and starts no comment whatever follows. -/
def isSeparable (text : String) : Bool :=
  isOperator text.toList && !text.toList.isEmpty && text.toList.getLast? != some '/'

theorem startsWith_cons {c : Char} {cs : List Char} {ts : Tokens} (h : startsWith (c :: cs) ts) :
    ∃ spacing rest, ts = .punct c spacing :: rest ∧
      (cs ≠ [] → spacing = .joint ∧ startsWith cs rest) := by
  unfold startsWith at h
  split at h
  · next heq =>
    cases heq
    exact ⟨_, _, by rw [of_decide_eq_true h], fun hne => absurd rfl hne⟩
  · next heq =>
    cases heq
    simp only [Bool.and_eq_true, decide_eq_true_eq] at h
    obtain ⟨⟨rfl, rfl⟩, hmore⟩ := h
    exact ⟨_, _, rfl, fun _ => ⟨rfl, hmore⟩⟩
  · cases h

/-- The tokens of an operator at the front can be written if its last character is no slash. -/
theorem spelled_take_operator : ∀ {cs : List Char} {ts : Tokens}, startsWith cs ts → isOperator cs →
    cs.getLast? ≠ some '/' → Spelled ts → Spelled (ts.take cs.length)
  | [], _, _, _, _, _ => .nil
  | [c], ts, hstarts, hop, hlast, hts => by
    obtain ⟨spacing, rest, rfl, -⟩ := startsWith_cons hstarts
    cases spacing with
    | alone => exact .alone hop .nil
    | joint => exact .joint hop (fun h => absurd (congrArg some h) hlast) .nil
  | c :: d :: more, ts, hstarts, hop, hlast, hts => by
    obtain ⟨spacing, rest, rfl, hmore⟩ := startsWith_cons hstarts
    obtain ⟨rfl, hnext⟩ := hmore (List.cons_ne_nil d more)
    simp only [isOperator, Bool.and_eq_true] at hop
    have hrest := spelled_take_operator hnext hop.2 (by simpa using hlast) hts.tail
    obtain ⟨next, after, rfl, -⟩ := startsWith_cons hnext
    refine .joint hop.1.1 (fun hslash => ?_) hrest
    cases hts with
    | joint _ hfollow _ => exact hfollow hslash
    | quote => cases hop.1.1

theorem sign_eq_some {text : String} {ts a rest : Tokens} (h : sign text ts = some (a, rest)) :
    startsWith text.toList ts ∧ a = op text ∧ ts = ts.take text.toList.length ++ rest := by
  unfold sign at h
  split at h
  · next hon =>
    cases h
    exact ⟨hon, rfl, (List.take_append_drop _ _).symm⟩
  · cases h

theorem length_take_of_startsWith : ∀ {cs : List Char} {ts : Tokens}, startsWith cs ts →
    cs.length ≤ ts.length
  | [], _, _ => Nat.zero_le _
  | c :: cs, ts, h => by
    obtain ⟨spacing, rest, rfl, hmore⟩ := startsWith_cons h
    cases cs with
    | nil => exact Nat.succ_le_succ (Nat.zero_le _)
    | cons d more =>
      exact Nat.succ_le_succ (length_take_of_startsWith (hmore (List.cons_ne_nil d more)).2)

theorem takes_sign {text : String} (h : isSeparable text) : (sign text).Takes Spelled := by
  simp only [isSeparable, Bool.and_eq_true, Bool.not_eq_true', List.isEmpty_eq_false_iff,
    bne_iff_ne] at h
  obtain ⟨⟨hop, hne⟩, hlast⟩ := h
  constructor
  · intro ts a rest hts ha
    obtain ⟨hstarts, rfl, heq⟩ := sign_eq_some ha
    exact ⟨⟨_, heq, spelled_take_operator hstarts hop hlast hts⟩, spelled_op hop⟩
  · intro ts a rest hts ha
    obtain ⟨hstarts, -, heq⟩ := sign_eq_some ha
    have hlength := congrArg List.length heq
    have hle := length_take_of_startsWith hstarts
    have hpos := List.length_pos_of_ne_nil hne
    rw [List.length_append, List.length_take_of_le hle] at hlength
    omega

theorem reads_sign {text : String} (h : isSeparable text) : (sign text).Reads Spelled :=
  (takes_sign h).reads

theorem reads_signIf {text : String} (h : isSeparable text) : (signIf text).Reads Spelled :=
  .choice (reads_sign h) (.pure .nil)

/-- An operator that ends in a slash is taken together with what stands behind it. -/
theorem Takes.behindOperator {text : String} (h : isOperator text.toList) {q : Tokens → Parser β}
    {Q : β → Prop} (hq : ∀ s, Spelled s → (q s).Takes Q) :
    (sign text >>= q).Reads Q := by
  intro ts b rest hts hb
  obtain ⟨a, middle, ha, hqa⟩ := bind_eq_some hb
  obtain ⟨-, rfl, heq⟩ := sign_eq_some ha
  generalize ts.take text.toList.length = front at heq
  subst heq
  have htail : ∀ {front : Tokens}, Spelled (front ++ middle) → Spelled middle := by
    intro front
    induction front with
    | nil => exact id
    | cons t front ih => exact fun h => ih h.tail
  have hmiddle := htail hts
  obtain ⟨⟨taken, rfl, htaken⟩, hQ⟩ := (hq _ (spelled_op h)).reads _ _ _ hmiddle hqa
  have hne : taken ≠ [] := by
    rintro rfl
    exact absurd ((hq _ (spelled_op h)).shorter _ _ _ hmiddle hqa) (lt_irrefl _)
  rw [← List.append_assoc] at hts
  exact ⟨⟨front ++ taken, (List.append_assoc ..).symm, htaken.front hne hts⟩, hQ⟩

/-! ## Lists -/

section Lists

variable {p : Parser α} {P : α → Prop} {stop : Tokens → Bool} {separator : String}

theorem Reads.separatedUntil (hp : p.Reads P) (h : isSeparable separator) :
    (separatedUntil stop separator p).Reads fun found => ∀ a ∈ found.1, P a := by
  refine Reads.bind (P := fun found : List α × Bool => ∀ a ∈ found.1, P a) ?_
    fun found hfound => .pure fun a ha => hfound a (List.mem_reverse.1 ha)
  refine .iterate (fun found hfound => .choice (.pure hfound) ?_) (List.forall_mem_nil P)
  refine hp.bind fun a ha => ?_
  have hmore := List.forall_mem_cons.2 ⟨ha, hfound⟩
  exact .choice (.pure hmore) ((reads_sign h).bind fun _ _ => .pure hmore)

theorem Reads.separatedWhile (hp : p.Reads P) (h : isSeparable separator) :
    (separatedWhile stop separator p).Reads fun found => ∀ a ∈ found.1, P a := by
  refine Reads.bind (P := fun found : List α × Bool => ∀ a ∈ found.1, P a) ?_
    fun found hfound => .pure fun a ha => hfound a (List.mem_reverse.1 ha)
  refine .iterate (fun found hfound => .choice (.pure hfound) ?_) (List.forall_mem_nil P)
  refine hp.bind fun a ha => ?_
  have hmore := List.forall_mem_cons.2 ⟨ha, hfound⟩
  exact (reads_sees _).bind fun _ _ =>
    .ite (.pure hmore) ((reads_sign h).bind fun _ _ => .pure hmore)

theorem Reads.commas (hp : p.Reads P) : (commas p).Reads fun found => ∀ a ∈ found.1, P a :=
  hp.separatedUntil (by decide)

theorem Reads.listTokens {p : Parser (List Tokens × Bool)}
    (hp : p.Reads fun found => ∀ ts ∈ found.1, Spelled ts) (h : isSeparable separator) :
    (listTokens separator p).Reads Spelled := by
  refine hp.bind fun found hfound => .pure (.separated (spelled_op ?_) _ hfound)
  simp only [isSeparable, Bool.and_eq_true] at h
  exact h.1.1

end Lists

/-! ## Looking at the tokens -/

/-- The parser reads of these tokens. -/
def ReadsAt (ts : Tokens) (p : Parser α) (P : α → Prop) : Prop :=
  ∀ (a : α) (rest : Tokens), p ts = some (a, rest) → Since ts rest ∧ P a

section Looking

variable {ts : Tokens} {p : Parser α} {P : α → Prop} {Q : β → Prop}

theorem Reads.readsAt (h : p.Reads P) (hts : Spelled ts) : p.ReadsAt ts P :=
  fun _ _ ha => h _ _ _ hts ha

theorem Reads.ofTokens {f : Tokens → Parser β} (hf : ∀ ts, Spelled ts → (f ts).ReadsAt ts Q) :
    (get >>= f).Reads Q :=
  fun ts b rest hts hb => hf ts hts b rest hb

theorem readsAt_failure : (failure : Parser α).ReadsAt ts P := by
  intro a rest h
  cases h

/-- A parser goes on behind the tokens that were looked at. -/
theorem Reads.goOn {rest : Tokens} {f : PUnit → Parser β} (hf : (f ⟨⟩).Reads Q)
    (hrest : Since ts rest) (hts : Spelled ts) : (set rest >>= f).ReadsAt ts Q := by
  intro b left h
  obtain ⟨done, middle, hset, h⟩ := bind_eq_some h
  cases hset
  obtain ⟨hsince, hQ⟩ := hf _ _ _ (hrest.spelled hts) h
  exact ⟨hrest.trans hsince, hQ⟩

end Looking

/-! ## Slices -/

/-- The parser reads behind the place `start`. -/
def ReadsFrom (start : Tokens) (p : Parser α) (P : α → Prop) : Prop :=
  ∀ (ts : Tokens) (a : α) (rest : Tokens), Spelled ts → Since start ts → p ts = some (a, rest) →
    Since ts rest ∧ P a

section Slices

variable {start : Tokens} {p : Parser α} {P : α → Prop} {Q : β → Prop}

theorem Reads.behind (h : p.Reads P) : p.ReadsFrom start P :=
  fun _ _ _ hts _ ha => h _ _ _ hts ha

theorem Reads.ofStart {f : Tokens → Parser β} (hf : ∀ start, Spelled start →
    (f start).ReadsFrom start Q) : (get >>= f).Reads Q := by
  intro ts b rest hts hb
  exact hf ts hts _ _ _ hts (.refl ts) hb

theorem ReadsFrom.bind {f : α → Parser β} (hp : p.Reads P)
    (hf : ∀ a, P a → (f a).ReadsFrom start Q) : (p >>= f).ReadsFrom start Q := by
  intro ts b rest hts hstart hb
  obtain ⟨a, middle, ha, hfa⟩ := bind_eq_some hb
  obtain ⟨hfirst, hP⟩ := hp _ _ _ hts ha
  obtain ⟨hsecond, hQ⟩ := hf a hP _ _ _ (hfirst.spelled hts) (hstart.trans hfirst) hfa
  exact ⟨hfirst.trans hsecond, hQ⟩

/-- From the place on up to here the tokens can be written. -/
theorem ReadsFrom.slice {f : Tokens → Parser β}
    (hf : ∀ now, Spelled (start.upTo now) → (f now).ReadsFrom start Q) :
    (get >>= f).ReadsFrom start Q := by
  intro ts b rest hts hstart hb
  exact hf ts hstart.upTo _ _ _ hts hstart hb

theorem ReadsFrom.ite {c : Prop} [Decidable c] {p q : Parser α} (hp : p.ReadsFrom start P)
    (hq : q.ReadsFrom start P) : (if c then p else q).ReadsFrom start P := by
  split
  · exact hp
  · exact hq

theorem ReadsFrom.choice {test : Tokens → Bool} {p q : Parser α} (hp : p.ReadsFrom start P)
    (hq : q.ReadsFrom start P) : (do if ← sees test then p else q).ReadsFrom start P :=
  .bind (reads_sees test) fun _ _ => .ite hp hq

end Slices

end Parser

end GraphRepo.Source

import Mathlib
import GraphRepo.Proofs.Source.Leaves

/-!
# Tokens from their text

The lexer cuts the text of tokens into the tokens it was written from. Only what is said about the
spacing of punctuation may be lost: a character that was joint and has no punctuation behind it is
read alone.
-/

namespace GraphRepo.Source

/-! ## Tokens as lexemes -/

mutual

/-- A token tree with nothing said about the spacing of punctuation. -/
def TokenTree.unspaced : TokenTree → TokenTree
  | .punct c _ => .punct c .alone
  | .group d body => .group d (Tokens.unspaced body)
  | .ident name => .ident name
  | .literal text => .literal text

/-- Tokens with nothing said about the spacing of punctuation. -/
def Tokens.unspaced : List TokenTree → List TokenTree
  | [] => []
  | t :: rest => t.unspaced :: Tokens.unspaced rest

end

mutual

/-- What the lexer cuts a token tree into. -/
def TokenTree.flat : TokenTree → List Lexeme
  | .group d body => .opening d :: (Tokens.flat body ++ [.closing d])
  | t => [.tree t]

/-- What the lexer cuts tokens into. -/
def Tokens.flat : List TokenTree → List Lexeme
  | [] => []
  | t :: rest => t.flat ++ Tokens.flat rest

end

mutual

theorem nest_flat_tree (opened : List (Delimiter × Tokens)) (done : Tokens) (ls : List Lexeme) :
    ∀ t : TokenTree, nest opened done (t.flat ++ ls) = nest opened (t :: done) ls
  | .group d body => by
    rw [TokenTree.flat, List.cons_append, List.append_assoc, nest, nest_flat, List.append_nil,
      List.singleton_append, nest, if_pos rfl, List.reverse_reverse]
  | .ident name => by rw [TokenTree.flat, List.singleton_append, nest]; simp
  | .punct c spacing => by rw [TokenTree.flat, List.singleton_append, nest]; simp
  | .literal text => by rw [TokenTree.flat, List.singleton_append, nest]; simp

/-- **Nesting puts the lexemes of tokens together again.** -/
theorem nest_flat (opened : List (Delimiter × Tokens)) (done : Tokens) (ls : List Lexeme) :
    ∀ ts : Tokens, nest opened done (Tokens.flat ts ++ ls) = nest opened (ts.reverse ++ done) ls
  | [] => rfl
  | t :: rest => by
    rw [Tokens.flat, List.append_assoc, nest_flat_tree, nest_flat, List.reverse_cons,
      List.append_assoc, List.singleton_append]

end

theorem nest_flat_all (ts : Tokens) : nest [] [] (Tokens.flat ts) = some ts := by
  have h := nest_flat [] [] [] ts
  rw [List.append_nil, List.append_nil] at h
  rw [h, nest, List.reverse_reverse]

/-! ## Runs of the lexer -/

/-- The lexer cuts the text into some lexemes and comes to `rest`. -/
inductive Lexes : List Char → List Lexeme → List Char → Prop
  | stop (cs : List Char) : Lexes cs [] cs
  | step {cs middle rest : List Char} {found ls : List Lexeme} : cut cs = some (found, middle) →
      middle.length < cs.length → Lexes middle ls rest → Lexes cs (found ++ ls) rest

theorem Lexes.trans {as bs cs : List Char} {ls ms : List Lexeme} (h : Lexes as ls bs)
    (hbs : Lexes bs ms cs) : Lexes as (ls ++ ms) cs := by
  induction h with
  | stop => exact hbs
  | step hcut hlength _ ih =>
    rw [List.append_assoc]
    exact .step hcut hlength (ih hbs)

theorem Lexes.lexemesWithin {cs rest : List Char} {ls : List Lexeme} (h : Lexes cs ls rest)
    (hrest : rest = []) : ∀ {fuel : Nat}, cs.length ≤ fuel → lexemesWithin fuel cs = some ls := by
  induction h with
  | stop =>
    subst hrest
    intro fuel _
    cases fuel <;> rfl
  | @step cs middle rest found ls hcut hlength _ ih =>
    intro fuel hfuel
    cases fuel with
    | zero => omega
    | succ fuel =>
      have hmiddle : Source.lexemesWithin fuel middle = some ls := ih hrest (by omega)
      cases cs with
      | nil => cases hcut
      | cons c cs => simp [Source.lexemesWithin, hcut, hmiddle]

/-- **A text that the lexer runs through is tokens.** -/
theorem tokenize_of_lexes {text : String} {ts : Tokens}
    (h : Lexes (dropMark text.toList) (Tokens.flat ts) []) : tokenize text = some ts := by
  rw [tokenize, lexemes, h.lexemesWithin rfl (Nat.le_refl _)]
  exact nest_flat_all ts

theorem Lexes.lexemesWithin_eq_none {cs rest : List Char} {ls : List Lexeme} (h : Lexes cs ls rest)
    (hrest : rest ≠ []) (hcut : cut rest = none) (fuel : Nat) :
    Source.lexemesWithin fuel cs = none := by
  induction h generalizing fuel with
  | stop cs =>
    cases cs with
    | nil => exact absurd rfl hrest
    | cons c cs => cases fuel <;> simp [Source.lexemesWithin, hcut]
  | @step cs middle rest found ls hfirst _ _ ih =>
    cases cs with
    | nil => cases hfirst
    | cons c cs =>
      cases fuel with
      | zero => rfl
      | succ fuel => simp [Source.lexemesWithin, hfirst, ih hrest hcut fuel]

theorem tokenize_eq_none {text : String} {rest : List Char} {ls : List Lexeme}
    (h : Lexes (dropMark text.toList) ls rest) (hrest : rest ≠ []) (hcut : cut rest = none) :
    tokenize text = none := by
  rw [tokenize, lexemes, h.lexemesWithin_eq_none hrest hcut]
  rfl

theorem Lexes.one {cs rest : List Char} {l : Lexeme} (hcut : cut cs = some ([l], rest))
    (hlength : rest.length < cs.length) : Lexes cs [l] rest :=
  .step hcut hlength (.stop rest)

theorem lexes_space (rest : List Char) : Lexes (' ' :: rest) [] rest := by
  have hcut : cut (' ' :: rest) = some ([], rest) := rfl
  have hstep := Lexes.step hcut (Nat.lt_succ_self _) (.stop rest)
  rwa [List.append_nil] at hstep

/-! ## Brackets -/

theorem lexes_opening {d : Delimiter} {rest : List Char} (h : ¬ ['/', '*'] <+: rest) :
    Lexes (d.opening ++ rest) [.opening d] rest := by
  cases d with
  | paren =>
    refine .one ?_ (Nat.lt_succ_self _)
    have herror : errorLiteral.isPrefixOf ('(' :: rest) = false := by
      refine Bool.eq_false_iff.2 fun hstarts => h ?_
      have hlonger : ['/', '*'] <+: ['/', '*', 'E', 'R', 'R', 'O', 'R', '*', '/', ')'] := ⟨_, rfl⟩
      rw [errorLiteral, List.isPrefixOf_cons_cons, Bool.and_eq_true,
        List.isPrefixOf_iff_prefix] at hstarts
      exact hlonger.trans hstarts.2
    have hspace : isSpace '(' = false := by decide
    have hdocument : docComment? ('(' :: rest) = none := rfl
    have hcomment : plainCommentEnd ('(' :: rest) = none := rfl
    rw [Delimiter.opening, List.singleton_append, cut, hspace, hdocument, hcomment, herror]
    rfl
  | bracket => exact .one rfl (Nat.lt_succ_self _)
  | brace =>
    have hopening : Lexes ('\x7b' :: ' ' :: rest) [.opening .brace] (' ' :: rest) :=
      .one rfl (Nat.lt_succ_self _)
    exact hopening.trans (lexes_space rest)

theorem lexes_closing (d : Delimiter) (empty : Bool) (rest : List Char) :
    Lexes (d.closing empty ++ rest) [.closing d] rest := by
  cases d with
  | paren => exact .one rfl (Nat.lt_succ_self _)
  | bracket => exact .one rfl (Nat.lt_succ_self _)
  | brace =>
    have hclosing : Lexes ('\x7d' :: rest) [.closing .brace] rest := .one rfl (Nat.lt_succ_self _)
    cases empty with
    | true => exact hclosing
    | false => exact (lexes_space _).trans hclosing

theorem stops_closing (d : Delimiter) (rest : List Char) : Stops (d.closing false ++ rest) := by
  cases d <;> simp [Delimiter.closing, Stops]

/-! ## Tokens -/

/-- What stands behind a token that is not joint to the tokens that follow it. -/
def behind (ts : Tokens) (rest : List Char) : List Char :=
  (if ts = [] then [] else ' ' :: Tokens.chars ts) ++ rest

theorem stops_behind (ts : Tokens) {rest : List Char} (h : Stops rest) : Stops (behind ts rest) := by
  unfold behind
  split_ifs with hnil
  · exact h
  · simp [Stops]

theorem Stops.not_makesComment {rest : List Char} (h : Stops rest) : ¬ makesComment rest := by
  rcases rest with _ | ⟨c, rest⟩
  · exact Bool.false_ne_true
  · simp only [Stops, List.mem_cons, List.not_mem_nil, or_false] at h
    rcases h with rfl | rfl | rfl | rfl <;> exact Bool.false_ne_true

theorem chars_cons (t : TokenTree) (ts : Tokens) :
    Tokens.chars (t :: ts) = t.chars ++ if ts = [] then [] else t.gap ++ Tokens.chars ts := by
  cases ts with
  | nil => rw [if_pos rfl, List.append_nil, Tokens.chars]
  | cons u rest => rw [if_neg (List.cons_ne_nil u rest), Tokens.chars]

theorem chars_cons_append {t : TokenTree} (ht : t.gap = [' ']) (ts : Tokens) (rest : List Char) :
    Tokens.chars (t :: ts) ++ rest = t.chars ++ behind ts rest := by
  rw [chars_cons, ht, List.append_assoc, List.singleton_append, behind]

theorem chars_joint_append (c : Char) (ts : Tokens) (rest : List Char) :
    Tokens.chars (.punct c .joint :: ts) ++ rest = c :: (Tokens.chars ts ++ rest) := by
  rw [chars_cons, TokenTree.chars, TokenTree.gap, List.nil_append, List.singleton_append]
  split_ifs with hnil
  · rw [hnil]
    rfl
  · rfl

theorem FollowSlash.not_makesComment {ts : Tokens} (h : FollowSlash ts) (rest : List Char) :
    ¬ makesComment (Tokens.chars ts ++ rest) := by
  cases ts with
  | nil => cases h
  | cons t us =>
    obtain ⟨hne, hno⟩ := h
    rw [chars_cons]
    cases hchars : t.chars with
    | nil => exact absurd hchars hne
    | cons c cs =>
      rw [hchars] at hno
      exact hno

theorem TokenTree.StandsAlone.chars_ne_nil {t : TokenTree} (h : t.StandsAlone) : t.chars ≠ [] := by
  intro hnil
  have hcut := h [] trivial
  rw [hnil] at hcut
  cases hcut

theorem Spelled.not_comment {ts : Tokens} (h : Spelled ts) {rest : List Char} (hrest : Stops rest) :
    ¬ ['/', '*'] <+: Tokens.chars ts ++ rest := by
  rintro ⟨more, hmore⟩
  cases h with
  | nil =>
    rw [Tokens.chars, List.nil_append] at hmore
    rw [← hmore] at hrest
    simp [Stops] at hrest
  | @word name ts hname hts =>
    rw [chars_cons_append rfl] at hmore
    have hcut := hname _ (stops_behind ts hrest)
    rw [← hmore] at hcut
    exact cut_comment_ne _ _ _ hcut
  | @literal text ts htext hts =>
    rw [chars_cons_append rfl] at hmore
    have hcut := htext _ (stops_behind ts hrest)
    rw [← hmore] at hcut
    exact cut_comment_ne _ _ _ hcut
  | @group d _ _ hbody hts =>
    rw [chars_cons_append rfl, TokenTree.chars] at hmore
    cases d <;> cases hmore
  | @alone c ts hc hts =>
    rw [chars_cons_append rfl] at hmore
    have hstops := stops_behind ts hrest
    have hstar : '*' :: more = behind ts rest := (List.cons.inj hmore).2
    rw [← hstar] at hstops
    simp [Stops] at hstops
  | @joint c ts hc hslash hts =>
    rw [chars_joint_append] at hmore
    obtain ⟨rfl, hstar⟩ := List.cons.inj hmore
    have hno := (hslash rfl).not_makesComment rest
    rw [← hstar] at hno
    exact hno rfl
  | quote hgap hu hts =>
    rw [chars_joint_append] at hmore
    cases hmore

/-- What is behind a token is read back if the tokens there are. -/
theorem lexes_behind {ts us : Tokens} {rest : List Char}
    (h : Lexes (Tokens.chars ts ++ rest) (Tokens.flat us) rest) :
    Lexes (behind ts rest) (Tokens.flat us) rest := by
  unfold behind
  split_ifs with hnil
  · rw [hnil] at h
    exact h
  · exact (lexes_space _).trans h

theorem Lexes.cons {t : TokenTree} {cs rest middle : List Char} {us : Tokens}
    (hcut : cut cs = some ([.tree t], middle)) (hlength : middle.length < cs.length)
    (ht : t.flat = [.tree t]) (h : Lexes middle (Tokens.flat us) rest) :
    Lexes cs (Tokens.flat (t :: us)) rest := by
  rw [Tokens.flat, ht]
  exact .step hcut hlength h

theorem TokenTree.StandsAlone.lexes {t : TokenTree} (h : t.StandsAlone) (hgap : t.gap = [' '])
    (ht : t.flat = [.tree t]) {ts us : Tokens} {rest : List Char} (hrest : Stops rest)
    (hus : Lexes (Tokens.chars ts ++ rest) (Tokens.flat us) rest) :
    Lexes (Tokens.chars (t :: ts) ++ rest) (Tokens.flat (t :: us)) rest := by
  rw [chars_cons_append hgap]
  refine .cons (h _ (stops_behind ts hrest)) ?_ ht (lexes_behind hus)
  rw [List.length_append]
  exact Nat.lt_add_of_pos_left (List.length_pos_of_ne_nil h.chars_ne_nil)

/-- **Tokens are read back from their text**, up to spacing. -/
theorem Spelled.lexes {ts : Tokens} (h : Spelled ts) : ∀ {rest : List Char},
    (ts ≠ [] → Stops rest) → ∃ us, Tokens.unspaced us = Tokens.unspaced ts ∧
      Lexes (Tokens.chars ts ++ rest) (Tokens.flat us) rest := by
  -- A sign gets its spacing from what the lexer sees behind it, so `us` is built from the back.
  induction h with
  | nil => exact fun _ => ⟨[], rfl, .stop _⟩
  | @word name ts hname _ ih =>
    intro rest hrest
    have hstops := hrest (List.cons_ne_nil _ _)
    obtain ⟨us, hplain, hus⟩ := ih fun _ => hstops
    refine ⟨.ident name :: us, ?_, hname.lexes rfl (by simp [TokenTree.flat]) hstops hus⟩
    rw [Tokens.unspaced, Tokens.unspaced, hplain]
  | @literal text ts htext _ ih =>
    intro rest hrest
    have hstops := hrest (List.cons_ne_nil _ _)
    obtain ⟨us, hplain, hus⟩ := ih fun _ => hstops
    refine ⟨.literal text :: us, ?_, htext.lexes rfl (by simp [TokenTree.flat]) hstops hus⟩
    rw [Tokens.unspaced, Tokens.unspaced, hplain]
  | @group d body ts hbody _ ihbody ih =>
    intro rest hrest
    have hstops := hrest (List.cons_ne_nil _ _)
    obtain ⟨us, hplain, hus⟩ := ih fun _ => hstops
    have hclosing : body ≠ [] → Stops (d.closing body.isEmpty ++ behind ts rest) := by
      intro hne
      rw [List.isEmpty_eq_false_iff.2 hne]
      exact stops_closing d _
    obtain ⟨inside, hinside, hlexes⟩ := ihbody hclosing
    refine ⟨.group d inside :: us, ?_, ?_⟩
    · rw [Tokens.unspaced, Tokens.unspaced, TokenTree.unspaced, TokenTree.unspaced, hplain, hinside]
    · have hno : ¬ ['/', '*'] <+:
          Tokens.chars body ++ (d.closing body.isEmpty ++ behind ts rest) := by
        cases body with
        | nil => cases d <;> rintro ⟨_, ⟨⟩⟩
        | cons t body => exact hbody.not_comment (stops_closing d _)
      have hgroup := (lexes_opening (d := d) hno).trans (hlexes.trans (lexes_closing d _ _))
      rw [chars_cons_append rfl, TokenTree.chars, Tokens.flat, TokenTree.flat]
      simp only [List.append_assoc] at hgroup ⊢
      exact hgroup.trans (lexes_behind hus)
  | @alone c ts hc _ ih =>
    intro rest hrest
    have hstops := hrest (List.cons_ne_nil _ _)
    obtain ⟨us, hplain, hus⟩ := ih fun _ => hstops
    obtain ⟨spacing, hcut⟩ := cut_sign hc fun _ => (stops_behind ts hstops).not_makesComment
    refine ⟨.punct c spacing :: us, ?_, ?_⟩
    · rw [Tokens.unspaced, Tokens.unspaced, TokenTree.unspaced, TokenTree.unspaced, hplain]
    · rw [chars_cons_append rfl]
      exact .cons hcut (Nat.lt_succ_self _) (by simp [TokenTree.flat]) (lexes_behind hus)
  | @joint c ts hc hslash _ ih =>
    intro rest hrest
    have hstops := hrest (List.cons_ne_nil _ _)
    obtain ⟨us, hplain, hus⟩ := ih fun _ => hstops
    obtain ⟨spacing, hcut⟩ := cut_sign hc fun h => (hslash h).not_makesComment rest
    refine ⟨.punct c spacing :: us, ?_, ?_⟩
    · rw [Tokens.unspaced, Tokens.unspaced, TokenTree.unspaced, TokenTree.unspaced, hplain]
    · rw [chars_joint_append]
      exact .cons hcut (Nat.lt_succ_self _) (by simp [TokenTree.flat]) hus
  | @quote u ts hgap hu _ ih =>
    intro rest hrest
    have hstops := hrest (List.cons_ne_nil _ _)
    obtain ⟨us, hplain, hus⟩ := ih fun _ => hstops
    refine ⟨.punct '\x27' .joint :: us, ?_, ?_⟩
    · rw [Tokens.unspaced, Tokens.unspaced, hplain]
    · have hcut := hu _ (stops_behind ts hstops)
      rw [← chars_cons_append hgap] at hcut
      rw [chars_joint_append]
      exact .cons hcut (Nat.lt_succ_self _) (by simp [TokenTree.flat]) hus

end GraphRepo.Source

import Mathlib
import GraphRepo.Proofs.Source.Literals
import GraphRepo.Proofs.Source.PrintedBack

/-!
# Tokens of a text can be written

Every token that the lexer cuts from a text can be written again. A word or a literal is one
wherever something stops it, and of a joint character the lexer has seen what follows: a quote has a
lifetime's name behind it, and a slash does not start a comment.
-/

namespace GraphRepo.Source

variable {cs after : List Char} {t : TokenTree}

/-! ## Leaves -/

theorem textBefore_literal (h : literalEnd cs = some after) :
    literalEnd (textBefore cs after).toList = some [] := by
  obtain ⟨text, rfl, htext⟩ := exists_literal h
  rwa [textBefore_append, String.toList_ofList]

theorem textBefore_ident (h : identTokenEnd cs = some after) :
    IsIdent (textBefore cs after).toList := by
  obtain ⟨name, rfl, hname⟩ := exists_ident h
  rwa [textBefore_append, String.toList_ofList]

/-- **The characters of a leaf are what it was cut from.** -/
theorem leaf_chars (h : leaf cs = some (t, after)) : cs = t.chars ++ after ∧ t.chars ≠ [] := by
  rcases leaf_eq_some h with ⟨hend, rfl⟩ | hpunctuation | ⟨hend, rfl⟩
  · obtain ⟨text, rfl, htext⟩ := exists_literal hend
    rw [textBefore_append, TokenTree.chars, String.toList_ofList]
    refine ⟨rfl, ?_⟩
    rintro rfl
    cases htext
  · rcases punctuation_eq_some hpunctuation with ⟨rfl, rfl, -⟩ | ⟨c, rfl, -, rfl⟩
    · exact ⟨rfl, List.cons_ne_nil _ _⟩
    · exact ⟨rfl, List.cons_ne_nil _ _⟩
  · obtain ⟨name, rfl, hname⟩ := exists_ident hend
    obtain ⟨c, more, rfl, -⟩ := hname.starts
    rw [textBefore_append, TokenTree.chars, String.toList_ofList]
    exact ⟨rfl, List.cons_ne_nil _ _⟩

theorem standsAlone_error : (TokenTree.literal (String.ofList errorLiteral)).StandsAlone := by
  intro rest _
  have hspace : isSpace '(' = false := by decide
  have hstarts : errorLiteral.isPrefixOf (errorLiteral ++ rest) :=
    List.isPrefixOf_iff_prefix.2 (List.prefix_append _ _)
  have hcut : cut (errorLiteral ++ rest) =
      if errorLiteral.isPrefixOf (errorLiteral ++ rest) then
        some ([.tree (.literal (String.ofList errorLiteral))],
          (errorLiteral ++ rest).drop errorLiteral.length)
      else some ([.opening .paren], errorLiteral.tail ++ rest) := by
    have hcons : errorLiteral ++ rest = '(' :: (errorLiteral.tail ++ rest) := rfl
    rw [hcons, cut, hspace]
    rfl
  rw [TokenTree.chars, String.toList_ofList, hcut, if_pos hstarts, List.drop_left]

/-! ## What stands behind a slash -/

/-- Behind a joint slash stands a token that starts no comment. -/
theorem followSlash_of_cut {found : List Lexeme} (hslash : startsWithPunctuation ('/' :: cs))
    (hjoint : startsWithPunctuation cs) (hcut : cut cs = some (found, after)) :
    ∃ u, found = [.tree u] ∧ FollowSlash [u] := by
  rcases cs with _ | ⟨c, rest⟩
  · cases hcut
  have hno : ¬ makesComment (c :: rest) := by
    intro hcomment
    simp only [makesComment, List.head?_cons, Option.any_some, Bool.or_eq_true,
      decide_eq_true_iff] at hcomment
    rcases hcomment with rfl | rfl <;> cases hslash
  have hpunctuation := isPunctuation_of_startsWithPunctuation hjoint
  have hstarts : StartsLeaf c rest := by
    by_cases htick : c = '\x27'
    · exact htick ▸ startsLeaf_quote _
    · refine .of_isSign (by simp [isSign, hpunctuation, htick]) ?_
      rintro rfl
      exact absurd rfl hno
  rw [hstarts.cut] at hcut
  obtain ⟨⟨u, behind⟩, hleaf, heq⟩ := Option.map_eq_some_iff.1 hcut
  cases heq
  obtain ⟨hchars, hne⟩ := leaf_chars hleaf
  refine ⟨u, rfl, hne, ?_⟩
  obtain ⟨d, more, hu⟩ := List.exists_cons_of_ne_nil hne
  rw [hu] at hchars ⊢
  obtain ⟨rfl, -⟩ := List.cons.inj hchars
  exact hno

/-! ## What stands behind a quote -/

/-- The marks of quoted literals that a lifetime's name may look like. -/
def wordQuotes : List (List Char) :=
  [['r', '\x22'], ['b', '\x22'], ['b', 'r', '\x22'], ['c', '\x22'], ['c', 'r', '\x22']]

theorem mem_wordQuotes {mark rest : List Char} (h : mark ∈ markedQuotes)
    (hname : startsLifetimeName (mark ++ rest)) : mark ∈ wordQuotes := by
  have hquotes : ∀ mark ∈ markedQuotes,
      mark ∈ wordQuotes ∨ startsLifetimeName (mark ++ rest) = false := by
    simp only [markedQuotes, List.forall_mem_cons]
    exact ⟨.inl (by decide), .inr rfl, .inr rfl, .inl (by decide), .inr rfl, .inl (by decide),
      .inr rfl, .inl (by decide), .inl (by decide), .inr rfl, List.forall_mem_nil _⟩
  refine (hquotes mark h).resolve_right fun hno => ?_
  rw [hno] at hname
  cases hname

theorem startsLifetimeName_mark {mark : List Char} (h : mark ∈ wordQuotes) (rest : List Char) :
    startsLifetimeName (mark ++ rest) := by
  simp only [wordQuotes, List.mem_cons, List.not_mem_nil, or_false] at h
  rcases h with rfl | rfl | rfl | rfl | rfl <;> rfl

theorem singleEnd_mark {mark : List Char} (h : mark ∈ wordQuotes) (rest : List Char) :
    QuotedKind.text.singleEnd (mark ++ rest) = none := by
  simp only [wordQuotes, List.mem_cons, List.not_mem_nil, or_false] at h
  rcases h with rfl | rfl | rfl | rfl | rfl <;> rfl

theorem takesQuote_literal {text : String} {c : Char} {more : List Char}
    (htext : text.toList = c :: more) (hc : Text.isIdentStart c)
    (hend : literalEnd text.toList = some []) (hname : startsLifetimeName (text.toList ++ after)) :
    (TokenTree.literal text).TakesQuote := by
  have hne {d : Char} (hd : d ∈ Text.marks) : c ≠ d :=
    Text.ne_of_isIdentContinue (Text.isIdentContinue_of_isIdentStart hc) hd
  obtain ⟨mark, hmark, behind, hbehind⟩ : ∃ mark ∈ markedQuotes, mark <+: text.toList := by
    rw [htext] at hend ⊢
    exact exists_mark (hne (by decide)) (hne (by decide))
      (fun hdigit => Text.not_isIdentStart_of_isDigit hdigit hc) hend
  rw [← hbehind, List.append_assoc] at hname
  have hword := mem_wordQuotes hmark hname
  refine takesQuote_of_lifetime fun rest _ => ?_
  rw [TokenTree.chars, ← hbehind, List.append_assoc]
  exact ⟨singleEnd_mark hword _, startsLifetimeName_mark hword _⟩

theorem exists_start (h : startsLifetimeName cs) :
    ∃ c rest, cs = c :: rest ∧ Text.isIdentStart c := by
  have hend : identEnd cs ≠ none := by
    intro hnone
    rw [startsLifetimeName, hnone] at h
    cases h
  unfold identEnd at hend
  split at hend
  · exact ⟨'r', _, rfl, rfl⟩
  · obtain ⟨behind, hbehind⟩ := Option.ne_none_iff_exists'.1 hend
    obtain ⟨c, rest, rfl, hc, -⟩ := plainIdentEnd_eq_some.1 hbehind
    exact ⟨c, rest, rfl, hc⟩

/-- Behind the quote of a lifetime stands a token that the quote takes. -/
theorem takesQuote_of_cut {found : List Lexeme} (hname : startsLifetimeName cs)
    (hcut : cut cs = some (found, after)) :
    ∃ u, found = [.tree u] ∧ u.gap = [' '] ∧ u.TakesQuote := by
  obtain ⟨c, rest, rfl, hc⟩ := exists_start hname
  have hcontinue := Text.isIdentContinue_of_isIdentStart hc
  rw [(StartsLeaf.of_isIdentContinue hcontinue).cut] at hcut
  obtain ⟨⟨u, behind⟩, hleaf, heq⟩ := Option.map_eq_some_iff.1 hcut
  cases heq
  refine ⟨u, rfl, ?_⟩
  rcases leaf_eq_some hleaf with ⟨hend, rfl⟩ | hpunctuation | ⟨hend, rfl⟩
  · have htext := textBefore_literal hend
    obtain ⟨hchars, hne⟩ := leaf_chars hleaf
    rw [TokenTree.chars] at hchars hne
    obtain ⟨d, more, hmore⟩ := List.exists_cons_of_ne_nil hne
    have hd : c = d := by
      rw [hmore] at hchars
      exact (List.cons.inj hchars).1
    rw [hchars] at hname
    exact ⟨rfl, takesQuote_literal hmore (hd ▸ hc) htext hname⟩
  · rw [punctuation_eq_none hcontinue] at hpunctuation
    cases hpunctuation
  · exact ⟨rfl, (textBefore_ident hend).takesQuote⟩

/-! ## Tokens -/

theorem spelled_docAttribute (text : List Char) (inner : Bool) :
    Spelled (docAttribute text inner) := by
  have hdoc : plainIdentEnd "doc".toList = some [] := by cbv
  have hbody : Spelled (word "doc" ++ op "=" ++ [stringLiteral (String.ofList text)]) := by
    refine ((spelled_word (standsAlone_word hdoc)).append (spelled_op (by decide))).append ?_
    rw [stringLiteral_eq]
    exact .literal (stringLiteral_eq _ ▸ standsAlone_stringLiteral _) .nil
  refine ((spelled_op (by decide)).append ?_).append hbody.inGroup
  split
  · exact spelled_op (by decide)
  · exact .nil

/-- **A single token can be written**, or it can with whatever is cut behind it. -/
theorem spelled_of_cut (h : cut cs = some ([.tree t], after)) :
    Spelled [t] ∨ after ≠ [] ∧ ∀ found rest, cut after = some (found, rest) →
      ∃ u, found = [.tree u] ∧ ∀ us, Spelled (u :: us) → Spelled (t :: u :: us) := by
  rcases leaf_of_cut h with ⟨-, rfl⟩ | ⟨hleaf, -⟩
  · exact .inl (.literal standsAlone_error .nil)
  rcases leaf_eq_some hleaf with ⟨hend, rfl⟩ | hpunctuation | ⟨hend, rfl⟩
  · exact .inl (.literal (standsAlone_literal (textBefore_literal hend)) .nil)
  · rcases punctuation_eq_some hpunctuation with ⟨rfl, rfl, hname⟩ | ⟨c, rfl, hc, rfl⟩
    · right
      refine ⟨?_, fun found rest hcut => ?_⟩
      · rintro rfl
        cases hname
      · obtain ⟨u, rfl, hgap, hu⟩ := takesQuote_of_cut hname hcut
        exact ⟨u, rfl, fun us hus => .quote hgap hu hus⟩
    · by_cases hjoint : startsWithPunctuation after
      · rw [if_pos hjoint]
        by_cases hslash : c = '/'
        · right
          subst hslash
          have hstarts : startsWithPunctuation ('/' :: after) := by
            unfold punctuation at hpunctuation
            split_ifs at hpunctuation with hstarts
            exact hstarts
          refine ⟨?_, fun found rest hcut => ?_⟩
          · rintro rfl
            cases hjoint
          · obtain ⟨u, rfl, hu⟩ := followSlash_of_cut hstarts hjoint hcut
            exact ⟨u, rfl, fun us hus => .joint hc (fun _ => hu.append us) hus⟩
        · exact .inl (.joint hc (fun h => absurd h hslash) .nil)
      · rw [if_neg hjoint]
        exact .inl (.alone hc .nil)
  · exact .inl (spelled_word (textBefore_ident hend).standsAlone)

/-! ## Lexemes -/

/-- Lexemes between whose brackets stand tokens that can be written. -/
inductive SpelledLexemes : List Lexeme → Prop
  | nil : SpelledLexemes []
  | opening {d : Delimiter} {ls : List Lexeme} : SpelledLexemes ls →
      SpelledLexemes (.opening d :: ls)
  | closing {d : Delimiter} {ls : List Lexeme} : SpelledLexemes ls →
      SpelledLexemes (.closing d :: ls)
  | trees {t : TokenTree} {ts : Tokens} {ls : List Lexeme} : Spelled (t :: ts) → SpelledLexemes ls →
      SpelledLexemes (.tree t :: (ts.map .tree ++ ls))

/-- **What one step of the lexer finds.** -/
theorem cut_cases {found : List Lexeme} (h : cut cs = some (found, after)) :
    found = [] ∨ (∃ text inner, found = (docAttribute text inner).map .tree) ∨
      (∃ d, found = [.opening d]) ∨ (∃ d, found = [.closing d]) ∨ ∃ t, found = [.tree t] := by
  rcases cs with _ | ⟨c, rest⟩
  · cases h
  rw [cut] at h
  split at h
  · cases h
    exact .inl rfl
  split at h
  · split_ifs at h
    cases h
    exact .inr (.inl ⟨_, _, rfl⟩)
  split at h
  · cases h
    exact .inl rfl
  split at h
  · cases h
    exact .inr (.inr (.inr (.inr ⟨_, rfl⟩)))
  split at h
  · cases h
    exact .inr (.inr (.inl ⟨_, rfl⟩))
  · cases h
    exact .inr (.inr (.inr (.inl ⟨_, rfl⟩)))
  · obtain ⟨⟨t, behind⟩, -, heq⟩ := Option.map_eq_some_iff.1 h
    cases heq
    exact .inr (.inr (.inr (.inr ⟨t, rfl⟩)))

theorem SpelledLexemes.cons_tree {u : TokenTree} {ls : List Lexeme}
    (h : SpelledLexemes (.tree u :: ls))
    (hjoin : ∀ us, Spelled (u :: us) → Spelled (t :: u :: us)) :
    SpelledLexemes (.tree t :: .tree u :: ls) := by
  cases h with
  | @trees _ us ls hus hls => exact .trees (hjoin us hus) hls

theorem SpelledLexemes.append {ts : Tokens} {ls : List Lexeme} (hts : Spelled ts)
    (hls : SpelledLexemes ls) : SpelledLexemes (ts.map .tree ++ ls) := by
  cases ts with
  | nil => exact hls
  | cons t ts => exact .trees hts hls

theorem lexemesWithin_cons {fuel : Nat} {c : Char} {ls : List Lexeme}
    (h : lexemesWithin (fuel + 1) (c :: cs) = some ls) : ∃ found after more,
      cut (c :: cs) = some (found, after) ∧ lexemesWithin fuel after = some more ∧
        ls = found ++ more := by
  obtain ⟨⟨found, after⟩, hcut, hrest⟩ := Option.bind_eq_some_iff.1 h
  obtain ⟨more, hmore, heq⟩ := Option.bind_eq_some_iff.1 hrest
  exact ⟨found, after, more, hcut, hmore, (Option.some.inj heq).symm⟩

theorem spelledLexemes_within : ∀ {fuel : Nat} {cs : List Char} {ls : List Lexeme},
    lexemesWithin fuel cs = some ls → SpelledLexemes ls
  | fuel, [], ls, h => by
    rw [lexemesWithin] at h
    cases h
    exact .nil
  | 0, c :: cs, ls, h => by cases h
  | fuel + 1, c :: cs, ls, h => by
    obtain ⟨found, after, more, hcut, hmore, rfl⟩ := lexemesWithin_cons h
    have hspelled := spelledLexemes_within hmore
    rcases cut_cases hcut with rfl | ⟨text, inner, rfl⟩ | ⟨d, rfl⟩ | ⟨d, rfl⟩ | ⟨t, rfl⟩
    · exact hspelled
    · exact .append (spelled_docAttribute text inner) hspelled
    · exact .opening hspelled
    · exact .closing hspelled
    · rcases spelled_of_cut hcut with ht | ⟨hsome, hnext⟩
      · exact .append ht hspelled
      · -- The token behind is in the same group, and it is cut first of what is left.
        obtain ⟨d, behind, rfl⟩ := List.exists_cons_of_ne_nil hsome
        cases fuel with
        | zero => cases hmore
        | succ fuel =>
          obtain ⟨first, left, others, hfirst, -, rfl⟩ := lexemesWithin_cons hmore
          obtain ⟨u, rfl, hjoin⟩ := hnext first left hfirst
          exact hspelled.cons_tree hjoin

/-! ## Nesting -/

theorem nest_trees (opened : List (Delimiter × Tokens)) (ls : List Lexeme) :
    ∀ (done ts : Tokens),
      nest opened done (ts.map .tree ++ ls) = nest opened (ts.reverse ++ done) ls
  | done, [] => rfl
  | done, t :: ts => by
    have hnext : nest opened done (.tree t :: (ts.map .tree ++ ls)) =
        nest opened (t :: done) (ts.map .tree ++ ls) := by
      rw [nest]
    rw [List.map_cons, List.cons_append, hnext, nest_trees, List.reverse_cons, List.append_assoc,
      List.singleton_append]

/-- **Nesting keeps tokens that can be written**, also those before the groups that are open. -/
theorem SpelledLexemes.nest {ls : List Lexeme} (h : SpelledLexemes ls) :
    ∀ {opened : List (Delimiter × Tokens)} {done ts : Tokens},
      (∀ frame ∈ opened, Spelled frame.2.reverse) → Spelled done.reverse →
        nest opened done ls = some ts → Spelled ts := by
  induction h with
  | nil =>
    intro opened done ts _ hdone h
    cases opened with
    | nil =>
      cases h
      exact hdone
    | cons => cases h
  | @opening d ls _ ih =>
    intro opened done ts hopened hdone h
    have hbody : Spelled ([] : Tokens).reverse := .nil
    rw [Source.nest] at h
    exact ih (List.forall_mem_cons.2 ⟨hdone, hopened⟩) hbody h
  | @closing e ls _ ih =>
    intro opened done ts hopened hdone h
    rcases opened with _ | ⟨⟨d, outer⟩, opened⟩
    · cases h
    · obtain ⟨houter, hopened⟩ := List.forall_mem_cons.1 hopened
      rw [Source.nest] at h
      split_ifs at h
      refine ih hopened ?_ h
      rw [List.reverse_cons]
      exact houter.append (.group hdone .nil)
  | @trees t us ls hus _ ih =>
    intro opened done ts hopened hdone h
    have hnext := nest_trees opened ls done (t :: us)
    rw [List.map_cons, List.cons_append] at hnext
    rw [hnext] at h
    refine ih hopened ?_ h
    rw [List.reverse_append, List.reverse_reverse]
    exact hdone.append hus

/-- **Tokens of a text can be written.** -/
theorem spelled_of_tokenize {text : String} {ts : Tokens} (h : tokenize text = some ts) :
    Spelled ts := by
  obtain ⟨ls, hls, hnest⟩ := Option.bind_eq_some_iff.1 h
  have hdone : Spelled ([] : Tokens).reverse := .nil
  exact (spelledLexemes_within hls).nest (List.forall_mem_nil _) hdone hnest

end GraphRepo.Source

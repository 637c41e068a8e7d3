import Mathlib
import GraphRepo.Proofs.Cypher.FirstToken

/-!
# The grammar of query texts

The scanner is one reading of a grammar of parsing expressions: alternatives are tried in order, a
repetition takes all it can get and gives nothing back, and what an abandoned alternative reported
is forgotten. Such an expression may refuse a text, or not come to an end. The expression for whole
queries does neither: it takes every text as a list of tokens, those which the scanner cuts.
-/

namespace GraphRepo.Cypher

/-! ## Parsing expressions -/

/-- A parsing expression. -/
inductive Peg
  | text (cs : List Char)
  /-- One character of a class. -/
  | one (p : Char → Bool)
  | atEnd
  | seq (first second : Peg)
  | choice (first second : Peg)
  | many (e : Peg)
  /-- Nothing, where the expression does not match. -/
  | absent (e : Peg)
  /-- What the expression takes, reported as a name. -/
  | named (e : Peg)

/-- The names that are reported and the text that is left, or that the text is refused. -/
abbrev Peg.Answer := Option (List (List Char) × List Char)

/-- **What a parsing expression answers on a text.** Where it would not come to an end it has no
answer. -/
inductive Peg.Answers : Peg → List Char → Answer → Prop
  | text {cs input rest : List Char} : input = cs ++ rest →
    Answers (.text cs) input (some ([], rest))
  | text_refused {cs input : List Char} : ¬ cs <+: input → Answers (.text cs) input none
  | one {p : Char → Bool} {c : Char} (rest : List Char) : p c →
    Answers (.one p) (c :: rest) (some ([], rest))
  | one_refused {p : Char → Bool} {input : List Char} : input.head?.all (!p ·) →
    Answers (.one p) input none
  | atEnd : Answers .atEnd [] (some ([], []))
  | atEnd_refused {input : List Char} : input ≠ [] → Answers .atEnd input none
  | seq {e f : Peg} {input middle rest : List Char} {ns ms : List (List Char)} :
    Answers e input (some (ns, middle)) → Answers f middle (some (ms, rest)) →
    Answers (.seq e f) input (some (ns ++ ms, rest))
  | seq_refused_first {e f : Peg} {input : List Char} : Answers e input none →
    Answers (.seq e f) input none
  | seq_refused_second {e f : Peg} {input middle : List Char} {ns : List (List Char)} :
    Answers e input (some (ns, middle)) → Answers f middle none → Answers (.seq e f) input none
  | choice_first {e f : Peg} {input rest : List Char} {ns : List (List Char)} :
    Answers e input (some (ns, rest)) → Answers (.choice e f) input (some (ns, rest))
  | choice_second {e f : Peg} {input : List Char} {r : Answer} : Answers e input none →
    Answers f input r → Answers (.choice e f) input r
  | many_stop {e : Peg} {input : List Char} : Answers e input none →
    Answers (.many e) input (some ([], input))
  | many_step {e : Peg} {input middle rest : List Char} {ns ms : List (List Char)} :
    Answers e input (some (ns, middle)) → Answers (.many e) middle (some (ms, rest)) →
    Answers (.many e) input (some (ns ++ ms, rest))
  | absent {e : Peg} {input : List Char} : Answers e input none →
    Answers (.absent e) input (some ([], input))
  | absent_refused {e : Peg} {input rest : List Char} {ns : List (List Char)} :
    Answers e input (some (ns, rest)) → Answers (.absent e) input none
  | named {e : Peg} {input name rest : List Char} {ns : List (List Char)} :
    Answers e input (some (ns, rest)) → input = name ++ rest →
    Answers (.named e) input (some ([name], rest))
  | named_refused {e : Peg} {input : List Char} : Answers e input none →
    Answers (.named e) input none

namespace Peg

/-- **A parsing expression has at most one answer.** -/
theorem Answers.unique {e : Peg} {input : List Char} {r r' : Answer} (h : e.Answers input r)
    (h' : e.Answers input r') : r = r' := by
  -- The rules for one expression differ in what a part of it answers, and that part has one answer.
  induction h generalizing r' with
  | text hinput =>
    cases h' with
    | text hinput' => rw [List.append_cancel_left (hinput.symm.trans hinput')]
    | text_refused hno => exact absurd ⟨_, hinput.symm⟩ hno
  | text_refused hno =>
    cases h' with
    | text hinput => exact absurd ⟨_, hinput.symm⟩ hno
    | text_refused => rfl
  | one rest hp =>
    cases h' with
    | one => rfl
    | one_refused hno => simp [hp] at hno
  | one_refused hno =>
    cases h' with
    | one rest hp => simp [hp] at hno
    | one_refused => rfl
  | atEnd =>
    cases h' with
    | atEnd => rfl
    | atEnd_refused hne => exact absurd rfl hne
  | atEnd_refused hne =>
    cases h' with
    | atEnd => exact absurd rfl hne
    | atEnd_refused => rfl
  | seq _ _ ihe ihf =>
    cases h' with
    | seq he' hf' =>
      cases ihe he'
      cases ihf hf'
      rfl
    | seq_refused_first he' => cases ihe he'
    | seq_refused_second he' hf' =>
      cases ihe he'
      cases ihf hf'
  | seq_refused_first _ ihe =>
    cases h' with
    | seq he' hf' => cases ihe he'
    | seq_refused_first => rfl
    | seq_refused_second => rfl
  | seq_refused_second _ _ ihe ihf =>
    cases h' with
    | seq he' hf' =>
      cases ihe he'
      cases ihf hf'
    | seq_refused_first => rfl
    | seq_refused_second => rfl
  | choice_first _ ihe =>
    cases h' with
    | choice_first he' => exact ihe he'
    | choice_second he' hf' => cases ihe he'
  | choice_second _ _ ihe ihf =>
    cases h' with
    | choice_first he' => cases ihe he'
    | choice_second he' hf' => exact ihf hf'
  | many_stop _ ihe =>
    cases h' with
    | many_stop => rfl
    | many_step he' hmany' => cases ihe he'
  | many_step _ _ ihe ihmany =>
    cases h' with
    | many_stop he' => cases ihe he'
    | many_step he' hmany' =>
      cases ihe he'
      cases ihmany hmany'
      rfl
  | absent _ ihe =>
    cases h' with
    | absent => rfl
    | absent_refused he' => cases ihe he'
  | absent_refused _ ihe =>
    cases h' with
    | absent he' => cases ihe he'
    | absent_refused => rfl
  | named _ hinput ihe =>
    cases h' with
    | named he' hinput' =>
      cases ihe he'
      rw [List.append_cancel_right (hinput.symm.trans hinput')]
    | named_refused he' => cases ihe he'
  | named_refused _ ihe =>
    cases h' with
    | named he' => cases ihe he'
    | named_refused => rfl

/-! ## The expressions of the grammar -/

def any : Peg := .one fun _ => true

/-- A character where an expression does not match. -/
def anyBut (stop : Peg) : Peg := .seq (.absent stop) any

def upTo (stop : Peg) : Peg := .many (anyBut stop)

def atLeastOne (e : Peg) : Peg := .seq e (.many e)

def newline : Peg := .choice (.text ['\n']) (.choice (.text ['\r', '\n']) (.text ['\r']))

def lineComment : Peg := .seq (.text ['/', '/']) (upTo newline)

def blockComment : Peg :=
  .seq (.text ['/', '*']) (.seq (upTo (.text ['*', '/'])) (.choice (.text ['*', '/']) .atEnd))

/-- What stands between quotes: a backslash with the character after it, or any character but the
quote. -/
def inQuotes (quote : Char) : Peg :=
  .many (.choice (.seq (.text ['\\']) any) (anyBut (.text [quote])))

def quoted (quote : Char) : Peg := .seq (.text [quote]) (.seq (inQuotes quote) (.text [quote]))

def escapedName : Peg :=
  .seq (.text [backtick]) (.seq (upTo (.text [backtick])) (.text [backtick]))

def nameChar : Peg := .choice (.one Char.isAlphanum) (.text ['_'])

def nameInBackticks : Peg :=
  .seq (.text [backtick])
    (.seq (.named (atLeastOne (anyBut (.text [backtick])))) (.text [backtick]))

def parameter : Peg :=
  .seq (.text ['$']) (.choice (.named (atLeastOne nameChar)) nameInBackticks)

def string : Peg := .choice (quoted '\x27') (quoted '\x22')

def token : Peg :=
  .choice lineComment (.choice blockComment (.choice string (.choice escapedName
    (.choice parameter any))))

/-- The grammar of a whole query, read from its start. -/
def query : Peg := .seq (.many token) .atEnd

/-! ## Single characters -/

theorem text_cons (c : Char) (rest : List Char) :
    (Peg.text [c]).Answers (c :: rest) (some ([], rest)) := .text rfl

theorem text_ne {c d : Char} {cs rest : List Char} (h : d ≠ c) :
    (Peg.text (c :: cs)).Answers (d :: rest) none :=
  .text_refused fun hprefix => h (List.cons_prefix_cons.1 hprefix).1.symm

theorem text_nil {c : Char} {cs : List Char} : (Peg.text (c :: cs)).Answers [] none :=
  .text_refused fun hprefix => by cases List.prefix_nil.1 hprefix

theorem any_cons (c : Char) (rest : List Char) : any.Answers (c :: rest) (some ([], rest)) :=
  .one rest rfl

theorem any_nil : any.Answers [] none := .one_refused rfl

variable {stop : Peg}

theorem anyBut_cons {c : Char} {rest : List Char} (h : stop.Answers (c :: rest) none) :
    (anyBut stop).Answers (c :: rest) (some ([], rest)) := .seq (.absent h) (any_cons c rest)

theorem anyBut_refused {input rest : List Char} {ns : List (List Char)}
    (h : stop.Answers input (some (ns, rest))) : (anyBut stop).Answers input none :=
  .seq_refused_first (.absent_refused h)

theorem anyBut_nil (h : stop.Answers [] none) : (anyBut stop).Answers [] none :=
  .seq_refused_second (.absent h) any_nil

/-- A run ends where its end matches for the first time, or where the text ends. -/
theorem upTo_append {after : List Char} (hafter : (anyBut stop).Answers after none) :
    ∀ body : List Char, (∀ c post, c :: post <:+ body → stop.Answers (c :: post ++ after) none) →
      (upTo stop).Answers (body ++ after) (some ([], after))
  | [], _ => .many_stop hafter
  | c :: body, h => by
    refine .many_step (anyBut_cons (h c body (List.suffix_refl _))) (upTo_append hafter body ?_)
    exact fun d post hpost => h d post (hpost.trans (List.suffix_cons c body))

/-! ## Comments -/

theorem newline_refused {c : Char} {rest : List Char} (h : isLineBreak c = false) :
    newline.Answers (c :: rest) none := by
  simp only [isLineBreak, Bool.or_eq_false_iff, decide_eq_false_iff_not] at h
  exact .choice_second (text_ne h.1) (.choice_second (text_ne h.2) (text_ne h.2))

theorem newline_nil : newline.Answers [] none :=
  .choice_second text_nil (.choice_second text_nil text_nil)

theorem newline_cons {c : Char} {rest : List Char} (h : isLineBreak c) :
    ∃ after, newline.Answers (c :: rest) (some ([], after)) := by
  simp only [isLineBreak, Bool.or_eq_true, decide_eq_true_eq] at h
  obtain rfl | rfl := h
  · exact ⟨rest, .choice_first (text_cons '\n' rest)⟩
  · by_cases hnext : ['\r', '\n'] <+: '\r' :: rest
    · obtain ⟨after, hafter⟩ := hnext
      exact ⟨after, .choice_second (text_ne (by decide)) (.choice_first (.text hafter.symm))⟩
    · exact ⟨rest, .choice_second (text_ne (by decide))
        (.choice_second (.text_refused hnext) (text_cons '\r' rest))⟩

theorem upTo_newline (input : List Char) :
    (upTo newline).Answers input (some ([], input.dropWhile (!isLineBreak ·))) := by
  have hafter : (anyBut newline).Answers (input.dropWhile (!isLineBreak ·)) none := by
    cases hdrop : input.dropWhile (!isLineBreak ·) with
    | nil => exact anyBut_nil newline_nil
    | cons c rest =>
      have hc := List.head?_dropWhile_not (!isLineBreak ·) input
      rw [hdrop] at hc
      obtain ⟨after, hmatch⟩ := @newline_cons c rest (by simpa using hc)
      exact anyBut_refused hmatch
  have hrun := upTo_append hafter (input.takeWhile (!isLineBreak ·)) fun c post hpost => ?_
  · rwa [List.takeWhile_append_dropWhile] at hrun
  · have hc := List.mem_takeWhile_imp (hpost.subset List.mem_cons_self)
    exact newline_refused (by simpa using hc)

theorem commentEnd_refused {body after : List Char} (hbody : HasNoCommentEnd body)
    (hafter : after.head? ≠ some '/') {c : Char} {post : List Char} (hpost : c :: post <:+ body) :
    (Peg.text ['*', '/']).Answers (c :: post ++ after) none := by
  refine .text_refused fun hprefix => ?_
  cases post with
  | nil =>
    obtain ⟨more, hmore⟩ := hprefix
    simp only [List.cons_append, List.nil_append, List.cons.injEq] at hmore
    exact hafter (by rw [← hmore.2]; rfl)
  | cons d post =>
    simp only [List.cons_append, List.cons_prefix_cons] at hprefix
    obtain ⟨rfl, rfl, -⟩ := hprefix
    exact hbody ((List.prefix_append ['*', '/'] post).isInfix.trans hpost.isInfix)

theorem upTo_commentEnd {body : List Char} (hbody : HasNoCommentEnd body) (after : List Char) :
    (upTo (.text ['*', '/'])).Answers (body ++ '*' :: '/' :: after)
      (some ([], '*' :: '/' :: after)) :=
  upTo_append (anyBut_refused (.text rfl)) body fun _ _ => commentEnd_refused hbody (by simp)

theorem upTo_commentEnd_open {body : List Char} (hbody : HasNoCommentEnd body) :
    (upTo (.text ['*', '/'])).Answers body (some ([], [])) := by
  have hend : (anyBut (.text ['*', '/'])).Answers [] none := anyBut_nil text_nil
  have hrun := upTo_append hend body fun _ _ => commentEnd_refused hbody (by simp)
  rwa [List.append_nil] at hrun

/-! ## Strings -/

variable {quote : Char}

theorem inQuotes_quote (hq : quote ≠ '\\') (rest : List Char) :
    (inQuotes quote).Answers (quote :: rest) (some ([], quote :: rest)) :=
  .many_stop (.choice_second (.seq_refused_first (text_ne hq))
    (anyBut_refused (text_cons quote rest)))

theorem inQuotes_nil : (inQuotes quote).Answers [] (some ([], [])) :=
  .many_stop (.choice_second (.seq_refused_first text_nil) (anyBut_nil text_nil))

theorem inQuotes_cons {c : Char} {rest left : List Char} (hb : c ≠ '\\' ∨ rest = [])
    (hc : c ≠ quote) (h : (inQuotes quote).Answers rest (some ([], left))) :
    (inQuotes quote).Answers (c :: rest) (some ([], left)) := by
  have hpair : (Peg.seq (.text ['\\']) any).Answers (c :: rest) none := by
    by_cases hslash : c = '\\'
    · obtain rfl := hb.resolve_left fun hne => hne hslash
      subst hslash
      exact .seq_refused_second (text_cons '\\' []) any_nil
    · exact .seq_refused_first (text_ne hslash)
  exact .many_step (.choice_second hpair (anyBut_cons (text_ne hc))) h

theorem inQuotes_pair (c : Char) {rest left : List Char}
    (h : (inQuotes quote).Answers rest (some ([], left))) :
    (inQuotes quote).Answers ('\\' :: c :: rest) (some ([], left)) :=
  .many_step (.choice_first (.seq (text_cons '\\' (c :: rest)) (any_cons c rest))) h

/-- What is inside a string is taken up to the quote that closes it, or to the end of the text. -/
theorem inQuotes_answers (hq : quote ≠ '\\') (input : List Char) :
    (inQuotes quote).Answers input
      (some ([], ((quotedBody quote input).map fun p => quote :: p.2).getD [])) := by
  fun_induction quotedBody quote input with
  | case1 => exact inQuotes_nil
  | case2 => exact inQuotes_quote hq []
  | case3 c hc => exact inQuotes_cons (.inr rfl) hc inQuotes_nil
  | case4 d rest ih =>
    rw [Option.map_map]
    exact inQuotes_pair d ih
  | case5 d rest hb => exact inQuotes_quote hq (d :: rest)
  | case6 c d rest hb hc ih =>
    rw [Option.map_map]
    exact inQuotes_cons (.inl hb) hc ih

theorem quoted_refused_of_open (hq : isQuote quote) {rest : List Char}
    (hopen : ∀ body after, rest = body ++ quote :: after → ¬ QuotedText quote body) :
    (Peg.quoted quote).Answers (quote :: rest) none := by
  have hnone : quotedBody quote rest = none := by
    refine Option.eq_none_iff_forall_ne_some.2 fun p hp => ?_
    obtain ⟨hrest, hbody⟩ := quotedText_of_quotedBody rest hp
    exact hopen p.1 p.2 hrest hbody
  have hrun := inQuotes_answers (ne_backslash_of_isQuote hq) rest
  rw [hnone] at hrun
  exact .seq_refused_second (text_cons quote rest) (.seq_refused_second hrun text_nil)

theorem quoted_answers (hq : isQuote quote) {body : List Char} (hbody : QuotedText quote body)
    (after : List Char) :
    (Peg.quoted quote).Answers (quote :: (body ++ quote :: after)) (some ([], after)) := by
  have hrun := inQuotes_answers (ne_backslash_of_isQuote hq) (body ++ quote :: after)
  rw [quotedBody_of_quotedText (ne_backslash_of_isQuote hq) hbody] at hrun
  exact .seq (text_cons quote _) (.seq hrun (text_cons quote after))

/-! ## Names -/

theorem backtick_refused {body after : List Char} (hbody : backtick ∉ body) {c : Char}
    {post : List Char} (hpost : c :: post <:+ body) :
    (Peg.text [backtick]).Answers (c :: post ++ after) none := by
  refine text_ne fun hc => hbody ?_
  rw [← hc]
  exact hpost.subset List.mem_cons_self

theorem upTo_backtick {body : List Char} (hbody : backtick ∉ body) (after : List Char) :
    (upTo (.text [backtick])).Answers (body ++ backtick :: after)
      (some ([], backtick :: after)) :=
  upTo_append (anyBut_refused (text_cons backtick after)) body fun _ _ => backtick_refused hbody

theorem upTo_backtick_open {body : List Char} (hbody : backtick ∉ body) :
    (upTo (.text [backtick])).Answers body (some ([], [])) := by
  have hend : (anyBut (.text [backtick])).Answers [] none := anyBut_nil text_nil
  have hrun := upTo_append hend body fun _ _ => backtick_refused hbody
  rwa [List.append_nil] at hrun

theorem escapedName_answers {body : List Char} (hbody : backtick ∉ body) (after : List Char) :
    escapedName.Answers (backtick :: (body ++ backtick :: after)) (some ([], after)) :=
  .seq (text_cons backtick _) (.seq (upTo_backtick hbody after) (text_cons backtick after))

theorem escapedName_refused {rest : List Char} (hopen : backtick ∉ rest) :
    escapedName.Answers (backtick :: rest) none :=
  .seq_refused_second (text_cons backtick rest)
    (.seq_refused_second (upTo_backtick_open hopen) text_nil)

theorem nameChar_answers {c : Char} (h : isNameChar c) (rest : List Char) :
    nameChar.Answers (c :: rest) (some ([], rest)) := by
  by_cases hc : c.isAlphanum
  · exact .choice_first (.one rest hc)
  · obtain rfl : c = '_' := by simpa [isNameChar, hc] using h
    exact .choice_second (.one_refused (by simp [hc])) (text_cons '_' rest)

theorem nameChar_refused {input : List Char} (h : input.head?.all (!isNameChar ·)) :
    nameChar.Answers input none := by
  cases input with
  | nil => exact .choice_second (.one_refused rfl) text_nil
  | cons c rest =>
    have hc : c.isAlphanum = false ∧ c ≠ '_' := by simpa [isNameChar] using h
    exact .choice_second (.one_refused (by simp [hc.1])) (text_ne hc.2)

theorem many_nameChar : ∀ input : List Char,
    (Peg.many nameChar).Answers input (some ([], input.dropWhile isNameChar))
  | [] => .many_stop (nameChar_refused rfl)
  | c :: rest => by
    by_cases hc : isNameChar c
    · rw [List.dropWhile_cons_of_pos hc]
      exact .many_step (nameChar_answers hc rest) (many_nameChar rest)
    · rw [List.dropWhile_cons_of_neg hc]
      exact .many_stop (nameChar_refused (by simpa using hc))

theorem plainName_answers {input : List Char} (h : input.takeWhile isNameChar ≠ []) :
    (Peg.named (atLeastOne nameChar)).Answers input
      (some ([input.takeWhile isNameChar], input.dropWhile isNameChar)) := by
  have hrun : (atLeastOne nameChar).Answers input (some ([], input.dropWhile isNameChar)) := by
    cases input with
    | nil => exact absurd rfl h
    | cons c rest =>
      have hc : isNameChar c := by
        by_contra hno
        exact h (List.takeWhile_cons_of_neg hno)
      rw [List.dropWhile_cons_of_pos hc]
      exact .seq (nameChar_answers hc rest) (many_nameChar rest)
  exact .named hrun List.takeWhile_append_dropWhile.symm

theorem plainName_refused {input : List Char} (h : input.takeWhile isNameChar = []) :
    (Peg.named (atLeastOne nameChar)).Answers input none := by
  refine .named_refused (.seq_refused_first (nameChar_refused ?_))
  cases input with
  | nil => rfl
  | cons c rest =>
    by_cases hc : isNameChar c
    · simp [hc] at h
    · simpa using hc

theorem backtickRun_answers {body after : List Char} (hne : body ≠ []) (hbody : backtick ∉ body)
    (hafter : (anyBut (.text [backtick])).Answers after none) :
    (Peg.named (atLeastOne (anyBut (.text [backtick])))).Answers (body ++ after)
      (some ([body], after)) := by
  obtain ⟨c, body, rfl⟩ := List.exists_cons_of_ne_nil hne
  have hrest : backtick ∉ body := List.not_mem_of_not_mem_cons hbody
  have hrun : (upTo (.text [backtick])).Answers (body ++ after) (some ([], after)) :=
    upTo_append hafter body fun _ _ => backtick_refused hrest
  exact .named (.seq (anyBut_cons (backtick_refused hbody (List.suffix_refl _))) hrun) rfl

theorem nameInBackticks_answers {body : List Char} (hne : body ≠ []) (hbody : backtick ∉ body)
    (after : List Char) :
    nameInBackticks.Answers (backtick :: (body ++ backtick :: after)) (some ([body], after)) :=
  .seq (text_cons backtick _)
    (.seq (backtickRun_answers hne hbody (anyBut_refused (text_cons backtick after)))
      (text_cons backtick after))

theorem nameInBackticks_refused {input : List Char}
    (h : ∀ body after, input = backtick :: (body ++ backtick :: after) → backtick ∉ body →
      body = []) : nameInBackticks.Answers input none := by
  rcases input with _ | ⟨c, rest⟩
  · exact .seq_refused_first text_nil
  by_cases hc : c = backtick
  · subst hc
    refine .seq_refused_second (text_cons backtick rest) ?_
    by_cases hm : backtick ∈ rest
    · obtain ⟨body, after, rfl, hbody⟩ := List.eq_append_cons_of_mem hm
      obtain rfl := h body after rfl hbody
      exact .seq_refused_first (.named_refused (.seq_refused_first
        (anyBut_refused (text_cons backtick after))))
    · by_cases hne : rest = []
      · subst hne
        exact .seq_refused_first (.named_refused (.seq_refused_first (anyBut_nil text_nil)))
      · have hrun := backtickRun_answers hne hm (anyBut_nil text_nil)
        rw [List.append_nil] at hrun
        exact .seq_refused_second hrun text_nil
  · exact .seq_refused_first (text_ne hc)

/-! ## Tokens -/

section

variable {c : Char} {rest : List Char} {r : Answer}

theorem string_of_quoted (hq : isQuote c) (h : (quoted c).Answers (c :: rest) r) :
    string.Answers (c :: rest) r := by
  obtain rfl | rfl : c = '\x27' ∨ c = '\x22' := by simpa [isQuote] using hq
  · cases r with
    | some p => exact .choice_first h
    | none => exact .choice_second h (.seq_refused_first (text_ne (by decide)))
  · exact .choice_second (.seq_refused_first (text_ne (by decide))) h

theorem string_refused (hq : isQuote c = false) : string.Answers (c :: rest) none := by
  simp only [isQuote, Bool.or_eq_false_iff, decide_eq_false_iff_not] at hq
  exact .choice_second (.seq_refused_first (text_ne hq.1)) (.seq_refused_first (text_ne hq.2))

theorem token_of_no_comment (hline : ¬ ['/', '/'] <+: c :: rest)
    (hblock : ¬ ['/', '*'] <+: c :: rest)
    (h : (Peg.choice string (.choice escapedName (.choice parameter any))).Answers (c :: rest) r) :
    token.Answers (c :: rest) r :=
  .choice_second (.seq_refused_first (.text_refused hline))
    (.choice_second (.seq_refused_first (.text_refused hblock)) h)

theorem token_of_ne_slash (hc : c ≠ '/')
    (h : (Peg.choice string (.choice escapedName (.choice parameter any))).Answers (c :: rest) r) :
    token.Answers (c :: rest) r := by
  refine token_of_no_comment (fun hprefix => hc ?_) (fun hprefix => hc ?_) h
  · exact (List.cons_prefix_cons.1 hprefix).1.symm
  · exact (List.cons_prefix_cons.1 hprefix).1.symm

theorem any_of_refused (hstring : string.Answers (c :: rest) none)
    (hname : escapedName.Answers (c :: rest) none)
    (hparameter : parameter.Answers (c :: rest) none) :
    (Peg.choice string (.choice escapedName (.choice parameter any))).Answers (c :: rest)
      (some ([], rest)) :=
  .choice_second hstring (.choice_second hname (.choice_second hparameter (any_cons c rest)))

end

/-- **The grammar takes the token that the scanner cuts**, and reports the name that it binds. -/
theorem token_of_firstToken {c : Char} {rest : List Char} {t : Token} {after : List Char}
    (h : FirstToken c rest t after) : token.Answers (c :: rest) (some (t.binds.toList, after)) := by
  cases h with
  | lineComment hc hr =>
    subst hc hr
    exact .choice_first (.seq (.text rfl) (upTo_newline _))
  | blockComment hc hr hn =>
    subst hc hr
    exact .choice_second (.seq_refused_first (.text_refused (by simp)))
      (.choice_first (.seq (.text rfl)
        (.seq (upTo_commentEnd hn after) (.choice_first (.text rfl)))))
  | openComment hc hr hn =>
    subst hc hr
    exact .choice_second (.seq_refused_first (.text_refused (by simp)))
      (.choice_first (.seq (.text rfl)
        (.seq (upTo_commentEnd_open hn) (.choice_second text_nil .atEnd))))
  | slash hc hslash hstar =>
    subst hc
    -- Comments are tried first, and behind this slash none starts.
    refine token_of_no_comment ?_ ?_ (any_of_refused (string_refused rfl)
      (.seq_refused_first (text_ne (by decide))) (.seq_refused_first (text_ne (by decide))))
    · rintro ⟨more, hmore⟩
      exact hslash (by rw [← (List.cons.inj hmore).2]; rfl)
    · rintro ⟨more, hmore⟩
      exact hstar (by rw [← (List.cons.inj hmore).2]; rfl)
  | quoted hq hr hn =>
    subst hr
    refine token_of_ne_slash ?_ (.choice_first (string_of_quoted hq (quoted_answers hq hn after)))
    rintro rfl
    cases hq
  | strayQuote hq hn =>
    have hne {d : Char} (hd : isQuote d = false) : c ≠ d := by
      rintro rfl
      rw [hq] at hd
      cases hd
    exact token_of_ne_slash (hne rfl)
      (any_of_refused (string_of_quoted hq (quoted_refused_of_open hq hn))
        (.seq_refused_first (text_ne (hne rfl))) (.seq_refused_first (text_ne (hne rfl))))
  | escapedName hc hr hn =>
    subst hc hr
    exact token_of_ne_slash (by decide)
      (.choice_second (string_refused rfl) (.choice_first (escapedName_answers hn after)))
  | strayBacktick hc hn =>
    subst hc
    exact token_of_ne_slash (by decide) (any_of_refused (string_refused rfl)
      (escapedName_refused hn) (.seq_refused_first (text_ne (by decide))))
  | parameter hc hname =>
    subst hc
    exact token_of_ne_slash (by decide) (.choice_second (string_refused rfl)
      (.choice_second (.seq_refused_first (text_ne (by decide)))
        (.choice_first (.seq (text_cons '$' rest) (.choice_first (plainName_answers hname))))))
  | escapedParameter hc hr hne hn =>
    subst hc hr
    exact token_of_ne_slash (by decide) (.choice_second (string_refused rfl)
      (.choice_second (.seq_refused_first (text_ne (by decide)))
        (.choice_first (.seq (text_cons '$' _)
          (.choice_second (plainName_refused rfl) (nameInBackticks_answers hne hn after))))))
  | dollar hc hname hempty =>
    subst hc
    exact token_of_ne_slash (by decide) (any_of_refused (string_refused rfl)
      (.seq_refused_first (text_ne (by decide)))
      (.seq_refused_second (text_cons '$' rest)
        (.choice_second (plainName_refused hname) (nameInBackticks_refused hempty))))
  | plain hc =>
    simp only [isOpener, Bool.or_eq_false_iff, decide_eq_false_iff_not] at hc
    obtain ⟨⟨⟨hslash, hquote⟩, hbacktick⟩, hdollar⟩ := hc
    exact token_of_ne_slash hslash (any_of_refused (string_refused hquote)
      (.seq_refused_first (text_ne hbacktick)) (.seq_refused_first (text_ne hdollar)))

theorem token_nil : token.Answers [] none := by
  have hstart {c : Char} {cs : List Char} {e : Peg} :
      (Peg.seq (.text (c :: cs)) e).Answers [] none := .seq_refused_first text_nil
  exact .choice_second hstart (.choice_second hstart (.choice_second (.choice_second hstart hstart)
    (.choice_second hstart (.choice_second hstart any_nil))))

/-- **Tokens are taken up to the end of the text.** -/
theorem many_token (text : List Char) :
    (Peg.many token).Answers text (some ((scan text).filterMap Token.binds, [])) := by
  fun_induction scan text with
  | case1 => exact .many_stop token_nil
  | case2 c rest ih =>
    have hcons : ((nextToken c rest).1 :: scan (nextToken c rest).2).filterMap Token.binds =
        (nextToken c rest).1.binds.toList ++ (scan (nextToken c rest).2).filterMap Token.binds := by
      rw [List.filterMap_cons]
      cases (nextToken c rest).1.binds <;> rfl
    rw [hcons]
    exact .many_step (token_of_firstToken (firstToken_nextToken c rest)) ih

/-- **The grammar takes every text** and reports the names of the scanner's tokens. It has no other
answer. -/
theorem query_answers {text : List Char} {r : Answer} :
    query.Answers text r ↔ r = some ((scan text).filterMap Token.binds, []) := by
  have hall : query.Answers text (some ((scan text).filterMap Token.binds ++ [], [])) :=
    .seq (many_token text) .atEnd
  rw [List.append_nil] at hall
  constructor
  · exact fun h => h.unique hall
  · rintro rfl
    exact hall

end Peg

end GraphRepo.Cypher

import GraphRepo.Proofs.Cypher.Scan

/-!
# The first token of a text

What the scanner cuts from the start of a text, said without the scanner: which constructs are
recognized there, where they end, and when a sign that may open one stands by itself.
-/

namespace GraphRepo.Cypher

/-- Whether a construct may start with the character. -/
def isOpener (c : Char) : Bool := c = '/' || isQuote c || c = backtick || c = '$'

/-- **The tokens that a text may start with**: `FirstToken c rest t after` says that `t` is cut from
`c :: rest` and leaves `after`. -/
inductive FirstToken (c : Char) (rest : List Char) : Token → List Char → Prop
  | lineComment {text : List Char} : c = '/' → rest = '/' :: text →
    FirstToken c rest (.lineComment (text.takeWhile (!isLineBreak ·)))
      (text.dropWhile (!isLineBreak ·))
  | blockComment {body after : List Char} : c = '/' → rest = '*' :: (body ++ '*' :: '/' :: after) →
    HasNoCommentEnd body → FirstToken c rest (.blockComment body true) after
  | openComment {body : List Char} : c = '/' → rest = '*' :: body → HasNoCommentEnd body →
    FirstToken c rest (.blockComment body false) []
  /-- No comment starts. -/
  | slash : c = '/' → rest.head? ≠ some '/' → rest.head? ≠ some '*' →
    FirstToken c rest (.other c) rest
  | quoted {body after : List Char} : isQuote c → rest = body ++ c :: after → QuotedText c body →
    FirstToken c rest (.quoted c body) after
  /-- No quote closes the string. -/
  | strayQuote : isQuote c → (∀ body after, rest = body ++ c :: after → ¬ QuotedText c body) →
    FirstToken c rest (.other c) rest
  | escapedName {body after : List Char} : c = backtick → rest = body ++ backtick :: after →
    backtick ∉ body → FirstToken c rest (.escapedName body) after
  | strayBacktick : c = backtick → backtick ∉ rest → FirstToken c rest (.other c) rest
  | parameter : c = '$' → rest.takeWhile isNameChar ≠ [] →
    FirstToken c rest (.parameter (rest.takeWhile isNameChar)) (rest.dropWhile isNameChar)
  | escapedParameter {body after : List Char} : c = '$' →
    rest = backtick :: (body ++ backtick :: after) → body ≠ [] → backtick ∉ body →
    FirstToken c rest (.escapedParameter body) after
  /-- No name follows, or an empty one in backticks, or a backtick that is not closed. -/
  | dollar : c = '$' → rest.takeWhile isNameChar = [] →
    (∀ body after, rest = backtick :: (body ++ backtick :: after) → backtick ∉ body → body = []) →
    FirstToken c rest (.other c) rest
  | plain : isOpener c = false → FirstToken c rest (.other c) rest

/-! ## The scanner finds them -/

theorem scan_cons (c : Char) (rest : List Char) :
    scan (c :: rest) = (nextToken c rest).1 :: scan (nextToken c rest).2 := by rw [scan]

theorem nextToken_lineComment (text : List Char) :
    nextToken '/' ('/' :: text) =
      (.lineComment (text.takeWhile (!isLineBreak ·)), text.dropWhile (!isLineBreak ·)) := rfl

theorem nextToken_openBlock (text : List Char) :
    nextToken '/' ('*' :: text) = match blockBody text with
      | (body, some after) => (.blockComment body true, after)
      | (body, none) => (.blockComment body false, []) := rfl

theorem nextToken_blockComment {text body after : List Char}
    (h : blockBody text = (body, some after)) :
    nextToken '/' ('*' :: text) = (.blockComment body true, after) := by
  rw [nextToken_openBlock, h]

theorem nextToken_openComment {text body : List Char} (h : blockBody text = (body, none)) :
    nextToken '/' ('*' :: text) = (.blockComment body false, []) := by
  rw [nextToken_openBlock, h]

theorem nextToken_slash {d : Char} (hd : d ≠ '/') (hs : d ≠ '*') (rest : List Char) :
    nextToken '/' (d :: rest) = (.other '/', d :: rest) := by
  simp [nextToken, hd, hs]

theorem nextToken_quote {quote : Char} (hq : isQuote quote) (rest : List Char) :
    nextToken quote rest = match quotedBody quote rest with
      | some (body, after) => (.quoted quote body, after)
      | none => (.other quote, rest) := by
  obtain rfl | rfl : quote = '\x27' ∨ quote = '\x22' := by simpa [isQuote] using hq
  · rfl
  · rfl

theorem nextToken_quoted {quote : Char} {rest body after : List Char} (hq : isQuote quote)
    (h : quotedBody quote rest = some (body, after)) :
    nextToken quote rest = (.quoted quote body, after) := by
  rw [nextToken_quote hq, h]

theorem nextToken_strayQuote {quote : Char} {rest : List Char} (hq : isQuote quote)
    (h : quotedBody quote rest = none) : nextToken quote rest = (.other quote, rest) := by
  rw [nextToken_quote hq, h]

theorem nextToken_backtick (rest : List Char) :
    nextToken backtick rest = match backtickBody rest with
      | some (body, after) => (.escapedName body, after)
      | none => (.other backtick, rest) := rfl

theorem nextToken_escapedName {rest body after : List Char}
    (h : backtickBody rest = some (body, after)) :
    nextToken backtick rest = (.escapedName body, after) := by
  rw [nextToken_backtick, h]

theorem nextToken_strayBacktick {rest : List Char} (h : backtickBody rest = none) :
    nextToken backtick rest = (.other backtick, rest) := by
  rw [nextToken_backtick, h]

theorem nextToken_parameter {rest : List Char} (h : rest.takeWhile isNameChar ≠ []) :
    nextToken '$' rest = (.parameter (rest.takeWhile isNameChar), rest.dropWhile isNameChar) := by
  obtain ⟨n, name, hn⟩ := List.exists_cons_of_ne_nil h
  unfold nextToken
  rw [if_neg (by decide), if_neg (by decide), if_neg (by decide), if_pos rfl, hn]

/-- A parameter in backticks ends where its text does, unless it has none. -/
theorem nextToken_dollar_backtick (rest : List Char) :
    nextToken '$' (backtick :: rest) = match backtickBody rest with
      | some (n :: name, after) => (.escapedParameter (n :: name), after)
      | _ => (.other '$', backtick :: rest) := rfl

theorem nextToken_escapedParameter {text body after : List Char} (hb : body ≠ [])
    (h : backtickBody text = some (body, after)) :
    nextToken '$' (backtick :: text) = (.escapedParameter body, after) := by
  obtain ⟨n, name, rfl⟩ := List.exists_cons_of_ne_nil hb
  rw [nextToken_dollar_backtick, h]

/-- The sign of a parameter with an empty name behind it, or one that is not closed. -/
theorem nextToken_strayDollar {rest : List Char}
    (h : ∀ n name after, backtickBody rest ≠ some (n :: name, after)) :
    nextToken '$' (backtick :: rest) = (.other '$', backtick :: rest) := by
  rw [nextToken_dollar_backtick]
  rcases hr : backtickBody rest with _ | ⟨_ | ⟨n, name⟩, after⟩
  · rfl
  · rfl
  · exact absurd hr (h n name after)

theorem nextToken_dollar {d : Char} (hn : isNameChar d = false) (hd : d ≠ backtick)
    (rest : List Char) : nextToken '$' (d :: rest) = (.other '$', d :: rest) := by
  have hname : (d :: rest).takeWhile isNameChar = [] := by simp [hn]
  unfold nextToken
  rw [if_neg (by decide), if_neg (by decide), if_neg (by decide), if_pos rfl, hname]
  exact if_neg hd

theorem nextToken_other {c : Char} (h : isOpener c = false) (rest : List Char) :
    nextToken c rest = (.other c, rest) := by
  simp only [isOpener, isQuote, Bool.or_eq_false_iff, decide_eq_false_iff_not] at h
  obtain ⟨⟨⟨hslash, hquote⟩, hbacktick⟩, hdollar⟩ := h
  unfold nextToken
  rw [if_neg hslash, if_neg (not_or.2 hquote), if_neg hbacktick, if_neg hdollar]

theorem nextToken_of_firstToken {c : Char} {rest : List Char} {t : Token} {after : List Char}
    (h : FirstToken c rest t after) : nextToken c rest = (t, after) := by
  cases h with
  | lineComment hc hr =>
    subst hc hr
    exact nextToken_lineComment _
  | blockComment hc hr hn =>
    subst hc hr
    exact nextToken_blockComment ((blockBody_eq_some _).2 ⟨rfl, hn⟩)
  | openComment hc hr hn =>
    subst hc hr
    exact nextToken_openComment ((blockBody_eq_none _).2 ⟨rfl, hn⟩)
  | slash hc hslash hstar =>
    subst hc
    cases rest with
    | nil => rfl
    | cons d rest => exact nextToken_slash (by simpa using hslash) (by simpa using hstar) rest
  | quoted hq hr hn =>
    exact nextToken_quoted hq ((quotedBody_eq_some (ne_backslash_of_isQuote hq)).2 ⟨hr, hn⟩)
  | strayQuote hq hn =>
    refine nextToken_strayQuote hq (Option.eq_none_iff_forall_ne_some.2 fun p hp => ?_)
    obtain ⟨hr, hbody⟩ := quotedText_of_quotedBody rest hp
    exact hn p.1 p.2 hr hbody
  | escapedName hc hr hn =>
    subst hc
    exact nextToken_escapedName (backtickBody_eq_some.2 ⟨hr, hn⟩)
  | strayBacktick hc hn =>
    subst hc
    refine nextToken_strayBacktick (Option.eq_none_iff_forall_ne_some.2 fun p hp => ?_)
    obtain ⟨hr, -⟩ := backtickBody_eq_some.1 hp
    exact hn (hr ▸ by simp)
  | parameter hc hname =>
    subst hc
    exact nextToken_parameter hname
  | escapedParameter hc hr hne hn =>
    subst hc hr
    exact nextToken_escapedParameter hne (backtickBody_eq_some.2 ⟨rfl, hn⟩)
  | dollar hc hname hempty =>
    subst hc
    cases rest with
    | nil => rfl
    | cons d text =>
      by_cases hd : d = backtick
      · subst hd
        refine nextToken_strayDollar fun n name after h => ?_
        obtain ⟨hr, hn⟩ := backtickBody_eq_some.1 h
        cases hempty _ _ (by rw [hr]) hn
      · refine nextToken_dollar ?_ hd text
        cases hc : isNameChar d
        · rfl
        · simp [hc] at hname
  | plain hc => exact nextToken_other hc rest

theorem exists_firstToken (c : Char) (rest : List Char) : ∃ t after, FirstToken c rest t after := by
  by_cases hslash : c = '/'
  · by_cases hline : rest.head? = some '/'
    · obtain ⟨text, rfl⟩ := List.head?_eq_some_iff.1 hline
      exact ⟨_, _, .lineComment hslash rfl⟩
    · by_cases hblock : rest.head? = some '*'
      · obtain ⟨text, rfl⟩ := List.head?_eq_some_iff.1 hblock
        rcases hb : blockBody text with ⟨body, _ | after⟩
        · obtain ⟨rfl, hn⟩ := (blockBody_eq_none text).1 hb
          exact ⟨_, _, .openComment hslash rfl hn⟩
        · obtain ⟨rfl, hn⟩ := (blockBody_eq_some text).1 hb
          exact ⟨_, _, .blockComment hslash rfl hn⟩
      · exact ⟨_, _, .slash hslash hline hblock⟩
  by_cases hq : isQuote c
  · by_cases hbody : ∃ body after, rest = body ++ c :: after ∧ QuotedText c body
    · obtain ⟨body, after, hr, hn⟩ := hbody
      exact ⟨_, _, .quoted hq hr hn⟩
    · exact ⟨_, _, .strayQuote hq fun body after hr hn => hbody ⟨body, after, hr, hn⟩⟩
  by_cases hb : c = backtick
  · by_cases hm : backtick ∈ rest
    · obtain ⟨body, after, hr, hn⟩ := List.eq_append_cons_of_mem hm
      exact ⟨_, _, .escapedName hb hr hn⟩
    · exact ⟨_, _, .strayBacktick hb hm⟩
  by_cases hdollar : c = '$'
  · by_cases hname : rest.takeWhile isNameChar = []
    · by_cases hbody : ∃ body after, rest = backtick :: (body ++ backtick :: after) ∧
          backtick ∉ body ∧ body ≠ []
      · obtain ⟨body, after, hr, hn, hne⟩ := hbody
        exact ⟨_, _, .escapedParameter hdollar hr hne hn⟩
      · refine ⟨_, _, .dollar hdollar hname fun body after hr hn => ?_⟩
        exact Classical.byContradiction fun hne => hbody ⟨body, after, hr, hn, hne⟩
    · exact ⟨_, _, .parameter hdollar hname⟩
  · exact ⟨_, _, .plain (by simp [isOpener, hslash, hq, hb, hdollar])⟩

/-- **The scanner cuts exactly the first token.** -/
theorem firstToken_iff {c : Char} {rest : List Char} {t : Token} {after : List Char} :
    FirstToken c rest t after ↔ nextToken c rest = (t, after) := by
  refine ⟨nextToken_of_firstToken, fun h => ?_⟩
  obtain ⟨u, more, hu⟩ := exists_firstToken c rest
  rw [nextToken_of_firstToken hu] at h
  cases h
  exact hu

theorem firstToken_nextToken (c : Char) (rest : List Char) :
    FirstToken c rest (nextToken c rest).1 (nextToken c rest).2 := firstToken_iff.2 rfl

theorem scan_of_firstToken {c : Char} {rest : List Char} {t : Token} {after : List Char}
    (h : FirstToken c rest t after) : scan (c :: rest) = t :: scan after := by
  rw [scan_cons, nextToken_of_firstToken h]

/-- **A token and what follows it are the text it was cut from.** -/
theorem FirstToken.text_append {c : Char} {rest : List Char} {t : Token} {after : List Char}
    (h : FirstToken c rest t after) : t.text ++ after = c :: rest := by
  cases h with
  | lineComment hc hr => simp [Token.text, hc, hr]
  | blockComment hc hr hn => simp [Token.text, hc, hr]
  | openComment hc hr hn => simp [Token.text, hc, hr]
  | quoted hq hr hn => simp [Token.text, hr]
  | escapedName hc hr hn => simp [Token.text, hc, hr]
  | parameter hc hname => simp [Token.text, hc]
  | escapedParameter hc hr hne hn => simp [Token.text, hc, hr]
  | _ => rfl

/-! ## Places outside of all tokens -/

/-- **A place of a text that is in none of its tokens**: `Reaches text ts rest` says that `ts` are
cut from the text one after the other, and `rest` is left. -/
inductive Reaches : List Char → List Token → List Char → Prop
  | here (rest : List Char) : Reaches rest [] rest
  | behind {c : Char} {cs after rest : List Char} {t : Token} {ts : List Token} :
    FirstToken c cs t after → Reaches after ts rest → Reaches (c :: cs) (t :: ts) rest

theorem Reaches.scan_eq {text rest : List Char} {ts : List Token} (h : Reaches text ts rest) :
    scan text = ts ++ scan rest := by
  induction h with
  | here rest => rfl
  | behind hfirst _ ih => rw [scan_of_firstToken hfirst, ih, List.cons_append]

end GraphRepo.Cypher

import GraphRepo.Cypher.Token

/-!
# What is inside a token

The text between the marks of a string, an escaped name or a comment, said without the scanner: a
mark is closed where its first closing mark stands, and nowhere else.
-/

namespace GraphRepo.Cypher

/-! ## Strings -/

def isQuote (c : Char) : Bool := c = '\x27' || c = '\x22'

theorem ne_backslash_of_isQuote {c : Char} (h : isQuote c) : c ≠ '\\' := by
  rintro rfl
  exact absurd h (by decide)

/-- A text inside quotes: backslashes stand in front of a character, and the quote itself stands
only behind a backslash. -/
inductive QuotedText (quote : Char) : List Char → Prop
  | nil : QuotedText quote []
  | pair (c : Char) {rest : List Char} :
    QuotedText quote rest → QuotedText quote ('\\' :: c :: rest)
  | plain {c : Char} {rest : List Char} :
    c ≠ '\\' → c ≠ quote → QuotedText quote rest → QuotedText quote (c :: rest)

theorem quotedBody_plain {quote c : Char} (hb : c ≠ '\\') (hc : c ≠ quote) (rest : List Char) :
    quotedBody quote (c :: rest) = (quotedBody quote rest).map fun p => (c :: p.1, p.2) := by
  cases rest with
  | nil => simp [quotedBody, hc]
  | cons d rest => simp [quotedBody, hb, hc]

theorem quotedBody_quote {quote : Char} (hq : quote ≠ '\\') (rest : List Char) :
    quotedBody quote (quote :: rest) = some ([], rest) := by
  cases rest with
  | nil => simp [quotedBody]
  | cons d rest => simp [quotedBody, hq]

theorem quotedBody_of_quotedText {quote : Char} (hq : quote ≠ '\\') {body : List Char}
    (h : QuotedText quote body) (after : List Char) :
    quotedBody quote (body ++ quote :: after) = some (body, after) := by
  induction h with
  | nil => exact quotedBody_quote hq after
  | pair c _ ih => simp [quotedBody, ih]
  | plain hb hc _ ih => rw [List.cons_append, quotedBody_plain hb hc, ih]; rfl

theorem quotedText_of_quotedBody {quote : Char} (cs : List Char) :
    ∀ {body after : List Char}, quotedBody quote cs = some (body, after) →
      cs = body ++ quote :: after ∧ QuotedText quote body := by
  fun_induction quotedBody quote cs with
  | case1 => intro body after h; cases h
  | case2 => intro body after h; cases h; exact ⟨rfl, .nil⟩
  | case3 => intro body after h; cases h
  | case4 d rest ih =>
    intro body after h
    obtain ⟨⟨body', after'⟩, hq, heq⟩ := Option.map_eq_some_iff.1 h
    cases heq
    obtain ⟨rfl, ht⟩ := ih hq
    exact ⟨rfl, .pair d ht⟩
  | case5 => intro body after h; cases h; exact ⟨rfl, .nil⟩
  | case6 c d rest hb hc ih =>
    intro body after h
    obtain ⟨⟨body', after'⟩, hq, heq⟩ := Option.map_eq_some_iff.1 h
    cases heq
    obtain ⟨hcs, ht⟩ := ih hq
    rw [hcs]
    exact ⟨rfl, .plain hb hc ht⟩

/-- **A string is closed by the first quote behind a text that may stand inside it.** -/
theorem quotedBody_eq_some {quote : Char} (hq : quote ≠ '\\') {cs body after : List Char} :
    quotedBody quote cs = some (body, after) ↔
      cs = body ++ quote :: after ∧ QuotedText quote body := by
  constructor
  · exact quotedText_of_quotedBody cs
  · rintro ⟨rfl, h⟩
    exact quotedBody_of_quotedText hq h after

/-! ## Escaped names -/

/-- **An escaped name is closed by the first backtick.** -/
theorem backtickBody_eq_some : ∀ {cs body after : List Char},
    backtickBody cs = some (body, after) ↔ cs = body ++ backtick :: after ∧ backtick ∉ body
  | [], body, after => by simp [backtickBody]
  | c :: rest, body, after => by
    rw [backtickBody]
    by_cases hc : c = backtick
    · subst hc
      rw [if_pos rfl]
      constructor
      · intro h
        cases h
        exact ⟨rfl, List.not_mem_nil⟩
      · rintro ⟨h, hn⟩
        cases body with
        | nil => cases h; rfl
        | cons b body =>
          simp only [List.cons_append, List.cons.injEq] at h
          exact absurd (h.1 ▸ List.mem_cons_self) hn
    · rw [if_neg hc, Option.map_eq_some_iff]
      constructor
      · rintro ⟨⟨body', after'⟩, h, heq⟩
        cases heq
        obtain ⟨rfl, hn⟩ := backtickBody_eq_some.1 h
        exact ⟨rfl, by simp [hn, Ne.symm hc]⟩
      · rintro ⟨h, hn⟩
        cases body with
        | nil => cases h; exact absurd rfl hc
        | cons b body =>
          simp only [List.cons_append, List.cons.injEq] at h
          obtain ⟨rfl, rfl⟩ := h
          have hbody : backtick ∉ body := fun hm => hn (List.mem_cons_of_mem _ hm)
          exact ⟨(body, after), backtickBody_eq_some.2 ⟨rfl, hbody⟩, rfl⟩

/-! ## Comments -/

/-- No `*/` stands in the text. -/
def HasNoCommentEnd (body : List Char) : Prop := ¬ ['*', '/'] <:+: body

theorem hasNoCommentEnd_cons {c : Char} {body : List Char} :
    HasNoCommentEnd (c :: body) ↔ ¬ (c = '*' ∧ body.head? = some '/') ∧ HasNoCommentEnd body := by
  unfold HasNoCommentEnd
  rw [List.infix_cons_iff, not_or]
  refine and_congr_left fun _ => not_congr ?_
  cases body with
  | nil => simp
  | cons d ds => simp [List.cons_prefix_cons, eq_comm]

/-- **A block comment is closed by the first `*/`.** -/
theorem blockBody_eq_some (cs : List Char) : ∀ {body after : List Char},
    blockBody cs = (body, some after) ↔
      cs = body ++ '*' :: '/' :: after ∧ HasNoCommentEnd body := by
  fun_induction blockBody cs with
  | case1 rest =>
    intro body after
    constructor
    · intro h
      cases h
      exact ⟨rfl, by simp [HasNoCommentEnd]⟩
    · rintro ⟨h, hn⟩
      cases body with
      | nil => cases h; rfl
      | cons b body =>
        simp only [List.cons_append, List.cons.injEq] at h
        obtain ⟨rfl, h⟩ := h
        -- A body that goes on behind the first end would have that end in it.
        refine absurd ⟨rfl, ?_⟩ (hasNoCommentEnd_cons.1 hn).1
        cases body with
        | nil => simp at h
        | cons d ds => simp only [List.cons_append, List.cons.injEq] at h; simp [← h.1]
  | case2 => intro body after; simp
  | case3 c rest hne body' after' hb ih =>
    intro body after
    rw [hb] at ih
    constructor
    · intro h
      cases h
      obtain ⟨rfl, hn⟩ := ih.1 rfl
      refine ⟨rfl, hasNoCommentEnd_cons.2 ⟨?_, hn⟩⟩
      rintro ⟨rfl, hh⟩
      cases body' with
      | nil => cases hh
      | cons d ds => cases hh; exact hne _ rfl rfl
    · rintro ⟨h, hn⟩
      cases body with
      | nil => cases h; exact absurd rfl (hne after rfl)
      | cons b body =>
        simp only [List.cons_append, List.cons.injEq] at h
        obtain ⟨rfl, h⟩ := h
        have := ih.2 ⟨h, (hasNoCommentEnd_cons.1 hn).2⟩
        cases this
        rfl

theorem blockBody_eq_none (cs : List Char) : ∀ {body : List Char},
    blockBody cs = (body, none) ↔ body = cs ∧ HasNoCommentEnd cs := by
  fun_induction blockBody cs with
  | case1 rest =>
    intro body
    simp [hasNoCommentEnd_cons]
  | case2 =>
    intro body
    constructor
    · intro h
      cases h
      exact ⟨rfl, by simp [HasNoCommentEnd]⟩
    · rintro ⟨rfl, -⟩
      rfl
  | case3 c rest hne body' after' hb ih =>
    intro body
    rw [hb] at ih
    have hstart : ¬ (c = '*' ∧ rest.head? = some '/') := by
      rintro ⟨rfl, hh⟩
      cases rest with
      | nil => cases hh
      | cons d ds => cases hh; exact hne _ rfl rfl
    rw [hasNoCommentEnd_cons]
    constructor
    · intro h
      cases h
      obtain ⟨rfl, hn⟩ := ih.1 rfl
      exact ⟨rfl, hstart, hn⟩
    · rintro ⟨rfl, -, hn⟩
      have := ih.2 ⟨rfl, hn⟩
      cases this
      rfl

end GraphRepo.Cypher

/-!
# Tokens of a query

The lexical view of a Cypher statement that is enough to find its `$` parameters: comments, string
literals, escaped names, parameters, and every other character by itself. A construct that is opened
and not closed is no token, so its opener stands by itself and the text after it is scanned on; a
block comment alone may also be closed by the end of the text. The tokens of a text, put together,
are the text.
-/

namespace GraphRepo.Cypher

def backtick : Char := '\x60'

/-- One token of a query text. -/
inductive Token
  /-- `//` and the text up to a line break. -/
  | lineComment (body : List Char)
  /-- `/*`, a text without `*/`, and `*/` unless the text ends there. -/
  | blockComment (body : List Char) (closed : Bool)
  /-- A string in single or double quotes; a backslash keeps the character after it inside. -/
  | quoted (quote : Char) (body : List Char)
  /-- A name between backticks. -/
  | escapedName (body : List Char)
  /-- `$` and a name of ASCII letters, digits and underscores. -/
  | parameter (name : List Char)
  /-- `$` and a name between backticks. -/
  | escapedParameter (name : List Char)
  /-- Any other character. -/
  | other (c : Char)
  deriving DecidableEq, Repr

def Token.text : Token → List Char
  | .lineComment body => '/' :: '/' :: body
  | .blockComment body closed => '/' :: '*' :: body ++ (if closed then ['*', '/'] else [])
  | .quoted quote body => quote :: body ++ [quote]
  | .escapedName body => backtick :: body ++ [backtick]
  | .parameter name => '$' :: name
  | .escapedParameter name => '$' :: backtick :: name ++ [backtick]
  | .other c => [c]

def Token.binds : Token → Option (List Char)
  | .parameter name => some name
  | .escapedParameter name => some name
  | _ => none

/-- Whether a line comment ends before the character. -/
def isLineBreak (c : Char) : Bool := c = '\n' || c = '\r'

/-- Whether a parameter's name may hold the character without backticks. -/
def isNameChar (c : Char) : Bool := c.isAlphanum || c = '_'

/-- The text up to the first `*/`, and what follows that; without one, the whole text. -/
def blockBody : List Char → List Char × Option (List Char)
  | '*' :: '/' :: rest => ([], some rest)
  | [] => ([], none)
  | c :: rest => let (body, after) := blockBody rest; (c :: body, after)

/-- The text up to the closing quote and what follows it. A backslash takes the next character with
it; at the end of the text it stands by itself. -/
def quotedBody (quote : Char) : List Char → Option (List Char × List Char)
  | [] => none
  | [c] => if c = quote then some ([], []) else none
  | c :: d :: rest =>
    if c = '\\' then (quotedBody quote rest).map fun (body, after) => (c :: d :: body, after)
    else if c = quote then some ([], d :: rest)
    else (quotedBody quote (d :: rest)).map fun (body, after) => (c :: body, after)

/-- The text up to the next backtick and what follows it. -/
def backtickBody : List Char → Option (List Char × List Char)
  | [] => none
  | c :: rest =>
    if c = backtick then some ([], rest)
    else (backtickBody rest).map fun (body, after) => (c :: body, after)

/-- The token that starts with `c` when `rest` follows it, and the text after the token. -/
def nextToken (c : Char) (rest : List Char) : Token × List Char :=
  if c = '/' then
    match rest with
    | '/' :: text =>
      (.lineComment (text.takeWhile (!isLineBreak ·)), text.dropWhile (!isLineBreak ·))
    | '*' :: text =>
      match blockBody text with
      | (body, some after) => (.blockComment body true, after)
      | (body, none) => (.blockComment body false, [])
    | _ => (.other c, rest)
  else if c = '\x27' ∨ c = '\x22' then
    match quotedBody c rest with
    | some (body, after) => (.quoted c body, after)
    | none => (.other c, rest)
  else if c = backtick then
    match backtickBody rest with
    | some (body, after) => (.escapedName body, after)
    | none => (.other c, rest)
  else if c = '$' then
    match rest.takeWhile isNameChar with
    | n :: name => (.parameter (n :: name), rest.dropWhile isNameChar)
    | [] =>
      match rest with
      | d :: text =>
        if d = backtick then
          match backtickBody text with
          | some (n :: name, after) => (.escapedParameter (n :: name), after)
          | _ => (.other c, rest)
        else (.other c, rest)
      | [] => (.other c, rest)
  else (.other c, rest)

theorem length_blockBody (cs : List Char) {p : List Char × Option (List Char)} {after : List Char}
    (h : blockBody cs = p) (ha : p.2 = some after) : after.length < cs.length := by
  fun_induction blockBody cs generalizing p with
  | case1 rest =>
    subst h; simp only [Option.some.injEq] at ha; subst ha; simp only [List.length_cons]; omega
  | case2 => subst h; simp at ha
  | case3 c rest _ body after' hb ih =>
    subst h
    have := ih rfl (by simpa [hb] using ha)
    simp only [List.length_cons]; omega

theorem length_quotedBody (quote : Char) (cs : List Char) {p : List Char × List Char}
    (h : quotedBody quote cs = some p) : p.2.length < cs.length := by
  fun_induction quotedBody quote cs generalizing p with
  | case1 => simp at h
  | case2 => simp at h; subst h; simp
  | case3 => simp at h
  | case4 d rest ih =>
    obtain ⟨q, hq, rfl⟩ := Option.map_eq_some_iff.1 h
    have := ih hq
    simp; omega
  | case5 => simp at h; subst h; simp
  | case6 c d rest _ _ ih =>
    obtain ⟨q, hq, rfl⟩ := Option.map_eq_some_iff.1 h
    have := ih hq
    simp at this ⊢; omega

theorem length_backtickBody (cs : List Char) {p : List Char × List Char}
    (h : backtickBody cs = some p) : p.2.length < cs.length := by
  fun_induction backtickBody cs generalizing p with
  | case1 => simp at h
  | case2 => simp at h; subst h; simp
  | case3 c rest _ ih =>
    obtain ⟨q, hq, rfl⟩ := Option.map_eq_some_iff.1 h
    have := ih hq
    simp; omega

/-- A token takes at least its first character. -/
theorem length_nextToken (c : Char) (rest : List Char) :
    (nextToken c rest).2.length ≤ rest.length := by
  have drop_le (p : Char → Bool) (l : List Char) : (l.dropWhile p).length ≤ l.length :=
    (List.dropWhile_sublist p).length_le
  unfold nextToken
  split
  · split
    · have := drop_le (!isLineBreak ·) ‹_›; simp; omega
    · split
      · have := length_blockBody _ ‹_› rfl; simp; omega
      · simp
    · simp
  · split
    · split
      · have := length_quotedBody _ _ ‹_›; simp at this ⊢; omega
      · simp
    · split
      · split
        · have := length_backtickBody _ ‹_›; simp at this ⊢; omega
        · simp
      · split
        · split
          · exact drop_le _ _
          · split
            · split
              · split
                · have := length_backtickBody _ ‹_›; simp at this ⊢; omega
                · simp
              · simp
            · simp
        · simp

/-- The tokens of a query text. -/
def scan : List Char → List Token
  | [] => []
  | c :: rest => (nextToken c rest).1 :: scan (nextToken c rest).2
termination_by cs => cs.length
decreasing_by have := length_nextToken c rest; simp; omega

end GraphRepo.Cypher

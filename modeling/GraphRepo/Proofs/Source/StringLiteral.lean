import Mathlib
import GraphRepo.Source.Lexer

/-!
# String literals read back

A text that is written as a literal is read back from it, whatever its characters are: each stands
in the literal as itself or as an escape, and the lexer and the reader of values both take the
escape for that one character. So the literal is one token, and the text is its value.
-/

namespace GraphRepo.Source

/-! ## Code points in hexadecimal -/

theorem hexDigit?_digitChar {d : Nat} (h : d < 16) : hexDigit? d.digitChar = some d := by
  have hall : ∀ d : Fin 16, hexDigit? d.val.digitChar = some d.val := by decide
  exact hall ⟨d, h⟩

theorem bracedCodePoint_digit {d : Nat} (h : d < 16) (n : Nat) (rest : List Char) :
    bracedCodePoint n (d.digitChar :: rest) = bracedCodePoint (n * 16 + d) rest := by
  have hne : ∀ d : Fin 16, d.val.digitChar ≠ '\x7d' ∧ d.val.digitChar ≠ '_' := by decide
  obtain ⟨hbrace, hmark⟩ := hne ⟨d, h⟩
  rw [bracedCodePoint, if_neg hbrace, if_neg hmark, hexDigit?_digitChar h]

/-- **The digits of a number are read as the number.** -/
theorem bracedCodePoint_toDigits (n : Nat) : ∀ rest : List Char,
    bracedCodePoint 0 (Nat.toDigits 16 n ++ rest) = bracedCodePoint n rest := by
  induction n using Nat.strongRecOn with
  | ind n ih =>
    intro rest
    by_cases hlt : n < 16
    · rw [Nat.toDigits_of_lt_base hlt, List.singleton_append, bracedCodePoint_digit hlt,
        Nat.zero_mul, Nat.zero_add]
    · have hsmaller : n / 16 < n := by omega
      have hdigit : n % 16 < 16 := by omega
      rw [Nat.toDigits_of_base_le (by decide) (by omega), List.append_assoc, List.singleton_append,
        ih _ hsmaller, bracedCodePoint_digit hdigit, Nat.div_add_mod']

theorem codePointEnd_digit {d : Nat} (h : d < 16) {count : Nat} (hcount : count ≠ 6) (n : Nat)
    (rest : List Char) :
    codePointEnd count n (d.digitChar :: rest) = codePointEnd (count + 1) (n * 16 + d) rest := by
  rw [codePointEnd, hexDigit?_digitChar h]
  exact if_neg hcount

theorem codePointEnd_toDigits (n : Nat) : (Nat.toDigits 16 n).length ≤ 6 → ∀ rest : List Char,
    codePointEnd 0 0 (Nat.toDigits 16 n ++ rest) =
      codePointEnd (Nat.toDigits 16 n).length n rest := by
  induction n using Nat.strongRecOn with
  | ind n ih =>
    intro hlength rest
    by_cases hlt : n < 16
    · rw [Nat.toDigits_of_lt_base hlt, List.singleton_append, codePointEnd_digit hlt (by decide),
        List.length_singleton, Nat.zero_mul, Nat.zero_add n]
    · have hsmaller : n / 16 < n := by omega
      have hdigit : n % 16 < 16 := by omega
      have hsplit := Nat.toDigits_of_base_le (b := 16) (by decide) (by omega : 16 ≤ n)
      rw [hsplit, List.length_append, List.length_singleton] at hlength ⊢
      rw [List.append_assoc, List.singleton_append, ih _ hsmaller (by omega),
        codePointEnd_digit hdigit (by omega), Nat.div_add_mod']

/-- The digits of a character's code point, six at most, are taken up to the brace. -/
theorem codePointEnd_char (c : Char) (rest : List Char) :
    codePointEnd 0 0 (Nat.toDigits 16 c.toNat ++ '\x7d' :: rest) = some (c.toNat, rest) := by
  have hvalid : c.toNat < 0xD800 ∨ 0xDFFF < c.toNat ∧ c.toNat < 0x110000 := c.valid
  have hlength : (Nat.toDigits 16 c.toNat).length ≤ 6 :=
    (Nat.length_toDigits_le_iff (by decide) (by decide)).2 (by omega)
  have hsome : (Nat.toDigits 16 c.toNat).length ≠ 0 := by
    rw [ne_eq, List.length_eq_zero_iff]
    exact Nat.toDigits_ne_nil
  have hbrace : hexDigit? '\x7d' = none := by decide
  rw [codePointEnd_toDigits _ hlength, codePointEnd, hbrace]
  dsimp only
  rw [if_neg hsome, if_neg (by decide), if_pos ⟨rfl, by omega⟩]

/-! ## Characters in a literal -/

/-- The escapes of one character, and what they stand for. -/
def simpleEscapes : List (Char × Char) :=
  [('0', '\x00'), ('t', '\t'), ('r', '\r'), ('n', '\n'), ('\\', '\\'), ('\x22', '\x22')]

/-- **How a character may stand in a literal.** -/
inductive StandsFor (c : Char) : List Char → Prop
  | simple {k : Char} : (k, c) ∈ simpleEscapes → StandsFor c ['\\', k]
  /-- NUL before an octal digit. -/
  | nul : c = '\x00' → StandsFor c ['\\', 'x', '0', '0']
  | codePoint : StandsFor c (Text.unicodeEscape c)
  | itself : c ≠ '\x22' → c ≠ '\\' → c ≠ '\r' → StandsFor c [c]

theorem standsFor_escapeChar (c : Char) : StandsFor c (Text.escapeChar c) := by
  unfold Text.escapeChar
  split_ifs with hnul htab hreturn hline hbackslash hquote hextend hprintable
  · exact .simple (by rw [hnul]; decide)
  · exact .simple (by rw [htab]; decide)
  · exact .simple (by rw [hreturn]; decide)
  · exact .simple (by rw [hline]; decide)
  · exact .simple (by rw [hbackslash]; decide)
  · exact .simple (by rw [hquote]; decide)
  · exact .codePoint
  · exact .itself hquote hbackslash hreturn
  · exact .codePoint

theorem literalBody_cons (c : Char) (rest : List Char) :
    ∃ e, StandsFor c e ∧ literalBody (c :: rest) = e ++ literalBody rest := by
  refine ⟨_, ?_, rfl⟩
  by_cases hnul : c = '\x00'
  · rw [if_pos hnul]
    have hshort : StandsFor c ['\\', '0'] := .simple (by rw [hnul]; decide)
    split
    · split_ifs
      · exact .nul hnul
      · exact hshort
    · exact hshort
  · rw [if_neg hnul]
    exact standsFor_escapeChar c

theorem StandsFor.length_pos {c : Char} {e : List Char} (h : StandsFor c e) : 0 < e.length := by
  cases h <;> simp [Text.unicodeEscape]

theorem length_le_literalBody : ∀ cs : List Char, cs.length ≤ (literalBody cs).length
  | [] => Nat.le_refl _
  | c :: rest => by
    obtain ⟨e, he, hbody⟩ := literalBody_cons c rest
    have hrest := length_le_literalBody rest
    have hpos := he.length_pos
    rw [hbody, List.length_cons, List.length_append]
    omega

/-! ## The value -/

/-- **What stands for a character is read as that character.** -/
theorem StandsFor.cookedStep_append {c : Char} {e : List Char} (h : StandsFor c e)
    (rest : List Char) : cookedStep (e ++ rest) = some (some c, rest) := by
  cases h with
  | @simple k hk =>
    have hall : ∀ p ∈ simpleEscapes, ∀ rest : List Char,
        cookedStep ('\\' :: p.1 :: rest) = some (some p.2, rest) := by
      simp [simpleEscapes, cookedStep]
    exact hall _ hk rest
  | nul hnul =>
    rw [hnul]
    rfl
  | codePoint =>
    have hread : bracedCodePoint 0 (Nat.toDigits 16 c.toNat ++ '\x7d' :: rest) =
        some (c.toNat, rest) := by
      rw [bracedCodePoint_toDigits, bracedCodePoint, if_pos rfl]
    have hescape : Text.unicodeEscape c ++ rest =
        '\\' :: 'u' :: '\x7b' :: (Nat.toDigits 16 c.toNat ++ '\x7d' :: rest) := by
      simp [Text.unicodeEscape]
    rw [hescape]
    simp [cookedStep, hread]
  | itself hquote hbackslash hreturn =>
    simp [cookedStep, hbackslash, hreturn]

theorem cookedBody_literalBody (rest : List Char) : ∀ {cs : List Char} {fuel : Nat},
    cs.length ≤ fuel → cookedBody fuel (literalBody cs ++ '\x22' :: rest) = cs
  | [], 0, _ => rfl
  | [], fuel + 1, _ => rfl
  | c :: cs, 0, h => by cases h
  | c :: cs, fuel + 1, h => by
    obtain ⟨e, he, hbody⟩ := literalBody_cons c cs
    have hrest : cs.length ≤ fuel := Nat.le_of_succ_le_succ h
    rw [hbody, List.append_assoc, cookedBody, he.cookedStep_append]
    exact congrArg (c :: ·) (cookedBody_literalBody rest hrest)

/-! ## The token -/

/-- **What stands for a character is taken by the lexer.** -/
theorem StandsFor.cookedEnd_append {c : Char} {e : List Char} (h : StandsFor c e) (fuel : Nat)
    (rest : List Char) :
    QuotedKind.text.cookedEnd (fuel + 1) (e ++ rest) = QuotedKind.text.cookedEnd fuel rest := by
  cases h with
  | @simple k hk =>
    have hall : ∀ p ∈ simpleEscapes, ∀ rest : List Char,
        QuotedKind.text.cookedEnd (fuel + 1) ('\\' :: p.1 :: rest) =
          QuotedKind.text.cookedEnd fuel rest := by
      simp [simpleEscapes, QuotedKind.cookedEnd, QuotedKind.escapeEnd]
    exact hall _ hk rest
  | nul hnul =>
    rfl
  | codePoint =>
    have hescape : Text.unicodeEscape c ++ rest =
        '\\' :: 'u' :: '\x7b' :: (Nat.toDigits 16 c.toNat ++ '\x7d' :: rest) := by
      simp [Text.unicodeEscape]
    rw [hescape]
    simp [QuotedKind.cookedEnd, QuotedKind.escapeEnd, codePointEnd_char]
  | itself hquote hbackslash hreturn =>
    simp [QuotedKind.cookedEnd, hquote, hbackslash, hreturn, QuotedKind.holds]

theorem cookedEnd_literalBody (rest : List Char) : ∀ {cs : List Char} {fuel : Nat},
    cs.length < fuel →
      QuotedKind.text.cookedEnd fuel (literalBody cs ++ '\x22' :: rest) = some (suffixEnd rest)
  | _, 0, h => absurd h (Nat.not_lt_zero _)
  | [], fuel + 1, _ => rfl
  | c :: cs, fuel + 1, h => by
    obtain ⟨e, he, hbody⟩ := literalBody_cons c cs
    have hrest : cs.length < fuel := Nat.lt_of_succ_lt_succ h
    rw [hbody, List.append_assoc, he.cookedEnd_append]
    exact cookedEnd_literalBody rest hrest

/-- **The lexer takes a literal up to its closing quote**, and a suffix if one follows. -/
theorem literalEnd_literalBody (cs rest : List Char) :
    literalEnd ('\x22' :: (literalBody cs ++ '\x22' :: rest)) = some (suffixEnd rest) := by
  have hlength := length_le_literalBody cs
  have hend : (QuotedKind.text.literalEnd [] ('\x22' :: (literalBody cs ++ '\x22' :: rest))) =
      some (suffixEnd rest) := by
    have hopen : dropText? ([] ++ ['\x22']) ('\x22' :: (literalBody cs ++ '\x22' :: rest)) =
        some (literalBody cs ++ '\x22' :: rest) := rfl
    rw [QuotedKind.literalEnd, hopen, Option.bind_some, cookedEnd_literalBody rest (by
      rw [List.length_append]
      omega)]
    rfl
  rw [literalEnd, hend]
  rfl

/-! ## Literals of texts -/

/-- **A literal of a text.** It is one token, whatever follows it is no part of it but for a
suffix, and its value is the text. -/
structure IsLiteralOf (text literal : String) : Prop where
  token : tokenize literal = some [.literal literal]
  ends : ∀ rest, literalEnd (literal.toList ++ rest) = some (suffixEnd rest)
  value : stringValue? literal = some text

/-- A text as the literal that is written for it. -/
def writtenLiteral (text : String) : String :=
  String.ofList ('\x22' :: literalBody text.toList ++ ['\x22'])

theorem stringLiteral_eq (text : String) :
    stringLiteral text = .literal (writtenLiteral text) := rfl

theorem toList_writtenLiteral (text : String) :
    (writtenLiteral text).toList = '\x22' :: (literalBody text.toList ++ ['\x22']) :=
  String.toList_ofList

theorem literalEnd_written (text : String) (rest : List Char) :
    literalEnd ((writtenLiteral text).toList ++ rest) = some (suffixEnd rest) := by
  rw [toList_writtenLiteral, List.cons_append, List.append_assoc]
  exact literalEnd_literalBody text.toList rest

/-- A quote starts neither white space nor a comment, and is no bracket. -/
theorem cut_quote {rest after : List Char} {t : TokenTree}
    (h : leaf ('\x22' :: rest) = some (t, after)) :
    cut ('\x22' :: rest) = some ([.tree t], after) := by
  have hspace : isSpace '\x22' = false := by decide
  have hdocument : docComment? ('\x22' :: rest) = none := rfl
  have hcomment : plainCommentEnd ('\x22' :: rest) = none := rfl
  have herror : errorLiteral.isPrefixOf ('\x22' :: rest) = false := rfl
  have hopening : openingBracket? '\x22' = none := by decide
  have hclosing : closingBracket? '\x22' = none := by decide
  rw [cut, hspace, hdocument, hcomment, herror, hopening, hclosing, h]
  rfl

/-- A text that is cut once and is then at its end. -/
theorem lexemesWithin_of_cut {cs : List Char} {found : List Lexeme} (hne : cs ≠ [])
    (h : cut cs = some (found, [])) (fuel : Nat) : lexemesWithin (fuel + 1) cs = some found := by
  obtain ⟨c, rest, rfl⟩ := List.exists_cons_of_ne_nil hne
  cases fuel <;> simp [lexemesWithin, h]

/-- **What is written for a text is one token.** -/
theorem tokenize_written (text : String) :
    tokenize (writtenLiteral text) = some [.literal (writtenLiteral text)] := by
  have hchars := toList_writtenLiteral text
  have hend := literalEnd_written text []
  rw [List.append_nil, hchars, suffixEnd, plainIdentEnd, Option.getD_none] at hend
  have hleaf : leaf ('\x22' :: (literalBody text.toList ++ ['\x22'])) =
      some (.literal (writtenLiteral text), []) := by
    rw [leaf, hend, Option.map_some, textBefore, List.length_nil, Nat.sub_zero, List.take_length]
    rfl
  have hlexemes :
      lexemes (writtenLiteral text).toList = some [.tree (.literal (writtenLiteral text))] := by
    rw [lexemes, hchars, List.length_cons]
    exact lexemesWithin_of_cut (List.cons_ne_nil _ _) (cut_quote hleaf) _
  have hmark : dropMark (writtenLiteral text).toList = (writtenLiteral text).toList := by
    rw [hchars]
    rfl
  rw [tokenize, hmark, hlexemes]
  rfl

/-- **What is written for a text has the text as its value.** -/
theorem stringValue?_written (text : String) : stringValue? (writtenLiteral text) = some text := by
  have hbody : cookedBody (literalBody text.toList ++ ['\x22']).length
      (literalBody text.toList ++ ['\x22']) = text.toList := by
    have hlength := length_le_literalBody text.toList
    refine cookedBody_literalBody [] ?_
    rw [List.length_append]
    omega
  rw [stringValue?, toList_writtenLiteral]
  simp only [hbody, String.ofList_toList]

theorem isLiteralOf_written (text : String) : IsLiteralOf text (writtenLiteral text) :=
  ⟨tokenize_written text, literalEnd_written text, stringValue?_written text⟩

example : writtenLiteral "\x001, \u0301" = "\x22\\x001, \\u\x7b301\x7d\x22" := by cbv

end GraphRepo.Source

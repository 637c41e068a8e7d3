import Mathlib
import GraphRepo.Proofs.Repository.FactoryName
import GraphRepo.Proofs.Source.Spelled
import GraphRepo.Proofs.Text.Ranges

/-!
# What the lexer takes from the front of a text

A character decides what kind of token starts with it. Signs are tokens by themselves; a word, a
literal that was written for a text and the name behind a quote end at the first character that
stops them.
-/

namespace GraphRepo

namespace Text

/-- The characters that are white space or a direction mark. -/
def spaces : List Nat :=
  [9, 10, 11, 12, 13, 32, 133, 160, 5760, 8192, 8193, 8194, 8195, 8196, 8197, 8198, 8199, 8200,
    8201, 8202, 8206, 8207, 8232, 8233, 8239, 8287, 12288]

theorem mem_spaces {c : Char} (h : Source.isSpace c) : c.toNat ∈ spaces := by
  have hwithin : within spaces blankRanges [] := by decide
  simp only [Source.isSpace, Bool.or_eq_true, decide_eq_true_iff] at h
  rcases h with (hblank | hleft) | hright
  · exact (inRanges_of_within hwithin hblank).resolve_right (by simp [inRanges])
  · rw [hleft]
    decide
  · rw [hright]
    decide

/-- **What an identifier starts with, it may go on with.** -/
theorem isIdentContinue_of_isIdentStart {c : Char} (h : isIdentStart c) : isIdentContinue c := by
  have hwithin : within [] identStartRanges identContinueRanges := by decide +kernel
  rw [isIdentStart, Bool.or_eq_true, beq_iff_eq] at h
  rcases h with rfl | h
  · rfl
  · exact (inRanges_of_within hwithin h).resolve_left List.not_mem_nil

theorem not_isIdentContinue_of_isSpace {c : Char} (h : Source.isSpace c) : ¬ isIdentContinue c := by
  have hspaces : spaces.all (!inRanges identContinueRanges ·) := by decide +kernel
  simpa [isIdentContinue] using List.all_eq_true.1 hspaces _ (mem_spaces h)

/-- The signs and brackets that no identifier has. -/
def marks : List Char :=
  ['(', ')', '[', ']', '\x7b', '\x7d', '\x22', '\x27', '\\', '~', '!', '@', '#', '$', '%', '^', '&',
    '*', '-', '=', '+', '|', ';', ':', ',', '<', '.', '>', '/', '?']

theorem not_isIdentContinue_of_mem {c : Char} (h : c ∈ marks) : ¬ isIdentContinue c := by
  have hall : marks.all (!isIdentContinue ·) := by cbv
  simpa using List.all_eq_true.1 hall c h

theorem ne_of_isIdentContinue {c d : Char} (hc : isIdentContinue c) (hd : d ∈ marks) : c ≠ d := by
  rintro rfl
  exact not_isIdentContinue_of_mem hd hc

end Text

namespace Source

section Cut

variable {c : Char} {rest : List Char}

/-- A character that a token may start with which is no bracket; a slash starts no comment. -/
structure StartsLeaf (c : Char) (rest : List Char) : Prop where
  space : isSpace c = false
  opening : openingBracket? c = none
  closing : closingBracket? c = none
  slash : c = '/' → ¬ makesComment rest

theorem StartsLeaf.docComment (h : StartsLeaf c rest) : docComment? (c :: rest) = none := by
  have hslash := h.slash
  unfold docComment?
  split <;> simp_all [makesComment]

theorem StartsLeaf.plainComment (h : StartsLeaf c rest) : plainCommentEnd (c :: rest) = none := by
  have hslash := h.slash
  unfold plainCommentEnd
  split <;> simp_all [makesComment]

theorem StartsLeaf.cut (h : StartsLeaf c rest) :
    cut (c :: rest) = (leaf (c :: rest)).map fun found => ([.tree found.1], found.2) := by
  have hbracket : c ≠ '(' := by
    intro heq
    have hopening := h.opening
    rw [heq] at hopening
    cases hopening
  have herror : errorLiteral.isPrefixOf (c :: rest) = false := by
    rw [errorLiteral, List.isPrefixOf_cons_cons, beq_false_of_ne hbracket.symm, Bool.false_and]
  rw [Source.cut, h.space, h.docComment, h.plainComment, herror, h.opening, h.closing]
  rfl

/-! ## What is no literal -/

theorem dropText?_eq_none {a : Char} (more : List Char) (h : a ≠ c) :
    dropText? (a :: more) (c :: rest) = none := by
  rw [dropText?, List.isPrefixOf_cons_cons, beq_false_of_ne h, Bool.false_and]
  rfl

theorem dropText?_eq_some {expected cs after : List Char} :
    dropText? expected cs = some after ↔ cs = expected ++ after := by
  unfold dropText?
  constructor
  · intro h
    split_ifs at h with hstarts
    obtain ⟨more, rfl⟩ := List.isPrefixOf_iff_prefix.1 hstarts
    rw [List.drop_left] at h
    rw [Option.some.inj h]
  · rintro rfl
    rw [if_pos (List.isPrefixOf_iff_prefix.2 (List.prefix_append _ _)), List.drop_left]

theorem isDigit_of_hexDigit {d : Nat} (h : hexDigit? c = some d) (hd : d < 10) : c.isDigit := by
  unfold hexDigit? at h
  split_ifs at h with hdigit hlower hupper
  · rw [Char.isDigit_iff_toNat]
    exact hdigit
  · obtain ⟨rfl⟩ := h
    have ha : 97 ≤ c.toNat := hlower.1
    omega
  · obtain ⟨rfl⟩ := h
    have ha : 65 ≤ c.toNat := hupper.1
    omega

theorem floatDigitsEnd_eq_none (hdigit : ¬ c.isDigit) : floatDigitsEnd (c :: rest) = none := by
  simp [floatDigitsEnd, hdigit]

theorem wholeNumberEnd_eq_none (hdigit : ¬ c.isDigit) : wholeNumberEnd (c :: rest) = none := by
  have hten : wholeDigitsEnd 10 true (c :: rest) = none := by
    simp only [wholeDigitsEnd, if_pos, and_self]
    split
    · rfl
    · split
      · next d hd =>
        have hle : ¬ d < 10 := fun hlt => hdigit (isDigit_of_hexDigit hd hlt)
        rw [if_neg hle]
      · rfl
  have hzero : c ≠ '0' := fun h => hdigit (by rw [h]; decide)
  unfold wholeNumberEnd
  split <;> simp_all

/-- What a raw literal has behind its `r`. -/
def rawOpenings : List (List Char) := [['\x22'], ['#', '\x22'], ['#', '#']]

/-- A raw literal starts with a quote or with a sharp behind which a quote or a sharp stands. -/
theorem rawLiteralEnd_eq_none (kind : QuotedKind) {cs : List Char}
    (h : ∀ mark ∈ rawOpenings, ¬ mark <+: cs) :
    kind.rawLiteralEnd cs = none := by
  have hquote (rest : List Char) : cs ≠ '\x22' :: rest := by
    rintro rfl
    exact h ['\x22'] (by simp [rawOpenings]) ⟨rest, rfl⟩
  have hsharp (c : Char) (rest : List Char) (hc : c = '\x22' ∨ c = '#') :
      cs ≠ '#' :: c :: rest := by
    rintro rfl
    exact h ['#', c] (by rcases hc with rfl | rfl <;> simp [rawOpenings]) ⟨rest, rfl⟩
  have hstop (pounds : Nat) (hpounds : (cs.takeWhile (· = '#')).length = pounds)
      (hrest : ∀ rest, cs.drop pounds ≠ '\x22' :: rest) : kind.rawLiteralEnd cs = none := by
    subst hpounds
    unfold QuotedKind.rawLiteralEnd
    dsimp only
    split
    · next rest heq => exact absurd heq (hrest rest)
    · rfl
  rcases cs with _ | ⟨c, cs⟩
  · rfl
  · by_cases hc : c = '#'
    · subst hc
      rcases cs with _ | ⟨d, cs⟩
      · rfl
      · have hd : d ≠ '#' := fun hd => hsharp d cs (.inr hd) rfl
        refine hstop 1 (by simp [hd]) fun rest heq => ?_
        obtain ⟨rfl, rfl⟩ := List.cons.inj heq
        exact hsharp '\x22' cs (.inl rfl) rfl
    · exact hstop 0 (by simp [hc]) hquote

theorem QuotedKind.literalEnd_eq_none (kind : QuotedKind) {mark cs : List Char}
    (hcooked : ¬ mark ++ ['\x22'] <+: cs)
    (hraw : ∀ opening ∈ rawOpenings, ¬ mark ++ 'r' :: opening <+: cs) :
    kind.literalEnd mark cs = none := by
  have hnone : (dropText? (mark ++ ['\x22']) cs).bind
      (fun rest => kind.cookedEnd (rest.length + 1) rest) = none := by
    refine Option.bind_eq_none_iff.2 fun rest hrest => ?_
    exact absurd ⟨rest, (dropText?_eq_some.1 hrest).symm⟩ hcooked
  have hnoraw : (dropText? (mark ++ ['r']) cs).bind kind.rawLiteralEnd = none := by
    refine Option.bind_eq_none_iff.2 fun rest hrest => ?_
    rw [dropText?_eq_some, List.append_assoc] at hrest
    refine rawLiteralEnd_eq_none kind fun opening hopening hstarts => hraw opening hopening ?_
    rw [hrest]
    exact (List.prefix_append_right_inj _).2 ((List.prefix_cons_inj 'r').2 hstarts)
  rw [QuotedKind.literalEnd, hnone, hnoraw]
  rfl

/-- **What starts neither with a quote nor with a digit, nor like a literal with a mark, is no
literal.** -/
theorem literalEnd_eq_none (hmarked : markedQuotes.any (·.isPrefixOf (c :: rest)) = false)
    (hquote : c ≠ '\x22') (htick : c ≠ '\x27') (hdigit : ¬ c.isDigit) :
    literalEnd (c :: rest) = none := by
  have hmarks : ∀ mark ∈ markedQuotes, ¬ mark <+: c :: rest := by
    simpa only [List.any_eq_false, List.isPrefixOf_iff_prefix] using hmarked
  have htext : QuotedKind.text.literalEnd [] (c :: rest) = none := by
    refine QuotedKind.literalEnd_eq_none _ ?_ fun opening hopening => hmarks _ ?_
    · exact fun h => hquote (List.cons_prefix_cons.1 h).1.symm
    · have hall : ∀ opening ∈ rawOpenings, [] ++ 'r' :: opening ∈ markedQuotes := by
        simp [rawOpenings, markedQuotes]
      exact hall opening hopening
  have hmark (kind : QuotedKind) {mark : Char} (h : mark ∈ ['b', 'c']) :
      kind.literalEnd [mark] (c :: rest) = none := by
    have hcooked : ∀ mark ∈ ['b', 'c'], [mark] ++ ['\x22'] ∈ markedQuotes := by simp [markedQuotes]
    have hraw : ∀ mark ∈ ['b', 'c'], ∀ opening ∈ rawOpenings,
        ∃ start ∈ markedQuotes, start <+: [mark] ++ 'r' :: opening := by
      simp [rawOpenings, markedQuotes]
    have hnocooked := hmarks _ (hcooked mark h)
    refine QuotedKind.literalEnd_eq_none _ hnocooked fun opening hopening hstarts => ?_
    obtain ⟨start, hstart, hshorter⟩ := hraw mark h opening hopening
    exact hmarks start hstart (hshorter.trans hstarts)
  have hbyte : dropText? ['b', '\x27'] (c :: rest) = none := by
    refine Option.eq_none_iff_forall_ne_some.2 fun after hafter => ?_
    exact hmarks ['b', '\x27'] (by decide) ⟨after, (dropText?_eq_some.1 hafter).symm⟩
  rw [literalEnd, htext, hmark _ (by decide), hmark _ (by decide), hbyte,
    dropText?_eq_none [] (Ne.symm htick), floatDigitsEnd_eq_none hdigit,
    wholeNumberEnd_eq_none hdigit]
  rfl

/-! ## Signs -/

/-- The characters that are punctuation, without the quote. -/
def signs : List Char :=
  ['~', '!', '@', '#', '$', '%', '^', '&', '*', '-', '=', '+', '|', ';', ':', ',', '<', '.', '>',
    '/', '?']

theorem isPunctuation_iff : isPunctuation c ↔ c ∈ signs ∨ c = '\x27' := by
  have hlist : isPunctuation c = (signs ++ ['\x27']).contains c := rfl
  rw [hlist, List.contains_iff_mem, List.mem_append, List.mem_singleton]

/-- What holds of each sign holds of a character that is one. -/
theorem of_isSign (P : Char → Bool) (h : signs.all P) (hc : isSign c) : P c := by
  rw [isSign, Bool.and_eq_true, decide_eq_true_iff] at hc
  exact List.all_eq_true.1 h c ((isPunctuation_iff.1 hc.1).resolve_right hc.2)

theorem StartsLeaf.of_isSign (hc : isSign c) (hslash : c = '/' → ¬ makesComment rest) :
    StartsLeaf c rest := by
  have hspace := Source.of_isSign (fun c => !isSpace c) (by decide) hc
  have hopening := Source.of_isSign (fun c => (openingBracket? c).isNone) (by decide) hc
  have hclosing := Source.of_isSign (fun c => (closingBracket? c).isNone) (by decide) hc
  simp only [Bool.not_eq_true', Option.isNone_iff_eq_none] at hspace hopening hclosing
  exact ⟨hspace, hopening, hclosing, hslash⟩

theorem startsLeaf_quote (rest : List Char) : StartsLeaf '\x27' rest :=
  ⟨by decide, by decide, by decide, fun h => by cases h⟩

theorem isPunctuation_of_startsWithPunctuation (h : startsWithPunctuation (c :: rest)) :
    isPunctuation c := by
  unfold startsWithPunctuation at h
  split at h
  · cases h
  · cases h
  · next heq =>
    obtain ⟨rfl, -⟩ := List.cons.inj heq
    exact h
  · cases h

theorem startsWithPunctuation_of_isPunctuation (hc : isPunctuation c)
    (hslash : c = '/' → ¬ makesComment rest) : startsWithPunctuation (c :: rest) := by
  unfold startsWithPunctuation
  split <;> simp_all [makesComment]

/-- **A sign is a token by itself**; what follows decides whether it is joint. -/
theorem cut_sign (hc : isSign c) (hslash : c = '/' → ¬ makesComment rest) :
    ∃ spacing, cut (c :: rest) = some ([.tree (.punct c spacing)], rest) := by
  have hmark := of_isSign (fun c => !(['r', 'b', 'c', '\x22', '\x27'] : List Char).contains c)
    (by decide) hc
  have hdigit := of_isSign (fun c => !c.isDigit) (by decide) hc
  simp only [Bool.not_eq_true', List.contains_eq_mem, decide_eq_false_iff_not, List.mem_cons,
    List.not_mem_nil, or_false, not_or] at hmark hdigit
  obtain ⟨hr, hb, hcmark, hquote, htick⟩ := hmark
  have hmarked : markedQuotes.any (·.isPrefixOf (c :: rest)) = false := by
    simp [markedQuotes, List.isPrefixOf_cons_cons, Ne.symm hr, Ne.symm hb, Ne.symm hcmark]
  have hliteral : literalEnd (c :: rest) = none :=
    literalEnd_eq_none hmarked hquote htick (by simp [hdigit])
  have hstart : startsWithPunctuation (c :: rest) :=
    startsWithPunctuation_of_isPunctuation (Bool.and_eq_true _ _ ▸ hc).1 hslash
  refine ⟨if startsWithPunctuation rest then .joint else .alone, ?_⟩
  rw [(StartsLeaf.of_isSign hc hslash).cut, leaf, hliteral, punctuation, if_pos hstart]
  simp only [if_neg htick]
  rfl

/-! ## Words -/

theorem Stops.not_isIdentContinue (h : Stops (c :: rest)) : ¬ Text.isIdentContinue c := by
  simp only [Stops, List.mem_cons, List.not_mem_nil, or_false] at h
  rcases h with rfl | rfl | rfl | rfl
  · exact Text.not_isIdentContinue_of_isSpace (by decide)
  · exact Text.not_isIdentContinue_of_mem (by decide)
  · exact Text.not_isIdentContinue_of_mem (by decide)
  · exact Text.not_isIdentContinue_of_isSpace (by decide)

/-- No character of a word stands at the front of the text. -/
def EndsWord (cs : List Char) : Prop := ∀ c ∈ cs.head?, ¬ Text.isIdentContinue c

theorem Stops.endsWord (h : Stops rest) : EndsWord rest := by
  intro c hc
  cases rest with
  | nil => cases hc
  | cons d rest =>
    cases hc
    exact h.not_isIdentContinue

theorem EndsWord.dropWhile (h : EndsWord rest) : rest.dropWhile Text.isIdentContinue = rest := by
  cases rest with
  | nil => rfl
  | cons c rest => exact List.dropWhile_cons_of_neg (h c rfl)

theorem plainIdentEnd_eq_some {cs after : List Char} : plainIdentEnd cs = some after ↔
    ∃ c rest, cs = c :: rest ∧ Text.isIdentStart c ∧
      rest.dropWhile Text.isIdentContinue = after := by
  cases cs with
  | nil => simp [plainIdentEnd]
  | cons c rest => simp [plainIdentEnd]

/-- The characters of a word, all of which an identifier may go on with. -/
theorem isIdentContinue_of_word {cs : List Char} (h : plainIdentEnd cs = some []) :
    ∀ c ∈ cs, Text.isIdentContinue c := by
  obtain ⟨c, rest, rfl, hc, hrest⟩ := plainIdentEnd_eq_some.1 h
  exact List.forall_mem_cons.2
    ⟨Text.isIdentContinue_of_isIdentStart hc, List.dropWhile_eq_nil_iff.1 hrest⟩

theorem plainIdentEnd_append {cs : List Char} (h : plainIdentEnd cs = some [])
    (hrest : EndsWord rest) : plainIdentEnd (cs ++ rest) = some rest := by
  obtain ⟨c, more, rfl, hc, hmore⟩ := plainIdentEnd_eq_some.1 h
  rw [List.cons_append, plainIdentEnd, if_pos hc,
    List.dropWhile_append_of_pos (List.dropWhile_eq_nil_iff.1 hmore), hrest.dropWhile]

/-- No mark of a quoted literal is made of characters of a word and what stops it. -/
theorem not_marked {cs : List Char} (hcs : ∀ c ∈ cs, Text.isIdentContinue c) (hrest : Stops rest) :
    markedQuotes.any (·.isPrefixOf (cs ++ rest)) = false := by
  have hquoted : ∀ mark ∈ markedQuotes, ∃ c ∈ mark, c ∈ Text.marks := by
    simp [markedQuotes, Text.marks]
  have hstops : ∀ mark ∈ markedQuotes, ∀ c ∈ mark, c ∉ [' ', ')', ']', '\n'] := by
    simp [markedQuotes]
  simp only [List.any_eq_false, List.isPrefixOf_iff_prefix]
  intro mark hmark hstarts
  have hnot : ¬ ∀ c ∈ mark, Text.isIdentContinue c := by
    obtain ⟨c, hc, hsign⟩ := hquoted mark hmark
    exact fun hall => Text.not_isIdentContinue_of_mem hsign (hall c hc)
  rcases List.prefix_or_prefix_of_prefix hstarts (List.prefix_append cs rest) with hin | hover
  · exact hnot fun c hc => hcs c (hin.subset hc)
  · obtain ⟨more, rfl⟩ := hover
    rw [List.prefix_append_right_inj] at hstarts
    cases more with
    | nil => exact hnot (by simpa using hcs)
    | cons d more =>
      obtain ⟨behind, rfl⟩ := hstarts
      exact hstops _ hmark d (by simp) hrest

theorem textBefore_append (cs rest : List Char) :
    textBefore (cs ++ rest) rest = String.ofList cs := by
  rw [textBefore, List.length_append, Nat.add_sub_cancel, List.take_left]

/-- The characters are an identifier, with or without `r#` before it. -/
inductive IsIdent : List Char → Prop
  | plain {cs : List Char} : plainIdentEnd cs = some [] → IsIdent cs
  | raw {cs : List Char} : plainIdentEnd cs = some [] →
      neverRaw.contains (String.ofList cs) = false → IsIdent ('r' :: '#' :: cs)

theorem IsIdent.starts {cs : List Char} (h : IsIdent cs) :
    ∃ c more, cs = c :: more ∧ Text.isIdentStart c := by
  cases h with
  | plain hword =>
    obtain ⟨c, more, rfl, hc, -⟩ := plainIdentEnd_eq_some.1 hword
    exact ⟨c, more, rfl, hc⟩
  | raw => exact ⟨'r', _, rfl, rfl⟩

theorem IsIdent.not_marked {cs : List Char} (h : IsIdent cs) (hrest : Stops rest) :
    markedQuotes.any (·.isPrefixOf (cs ++ rest)) = false := by
  cases h with
  | plain hword => exact Source.not_marked (isIdentContinue_of_word hword) hrest
  | raw hword =>
    obtain ⟨c, more, rfl, hc, -⟩ := plainIdentEnd_eq_some.1 hword
    have hne {d : Char} (hd : d ∈ Text.marks) : d ≠ c :=
      (Text.ne_of_isIdentContinue (Text.isIdentContinue_of_isIdentStart hc) hd).symm
    have hquote : '\x22' ≠ c := hne (by decide)
    have hsharp : '#' ≠ c := hne (by decide)
    simp [markedQuotes, List.isPrefixOf_cons_cons, hquote, hsharp]

theorem IsIdent.identEnd_append {cs : List Char} (h : IsIdent cs) (hrest : Stops rest) :
    identEnd (cs ++ rest) = some rest := by
  cases h with
  | plain hword =>
    unfold identEnd
    split
    · next more heq =>
      have hcs := isIdentContinue_of_word hword
      rcases cs with _ | ⟨c, _ | ⟨d, cs⟩⟩
      · cases hword
      · obtain ⟨rfl, rfl⟩ := List.cons.inj heq
        simp [Stops] at hrest
      · obtain ⟨rfl, htail⟩ := List.cons.inj heq
        obtain ⟨rfl, -⟩ := List.cons.inj htail
        exact absurd (hcs '#' (by simp)) (Text.not_isIdentContinue_of_mem (by decide))
    · exact plainIdentEnd_append hword hrest.endsWord
  | @raw word hword hnever =>
    have hraw : identEnd ('r' :: '#' :: word ++ rest) = (plainIdentEnd (word ++ rest)).bind
        fun after => if neverRaw.contains (textBefore (word ++ rest) after) then none
          else some after := rfl
    rw [hraw, plainIdentEnd_append hword hrest.endsWord, Option.bind_some, textBefore_append,
      hnever]
    rfl

theorem IsIdent.identTokenEnd_append {cs : List Char} (h : IsIdent cs) (hrest : Stops rest) :
    identTokenEnd (cs ++ rest) = some rest := by
  rw [identTokenEnd, h.not_marked hrest, if_neg Bool.false_ne_true, h.identEnd_append hrest]

theorem exists_word {cs after : List Char} (h : plainIdentEnd cs = some after) :
    ∃ word, cs = word ++ after ∧ plainIdentEnd word = some [] := by
  obtain ⟨c, more, rfl, hc, rfl⟩ := plainIdentEnd_eq_some.1 h
  refine ⟨c :: more.takeWhile Text.isIdentContinue, ?_, plainIdentEnd_eq_some.2 ⟨c, _, rfl, hc, ?_⟩⟩
  · rw [List.cons_append, List.takeWhile_append_dropWhile]
  · exact List.dropWhile_eq_nil_iff.2 fun _ => List.mem_takeWhile_imp

/-- **What is taken as an identifier is one.** -/
theorem exists_ident {cs after : List Char} (h : identTokenEnd cs = some after) :
    ∃ name, cs = name ++ after ∧ IsIdent name := by
  unfold identTokenEnd identEnd at h
  split_ifs at h
  split at h
  · obtain ⟨behind, hword, hraw⟩ := Option.bind_eq_some_iff.1 h
    split_ifs at hraw with hnever
    cases hraw
    obtain ⟨name, rfl, hname⟩ := exists_word hword
    rw [textBefore_append] at hnever
    exact ⟨'r' :: '#' :: name, rfl, .raw hname (Bool.eq_false_iff.2 hnever)⟩
  · obtain ⟨name, rfl, hname⟩ := exists_word h
    exact ⟨name, rfl, .plain hname⟩

theorem StartsLeaf.of_isIdentContinue (hc : Text.isIdentContinue c) : StartsLeaf c rest := by
  have hne {d : Char} (hd : d ∈ Text.marks) : c ≠ d := Text.ne_of_isIdentContinue hc hd
  refine ⟨?_, ?_, ?_, fun h => absurd h (hne (by decide))⟩
  · exact Bool.eq_false_iff.2 fun h => Text.not_isIdentContinue_of_isSpace h hc
  · rw [openingBracket?, if_neg (hne (by decide)), if_neg (hne (by decide)),
      if_neg (hne (by decide))]
  · rw [closingBracket?, if_neg (hne (by decide)), if_neg (hne (by decide)),
      if_neg (hne (by decide))]

theorem punctuation_eq_none (hc : Text.isIdentContinue c) : punctuation (c :: rest) = none := by
  have hne {d : Char} (hd : d ∈ Text.marks) : c ≠ d := Text.ne_of_isIdentContinue hc hd
  have hpunctuation : isPunctuation c = false := by
    refine Bool.eq_false_iff.2 fun h => ?_
    have hmarks : signs.all (Text.marks.contains ·) := by decide
    rcases isPunctuation_iff.1 h with hsign | htick
    · exact hne (List.contains_iff_mem.1 (List.all_eq_true.1 hmarks c hsign)) rfl
    · exact hne (by decide) htick
  have hstart : startsWithPunctuation (c :: rest) = false := by
    unfold startsWithPunctuation
    split
    · rfl
    · rfl
    · simp_all
    · rfl
  rw [punctuation, hstart]
  rfl

/-- **An identifier ends where something stops it.** -/
theorem IsIdent.standsAlone {name : String} (h : IsIdent name.toList) :
    (TokenTree.ident name).StandsAlone := by
  intro rest hrest
  have hmarked := h.not_marked hrest
  have hend := h.identTokenEnd_append hrest
  obtain ⟨c, cs, hname, hc⟩ := h.starts
  have hcontinue := Text.isIdentContinue_of_isIdentStart hc
  have hne {d : Char} (hd : d ∈ Text.marks) : c ≠ d := Text.ne_of_isIdentContinue hcontinue hd
  have hdigit : ¬ c.isDigit := fun h => Text.not_isIdentStart_of_isDigit h hc
  have hliteral : literalEnd (name.toList ++ rest) = none := by
    rw [hname, List.cons_append] at hmarked ⊢
    exact literalEnd_eq_none hmarked (hne (by decide)) (hne (by decide)) hdigit
  have hpunctuation : punctuation (name.toList ++ rest) = none := by
    rw [hname, List.cons_append]
    exact punctuation_eq_none hcontinue
  have hleaf : leaf (name.toList ++ rest) = some (.ident name, rest) := by
    rw [leaf, hliteral, hpunctuation, hend, Option.map_some, textBefore_append,
      String.ofList_toList]
    rfl
  rw [TokenTree.chars]
  rw [hname, List.cons_append] at hleaf ⊢
  rw [(StartsLeaf.of_isIdentContinue hcontinue).cut, hleaf]
  rfl

theorem standsAlone_word {name : String} (h : Source.plainIdentEnd name.toList = some []) :
    (TokenTree.ident name).StandsAlone :=
  IsIdent.standsAlone (.plain h)

/-! ## Quotes -/

theorem literalEnd_tick (cs : List Char) :
    literalEnd ('\x27' :: cs) = QuotedKind.text.singleEnd cs := by
  have htick : dropText? ['\x27'] ('\x27' :: cs) = some cs := dropText?_eq_some.2 rfl
  have hfloat : floatDigitsEnd ('\x27' :: cs) = none := floatDigitsEnd_eq_none (by decide)
  have hwhole : wholeNumberEnd ('\x27' :: cs) = none := wholeNumberEnd_eq_none (by decide)
  simp [literalEnd, QuotedKind.literalEnd, dropText?_eq_none, htick, hfloat, hwhole]

theorem singleEnd_eq_none (hc : c ≠ '\\') (hrest : rest.head? ≠ some '\x27') :
    QuotedKind.text.singleEnd (c :: rest) = none := by
  simp only [QuotedKind.singleEnd, if_neg hc, QuotedKind.holds, if_pos]
  split
  · next more heq =>
    rw [Option.some.inj heq] at hrest
    exact absurd rfl hrest
  · rfl

/-- A quote is taken where no character starts with it but a lifetime. -/
theorem takesQuote_of_lifetime {t : TokenTree} (h : ∀ rest, Stops rest →
    QuotedKind.text.singleEnd (t.chars ++ rest) = none ∧ startsLifetimeName (t.chars ++ rest)) :
    t.TakesQuote := by
  intro rest hrest
  obtain ⟨hsingle, hlifetime⟩ := h rest hrest
  rw [(startsLeaf_quote _).cut, leaf, literalEnd_tick, hsingle, punctuation]
  simp [startsWithPunctuation, isPunctuation, hlifetime]

theorem IsIdent.singleEnd_append {cs : List Char} (h : IsIdent cs) (hrest : Stops rest) :
    QuotedKind.text.singleEnd (cs ++ rest) = none := by
  have htick : ∀ c ∈ cs, c ≠ '\x27' := by
    cases h with
    | plain hword =>
      exact fun c hc => Text.ne_of_isIdentContinue (isIdentContinue_of_word hword c hc) (by decide)
    | raw hword =>
      have hmore := isIdentContinue_of_word hword
      simp only [List.forall_mem_cons]
      exact ⟨by decide, by decide, fun c hc => Text.ne_of_isIdentContinue (hmore c hc) (by decide)⟩
  obtain ⟨c, more, rfl, hc⟩ := h.starts
  have hbackslash : c ≠ '\\' :=
    Text.ne_of_isIdentContinue (Text.isIdentContinue_of_isIdentStart hc) (by decide)
  refine singleEnd_eq_none hbackslash fun hhead => ?_
  rcases more with _ | ⟨d, more⟩
  · rcases rest with _ | ⟨d, rest⟩
    · cases hhead
    · rw [Option.some.inj hhead] at hrest
      simp [Stops] at hrest
  · exact htick d (by simp) (Option.some.inj hhead)

/-- **A quote takes the identifier behind it.** -/
theorem IsIdent.takesQuote {name : String} (h : IsIdent name.toList) :
    (TokenTree.ident name).TakesQuote := by
  refine takesQuote_of_lifetime fun rest hrest => ⟨h.singleEnd_append hrest, ?_⟩
  rw [TokenTree.chars, startsLifetimeName, h.identEnd_append hrest]
  rcases rest with _ | ⟨d, rest⟩
  · rfl
  · simp only [Stops, List.mem_cons, List.not_mem_nil, or_false] at hrest
    rcases hrest with rfl | rfl | rfl | rfl <;> rfl

theorem takesQuote_word {name : String} (h : Source.plainIdentEnd name.toList = some []) :
    (TokenTree.ident name).TakesQuote :=
  IsIdent.takesQuote (.plain h)

theorem EndsWord.suffixEnd (h : EndsWord rest) : suffixEnd rest = rest := by
  have hplain : plainIdentEnd rest = none := by
    rcases rest with _ | ⟨c, rest⟩
    · rfl
    · rw [plainIdentEnd, if_neg fun hc => h c rfl (Text.isIdentContinue_of_isIdentStart hc)]
  rw [Source.suffixEnd, hplain, Option.getD_none]

/-- **A literal that was written for a text ends where something stops it.** -/
theorem standsAlone_stringLiteral (text : String) : (stringLiteral text).StandsAlone := by
  intro rest hrest
  have hend := literalEnd_written text rest
  rw [hrest.endsWord.suffixEnd] at hend
  have hleaf : leaf ((writtenLiteral text).toList ++ rest) = some (stringLiteral text, rest) := by
    rw [leaf, hend, Option.map_some, textBefore_append, String.ofList_toList]
    rfl
  rw [stringLiteral_eq, TokenTree.chars, ← stringLiteral_eq]
  rw [toList_writtenLiteral, List.cons_append] at hleaf ⊢
  exact cut_quote hleaf

end Cut

/-! ## What a single token was cut from -/

theorem cut_comment_ne (rest after : List Char) (t : TokenTree) :
    cut ('/' :: '*' :: rest) ≠ some ([.tree t], after) := by
  have hspace : isSpace '/' = false := by decide
  have hmarked : markedQuotes.any (·.isPrefixOf ('/' :: '*' :: rest)) = false := rfl
  have hliteral : literalEnd ('/' :: '*' :: rest) = none :=
    literalEnd_eq_none hmarked (by decide) (by decide) (by decide)
  have hpunctuation : punctuation ('/' :: '*' :: rest) = none := rfl
  have hident : identTokenEnd ('/' :: '*' :: rest) = none := by
    have hstart : Text.isIdentStart '/' = false := rfl
    rw [identTokenEnd, hmarked]
    simp [identEnd, plainIdentEnd, hstart]
  have hleaf : leaf ('/' :: '*' :: rest) = none := by
    rw [leaf, hliteral, hpunctuation, hident]
    rfl
  rw [cut, hspace]
  cases hdocument : docComment? ('/' :: '*' :: rest) with
  | some found =>
    -- Documentation stands for an attribute, which is more than one token.
    obtain ⟨text, inner, following⟩ := found
    intro h
    rw [if_neg Bool.false_ne_true] at h
    dsimp only at h
    split_ifs at h
    have hlength := congrArg (·.1.length) (Option.some.inj h)
    simp [docAttribute, op, operator, brackets] at hlength
  | none =>
    intro h
    cases hcomment : plainCommentEnd ('/' :: '*' :: rest) with
    | some behind =>
      rw [hcomment] at h
      cases h
    | none =>
      rw [hcomment, hleaf] at h
      cases h

/-- **A single token is a leaf**, unless it is the mark of an error. -/
theorem leaf_of_cut {cs after : List Char} {t : TokenTree} (h : cut cs = some ([.tree t], after)) :
    (cs = errorLiteral ++ after ∧ t = .literal (String.ofList errorLiteral)) ∨
      leaf cs = some (t, after) ∧ ∃ c rest, cs = c :: rest ∧ StartsLeaf c rest := by
  rcases cs with _ | ⟨c, rest⟩
  · cases h
  have hslash : c = '/' → ¬ ∃ more, rest = '*' :: more := by
    rintro rfl ⟨more, rfl⟩
    exact cut_comment_ne more after t h
  -- But for the error literal, what is tried before a leaf gives no lexeme, several, or no token.
  rw [cut] at h
  by_cases hspace : isSpace c
  · rw [if_pos hspace] at h
    cases h
  rw [if_neg hspace] at h
  cases hdocument : docComment? (c :: rest) with
  | some found =>
    obtain ⟨text, inner, following⟩ := found
    simp only [hdocument] at h
    split_ifs at h
    have hlength := congrArg (·.1.length) (Option.some.inj h)
    simp [docAttribute, op, operator, brackets] at hlength
  | none =>
    cases hcomment : plainCommentEnd (c :: rest) with
    | some following =>
      simp only [hdocument, hcomment] at h
      cases h
    | none =>
      simp only [hdocument, hcomment] at h
      by_cases herror : errorLiteral.isPrefixOf (c :: rest)
      · rw [if_pos herror] at h
        obtain ⟨more, hmore⟩ := List.isPrefixOf_iff_prefix.1 herror
        rw [← hmore, List.drop_left] at h
        cases h
        exact .inl ⟨hmore.symm, rfl⟩
      · rw [if_neg herror] at h
        cases hopening : openingBracket? c with
        | some d =>
          simp only [hopening] at h
          cases h
        | none =>
          cases hclosing : closingBracket? c with
          | some d =>
            simp only [hopening, hclosing] at h
            cases h
          | none =>
            simp only [hopening, hclosing] at h
            obtain ⟨⟨u, following⟩, hleaf, heq⟩ := Option.map_eq_some_iff.1 h
            cases heq
            refine .inr ⟨hleaf, c, rest, rfl, Bool.eq_false_iff.2 hspace, hopening, hclosing, ?_⟩
            rintro rfl hstarts
            rcases rest with _ | ⟨d, more⟩
            · cases hstarts
            · simp only [makesComment, List.head?_cons, Option.any_some, Bool.or_eq_true,
                decide_eq_true_iff] at hstarts
              rcases hstarts with rfl | rfl
              · cases hcomment
              · exact hslash rfl ⟨more, rfl⟩

/-- **What punctuation is cut from**: a quote in front of a lifetime's name or a sign, which is joint
if punctuation follows. -/
theorem punctuation_eq_some {cs rest : List Char} {t : TokenTree}
    (h : punctuation cs = some (t, rest)) :
    (cs = '\x27' :: rest ∧ t = .punct '\x27' .joint ∧ startsLifetimeName rest) ∨
      ∃ c, cs = c :: rest ∧ isSign c ∧
        t = .punct c (if startsWithPunctuation rest then .joint else .alone) := by
  unfold punctuation at h
  by_cases hstart : startsWithPunctuation cs
  · rw [if_pos hstart] at h
    rcases cs with _ | ⟨c, more⟩
    · cases h
    · by_cases htick : c = '\x27'
      · subst htick
        simp only [if_pos] at h
        split_ifs at h with hname
        cases h
        exact .inl ⟨rfl, rfl, hname⟩
      · simp only [if_neg htick] at h
        cases h
        have hc := isPunctuation_of_startsWithPunctuation hstart
        exact .inr ⟨c, rfl, by simp [isSign, hc, htick], rfl⟩
  · rw [if_neg hstart] at h
    cases h

/-- **A leaf is a literal, punctuation or an identifier**, in this order. -/
theorem leaf_eq_some {cs after : List Char} {t : TokenTree} (h : leaf cs = some (t, after)) :
    literalEnd cs = some after ∧ t = .literal (textBefore cs after) ∨
      punctuation cs = some (t, after) ∨
      identTokenEnd cs = some after ∧ t = .ident (textBefore cs after) := by
  unfold leaf at h
  cases hliteral : literalEnd cs with
  | some following =>
    rw [hliteral] at h
    cases h
    exact .inl ⟨rfl, rfl⟩
  | none =>
    rw [hliteral] at h
    cases hpunctuation : punctuation cs with
    | some found =>
      rw [hpunctuation] at h
      cases h
      exact .inr (.inl rfl)
    | none =>
      rw [hpunctuation] at h
      obtain ⟨following, hend, heq⟩ := Option.map_eq_some_iff.1 h
      cases heq
      exact .inr (.inr ⟨hend, rfl⟩)

theorem ident_of_leaf {cs after : List Char} {name : String}
    (h : leaf cs = some (.ident name, after)) :
    identTokenEnd cs = some after ∧ name = textBefore cs after := by
  rcases leaf_eq_some h with ⟨-, ht⟩ | hpunctuation | ⟨hend, ht⟩
  · cases ht
  · rcases punctuation_eq_some hpunctuation with ⟨-, ht, -⟩ | ⟨c, -, -, ht⟩ <;> cases ht
  · cases ht
    exact ⟨hend, rfl⟩

theorem TokenTree.StandsAlone.isIdent {name : String} (h : (TokenTree.ident name).StandsAlone) :
    IsIdent name.toList := by
  have hcut := h [] trivial
  rw [TokenTree.chars, List.append_nil] at hcut
  rcases leaf_of_cut hcut with ⟨-, ht⟩ | ⟨hleaf, -⟩
  · cases ht
  · obtain ⟨cs, hname, hident⟩ := exists_ident (ident_of_leaf hleaf).1
    rw [List.append_nil] at hname
    rwa [hname]

end Source

end GraphRepo

import Mathlib
import GraphRepo.Proofs.Source.Numbers

/-!
# Literals that stand alone

A literal is tried as one kind after the other. In front of something that stops it the kinds before
its own are refused for the same reason as before, so a literal that was cut from a text is read
back wherever it is written.
-/

namespace GraphRepo.Source

variable {cs after : List Char}

theorem literalEnd_eq (cs : List Char) : literalEnd cs =
    (QuotedKind.text.literalEnd [] cs <|> QuotedKind.bytes.literalEnd ['b'] cs <|>
      QuotedKind.cText.literalEnd ['c'] cs <|>
      (dropText? ['b', '\x27'] cs).bind QuotedKind.bytes.singleEnd <|>
      (dropText? ['\x27'] cs).bind QuotedKind.text.singleEnd <|> floatEnd cs <|> wholeEnd cs) := rfl

theorem literalEnd_digit {c : Char} (h : c.isDigit) :
    literalEnd (c :: cs) = (floatEnd (c :: cs) <|> wholeEnd (c :: cs)) := by
  have hne (d : Char) (hd : d.isDigit = false) : d ≠ c := by
    rintro rfl
    rw [hd] at h
    cases h
  simp [literalEnd_eq, QuotedKind.literalEnd, dropText?_eq_none, hne]

theorem exists_digit {f : List Char → Option (List Char)} {taken : List Char} (hnil : f [] = none)
    (hnone : ∀ {c : Char}, ¬ c.isDigit → ∀ cs, f (c :: cs) = none)
    (h : f (taken ++ []) = some []) : ∃ c more, taken = c :: more ∧ c.isDigit := by
  rw [List.append_nil] at h
  cases taken with
  | nil =>
    rw [hnil] at h
    cases h
  | cons c more =>
    refine ⟨c, more, rfl, ?_⟩
    by_contra hno
    rw [hnone hno] at h
    cases h

theorem literalEnd_b (cs : List Char) : literalEnd ('b' :: cs) =
    (QuotedKind.bytes.literalEnd ['b'] ('b' :: cs) <|>
      (dropText? ['\x27'] cs).bind QuotedKind.bytes.singleEnd) := by
  have hdrop : dropText? ['b', '\x27'] ('b' :: cs) = dropText? ['\x27'] cs := by simp [dropText?]
  have hfloat : floatDigitsEnd ('b' :: cs) = none := floatDigitsEnd_eq_none (by decide)
  have hwhole : wholeNumberEnd ('b' :: cs) = none := wholeNumberEnd_eq_none (by decide)
  simp [literalEnd, QuotedKind.literalEnd, dropText?_eq_none, hdrop, hfloat, hwhole]

theorem literalEnd_c (cs : List Char) :
    literalEnd ('c' :: cs) = QuotedKind.cText.literalEnd ['c'] ('c' :: cs) := by
  have hfloat : floatDigitsEnd ('c' :: cs) = none := floatDigitsEnd_eq_none (by decide)
  have hwhole : wholeNumberEnd ('c' :: cs) = none := wholeNumberEnd_eq_none (by decide)
  simp [literalEnd, QuotedKind.literalEnd, dropText?_eq_none, hfloat, hwhole]

/-- **A literal is taken from the front of a text wherever something stops it.** -/
theorem literalEnd_eq_some (h : literalEnd cs = some after) : TakesFront literalEnd cs after := by
  rw [literalEnd_eq] at h
  simp only [Option.orElse_eq_some] at h
  rcases h with h | ⟨-, h⟩
  · obtain ⟨opening, -, taken, rfl, htaken⟩ := QuotedKind.literalEnd_eq_some h
    refine ⟨[] ++ opening ++ taken, rfl, fun rest hstops => ?_⟩
    rw [literalEnd_eq, htaken rest hstops]
    rfl
  rcases h with h | ⟨-, h⟩
  · obtain ⟨opening, -, taken, rfl, htaken⟩ := QuotedKind.literalEnd_eq_some h
    refine ⟨['b'] ++ opening ++ taken, rfl, fun rest hstops => ?_⟩
    have hend := htaken rest hstops
    simp only [List.cons_append] at hend ⊢
    rw [literalEnd_b, hend]
    rfl
  rcases h with h | ⟨-, h⟩
  · obtain ⟨opening, -, taken, rfl, htaken⟩ := QuotedKind.literalEnd_eq_some h
    refine ⟨['c'] ++ opening ++ taken, rfl, fun rest hstops => ?_⟩
    have hend := htaken rest hstops
    simp only [List.cons_append] at hend ⊢
    rw [literalEnd_c, hend]
  rcases h with h | ⟨-, h⟩
  · obtain ⟨body, hbody, hend⟩ := Option.bind_eq_some_iff.1 h
    obtain ⟨taken, rfl, htaken⟩ := singleEnd_eq_some hend
    rw [dropText?_eq_some] at hbody
    refine ⟨'b' :: '\x27' :: taken, hbody, fun rest hstops => ?_⟩
    have hquoted : QuotedKind.bytes.literalEnd ['b'] ('b' :: '\x27' :: (taken ++ rest)) = none := by
      simp [QuotedKind.literalEnd, dropText?]
    have hopen : dropText? ['\x27'] ('\x27' :: (taken ++ rest)) = some (taken ++ rest) :=
      dropText?_eq_some.2 rfl
    rw [List.cons_append, List.cons_append, literalEnd_b, hquoted, hopen, Option.bind_some,
      htaken rest hstops]
    rfl
  rcases h with h | ⟨-, h⟩
  · obtain ⟨body, hbody, hend⟩ := Option.bind_eq_some_iff.1 h
    obtain ⟨taken, rfl, htaken⟩ := singleEnd_eq_some hend
    rw [dropText?_eq_some] at hbody
    refine ⟨'\x27' :: taken, hbody, fun rest hstops => ?_⟩
    rw [List.cons_append, literalEnd_tick, htaken rest hstops]
  rcases h with h | ⟨hfloat, h⟩
  · obtain ⟨taken, rfl, htaken⟩ := floatEnd_eq_some h
    refine ⟨taken, rfl, fun rest hstops => ?_⟩
    obtain ⟨c, more, rfl, hdigit⟩ := exists_digit rfl floatEnd_eq_none (htaken [] trivial)
    have hend := htaken rest hstops
    rw [List.cons_append] at hend ⊢
    rw [literalEnd_digit hdigit, hend]
    rfl
  · obtain ⟨hafter, taken, rfl, hword, htaken⟩ := wholeEnd_eq_some h
    refine ⟨taken, rfl, fun rest hstops => ?_⟩
    obtain ⟨c, more, rfl, hdigit⟩ := exists_digit rfl wholeEnd_eq_none (htaken [] trivial)
    have hend := htaken rest hstops
    have hnone := floatEnd_word hafter hstops hword hfloat
    rw [List.cons_append] at hend hnone ⊢
    rw [literalEnd_digit hdigit, hnone, hend]
    rfl

/-! ## Literals as tokens -/

/-- A literal that starts neither with a quote nor with a digit has a mark. -/
theorem exists_mark {c : Char} {rest : List Char} (hquote : c ≠ '\x22') (htick : c ≠ '\x27')
    (hdigit : ¬ c.isDigit) (h : literalEnd (c :: rest) = some after) :
    ∃ mark ∈ markedQuotes, mark <+: c :: rest := by
  by_contra hno
  have hnone : literalEnd (c :: rest) = none := by
    refine literalEnd_eq_none ?_ hquote htick hdigit
    simpa only [List.any_eq_false, List.isPrefixOf_iff_prefix, not_exists, not_and] using hno
  rw [hnone] at h
  cases h

/-- No literal starts a comment or is a bracket, whatever stands behind it. -/
theorem StartsLeaf.of_literalEnd {c : Char} {rest : List Char}
    (h : literalEnd (c :: rest) = some after) (other : List Char) : StartsLeaf c other := by
  by_cases hquote : c = '\x22'
  · exact hquote ▸ ⟨by decide, by decide, by decide, fun h => by cases h⟩
  by_cases htick : c = '\x27'
  · exact htick ▸ startsLeaf_quote other
  by_cases hdigit : c.isDigit
  · exact .of_isIdentContinue (isIdentContinue_of_isDigit hdigit)
  obtain ⟨mark, hmark, hstarts⟩ := exists_mark hquote htick hdigit h
  have hwords : ∀ mark ∈ markedQuotes, ∃ d ∈ ['r', 'b', 'c'], mark.head? = some d := by
    simp [markedQuotes]
  obtain ⟨d, hd, hhead⟩ := hwords mark hmark
  obtain ⟨more, rfl⟩ := List.head?_eq_some_iff.1 hhead
  obtain ⟨rfl, -⟩ := List.cons_prefix_cons.1 hstarts
  refine .of_isIdentContinue ?_
  simp only [List.mem_cons, List.not_mem_nil, or_false] at hd
  rcases hd with rfl | rfl | rfl <;> rfl

theorem literalEnd_append {cs rest : List Char} (h : literalEnd cs = some []) (hrest : Stops rest) :
    literalEnd (cs ++ rest) = some rest := by
  obtain ⟨taken, rfl, htaken⟩ := literalEnd_eq_some h
  rw [List.append_nil]
  exact htaken rest hrest

/-- **A literal ends where something stops it.** -/
theorem standsAlone_literal {text : String} (h : literalEnd text.toList = some []) :
    (TokenTree.literal text).StandsAlone := by
  intro rest hrest
  have hend := literalEnd_append h hrest
  have hleaf : leaf (text.toList ++ rest) = some (.literal text, rest) := by
    rw [leaf, hend, Option.map_some, textBefore_append, String.ofList_toList]
    rfl
  rw [TokenTree.chars]
  cases htext : text.toList with
  | nil =>
    rw [htext] at h
    cases h
  | cons c more =>
    rw [htext, List.cons_append] at hleaf hend
    rw [List.cons_append, (StartsLeaf.of_literalEnd hend _).cut, hleaf]
    rfl

/-- **What is taken as a literal is one.** -/
theorem exists_literal (h : literalEnd cs = some after) :
    ∃ text, cs = text ++ after ∧ literalEnd text = some [] := by
  obtain ⟨taken, rfl, htaken⟩ := literalEnd_eq_some h
  have hend := htaken [] trivial
  rw [List.append_nil] at hend
  exact ⟨taken, rfl, hend⟩

/-! ## Numbers of fields -/

theorem floatMantissaEnd_digits : ∀ {cs : List Char}, (∀ c ∈ cs, c.isDigit) →
    floatMantissaEnd false cs = some (false, [])
  | [], _ => rfl
  | c :: cs, h => by
    obtain ⟨hc, hcs⟩ := List.forall_mem_cons.1 h
    rw [floatMantissaEnd, if_pos (by simp [hc]), floatMantissaEnd_digits hcs]

theorem wholeDigitsEnd_digit {c : Char} (h : c.isDigit) (empty : Bool) (cs : List Char) :
    wholeDigitsEnd 10 empty (c :: cs) = wholeDigitsEnd 10 false cs := by
  have hrange : '0' ≤ c ∧ c ≤ '9' := Char.isDigit_iff_toNat.1 h
  have hdigit : hexDigit? c = some (c.toNat - 48) := if_pos hrange
  have hten : c.toNat - 48 < 10 := by
    have hnine : c.toNat ≤ 57 := hrange.2
    omega
  have hmark : c ≠ '_' := by
    rintro rfl
    cases h
  rw [wholeDigitsEnd, if_neg hmark, hdigit]
  exact if_pos hten

theorem wholeDigitsEnd_digits : ∀ {cs : List Char}, (∀ c ∈ cs, c.isDigit) →
    wholeDigitsEnd 10 false cs = some []
  | [], _ => rfl
  | c :: cs, h => by
    obtain ⟨hc, hcs⟩ := List.forall_mem_cons.1 h
    rw [wholeDigitsEnd_digit hc, wholeDigitsEnd_digits hcs]

/-- Digits are a whole number. -/
theorem literalEnd_digits (hcs : ∀ c ∈ cs, c.isDigit) (hsome : cs ≠ []) :
    literalEnd cs = some [] := by
  obtain ⟨c, more, rfl⟩ := List.exists_cons_of_ne_nil hsome
  obtain ⟨hdigit, hmore⟩ := List.forall_mem_cons.1 hcs
  have hfloat : floatEnd (c :: more) = none := by
    rw [floatEnd, floatDigitsEnd_eq hdigit (floatMantissaEnd_digits hcs)]
    rfl
  have hplain : ∀ mark ∈ baseMarks, ¬ ['0', mark] <+: c :: more := by
    intro mark hmark hstarts
    have hmarks : baseMarks.all (!·.isDigit) := by decide
    have hno := List.all_eq_true.1 hmarks mark hmark
    rw [hcs mark (hstarts.subset (by simp))] at hno
    cases hno
  rw [literalEnd_digit hdigit, hfloat, wholeEnd, wholeNumberEnd_plain hplain,
    wholeDigitsEnd_digit hdigit, wholeDigitsEnd_digits hmore]
  rfl

end GraphRepo.Source

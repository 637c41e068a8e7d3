import Mathlib
import GraphRepo.Proofs.Source.QuotedLiterals

/-!
# Where numbers end

A number goes on with digits, a point, an exponent and a suffix. What the lexer takes as a float or
as a whole number it takes of every other text in which something stops the number; and a whole
number that is no float does not become one there.
-/

namespace GraphRepo.Source

variable {cs after : List Char}

/-! ## Numbers -/

theorem isIdentContinue_of_hexDigit {c : Char} {d : Nat} (h : hexDigit? c = some d) :
    Text.isIdentContinue c := by
  have hwithin : Text.within [] [48, 57, 65, 70, 97, 102] Text.identContinueRanges := by
    decide +kernel
  refine (Text.inRanges_of_within hwithin ?_).resolve_left List.not_mem_nil
  unfold hexDigit? at h
  split_ifs at h with hdigit hlower hupper
  · have hrange : 48 ≤ c.toNat ∧ c.toNat ≤ 57 := hdigit
    simp [Text.inRanges]
    omega
  · have hrange : 97 ≤ c.toNat ∧ c.toNat ≤ 102 := hlower
    simp [Text.inRanges]
    omega
  · have hrange : 65 ≤ c.toNat ∧ c.toNat ≤ 70 := hupper
    simp [Text.inRanges]
    omega

theorem isIdentContinue_of_isDigit {c : Char} (h : c.isDigit) : Text.isIdentContinue c := by
  have hrange : '0' ≤ c ∧ c ≤ '9' := Char.isDigit_iff_toNat.1 h
  have hdigit : hexDigit? c = some (c.toNat - 48) := if_pos hrange
  exact isIdentContinue_of_hexDigit hdigit

/-- Behind digits stands something that stops a literal, or what begins as `after` does. -/
def Resembles (after rest : List Char) : Prop := Stops rest ∨ rest.head? = after.head?

/-- What stops digits: neither a digit, an underscore, a point, a sign nor a letter. -/
theorem Stops.not_digit {c : Char} {rest : List Char} (h : Stops (c :: rest)) :
    c.isDigit = false ∧ c ≠ '_' ∧ c ≠ '.' ∧ c ≠ '+' ∧ c ≠ '-' ∧ c ≠ 'e' ∧ c ≠ 'E' ∧
      hexDigit? c = none := by
  simp only [Stops, List.mem_cons, List.not_mem_nil, or_false] at h
  rcases h with rfl | rfl | rfl | rfl <;> decide

theorem Resembles.append {after rest : List Char} (h : Resembles after rest) (taken : List Char) :
    Resembles (taken ++ after) (taken ++ rest) := by
  cases taken with
  | nil => exact h
  | cons d taken => exact .inr rfl

theorem Resembles.stops {rest : List Char} (h : Resembles [] rest) : Stops rest := by
  rcases h with hstops | hhead
  · exact hstops
  · rw [List.head?_nil, List.head?_eq_none_iff] at hhead
    rw [hhead]
    trivial

theorem Resembles.cons {c : Char} {rest : List Char} (h : Resembles (c :: after) rest) :
    Stops rest ∨ ∃ more, rest = c :: more :=
  h.imp_right List.head?_eq_some_iff.1

theorem floatMantissaEnd_stops (pointed : Bool) : ∀ {rest : List Char}, Stops rest →
    floatMantissaEnd pointed rest = some (pointed, rest)
  | [], _ => rfl
  | c :: rest, h => by
    obtain ⟨hdigit, hmark, hpoint, -⟩ := h.not_digit
    simp [floatMantissaEnd, hdigit, hmark, hpoint]

theorem endsAfterPoint_stops : ∀ {rest : List Char}, Stops rest → endsAfterPoint rest
  | [], _ => rfl
  | c :: rest, h => by
    obtain ⟨-, -, hpoint, -⟩ := h.not_digit
    have hstart : Text.isIdentStart c = false :=
      Bool.eq_false_iff.2 fun hc => h.not_isIdentContinue (Text.isIdentContinue_of_isIdentStart hc)
    simp [endsAfterPoint, hpoint, hstart]

theorem Resembles.endsAfterPoint {rest : List Char} (h : Resembles after rest)
    (hafter : Source.endsAfterPoint after) : Source.endsAfterPoint rest := by
  cases after with
  | nil => exact endsAfterPoint_stops h.stops
  | cons c after =>
    rcases h.cons with hstops | ⟨more, rfl⟩
    · exact endsAfterPoint_stops hstops
    · exact hafter

theorem floatMantissaEnd_eq_some : ∀ {cs : List Char} {pointed answer : Bool} {after : List Char},
    floatMantissaEnd pointed cs = some (answer, after) → ∃ taken, cs = taken ++ after ∧
      ∀ rest, Resembles after rest → floatMantissaEnd pointed (taken ++ rest) = some (answer, rest)
  | [], pointed, _, _, h => by
    cases h
    exact ⟨[], rfl, fun rest hrest => floatMantissaEnd_stops _ hrest.stops⟩
  | c :: cs, pointed, answer, after, h => by
    by_cases hdigit : c.isDigit || c = '_'
    · have hmore (cs : List Char) :
          floatMantissaEnd pointed (c :: cs) = floatMantissaEnd pointed cs := by
        rw [floatMantissaEnd, if_pos hdigit]
      rw [hmore] at h
      obtain ⟨taken, rfl, htaken⟩ := floatMantissaEnd_eq_some h
      exact ⟨c :: taken, rfl, fun rest hrest => (hmore _).trans (htaken rest hrest)⟩
    by_cases hpoint : c = '.' && !pointed
    · rw [floatMantissaEnd, if_neg hdigit, if_pos hpoint] at h
      split_ifs at h with hend
      obtain ⟨taken, rfl, htaken⟩ := floatMantissaEnd_eq_some h
      refine ⟨c :: taken, rfl, fun rest hrest => ?_⟩
      rw [List.cons_append, floatMantissaEnd, if_neg hdigit, if_pos hpoint,
        if_pos ((hrest.append taken).endsAfterPoint hend), htaken rest hrest]
    · have hstop (cs : List Char) :
          floatMantissaEnd pointed (c :: cs) = some (pointed, c :: cs) := by
        rw [floatMantissaEnd, if_neg hdigit, if_neg hpoint]
      rw [hstop] at h
      cases h
      refine ⟨[], rfl, fun rest hrest => ?_⟩
      rcases hrest.cons with hstops | ⟨more, rfl⟩
      · exact floatMantissaEnd_stops _ hstops
      · exact hstop more

theorem exponentEnd_endsWord (signed : Bool) : ∀ {rest : List Char}, EndsWord rest →
    exponentEnd signed true rest = some rest
  | [], _ => rfl
  | c :: rest, h => by
    have hdigit : c.isDigit = false :=
      Bool.eq_false_iff.2 fun hc => h c rfl (isIdentContinue_of_isDigit hc)
    have hmark : c ≠ '_' := by
      rintro rfl
      exact h '_' rfl rfl
    simp [exponentEnd, hdigit, hmark]

theorem exponentEnd_eq_some : ∀ {cs : List Char} {signed valued : Bool} {after : List Char},
    exponentEnd signed valued cs = some after → ∃ taken, cs = taken ++ after ∧
      ∀ rest, Resembles after rest → exponentEnd signed valued (taken ++ rest) = some rest
  | [], signed, valued, after, h => by
    cases valued with
    | false => cases h
    | true =>
      cases h
      exact ⟨[], rfl, fun rest hrest => exponentEnd_endsWord signed hrest.stops.endsWord⟩
  | c :: cs, signed, valued, after, h => by
    by_cases hsign : (c = '+' || c = '-') && !valued
    · rw [exponentEnd, if_pos hsign] at h
      split_ifs at h with hsigned
      obtain ⟨taken, rfl, htaken⟩ := exponentEnd_eq_some h
      refine ⟨c :: taken, rfl, fun rest hrest => ?_⟩
      rw [List.cons_append, exponentEnd, if_pos hsign, if_neg hsigned, htaken rest hrest]
    by_cases hdigit : c.isDigit
    · rw [exponentEnd, if_neg hsign, if_pos hdigit] at h
      obtain ⟨taken, rfl, htaken⟩ := exponentEnd_eq_some h
      refine ⟨c :: taken, rfl, fun rest hrest => ?_⟩
      rw [List.cons_append, exponentEnd, if_neg hsign, if_pos hdigit, htaken rest hrest]
    by_cases hmark : c = '_'
    · rw [exponentEnd, if_neg hsign, if_neg hdigit, if_pos hmark] at h
      obtain ⟨taken, rfl, htaken⟩ := exponentEnd_eq_some h
      refine ⟨c :: taken, rfl, fun rest hrest => ?_⟩
      rw [List.cons_append, exponentEnd, if_neg hsign, if_neg hdigit, if_pos hmark,
        htaken rest hrest]
    · rw [exponentEnd, if_neg hsign, if_neg hdigit, if_neg hmark] at h
      split_ifs at h with hvalued
      cases h
      refine ⟨[], rfl, fun rest hrest => ?_⟩
      rcases hrest.cons with hstops | ⟨more, rfl⟩
      · rw [hvalued]
        exact exponentEnd_endsWord signed hstops.endsWord
      · rw [List.nil_append, exponentEnd, if_neg hsign, if_neg hdigit, if_neg hmark, if_pos hvalued]

/-- Where an exponent is read in a word it ends inside the word, whatever stands behind that. -/
theorem exponentEnd_word {after rest : List Char} (hafter : EndsWord after) (hrest : Stops rest)
    (signed : Bool) : ∀ {name : List Char} {valued : Bool}, (∀ c ∈ name, Text.isIdentContinue c) →
      exponentEnd signed valued (name ++ rest) = none ∨
        ∃ more, (∀ c ∈ more, Text.isIdentContinue c) ∧
          exponentEnd signed valued (name ++ after) = some (more ++ after) ∧
          exponentEnd signed valued (name ++ rest) = some (more ++ rest)
  | [], true, _ => .inr ⟨[], List.forall_mem_nil _, exponentEnd_endsWord signed hafter,
      exponentEnd_endsWord signed hrest.endsWord⟩
  | [], false, _ => by
    left
    cases rest with
    | nil => rfl
    | cons c rest =>
      obtain ⟨hdigit, hmark, -, hplus, hminus, -⟩ := hrest.not_digit
      simp [exponentEnd, hdigit, hmark, hplus, hminus]
  | c :: name, valued, h => by
    obtain ⟨hc, hname⟩ := List.forall_mem_cons.1 h
    have hplus : c ≠ '+' := Text.ne_of_isIdentContinue hc (by decide)
    have hminus : c ≠ '-' := Text.ne_of_isIdentContinue hc (by decide)
    by_cases hdigit : c.isDigit
    · have hstep (cs : List Char) :
          exponentEnd signed valued (c :: cs) = exponentEnd signed true cs := by
        simp [exponentEnd, hplus, hminus, hdigit]
      rw [List.cons_append, List.cons_append, hstep, hstep]
      exact exponentEnd_word hafter hrest signed hname
    by_cases hmark : c = '_'
    · have hstep (cs : List Char) :
          exponentEnd signed valued (c :: cs) = exponentEnd signed valued cs := by
        rw [exponentEnd, if_neg (by simp [hplus, hminus]), if_neg hdigit, if_pos hmark]
      rw [List.cons_append, List.cons_append, hstep, hstep]
      exact exponentEnd_word hafter hrest signed hname
    · cases valued with
      | false =>
        left
        simp [exponentEnd, hplus, hminus, hdigit, hmark]
      | true =>
        right
        exact ⟨c :: name, h, by simp [exponentEnd, hdigit, hmark],
          by simp [exponentEnd, hdigit, hmark]⟩

/-! ## Suffixes of numbers -/

theorem numberEnd_of_suffix {rest : List Char} (h : suffixEnd cs = rest) (hrest : EndsWord rest) :
    numberEnd cs = some rest := by
  unfold numberEnd
  dsimp only
  rw [h]
  cases rest with
  | nil => rfl
  | cons c rest => exact if_neg (hrest c rfl)

theorem numberEnd_eq_some (h : numberEnd cs = some after) : EndsWord after ∧
    ∃ name, cs = name ++ after ∧ (∀ c ∈ name, Text.isIdentContinue c) ∧
      ∀ rest, EndsWord rest → numberEnd (name ++ rest) = some rest := by
  obtain ⟨name, hname, hword, hsuffix⟩ := exists_suffix cs
  have hafter : suffixEnd cs = after ∧ EndsWord after := by
    unfold numberEnd at h
    dsimp only at h
    cases hrest : suffixEnd cs with
    | nil =>
      rw [hrest] at h
      cases h
      exact ⟨rfl, nofun⟩
    | cons c rest =>
      rw [hrest] at h
      dsimp only at h
      split_ifs at h with hc
      cases h
      refine ⟨rfl, ?_⟩
      rintro _ ⟨⟩
      exact hc
  rw [hafter.1] at hname
  exact ⟨hafter.2, name, hname, hword, fun rest hrest =>
    numberEnd_of_suffix (hsuffix rest hrest) hrest⟩

/-- Whether a word is the suffix of a number is seen from the word. -/
theorem numberEnd_word {name : List Char} (h : ∀ c ∈ name, Text.isIdentContinue c) :
    (∀ rest, EndsWord rest → numberEnd (name ++ rest) = some rest) ∨
      ∀ rest, EndsWord rest → numberEnd (name ++ rest) = none := by
  cases name with
  | nil => exact .inl fun rest hrest => numberEnd_of_suffix hrest.suffixEnd hrest
  | cons c name =>
    obtain ⟨hc, hname⟩ := List.forall_mem_cons.1 h
    by_cases hstart : Text.isIdentStart c
    · left
      intro rest hrest
      have hword : plainIdentEnd (c :: name) = some [] :=
        plainIdentEnd_eq_some.2 ⟨c, name, rfl, hstart, List.dropWhile_eq_nil_iff.2 hname⟩
      refine numberEnd_of_suffix ?_ hrest
      rw [suffixEnd, plainIdentEnd_append hword hrest, Option.getD_some]
    · right
      intro rest _
      have hsuffix : suffixEnd (c :: (name ++ rest)) = c :: (name ++ rest) := by
        rw [suffixEnd, plainIdentEnd, if_neg hstart, Option.getD_none]
      unfold numberEnd
      dsimp only
      rw [List.cons_append, hsuffix]
      exact if_pos hc

/-! ## Floats -/

/-- The text behind an exponent, its letter included. -/
def powerEnd : List Char → Option (List Char)
  | [] => none
  | c :: rest => if c = 'e' ∨ c = 'E' then exponentEnd false false rest else none

theorem floatDigitsEnd_eq {c : Char} {pointed : Bool} {rest : List Char} (hdigit : c.isDigit)
    (h : floatMantissaEnd false (c :: cs) = some (pointed, rest)) :
    floatDigitsEnd (c :: cs) = (powerEnd rest).or (if pointed then some rest else none) := by
  cases rest with
  | nil => simp [floatDigitsEnd, hdigit, h, powerEnd]
  | cons d rest =>
    by_cases hd : d = 'e' ∨ d = 'E' <;> simp [floatDigitsEnd, hdigit, h, powerEnd, hd]

theorem powerEnd_stops : ∀ {rest : List Char}, Stops rest → powerEnd rest = none
  | [], _ => rfl
  | c :: rest, h => by
    obtain ⟨-, -, -, -, -, hlower, hupper, -⟩ := h.not_digit
    exact if_neg (not_or.2 ⟨hlower, hupper⟩)

theorem powerEnd_eq_some (h : powerEnd cs = some after) : ∃ taken, cs = taken ++ after ∧
    ∀ rest, Resembles after rest → powerEnd (taken ++ rest) = some rest := by
  cases cs with
  | nil => cases h
  | cons c cs =>
    rw [powerEnd] at h
    split_ifs at h with hc
    obtain ⟨taken, rfl, htaken⟩ := exponentEnd_eq_some h
    refine ⟨c :: taken, rfl, fun rest hrest => ?_⟩
    rw [List.cons_append, powerEnd, if_pos hc, htaken rest hrest]

theorem powerEnd_word {name after rest : List Char} (hafter : EndsWord after) (hrest : Stops rest)
    (hname : ∀ c ∈ name, Text.isIdentContinue c) :
    powerEnd (name ++ rest) = none ∨ ∃ more, (∀ c ∈ more, Text.isIdentContinue c) ∧
      powerEnd (name ++ after) = some (more ++ after) ∧
      powerEnd (name ++ rest) = some (more ++ rest) := by
  cases name with
  | nil => exact .inl (powerEnd_stops hrest)
  | cons c name =>
    by_cases hc : c = 'e' ∨ c = 'E'
    · simpa [powerEnd, hc] using
        exponentEnd_word hafter hrest false (List.forall_mem_cons.1 hname).2
    · left
      simp [powerEnd, hc]

/-- The text behind a float and its suffix. -/
def floatEnd (cs : List Char) : Option (List Char) := (floatDigitsEnd cs).bind numberEnd

theorem floatEnd_eq_none {c : Char} (h : ¬ c.isDigit) (cs : List Char) :
    floatEnd (c :: cs) = none := by
  rw [floatEnd, floatDigitsEnd_eq_none h, Option.bind_none]

/-- **A float ends where something stops it.** -/
theorem floatEnd_eq_some (h : floatEnd cs = some after) : TakesFront floatEnd cs after := by
  obtain ⟨left, hleft, hnumber⟩ := Option.bind_eq_some_iff.1 h
  obtain ⟨hafter, name, rfl, hword, hname⟩ := numberEnd_eq_some hnumber
  rcases cs with _ | ⟨c, cs⟩
  · cases hleft
  have hdigit : c.isDigit := by
    by_contra hno
    rw [floatDigitsEnd_eq_none hno] at hleft
    cases hleft
  have hstep (cs : List Char) : floatMantissaEnd false (c :: cs) = floatMantissaEnd false cs := by
    rw [floatMantissaEnd, if_pos (by simp [hdigit])]
  cases hmantissa : floatMantissaEnd false (c :: cs) with
  | none => simp [floatDigitsEnd, hdigit, hmantissa] at hleft
  | some found =>
    obtain ⟨pointed, behind⟩ := found
    rw [floatDigitsEnd_eq hdigit hmantissa] at hleft
    obtain ⟨taken, rfl, htaken⟩ := floatMantissaEnd_eq_some ((hstep cs).symm.trans hmantissa)
    have hrun {rest : List Char} (hrest : Resembles behind rest) :
        floatDigitsEnd (c :: (taken ++ rest)) =
          (powerEnd rest).or (if pointed then some rest else none) :=
      floatDigitsEnd_eq hdigit ((hstep _).trans (htaken rest hrest))
    have hresembles {rest : List Char} (hstops : Stops rest) :
        Resembles (name ++ after) (name ++ rest) :=
      Resembles.append (.inl hstops) name
    cases hpower : powerEnd behind with
    | some m =>
      rw [hpower, Option.some_or] at hleft
      cases hleft
      obtain ⟨power, rfl, hpowered⟩ := powerEnd_eq_some hpower
      refine ⟨c :: (taken ++ (power ++ name)), by simp, fun rest hstops => ?_⟩
      have hend := hpowered _ (hresembles hstops)
      have hdigits := hrun ((hresembles hstops).append power)
      rw [hend, Option.some_or] at hdigits
      simp only [floatEnd, List.cons_append, List.append_assoc, hdigits, Option.bind_some]
      exact hname rest hstops.endsWord
    | none =>
      rw [hpower, Option.none_or] at hleft
      split_ifs at hleft with hpointed
      cases hleft
      refine ⟨c :: (taken ++ name), by simp, fun rest hstops => ?_⟩
      have hnone : powerEnd (name ++ rest) = none := by
        rcases powerEnd_word hafter hstops hword with hnone | ⟨more, -, hsome, -⟩
        · exact hnone
        · rw [hpower] at hsome
          cases hsome
      have hdigits := hrun (hresembles hstops)
      rw [hnone, Option.none_or, if_pos hpointed] at hdigits
      simp only [floatEnd, List.cons_append, List.append_assoc, hdigits, Option.bind_some]
      exact hname rest hstops.endsWord

theorem floatMantissaEnd_word : ∀ {name : List Char}, (∀ c ∈ name, Text.isIdentContinue c) →
    (∃ left, (∀ c ∈ left, Text.isIdentContinue c) ∧
      ∀ rest, floatMantissaEnd false (name ++ rest) = some (false, left ++ rest)) ∨
      ∀ rest, Stops rest → floatMantissaEnd false (name ++ rest) = some (false, rest)
  | [], _ => .inr fun _ hstops => floatMantissaEnd_stops false hstops
  | c :: name, h => by
    obtain ⟨hc, hname⟩ := List.forall_mem_cons.1 h
    by_cases hdigit : c.isDigit || c = '_'
    · have hstep (cs : List Char) :
          floatMantissaEnd false (c :: cs) = floatMantissaEnd false cs := by
        rw [floatMantissaEnd, if_pos hdigit]
      simpa only [List.cons_append, hstep] using floatMantissaEnd_word hname
    · left
      have hpoint : c ≠ '.' := Text.ne_of_isIdentContinue hc (by decide)
      refine ⟨c :: name, h, fun rest => ?_⟩
      rw [List.cons_append, floatMantissaEnd, if_neg hdigit, if_neg (by simp [hpoint])]

/-- **A word that is no float in front of one text is none where something stops it.** -/
theorem floatEnd_word {name after rest : List Char} (hafter : EndsWord after) (hrest : Stops rest)
    (hname : ∀ c ∈ name, Text.isIdentContinue c) (h : floatEnd (name ++ after) = none) :
    floatEnd (name ++ rest) = none := by
  rcases name with _ | ⟨c, name⟩
  · rcases rest with _ | ⟨c, rest⟩
    · rfl
    · exact floatEnd_eq_none (by simp [hrest.not_digit.1]) rest
  by_cases hdigit : c.isDigit
  swap
  · exact floatEnd_eq_none hdigit _
  rcases floatMantissaEnd_word hname with ⟨left, hleft, hmantissa⟩ | hmantissa
  · have hend (cs : List Char) :
        floatEnd (c :: name ++ cs) = (powerEnd (left ++ cs)).bind numberEnd := by
      have hrun : floatMantissaEnd false (c :: (name ++ cs)) = some (false, left ++ cs) :=
        hmantissa cs
      rw [floatEnd, List.cons_append, floatDigitsEnd_eq hdigit hrun]
      simp
    rw [hend] at h ⊢
    rcases powerEnd_word hafter hrest hleft with hnone | ⟨more, hmore, hwas, his⟩
    · rw [hnone]
      rfl
    · rw [hwas, Option.bind_some] at h
      rw [his, Option.bind_some]
      rcases numberEnd_word hmore with hall | hnone
      · rw [hall after hafter] at h
        cases h
      · exact hnone rest hrest.endsWord
  · have hrun : floatMantissaEnd false (c :: (name ++ rest)) = some (false, rest) :=
      hmantissa rest hrest
    rw [floatEnd, List.cons_append, floatDigitsEnd_eq hdigit hrun, powerEnd_stops hrest]
    rfl

/-! ## Whole numbers -/

theorem wholeDigitsEnd_stops (base : Nat) : ∀ {rest : List Char}, Stops rest →
    wholeDigitsEnd base false rest = some rest
  | [], _ => rfl
  | c :: rest, h => by
    obtain ⟨-, hmark, -, -, -, -, -, hdigit⟩ := h.not_digit
    simp [wholeDigitsEnd, hmark, hdigit]

theorem wholeDigitsEnd_eq_some {base : Nat} : ∀ {cs : List Char} {empty : Bool} {after : List Char},
    wholeDigitsEnd base empty cs = some after → ∃ taken, cs = taken ++ after ∧
      (∀ c ∈ taken, Text.isIdentContinue c) ∧ (empty → taken ≠ []) ∧
      ∀ rest, Resembles after rest → wholeDigitsEnd base empty (taken ++ rest) = some rest
  | [], empty, _, h => by
    cases empty with
    | true => cases h
    | false =>
      cases h
      exact ⟨[], rfl, List.forall_mem_nil _, nofun, fun rest hrest =>
        wholeDigitsEnd_stops base hrest.stops⟩
  | c :: cs, empty, after, h => by
    -- Digits and underscores are taken; where one is, the character alone decides it.
    have htaken (next : Bool) (hc : Text.isIdentContinue c)
        (hstep : ∀ cs, wholeDigitsEnd base empty (c :: cs) = wholeDigitsEnd base next cs) :
        ∃ taken, c :: cs = taken ++ after ∧ (∀ c ∈ taken, Text.isIdentContinue c) ∧
          (empty → taken ≠ []) ∧
          ∀ rest, Resembles after rest → wholeDigitsEnd base empty (taken ++ rest) = some rest := by
      obtain ⟨taken, rfl, hword, -, htaken⟩ := wholeDigitsEnd_eq_some ((hstep cs).symm.trans h)
      exact ⟨c :: taken, rfl, List.forall_mem_cons.2 ⟨hc, hword⟩, fun _ => List.cons_ne_nil _ _,
        fun rest hrest => (hstep _).trans (htaken rest hrest)⟩
    have hstopped (hstop : ∀ cs, wholeDigitsEnd base empty (c :: cs) =
        if empty then none else some (c :: cs)) :
        ∃ taken, c :: cs = taken ++ after ∧ (∀ c ∈ taken, Text.isIdentContinue c) ∧
          (empty → taken ≠ []) ∧
          ∀ rest, Resembles after rest → wholeDigitsEnd base empty (taken ++ rest) = some rest := by
      rw [hstop] at h
      split_ifs at h with hempty
      cases h
      rw [Bool.not_eq_true] at hempty
      subst hempty
      refine ⟨[], rfl, List.forall_mem_nil _, nofun, fun rest hrest => ?_⟩
      rcases hrest.cons with hstops | ⟨more, rfl⟩
      · exact wholeDigitsEnd_stops base hstops
      · exact hstop more
    by_cases hmark : c = '_'
    · by_cases hnone : empty ∧ base = 10
      · simp [wholeDigitsEnd, hmark, hnone] at h
      · exact htaken empty (by rw [hmark]; rfl) fun cs => by simp [wholeDigitsEnd, hmark, hnone]
    cases hdigit : hexDigit? c with
    | none => exact hstopped fun cs => by simp [wholeDigitsEnd, hmark, hdigit]
    | some d =>
      by_cases hd : d < base
      · exact htaken false (isIdentContinue_of_hexDigit hdigit) fun cs => by
          simp [wholeDigitsEnd, hmark, hdigit, hd]
      · by_cases hc : c.isDigit
        · simp [wholeDigitsEnd, hmark, hdigit, hd, hc] at h
        · exact hstopped fun cs => by simp [wholeDigitsEnd, hmark, hdigit, hd, hc]

/-- What marks the base of a number behind a zero. -/
def baseMarks : List Char := ['x', 'o', 'b']

theorem wholeNumberEnd_plain (h : ∀ mark ∈ baseMarks, ¬ ['0', mark] <+: cs) :
    wholeNumberEnd cs = wholeDigitsEnd 10 true cs := by
  have hne (mark : Char) (hmark : mark ∈ baseMarks) (rest : List Char) :
      cs ≠ '0' :: mark :: rest := by
    rintro rfl
    exact h mark hmark ⟨rest, rfl⟩
  unfold wholeNumberEnd
  split
  · exact absurd rfl (hne 'x' (by decide) _)
  · exact absurd rfl (hne 'o' (by decide) _)
  · exact absurd rfl (hne 'b' (by decide) _)
  · rfl

theorem wholeNumberEnd_eq_some (h : wholeNumberEnd cs = some after) : ∃ taken, cs = taken ++ after ∧
    (∀ c ∈ taken, Text.isIdentContinue c) ∧
      ∀ rest, Resembles after rest → wholeNumberEnd (taken ++ rest) = some rest := by
  have hmarked {mark : Char} {base : Nat} {more : List Char} (hmark : Text.isIdentContinue mark)
      (heq : ∀ cs, wholeNumberEnd ('0' :: mark :: cs) = wholeDigitsEnd base true cs)
      (h : wholeDigitsEnd base true more = some after) :
      ∃ taken, '0' :: mark :: more = taken ++ after ∧ (∀ c ∈ taken, Text.isIdentContinue c) ∧
        ∀ rest, Resembles after rest → wholeNumberEnd (taken ++ rest) = some rest := by
    obtain ⟨taken, rfl, hword, -, htaken⟩ := wholeDigitsEnd_eq_some h
    refine ⟨'0' :: mark :: taken, rfl, ?_, fun rest hrest => (heq _).trans (htaken rest hrest)⟩
    exact List.forall_mem_cons.2 ⟨rfl, List.forall_mem_cons.2 ⟨hmark, hword⟩⟩
  by_cases hplain : ∀ mark ∈ baseMarks, ¬ ['0', mark] <+: cs
  · rw [wholeNumberEnd_plain hplain] at h
    obtain ⟨taken, rfl, hword, hsome, htaken⟩ := wholeDigitsEnd_eq_some h
    refine ⟨taken, rfl, hword, fun rest hrest => ?_⟩
    rw [wholeNumberEnd_plain, htaken rest hrest]
    rintro mark hmark ⟨more, hmore⟩
    refine hplain mark hmark ?_
    rcases taken with _ | ⟨c, _ | ⟨d, taken⟩⟩
    · exact absurd rfl (hsome rfl)
    · obtain ⟨rfl, rfl⟩ : '0' = c ∧ mark :: more = rest := List.cons.inj hmore
      rcases hrest with hstops | hhead
      · have hnot : ∀ mark ∈ baseMarks, ¬ Stops (mark :: more) := by simp [baseMarks, Stops]
        exact absurd hstops (hnot mark hmark)
      · obtain ⟨behind, rfl⟩ := List.head?_eq_some_iff.1 hhead.symm
        exact ⟨behind, rfl⟩
    · obtain ⟨rfl, hbehind⟩ : '0' = c ∧ mark :: more = d :: (taken ++ rest) := List.cons.inj hmore
      obtain ⟨rfl, -⟩ := List.cons.inj hbehind
      exact ⟨taken ++ after, rfl⟩
  · obtain ⟨mark, hmark, hstarts⟩ : ∃ mark ∈ baseMarks, ['0', mark] <+: cs := by
      simpa only [not_forall, not_not, exists_prop] using hplain
    obtain ⟨more, rfl⟩ := hstarts
    simp only [baseMarks, List.mem_cons, List.not_mem_nil, or_false] at hmark
    rcases hmark with rfl | rfl | rfl
    · exact hmarked rfl (fun _ => rfl) h
    · exact hmarked rfl (fun _ => rfl) h
    · exact hmarked rfl (fun _ => rfl) h

/-- The text behind a whole number and its suffix. -/
def wholeEnd (cs : List Char) : Option (List Char) := (wholeNumberEnd cs).bind numberEnd

theorem wholeEnd_eq_none {c : Char} (h : ¬ c.isDigit) (cs : List Char) :
    wholeEnd (c :: cs) = none := by
  rw [wholeEnd, wholeNumberEnd_eq_none h, Option.bind_none]

/-- **A whole number is a word**, and ends where something stops it. -/
theorem wholeEnd_eq_some (h : wholeEnd cs = some after) : EndsWord after ∧ ∃ taken,
    cs = taken ++ after ∧ (∀ c ∈ taken, Text.isIdentContinue c) ∧
      ∀ rest, Stops rest → wholeEnd (taken ++ rest) = some rest := by
  obtain ⟨left, hleft, hnumber⟩ := Option.bind_eq_some_iff.1 h
  obtain ⟨hafter, name, rfl, hword, hname⟩ := numberEnd_eq_some hnumber
  obtain ⟨taken, rfl, hdigits, htaken⟩ := wholeNumberEnd_eq_some hleft
  refine ⟨hafter, taken ++ name, (List.append_assoc ..).symm,
    List.forall_mem_append.2 ⟨hdigits, hword⟩, fun rest hstops => ?_⟩
  rw [wholeEnd, List.append_assoc, htaken _ (Resembles.append (.inl hstops) name), Option.bind_some,
    hname rest hstops.endsWord]

end GraphRepo.Source

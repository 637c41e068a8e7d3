import Mathlib.Data.List.TakeWhile
import GraphRepo.Proofs.Outcome
import GraphRepo.Proofs.Settings.Numbers

/-!
# Texts that stand for themselves

Which texts a setting in one line reads as what they are. A text without white space at its ends is
read as something else exactly if it is a truth value, a number, one character in single quotes, or
a quoted text, a list or a table from its first character to its last.
-/

namespace GraphRepo.Literal

open Text Text.Reader

variable {α β : Type} {cs rest : List Char} {fault : CutFault}

/-! ## Readers that a cut may stop -/

theorem run_bind_ok {x : SettingReader α} {f : α → SettingReader β} {a : α}
    (h : x.run cs = some (.ok a, rest)) : (x >>= f).run cs = (f a).run rest := by
  have hrun : (x >>= f).run cs = (x.run cs).bind fun p => (ExceptT.bindCont f p.1) p.2 := rfl
  rw [hrun, h]
  rfl

theorem run_bind_cut {x : SettingReader α} {f : α → SettingReader β}
    (h : x.run cs = some (.error fault, rest)) :
    (x >>= f).run cs = some (.error fault, rest) := by
  have hrun : (x >>= f).run cs = (x.run cs).bind fun p => (ExceptT.bindCont f p.1) p.2 := rfl
  rw [hrun, h]
  rfl

theorem run_bind_none {x : SettingReader α} {f : α → SettingReader β} (h : x.run cs = none) :
    (x >>= f).run cs = none := by
  have hrun : (x >>= f).run cs = (x.run cs).bind fun p => (ExceptT.bindCont f p.1) p.2 := rfl
  rw [hrun, h]
  rfl

theorem run_lift {r : Reader α} {a : α} (h : r.run cs = some (a, rest)) :
    (liftM r : SettingReader α).run cs = some (.ok a, rest) := by
  have hrun : (liftM r : SettingReader α).run cs =
      (r.run cs).bind fun p => some (.ok p.1, p.2) := rfl
  rw [hrun, h]
  rfl

theorem run_lift_none {r : Reader α} (h : r.run cs = none) :
    (liftM r : SettingReader α).run cs = none := by
  have hrun : (liftM r : SettingReader α).run cs =
      (r.run cs).bind fun p => some (.ok p.1, p.2) := rfl
  rw [hrun, h]
  rfl

theorem lift_eq_ok {r : Reader α} {a : α} :
    (liftM r : SettingReader α).run cs = some (.ok a, rest) ↔ r.run cs = some (a, rest) := by
  refine ⟨fun h => ?_, run_lift⟩
  cases hr : r.run cs with
  | none =>
    rw [run_lift_none hr] at h
    cases h
  | some p =>
    rw [run_lift hr] at h
    cases h
    rfl

theorem setting_bind_eq_ok {x : SettingReader α} {f : α → SettingReader β} {b : β}
    (h : (x >>= f).run cs = some (.ok b, rest)) :
    ∃ a mid, x.run cs = some (.ok a, mid) ∧ (f a).run mid = some (.ok b, rest) := by
  cases hx : x.run cs with
  | none =>
    rw [run_bind_none hx] at h
    cases h
  | some p =>
    obtain ⟨result, mid⟩ := p
    cases result with
    | error fault =>
      rw [run_bind_cut hx] at h
      cases h
    | ok a =>
      rw [run_bind_ok hx] at h
      exact ⟨a, mid, rfl, h⟩

/-! ## One value -/

/-- A value without the white space around it. -/
def value (fuel : Nat) : SettingReader Setting := do
  if ← takes "true".toList then return .bool true
  if ← takes "false".toList then return .bool false
  match ← peek with
  | some '\x7b' => discard char; return .table (Table.ofList (← literalEntries fuel))
  | some '[' => discard char; return .list (← literalItems fuel)
  | some '\x22' => return .string (← quotedText)
  | some '\x27' =>
    discard char
    let c ← char
    exactly ['\x27']
    return .string (String.singleton c)
  | _ => return ofBare (trim (← takeWhile isBare))

theorem literal_succ (fuel : Nat) : literal (fuel + 1) = (do
    skipGap
    let v ← value fuel
    skipGap
    return v) := by
  rw [literal]
  rfl

theorem takes_expected {expected : List Char} (h : expected <+: cs) :
    (takes expected).run cs = some (true, cs.drop expected.length) := by
  unfold takes
  rw [run_orElse, StateT.run_bind, run_exactly, if_pos (List.isPrefixOf_iff_prefix.2 h)]
  rfl

theorem takes_other {expected : List Char} (h : ¬expected <+: cs) :
    (takes expected).run cs = some (false, cs) := by
  have hprefix : ¬expected.isPrefixOf cs = true := fun hp => h (List.isPrefixOf_iff_prefix.1 hp)
  unfold takes
  rw [run_orElse, StateT.run_bind, run_exactly, if_neg hprefix]
  rfl

theorem value_true (fuel : Nat) (h : "true".toList <+: cs) :
    (value fuel).run cs = some (.ok (.bool true), cs.drop 4) := by
  unfold value
  rw [run_bind_ok (run_lift (takes_expected h))]
  rfl

theorem value_false (fuel : Nat) (h : "false".toList <+: cs) :
    (value fuel).run cs = some (.ok (.bool false), cs.drop 5) := by
  have htrue : ¬"true".toList <+: cs := by
    obtain ⟨rest, rfl⟩ := h
    simp
  unfold value
  rw [run_bind_ok (run_lift (takes_other htrue)), if_neg (by decide),
    run_bind_ok (run_lift (takes_expected h))]
  rfl

theorem value_bracket (fuel : Nat) (rest : List Char) : (value fuel).run ('[' :: rest) =
    (do return .list (← literalItems fuel) : SettingReader Setting).run rest := rfl

theorem value_brace (fuel : Nat) (rest : List Char) : (value fuel).run ('\x7b' :: rest) =
    (do return .table (Table.ofList (← literalEntries fuel)) : SettingReader Setting).run rest :=
  rfl

theorem value_quote (fuel : Nat) (rest : List Char) : (value fuel).run ('\x22' :: rest) =
    (do return .string (← quotedText) : SettingReader Setting).run ('\x22' :: rest) := rfl

theorem value_character (fuel : Nat) (c : Char) (rest : List Char) :
    (value fuel).run ('\x27' :: c :: '\x27' :: rest) =
      some (.ok (.string (String.singleton c)), rest) := rfl

theorem value_apostrophe (fuel : Nat) (h : ∀ c left, rest ≠ c :: '\x27' :: left) :
    (value fuel).run ('\x27' :: rest) = none := by
  cases rest with
  | nil => rfl
  | cons c behind =>
    have hexactly : (exactly ['\x27']).run behind = none := by
      rw [run_exactly]
      cases behind with
      | nil => rfl
      | cons d left =>
        have hd : d ≠ '\x27' := fun hd => h c left (by rw [hd])
        rw [if_neg (by simp [hd.symm])]
    have hrun : (value fuel).run ('\x27' :: c :: behind) = (do
        exactly ['\x27']
        return .string (String.singleton c) : SettingReader Setting).run behind := rfl
    rw [hrun, run_bind_none (run_lift_none hexactly)]

/-- How a value starts that is not a bare text. -/
def isMark (c : Char) : Bool := c = '\x7b' || c = '[' || c = '\x22' || c = '\x27'

theorem value_bare (fuel : Nat) (ht : ¬"true".toList <+: cs) (hf : ¬"false".toList <+: cs)
    (hmark : ∀ c ∈ cs.head?, isMark c = false) : (value fuel).run cs =
      some (.ok (ofBare (trim (cs.takeWhile isBare))), cs.dropWhile isBare) := by
  have hpeek : peek.run cs = some (cs.head?, cs) := rfl
  unfold value
  rw [run_bind_ok (run_lift (takes_other ht)), if_neg (by decide),
    run_bind_ok (run_lift (takes_other hf)), if_neg (by decide),
    run_bind_ok (run_lift hpeek)]
  split
  · rename_i hc
    exact absurd (hmark _ hc) (by decide)
  · rename_i hc
    exact absurd (hmark _ hc) (by decide)
  · rename_i hc
    exact absurd (hmark _ hc) (by decide)
  · rename_i hc
    exact absurd (hmark _ hc) (by decide)
  · rfl

/-! ## The white space around it -/

theorem isBlank_of_isGap {c : Char} (h : isGap c = true) : isBlank c = true := by
  simp only [isGap, Bool.or_eq_true, decide_eq_true_eq] at h
  rcases h with (((rfl | rfl) | rfl) | rfl) | rfl <;> rfl

theorem head_of_length_dropWhile {p : Char → Bool} (h : cs.length ≤ (cs.dropWhile p).length) :
    ∀ c ∈ cs.head?, p c = false := by
  intro c hc
  cases cs with
  | nil => cases hc
  | cons d rest =>
    cases hc
    refine Bool.eq_false_iff.2 fun hp => ?_
    have hlength := (List.dropWhile_suffix (l := rest) p).length_le
    rw [List.dropWhile_cons_of_pos hp, List.length_cons] at h
    omega

theorem ends_of_trim (h : trim cs = cs) :
    (∀ c ∈ cs.head?, isBlank c = false) ∧ ∀ c ∈ cs.reverse.head?, isBlank c = false := by
  have hlength : ((cs.dropWhile isBlank).reverse.dropWhile isBlank).length = cs.length := by
    rw [← List.length_reverse, ← trim, h]
  have hback := (List.dropWhile_suffix (l := (cs.dropWhile isBlank).reverse) isBlank).length_le
  rw [List.length_reverse] at hback
  have hfront := (List.dropWhile_suffix (l := cs) isBlank).eq_of_length_le (by omega)
  rw [hfront] at hlength
  exact ⟨head_of_length_dropWhile (Nat.le_of_eq (by rw [hfront])),
    head_of_length_dropWhile (Nat.le_of_eq (by rw [hlength, List.length_reverse]))⟩

theorem dropWhile_gap_of_trim (h : trim cs = cs) : cs.dropWhile isGap = cs := by
  obtain ⟨hfront, -⟩ := ends_of_trim h
  cases cs with
  | nil => rfl
  | cons c rest =>
    refine List.dropWhile_cons_of_neg fun hgap => ?_
    have hblank := hfront c rfl
    rw [isBlank_of_isGap hgap] at hblank
    cases hblank

/-- Nothing but white space at the end of a trimmed text is nothing at all. -/
theorem eq_nil_of_gap {before left : List Char} (h : trim (before ++ left) = before ++ left)
    (hgap : left.all isGap = true) : left = [] := by
  obtain ⟨-, hback⟩ := ends_of_trim h
  rw [List.reverse_append] at hback
  refine List.reverse_eq_nil_iff.1 ?_
  cases hleft : left.reverse with
  | nil => rfl
  | cons c rest =>
    rw [hleft] at hback
    have hblank := hback c rfl
    have hmem : c ∈ left := List.mem_reverse.1 (hleft ▸ List.mem_cons_self)
    rw [isBlank_of_isGap (List.all_eq_true.1 hgap c hmem)] at hblank
    cases hblank

/-! ## The whole text -/

variable {s : String} {left : List Char} {v : Setting}

theorem run_skipGap (cs : List Char) :
    (liftM skipGap : SettingReader Unit).run cs = some (.ok (), cs.dropWhile isGap) := by
  have hskip : skipGap.run cs = some ((), cs.dropWhile isGap) :=
    run_discard_eq_some.2 ⟨_, run_takeWhile isGap cs⟩
  exact run_lift hskip

theorem setting_of_value (htrim : trim s.toList = s.toList)
    (h : (value s.toList.length).run s.toList = some (.ok v, left)) :
    setting s = if left.all isGap then .ok v else .ok (.string s) := by
  have hread : (literal (s.toList.length + 1)).run s.toList =
      some (.ok v, left.dropWhile isGap) := by
    rw [literal_succ, run_bind_ok (run_skipGap _), dropWhile_gap_of_trim htrim, run_bind_ok h,
      run_bind_ok (run_skipGap _)]
    rfl
  have hgap : left.all isGap = true ↔ left.dropWhile isGap = [] := by
    rw [List.all_eq_true, List.dropWhile_eq_nil_iff]
  unfold setting
  dsimp only
  rw [hread]
  by_cases hleft : left.dropWhile isGap = []
  · rw [if_pos (hgap.2 hleft), hleft]
  · rw [if_neg fun h => hleft (hgap.1 h)]
    cases hrest : left.dropWhile isGap with
    | nil => exact absurd hrest hleft
    | cons c rest => rfl

theorem setting_of_cut (htrim : trim s.toList = s.toList)
    (h : (value s.toList.length).run s.toList = some (.error fault, left)) :
    setting s = .error fault := by
  have hread : (literal (s.toList.length + 1)).run s.toList = some (.error fault, left) := by
    rw [literal_succ, run_bind_ok (run_skipGap _), dropWhile_gap_of_trim htrim, run_bind_cut h]
  unfold setting
  dsimp only
  rw [hread]

theorem setting_of_none (htrim : trim s.toList = s.toList)
    (h : (value s.toList.length).run s.toList = none) : setting s = .ok (.string s) := by
  have hread : (literal (s.toList.length + 1)).run s.toList = none := by
    rw [literal_succ, run_bind_ok (run_skipGap _), dropWhile_gap_of_trim htrim, run_bind_none h]
  unfold setting
  dsimp only
  rw [hread]

/-! ## Quoted texts are shorter than they look -/

theorem length_cutAfter {kept : List Char} : ∀ {cs : List Char} {n start : Nat},
    cutAfter n start cs = .ok kept → kept.length ≤ cs.length
  | [], n, start, h => by
    cases h
    exact Nat.le_refl _
  | c :: rest, n, start, h => by
    rw [cutAfter] at h
    split at h
    · cases h
      exact Nat.zero_le _
    · split at h
      · obtain ⟨more, hmore, rfl⟩ := map_eq_ok.1 h
        exact Nat.succ_le_succ (length_cutAfter hmore)
      · cases h

/-- A reader that leaves no more than it was given. -/
def Shrinks (r : Reader α) : Prop :=
  ∀ cs a left, r.run cs = some (a, left) → left.length ≤ cs.length

theorem shrinks_pure (a : α) : Shrinks (pure a) := by
  intro cs b left h
  cases h
  exact Nat.le_refl _

theorem shrinks_failure : Shrinks (failure : Reader α) := by
  intro cs a left h
  cases h

theorem Shrinks.bind {x : Reader α} {f : α → Reader β} (hx : Shrinks x) (hf : ∀ a, Shrinks (f a)) :
    Shrinks (x >>= f) := by
  intro cs b left h
  obtain ⟨a, mid, ha, hb⟩ := run_bind_eq_some.1 h
  exact Nat.le_trans (hf a _ _ _ hb) (hx _ _ _ ha)

theorem shrinks_hexNumeral (n : Nat) : Shrinks (hexNumeral n) := by
  intro cs a left h
  have hrun : (hexNumeral n).run cs = StateT.run (do
      if (cs.take n).length = n ∧ (cs.take n).all isHexDigit then
        set (cs.drop n)
        return numeral 16 (cs.take n)
      else failure : Reader Nat) cs := rfl
  rw [hrun] at h
  split at h
  · cases h
    rw [List.length_drop]
    omega
  · cases h

theorem shrinks_scalar (n : Nat) : Shrinks (scalar n) := by
  unfold scalar
  split
  · exact shrinks_pure _
  · exact shrinks_failure

theorem char_eq_some {c : Char} : char.run cs = some (c, rest) ↔ cs = c :: rest := by
  cases cs with
  | nil => exact ⟨fun h => (by cases h), fun h => (by cases h)⟩
  | cons d more =>
    constructor
    · intro h
      cases h
      rfl
    · intro h
      cases h
      rfl

/-- The character that stands behind a backslash. -/
def escaped : Reader Char := do
  match ← char with
  | 'b' => return '\x08'
  | 'f' => return '\x0c'
  | 'n' => return '\n'
  | 'r' => return '\r'
  | 't' => return '\t'
  | 'u' => scalar (← hexNumeral 4)
  | 'U' => scalar (← hexNumeral 8)
  | c => if c = '\x22' ∨ c = '\\' then return c else failure

theorem shrinks_escaped : Shrinks escaped := by
  have hchar : Shrinks char := by
    intro cs c left h
    rw [char_eq_some.1 h]
    exact Nat.le_succ _
  refine hchar.bind fun c => ?_
  split
  case h_6 | h_7 => exact (shrinks_hexNumeral _).bind shrinks_scalar
  case h_8 =>
    split
    · exact shrinks_pure _
    · exact shrinks_failure
  all_goals exact shrinks_pure _

theorem length_unescape {text : List Char} : ∀ {fuel : Nat} {cs left : List Char},
    (unescape fuel).run cs = some (text, left) → text.length + left.length ≤ cs.length := by
  intro fuel
  induction fuel generalizing text with
  | zero =>
    intro cs left h
    cases h
    exact Nat.le_of_eq (Nat.zero_add _)
  | succ fuel ih =>
    intro cs left h
    cases cs with
    | nil =>
      cases h
      exact Nat.le_refl _
    | cons c rest =>
      by_cases hc : c = '\\'
      · subst hc
        have hrun : (unescape (fuel + 1)).run ('\\' :: rest) =
          StateT.run (do return (← escaped) :: (← unescape fuel)) rest := rfl
        rw [hrun] at h
        obtain ⟨c, mid, hescaped, hmore⟩ := run_bind_eq_some.1 h
        obtain ⟨more, last, hunescape, hdone⟩ := run_bind_eq_some.1 hmore
        cases hdone
        -- An escape is longer than the one character it stands for.
        have hmid := shrinks_escaped _ _ _ hescaped
        have hlength := ih hunescape
        rw [List.length_cons, List.length_cons]
        omega
      · have hrun : (unescape (fuel + 1)).run (c :: rest) =
            StateT.run (do return (← charThat isQuotable) :: (← unescape fuel)) (c :: rest) := by
          have hpeek : peek.run (c :: rest) = some (some c, c :: rest) := rfl
          rw [unescape, run_bind_of_some hpeek]
          split
          · rename_i hnone
            cases hnone
          · rename_i hbackslash
            exact absurd (Option.some.inj hbackslash) hc
          · rfl
        rw [hrun] at h
        obtain ⟨d, mid, htaken, hmore⟩ := run_bind_eq_some.1 h
        obtain ⟨more, last, hunescape, hdone⟩ := run_bind_eq_some.1 hmore
        cases hdone
        obtain ⟨htaken, -⟩ := charThat_eq_some.1 htaken
        cases htaken
        have hlength := ih hunescape
        rw [List.length_cons, List.length_cons]
        omega

theorem length_quotedSpan : ∀ {cs body left : List Char},
    quotedSpan cs = some (body, left) → body.length < cs.length := by
  intro cs
  fun_induction quotedSpan cs with
  | case1 => exact fun h => (by cases h)
  | case2 c rest ih =>
    intro body left h
    obtain ⟨⟨more, after⟩, hmore, hboth⟩ := Option.map_eq_some_iff.1 h
    cases hboth
    have hlength := ih hmore
    simp only [List.length_cons]
    omega
  | case3 rest =>
    intro body left h
    cases h
    exact Nat.zero_lt_succ _
  | case4 c rest hbackslash hquote ih =>
    intro body left h
    obtain ⟨⟨more, after⟩, hmore, hboth⟩ := Option.map_eq_some_iff.1 h
    cases hboth
    have hlength := ih hmore
    simp only [List.length_cons]
    omega

theorem length_quotedValue {body text : List Char} (h : quotedValue? body = some (.ok text)) :
    text.length ≤ body.length := by
  unfold quotedValue? at h
  dsimp only at h
  split at h
  · cases h
  · split at h
    · cases h
      exact (List.takeWhile_prefix _).length_le
    · split at h
      · cases h
      · rename_i kept hkept
        obtain ⟨more, hmore, hboth⟩ := Option.map_eq_some_iff.1 h
        cases hboth
        have hleft := length_cutAfter hkept
        have hright := length_unescape (whole?_eq_some.1 hmore)
        rw [List.length_drop, List.length_nil] at hright
        rw [List.length_append]
        have hplain := (List.takeWhile_prefix (l := body) (· ≠ '\\')).length_le
        omega

theorem length_quotedText {text : String} (h : quotedText.run cs = some (.ok text, left)) :
    text.toList.length < cs.length := by
  unfold quotedText at h
  obtain ⟨_, mid, hquote, hrest⟩ := setting_bind_eq_ok h
  obtain ⟨body, after, hbody, hvalue⟩ := setting_bind_eq_ok hrest
  obtain ⟨chars, last, hchars, hdone⟩ := setting_bind_eq_ok hvalue
  cases hdone
  obtain ⟨value, hsome, hpair⟩ := Option.map_eq_some_iff.1 hchars
  cases hpair
  have hcs := run_exactly_eq_some.1 (lift_eq_ok.1 hquote)
  have hspan := length_quotedSpan (lift_eq_ok.1 hbody)
  have hlength := length_quotedValue hsome
  rw [hcs, List.length_append, String.toList_ofList, List.length_singleton]
  omega

/-! ## What is read as something else -/

/-- Texts that are read as something else than themselves. -/
inductive Misread : List Char → Prop
  | truth (b : Bool) : Misread (toString b).toList
  | number {cs : List Char} (number : IsNumber cs) : Misread cs
  | character (c : Char) : Misread ['\x27', c, '\x27']
  /-- A quoted text, a list or a table, up to the end if no cut stops it. -/
  | compound {c : Char} {rest left : List Char} {result : Except CutFault Setting}
    (mark : c = '\x22' ∨ c = '[' ∨ c = '\x7b')
    (read : (value (rest.length + 1)).run (c :: rest) = some (result, left))
    (whole : result.isOk = true → left.all isGap = true) : Misread (c :: rest)

theorem setting_of_bare (htrim : trim s.toList = s.toList) (ht : ¬"true".toList <+: s.toList)
    (hf : ¬"false".toList <+: s.toList) (hmark : ∀ c ∈ s.toList.head?, isMark c = false) :
    setting s = if s.toList.all isBare then .ok (ofBare s.toList) else .ok (.string s) := by
  rw [setting_of_value htrim (value_bare _ ht hf hmark)]
  by_cases hall : s.toList.all isBare = true
  · have hbare := List.all_eq_true.1 hall
    have htake : s.toList.takeWhile isBare = s.toList := List.takeWhile_eq_self_iff.2 hbare
    have hdrop : s.toList.dropWhile isBare = [] := List.dropWhile_eq_nil_iff.2 hbare
    rw [if_pos hall, hdrop, List.all_nil, if_pos rfl, htake, htrim]
  · have hleft : ¬(s.toList.dropWhile isBare).all isGap = true := by
      intro hgap
      have hsplit : s.toList.takeWhile isBare ++ s.toList.dropWhile isBare = s.toList :=
        List.takeWhile_append_dropWhile
      have hnil := eq_nil_of_gap (by rw [hsplit, htrim]) hgap
      exact hall (List.all_eq_true.2 (List.dropWhile_eq_nil_iff.1 hnil))
    rw [if_neg hall, if_neg hleft]

/-- The list, the table or the text that a value with a mark is. -/
theorem value_ne_self {c : Char} {fuel : Nat} (hmark : c = '\x22' ∨ c = '[' ∨ c = '\x7b')
    (h : (value fuel).run (c :: rest) = some (.ok v, left)) (hs : s.toList = c :: rest) :
    v ≠ .string s := by
  rintro rfl
  rcases hmark with rfl | rfl | rfl
  · rw [value_quote] at h
    obtain ⟨text, mid, htext, hdone⟩ := setting_bind_eq_ok h
    cases hdone
    have hlength := length_quotedText htext
    rw [hs] at hlength
    exact Nat.lt_irrefl _ hlength
  · rw [value_bracket] at h
    obtain ⟨items, mid, -, hdone⟩ := setting_bind_eq_ok h
    cases hdone
  · rw [value_brace] at h
    obtain ⟨entries, mid, -, hdone⟩ := setting_bind_eq_ok h
    cases hdone

theorem of_isNumeric {c : Char} (h : isNumeric c = true) : isMark c = false ∧ isBare c = true := by
  constructor
  · refine Bool.eq_false_iff.2 fun hmark => ?_
    simp only [isMark, Bool.or_eq_true, decide_eq_true_eq] at hmark
    rcases hmark with ((rfl | rfl) | rfl) | rfl <;> cases h
  · cases hbare : isBare c with
    | true => rfl
    | false =>
      simp only [isBare, Bool.and_eq_false_iff, decide_eq_false_iff_not, Classical.not_not] at hbare
      rcases hbare with (((rfl | rfl) | rfl) | rfl) | rfl <;> cases h

theorem setting_of_misread (htrim : trim s.toList = s.toList) (h : Misread s.toList) :
    setting s ≠ .ok (.string s) := by
  generalize hcs : s.toList = cs at h
  cases h with
  | truth b =>
    obtain rfl := String.toList_inj.1 hcs
    cases b with
    | true =>
      rw [setting_of_value htrim (value_true _ List.prefix_rfl)]
      exact fun h => by cases h
    | false =>
      rw [setting_of_value htrim (value_false _ List.prefix_rfl)]
      exact fun h => by cases h
  | number hnumber =>
    have hnumeric := List.all_eq_true.1 hnumber.numeric
    have hstart {c : Char} {more : List Char} (hc : isNumeric c = false) :
        ¬c :: more <+: s.toList := by
      rintro ⟨rest, hrest⟩
      rw [← hcs, ← hrest] at hnumeric
      rw [hnumeric c List.mem_cons_self] at hc
      cases hc
    have hmark : ∀ c ∈ s.toList.head?, isMark c = false := by
      intro c hc
      rw [hcs] at hc
      exact (of_isNumeric (hnumeric c (List.mem_of_head? hc))).1
    have hbare : s.toList.all isBare = true := by
      rw [hcs]
      exact List.all_eq_true.2 fun c hc => (of_isNumeric (hnumeric c hc)).2
    rw [setting_of_bare htrim (hstart rfl) (hstart rfl) hmark, if_pos hbare, hcs]
    exact fun h => ofBare_of_isNumber hnumber s (Except.ok.inj h)
  | character c =>
    -- The quotes around the character are no part of what is read.
    have hread : (value s.toList.length).run s.toList =
        some (.ok (.string (String.singleton c)), []) := by
      rw [hcs]
      exact value_character _ c []
    rw [setting_of_value htrim hread]
    intro h
    have hlist : (String.singleton c).toList = s.toList :=
      congrArg String.toList (Setting.string.inj (Except.ok.inj h))
    rw [hcs, String.toList_singleton] at hlist
    cases hlist
  | @compound c rest left result hmark hread hwhole =>
    have hread' : (value s.toList.length).run s.toList = some (result, left) := by
      rw [hcs]
      exact hread
    cases result with
    | error fault =>
      rw [setting_of_cut htrim hread']
      intro h
      cases h
    | ok v =>
      rw [setting_of_value htrim hread', if_pos (hwhole rfl)]
      intro h
      exact value_ne_self hmark hread hcs (Except.ok.inj h)

/-- A word that is read stops a trimmed text from being read only if it is all of it. -/
theorem setting_of_word {word : List Char} (htrim : trim s.toList = s.toList)
    (hread : (value s.toList.length).run s.toList = some (.ok v, s.toList.drop word.length))
    (hword : word <+: s.toList) (hne : s.toList ≠ word) : setting s = .ok (.string s) := by
  obtain ⟨left, hleft⟩ := hword
  rw [← hleft, List.drop_left, hleft] at hread
  rw [setting_of_value htrim hread, if_neg]
  intro hgap
  have hnil := eq_nil_of_gap (by rw [hleft, htrim]) hgap
  rw [hnil, List.append_nil] at hleft
  exact hne hleft.symm

theorem setting_of_apostrophe (htrim : trim s.toList = s.toList)
    (hcs : s.toList = '\x27' :: rest) (h : ¬Misread s.toList) : setting s = .ok (.string s) := by
  by_cases hcharacter : ∃ c left, rest = c :: '\x27' :: left
  · obtain ⟨c, left, rfl⟩ := hcharacter
    have hword : ['\x27', c, '\x27'] <+: s.toList := ⟨left, hcs.symm⟩
    have hread := value_character s.toList.length c left
    rw [← hcs] at hread
    refine setting_of_word htrim (by rw [hread, hcs]; rfl) hword fun hs => h ?_
    rw [hs]
    exact .character c
  · refine setting_of_none htrim ?_
    rw [hcs]
    exact value_apostrophe _ fun c left hrest => hcharacter ⟨c, left, hrest⟩

theorem setting_of_compound {c : Char} (htrim : trim s.toList = s.toList)
    (hcs : s.toList = c :: rest) (hmark : c = '\x22' ∨ c = '[' ∨ c = '\x7b')
    (h : ¬Misread s.toList) : setting s = .ok (.string s) := by
  cases hread : (value s.toList.length).run s.toList with
  | none => exact setting_of_none htrim hread
  | some p =>
    obtain ⟨result, left⟩ := p
    have hmisread (hwhole : result.isOk = true → left.all isGap = true) : Misread s.toList := by
      rw [hcs] at hread ⊢
      exact .compound hmark hread hwhole
    cases result with
    | error fault => exact absurd (hmisread fun hok => by cases hok) h
    | ok v => rw [setting_of_value htrim hread, if_neg fun hgap => h (hmisread fun _ => hgap)]

theorem setting_of_not_misread (htrim : trim s.toList = s.toList) (h : ¬Misread s.toList) :
    setting s = .ok (.string s) := by
  by_cases ht : "true".toList <+: s.toList
  · refine setting_of_word htrim (value_true _ ht) ht fun hs => h ?_
    rw [hs]
    exact .truth true
  by_cases hf : "false".toList <+: s.toList
  · refine setting_of_word htrim (value_false _ hf) hf fun hs => h ?_
    rw [hs]
    exact .truth false
  by_cases hmark : ∃ c ∈ s.toList.head?, isMark c = true
  · obtain ⟨c, hc, hmark⟩ := hmark
    obtain ⟨rest, hcs⟩ := List.head?_eq_some_iff.1 hc
    simp only [isMark, Bool.or_eq_true, decide_eq_true_eq] at hmark
    rcases hmark with ((hbrace | hbracket) | hquote) | rfl
    · exact setting_of_compound htrim hcs (.inr (.inr hbrace)) h
    · exact setting_of_compound htrim hcs (.inr (.inl hbracket)) h
    · exact setting_of_compound htrim hcs (.inl hquote) h
    · exact setting_of_apostrophe htrim hcs h
  · have hplain : ∀ c ∈ s.toList.head?, isMark c = false := fun c hc =>
      Bool.eq_false_iff.2 fun hc' => hmark ⟨c, hc, hc'⟩
    rw [setting_of_bare htrim ht hf hplain, ofBare_of_not_isNumber fun hn => h (.number hn),
      String.ofList_toList, ite_self]

/-- **A text without white space at its ends stands for itself exactly if it is not one of those
that are read as something else.** -/
theorem setting_eq_self_iff (htrim : trim s.toList = s.toList) :
    setting s = .ok (.string s) ↔ ¬Misread s.toList :=
  ⟨fun h hmisread => setting_of_misread htrim hmisread h, setting_of_not_misread htrim⟩

/-- A text is not misread that starts with no mark and nothing a number starts with. -/
theorem not_misread_of_start {c : Char} (hmark : isMark c = false) (hnumeric : isNumeric c = false)
    (hwords : ∀ b : Bool, c :: rest ≠ (toString b).toList) : ¬Misread (c :: rest) := by
  generalize hcs : c :: rest = cs
  intro h
  cases h with
  | truth b => exact hwords b hcs
  | number hnumber =>
    have hall := List.all_eq_true.1 hnumber.numeric c (by rw [← hcs]; exact List.mem_cons_self)
    rw [hnumeric] at hall
    cases hall
  | character d =>
    cases hcs
    cases hmark
  | compound hcompound =>
    cases hcs
    rcases hcompound with rfl | rfl | rfl <;> cases hmark

end GraphRepo.Literal

import GraphRepo.Settings.Literal

/-!
# Texts that are numbers

Which texts a setting in one line takes for a number: an unsigned whole number below `2 ^ 64`, with
a plus sign or without, a negative one down to `-2 ^ 63`, and any decimal with a point. Whole
numbers that are larger, and numbers with an exponent and no point, stay texts.
-/

namespace GraphRepo.Text.Reader

variable {α β : Type} {cs rest : List Char}

theorem run_bind_eq_some {x : Reader α} {f : α → Reader β} {b : β} :
    (x >>= f).run cs = some (b, rest) ↔
      ∃ a mid, x.run cs = some (a, mid) ∧ (f a).run mid = some (b, rest) := by
  rw [StateT.run_bind]
  constructor
  · intro h
    obtain ⟨⟨a, mid⟩, ha, hb⟩ := Option.bind_eq_some_iff.1 h
    exact ⟨a, mid, ha, hb⟩
  · rintro ⟨a, mid, ha, hb⟩
    exact Option.bind_eq_some_iff.2 ⟨(a, mid), ha, hb⟩

theorem run_bind_of_some {x : Reader α} {f : α → Reader β} {a : α} (h : x.run cs = some (a, rest)) :
    (x >>= f).run cs = (f a).run rest := by
  rw [StateT.run_bind, h]
  rfl

theorem whole?_eq_some {r : Reader α} {a : α} : r.whole? cs = some a ↔ r.run cs = some (a, []) := by
  unfold whole?
  constructor
  · intro h
    obtain ⟨⟨b, left⟩, hb, h⟩ := Option.bind_eq_some_iff.1 h
    rw [hb]
    cases left with
    | nil =>
      cases h
      rfl
    | cons c left => cases h
  · intro h
    rw [h]
    rfl

theorem run_takeWhile (p : Char → Bool) (cs : List Char) :
    (takeWhile p).run cs = some (cs.takeWhile p, cs.dropWhile p) := rfl

theorem run_exactly (expected cs : List Char) : (exactly expected).run cs =
    if expected.isPrefixOf cs then some ((), cs.drop expected.length) else none := by
  have hrun : (exactly expected).run cs =
      StateT.run
        (if expected.isPrefixOf cs then set (cs.drop expected.length) else failure) cs := rfl
  rw [hrun]
  split <;> rfl

theorem run_exactly_eq_some {expected : List Char} :
    (exactly expected).run cs = some ((), rest) ↔ cs = expected ++ rest := by
  rw [run_exactly]
  constructor
  · intro h
    split at h
    · rename_i hprefix
      obtain ⟨behind, rfl⟩ := List.isPrefixOf_iff_prefix.1 hprefix
      cases h
      rw [List.drop_left]
    · cases h
  · rintro rfl
    rw [if_pos (List.isPrefixOf_iff_prefix.2 (List.prefix_append _ _)), List.drop_left]

theorem run_orElse (x y : Reader α) (cs : List Char) :
    (x <|> y).run cs = (x.run cs <|> y.run cs) := rfl

theorem run_takes (c : Char) (cs : List Char) : (takes [c]).run cs =
    some (if cs.head? = some c then (true, cs.tail) else (false, cs)) := by
  unfold takes
  rw [run_orElse, StateT.run_bind, run_exactly]
  cases cs with
  | nil => rfl
  | cons d rest =>
    by_cases h : d = c
    · have hprefix : [c].isPrefixOf (d :: rest) = true := by simp [h]
      have hhead : (d :: rest).head? = some c := congrArg some h
      rw [if_pos hprefix, if_pos hhead]
      rfl
    · have hprefix : ¬[c].isPrefixOf (d :: rest) = true := by simp [Ne.symm h]
      have hhead : ¬(d :: rest).head? = some c := fun hd => h (Option.some.inj hd)
      rw [if_neg hprefix, if_neg hhead]
      rfl

theorem discard_eq (x : Reader α) : discard x = x >>= fun _ => pure () := by
  funext cs
  show (x.map fun _ => ()) cs = _
  rfl

theorem run_discard_eq_some {x : Reader α} :
    (discard x).run cs = some ((), rest) ↔ ∃ a, x.run cs = some (a, rest) := by
  rw [discard_eq, run_bind_eq_some]
  constructor
  · rintro ⟨a, mid, ha, hmid⟩
    cases hmid
    exact ⟨a, ha⟩
  · rintro ⟨a, ha⟩
    exact ⟨a, rest, ha, rfl⟩

theorem charThat_eq_some {p : Char → Bool} {c : Char} :
    (charThat p).run cs = some (c, rest) ↔ cs = c :: rest ∧ p c = true := by
  cases cs with
  | nil => exact ⟨fun h => (by cases h), fun h => (by cases h.1)⟩
  | cons d more =>
    have hrun : (charThat p).run (d :: more) =
      StateT.run (if p d then pure d else failure) more := rfl
    rw [hrun]
    constructor
    · intro h
      split at h
      · cases h
        exact ⟨rfl, ‹_›⟩
      · cases h
    · rintro ⟨hc, hp⟩
      cases hc
      rw [if_pos hp]
      rfl

theorem takeSome_eq_some {p : Char → Bool} {taken : List Char} :
    (takeSome p).run cs = some (taken, rest) ↔
      cs.takeWhile p = taken ∧ cs.dropWhile p = rest ∧ taken ≠ [] := by
  have hrun : (takeSome p).run cs = StateT.run
      (if (cs.takeWhile p).isEmpty then failure else pure (cs.takeWhile p)) (cs.dropWhile p) := rfl
  rw [hrun]
  cases cs.takeWhile p with
  | nil =>
    refine ⟨fun h => (by cases h), ?_⟩
    rintro ⟨rfl, -, hne⟩
    exact absurd rfl hne
  | cons c more =>
    constructor
    · intro h
      cases h
      exact ⟨rfl, rfl, List.cons_ne_nil c more⟩
    · rintro ⟨rfl, rfl, -⟩
      rfl

end GraphRepo.Text.Reader

namespace GraphRepo.Literal

open Text Text.Reader

/-! ## Signs and powers of ten -/

/-- A sign and whether it is a minus. -/
def minusSign : Reader Bool := do
  let minus ← takes ['-']
  if !minus then discard (takes ['+'])
  return minus

/-- The power of ten behind a decimal. -/
def exponent : Reader Int := do
  discard (charThat fun c => c = 'e' || c = 'E')
  let negative ← minusSign
  let n : Int := numeral 10 (← takeSome Char.isDigit)
  return if negative then -n else n

theorem minusSign_bind {α : Type} (f : Bool → Reader α) : minusSign >>= f =
    takes ['-'] >>= fun minus =>
      if !minus then discard (takes ['+']) >>= fun _ => f minus else f minus := by
  unfold minusSign
  rw [bind_assoc]
  congr 1
  funext minus
  cases minus <;> simp

theorem decimal_eq : decimal = (do
    let minus ← minusSign
    let whole ← takeWhile Char.isDigit
    let fraction ← (do exactly ['.']; takeWhile Char.isDigit)
    if whole.isEmpty ∧ fraction.isEmpty then failure
    let power ← exponent <|> pure 0
    return Double.ofDecimal minus (numeral 10 (whole ++ fraction)) (power - fraction.length)) := by
  unfold exponent
  simp only [minusSign_bind]
  rfl

/-- A sign, or none. -/
def IsSign (sign : List Char) : Prop := sign = [] ∨ sign = ['-'] ∨ sign = ['+']

/-- A power of ten, or none. -/
inductive IsPower : List Char → Prop
  | none : IsPower []
  | some {e : Char} {sign digits : List Char} (letter : e = 'e' ∨ e = 'E') (signed : IsSign sign)
    (digit : digits ≠ []) (all : digits.all Char.isDigit) : IsPower (e :: sign ++ digits)

variable {cs rest sign : List Char}

theorem run_minusSign (cs : List Char) : minusSign.run cs =
    some (decide (cs.head? = some '-'),
      if cs.head? = some '-' ∨ cs.head? = some '+' then cs.tail else cs) := by
  have hplus : (discard (takes ['+'])).run cs =
      some ((), if cs.head? = some '+' then cs.tail else cs) := by
    rw [discard_eq, StateT.run_bind, run_takes]
    by_cases hplus : cs.head? = some '+' <;> simp [hplus]
  unfold minusSign
  rw [StateT.run_bind, run_takes]
  by_cases hminus : cs.head? = some '-'
  · rw [if_pos hminus, if_pos (.inl hminus)]
    simp [hminus]
  · rw [if_neg hminus]
    simp [hminus, hplus]

theorem isSign_of_minusSign {minus : Bool} (h : minusSign.run cs = some (minus, rest)) :
    ∃ sign, IsSign sign ∧ cs = sign ++ rest := by
  rw [run_minusSign] at h
  cases h
  by_cases hsign : cs.head? = some '-' ∨ cs.head? = some '+'
  · rw [if_pos hsign]
    cases cs with
    | nil => simp at hsign
    | cons c rest =>
      rw [List.head?_cons, Option.some_inj, Option.some_inj] at hsign
      rcases hsign with rfl | rfl
      · exact ⟨['-'], .inr (.inl rfl), rfl⟩
      · exact ⟨['+'], .inr (.inr rfl), rfl⟩
  · rw [if_neg hsign]
    exact ⟨[], .inl rfl, rfl⟩

theorem minusSign_of_isSign (h : IsSign sign)
    (hrest : rest.head? ≠ some '-' ∧ rest.head? ≠ some '+') :
    ∃ minus, minusSign.run (sign ++ rest) = some (minus, rest) := by
  rw [run_minusSign]
  rcases h with rfl | rfl | rfl
  · rw [List.nil_append, if_neg (not_or.2 hrest)]
    exact ⟨_, rfl⟩
  · exact ⟨_, rfl⟩
  · exact ⟨_, rfl⟩

/-! ## Decimals -/

theorem all_of_takeWhile {p : Char → Bool} {taken : List Char} (h : cs.takeWhile p = taken) :
    taken.all p = true := by
  rw [← h]
  exact List.all_takeWhile

theorem takeWhile_append_of_all {p : Char → Bool} {taken : List Char} (h : taken.all p = true)
    (hrest : ∀ c ∈ rest.head?, p c = false) : (taken ++ rest).takeWhile p = taken := by
  have hall : ∀ c ∈ taken, p c = true := List.all_eq_true.1 h
  rw [List.takeWhile_append_of_pos hall]
  cases rest with
  | nil => simp
  | cons c rest => simp [hrest c rfl]

theorem dropWhile_append_of_all {p : Char → Bool} {taken : List Char} (h : taken.all p = true)
    (hrest : ∀ c ∈ rest.head?, p c = false) : (taken ++ rest).dropWhile p = rest := by
  have hall : ∀ c ∈ taken, p c = true := List.all_eq_true.1 h
  rw [List.dropWhile_append_of_pos hall]
  cases rest with
  | nil => rfl
  | cons c rest => simp [hrest c rfl]

theorem isPower_of_exponent {n : Int} (h : exponent.run cs = some (n, [])) : IsPower cs := by
  unfold exponent at h
  obtain ⟨_, mid, hletter, hsigned⟩ := run_bind_eq_some.1 h
  obtain ⟨minus, left, hsign, hdigits⟩ := run_bind_eq_some.1 hsigned
  obtain ⟨digits, last, htaken, hlast⟩ := run_bind_eq_some.1 hdigits
  cases hlast
  obtain ⟨e, he⟩ := run_discard_eq_some.1 hletter
  obtain ⟨rfl, hep⟩ := charThat_eq_some.1 he
  obtain ⟨sign, hs, rfl⟩ := isSign_of_minusSign hsign
  obtain ⟨htake, hdrop, hne⟩ := takeSome_eq_some.1 htaken
  have hleft : left = digits := by
    rw [← List.takeWhile_append_dropWhile (p := Char.isDigit) (l := left), htake, hdrop,
      List.append_nil]
  subst hleft
  exact .some (by simpa using hep) hs hne (all_of_takeWhile htake)

theorem exponent_of_isPower (h : IsPower cs) (hne : cs ≠ []) :
    ∃ n, exponent.run cs = some (n, []) := by
  cases h with
  | none => exact absurd rfl hne
  | @some e sign digits hletter hsign hdigits hall =>
    have hhead : ∀ c, c.isDigit = false → digits.head? ≠ some c := by
      intro c hc hhead
      have hmem := List.mem_of_head? hhead
      rw [List.all_eq_true.1 hall c hmem] at hc
      cases hc
    obtain ⟨minus, hminus⟩ := minusSign_of_isSign hsign ⟨hhead '-' rfl, hhead '+' rfl⟩
    have hletter : (discard (charThat fun c => c = 'e' || c = 'E')).run (e :: (sign ++ digits)) =
        some ((), sign ++ digits) :=
      run_discard_eq_some.2 ⟨e, charThat_eq_some.2 ⟨rfl, by simpa using hletter⟩⟩
    have htaken : (takeSome Char.isDigit).run digits = some (digits, []) := by
      have htake := @takeWhile_append_of_all [] _ digits hall (by simp)
      have hdrop := @dropWhile_append_of_all [] _ digits hall (by simp)
      rw [List.append_nil] at htake hdrop
      exact takeSome_eq_some.2 ⟨htake, hdrop, hdigits⟩
    unfold exponent
    rw [List.cons_append, run_bind_of_some hletter, run_bind_of_some hminus,
      run_bind_of_some htaken]
    exact ⟨_, rfl⟩

/-- A decimal with a point. -/
inductive IsDecimal : List Char → Prop
  | of {sign whole fraction power : List Char} (signed : IsSign sign)
    (whole_all : whole.all Char.isDigit) (fraction_all : fraction.all Char.isDigit)
    (digit : ¬(whole = [] ∧ fraction = [])) (powered : IsPower power) :
    IsDecimal (sign ++ (whole ++ '.' :: (fraction ++ power)))

theorem isDecimal_of_decimal {x : Double} (h : decimal.whole? cs = some x) : IsDecimal cs := by
  rw [whole?_eq_some, decimal_eq] at h
  obtain ⟨minus, unsigned, hsign, hwhole⟩ := run_bind_eq_some.1 h
  obtain ⟨whole, pointed, htake, hfraction⟩ := run_bind_eq_some.1 hwhole
  obtain ⟨fraction, left, hpoint, hdigit⟩ := run_bind_eq_some.1 hfraction
  obtain ⟨_, behind, hexactly, hdigits⟩ := run_bind_eq_some.1 hpoint
  split at hdigit
  · cases hdigit
  · rename_i hne
    obtain ⟨n, last, hpower, hlast⟩ := run_bind_eq_some.1 hdigit
    cases hlast
    obtain ⟨sign, hs, rfl⟩ := isSign_of_minusSign hsign
    cases htake
    have hbehind := run_exactly_eq_some.1 hexactly
    cases hdigits
    have hpowered : IsPower (behind.dropWhile Char.isDigit) := by
      rw [run_orElse] at hpower
      cases hexponent : exponent.run (behind.dropWhile Char.isDigit) with
      | none =>
        rw [hexponent] at hpower
        have hnothing : some ((0 : Int), behind.dropWhile Char.isDigit) = some (n, []) := hpower
        rw [(Prod.mk.inj (Option.some.inj hnothing)).2]
        exact .none
      | some p =>
        rw [hexponent] at hpower
        cases hpower
        exact isPower_of_exponent hexponent
    have hparts : unsigned = unsigned.takeWhile Char.isDigit ++
        '.' :: (behind.takeWhile Char.isDigit ++ behind.dropWhile Char.isDigit) := by
      rw [List.takeWhile_append_dropWhile, ← List.singleton_append, ← hbehind,
        List.takeWhile_append_dropWhile]
    rw [hparts]
    exact .of hs List.all_takeWhile List.all_takeWhile (by simpa using hne) hpowered

theorem decimal_of_isDecimal (h : IsDecimal cs) : ∃ x, decimal.whole? cs = some x := by
  obtain ⟨hsign, hwhole, hfraction, hdigit, hpower⟩ := h
  rename_i sign whole fraction power
  -- Each part ends where the next one starts, with a character it cannot have.
  have hfirst : ∀ c ∈ (whole ++ '.' :: (fraction ++ power)).head?, c.isDigit = true ∨ c = '.' := by
    intro c hc
    cases whole with
    | nil =>
      cases hc
      exact .inr rfl
    | cons d whole =>
      cases hc
      exact .inl (List.all_eq_true.1 hwhole c List.mem_cons_self)
  have hpoint : ∀ c ∈ ('.' :: (fraction ++ power)).head?, c.isDigit = false := by
    intro c hc
    cases hc
    rfl
  have hletter : ∀ c ∈ power.head?, c.isDigit = false := by
    intro c hc
    cases hpower with
    | none => cases hc
    | some hletter =>
      cases hc
      rcases hletter with rfl | rfl <;> rfl
  obtain ⟨minus, hminus⟩ := minusSign_of_isSign hsign
    ⟨fun h => absurd (hfirst '-' h) (by decide), fun h => absurd (hfirst '+' h) (by decide)⟩
  have hpowered : ∃ n, (exponent <|> pure 0).run power = some (n, []) := by
    by_cases hnone : power = []
    · subst hnone
      exact ⟨0, rfl⟩
    · obtain ⟨n, hn⟩ := exponent_of_isPower hpower hnone
      exact ⟨n, by rw [run_orElse, hn]; rfl⟩
  obtain ⟨n, hn⟩ := hpowered
  have hdigits : ¬(whole.isEmpty = true ∧ fraction.isEmpty = true) := by simpa using hdigit
  have hpointed : StateT.run (do exactly ['.']; takeWhile Char.isDigit : Reader (List Char))
      ('.' :: (fraction ++ power)) = some (fraction, power) := by
    have hexactly : (exactly ['.']).run ('.' :: (fraction ++ power)) =
      some ((), fraction ++ power) := run_exactly_eq_some.2 rfl
    rw [run_bind_of_some hexactly, run_takeWhile, takeWhile_append_of_all hfraction hletter,
      dropWhile_append_of_all hfraction hletter]
  simp only [whole?_eq_some, decimal_eq]
  rw [run_bind_of_some hminus, run_bind_of_some (run_takeWhile _ _),
    takeWhile_append_of_all hwhole hpoint, dropWhile_append_of_all hwhole hpoint,
    run_bind_of_some hpointed, if_neg hdigits, run_bind_of_some hn]
  exact ⟨_, rfl⟩

/-! ## Whole numbers -/

/-- A text that is taken for a number. -/
inductive IsNumber : List Char → Prop
  | unsigned {plus digits : List Char} (signed : plus = [] ∨ plus = ['+']) (digit : digits ≠ [])
    (all : digits.all Char.isDigit) (bound : numeral 10 digits < 18446744073709551616) :
    IsNumber (plus ++ digits)
  | negative {digits : List Char} (digit : digits ≠ []) (all : digits.all Char.isDigit)
    (bound : numeral 10 digits ≤ 9223372036854775808) : IsNumber ('-' :: digits)
  | decimal {cs : List Char} (pointed : IsDecimal cs) : IsNumber cs

theorem isNumber_of_unsigned {n : Nat} (h : unsigned? cs = some n) : IsNumber cs := by
  unfold unsigned? at h
  dsimp only at h
  split at h
  · split at h
    · rename_i hdigits
      obtain ⟨hne, hall, hbound⟩ := hdigits
      exact @IsNumber.unsigned ['+'] _ (.inr rfl) (by simpa using hne) hall hbound
    · cases h
  · split at h
    · rename_i hdigits
      obtain ⟨hne, hall, hbound⟩ := hdigits
      exact @IsNumber.unsigned [] _ (.inl rfl) (by simpa using hne) hall hbound
    · cases h

theorem unsigned_of_digits {plus digits : List Char} (hplus : plus = [] ∨ plus = ['+'])
    (hne : digits ≠ []) (hall : digits.all Char.isDigit)
    (hbound : numeral 10 digits < 18446744073709551616) : unsigned? (plus ++ digits) ≠ none := by
  have hdigits : (!digits.isEmpty) = true ∧ digits.all Char.isDigit = true ∧
      numeral 10 digits < 18446744073709551616 := ⟨by simpa using hne, hall, hbound⟩
  intro h
  rcases hplus with rfl | rfl
  · unfold unsigned? at h
    dsimp only at h
    split at h
    · rename_i hplus
      cases hplus
      cases hall
    · rw [List.nil_append, if_pos hdigits] at h
      cases h
  · have hsome : unsigned? ('+' :: digits) = some (numeral 10 digits) := if_pos hdigits
    cases hsome.symm.trans h

theorem isNumber_of_signed {n : Int} (h : signed? cs = some n) : IsNumber cs := by
  unfold signed? at h
  split at h
  · split at h
    · rename_i hdigits
      obtain ⟨hne, hall, hbound⟩ := hdigits
      exact .negative (by simpa using hne) hall hbound
    · cases h
  · cases h

theorem ofBare_of_isNumber (h : IsNumber cs) (text : String) : ofBare cs ≠ .string text := by
  intro htext
  unfold ofBare at htext
  split at htext
  · cases htext
  · rename_i hdecimal
    split at htext
    · cases htext
    · cases htext
    · rename_i hunsigned hsigned
      cases h with
      | decimal hpointed =>
        obtain ⟨x, hx⟩ := decimal_of_isDecimal hpointed
        rw [hx] at hdecimal
        cases hdecimal
      | unsigned hplus hne hall hbound =>
        exact unsigned_of_digits hplus hne hall hbound hunsigned
      | @negative digits hne hall hbound =>
        have hdigits : (!digits.isEmpty) = true ∧ digits.all Char.isDigit = true ∧
          numeral 10 digits ≤ 9223372036854775808 := ⟨by simpa using hne, hall, hbound⟩
        have hsome : signed? ('-' :: digits) = some (-(numeral 10 digits : Int)) := if_pos hdigits
        rw [hsome] at hsigned
        cases hsigned

/-- **A bare text stands for itself unless it is a number.** -/
theorem ofBare_of_not_isNumber (h : ¬IsNumber cs) : ofBare cs = .string (String.ofList cs) := by
  have hdecimal : decimal.whole? cs = none :=
    Option.eq_none_iff_forall_ne_some.2 fun x hx => h (.decimal (isDecimal_of_decimal hx))
  have hunsigned : unsigned? cs = none :=
    Option.eq_none_iff_forall_ne_some.2 fun n hn => h (isNumber_of_unsigned hn)
  have hsigned : signed? cs = none :=
    Option.eq_none_iff_forall_ne_some.2 fun n hn => h (isNumber_of_signed hn)
  simp only [ofBare, hdecimal, hunsigned, hsigned]

/-! ## What numbers are made of -/

/-- Whether a character may stand in a number. -/
def isNumeric (c : Char) : Bool := c.isDigit || ['+', '-', '.', 'e', 'E'].contains c

theorem numeric_of_digits {digits : List Char} (h : digits.all Char.isDigit = true) :
    digits.all isNumeric = true := by
  refine List.all_eq_true.2 fun c hc => ?_
  rw [isNumeric, List.all_eq_true.1 h c hc, Bool.true_or]

theorem IsSign.numeric (h : IsSign sign) : sign.all isNumeric = true := by
  rcases h with rfl | rfl | rfl <;> rfl

theorem IsPower.numeric {power : List Char} (h : IsPower power) : power.all isNumeric = true := by
  cases h with
  | none => rfl
  | @some e sign digits hletter hsign hne hall =>
    have he : isNumeric e = true := by rcases hletter with rfl | rfl <;> rfl
    rw [List.cons_append, List.all_cons, he, List.all_append, hsign.numeric,
      numeric_of_digits hall]
    rfl

theorem IsNumber.numeric (h : IsNumber cs) : cs.all isNumeric = true := by
  cases h with
  | unsigned hplus hne hall hbound =>
    have hsign : IsSign _ := hplus.imp_right .inr
    rw [List.all_append, hsign.numeric, numeric_of_digits hall]
    rfl
  | negative hne hall hbound =>
    rw [List.all_cons, numeric_of_digits hall]
    rfl
  | decimal hpointed =>
    obtain ⟨hsign, hwhole, hfraction, -, hpower⟩ := hpointed
    rw [List.all_append, List.all_append, List.all_cons, List.all_append, hsign.numeric,
      numeric_of_digits hwhole, numeric_of_digits hfraction, hpower.numeric]
    rfl

end GraphRepo.Literal

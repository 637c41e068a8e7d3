/-!
# Results that may be errors

How a chain of steps came to its result: each step before the last one succeeded, and the chain
failed where its first failing step did. The same for steps that change a state.
-/

namespace GraphRepo

variable {ε α β : Type}

theorem bind_eq_ok {x : Except ε α} {f : α → Except ε β} {b : β} :
    (x >>= f) = .ok b ↔ ∃ a, x = .ok a ∧ f a = .ok b := by
  cases x <;> simp [bind, Except.bind]

theorem bind_eq_error {x : Except ε α} {f : α → Except ε β} {e : ε} :
    (x >>= f) = .error e ↔ x = .error e ∨ ∃ a, x = .ok a ∧ f a = .error e := by
  cases x <;> simp [bind, Except.bind]

theorem map_eq_ok {x : Except ε α} {f : α → β} {b : β} :
    x.map f = .ok b ↔ ∃ a, x = .ok a ∧ f a = b := by
  cases x <;> simp [Except.map]

theorem map_eq_error {x : Except ε α} {f : α → β} {e : ε} :
    x.map f = .error e ↔ x = .error e := by
  cases x <;> simp [Except.map]

section Stateful

variable {σ : Type} {x y : EStateM ε σ α} {f : α → EStateM ε σ β} {s s' : σ}

theorem run_bind_ok {a : α} (h : x.run s = .ok a s') : (x >>= f).run s = (f a).run s' := by
  unfold EStateM.run at h ⊢
  simp only [bind, EStateM.bind, h]

theorem run_bind_error {e : ε} (h : x.run s = .error e s') :
    (x >>= f).run s = .error e s' := by
  unfold EStateM.run at h ⊢
  simp only [bind, EStateM.bind, h]

theorem run_bind_congr (h : x.run s = y.run s') (f : α → EStateM ε σ β) :
    (x >>= f).run s = (y >>= f).run s' := by
  unfold EStateM.run at h ⊢
  simp only [bind, EStateM.bind, h]

end Stateful

theorem ok_or_error (x : Except ε α) : (∃ a, x = .ok a) ∨ ∃ e, x = .error e := by
  cases x with
  | ok a => exact .inl ⟨a, rfl⟩
  | error e => exact .inr ⟨e, rfl⟩

theorem exists_values {f : α → Except ε β} :
    ∀ {as : List α}, (∀ a ∈ as, ∃ b, f a = .ok b) → ∃ bs : List β, as.map f = bs.map .ok
  | [], _ => ⟨[], rfl⟩
  | a :: rest, h => by
    obtain ⟨⟨b, hb⟩, hall⟩ := List.forall_mem_cons.1 h
    obtain ⟨bs, hbs⟩ := exists_values hall
    exact ⟨b :: bs, by rw [List.map_cons, List.map_cons, hb, hbs]⟩

/-- Values that name what they were made from name all of it, in order. -/
theorem eq_map_of_values {f : α → Except ε β} {source : β → α}
    (hsource : ∀ {a b}, f a = .ok b → source b = a) :
    ∀ {as : List α} {bs : List β}, as.map f = bs.map .ok → as = bs.map source
  | [], [], _ => rfl
  | a :: as, b :: bs, h => by
    obtain ⟨hb, hrest⟩ := List.cons.inj h
    rw [List.map_cons, hsource hb, ← eq_map_of_values hsource hrest]

/-- Each of some results that are all good stands beside its value. -/
theorem mem_zip_values {γ : Type} {f : α → Except ε β} (g : α → γ) {a : α} :
    ∀ {as : List α} {bs : List β}, as.map f = bs.map .ok → a ∈ as →
      ∃ b, f a = .ok b ∧ (g a, b) ∈ (as.map g).zip bs
  | [], _, _, ha => by cases ha
  | a' :: rest, b :: bs, h, ha => by
    obtain ⟨hb, hrest⟩ := List.cons.inj h
    rw [List.map_cons, List.zip_cons_cons]
    obtain rfl | hmem := List.mem_cons.1 ha
    · exact ⟨b, hb, List.mem_cons_self⟩
    · obtain ⟨b', hb', hzip⟩ := mem_zip_values g hrest hmem
      exact ⟨b', hb', List.mem_cons_of_mem _ hzip⟩

/-! ## Results in order -/

/-- Either all results are good, or there is a first that is not. -/
theorem values_or_error (f : α → Except ε β) :
    ∀ as : List α, (∃ bs : List β, as.map f = bs.map .ok) ∨
      ∃ (before : List α) (a : α) (after : List α) (bs : List β) (e : ε),
        as = before ++ a :: after ∧ before.map f = bs.map .ok ∧ f a = .error e
  | [] => .inl ⟨[], rfl⟩
  | a :: rest => by
    cases ha : f a with
    | error e => exact .inr ⟨[], a, rest, [], e, rfl, rfl, ha⟩
    | ok b =>
      rcases values_or_error f rest with ⟨bs, hbs⟩ | ⟨before, c, after, bs, e, rfl, hbs, hc⟩
      · exact .inl ⟨b :: bs, by rw [List.map_cons, List.map_cons, ha, hbs]⟩
      · exact .inr ⟨a :: before, c, after, b :: bs, e, rfl,
          by rw [List.map_cons, List.map_cons, ha, hbs], hc⟩

theorem mapM_eq_ok {f : α → Except ε β} :
    ∀ {as : List α} {bs : List β}, as.mapM f = .ok bs ↔ as.map f = bs.map .ok
  | [], bs => by
    rw [List.mapM_nil, List.map_nil]
    cases bs <;> simp [pure, Except.pure]
  | a :: as, bs => by
    rw [List.mapM_cons, bind_eq_ok]
    simp only [bind_eq_ok, mapM_eq_ok]
    constructor
    · rintro ⟨b, hb, rest, hrest, hp⟩
      cases hp
      rw [List.map_cons, List.map_cons, hb, hrest]
    · intro h
      cases bs with
      | nil => cases h
      | cons b bs =>
        obtain ⟨hb, hrest⟩ := List.cons.inj h
        exact ⟨b, hb, bs, hrest, rfl⟩

theorem mapM_of_error {f : α → Except ε β} {a : α} {e : ε} (ha : f a = .error e) (after : List α) :
    ∀ {before : List α}, (∀ b ∈ before, ∃ c, f b = .ok c) →
      (before ++ a :: after).mapM f = .error e
  | [], _ => by
    rw [List.nil_append, List.mapM_cons]
    exact bind_eq_error.2 (.inl ha)
  | b :: before, h => by
    obtain ⟨⟨c, hc⟩, hbefore⟩ := List.forall_mem_cons.1 h
    have hrest := mapM_of_error ha after hbefore
    rw [List.cons_append, List.mapM_cons]
    exact bind_eq_error.2 (.inr ⟨c, hc, bind_eq_error.2 (.inl hrest)⟩)

/-- **The first error of a row of results is the error of all of them.** -/
theorem mapM_eq_error {f : α → Except ε β} {e : ε} {as : List α} :
    as.mapM f = .error e ↔ ∃ before a after,
      as = before ++ a :: after ∧ (∀ b ∈ before, ∃ c, f b = .ok c) ∧ f a = .error e := by
  constructor
  · intro h
    rcases values_or_error f as with ⟨bs, hbs⟩ | ⟨before, a, after, bs, e', rfl, hbs, ha⟩
    · rw [mapM_eq_ok.2 hbs] at h
      cases h
    · have hbefore : ∀ b ∈ before, ∃ c, f b = .ok c := by
        intro b hb
        obtain ⟨c, hc, -⟩ := mem_zip_values id hbs hb
        exact ⟨c, hc⟩
      rw [mapM_of_error ha after hbefore] at h
      cases h
      exact ⟨before, a, after, rfl, hbefore, ha⟩
  · rintro ⟨before, a, after, rfl, hbefore, ha⟩
    exact mapM_of_error ha after hbefore

end GraphRepo

import GraphRepo.Bolt.Conversion
import GraphRepo.Proofs.Outcome

/-!
# JSON through Bolt and back

A JSON value that goes to Bolt and comes back is the value that went, unless a whole number
somewhere inside it is above the greatest signed word; then it does not go at all.
-/

namespace GraphRepo

/-- A whole number above the greatest signed word. -/
def Whole.ExceedsSigned (n : Whole) : Prop := 9223372036854775807 < n.val

theorem SignedWord.ofInt?_eq_none (n : Whole) :
    SignedWord.ofInt? n.val = none ↔ n.ExceedsSigned := by
  have := n.lower
  unfold SignedWord.ofInt? Whole.ExceedsSigned
  split
  · rename_i h
    simp; omega
  · rename_i h
    simp; omega

theorem SignedWord.toWhole_of_ofInt? {n : Whole} {w : SignedWord}
    (h : SignedWord.ofInt? n.val = some w) : w.toWhole = n := by
  unfold SignedWord.ofInt? at h
  split at h
  · cases h; rfl
  · cases h

namespace Json

/-- `part` is the value itself or stands inside it, at any depth. -/
inductive Within (part : Json) : Json → Prop
  | self : Within part part
  | item {v : Json} {items : List Json} :
    v ∈ items → Within part v → Within part (.array items)
  | field {key : String} {v : Json} {fields : List (String × Json)} :
    (key, v) ∈ fields → Within part v → Within part (.object fields)

/-- Some number of the value, at any depth, is above the greatest signed word. -/
def Oversized (v : Json) : Prop := ∃ n : Whole, (int n).Within v ∧ n.ExceedsSigned

/-! ## What is refused -/

/-- The error for a number that does not fit. -/
def unfit (n : Whole) : RepositoryError :=
  .parameter (toString n.val ++ " does not fit a 64-bit signed integer")

theorem toBolt_int (n : Whole) :
    (n.ExceedsSigned ∧ (Json.int n).toBolt = .error (unfit n)) ∨
      ∃ w, SignedWord.ofInt? n.val = some w ∧ (Json.int n).toBolt = .ok (.int w) := by
  cases h : SignedWord.ofInt? n.val with
  | none => exact .inl ⟨(SignedWord.ofInt?_eq_none n).1 h, by simp [Json.toBolt, h, unfit]⟩
  | some w => exact .inr ⟨w, rfl, by simp [Json.toBolt, h]⟩

mutual

/-- **What is refused names a number inside it that does not fit.** -/
theorem toBolt_error : ∀ {v : Json} {e : RepositoryError}, v.toBolt = .error e →
    ∃ n, (int n).Within v ∧ n.ExceedsSigned ∧ e = unfit n
  | .int n, e, h => by
    obtain ⟨hn, hb⟩ | ⟨w, -, hb⟩ := toBolt_int n
    · exact ⟨n, .self, hn, by rw [hb] at h; cases h; rfl⟩
    · rw [hb] at h; cases h
  | .array items, e, h => by
    obtain ⟨v, hv, n, hn, he⟩ := itemsToBolt_error (map_eq_error.1 (by simpa [toBolt] using h))
    exact ⟨n, .item hv hn, he⟩
  | .object fields, e, h => by
    obtain ⟨k, v, hv, n, hn, he⟩ :=
      fieldsToBolt_error (map_eq_error.1 (by simpa [toBolt] using h))
    exact ⟨n, .field hv hn, he⟩

theorem itemsToBolt_error : ∀ {items : List Json} {e : RepositoryError},
    itemsToBolt items = .error e →
      ∃ v ∈ items, ∃ n, (int n).Within v ∧ n.ExceedsSigned ∧ e = unfit n
  | v :: rest, e, h => by
    rw [itemsToBolt] at h
    obtain hv | ⟨b, -, hr⟩ := bind_eq_error.1 h
    · exact ⟨v, List.mem_cons_self, toBolt_error hv⟩
    · obtain hr | ⟨bs, -, hp⟩ := bind_eq_error.1 hr
      · obtain ⟨u, hu, hn⟩ := itemsToBolt_error hr
        exact ⟨u, List.mem_cons_of_mem v hu, hn⟩
      · cases hp

theorem fieldsToBolt_error : ∀ {fields : List (String × Json)} {e : RepositoryError},
    fieldsToBolt fields = .error e →
      ∃ k v, (k, v) ∈ fields ∧ ∃ n, (int n).Within v ∧ n.ExceedsSigned ∧ e = unfit n
  | (k, v) :: rest, e, h => by
    rw [fieldsToBolt] at h
    obtain hv | ⟨b, -, hr⟩ := bind_eq_error.1 h
    · exact ⟨k, v, List.mem_cons_self, toBolt_error hv⟩
    · obtain hr | ⟨bs, -, hp⟩ := bind_eq_error.1 hr
      · obtain ⟨l, u, hu, hn⟩ := fieldsToBolt_error hr
        exact ⟨l, u, List.mem_cons_of_mem _ hu, hn⟩
      · cases hp

end

/-- A list goes to Bolt only if each of its items does. -/
theorem toBolt_of_mem_items : ∀ {items : List Json} {bs : List BoltValue},
    itemsToBolt items = .ok bs → ∀ v ∈ items, ∃ b, v.toBolt = .ok b
  | u :: rest, bs, h, v, hv => by
    rw [itemsToBolt] at h
    obtain ⟨b, hb, hr⟩ := bind_eq_ok.1 h
    obtain ⟨cs, hc, -⟩ := bind_eq_ok.1 hr
    obtain rfl | hv := List.mem_cons.1 hv
    · exact ⟨b, hb⟩
    · exact toBolt_of_mem_items hc v hv

/-- An object goes to Bolt only if each of its fields does, under its key. -/
theorem mem_fieldsToBolt {key : String} {v : Json} :
    ∀ {fields : List (String × Json)} {bolts : List (String × BoltValue)},
      fieldsToBolt fields = .ok bolts → (key, v) ∈ fields →
        ∃ b, v.toBolt = .ok b ∧ (key, b) ∈ bolts
  | (k, u) :: rest, bolts, h, hv => by
    rw [fieldsToBolt] at h
    obtain ⟨b, hb, hr⟩ := bind_eq_ok.1 h
    obtain ⟨later, hlater, hp⟩ := bind_eq_ok.1 hr
    cases hp
    obtain heq | hmem := List.mem_cons.1 hv
    · cases heq
      exact ⟨b, hb, List.mem_cons_self⟩
    · obtain ⟨c, hc, hcmem⟩ := mem_fieldsToBolt hlater hmem
      exact ⟨c, hc, List.mem_cons_of_mem _ hcmem⟩

/-- **No number inside what goes to Bolt is too great for it.** -/
theorem not_exceedsSigned_of_toBolt {v : Json} {n : Whole} (hn : (int n).Within v) :
    ∀ {b : BoltValue}, v.toBolt = .ok b → ¬ n.ExceedsSigned := by
  generalize hp : int n = part at hn
  induction hn with
  | self =>
    subst hp
    intro b h hx
    obtain ⟨-, hb⟩ | ⟨w, hw, -⟩ := toBolt_int n
    · rw [hb] at h; cases h
    · rw [(SignedWord.ofInt?_eq_none n).2 hx] at hw; cases hw
  | item hv _ ih =>
    intro b h
    obtain ⟨bs, hbs, -⟩ := map_eq_ok.1 (by simpa [toBolt] using h)
    obtain ⟨c, hc⟩ := toBolt_of_mem_items hbs _ hv
    exact ih hc
  | field hv _ ih =>
    intro b h
    obtain ⟨bs, hbs, -⟩ := map_eq_ok.1 (by simpa [toBolt] using h)
    obtain ⟨c, hc, -⟩ := mem_fieldsToBolt hbs hv
    exact ih hc

theorem toBolt_error_iff (v : Json) : (∃ e, v.toBolt = .error e) ↔ v.Oversized := by
  constructor
  · rintro ⟨e, h⟩
    obtain ⟨n, hn, hx, -⟩ := toBolt_error h
    exact ⟨n, hn, hx⟩
  · rintro ⟨n, hn, hx⟩
    obtain ⟨b, h⟩ | h := ok_or_error v.toBolt
    · exact absurd hx (not_exceedsSigned_of_toBolt hn h)
    · exact h

/-! ## What comes back -/

mutual

/-- **What went to Bolt comes back as it was.** -/
theorem toJson_toBolt : ∀ {v : Json} {b : BoltValue}, v.toBolt = .ok b → b.toJson = .ok v
  | .null, b, h => by cases h; rfl
  | .bool x, b, h => by cases h; rfl
  | .string s, b, h => by cases h; rfl
  | .float x, b, h => by
    cases h
    have hx : x.val.isFinite = true := x.finite
    simp [BoltValue.toJson, ofDouble, hx]
  | .int n, b, h => by
    obtain ⟨-, hb⟩ | ⟨w, hw, hb⟩ := toBolt_int n
    · rw [hb] at h; cases h
    · rw [hb] at h; cases h
      simp [BoltValue.toJson, SignedWord.toWhole_of_ofInt? hw]
  | .array items, b, h => by
    obtain ⟨bs, hbs, rfl⟩ := map_eq_ok.1 (by simpa [toBolt] using h)
    simp [BoltValue.toJson, itemsToJson_itemsToBolt hbs, Except.map]
  | .object fields, b, h => by
    obtain ⟨bs, hbs, rfl⟩ := map_eq_ok.1 (by simpa [toBolt] using h)
    simp [BoltValue.toJson, entriesToJson_fieldsToBolt hbs, Except.map]

theorem itemsToJson_itemsToBolt : ∀ {items : List Json} {bs : List BoltValue},
    itemsToBolt items = .ok bs → BoltValue.itemsToJson bs = .ok items
  | [], bs, h => by cases h; rfl
  | v :: rest, bs, h => by
    rw [itemsToBolt] at h
    obtain ⟨b, hb, hr⟩ := bind_eq_ok.1 h
    obtain ⟨cs, hc, hp⟩ := bind_eq_ok.1 hr
    cases hp
    rw [BoltValue.itemsToJson, toJson_toBolt hb, itemsToJson_itemsToBolt hc]
    rfl

theorem entriesToJson_fieldsToBolt :
    ∀ {fields : List (String × Json)} {bs : List (String × BoltValue)},
      fieldsToBolt fields = .ok bs → BoltValue.entriesToJson bs = .ok fields
  | [], bs, h => by cases h; rfl
  | (k, v) :: rest, bs, h => by
    rw [fieldsToBolt] at h
    obtain ⟨b, hb, hr⟩ := bind_eq_ok.1 h
    obtain ⟨cs, hc, hp⟩ := bind_eq_ok.1 hr
    cases hp
    rw [BoltValue.entriesToJson, toJson_toBolt hb, entriesToJson_fieldsToBolt hc]
    rfl

end

/-- **A JSON value is refused, as a parameter, exactly when a number inside it is above the greatest
signed word; every other value comes back from Bolt as it went**, whole numbers as whole numbers and
doubles as doubles, bit by bit. -/
theorem bolt_round_trip (v : Json) :
    ((∃ e, v.toBolt = .error e) ↔ v.Oversized) ∧
      (∀ e, v.toBolt = .error e → ∃ reason, e = .parameter reason) ∧
      (¬ v.Oversized → ∃ b, v.toBolt = .ok b ∧ b.toJson = .ok v) := by
  refine ⟨toBolt_error_iff v, fun e h => ?_, fun hv => ?_⟩
  · obtain ⟨n, -, -, rfl⟩ := toBolt_error h
    exact ⟨_, rfl⟩
  · obtain ⟨b, h⟩ | h := ok_or_error v.toBolt
    · exact ⟨b, h, toJson_toBolt h⟩
    · exact absurd ((toBolt_error_iff v).1 h) hv

end Json

end GraphRepo

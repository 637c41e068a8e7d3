import GraphRepo.Proofs.Bolt.RoundTrip

/-!
# Bolt values as JSON and back

JSON has nothing for some kinds of Bolt values, and a value with one of these inside it is refused.
What is shown as JSON can be sent, and what is sent is its normal form: it has properties in place
of nodes and relationships, and no float that JSON cannot hold. So a second time nothing changes.
-/

namespace GraphRepo

namespace BoltValue

/-- Whether JSON has something for a kind of value. -/
def hasJsonKind : BoltValue → Bool
  | .null | .bool _ | .int _ | .float _ | .string _ | .list _ | .map _ => true
  | .node _ _ _ | .relation _ _ _ _ _ => true
  | _ => false

/-- `part` is the value itself or stands inside it, at any depth. Labels do not count. -/
inductive Within (part : BoltValue) : BoltValue → Prop
  | self : Within part part
  | item {v : BoltValue} {items : List BoltValue} :
    v ∈ items → Within part v → Within part (.list items)
  | entry {key : String} {v : BoltValue} {entries : List (String × BoltValue)} :
    (key, v) ∈ entries → Within part v → Within part (.map entries)
  | nodeProperty {id : SignedWord} {labels : List BoltValue} {key : String} {v : BoltValue}
    {properties : List (String × BoltValue)} :
    (key, v) ∈ properties → Within part v → Within part (.node id labels properties)
  | relationProperty {id start finish : SignedWord} {type key : String} {v : BoltValue}
    {properties : List (String × BoltValue)} :
    (key, v) ∈ properties → Within part v →
      Within part (.relation id start finish type properties)

/-- Some part of the value is of a kind that JSON has nothing for. -/
def IsForeign (v : BoltValue) : Prop := ∃ part : BoltValue, part.Within v ∧ part.hasJsonKind = false

mutual

/-- The value with properties in place of nodes and relationships, and with null in place of floats
that are no finite number. -/
def normal : BoltValue → BoltValue
  | .float x => if x.isFinite then .float x else .null
  | .list items => .list (normalItems items)
  | .map entries => .map (normalEntries entries)
  | .node _ _ properties => .map (normalEntries properties)
  | .relation _ _ _ _ properties => .map (normalEntries properties)
  | v => v

def normalItems : List BoltValue → List BoltValue
  | [] => []
  | v :: rest => v.normal :: normalItems rest

def normalEntries : List (String × BoltValue) → List (String × BoltValue)
  | [] => []
  | (key, v) :: rest => (key, v.normal) :: normalEntries rest

end

/-! ## Items and entries in turn -/

section Turns

variable {v : BoltValue} {rest : List BoltValue} {key : String}
  {entries : List (String × BoltValue)} {e : RepositoryError}

theorem itemsToJson_cons_eq_ok {js : List Json} (h : itemsToJson (v :: rest) = .ok js) :
    ∃ j later, v.toJson = .ok j ∧ itemsToJson rest = .ok later ∧ js = j :: later := by
  rw [itemsToJson] at h
  obtain ⟨j, hj, h⟩ := bind_eq_ok.1 h
  obtain ⟨later, hlater, h⟩ := bind_eq_ok.1 h
  exact ⟨j, later, hj, hlater, (Except.ok.inj h).symm⟩

theorem itemsToJson_cons_eq_error (h : itemsToJson (v :: rest) = .error e) :
    v.toJson = .error e ∨ itemsToJson rest = .error e := by
  rw [itemsToJson] at h
  obtain hv | ⟨j, -, h⟩ := bind_eq_error.1 h
  · exact .inl hv
  · obtain hrest | ⟨later, -, h⟩ := bind_eq_error.1 h
    · exact .inr hrest
    · cases h

theorem entriesToJson_cons_eq_ok {fields : List (String × Json)}
    (h : entriesToJson ((key, v) :: entries) = .ok fields) :
    ∃ j later, v.toJson = .ok j ∧ entriesToJson entries = .ok later ∧
      fields = (key, j) :: later := by
  rw [entriesToJson] at h
  obtain ⟨j, hj, h⟩ := bind_eq_ok.1 h
  obtain ⟨later, hlater, h⟩ := bind_eq_ok.1 h
  exact ⟨j, later, hj, hlater, (Except.ok.inj h).symm⟩

theorem entriesToJson_cons_eq_error (h : entriesToJson ((key, v) :: entries) = .error e) :
    v.toJson = .error e ∨ entriesToJson entries = .error e := by
  rw [entriesToJson] at h
  obtain hv | ⟨j, -, h⟩ := bind_eq_error.1 h
  · exact .inl hv
  · obtain hrest | ⟨later, -, h⟩ := bind_eq_error.1 h
    · exact .inr hrest
    · cases h

end Turns

/-! ## What is refused -/

/-- The error for a part that JSON has nothing for. -/
def unsupported (part : BoltValue) : RepositoryError :=
  .decode ("unsupported Bolt value: " ++ part.describe)

theorem toJson_of_not_hasJsonKind {v : BoltValue} (h : v.hasJsonKind = false) :
    v.toJson = .error v.unsupported := by
  cases v <;> first | rfl | cases h

mutual

/-- **What is refused names a part inside it that JSON has nothing for.** -/
theorem toJson_error : ∀ {v : BoltValue} {e : RepositoryError}, v.toJson = .error e →
    ∃ part : BoltValue, part.Within v ∧ part.hasJsonKind = false ∧ e = part.unsupported
  | .null, e, h | .bool _, e, h | .int _, e, h | .float _, e, h | .string _, e, h => by
    simp [toJson] at h
  | .list items, e, h => by
    obtain ⟨v, hv, part, hpart, hkind, he⟩ :=
      itemsToJson_error (map_eq_error.1 (by simpa [toJson] using h))
    exact ⟨part, .item hv hpart, hkind, he⟩
  | .map entries, e, h => by
    obtain ⟨key, v, hv, part, hpart, hkind, he⟩ :=
      entriesToJson_error (map_eq_error.1 (by simpa [toJson] using h))
    exact ⟨part, .entry hv hpart, hkind, he⟩
  | .node _ _ properties, e, h => by
    obtain ⟨key, v, hv, part, hpart, hkind, he⟩ :=
      entriesToJson_error (map_eq_error.1 (by simpa [toJson] using h))
    exact ⟨part, .nodeProperty hv hpart, hkind, he⟩
  | .relation _ _ _ _ properties, e, h => by
    obtain ⟨key, v, hv, part, hpart, hkind, he⟩ :=
      entriesToJson_error (map_eq_error.1 (by simpa [toJson] using h))
    exact ⟨part, .relationProperty hv hpart, hkind, he⟩
  | .unboundRelation _ _ _, e, h | .bytes _, e, h | .point2d _ _ _, e, h | .point3d _ _ _ _, e, h
  | .duration _ _ _ _, e, h | .date _, e, h | .time _ _, e, h | .localTime _, e, h
  | .dateTime _ _ _, e, h | .localDateTime _ _, e, h | .dateTimeZone _ _ _, e, h
  | .path _ _ _, e, h => by
    rw [toJson_of_not_hasJsonKind rfl] at h
    cases h
    exact ⟨_, .self, rfl, rfl⟩

theorem itemsToJson_error : ∀ {items : List BoltValue} {e : RepositoryError},
    itemsToJson items = .error e →
      ∃ v ∈ items, ∃ part : BoltValue,
        part.Within v ∧ part.hasJsonKind = false ∧ e = part.unsupported
  | v :: rest, e, h => by
    obtain hv | hrest := itemsToJson_cons_eq_error h
    · exact ⟨v, List.mem_cons_self, toJson_error hv⟩
    · obtain ⟨u, hu, hpart⟩ := itemsToJson_error hrest
      exact ⟨u, List.mem_cons_of_mem v hu, hpart⟩

theorem entriesToJson_error : ∀ {entries : List (String × BoltValue)} {e : RepositoryError},
    entriesToJson entries = .error e →
      ∃ key v, (key, v) ∈ entries ∧ ∃ part : BoltValue,
        part.Within v ∧ part.hasJsonKind = false ∧ e = part.unsupported
  | (key, v) :: rest, e, h => by
    obtain hv | hrest := entriesToJson_cons_eq_error h
    · exact ⟨key, v, List.mem_cons_self, toJson_error hv⟩
    · obtain ⟨l, u, hu, hpart⟩ := entriesToJson_error hrest
      exact ⟨l, u, List.mem_cons_of_mem _ hu, hpart⟩

end

theorem toJson_of_mem_items : ∀ {items : List BoltValue} {js : List Json},
    itemsToJson items = .ok js → ∀ v ∈ items, ∃ j, v.toJson = .ok j
  | u :: rest, js, h, v, hv => by
    obtain ⟨j, later, hj, hlater, -⟩ := itemsToJson_cons_eq_ok h
    rcases List.mem_cons.1 hv with rfl | hv
    · exact ⟨j, hj⟩
    · exact toJson_of_mem_items hlater v hv

theorem toJson_of_mem_entries {key : String} {v : BoltValue} :
    ∀ {entries : List (String × BoltValue)} {fields : List (String × Json)},
      entriesToJson entries = .ok fields → (key, v) ∈ entries → ∃ j, v.toJson = .ok j
  | (k, u) :: rest, fields, h, hv => by
    obtain ⟨j, later, hj, hlater, -⟩ := entriesToJson_cons_eq_ok h
    rcases List.mem_cons.1 hv with heq | hmem
    · cases heq
      exact ⟨j, hj⟩
    · exact toJson_of_mem_entries hlater hmem

/-- **All parts of what is shown as JSON are of kinds that JSON has something for.** -/
theorem hasJsonKind_of_toJson {part v : BoltValue} (hpart : part.Within v) :
    ∀ {j : Json}, v.toJson = .ok j → part.hasJsonKind = true := by
  induction hpart with
  | self =>
    intro j h
    cases hkind : part.hasJsonKind with
    | true => rfl
    | false =>
      rw [toJson_of_not_hasJsonKind hkind] at h
      cases h
  | item hv _ ih =>
    intro j h
    obtain ⟨js, hjs, -⟩ := map_eq_ok.1 (by simpa [toJson] using h)
    obtain ⟨i, hi⟩ := toJson_of_mem_items hjs _ hv
    exact ih hi
  | entry hv _ ih | nodeProperty hv _ ih | relationProperty hv _ ih =>
    intro j h
    obtain ⟨fields, hfields, -⟩ := map_eq_ok.1 (by simpa [toJson] using h)
    obtain ⟨i, hi⟩ := toJson_of_mem_entries hfields hv
    exact ih hi

theorem toJson_error_iff (v : BoltValue) : (∃ e, v.toJson = .error e) ↔ v.IsForeign := by
  constructor
  · rintro ⟨e, h⟩
    obtain ⟨part, hpart, hkind, -⟩ := toJson_error h
    exact ⟨part, hpart, hkind⟩
  · rintro ⟨part, hpart, hkind⟩
    obtain ⟨j, h⟩ | h := ok_or_error v.toJson
    · rw [hasJsonKind_of_toJson hpart h] at hkind
      cases hkind
    · exact h

/-! ## What is sent -/

theorem toBolt_toWhole (n : SignedWord) : (Json.int n.toWhole).toBolt = .ok (.int n) := by
  have hn : SignedWord.ofInt? n.toWhole.val = some n := dif_pos n.fits
  simp only [Json.toBolt, hn]

theorem toBolt_ofDouble (x : Double) : (Json.ofDouble x).toBolt = .ok (normal (.float x)) := by
  by_cases hx : x.isFinite = true
  · simp [Json.ofDouble, Json.toBolt, normal, hx]
  · simp [Json.ofDouble, Json.toBolt, normal, hx]

mutual

/-- **What is shown as JSON is sent in its normal form.** -/
theorem toBolt_of_toJson : ∀ {v : BoltValue} {j : Json}, v.toJson = .ok j → j.toBolt = .ok v.normal
  | .null, j, h | .bool _, j, h | .string _, j, h => by
    cases h
    rfl
  | .int n, j, h => by
    cases h
    exact toBolt_toWhole n
  | .float x, j, h => by
    cases h
    exact toBolt_ofDouble x
  | .list items, j, h => by
    obtain ⟨js, hjs, rfl⟩ := map_eq_ok.1 (by simpa [toJson] using h)
    rw [Json.toBolt, itemsToBolt_of_itemsToJson hjs]
    rfl
  | .map entries, j, h | .node _ _ entries, j, h | .relation _ _ _ _ entries, j, h => by
    obtain ⟨fields, hfields, rfl⟩ := map_eq_ok.1 (by simpa [toJson] using h)
    rw [Json.toBolt, fieldsToBolt_of_entriesToJson hfields]
    rfl
  | .unboundRelation _ _ _, j, h | .bytes _, j, h | .point2d _ _ _, j, h | .point3d _ _ _ _, j, h
  | .duration _ _ _ _, j, h | .date _, j, h | .time _ _, j, h | .localTime _, j, h
  | .dateTime _ _ _, j, h | .localDateTime _ _, j, h | .dateTimeZone _ _ _, j, h
  | .path _ _ _, j, h => by
    rw [toJson_of_not_hasJsonKind rfl] at h
    cases h

theorem itemsToBolt_of_itemsToJson : ∀ {items : List BoltValue} {js : List Json},
    itemsToJson items = .ok js → Json.itemsToBolt js = .ok (normalItems items)
  | [], js, h => by
    cases h
    rfl
  | v :: rest, js, h => by
    obtain ⟨j, later, hj, hlater, rfl⟩ := itemsToJson_cons_eq_ok h
    rw [Json.itemsToBolt, toBolt_of_toJson hj, itemsToBolt_of_itemsToJson hlater]
    rfl

theorem fieldsToBolt_of_entriesToJson :
    ∀ {entries : List (String × BoltValue)} {fields : List (String × Json)},
      entriesToJson entries = .ok fields → Json.fieldsToBolt fields = .ok (normalEntries entries)
  | [], fields, h => by
    cases h
    rfl
  | (key, v) :: rest, fields, h => by
    obtain ⟨j, later, hj, hlater, rfl⟩ := entriesToJson_cons_eq_ok h
    rw [Json.fieldsToBolt, toBolt_of_toJson hj, fieldsToBolt_of_entriesToJson hlater]
    rfl

end

/-- **A Bolt value is refused exactly where a part of it is of a kind that JSON has nothing for; what
is shown of any other is sent in its normal form and shown the same.** The normal form of a normal
form is itself, and no number in what is shown is too great to be sent. -/
theorem json_normal (v : BoltValue) :
    ((∃ e, v.toJson = .error e) ↔ v.IsForeign) ∧
      (∀ e, v.toJson = .error e → ∃ part : BoltValue, part.Within v ∧ part.hasJsonKind = false ∧
        e = .decode ("unsupported Bolt value: " ++ part.describe)) ∧
      ∀ j, v.toJson = .ok j → j.toBolt = .ok v.normal ∧ v.normal.toJson = .ok j ∧
        v.normal.normal = v.normal ∧ ¬ j.Oversized := by
  refine ⟨toJson_error_iff v, fun e h => toJson_error h, fun j h => ?_⟩
  have hsent : j.toBolt = .ok v.normal := toBolt_of_toJson h
  have hback : v.normal.toJson = .ok j := Json.toJson_toBolt hsent
  have hfits : ¬ j.Oversized := by
    rw [← Json.toBolt_error_iff, hsent]
    rintro ⟨e, he⟩
    cases he
  have hagain : v.normal.normal = v.normal := by
    have htwice : j.toBolt = .ok v.normal.normal := toBolt_of_toJson hback
    rw [hsent] at htwice
    exact (Except.ok.inj htwice).symm
  exact ⟨hsent, hback, hagain, hfits⟩

end BoltValue

end GraphRepo

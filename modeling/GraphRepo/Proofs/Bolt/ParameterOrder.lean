import GraphRepo.Proofs.Bolt.SavedNode

/-!
# Parameters in any order

The parameters of a statement have no order, so they become Bolt values in any. Whatever the order is,
the statement that is sent has the same value under each name, and whether it can be sent at all
depends on the parameters alone. The order decides only which of several values that do not fit is
reported.
-/

namespace GraphRepo

/-- What keeps a statement until it is sent: its text, and under each name the value given last. -/
structure StatementHolder (κ : Type) where
  ofText : String → κ
  param : κ → String → BoltValue → κ
  text : κ → String
  value? : κ → String → Option BoltValue
  text_ofText : ∀ t, text (ofText t) = t
  text_param : ∀ q name b, text (param q name b) = text q
  value?_ofText : ∀ t name, value? (ofText t) name = none
  value?_param : ∀ q name b other,
    value? (param q name b) other = if name = other then some b else value? q other

namespace StatementHolder

variable {κ : Type} (holder : StatementHolder κ)

/-- A statement with values under their names. -/
def bind (q : κ) (bolts : List (String × BoltValue)) : κ :=
  bolts.foldl (fun q b => holder.param q b.1 b.2) q

/-- A statement whose parameters are bound one after the other; the first that does not fit ends
it. -/
def build (text : String) (order : List (String × Json)) : Except RepositoryError κ :=
  order.foldlM (fun q p => (holder.param q p.1) <$> p.2.toBolt) (holder.ofText text)

theorem text_bind : ∀ (bolts : List (String × BoltValue)) (q : κ),
    holder.text (holder.bind q bolts) = holder.text q
  | [], _ => rfl
  | b :: rest, q => by
    rw [bind, List.foldl_cons, ← bind, text_bind rest, holder.text_param]

theorem value?_bind (name : String) : ∀ (bolts : List (String × BoltValue)) (q : κ),
    holder.value? (holder.bind q bolts) name =
      (Table.find? name bolts.reverse).or (holder.value? q name)
  | [], _ => rfl
  | (k, b) :: rest, q => by
    rw [bind, List.foldl_cons, ← bind, value?_bind name rest, holder.value?_param, List.reverse_cons,
      Table.find?_append, Option.or_assoc, Table.find?, Table.find?]
    split <;> rfl

/-- Binding one after the other is binding all that was converted first. -/
theorem foldlM_param : ∀ (order : List (String × Json)) (q : κ),
    order.foldlM (fun q p => (holder.param q p.1) <$> p.2.toBolt) q =
      (Json.fieldsToBolt order).map (holder.bind q)
  | [], _ => rfl
  | (name, v) :: rest, q => by
    rw [List.foldlM_cons, Json.fieldsToBolt]
    cases v.toBolt with
    | error e => rfl
    | ok b =>
      have hrest := foldlM_param rest (holder.param q name b)
      refine hrest.trans ?_
      cases Json.fieldsToBolt rest <;> rfl

theorem build_eq (text : String) (order : List (String × Json)) :
    holder.build text order =
      (Json.fieldsToBolt order).map (holder.bind (holder.ofText text)) :=
  holder.foldlM_param order (holder.ofText text)

theorem value?_bind_ofText {text name : String} {bolts : List (String × BoltValue)} {b : BoltValue}
    (hkeys : (bolts.map Prod.fst).Nodup) :
    holder.value? (holder.bind (holder.ofText text) bolts) name = some b ↔ (name, b) ∈ bolts := by
  have hreverse : (Table.keys bolts.reverse).Nodup := by
    rw [Table.keys, List.map_reverse, List.nodup_reverse]
    exact hkeys
  rw [value?_bind, holder.value?_ofText, Option.or_none, Table.find?_iff_mem hreverse,
    List.mem_reverse]

end StatementHolder

/-! ## What is converted -/

namespace Json

theorem keys_fieldsToBolt {order : List (String × Json)} {bolts : List (String × BoltValue)}
    (h : fieldsToBolt order = .ok bolts) : order.map Prod.fst = bolts.map Prod.fst := by
  induction order generalizing bolts with
  | nil =>
    cases h
    rfl
  | cons p rest ih =>
    rw [fieldsToBolt] at h
    obtain ⟨b, -, hr⟩ := bind_eq_ok.1 h
    obtain ⟨later, hlater, hp⟩ := bind_eq_ok.1 hr
    cases hp
    rw [List.map_cons, List.map_cons, ih hlater]

/-- **Parameters can be sent exactly if each of them fits.** -/
theorem fieldsToBolt_isOk (order : List (String × Json)) :
    (∃ bolts, fieldsToBolt order = .ok bolts) ↔ ∀ p ∈ order, ¬ p.2.Oversized := by
  constructor
  · rintro ⟨bolts, hbolts⟩ ⟨name, v⟩ hp hv
    obtain ⟨b, hb, -⟩ := mem_fieldsToBolt hbolts hp
    obtain ⟨e, he⟩ := (toBolt_error_iff v).2 hv
    rw [hb] at he
    cases he
  · intro hfit
    obtain hok | ⟨e, he⟩ := ok_or_error (fieldsToBolt order)
    · exact hok
    · obtain ⟨name, v, hp, n, hn, hexceeds, -⟩ := fieldsToBolt_error he
      exact absurd ⟨n, hn, hexceeds⟩ (hfit _ hp)

end Json

open BoltClient

/-- **The parameters of a statement are converted in any order.** A statement is built exactly if no
number in its parameters is above the greatest signed word. Then it has its text and, whatever the
order is, one value under each name, that of the parameter. The server sees this text and these values
and nothing else. Otherwise the error is that of a parameter, and the client has done nothing, whether
its rows were asked for or not. -/
theorem built_in_any_order {κ : Type} (holder : StatementHolder κ) (text : String) {params : Params}
    (hkeys : params.keys.Nodup) {order : List (String × Json)} (horder : order.Perm params)
    (client : BoltClient) :
    ((∃ q, holder.build text order = .ok q) ↔ ∀ p ∈ params, ¬ p.2.Oversized) ∧
    match holder.build text order with
    | .ok q =>
      holder.text q = text ∧
      (∀ name v, (name, v) ∈ params → ∃ b, v.toBolt = .ok b ∧ holder.value? q name = some b) ∧
      (∀ name, name ∉ params.keys → holder.value? q name = none) ∧
      ∃ bolts : List (String × BoltValue), (bolts.map Prod.fst).Perm params.keys ∧
        (∀ name b, (name, b) ∈ bolts ↔ holder.value? q name = some b) ∧
        ∀ replies, client.network = .server replies →
          (send text order).run client =
            .ok (replies.head?.getD (.records [] [] none)) (client.told text bolts replies.tail)
    | .error e =>
      (∃ reason, e = .parameter reason) ∧
      (executor.execute text order).run client = .error e client ∧
      (executor.run text order).run client = .error e client := by
  rw [holder.build_eq]
  refine ⟨?_, ?_⟩
  · rw [← forall_congr' fun p => imp_congr_left horder.mem_iff, ← Json.fieldsToBolt_isOk]
    constructor
    · rintro ⟨q, hq⟩
      obtain ⟨bolts, hbolts, -⟩ := map_eq_ok.1 hq
      exact ⟨bolts, hbolts⟩
    · rintro ⟨bolts, hbolts⟩
      exact ⟨_, map_eq_ok.2 ⟨bolts, hbolts, rfl⟩⟩
  · cases hparams : Json.fieldsToBolt order with
    | error e =>
      obtain ⟨-, v, -, n, -, -, rfl⟩ := Json.fieldsToBolt_error hparams
      have hsend : (send text order).run client = .error (Json.unfit n) client :=
        run_send_unfit text hparams
      exact ⟨⟨_, rfl⟩, run_bind_error hsend, run_bind_error hsend⟩
    | ok bolts =>
      have hnames : (bolts.map Prod.fst).Perm params.keys := by
        rw [← Json.keys_fieldsToBolt hparams]
        exact Table.keys_perm horder
      -- Which of two equal names is found would depend on the order; no name is there twice.
      have hbound (name : String) (b : BoltValue) :=
        @holder.value?_bind_ofText _ text name bolts b (hnames.nodup_iff.2 hkeys)
      refine ⟨?_, fun name v hv => ?_, fun name habsent => ?_, bolts, hnames,
        fun name b => (hbound name b).symm, fun replies => run_send text hparams⟩
      · rw [holder.text_bind, holder.text_ofText]
      · obtain ⟨b, hb, hmem⟩ := Json.mem_fieldsToBolt hparams (horder.mem_iff.2 hv)
        exact ⟨b, hb, (hbound name b).2 hmem⟩
      · refine Option.eq_none_iff_forall_ne_some.2 fun b hb => habsent ?_
        exact hnames.mem_iff.1 (List.mem_map.2 ⟨_, (hbound name b).1 hb, rfl⟩)

/-- Statements that keep their values in a table. -/
def tableHolder : StatementHolder (String × Table BoltValue) where
  ofText text := (text, [])
  param q name b := (q.1, q.2.set name b)
  text := Prod.fst
  value? q name := q.2.find? name
  text_ofText _ := rfl
  text_param _ _ _ := rfl
  value?_ofText _ _ := rfl
  value?_param q name b other := Table.find?_set name other b q.2

/-- A name and an age are sent whichever comes first. With an age that does not fit nothing is
sent. -/
theorem built_in_any_order_reversed :
    let params (age : Whole) : Params := [("age", .int age), ("name", .string "Ada")]
    let ninety : Whole := ⟨90, by omega, by omega⟩
    let great : Whole := ⟨18446744073709551615, by omega, by omega⟩
    let text := "RETURN $age, $name"
    let client := clientOfNode []
    (∃ q, tableHolder.build text (params ninety).reverse = .ok q ∧ tableHolder.text q = text ∧
      ∃ b, Json.toBolt (.int ninety) = .ok b ∧ tableHolder.value? q "age" = some b) ∧
    ∃ e, (executor.run text (params great).reverse).run client = .error e client := by
  intro params ninety great text client
  have hne : "age" ≠ "name" := by decide
  have hkeys (age : Whole) : (params age).keys.Nodup :=
    List.nodup_cons.2 ⟨fun h => hne (List.mem_singleton.1 h), List.nodup_singleton _⟩
  obtain ⟨hsmall, hsent⟩ := built_in_any_order tableHolder text (hkeys ninety)
    (List.reverse_perm _) client
  obtain ⟨hlarge, hrefused⟩ := built_in_any_order tableHolder text (hkeys great)
    (List.reverse_perm _) client
  constructor
  · have hfit : ∀ p ∈ params ninety, ¬ p.2.Oversized := by
      intro p hp
      rw [← Json.toBolt_error_iff]
      rintro ⟨e, he⟩
      obtain rfl | hp := List.mem_cons.1 hp
      · cases he
      · obtain rfl := List.mem_singleton.1 hp
        cases he
    obtain ⟨q, hq⟩ := hsmall.2 hfit
    rw [hq] at hsent
    exact ⟨q, hq, hsent.1, hsent.2.1 "age" _ List.mem_cons_self⟩
  · have hgreat : great.ExceedsSigned := by
      unfold Whole.ExceedsSigned
      decide
    cases hbuilt : tableHolder.build text (params great).reverse with
    | ok q => exact absurd ⟨great, .self, hgreat⟩ (hlarge.1 ⟨q, hbuilt⟩ _ List.mem_cons_self)
    | error e =>
      rw [hbuilt] at hrefused
      exact ⟨e, hrefused.2.2⟩

end GraphRepo

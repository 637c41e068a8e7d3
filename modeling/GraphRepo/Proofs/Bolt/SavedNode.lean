import GraphRepo.Bolt.Server
import GraphRepo.Proofs.Bolt.RoundTrip
import GraphRepo.Proofs.Database.NodeStore
import GraphRepo.Proofs.Database.SingleRow
import GraphRepo.Proofs.Table

/-!
# Nodes of a Bolt server

A value that is saved through a client of a Bolt server crosses as one statement, and what is read
back from its node is the JSON that it was written as. Whatever is wrong with the value is found
before: then the client has done nothing, and does not even open its connection.
-/

namespace GraphRepo

variable {α : Type}

/-! ## Values that can be saved -/

/-- A value that can be saved: it is written as an object with an identifier, and every number in it
fits. -/
structure Entity.Saves (e : Entity α) (a : α) (v id : Json) : Prop where
  written : e.serialize a = .ok v
  identified : v.field? e.idProperty = some id
  present : id ≠ .null
  fits : ¬ v.Oversized

/-- Why a value cannot be saved; of several reasons the one that is found first. -/
inductive Entity.CannotSave (e : Entity α) (a : α) : RepositoryError → Prop
  | unwritten {reason : String} : e.serialize a = .error reason →
    CannotSave e a (.serialization (Json.plainReason reason))
  | noObject {v : Json} : e.serialize a = .ok v → v.fields? = none →
    CannotSave e a (.internal ("entity `" ++ e.label ++ "` must serialize to a map"))
  | noIdentifier {v : Json} {fields : Table Json} : e.serialize a = .ok v →
    v.fields? = some fields → (fields.find? e.idProperty = none ∨
      fields.find? e.idProperty = some .null) →
    CannotSave e a (.missingIdentifier e.label e.idProperty)
  | oversized {v id : Json} {n : Whole} : e.serialize a = .ok v →
    v.field? e.idProperty = some id → id ≠ .null → (Json.int n).Within v → n.ExceedsSigned →
    CannotSave e a (Json.unfit n)

theorem Json.object_of_field? {v id : Json} {key : String} (hid : v.field? key = some id) :
    ∃ fields, v = .object fields ∧ (key, id) ∈ fields := by
  cases v with
  | object fields =>
    obtain ⟨before, after, rfl, -⟩ := Table.find?_eq_some_iff.1 hid
    exact ⟨_, rfl, by simp⟩
  | _ => cases hid

/-- An object that fits is sent as a map, together with any of its fields. -/
theorem Json.fieldsToBolt_saved {v id : Json} {key : String} (hid : v.field? key = some id)
    (hfits : ¬ v.Oversized) :
    ∃ props b, v.toBolt = .ok (.map props) ∧ id.toBolt = .ok b ∧
      fieldsToBolt [("id", id), ("props", v)] = .ok [("id", b), ("props", .map props)] := by
  obtain ⟨fields, rfl, hmem⟩ := object_of_field? hid
  obtain ⟨value, hvalue⟩ | herror := ok_or_error (Json.object fields).toBolt
  · obtain ⟨props, hprops, rfl⟩ := map_eq_ok.1 (by simpa [toBolt] using hvalue)
    obtain ⟨b, hb, -⟩ := mem_fieldsToBolt hprops hmem
    refine ⟨props, b, hvalue, hb, ?_⟩
    rw [fieldsToBolt, hb, fieldsToBolt, hvalue]
    rfl
  · exact absurd ((toBolt_error_iff _).1 herror) hfits

/-- An object that does not fit is refused for a number inside it, whichever parameter comes
first. -/
theorem Json.fieldsToBolt_oversized {v id : Json} {key : String} (hid : v.field? key = some id)
    (hv : v.Oversized) :
    ∃ n, (int n).Within v ∧ n.ExceedsSigned ∧
      fieldsToBolt [("id", id), ("props", v)] = .error (unfit n) := by
  obtain ⟨fields, rfl, hmem⟩ := object_of_field? hid
  obtain ⟨bolts, hbolts⟩ | ⟨fault, hfault⟩ :=
    ok_or_error (fieldsToBolt [("id", id), ("props", .object fields)])
  · obtain ⟨b, hb, -⟩ := mem_fieldsToBolt hbolts (List.mem_cons_of_mem _ List.mem_cons_self)
    obtain ⟨fault, hfault⟩ := (toBolt_error_iff _).2 hv
    rw [hb] at hfault
    cases hfault
  · obtain ⟨k, u, hu, n, hn, hexceeds, rfl⟩ := fieldsToBolt_error hfault
    refine ⟨n, ?_, hexceeds, hfault⟩
    obtain heq | hu := List.mem_cons.1 hu
    · cases heq
      exact .field hmem hn
    · cases List.mem_singleton.1 hu
      exact hn

theorem Entity.properties_of_identified {e : Entity α} {a : α} {v id : Json}
    (hwritten : e.serialize a = .ok v) (hid : v.field? e.idProperty = some id)
    (hpresent : id ≠ .null) : e.properties a = .ok (v, id) := by
  cases v with
  | object fields =>
    have hfind : Table.find? e.idProperty fields = some id := hid
    unfold properties
    rw [hwritten]
    refine (bind_eq_ok).2 ⟨_, rfl, ?_⟩
    dsimp only
    rw [hfind]
    cases id with
    | null => exact absurd rfl hpresent
    | _ => rfl
  | _ => cases hid

theorem Entity.properties_of_unidentified {e : Entity α} {a : α} {fields : Table Json}
    (hwritten : e.serialize a = .ok (.object fields))
    (hmissing : fields.find? e.idProperty = none ∨ fields.find? e.idProperty = some .null) :
    e.properties a = .error (.missingIdentifier e.label e.idProperty) := by
  unfold properties
  rw [hwritten]
  refine (bind_eq_error).2 (.inr ⟨_, rfl, ?_⟩)
  dsimp only
  obtain hfind | hfind := hmissing
  · rw [hfind]
  · rw [hfind]

theorem Entity.run_save {σ : Type} {e : Entity α} {a : α} {v id : Json} (ex : Executor σ) (s : σ)
    (h : e.properties a = .ok (v, id)) :
    ((Session.ofExecutor ex).save e a).run s =
      (ex.run e.saveText [("id", id), ("props", v)]).run s := by
  have hparams : (Table.set "id" id []).set "props" v = [("id", id), ("props", v)] := by
    have hlt : ¬ "props" < "id" := by decide_cbv
    have hne : "props" ≠ "id" := by decide
    rw [Table.set, Table.set, if_neg hlt, if_neg hne, Table.set]
  have hread : (Action.ofExcept (e.properties a)).run s = .ok (v, id) s := by
    rw [h]
    rfl
  refine (run_bind_ok hread).trans ?_
  rw [← hparams]
  rfl

theorem Entity.run_save_of_error {σ : Type} {e : Entity α} {a : α} {fault : RepositoryError}
    (ex : Executor σ) (s : σ) (h : e.properties a = .error fault) :
    ((Session.ofExecutor ex).save e a).run s = .error fault s := by
  refine run_bind_error ?_
  rw [h]
  rfl

/-! ## One statement -/

namespace BoltClient

variable {client : BoltClient} {params : Params} {bolts : List (String × BoltValue)}
  {replies : List ServerReply} {fault : RepositoryError}

/-- A client that has sent one more statement, to a server with some replies left. -/
def told (text : String) (params : List (String × BoltValue)) (replies : List ServerReply)
    (client : BoltClient) : BoltClient :=
  { client.greet.see (.statement text params) with network := .server replies }

theorem run_send (text : String) (hparams : Json.fieldsToBolt params = .ok bolts)
    (hnetwork : client.network = .server replies) :
    (send text params).run client =
      .ok (replies.head?.getD (.records [] [] none)) (client.told text bolts replies.tail) := by
  have hread : (Action.ofExcept (Json.fieldsToBolt params)).run client = .ok bolts client := by
    rw [hparams]
    rfl
  refine (run_bind_ok hread).trans ((run_bind_ok rfl).trans ?_)
  rw [hnetwork]
  rfl

theorem run_send_unreachable (text : String) {reason : String}
    (hparams : Json.fieldsToBolt params = .ok bolts)
    (hnetwork : client.network = .unreachable reason) :
    (send text params).run client = .error (.query reason text) client := by
  have hread : (Action.ofExcept (Json.fieldsToBolt params)).run client = .ok bolts client := by
    rw [hparams]
    rfl
  refine (run_bind_ok hread).trans ((run_bind_ok rfl).trans ?_)
  rw [hnetwork]
  rfl

/-- **A parameter that does not fit never reaches the server.** -/
theorem run_send_unfit (text : String) (hparams : Json.fieldsToBolt params = .error fault) :
    (send text params).run client = .error fault client := by
  refine run_bind_error ?_
  rw [hparams]
  rfl

/-- What becomes of a statement whose rows are not needed. -/
def settled (text : String) : ServerReply → Except RepositoryError Unit
  | .refused failure => .error (.query failure.message text)
  | .records _ _ (some failure) => .error (.query failure.message text)
  | .records _ _ none => .ok ()

theorem outcome_run (text : String) (hparams : Json.fieldsToBolt params = .ok bolts)
    (hnetwork : client.network = .server replies) :
    outcome (executor.run text params) client =
      (settled text (replies.head?.getD (.records [] [] none)),
        client.told text bolts replies.tail) := by
  refine (outcome_bind_ok (run_send text hparams hnetwork)).trans ?_
  cases replies.head?.getD (.records [] [] none) with
  | refused failure => rfl
  | records fields records failure => cases failure <;> rfl

theorem rows_single (column : String) {value : BoltValue} {v : Json} (h : value.toJson = .ok v) :
    rows [column] none [[value]] = [.ok ⟨[(column, v)]⟩] := by
  have hrow : row [column] [value] = .ok ⟨[(column, v)]⟩ := by
    have hentries : BoltValue.entriesToJson [(column, value)] = .ok [(column, v)] := by
      rw [BoltValue.entriesToJson, h]
      rfl
    change (BoltValue.entriesToJson [(column, value)]).map Row.mk = _
    rw [hentries]
    rfl
  rw [rows, hrow]
  rfl

theorem run_execute (text : String) {fields : List String} {records : List (List BoltValue)}
    {failure : Option ServerFailure} (hparams : Json.fieldsToBolt params = .ok bolts)
    (hnetwork : client.network = .server (.records fields records failure :: replies)) :
    (executor.execute text params).run client =
      .ok (rows fields failure records) (client.told text bolts replies) := by
  refine (run_bind_ok (run_send text hparams hnetwork)).trans ?_
  rfl

end BoltClient

/-! ## Saving and loading -/

open BoltClient

variable {e : Entity α} {a : α} {v id : Json} {client : BoltClient}

/-- A value has properties and an identifier, or else it cannot be saved. -/
theorem Entity.properties_or_cannotSave (e : Entity α) (a : α) :
    (∃ v id, e.serialize a = .ok v ∧ v.field? e.idProperty = some id ∧ id ≠ .null) ∨
    ∃ fault, e.properties a = .error fault ∧ e.CannotSave a fault := by
  cases hwritten : e.serialize a with
  | error reason =>
    refine .inr ⟨_, ?_, .unwritten hwritten⟩
    rw [properties, hwritten]
    rfl
  | ok v =>
    cases v with
    | object fields =>
      by_cases hmissing : Table.find? e.idProperty fields = none ∨
          Table.find? e.idProperty fields = some .null
      · have hproperties := properties_of_unidentified hwritten hmissing
        exact .inr ⟨_, hproperties, .noIdentifier hwritten rfl hmissing⟩
      · obtain ⟨habsent, hnull⟩ := not_or.1 hmissing
        obtain ⟨id, hid⟩ := Option.ne_none_iff_exists'.1 habsent
        refine .inl ⟨_, id, rfl, hid, ?_⟩
        rintro rfl
        exact hnull hid
    | _ =>
      refine .inr ⟨_, ?_, .noObject hwritten rfl⟩
      rw [properties, hwritten]
      rfl

/-- What comes as a value with some properties: a map or a node. -/
def BoltValue.Carries (props : List (String × BoltValue)) (value : BoltValue) : Prop :=
  value = .map props ∨ ∃ node labels, value = .node node labels props

theorem BoltValue.toJson_of_carries {props : List (String × BoltValue)} {value : BoltValue}
    (hv : v.toBolt = .ok (.map props)) (h : value.Carries props) : value.toJson = .ok v := by
  have hmap : (BoltValue.map props).toJson = .ok v := Json.toJson_toBolt hv
  obtain rfl | ⟨node, labels, rfl⟩ := h
  · exact hmap
  · simp only [BoltValue.toJson] at hmap ⊢
    exact hmap

theorem Entity.outcome_load {j : Json} {c value : BoltValue} {replies : List ServerReply}
    (e : Entity α) (key : Datum) (column : String) (hkey : key.toParameter = .ok j)
    (hj : j.toBolt = .ok c) (hvalue : value.toJson = .ok v)
    (hnetwork : client.network = .server (.records [column] [[value]] none :: replies)) :
    outcome ((Session.ofExecutor executor).load e key) client =
      (((e.deserialize v).mapError fun reason =>
        .decode ("failed to deserialize row: " ++ reason)).map some,
        client.told e.loadText [("id", c)] replies) := by
  have hparams : Json.fieldsToBolt [("id", j)] = .ok [("id", c)] := by
    rw [Json.fieldsToBolt, hj]
    rfl
  have hexecute : (((Statement.ofText e.loadText).param "id" key).execute executor).run client =
      .ok [.ok ⟨[(column, v)]⟩] (client.told e.loadText [("id", c)] replies) := by
    rw [Statement.param, hkey, ← rows_single column hvalue]
    exact run_execute e.loadText hparams hnetwork
  have hload : ((Session.ofExecutor executor).load e key).run client =
      executor.noted (RowStream.single e.deserialize e.label [.ok ⟨[(column, v)]⟩])
        (client.told e.loadText [("id", c)] replies) :=
    Statement.run_single hexecute e.deserialize e.label
  have hsingle : RowStream.single e.deserialize e.label [.ok ⟨[(column, v)]⟩] =
      (((e.deserialize v).mapError fun reason =>
        .decode ("failed to deserialize row: " ++ reason)).map some, 1) := rfl
  unfold outcome
  rw [hload, hsingle, Executor.noted]
  cases e.deserialize v <;> rfl

theorem Entity.outcome_save {props : List (String × BoltValue)} {b : BoltValue}
    {replies : List ServerReply} (hproperties : e.properties a = .ok (v, id))
    (hparams : Json.fieldsToBolt [("id", id), ("props", v)] =
      .ok [("id", b), ("props", .map props)])
    (hnetwork : client.network = .server replies) :
    outcome ((Session.ofExecutor executor).save e a) client =
      (settled e.saveText (replies.head?.getD (.records [] [] none)),
        client.told e.saveText [("id", b), ("props", .map props)] replies.tail) := by
  rw [← outcome_run e.saveText hparams hnetwork]
  unfold outcome
  rw [e.run_save executor client hproperties]

theorem Entity.outcome_save_of_error {fault : RepositoryError}
    (h : ((Session.ofExecutor executor).save e a).run client = .error fault client) :
    outcome ((Session.ofExecutor executor).save e a) client = (.error fault, client) := by
  unfold outcome
  rw [h]

/-- **A value that is saved comes back as the JSON it was written as.** If it can be saved, one
statement is sent that has its properties and its identifier as Bolt values. Wherever a row comes
with these properties, as a map or as a node, the value is read from the same JSON. If it cannot be
saved, the reason is returned and the client has done nothing. -/
theorem saved_node (e : Entity α) (a : α) (client : BoltClient) :
    let session := Session.ofExecutor executor
    (∀ v id, e.Saves a v id → ∃ props b, v.toBolt = .ok (.map props) ∧ id.toBolt = .ok b ∧
      (∀ replies, client.network = .server replies →
        outcome (session.save e a) client =
          (settled e.saveText (replies.head?.getD (.records [] [] none)),
            client.told e.saveText [("id", b), ("props", .map props)] replies.tail)) ∧
      (∀ reason, client.network = .unreachable reason →
        outcome (session.save e a) client = (.error (.query reason e.saveText), client)) ∧
      ∀ (reader : BoltClient) (key : Datum) (j : Json) (c : BoltValue) (column : String)
        (value : BoltValue) (replies : List ServerReply), key.toParameter = .ok j →
        j.toBolt = .ok c → value.Carries props →
        reader.network = .server (.records [column] [[value]] none :: replies) →
        outcome (session.load e key) reader =
          (((e.deserialize v).mapError fun reason =>
            .decode ("failed to deserialize row: " ++ reason)).map some,
            reader.told e.loadText [("id", c)] replies)) ∧
    ((¬ ∃ v id, e.Saves a v id) → ∃ fault, e.CannotSave a fault ∧
      outcome (session.save e a) client = (.error fault, client)) := by
  intro session
  constructor
  · rintro v id ⟨hwritten, hid, hpresent, hfits⟩
    have hproperties := Entity.properties_of_identified hwritten hid hpresent
    obtain ⟨props, b, hv, hb, hparams⟩ := Json.fieldsToBolt_saved hid hfits
    refine ⟨props, b, hv, hb, fun replies hnetwork => ?_, fun reason hnetwork => ?_, ?_⟩
    · exact Entity.outcome_save hproperties hparams hnetwork
    · apply Entity.outcome_save_of_error
      rw [e.run_save executor client hproperties]
      exact run_bind_error (run_send_unreachable e.saveText hparams hnetwork)
    · intro reader key j c column value replies hkey hj hvalue hnetwork
      have hread := BoltValue.toJson_of_carries hv hvalue
      exact e.outcome_load key column hkey hj hread hnetwork
  · intro hnot
    obtain ⟨v, id, hwritten, hid, hpresent⟩ | ⟨fault, hfault, hcannot⟩ :=
      e.properties_or_cannotSave a
    · -- With properties and an identifier, only a number that does not fit stands in the way.
      have hv : v.Oversized := by
        by_contra hfits
        exact hnot ⟨v, id, hwritten, hid, hpresent, hfits⟩
      obtain ⟨n, hn, hexceeds, hparams⟩ := Json.fieldsToBolt_oversized hid hv
      refine ⟨_, .oversized hwritten hid hpresent hn hexceeds, ?_⟩
      apply Entity.outcome_save_of_error
      rw [e.run_save executor client (Entity.properties_of_identified hwritten hid hpresent)]
      exact run_bind_error (run_send_unfit e.saveText hparams)
    · have hrun := e.run_save_of_error executor client hfault
      exact ⟨fault, hcannot, Entity.outcome_save_of_error hrun⟩

/-- Whole numbers, kept as nodes that have nothing but the number. -/
def numbered : Entity Whole where
  label := "Number"
  idProperty := "id"
  serialize n := .ok (.object [("id", .int n)])
  deserialize v :=
    match v.field? "id" with
    | some (.int n) => .ok n
    | _ => .error "missing number"
  hook := none

/-- A client of a server that takes one statement and then answers with a node. -/
def clientOfNode (props : List (String × BoltValue)) : BoltClient where
  address := ⟨"bolt", .name "localhost", Address.defaultSocket⟩
  user := "neo4j"
  password := ""
  network := .server [.records [] [] none, .records ["n"] [[.node ⟨1, by omega⟩ [] props]] none]
  connected := false
  seen := []

/-- Seven is saved and found again. A number that does not fit leaves the client as it was. -/
theorem saved_node_seven :
    let session := Session.ofExecutor executor
    let client := clientOfNode [("id", .int ⟨7, by omega⟩)]
    let saved := outcome (session.save numbered ⟨7, by omega, by omega⟩) client
    let great : Whole := ⟨9223372036854775808, by omega, by omega⟩
    saved.1 = .ok () ∧
    (outcome (session.load numbered (.json (.string "7"))) saved.2).1 =
      .ok (some ⟨7, by omega, by omega⟩) ∧
    (outcome (session.save numbered great) client).2 = client := by
  intro session client saved great
  obtain ⟨hsaves, -⟩ := saved_node numbered ⟨7, by omega, by omega⟩ client
  obtain ⟨-, hrefused⟩ := saved_node numbered great client
  have hseven : numbered.Saves ⟨7, by omega, by omega⟩
      (.object [("id", .int ⟨7, by omega, by omega⟩)]) (.int ⟨7, by omega, by omega⟩) := by
    refine ⟨rfl, rfl, nofun, ?_⟩
    rw [← Json.toBolt_error_iff]
    rintro ⟨fault, hfault⟩
    cases hfault
  obtain ⟨props, b, hv, hb, hsave, -, hload⟩ := hsaves _ _ hseven
  cases hv
  cases hb
  refine ⟨?_, ?_, ?_⟩
  · rw [congrArg Prod.fst (hsave _ rfl)]
    rfl
  · have hfound := hload saved.2 (.json (.string "7")) (.string "7") (.string "7") "n"
      (.node ⟨1, by omega⟩ [] _) [] rfl rfl (.inr ⟨_, _, rfl⟩)
      (by rw [congrArg Prod.snd (hsave _ rfl)]; rfl)
    rw [hfound]
    rfl
  · have hnot : ¬ ∃ v id, numbered.Saves great v id := by
      rintro ⟨v, id, hwritten, -, -, hfits⟩
      cases hwritten
      have hgreat : great.ExceedsSigned := Int.lt_succ 9223372036854775807
      exact hfits ⟨great, .field (List.mem_singleton.2 rfl) .self, hgreat⟩
    obtain ⟨fault, -, hrun⟩ := hrefused hnot
    rw [hrun]

end GraphRepo

import Mathlib
import GraphRepo.Proofs.Repository.Classification
import GraphRepo.Proofs.Repository.Hygiene
import GraphRepo.Proofs.Text.Ranges

/-!
# Keys of parameters

A parameter of a query is bound under its `#[param]`, which is checked, and without one under its
name as it is written, which is not. The check takes a name that is not raw and consists of
letters, digits and underscores. So a raw identifier is bound with its mark, under a key that no
variable of a query can have, and there are identifiers with other characters too.
-/

namespace GraphRepo

open Source Declaration

/-! ## Names as keys -/

/-- Whether a name is written as a raw identifier. -/
def IsRaw (name : String) : Prop := name = "r#" ++ plainName name

theorem plainName_eq_self_iff {name : String} : plainName name = name ↔ ¬ IsRaw name := by
  refine ⟨fun hplain hraw => ?_, (plain_or_raw name).resolve_right⟩
  rw [IsRaw, hplain, ← String.toList_inj, toList_raw] at hraw
  have hlength := congrArg List.length hraw
  simp only [List.length_cons] at hlength
  omega

theorem isVariableName_cons {name : String} {c : Char} {rest : List Char}
    (h : name.toList = c :: rest) :
    isVariableName name ↔ (Text.isAlphabetic c ∨ c = '_') ∧
      ∀ d ∈ rest, Text.isAlphanumeric d ∨ d = '_' := by
  unfold isVariableName
  rw [h]
  simp

/-- **The names that can name a variable** are the identifiers that are not raw and consist of
letters, digits and underscores. -/
theorem isVariableName_iff {name : String} (h : hasIdentifierForm (plainName name).toList) :
    isVariableName name ↔ ¬ IsRaw name ∧
      ∀ c ∈ (plainName name).toList, Text.isAlphanumeric c ∨ c = '_' := by
  by_cases hraw : IsRaw name
  · have hlist : name.toList = 'r' :: '#' :: (plainName name).toList := by
      conv_lhs => rw [hraw, toList_raw]
    rw [isVariableName_cons hlist]
    refine iff_of_false (fun hvalid => ?_) fun hvalid => hvalid.1 hraw
    exact absurd (hvalid.2 '#' List.mem_cons_self) (by decide +kernel)
  · rw [plainName_eq_self_iff.2 hraw] at h ⊢
    rw [and_iff_right hraw]
    cases hlist : name.toList with
    | nil =>
      rw [hlist] at h
      cases h
    | cons c rest =>
      rw [hlist, hasIdentifierForm, Bool.and_eq_true] at h
      rw [isVariableName_cons hlist, Text.isAlphabetic_of_isIdentStart h.1, List.forall_mem_cons]

/-! ## Parameters of accepted queries -/

section

variable {d : Declaration} {cs : List Classified} {c : Classified} {text : String}

/-- **Under what key a parameter of an accepted query is bound.** Under its `#[param]`, which is a
variable of the query. Without one it is bound under its name as it is written. That is the name
itself exactly if it is not raw, and it can name a variable exactly if moreover it consists of
letters, digits and underscores. -/
theorem key_of_parameter (h : classifyAll d = .ok cs) (hc : c ∈ cs)
    (hq : c.behavior = .query text) :
    (∃ use, c.body d.name = .query text (c.method.parameters.map fun p => ⟨p.key, p.name⟩) use) ∧
    ∀ p ∈ c.method.parameters,
      (∀ key, p.bindingKey = some key →
        p.key = key ∧ isVariableName p.key ∧ p.key ∈ Cypher.parameters text) ∧
      (p.bindingKey = none →
        (p.key = plainName p.name ↔ ¬ IsRaw p.name) ∧
        (hasIdentifierForm (plainName p.name).toList →
          (isVariableName p.key ↔ ¬ IsRaw p.name ∧
            ∀ x ∈ (plainName p.name).toList, Text.isAlphanumeric x ∨ x = '_'))) := by
  have hadmits := admits_of_classifyAll h hc
  rw [hq] at hadmits
  obtain ⟨-, -, hkeys⟩ := hadmits
  refine ⟨⟨_, c.body_of_query hq d.name⟩, fun p hp => ⟨fun key hkey => ?_, fun hkey => ?_⟩⟩
  · have hself : p.key = key := by rw [Parameter.key, hkey, Option.getD_some]
    rw [hself]
    exact ⟨rfl, hkeys p hp key hkey⟩
  · have hself : p.key = p.name := by rw [Parameter.key, hkey, Option.getD_none]
    rw [hself]
    exact ⟨eq_comm.trans plainName_eq_self_iff, isVariableName_iff⟩

end

/-- `async fn greet(&self, #[param("who")] other: String, name: String) -> Result<User>` with the
query `RETURN $who, $name`. -/
def greetBoth : Classified where
  method := { greet.method with
    signature := querySignature "greet" [.typed [] (.name "other") (plainType "String"),
      .typed [] (.name "name") (plainType "String")] (plainType "User")
    parameters := [⟨"other", ⟨"String", plainType "String", false, []⟩, .owned, some "who"⟩,
      ⟨"name", ⟨"String", plainType "String", false, []⟩, .owned, none⟩]
    markers := ⟨some "RETURN $who, $name", false, false⟩ }
  behavior := .query "RETURN $who, $name"

/-- The parameters of `greetBoth` are bound under `who` and `name`. -/
theorem key_of_parameter_both :
    classifyAll (queryDeclaration greetBoth.method) = .ok [greetBoth] ∧
    greetBoth.method.parameters.map Parameter.key = ["who", "name"] ∧
    ∀ p ∈ greetBoth.method.parameters, isVariableName p.key := by
  have hclassify : classifyAll (queryDeclaration greetBoth.method) = .ok [greetBoth] := by cbv
  obtain ⟨-, hkeys⟩ := key_of_parameter hclassify (List.mem_singleton.2 rfl) rfl
  refine ⟨hclassify, rfl, List.forall_mem_cons.2 ⟨?_, List.forall_mem_singleton.2 ?_⟩⟩
  · obtain ⟨hbound, -⟩ := hkeys _ List.mem_cons_self
    exact (hbound "who" rfl).2.1
  · obtain ⟨-, hplain⟩ := hkeys _ (List.mem_cons_of_mem _ List.mem_cons_self)
    have hname : (plainName "name").toList = ['n', 'a', 'm', 'e'] := rfl
    have hform : hasIdentifierForm ['n', 'a', 'm', 'e'] := by decide +kernel
    have hchars : ['n', 'a', 'm', 'e'].all Text.isAlphanumeric := by decide +kernel
    refine ((hplain rfl).2 (hname ▸ hform)).2 ⟨plainName_eq_self_iff.1 rfl, fun x hx => .inl ?_⟩
    exact List.all_eq_true.1 hchars x (hname ▸ hx)

/-- `async fn greet(&self, name: String) -> Result<User>` with the query `RETURN $type`, under any
name of the parameter. -/
def greetTyped (name : String) : Classified where
  method := { greet.method with
    signature := querySignature "greet" [.typed [] (.name name) (plainType "String")]
      (plainType "User")
    parameters := [⟨name, ⟨"String", plainType "String", false, []⟩, .owned, none⟩]
    markers := ⟨some "RETURN $type", false, false⟩ }
  behavior := .query "RETURN $type"

/-- A parameter `r#type` is accepted. It is bound under `r#type`, which cannot name a variable, and
`$type` stays without a value. A parameter `a‿b` is accepted too, and cannot name a variable
either. -/
theorem key_rawType_ne :
    Accepted (.trait (queryTrait "\x22RETURN $type\x22" (greetTyped "r#type").method.signature))
      none (queryDeclaration (greetTyped "r#type").method) (greetTyped "r#type") ∧
    Cypher.parameters "RETURN $type" = ["type"] ∧ plainName "r#type" = "type" ∧
    (greetTyped "r#type").method.bindings = [⟨"r#type", "r#type"⟩] ∧
    isVariableName "r#type" = false ∧
    classifyAll (queryDeclaration (greetTyped "a‿b").method) = .ok [greetTyped "a‿b"] ∧
    hasIdentifierForm "a‿b".toList ∧ isVariableName "a‿b" = false := by
  refine ⟨⟨rfl, [greetTyped "r#type"], ?_, List.mem_singleton.2 rfl⟩, by decide_cbv, rfl, rfl,
    by decide_cbv, ?_, ?_, ?_⟩
  · cbv
  · cbv
  · exact (by decide +kernel : hasIdentifierForm ['a', '‿', 'b'])
  · rw [← Bool.not_eq_true, isVariableName_cons (show "a‿b".toList = ['a', '‿', 'b'] from rfl)]
    exact fun h => absurd (h.2 '‿' List.mem_cons_self) (by decide +kernel)

end GraphRepo

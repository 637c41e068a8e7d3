import Mathlib
import GraphRepo.Proofs.Repository.FileName
import GraphRepo.Proofs.Source.FunctionName

/-!
# Functions that make repositories

The factory of a repository is a function whose name has the form of an identifier. That form leaves
the reserved words, and all of them but two are the lower case of a trait's name. There is a unit for
such a trait as for any other, and its factory cannot be read.
-/

namespace GraphRepo

open Source

variable {text name factory : String} {w : String}

theorem eq_of_identifier (h : identifier text = .ok name) : name = text := by
  unfold identifier at h
  split at h
  · cases h
  · split at h
    · cases h
    · split at h
      · cases h
        rfl
      · cases h

/-! ## Reserved words in lower case -/

/-- The reserved words that the factory of some trait has for its name. -/
def factoryKeywords : List String := reservedWords.filter fun w => !(["_", "Self"].contains w)

theorem mem_factoryKeywords : w ∈ factoryKeywords ↔ w ∈ reservedWords ∧ w ≠ "_" ∧ w ≠ "Self" := by
  simp [factoryKeywords]

theorem toList_snake (name : String) : (snake name).toList = Text.snakeCase name.toList := by
  rw [snake, String.toList_ofList]

theorem snake_ne_underscore (name : String) : snake name ≠ "_" := by
  obtain ⟨-, hlast⟩ := Text.spaced_snakeCase name.toList
  intro h
  rw [← toList_snake, h] at hlast
  exact hlast rfl

theorem snake_ne_self (name : String) : snake name ≠ "Self" := by
  intro h
  have htext : "Self".toList = ['S', 'e', 'l', 'f'] := rfl
  have hcapital : 'S' ∈ Text.snakeCase name.toList := by
    rw [← toList_snake, h, htext]
    exact List.mem_cons_self
  rcases Text.mem_lower_of_mem_snakeCase hcapital with hunderscore | hsigma | ⟨c, -, -, hlower⟩
  · exact absurd hunderscore (by decide)
  · exact absurd hsigma (by decide)
  · by_cases hc : c = 'S'
    · subst hc
      exact absurd hlower (by decide)
    · exact Text.not_mem_lower (by decide) hc hlower

/-- **A name in lower case is reserved exactly if it is one of the factory keywords.** -/
theorem snake_mem_reservedWords : snake name ∈ reservedWords ↔ snake name ∈ factoryKeywords := by
  rw [mem_factoryKeywords, and_iff_left ⟨snake_ne_underscore name, snake_ne_self name⟩]

/-- **Each of these words is the name of a factory**: that of the trait which has it behind an
underscore, whatever the generator and the module. -/
theorem generate_factoryKeyword (hw : w ∈ factoryKeywords) (g : Generator)
    (attributes : List Attribute) (modulePath : Option String) :
    ∃ unit, g.generate (.trait (bareTrait ("_" ++ w) attributes)) modulePath = .ok unit ∧
      unit.factory = w := by
  have hwords : ∀ w ∈ factoryKeywords,
      snake ("_" ++ w) = w ∧ hasIdentifierForm w.toList := by decide +kernel
  obtain ⟨hsnake, hform⟩ := hwords w hw
  have hidentifier : identifier (snake ("_" ++ w)) = .ok w := by
    obtain ⟨made, hmade⟩ := identifier_isOk.2 hform
    rw [hsnake, hmade, eq_of_identifier hmade]
  exact ⟨_, Generator.generate_bareTrait attributes hidentifier modulePath, rfl⟩

/-! ## The factory of a unit -/

theorem Assembly.tokens_eq_append (a : Assembly) :
    ∃ before after, a.tokens = before ++ (word "fn" ++ (word a.factory ++ after)) := by
  let before := a.implStruct ++ a.constructor ++ a.delegation ++ a.implementation ++
    doc (" Creates a [`" ++ a.declaration.name ++ "`] backed by the given session.") ++
      allowUnused ++ a.declaration.visibility
  let after := a.sessionParameter ++ parens (word "session" ++ op ":" ++ sharedSession ++ op ",") ++
    op "->" ++ absolute ["std", "boxed", "Box"] ++ op "<" ++ word "dyn" ++
      word a.declaration.name ++ op ">" ++ braces (absolute ["std", "boxed", "Box", "new"] ++
        parens (a.implType ++ op "::" ++ word "new" ++ parens (word "session")))
  refine ⟨before, after, ?_⟩
  simp only [Assembly.tokens, Assembly.factoryFunction, before, after, List.append_assoc]

theorem factory_of_generate {g : Generator} {t : Trait} {modulePath : Option String}
    {unit : GeneratedUnit} (h : g.generate (.trait t) modulePath = .ok unit) :
    identifier (snake t.name) = .ok unit.factory ∧
      ∃ a : Assembly, a.factory = unit.factory ∧ unit.tokens = a.tokens := by
  obtain ⟨_, p, ht, hplan, rfl⟩ := Generator.generate_eq_ok.1 h
  obtain rfl := Item.trait.inj ht
  obtain ⟨hread, -, hfactory⟩ := planOf_eq_ok.1 hplan
  have hname : p.declaration.name = t.name := by
    obtain ⟨-, _, _, _, -, -, hd⟩ := readTrait_eq_ok hread
    rw [hd]
  rw [Declaration.factoryName, hname] at hfactory
  exact ⟨hfactory, p.assembly g.runtime.tokens, rfl, rfl⟩

/-- **When the factory of a unit is a function.** Its name is the trait's name in lower case and has
the form of an identifier, and it stands as it is behind the `fn` of the factory. If it is no factory
keyword, every grammar reads it there; if it is one, the factory is no item, however it goes on. -/
theorem factory_isFunction_iff {g : Generator} {t : Trait} {modulePath : Option String}
    {unit : GeneratedUnit} (h : g.generate (.trait t) modulePath = .ok unit) :
    unit.factory = snake t.name ∧ hasIdentifierForm unit.factory.toList ∧
    (∃ before after, unit.tokens = before ++ (word "fn" ++ (word unit.factory ++ after))) ∧
    (unit.factory ∉ reservedWords ↔ snake t.name ∉ factoryKeywords) ∧
    (snake t.name ∉ factoryKeywords → ∀ grammar : Grammar, ∃ s,
      grammar.signature (word "fn" ++ (word unit.factory ++ parens [])) = some (s, []) ∧
        s.name = unit.factory) ∧
    (snake t.name ∈ factoryKeywords → ∀ after,
      itemOfTokens? (word "fn" ++ (word unit.factory ++ after)) = none) := by
  obtain ⟨hidentifier, a, hfactory, htokens⟩ := factory_of_generate h
  obtain ⟨before, after, happend⟩ := a.tokens_eq_append
  have hname : unit.factory = snake t.name := eq_of_identifier hidentifier
  have hform : hasIdentifierForm unit.factory.toList := by
    rw [hname]
    exact identifier_isOk.1 ⟨_, hidentifier⟩
  have hreserved : unit.factory ∈ reservedWords ↔ snake t.name ∈ factoryKeywords := by
    rw [hname, snake_mem_reservedWords]
  rw [hfactory, ← htokens] at happend
  refine ⟨hname, hform, ⟨_, _, happend⟩, not_congr hreserved, fun hplain grammar => ?_,
    fun hkeyword after => ?_⟩
  · exact signature_plain (mt hreserved.1 hplain) grammar
  · exact itemOfTokens_reserved (hreserved.2 hkeyword) after

theorem identifier_snake_fn : identifier (snake "Fn") = .ok "fn" := by cbv

/-- The trait `R` has a factory that can be read, and the trait `Fn` one that cannot. -/
theorem factory_isFunction_iff_r :
    (∃ unit, defaultGenerator.generate (.trait (bareTrait "R" [])) none = .ok unit ∧
      unit.factory = "r" ∧ unit.factory ∉ reservedWords ∧ ∀ grammar : Grammar, ∃ s,
        grammar.signature (word "fn" ++ (word "r" ++ parens [])) = some (s, []) ∧ s.name = "r") ∧
    ∃ unit, defaultGenerator.generate (.trait (bareTrait "Fn" [])) none = .ok unit ∧
      unit.factory = "fn" ∧ ∀ after, itemOfTokens? (word "fn" ++ (word "fn" ++ after)) = none := by
  have hr := @Generator.generate_bareTrait defaultGenerator _ _ [] identifier_snake_r none
  have hfn := @Generator.generate_bareTrait defaultGenerator _ _ [] identifier_snake_fn none
  obtain ⟨-, -, -, hreserved, hread, -⟩ := factory_isFunction_iff hr
  obtain ⟨-, -, -, -, -, hnone⟩ := factory_isFunction_iff hfn
  have hplain : snake "R" ∉ factoryKeywords := by decide +kernel
  have hkeyword : snake "Fn" ∈ factoryKeywords := by decide +kernel
  exact ⟨⟨_, hr, rfl, hreserved.2 hplain, hread hplain⟩, _, hfn, rfl, hnone hkeyword⟩

theorem identifier_snake_type : identifier (snake "Type") = .ok "type" := by cbv

theorem itemOfTokens_type :
    itemOfTokens? (bareTrait "Type" []).tokens = some (.trait (bareTrait "Type" [])) := by
  set_option maxRecDepth 10000 in cbv

/-- `trait Type: NeoRepository<User, String> {}` has a unit, and its factory `fn type<…>(…)` is no
item. -/
theorem factory_type_not_read :
    let t := bareTrait "Type" []
    itemOfTokens? t.tokens = some (.trait t) ∧
      ∃ unit before after, defaultGenerator.generate (.trait t) none = .ok unit ∧
        unit.factory = "type" ∧ "type" ∈ reservedWords ∧
        unit.tokens = before ++ (word "fn" ++ (word "type" ++ after)) ∧
        itemOfTokens? (word "fn" ++ (word "type" ++ after)) = none := by
  intro t
  have hgenerate := @Generator.generate_bareTrait defaultGenerator _ _ [] identifier_snake_type none
  have hreserved : "type" ∈ reservedWords := by decide
  obtain ⟨-, a, hfactory, htokens⟩ := factory_of_generate hgenerate
  obtain ⟨before, after, happend⟩ := a.tokens_eq_append
  rw [hfactory, ← htokens] at happend
  exact ⟨itemOfTokens_type, _, before, after, hgenerate, rfl, hreserved, happend,
    itemOfTokens_reserved hreserved after⟩

end GraphRepo

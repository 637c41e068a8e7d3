import GraphRepo.Proofs.Repository.BindingKey

/-!
# The diagnostics of a query's parameters

The parameters are looked at one after the other, and what is said of one depends on the keys before
it. So a key that comes again is reported where it comes the second time and never later, and nothing
is reported exactly if the keys differ and each `#[param]` names a variable of the query.
-/

namespace GraphRepo

open Cypher

/-! ## One parameter after the other -/

theorem bindingFaults_eq (bound : List String) : ∀ (before : List String) (ps : List Parameter),
    bindingFaults bound before ps = (ps.inits.zip ps).flatMap fun e =>
      (keyFaults bound (before ++ e.1.map Parameter.key) e.2).map fun fault => (e.2.key, fault)
  | before, [] => rfl
  | before, p :: rest => by
    have hrest := bindingFaults_eq bound (before ++ [p.key]) rest
    rw [bindingFaults, hrest, List.inits_cons, List.zip_cons_cons, List.zip_map_left,
      List.flatMap_cons, List.flatMap_map]
    simp only [Prod.map_fst, Prod.map_snd, id_eq, List.map_nil, List.append_nil, List.map_cons,
      List.append_assoc, List.singleton_append]

/-! ## Repeated keys -/

theorem count_keyFaults (bound before : List String) (p : Parameter) :
    (keyFaults bound before p).count .repeated = if before.count p.key = 1 then 1 else 0 := by
  have hother : (p.bindingKey.bind (keyFault? bound)).toList.count .repeated = 0 := by
    rw [List.count_eq_zero, Option.mem_toList, Option.bind_eq_some_iff]
    rintro ⟨key, -, hfault⟩
    exact keyFault?_ne_repeated hfault
  rw [keyFaults_eq, List.count_append, hother, Nat.zero_add]
  split <;> rfl

/-- **A key is reported as repeated at its second use**, and at no other. -/
theorem count_repeated (bound : List String) (key : String) :
    ∀ (before : List String) (ps : List Parameter),
      (bindingFaults bound before ps).count (key, .repeated) =
        if before.count key ≤ 1 ∧ 2 ≤ before.count key + (ps.map Parameter.key).count key then 1
        else 0
  | before, [] => by
    have hnone : ¬ (before.count key ≤ 1 ∧ 2 ≤ before.count key) := by omega
    simp [bindingFaults, hnone]
  | before, p :: rest => by
    have hrest := count_repeated bound key (before ++ [p.key]) rest
    -- Only the second use is reported here; the rest then starts with two uses and is silent.
    have hhere : ((keyFaults bound before p).map fun fault => (p.key, fault)).count
        (key, .repeated) = if p.key = key ∧ before.count key = 1 then 1 else 0 := by
      by_cases hkey : p.key = key
      · have hinj : Function.Injective fun fault : KeyFault => (key, fault) :=
          fun _ _ h => (Prod.mk.inj h).2
        have hcount := List.count_map_of_injective (keyFaults bound before p) _ hinj .repeated
        rw [hkey, hcount, count_keyFaults, hkey]
        simp
      · rw [if_neg (fun h => hkey h.1), List.count_eq_zero]
        intro hmem
        obtain ⟨fault, -, heq⟩ := List.mem_map.1 hmem
        exact hkey (Prod.mk.inj heq).1
    rw [bindingFaults, List.count_append, hhere, hrest, List.count_append, List.map_cons,
      List.count_singleton, List.count_cons]
    by_cases hkey : p.key = key
    · simp only [hkey, true_and, beq_self_eq_true, if_true]
      split_ifs <;> omega
    · simp only [hkey, false_and, beq_iff_eq, if_false]
      split_ifs <;> omega

/-! ## All parameters -/

theorem bindingFaults_eq_nil {bound : List String} {ps : List Parameter} :
    bindingFaults bound [] ps = [] ↔ (ps.map Parameter.key).Nodup ∧
      ∀ p ∈ ps, ∀ key ∈ p.bindingKey, isVariableName key ∧ key ∈ bound := by
  have hrepeated (key : String) :
      (key, .repeated) ∈ bindingFaults bound [] ps ↔ ¬ (ps.map Parameter.key).count key ≤ 1 := by
    rw [← List.count_pos_iff, count_repeated, List.count_nil]
    split_ifs <;> omega
  have hother (key : String) (fault : KeyFault) (hfault : fault ≠ .repeated) :
      (key, fault) ∈ bindingFaults bound [] ps ↔
        (∃ p ∈ ps, p.bindingKey = some key) ∧ keyFault? bound key = some fault :=
    mem_bindingFaults hfault
  rw [List.eq_nil_iff_forall_not_mem, List.nodup_iff_count_le_one]
  constructor
  · intro hnone
    refine ⟨fun key => ?_, fun p hp key hkey => ?_⟩
    · exact Classical.byContradiction fun hmany => hnone _ ((hrepeated key).2 hmany)
    · rw [← keyFault?_eq_none, Option.eq_none_iff_forall_ne_some]
      intro fault hfault
      exact hnone _ ((hother key fault (fun h => keyFault?_ne_repeated (h ▸ hfault))).2
        ⟨⟨p, hp, hkey⟩, hfault⟩)
  · rintro ⟨honce, hnamed⟩ ⟨key, fault⟩ hmem
    by_cases hfault : fault = .repeated
    · subst hfault
      exact (hrepeated key).1 hmem (honce key)
    · obtain ⟨⟨p, hp, hkey⟩, hfound⟩ := (hother key fault hfault).1 hmem
      rw [keyFault?_eq_none.2 (hnamed p hp key hkey)] at hfound
      cases hfound

theorem validateBindings_eq_nil {interface : String} {m : MethodDeclaration} {text : String} :
    validateBindings interface m text = [] ↔ (m.parameters.map Parameter.key).Nodup ∧
      ∀ p ∈ m.parameters, ∀ key ∈ p.bindingKey, isVariableName key ∧ key ∈ parameters text := by
  rw [validateBindings, List.map_eq_nil_iff, bindingFaults_eq_nil]

/-- **What is reported of the parameters of a query.** In the order of the parameters: that a
`#[param]` is no name of a variable or else names none of the query, and then that the key of the
parameter is that of exactly one before it. So a key of two or more parameters is reported once as
repeated, and nothing is reported exactly if the keys differ from each other and each `#[param]` names
a variable of the query. -/
theorem reported_bindings (interface : String) (m : MethodDeclaration) (text : String) :
    let keys := m.parameters.map Parameter.key
    let named := parameters text
    let report (key : String) (fault : KeyFault) : Diagnostic :=
      .danglingKey interface m.name key fault.message
    validateBindings interface m text =
      (m.parameters.inits.zip m.parameters).flatMap (fun (before, p) =>
        ((p.bindingKey.bind (keyFault? named)).toList ++
          if (before.map Parameter.key).count p.key = 1 then [KeyFault.repeated] else []).map
            (report p.key)) ∧
    (∀ key, (validateBindings interface m text).count (report key .repeated) =
      if 2 ≤ keys.count key then 1 else 0) ∧
    (validateBindings interface m text = [] ↔ keys.Nodup ∧
      ∀ p ∈ m.parameters, ∀ key ∈ p.bindingKey, isVariableName key ∧ key ∈ named) := by
  intro keys named report
  refine ⟨?_, fun key => ?_, validateBindings_eq_nil⟩
  · rw [validateBindings, bindingFaults_eq, List.map_flatMap]
    simp only [List.nil_append, keyFaults_eq, List.map_map]
    rfl
  · have hinj : Function.Injective fun e : String × KeyFault => report e.1 e.2 := fun e e' h => by
      obtain ⟨-, -, hkey, hmessage⟩ := Diagnostic.danglingKey.inj h
      exact Prod.ext hkey (KeyFault.message_inj hmessage)
    have hcount := List.count_map_of_injective (bindingFaults named [] m.parameters) _ hinj
      (key, .repeated)
    rw [validateBindings, hcount, count_repeated, List.count_nil]
    simp [keys]

end GraphRepo

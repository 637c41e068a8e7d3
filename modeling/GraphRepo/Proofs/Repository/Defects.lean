import Mathlib.Data.List.Forall2
import GraphRepo.Proofs.Repository.Diagnosed

/-!
# The defects of a trait

Each member of a trait has defects of its own, which can be told from that member and the name of
the trait. A trait over the base trait is read exactly if no member has any, and otherwise its
diagnostics are those of its members, one after the other. So a parameter is never left out of a
method without a diagnostic: whatever is read has all methods of the trait and all their inputs.
-/

namespace GraphRepo

namespace Source

/-! ## What is wrong with a part -/

/-- The defect of an input: its pattern, or else its name, or else its `#[param]`. -/
def Input.defect? (interface method : String) : Input → Option Diagnostic
  | .receiver .. => none
  | .typed attributes (.name name) _ =>
    if reservedPrefix.isPrefixOf name.toList then
      some (.invalidSignature interface method SignatureFault.reserved.message)
    else match bindingKey attributes with
      | .error fault => some (.attribute fault.message)
      | .ok _ => none
  | .typed .. => some (.invalidSignature interface method SignatureFault.pattern.message)

/-- The defects of the signature of a method without a body. -/
def Signature.defects (interface : String) (s : Signature) : List Diagnostic :=
  let invalid (fault : SignatureFault) : Diagnostic :=
    .invalidSignature interface s.name fault.message
  (if takesSharedSelf s then [] else [invalid .receiver]) ++
    (if s.isAsync then [] else [invalid .notAsync]) ++
    s.inputs.filterMap (Input.defect? interface s.name) ++
    match returnShape s.output with
    | .ok _ => []
    | .error fault => [invalid (.returns fault)]

/-- The defects of a method. A malformed marker stands alone, and so does a marker on a body. -/
def Method.defects (interface : String) (m : Method) : List Diagnostic :=
  match readMarkers m.attributes, m.body with
  | .error fault, _ => [.attribute fault.message]
  | .ok markers, some _ =>
    if markers.isEmpty then []
    else [.invalidSignature interface m.signature.name SignatureFault.markedDefault.message]
  | .ok _, none => m.signature.defects interface

def Member.defects (interface : String) : Member → List Diagnostic
  | .method m => m.defects interface
  | .constant true _ => []
  | _ => [.unavailable interface TraitFault.member.message]

/-! ## What stands in a trait -/

def Input.isReceiver : Input → Bool
  | .receiver .. => true
  | .typed .. => false

/-- The method that a member asks for. -/
def Member.bodiless? : Member → Option Method
  | .method m => if m.body.isNone then some m else none
  | _ => none

/-- The method that a member brings with it. -/
def Member.defaulted? : Member → Option Method
  | .method m => if m.body.isSome then some m else none
  | _ => none

/-- A parameter says what its input says. -/
def Input.DeclaredAs (i : Input) (p : Parameter) : Prop :=
  ∃ attributes type, i = .typed attributes (.name p.name) type ∧
    bindingKey attributes = .ok p.bindingKey ∧ p.type = resolve type ∧ p.passing = passing type

/-- A declaration says what its method says, with one parameter for each input besides `self`. -/
structure Method.DeclaredAs (m : Method) (d : MethodDeclaration) : Prop where
  name : d.name = m.signature.name
  signature : d.signature = stripSignature m.signature
  markers : readMarkers m.attributes = .ok d.markers
  parameters : List.Forall₂ Input.DeclaredAs (m.signature.inputs.filter (!·.isReceiver))
    d.parameters
  returns : returnShape m.signature.output = .ok d.returns

end Source

open Source

variable {α : Type}

/-! ## The diagnostics of an answer -/

def diagnosticsOf : Except (List Diagnostic) α → List Diagnostic
  | .ok _ => []
  | .error errors => errors

theorem GivesReasons.eq_error_iff {answer : Except (List Diagnostic) α} (h : GivesReasons answer)
    {errors : List Diagnostic} :
    answer = .error errors ↔ diagnosticsOf answer = errors ∧ errors ≠ [] := by
  cases answer with
  | ok a => simp +contextual [diagnosticsOf, eq_comm]
  | error found =>
    have hfound : found ≠ [] := h found rfl
    constructor
    · rintro ⟨⟩
      exact ⟨rfl, hfound⟩
    · rintro ⟨rfl, -⟩
      rfl

theorem GivesReasons.exists_ok_iff {answer : Except (List Diagnostic) α} (h : GivesReasons answer) :
    (∃ a, answer = .ok a) ↔ diagnosticsOf answer = [] := by
  cases answer with
  | ok a => exact ⟨fun _ => rfl, fun _ => ⟨a, rfl⟩⟩
  | error found =>
    have hfound : found ≠ [] := h found rfl
    constructor
    · rintro ⟨a, ha⟩
      cases ha
    · intro hnil
      exact absurd hnil hfound

theorem diagnosticsOf_map {β : Type} (f : α → β) (answer : Except (List Diagnostic) α) :
    diagnosticsOf (f <$> answer) = diagnosticsOf answer := by
  cases answer <;> rfl

theorem flatten_partition : ∀ answers : List (Except (List Diagnostic) α),
    (partition answers).1.flatten = answers.flatMap diagnosticsOf
  | [] => rfl
  | .error errors :: rest => by
    rw [partition, List.flatMap_cons, ← flatten_partition rest]
    rfl
  | .ok a :: rest => by
    rw [partition, List.flatMap_cons, ← flatten_partition rest]
    rfl

/-- **The diagnostics of some answers together are those of each, one after the other.** -/
theorem diagnosticsOf_together (answers : List (Except (List Diagnostic) α)) :
    diagnosticsOf (together answers) = answers.flatMap diagnosticsOf := by
  rw [← flatten_partition, together]
  obtain ⟨errors, values⟩ := partition answers
  cases errors with
  | nil => rfl
  | cons e rest => rfl

/-! ## Each part reports its defects -/

theorem readInput_eq_error_iff {interface method : String} {i : Input} {e : Diagnostic} :
    readInput interface method i = .error e ↔ i.defect? interface method = some e := by
  cases i with
  | receiver attributes reference mutable type => simp [readInput, Input.defect?]
  | typed attributes pattern type =>
    cases pattern with
    | name name =>
      rw [readInput, Input.defect?]
      by_cases hreserved : reservedPrefix.isPrefixOf name.toList = true
      · rw [if_pos hreserved, if_pos hreserved, Except.error.injEq, Option.some_inj]
      · rw [if_neg hreserved, if_neg hreserved]
        cases bindingKey attributes <;> simp
    | _ => simp [readInput, Input.defect?]

theorem errors_partition_inputs (interface method : String) : ∀ inputs : List Input,
    (partition (inputs.map (readInput interface method))).1 =
      inputs.filterMap (Input.defect? interface method)
  | [] => rfl
  | i :: rest => by
    have ih := errors_partition_inputs interface method rest
    rw [List.map_cons, List.filterMap_cons]
    cases hread : readInput interface method i with
    | error e =>
      rw [readInput_eq_error_iff.1 hread, partition]
      exact congrArg (e :: ·) ih
    | ok p =>
      have hnone : i.defect? interface method = none := by
        rw [Option.eq_none_iff_forall_ne_some]
        intro e he
        rw [readInput_eq_error_iff.2 he] at hread
        cases hread
      rw [hnone, partition]
      exact ih

theorem diagnosticsOf_readSignature (interface : String) (s : Signature) (markers : Markers) :
    diagnosticsOf (readSignature interface s markers) = s.defects interface := by
  have hinputs := errors_partition_inputs interface s.name s.inputs
  unfold readSignature Signature.defects
  rw [← hinputs]
  obtain ⟨errors, parameters⟩ := partition (s.inputs.map (readInput interface s.name))
  cases returnShape s.output with
  | error fault => rfl
  | ok returns =>
    dsimp only
    rw [List.append_nil]
    generalize (_ ++ _ ++ errors : List Diagnostic) = before
    cases before <;> rfl

theorem diagnosticsOf_readMethod (interface : String) (m : Method) :
    diagnosticsOf (readMethod interface m) = m.defects interface := by
  unfold readMethod Method.defects
  cases readMarkers m.attributes with
  | error fault => rfl
  | ok markers =>
    cases m.body with
    | some body =>
      by_cases hempty : markers.isEmpty = true
      · simp [hempty, diagnosticsOf]
      · simp [hempty, diagnosticsOf]
    | none =>
      dsimp only
      rw [diagnosticsOf_map, diagnosticsOf_readSignature]

/-- **What a member reports are its defects.** -/
theorem diagnosticsOf_readMember (interface : String) (member : Member) :
    diagnosticsOf (readMember interface member) = member.defects interface := by
  cases member with
  | method m => exact diagnosticsOf_readMethod interface m
  | constant hasDefault tokens => cases hasDefault <;> rfl
  | other tokens => rfl

/-! ## Each part that is read is read in full -/

theorem forall₂_of_map_ok {ε β γ : Type} {f : β → Except ε γ} :
    ∀ {bs : List β} {cs : List γ}, bs.map f = cs.map .ok →
      List.Forall₂ (fun b c => f b = .ok c) bs cs
  | [], [], _ => .nil
  | b :: bs, c :: cs, h => by
    obtain ⟨hc, hrest⟩ := List.cons.inj h
    exact .cons hc (forall₂_of_map_ok hrest)

theorem readInput_eq_ok {interface method : String} {i : Input} {p? : Option Parameter}
    (h : readInput interface method i = .ok p?) :
    Option.Rel Input.DeclaredAs (Option.guard (!·.isReceiver) i) p? := by
  unfold readInput at h
  split at h
  · cases h
    exact .none
  · split at h
    · cases h
    · split at h
      · cases h
      · rename_i key hkey
        cases h
        exact .some ⟨_, _, rfl, hkey, rfl, rfl⟩
  · cases h

/-- **A signature that is read has one parameter for each input besides `self`, in order.** -/
theorem readSignature_parameters {interface : String} {s : Signature} {markers : Markers}
    {d : MethodDeclaration} (h : readSignature interface s markers = .ok d) :
    List.Forall₂ Input.DeclaredAs (s.inputs.filter (!·.isReceiver)) d.parameters := by
  obtain ⟨-, -, parameters, returns, hinputs, -, rfl⟩ := readSignature_eq_ok h
  have hread := forall₂_of_map_ok hinputs
  rw [← List.filterMap_eq_filter]
  refine List.rel_filterMap ?_ hread
  intro i p? hp
  exact readInput_eq_ok hp

/-- **What a member amounts to:** a method to implement, the name of one that has a body, or
nothing for a constant. -/
theorem extracted_of_readMember {interface : String} {member : Member} {x : Extracted}
    (h : readMember interface member = .ok x) :
    (∃ m d, member = .method m ∧ m.body = none ∧ x = .method d ∧ m.DeclaredAs d) ∨
    (∃ m body, member = .method m ∧ m.body = some body ∧ x = .passthrough m.signature.name) ∨
    (∃ tokens, member = .constant true tokens ∧ x = .nothing) := by
  cases member with
  | method m =>
    cases hbody : m.body with
    | none =>
      rw [readMember, readMethod, hbody] at h
      cases hmarkers : readMarkers m.attributes with
      | error fault => rw [hmarkers] at h; cases h
      | ok markers =>
        rw [hmarkers] at h
        obtain ⟨d, hsignature, rfl⟩ := map_eq_ok.1 h
        have hparameters := readSignature_parameters hsignature
        obtain ⟨-, -, parameters, returns, -, hreturns, rfl⟩ := readSignature_eq_ok hsignature
        exact .inl ⟨m, _, rfl, hbody, rfl, rfl, rfl, hmarkers, hparameters, hreturns⟩
    | some body =>
      rw [readMember, readMethod, hbody] at h
      cases hmarkers : readMarkers m.attributes with
      | error fault => rw [hmarkers] at h; cases h
      | ok markers =>
        rw [hmarkers] at h
        by_cases hempty : markers.isEmpty = true
        · simp only [hempty, if_true, Except.ok.injEq] at h
          exact .inr (.inl ⟨m, body, rfl, hbody, h.symm⟩)
        · simp [hempty] at h
  | constant hasDefault tokens =>
    cases hasDefault with
    | true =>
      cases h
      exact .inr (.inr ⟨tokens, rfl, rfl⟩)
    | false => cases h
  | other tokens => cases h

theorem methods_of_read {interface : String} {members : List Member} {found : List Extracted}
    (h : members.map (readMember interface) = found.map .ok) :
    List.Forall₂ Method.DeclaredAs (members.filterMap Member.bodiless?)
      (found.filterMap Extracted.method?) := by
  refine List.rel_filterMap ?_ (forall₂_of_map_ok h)
  intro member x hread
  obtain ⟨m, d, rfl, hbody, rfl, hdeclared⟩ | ⟨m, body, rfl, hbody, rfl⟩ | ⟨tokens, rfl, rfl⟩ :=
    extracted_of_readMember hread
  · rw [Member.bodiless?, hbody]
    exact .some hdeclared
  · rw [Member.bodiless?, hbody]
    exact .none
  · exact .none

theorem passthrough_of_read {interface : String} {members : List Member} {found : List Extracted}
    (h : members.map (readMember interface) = found.map .ok) :
    found.filterMap Extracted.passthrough? =
      (members.filterMap Member.defaulted?).map (·.signature.name) := by
  have hnames : List.Forall₂ (fun (m : Method) name => m.signature.name = name)
      (members.filterMap Member.defaulted?) (found.filterMap Extracted.passthrough?) := by
    refine List.rel_filterMap ?_ (forall₂_of_map_ok h)
    intro member x hread
    obtain ⟨m, d, rfl, hbody, rfl, -⟩ | ⟨m, body, rfl, hbody, rfl⟩ | ⟨tokens, rfl, rfl⟩ :=
      extracted_of_readMember hread
    · rw [Member.defaulted?, hbody]
      exact .none
    · rw [Member.defaulted?, hbody]
      exact .some rfl
    · exact .none
  symm
  rw [← List.forall₂_eq_eq_eq, List.forall₂_map_left_iff]
  exact hnames

/-! ## A trait over the base trait -/

section

variable {t : Trait} {entity id : Ty} {base : Segment}

theorem baseArguments_eq_ok
    (hbase : (boundSegments t.bounds).find? (·.name == baseTrait) = some base)
    (harguments : base.typeArguments = [entity, id]) : baseArguments t = .ok (entity, id) := by
  rw [baseArguments, hbase]
  cases base with
  | angled name turbofish args trailing => simp only [harguments]
  | _ => cases harguments

theorem diagnosticsOf_readTrait (modulePath : Option String)
    (hgenerics : t.generics.entries = []) (harguments : baseArguments t = .ok (entity, id)) :
    diagnosticsOf (readTrait t modulePath) = t.members.flatMap (Member.defects t.name) := by
  have hmembers : diagnosticsOf (readMembers t.name t.members) =
      t.members.flatMap (Member.defects t.name) := by
    rw [readMembers, diagnosticsOf_together, List.flatMap_map]
    simp only [diagnosticsOf_readMember]
  rw [← hmembers, readTrait, if_neg (by simp [hgenerics]), harguments]
  cases readMembers t.name t.members <;> rfl

/-- **A trait over the base trait is read exactly if none of its members is defective.** It fails
with the defects of all members in their order, and only then. Otherwise each method without a body
is declared, in order and with one parameter for each input besides `self`, and each method with a
body keeps it. -/
theorem readTrait_defects (modulePath : Option String) (hgenerics : t.generics.entries = [])
    (hbase : (boundSegments t.bounds).find? (·.name == baseTrait) = some base)
    (harguments : base.typeArguments = [entity, id]) :
    ((∃ errors, readTrait t modulePath = .error errors) ↔
      ∃ member ∈ t.members, member.defects t.name ≠ []) ∧
    (∀ errors, readTrait t modulePath = .error errors →
      errors = t.members.flatMap (Member.defects t.name)) ∧
    ((∀ member ∈ t.members, member.defects t.name = []) →
      ∃ d, readTrait t modulePath = .ok d ∧
        List.Forall₂ Method.DeclaredAs (t.members.filterMap Member.bodiless?) d.methods ∧
        d.passthrough = (t.members.filterMap Member.defaulted?).map (·.signature.name) ∧
        d.name = t.name ∧ d.modulePath = modulePath ∧ d.visibility = t.visibility ∧
        d.entity = entity ∧ d.id = id) := by
  have hok := baseArguments_eq_ok hbase harguments
  have hall := diagnosticsOf_readTrait modulePath hgenerics hok
  have hreasons := readTrait_givesReasons t modulePath
  refine ⟨?_, ?_, ?_⟩
  · constructor
    · rintro ⟨errors, herrors⟩
      obtain ⟨rfl, hne⟩ := hreasons.eq_error_iff.1 herrors
      rw [hall] at hne
      simpa using hne
    · intro hdefective
      refine ⟨_, hreasons.eq_error_iff.2 ⟨hall, ?_⟩⟩
      simpa using hdefective
  · intro errors herrors
    obtain ⟨rfl, -⟩ := hreasons.eq_error_iff.1 herrors
    exact hall
  · intro hsound
    obtain ⟨d, hd⟩ := hreasons.exists_ok_iff.2 (hall.trans (List.flatMap_eq_nil_iff.2 hsound))
    obtain ⟨-, entity', id', found, hbase', hread, rfl⟩ := readTrait_eq_ok hd
    rw [hok] at hbase'
    cases hbase'
    exact ⟨_, hd, methods_of_read hread, passthrough_of_read hread, rfl, rfl, rfl, rfl, rfl⟩

end

/-- `fn find((a, b): String, __at: String)`, which lacks `&self`, `async` and a result. -/
def faultySignature : Signature where
  isConst := false
  isAsync := false
  qualifiers := []
  name := "find"
  generics := ⟨[], false, []⟩
  inputs := [.typed [] (.asWritten (parens (word "a" ++ op "," ++ word "b"))) (plainType "String"),
    .typed [] (.name "__at") (plainType "String")]
  trailing := false
  variadic := []
  output := none

/-- The greeting trait with three more methods: a signature that is all wrong, the same below a bare
`#[query]`, and a marker on a method with a body. -/
def faultyTrait : Trait :=
  { greetTrait with
    members := greetTrait.members ++
      [.method ⟨[], faultySignature, none⟩,
       .method ⟨[⟨false, ⟨false, ["query"]⟩, .nothing⟩], faultySignature, none⟩,
       .constant true [],
       .method ⟨[⟨false, ⟨false, ["insert"]⟩, .nothing⟩], faultySignature, some []⟩] }

/-- The one trait declares its method; the methods of the other have five defects, one and one. -/
theorem readTrait_defects_faulty :
    (∃ d, readTrait greetTrait none = .ok d ∧ d.methods.length = 1) ∧
    readTrait faultyTrait none = .error
      [.invalidSignature "Users" "find" SignatureFault.receiver.message,
       .invalidSignature "Users" "find" SignatureFault.notAsync.message,
       .invalidSignature "Users" "find" SignatureFault.pattern.message,
       .invalidSignature "Users" "find" SignatureFault.reserved.message,
       .invalidSignature "Users" "find" (SignatureFault.returns .missing).message,
       .attribute AttributeFault.queryForm.message,
       .invalidSignature "Users" "find" SignatureFault.markedDefault.message] := by
  have hbase : ∃ base, (boundSegments greetTrait.bounds).find? (·.name == baseTrait) = some base ∧
      base.typeArguments = [plainType "User", plainType "String"] := ⟨_, by cbv, by cbv⟩
  obtain ⟨base, hfound, harguments⟩ := hbase
  constructor
  · obtain ⟨-, -, hreads⟩ := readTrait_defects (t := greetTrait) none (by cbv) hfound harguments
    have hsound : ∀ member ∈ greetTrait.members, member.defects greetTrait.name = [] :=
      List.forall_mem_singleton.2 (by cbv)
    obtain ⟨d, hd, hmethods, -⟩ := hreads hsound
    exact ⟨d, hd, hmethods.length_eq.symm⟩
  · obtain ⟨hfails, hdefects, -⟩ := readTrait_defects (t := faultyTrait) none (by cbv) hfound
      harguments
    have hdefective : ∃ member ∈ faultyTrait.members, member.defects faultyTrait.name ≠ [] :=
      ⟨.method ⟨[], faultySignature, none⟩, by simp [faultyTrait], List.cons_ne_nil _ _⟩
    obtain ⟨errors, herrors⟩ := hfails.2 hdefective
    rw [herrors, hdefects errors herrors]
    cbv

end GraphRepo

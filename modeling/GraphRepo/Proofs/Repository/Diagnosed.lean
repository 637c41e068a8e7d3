import Mathlib
import GraphRepo.Proofs.Repository.Plan

/-!
# Reasons

Whoever refuses a trait, or a part of it, gives at least one diagnostic for it.
-/

namespace GraphRepo

open Source

variable {α : Type}

/-- An answer that is an error has a diagnostic. -/
def GivesReasons (answer : Except (List Diagnostic) α) : Prop :=
  ∀ faults, answer = .error faults → faults ≠ []

theorem GivesReasons.ok (a : α) : GivesReasons (.ok a : Except (List Diagnostic) α) :=
  fun faults h => by cases h

theorem GivesReasons.error {d : Diagnostic} {ds : List Diagnostic} :
    GivesReasons (.error (d :: ds) : Except (List Diagnostic) α) := by
  intro faults h
  cases h
  exact List.cons_ne_nil d ds

theorem mem_of_mem_partition {ε : Type} : ∀ {answers : List (Except ε α)} {e : ε},
    e ∈ (partition answers).1 → .error e ∈ answers
  | .error e' :: rest, e, h => by
    rw [partition] at h
    obtain rfl | h := List.mem_cons.1 h
    · exact List.mem_cons_self
    · exact List.mem_cons_of_mem _ (mem_of_mem_partition h)
  | .ok a :: rest, e, h => List.mem_cons_of_mem _ (mem_of_mem_partition h)

theorem GivesReasons.together {answers : List (Except (List Diagnostic) α)}
    (h : ∀ answer ∈ answers, GivesReasons answer) : GivesReasons (together answers) := by
  intro faults hfaults
  unfold GraphRepo.together at hfaults
  have hmem (e : List Diagnostic) := @mem_of_mem_partition α _ answers e
  revert hmem hfaults
  obtain ⟨errors, values⟩ := partition answers
  intro hfaults hmem
  cases errors with
  | nil => cases hfaults
  | cons e rest =>
    cases hfaults
    have he : e ≠ [] := h (.error e) (hmem e List.mem_cons_self) e rfl
    intro hnil
    exact he (List.append_eq_nil_iff.1 hnil).1

theorem readSignature_givesReasons (interface : String) (s : Signature) (markers : Markers) :
    GivesReasons (readSignature interface s markers) := by
  intro faults h
  unfold readSignature at h
  dsimp only at h
  split at h
  · cases h
  · rename_i hnone
    cases h
    exact hnone
  · cases h
    exact List.append_ne_nil_of_right_ne_nil _ (List.cons_ne_nil _ _)

theorem readMember_givesReasons (interface : String) (member : Member) :
    GivesReasons (readMember interface member) := by
  cases member with
  | method m =>
    rw [readMember, readMethod]
    cases readMarkers m.attributes with
    | error fault => exact .error
    | ok markers =>
      cases m.body with
      | some body =>
        dsimp only
        split
        · exact .ok _
        · exact .error
      | none =>
        intro faults h
        exact readSignature_givesReasons interface m.signature markers faults (map_eq_error.1 h)
  | constant hasDefault tokens =>
    cases hasDefault with
    | true => exact .ok _
    | false => exact .error
  | other tokens => exact .error

theorem readTrait_givesReasons (t : Trait) (modulePath : Option String) :
    GivesReasons (readTrait t modulePath) := by
  unfold readTrait
  split
  · exact .error
  · cases baseArguments t with
    | error fault => exact .error
    | ok base =>
      have hmembers : GivesReasons (readMembers t.name t.members) :=
        .together fun answer hanswer => by
          obtain ⟨member, -, rfl⟩ := List.mem_map.1 hanswer
          exact readMember_givesReasons t.name member
      cases hread : readMembers t.name t.members with
      | error faults =>
        intro faults' h
        cases h
        exact hmembers faults hread
      | ok found => exact .ok _

theorem check_givesReasons (interface : String) (m : MethodDeclaration) :
    GivesReasons (check interface m) := by
  unfold check
  split
  · exact .error
  · split
    · exact .ok _
    · rename_i hnone
      intro faults h
      cases h
      exact hnone

theorem classifyAll_givesReasons (d : Declaration) : GivesReasons (classifyAll d) :=
  .together fun answer hanswer => by
    obtain ⟨m, -, rfl⟩ := List.mem_map.1 hanswer
    exact check_givesReasons d.name m

/-- **A trait without a plan has a diagnostic.** -/
theorem ne_nil_of_planOf {t : Trait} {faults : List Diagnostic}
    (h : planOf t = .error (.diagnostics faults)) : faults ≠ [] := by
  unfold planOf at h
  cases hread : readTrait t none with
  | error errors =>
    rw [hread] at h
    cases h
    exact readTrait_givesReasons t none _ hread
  | ok d =>
    rw [hread] at h
    dsimp only at h
    cases hclassify : classifyAll d with
    | error errors =>
      rw [hclassify] at h
      cases h
      exact classifyAll_givesReasons d _ hclassify
    | ok cs =>
      rw [hclassify] at h
      dsimp only at h
      cases hfactory : d.factoryName with
      | error fault => rw [hfactory] at h; cases h
      | ok factory => rw [hfactory] at h; cases h

end GraphRepo

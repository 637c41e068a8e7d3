import Mathlib
import GraphRepo.Proofs.Cypher.Closed
import GraphRepo.Proofs.Database.Sending
import GraphRepo.Proofs.Repository.BindingKey

/-!
# Names in the statements about nodes

Labels and properties are written between backticks, with every backtick inside doubled. A reader
that takes a doubled backtick for one finds the name again. The scanner of parameters does not know
of doubling: to it a name is a row of escaped names side by side, and nothing of the name is outside
of them.
-/

namespace GraphRepo

open Cypher

/-! ## Reading a name back -/

/-- A name up to the first backtick that is not doubled, and the text behind that; a doubled
backtick stands for one. -/
def nameBody : List Char → Option (List Char × List Char)
  | [] => none
  | [c] => if c = backtick then some ([], []) else none
  | c :: d :: rest =>
    if c ≠ backtick then (nameBody (d :: rest)).map fun p => (c :: p.1, p.2)
    else if d = backtick then (nameBody rest).map fun p => (backtick :: p.1, p.2)
    else some ([], d :: rest)

/-- A name between backticks at the start of a text, and the text behind it. -/
def quotedName? : List Char → Option (List Char × List Char)
  | [] => none
  | c :: rest => if c = backtick then nameBody rest else none

/-- A name as it stands between its backticks. -/
def doubled (name : List Char) : List Char :=
  name.flatMap fun c => if c = backtick then [c, c] else [c]

theorem toList_escapeName (name : String) :
    (escapeName name).toList = backtick :: (doubled name.toList ++ [backtick]) := by
  rw [escapeName, String.toList_ofList]
  rfl

theorem doubled_backtick (name : List Char) :
    doubled (backtick :: name) = backtick :: backtick :: doubled name := rfl

theorem doubled_cons {c : Char} (hc : c ≠ backtick) (name : List Char) :
    doubled (c :: name) = c :: doubled name := by
  simp only [doubled, List.flatMap_cons, if_neg hc]
  rfl

/-- Behind an open backtick and some text of the name, the rest of the name closes it and opens
further names until the last is closed. -/
theorem reaches_doubled (rest : List Char) : ∀ (name : List Char) {before : List Char},
    backtick ∉ before → ∃ ts,
      Reaches (backtick :: (before ++ (doubled name ++ backtick :: rest))) ts rest ∧
        ∀ t ∈ ts, t.binds = none
  | [], before, hbefore => by
    have hfirst : FirstToken backtick (before ++ (doubled [] ++ backtick :: rest))
        (.escapedName before) rest := .escapedName rfl rfl hbefore
    exact ⟨_, .behind hfirst (.here rest), by simp [Token.binds]⟩
  | c :: name, before, hbefore => by
    by_cases hc : c = backtick
    · subst hc
      -- The first backtick closes a name and the second opens the next.
      obtain ⟨ts, hreaches, hbinds⟩ := @reaches_doubled rest name [] List.not_mem_nil
      have hfirst : FirstToken backtick (before ++ (doubled (backtick :: name) ++ backtick :: rest))
          (.escapedName before) (backtick :: (doubled name ++ backtick :: rest)) :=
        .escapedName rfl rfl hbefore
      refine ⟨_, .behind hfirst hreaches, fun t ht => ?_⟩
      obtain rfl | ht := List.mem_cons.1 ht
      · rfl
      · exact hbinds t ht
    · have hlonger : backtick ∉ before ++ [c] := by
        simp [hbefore, Ne.symm hc]
      obtain ⟨ts, hreaches, hbinds⟩ := reaches_doubled rest name hlonger
      refine ⟨ts, ?_, hbinds⟩
      rw [doubled_cons hc, List.cons_append]
      rwa [List.append_assoc, List.singleton_append] at hreaches

/-- **Nothing of a quoted name is a parameter**, and scanning goes on behind it. -/
theorem boundNames_escapeName (name : String) (rest : List Char) :
    boundNames ((escapeName name).toList ++ rest) = boundNames rest := by
  obtain ⟨ts, hreaches, hbinds⟩ :=
    @reaches_doubled rest name.toList [] List.not_mem_nil
  have htext : (escapeName name).toList ++ rest =
      backtick :: ([] ++ (doubled name.toList ++ backtick :: rest)) := by
    rw [toList_escapeName, List.cons_append, List.append_assoc]
    rfl
  have hnone : ts.filterMap (fun t => t.binds.map String.ofList) = [] := by
    refine List.filterMap_eq_nil_iff.2 fun t ht => ?_
    rw [hbinds t ht]
    rfl
  unfold boundNames
  rw [htext, hreaches.scan_eq, List.filterMap_append, hnone, List.nil_append]

namespace Entity

variable {α σ : Type} (e : Entity α)

end Entity

/-! ## What is sent -/

section Sending

variable {α σ : Type} (ex : Executor σ) (e : Entity α) (a : α) (log : List Sent) (s : σ)

end Sending

end GraphRepo

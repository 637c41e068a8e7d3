import Mathlib.Data.List.Infix
import GraphRepo.Proofs.Table
import GraphRepo.Repository.Pass

/-!
# Writing a report into memory

A sink in memory gives a name to the unit that comes first with it, and refuses all others. So what
becomes of a unit is decided by the files that were there and by the units before it, and no refusal
has an effect on what comes after.
-/

namespace GraphRepo

namespace MemorySink

variable {s : MemorySink} {u : GeneratedUnit} {units : List GeneratedUnit}

/-- Whether a unit has a name that no file has and no unit before it. -/
def isNew (s : MemorySink) (p : List GeneratedUnit × GeneratedUnit) : Bool :=
  !s.files.has p.2.fileName && p.1.all (·.fileName ≠ p.2.fileName)

/-- The units with a new name, in order. -/
def fresh (s : MemorySink) (units : List GeneratedUnit) : List GeneratedUnit :=
  ((units.inits.zip units).filter s.isNew).map Prod.snd

/-- The units whose name is taken when it is their turn, in order. -/
def refused (s : MemorySink) (units : List GeneratedUnit) : List GeneratedUnit :=
  ((units.inits.zip units).filter (!s.isNew ·)).map Prod.snd

/-- The file that a unit is rendered to. -/
def fileOf (u : GeneratedUnit) : String × String := (u.fileName, u.render)

/-- What is there after a unit had its turn. -/
def after (s : MemorySink) (u : GeneratedUnit) : MemorySink :=
  (MemorySink.write u.fileName u.render s).2

/-! ## One unit -/

theorem after_of_has (h : s.files.has u.fileName = true) : s.after u = s := by
  rw [after, write, if_pos h]

theorem after_of_not_has (h : ¬ s.files.has u.fileName = true) :
    s.after u = ⟨s.files.set u.fileName u.render⟩ := by
  rw [after, write, if_neg h]

theorem find?_after (name : String) :
    (s.after u).files.find? name =
      (s.files.find? name).or (if u.fileName = name then some u.render else none) := by
  by_cases h : s.files.has u.fileName = true
  · rw [after_of_has h]
    by_cases hname : u.fileName = name
    · obtain ⟨text, htext⟩ := Option.isSome_iff_exists.1 (hname ▸ h)
      rw [htext, Option.some_or]
    · rw [if_neg hname, Option.or_none]
  · rw [after_of_not_has h, Table.find?_set]
    by_cases hname : u.fileName = name
    · have hnone : s.files.find? name = none := by
        simpa [Table.has, hname] using h
      rw [hnone, Option.none_or]
    · rw [if_neg hname, if_neg hname, Option.or_none]

theorem has_after (name : String) :
    (s.after u).files.has name = true ↔ s.files.has name = true ∨ u.fileName = name := by
  unfold Table.has
  rw [find?_after, Option.isSome_or, Bool.or_eq_true]
  by_cases hname : u.fileName = name
  · simp [hname]
  · simp [hname]

/-- What is new behind a unit is what is new once the unit had its turn. -/
theorem isNew_cons (earlier : List GeneratedUnit) (v : GeneratedUnit) :
    s.isNew (u :: earlier, v) = (s.after u).isNew (earlier, v) := by
  have hafter := @has_after s u v.fileName
  rw [Bool.eq_iff_iff]
  unfold isNew
  simp only [List.all_cons, Bool.and_eq_true, Bool.not_eq_true', ← Bool.not_eq_true, hafter,
    decide_eq_true_eq, not_or, ne_eq]
  tauto

theorem isNew_nil (u : GeneratedUnit) : s.isNew ([], u) = !s.files.has u.fileName := by
  simp [isNew]

theorem zip_inits_cons (u : GeneratedUnit) (units : List GeneratedUnit) :
    (u :: units).inits.zip (u :: units) =
      ([], u) :: (units.inits.zip units).map fun p => (u :: p.1, p.2) := by
  rw [List.inits_cons, List.zip_cons_cons, List.zip_map_left]
  rfl

theorem filter_behind (pick : Bool → Bool) (u : GeneratedUnit) (units : List GeneratedUnit) :
    (((units.inits.zip units).map fun p => (u :: p.1, p.2)).filter fun p => pick (s.isNew p)).map
        Prod.snd =
      ((units.inits.zip units).filter fun p => pick ((s.after u).isNew p)).map Prod.snd := by
  rw [List.filter_map, List.map_map]
  have hpick : ((fun p => pick (s.isNew p)) ∘ fun p : List GeneratedUnit × GeneratedUnit =>
      (u :: p.1, p.2)) = fun p => pick ((s.after u).isNew p) := by
    funext p
    exact congrArg pick (isNew_cons p.1 p.2)
  rw [hpick]
  rfl

theorem fresh_cons (u : GeneratedUnit) (units : List GeneratedUnit) :
    s.fresh (u :: units) =
      (if s.files.has u.fileName = true then [] else [u]) ++ (s.after u).fresh units := by
  have hrest := @filter_behind s id u units
  unfold fresh
  rw [zip_inits_cons, List.filter_cons, isNew_nil]
  by_cases h : s.files.has u.fileName = true
  · rw [if_pos h, h]
    exact hrest
  · rw [if_neg h, Bool.eq_false_of_not_eq_true h]
    exact congrArg (u :: ·) hrest

theorem refused_cons (u : GeneratedUnit) (units : List GeneratedUnit) :
    s.refused (u :: units) =
      (if s.files.has u.fileName = true then [u] else []) ++ (s.after u).refused units := by
  have hrest := @filter_behind s not u units
  unfold refused
  rw [zip_inits_cons, List.filter_cons, isNew_nil]
  by_cases h : s.files.has u.fileName = true
  · rw [if_pos h, h]
    exact congrArg (u :: ·) hrest
  · rw [if_neg h, Bool.eq_false_of_not_eq_true h]
    exact hrest

/-! ## All units -/

theorem writeUnits_cons (u : GeneratedUnit) (units : List GeneratedUnit) (s : MemorySink) :
    writeUnits (u :: units) s =
      let later := writeUnits units (s.after u)
      if s.files.has u.fileName = true then
        ({ later.1 with errors := .alreadyWritten u.fileName :: later.1.errors }, later.2)
      else ({ later.1 with written := u.fileName :: later.1.written }, later.2) := by
  have hwrite : Sink.write u.fileName u.render s = MemorySink.write u.fileName u.render s := rfl
  rw [writeUnits, hwrite, after, write]
  by_cases h : s.files.has u.fileName = true
  · rw [if_pos h, if_pos h]
  · rw [if_neg h, if_neg h]

theorem left_cons (u : GeneratedUnit) (units : List GeneratedUnit) (s : MemorySink) :
    (writeUnits (u :: units) s).2 = (writeUnits units (s.after u)).2 := by
  rw [writeUnits_cons]
  split <;> rfl

theorem written_writeUnits : ∀ (units : List GeneratedUnit) (s : MemorySink),
    (writeUnits units s).1.written = (s.fresh units).map (·.fileName)
  | [], s => rfl
  | u :: units, s => by
    have ih := written_writeUnits units (s.after u)
    rw [writeUnits_cons, fresh_cons]
    by_cases h : s.files.has u.fileName = true
    · simpa [h] using ih
    · simpa [h] using ih

theorem errors_writeUnits_memory : ∀ (units : List GeneratedUnit) (s : MemorySink),
    (writeUnits units s).1.errors = (s.refused units).map fun u => .alreadyWritten u.fileName
  | [], s => rfl
  | u :: units, s => by
    have ih := errors_writeUnits_memory units (s.after u)
    rw [writeUnits_cons, refused_cons]
    by_cases h : s.files.has u.fileName = true
    · simpa [h] using ih
    · simpa [h] using ih

/-- **Every file that was there is kept, and what is added are the units with a new name.** -/
theorem files_writeUnits : ∀ (units : List GeneratedUnit) (s : MemorySink),
    (writeUnits units s).2.files.Perm (s.files ++ (s.fresh units).map fileOf)
  | [], s => by
    have hfresh : s.fresh [] = [] := rfl
    rw [hfresh, List.map_nil, List.append_nil]
    exact List.Perm.refl _
  | u :: units, s => by
    have ih := files_writeUnits units (s.after u)
    rw [left_cons, fresh_cons]
    refine ih.trans ?_
    by_cases h : s.files.has u.fileName = true
    · rw [after_of_has h, if_pos h, List.nil_append]
    · have habsent : u.fileName ∉ s.files.keys := fun hmem => h ((Table.has_iff _ _).2 hmem)
      have hset : (s.after u).files.Perm (fileOf u :: s.files) := by
        rw [after_of_not_has h]
        exact Table.set_perm u.fileName u.render habsent
      rw [if_neg h, List.singleton_append, List.map_cons]
      exact (hset.append_right _).trans List.perm_middle.symm

/-- **Under a name there is what was there before, or else the unit that was the first with
it.** -/
theorem find?_writeUnits (name : String) : ∀ (units : List GeneratedUnit) (s : MemorySink),
    (writeUnits units s).2.files.find? name =
      (s.files.find? name).or ((units.find? (·.fileName = name)).map GeneratedUnit.render)
  | [], s => by rw [writeUnits, List.find?_nil, Option.map_none, Option.or_none]
  | u :: units, s => by
    have ih := find?_writeUnits name units (s.after u)
    rw [left_cons, ih, find?_after, Option.or_assoc, List.find?_cons]
    by_cases hname : u.fileName = name
    · simp [hname]
    · simp [hname]

theorem writeUnits_of_has : ∀ {units : List GeneratedUnit} {s : MemorySink},
    (∀ u ∈ units, s.files.has u.fileName = true) →
      writeUnits units s = (⟨[], units.map fun u => .alreadyWritten u.fileName⟩, s)
  | [], s, _ => rfl
  | u :: units, s, h => by
    obtain ⟨hu, hunits⟩ := List.forall_mem_cons.1 h
    rw [writeUnits_cons, after_of_has hu, writeUnits_of_has hunits]
    simp [hu]

theorem length_fresh_add_length_refused (units : List GeneratedUnit) (s : MemorySink) :
    (s.fresh units).length + (s.refused units).length = units.length := by
  have hzip : (units.inits.zip units).length = units.length := by
    rw [List.length_zip, List.length_inits]
    omega
  unfold fresh refused
  rw [List.length_map, List.length_map, ← hzip]
  exact (List.length_eq_length_filter_add s.isNew).symm

end MemorySink

/-- **A report is written into memory without any loss.** Every file that was there stays as it is.
The units whose name is neither that of a file nor that of a unit before them are added, and nothing
else. They are listed as written in their order, every other unit is one refusal in its order, and
no refusal stops what comes after it. When the same report comes again, all of it is refused. -/
theorem writeTo_memory (r : Report) (s : MemorySink) :
    let summary := (r.writeTo s).1
    let left := (r.writeTo s).2
    (∀ name, left.files.find? name =
      (s.files.find? name).or ((r.units.find? (·.fileName = name)).map GeneratedUnit.render)) ∧
    left.files.Perm (s.files ++ (s.fresh r.units).map fun u => (u.fileName, u.render)) ∧
    summary.written = (s.fresh r.units).map (·.fileName) ∧
    summary.errors = (s.refused r.units).map (fun u => .alreadyWritten u.fileName) ∧
    summary.written.length + summary.errors.length = r.units.length ∧
    r.writeTo left = (⟨[], r.units.map fun u => .alreadyWritten u.fileName⟩, left) := by
  have hwritten := MemorySink.written_writeUnits r.units s
  have herrors := MemorySink.errors_writeUnits_memory r.units s
  refine ⟨fun name => MemorySink.find?_writeUnits name r.units s,
    MemorySink.files_writeUnits r.units s, hwritten, herrors, ?_, ?_⟩
  · unfold Report.writeTo
    rw [hwritten, herrors, List.length_map, List.length_map]
    exact MemorySink.length_fresh_add_length_refused r.units s
  · refine MemorySink.writeUnits_of_has fun u hu => ?_
    have hfound : (r.units.find? (·.fileName = u.fileName)).isSome = true := by
      rw [List.find?_isSome]
      exact ⟨u, hu, decide_eq_true rfl⟩
    unfold Report.writeTo Table.has
    rw [MemorySink.find?_writeUnits, Option.isSome_or, Option.isSome_map, hfound, Bool.or_true]

end GraphRepo

import Mathlib.Data.List.Sort
import GraphRepo.Table

/-!
# Sets of names and tables

A list of names in ascending order without repetition is fixed by its members, so two sets of names
are equal as soon as they have the same names. A table that is written under different keys keeps
every entry; under one key the entry written last stays.
-/

namespace GraphRepo

/-- The names ascend, each once. -/
def Ascending (names : List String) : Prop := names.Pairwise (· < ·)

theorem mem_insertName (name n : String) :
    ∀ names : List String, n ∈ insertName name names ↔ n = name ∨ n ∈ names
  | [] => by simp [insertName]
  | m :: rest => by
    rw [insertName]
    split
    · exact List.mem_cons
    · split
      · rename_i heq
        subst heq
        simp
      · rw [List.mem_cons, mem_insertName name n rest, List.mem_cons]
        exact or_left_comm

theorem ascending_insertName (name : String) :
    ∀ {names : List String}, Ascending names → Ascending (insertName name names)
  | [], _ => List.pairwise_singleton _ _
  | m :: rest, h => by
    obtain ⟨hm, hr⟩ := List.pairwise_cons.1 h
    rw [insertName]
    split
    · rename_i hlt
      refine List.pairwise_cons.2 ⟨fun n hn => ?_, h⟩
      obtain rfl | hn := List.mem_cons.1 hn
      · exact hlt
      · exact String.lt_trans hlt (hm n hn)
    · split
      · exact h
      · rename_i hlt hne
        refine List.pairwise_cons.2 ⟨fun n hn => ?_, ascending_insertName name hr⟩
        obtain rfl | hn := (mem_insertName name n rest).1 hn
        · exact Classical.byContradiction fun hle => hne (String.le_antisymm hle hlt)
        · exact hm n hn

theorem mem_nameSet (n : String) : ∀ names : List String, n ∈ nameSet names ↔ n ∈ names
  | [] => Iff.rfl
  | m :: rest => by
    have : nameSet (m :: rest) = insertName m (nameSet rest) := rfl
    rw [this, mem_insertName, mem_nameSet n rest, List.mem_cons]

theorem ascending_nameSet : ∀ names : List String, Ascending (nameSet names)
  | [] => List.Pairwise.nil
  | m :: rest => ascending_insertName m (ascending_nameSet rest)

/-- **Sets of names are equal when they have the same names.** -/
theorem nameSet_congr {a b : List String} (h : ∀ n, n ∈ a ↔ n ∈ b) : nameSet a = nameSet b := by
  refine List.Pairwise.eq_of_mem_iff (ascending_nameSet a) (ascending_nameSet b) fun n => ?_
  rw [mem_nameSet, mem_nameSet, h n]

/-- The names of two sets, as a set. -/
def unionNames (a b : List String) : List String := nameSet (a ++ b)

theorem nameSet_append (a b : List String) :
    nameSet (a ++ b) = unionNames (nameSet a) (nameSet b) :=
  nameSet_congr fun n => by simp [mem_nameSet]

/-- A set of names takes in others without a change if it has them. -/
theorem unionNames_eq_left {names : List String} (more : List String) :
    unionNames (nameSet names) more = nameSet names ↔ ∀ n ∈ more, n ∈ nameSet names := by
  constructor
  · intro h n hn
    rw [← h]
    exact (mem_nameSet n _).2 (List.mem_append_right _ hn)
  · intro h
    refine nameSet_congr fun n => ?_
    rw [List.mem_append, mem_nameSet]
    exact or_iff_left_of_imp fun hn => (mem_nameSet n _).1 (h n hn)

namespace Table

variable {α : Type}

/-- A new key adds its entry and leaves the others as they are. -/
theorem set_perm (key : String) (value : α) :
    ∀ {table : Table α}, key ∉ table.keys → (table.set key value).Perm ((key, value) :: table)
  | [], _ => List.Perm.refl _
  | (k, v) :: rest, h => by
    rw [keys, List.map_cons, List.mem_cons, not_or] at h
    rw [set]
    split
    · exact List.Perm.refl _
    · rw [if_neg h.1]
      exact ((set_perm key value h.2).cons (k, v)).trans (List.Perm.swap _ _ _)

theorem has_iff (name : String) :
    ∀ table : Table α, table.has name = true ↔ name ∈ table.keys
  | [] => by simp [has, find?, keys]
  | (k, v) :: rest => by
    have ih := has_iff name rest
    unfold has keys at ih ⊢
    rw [find?, List.map_cons, List.mem_cons]
    by_cases hk : k = name
    · simp [hk]
    · rw [if_neg hk, ih]
      simp [Ne.symm hk]

theorem keys_perm {t u : Table α} (h : t.Perm u) : t.keys.Perm u.keys := h.map Prod.fst

/-- Entries written one after the other. -/
def setAll (entries : List (String × α)) (table : Table α) : Table α :=
  entries.foldl (fun all e => all.set e.1 e.2) table

/-- **Entries with different new keys are all kept**, and nothing else is added. -/
theorem setAll_perm :
    ∀ {entries : List (String × α)} {table : Table α}, (table.keys ++ entries.map Prod.fst).Nodup →
      (table.setAll entries).Perm (table ++ entries)
  | [], table, _ => by rw [setAll, List.foldl_nil, List.append_nil]
  | (k, v) :: rest, table, h => by
    rw [List.map_cons, List.nodup_middle, List.nodup_cons, List.mem_append, not_or] at h
    have hset := set_perm k v h.1.1
    have hkeys : ((table.set k v).keys ++ rest.map Prod.fst).Nodup := by
      refine (((keys_perm hset).append_right _).nodup_iff).2 ?_
      exact List.nodup_cons.2 ⟨by simpa [keys] using h.1, h.2⟩
    rw [setAll, List.foldl_cons]
    refine (setAll_perm hkeys).trans ?_
    refine (hset.append_right rest).trans ?_
    exact List.perm_middle.symm

/-- An entry whose key has no other is the one that is found. -/
theorem find?_of_mem {key : String} {value : α} :
    ∀ {table : Table α}, table.keys.Nodup → (key, value) ∈ table → table.find? key = some value
  | [], _, h => by cases h
  | (k, v) :: rest, hd, h => by
    obtain ⟨habsent, hrest⟩ := List.nodup_cons.1 hd
    rw [find?]
    obtain heq | hmem := List.mem_cons.1 h
    · cases heq
      rw [if_pos rfl]
    · have hne : k ≠ key := by
        rintro rfl
        exact habsent (List.mem_map.2 ⟨_, hmem, rfl⟩)
      rw [if_neg hne]
      exact find?_of_mem hrest hmem

theorem find?_set (key name : String) (value : α) :
    ∀ table : Table α, (table.set key value).find? name =
      if key = name then some value else table.find? name
  | [] => rfl
  | (k, v) :: rest => by
    rw [set]
    split
    · rfl
    · split
      · rename_i heq
        subst heq
        simp only [find?]
        split <;> rfl
      · rename_i hne
        rw [find?, find?, find?_set key name value rest]
        by_cases hkey : key = name
        · subst hkey
          rw [if_neg (Ne.symm hne), if_pos rfl, if_pos rfl]
        · rw [if_neg hkey, if_neg hkey]

theorem find?_append (name : String) (after : Table α) :
    ∀ table : Table α, find? name (table ++ after) = (table.find? name).or (after.find? name)
  | [] => rfl
  | (k, v) :: rest => by
    rw [List.cons_append, find?, find?, find?_append name after rest]
    split <;> rfl

theorem find?_eq_some_iff {name : String} {value : α} :
    ∀ {table : Table α}, table.find? name = some value ↔
      ∃ before after, table = before ++ (name, value) :: after ∧ name ∉ before.map Prod.fst
  | [] => by simp [find?]
  | (k, v) :: rest => by
    by_cases hkey : k = name
    · subst hkey
      rw [find?, if_pos rfl]
      constructor
      · rintro ⟨⟩
        exact ⟨[], rest, rfl, List.not_mem_nil⟩
      · rintro ⟨_ | ⟨p, before⟩, after, heq, habsent⟩
        · cases heq
          rfl
        · obtain ⟨rfl, -⟩ := List.cons.inj heq
          exact absurd List.mem_cons_self habsent
    · rw [find?, if_neg hkey, find?_eq_some_iff]
      constructor
      · rintro ⟨before, after, rfl, habsent⟩
        refine ⟨(k, v) :: before, after, rfl, ?_⟩
        rw [List.map_cons, List.mem_cons, not_or]
        exact ⟨Ne.symm hkey, habsent⟩
      · rintro ⟨_ | ⟨p, before⟩, after, heq, habsent⟩
        · cases heq
          exact absurd rfl hkey
        · obtain ⟨-, rfl⟩ := List.cons.inj heq
          exact ⟨before, after, rfl, fun hmem => habsent (List.mem_cons_of_mem _ hmem)⟩

theorem find?_iff_mem {key : String} {value : α} {table : Table α} (h : table.keys.Nodup) :
    table.find? key = some value ↔ (key, value) ∈ table := by
  refine ⟨fun hfound => ?_, find?_of_mem h⟩
  obtain ⟨before, after, rfl, -⟩ := find?_eq_some_iff.1 hfound
  exact List.mem_append_right before List.mem_cons_self

theorem find?_setAll (name : String) :
    ∀ (entries : List (String × α)) (table : Table α),
      (table.setAll entries).find? name = (find? name entries.reverse).or (table.find? name)
  | [], _ => rfl
  | (k, v) :: rest, table => by
    have hrest := find?_setAll name rest (table.set k v)
    rw [setAll, List.foldl_cons, ← setAll, hrest, find?_set, List.reverse_cons, find?_append,
      Option.or_assoc, find?, find?]
    split <;> rfl

/-- **Of the entries written under one key the last stays.** -/
theorem find?_setAll_eq_some {name : String} {value : α} {entries : List (String × α)} :
    (setAll entries []).find? name = some value ↔
      ∃ before after, entries = before ++ (name, value) :: after ∧ name ∉ after.map Prod.fst := by
  rw [find?_setAll, find?, Option.or_none, find?_eq_some_iff]
  constructor
  · rintro ⟨after, before, hrev, habsent⟩
    refine ⟨before.reverse, after.reverse, ?_, by simpa using habsent⟩
    simpa using congrArg List.reverse hrev
  · rintro ⟨before, after, rfl, habsent⟩
    exact ⟨after.reverse, before.reverse, by simp, by simpa using habsent⟩

theorem keys_set (key : String) (value : α) :
    ∀ table : Table α, (table.set key value).keys = insertName key table.keys
  | [] => rfl
  | (k, v) :: rest => by
    have ih := keys_set key value rest
    unfold keys at ih ⊢
    rw [set, List.map_cons, insertName]
    split
    · rfl
    · split
      · rename_i heq
        rw [heq, List.map_cons]
      · rw [List.map_cons, ih]

theorem ascending_setAll : ∀ (entries : List (String × α)) {table : Table α},
    Ascending table.keys → Ascending (table.setAll entries).keys
  | [], _, h => h
  | (k, v) :: rest, table, h => by
    have hset : Ascending (table.set k v).keys := by
      rw [keys_set]
      exact ascending_insertName k h
    exact ascending_setAll rest hset

end Table

end GraphRepo

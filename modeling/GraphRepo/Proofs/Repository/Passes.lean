import Mathlib
import GraphRepo.Proofs.Outcome
import GraphRepo.Repository.Pass

/-!
# Passes over source files

Of a file a pass takes the traits that carry the attribute, wherever they stand. Unless one of them
aborts it, the report has for each either its unit or its diagnostics, in their order.
-/

namespace GraphRepo

open Source

/-! ## The repositories of a file -/

mutual

/-- The traits of an item, those inside modules included. -/
def Source.Item.traits : Item → List Trait
  | .trait t => [t]
  | .module _ _ _ items => Item.traitsOfAll items
  | _ => []

def Source.Item.traitsOfAll : List Item → List Trait
  | [] => []
  | item :: rest => item.traits ++ Item.traitsOfAll rest

end

def Source.Trait.isMarked (t : Trait) : Bool := t.attributes.any isRepositoryAttribute

/-- Whether a trait says that its implementation comes from a file. -/
def Source.Trait.isExternal (t : Trait) : Bool :=
  (t.attributes.filter isRepositoryAttribute).any saysExternal

theorem discoverTrait_eq (t : Trait) (modulePath : Option String) :
    discoverTrait t modulePath =
      if t.isMarked then some ⟨.trait t, modulePath, t.isExternal⟩ else none := by
  have hmarks : (t.attributes.filter isRepositoryAttribute).isEmpty = !t.isMarked := by
    unfold Trait.isMarked
    rw [Bool.eq_iff_iff, List.isEmpty_iff, List.filter_eq_nil_iff]
    simp
  unfold discoverTrait
  by_cases hmarked : t.isMarked
  · simp [hmarks, hmarked, Trait.isExternal]
  · simp [hmarks, hmarked]

mutual

theorem collectItem_eq (modulePath : Option String) : ∀ item : Item,
    (collectItem modulePath item).map (fun d => (d.item, d.external)) =
      (item.traits.filter Trait.isMarked).map fun t => (.trait t, t.isExternal)
  | .trait t => by
    rw [collectItem, Item.traits, discoverTrait_eq]
    by_cases hmarked : t.isMarked <;> simp [hmarked]
  | .module header name inner items => by
    rw [collectItem, Item.traits]
    exact collectItems_eq _ items
  | .named name tokens => rfl
  | .implementation tokens => rfl
  | .other tokens => rfl

/-- **The repositories of a file are its marked traits**, in order. -/
theorem collectItems_eq (modulePath : Option String) : ∀ items : List Item,
    (collectItems modulePath items).map (fun d => (d.item, d.external)) =
      ((Item.traitsOfAll items).filter Trait.isMarked).map fun t => (.trait t, t.isExternal)
  | [] => rfl
  | item :: rest => by
    rw [collectItems, Item.traitsOfAll, List.map_append, List.filter_append, List.map_append,
      collectItem_eq modulePath item, collectItems_eq modulePath rest]

end

theorem mem_collectItems {modulePath : Option String} {items : List Item} {t : Trait}
    {external : Bool} :
    (∃ d ∈ collectItems modulePath items, d.item = .trait t ∧ d.external = external) ↔
      t ∈ Item.traitsOfAll items ∧ t.isMarked ∧ t.isExternal = external := by
  have hmem : (Item.trait t, external) ∈
      (collectItems modulePath items).map (fun d => (d.item, d.external)) ↔
        (Item.trait t, external) ∈ ((Item.traitsOfAll items).filter Trait.isMarked).map
          fun t => (.trait t, t.isExternal) := by
    rw [collectItems_eq]
  simp only [List.mem_map, List.mem_filter, Prod.mk.injEq, Item.trait.injEq] at hmem
  rw [hmem]
  constructor
  · rintro ⟨t', ⟨hin, hmarked⟩, rfl, hexternal⟩
    exact ⟨hin, hmarked, hexternal⟩
  · rintro ⟨hin, hmarked, hexternal⟩
    exact ⟨t, ⟨hin, hmarked⟩, rfl, hexternal⟩

theorem collectItems_trait {t : Trait} (hmarked : t.isMarked) (modulePath : Option String) :
    collectItems modulePath [.trait t] = [⟨.trait t, modulePath, t.isExternal⟩] := by
  rw [collectItems, collectItem, discoverTrait_eq, if_pos hmarked]
  rfl

/-! ## What a pass reports -/

namespace Generator

variable (g : Generator)

def unit? (d : Discovered) : Option GeneratedUnit :=
  match g.generate d.item d.modulePath with
  | .ok unit => some unit
  | .error _ => none

def failure? (d : Discovered) : Option Failure :=
  match g.generate d.item d.modulePath with
  | .error (.diagnostics found) => some ⟨interfaceName d.item d.modulePath, found⟩
  | _ => none

variable {g}

/-- **A pass that is not aborted reports on every repository**, in order. -/
theorem run_eq_ok {ds : List Discovered} {report : Report} :
    g.run ds = .ok report ↔
      (∀ d ∈ ds, ∀ a, g.generate d.item d.modulePath ≠ .error (.abort a)) ∧
        report = ⟨ds.filterMap g.unit?, ds.filterMap g.failure?⟩ := by
  induction ds generalizing report with
  | nil => simp [run, eq_comm]
  | cons d rest ih =>
    rw [run, List.forall_mem_cons, List.filterMap_cons, List.filterMap_cons, unit?, failure?]
    cases hd : g.generate d.item d.modulePath with
    | ok unit =>
      simp only [map_eq_ok, ih]
      constructor
      · rintro ⟨_, ⟨hrest, rfl⟩, rfl⟩
        refine ⟨⟨fun a h => ?_, hrest⟩, rfl⟩
        cases h
      · rintro ⟨⟨-, hrest⟩, rfl⟩
        exact ⟨_, ⟨hrest, rfl⟩, rfl⟩
    | error fault =>
      cases fault with
      | abort a => simp
      | diagnostics found =>
        simp only [map_eq_ok, ih]
        constructor
        · rintro ⟨_, ⟨hrest, rfl⟩, rfl⟩
          refine ⟨⟨fun a h => ?_, hrest⟩, rfl⟩
          cases h
        · rintro ⟨⟨-, hrest⟩, rfl⟩
          exact ⟨_, ⟨hrest, rfl⟩, rfl⟩

theorem run_of_units : ∀ {ds : List Discovered} {us : List GeneratedUnit},
    ds.map (fun d => g.generate d.item d.modulePath) = us.map .ok → g.run ds = .ok ⟨us, []⟩
  | [], [], _ => rfl
  | d :: ds, u :: us, h => by
    obtain ⟨hd, hds⟩ := List.cons.inj h
    dsimp only at hd
    rw [run, hd, run_of_units hds]
    rfl

end Generator

end GraphRepo

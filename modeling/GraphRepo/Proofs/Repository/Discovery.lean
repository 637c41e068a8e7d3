import Mathlib
import GraphRepo.Proofs.Repository.Passes

/-!
# Repositories by their places

The place of an item in a file is the list of numbers that leads down to it through modules. In the
order of the file one item comes before another exactly if its numbers do, so what is found in a file
can be told by its places: every marked trait is found at the one it stands at, with the names of the
modules down to it.
-/

namespace GraphRepo

open Source

/-! ## Places in a file -/

/-- The item that numbers lead to inside an item, and the names of the modules on the way. -/
def Source.Item.descend? : List Nat → Item → Option (List String × Item)
  | [], item => some ([], item)
  | i :: place, .module _ name _ items =>
    (items[i]?.bind (Item.descend? place)).map fun found => (name :: found.1, found.2)
  | _ :: _, _ => none

/-- The item at a place among items, and the names of the modules down to it. -/
def itemAt? (items : List Item) : List Nat → Option (List String × Item)
  | [] => none
  | i :: place => items[i]?.bind (Item.descend? place)

/-- The path of the module that is reached from another through modules of some names. -/
def pathThrough (modulePath : Option String) (names : List String) : Option String :=
  if modulePath.toList ++ names = [] then none
  else some ("::".intercalate (modulePath.toList ++ names))

section Places

variable {header inner : Tokens} {name : String} {items : List Item}

theorem descend_module (place : List Nat) (hplace : place ≠ []) :
    Item.descend? place (.module header name inner items) =
      (itemAt? items place).map fun found => (name :: found.1, found.2) := by
  obtain ⟨i, rest, rfl⟩ := List.exists_cons_of_ne_nil hplace
  rw [Item.descend?, itemAt?]

theorem itemAt_cons_zero (item : Item) (place : List Nat) :
    itemAt? (item :: items) (0 :: place) = Item.descend? place item := rfl

theorem itemAt_cons_succ (item : Item) (i : Nat) (place : List Nat) :
    itemAt? (item :: items) ((i + 1) :: place) = itemAt? items (i :: place) := rfl

theorem pathThrough_nil (modulePath : Option String) : pathThrough modulePath [] = modulePath := by
  cases modulePath with
  | none => rfl
  | some module => simp [pathThrough, String.intercalate_singleton]

theorem pathThrough_cons (modulePath : Option String) (name : String) (names : List String) :
    pathThrough modulePath (name :: names) =
      pathThrough (some (collectItem.nested modulePath name)) names := by
  cases modulePath with
  | none => rfl
  | some module =>
    have hmerge : "::".intercalate (module :: name :: names) =
        "::".intercalate ((module ++ "::" ++ name) :: names) := by
      rw [String.intercalate_cons_cons, String.intercalate_cons_append]
    simp [pathThrough, collectItem.nested, hmerge]

end Places

/-! ## Listings -/

/-- A marked trait at a place, as it is found below a module. -/
def FoundAt (modulePath : Option String) (found : Option (List String × Item)) (d : Discovered) :
    Prop :=
  ∃ names t, found = some (names, .trait t) ∧ t.isMarked ∧
    d = ⟨.trait t, pathThrough modulePath names, t.isExternal⟩

/-- What is found by its places: in their order, and at each place exactly the marked trait that
stands there. -/
structure IsListing (modulePath : Option String) (reach : List Nat → Option (List String × Item))
    (listing : List (List Nat × Discovered)) : Prop where
  ascending : listing.Pairwise fun p q => p.1 < q.1
  mem_iff : ∀ place d, (place, d) ∈ listing ↔ FoundAt modulePath (reach place) d

section Listings

variable {modulePath : Option String} {listing more : List (List Nat × Discovered)} {item : Item}
  {items : List Item}

theorem not_foundAt_none (d : Discovered) : ¬FoundAt modulePath none d := by
  rintro ⟨names, t, h, -⟩
  cases h

theorem IsListing.nil {reach : List Nat → Option (List String × Item)}
    (h : ∀ place names t, reach place ≠ some (names, .trait t)) :
    IsListing modulePath reach [] := by
  refine ⟨List.Pairwise.nil, fun place d => iff_of_false List.not_mem_nil ?_⟩
  rintro ⟨names, t, hfound, -⟩
  exact h place names t hfound

theorem descend_cons_eq_none (h : ∀ header name inner items, item ≠ .module header name inner items)
    (i : Nat) (place : List Nat) : Item.descend? (i :: place) item = none := by
  cases item with
  | module header name inner items => exact absurd rfl (h header name inner items)
  | _ => rfl

theorem IsListing.other
    (hmodule : ∀ header name inner items, item ≠ .module header name inner items)
    (htrait : ∀ t, item ≠ .trait t) :
    IsListing modulePath (fun place => Item.descend? place item) [] := by
  refine IsListing.nil fun place names t h => ?_
  cases place with
  | nil =>
    cases h
    exact htrait t rfl
  | cons i place =>
    rw [descend_cons_eq_none hmodule] at h
    cases h

theorem IsListing.trait (modulePath : Option String) (t : Trait) :
    IsListing modulePath (fun place => Item.descend? place (.trait t))
      ((discoverTrait t modulePath).toList.map fun d => ([], d)) := by
  have hself : ∀ place d, FoundAt modulePath (Item.descend? place (.trait t)) d ↔
      place = [] ∧ t.isMarked ∧ d = ⟨.trait t, modulePath, t.isExternal⟩ := by
    intro place d
    cases place with
    | nil =>
      constructor
      · rintro ⟨names, t', hfound, hmarked, rfl⟩
        cases hfound
        rw [pathThrough_nil]
        exact ⟨rfl, hmarked, rfl⟩
      · rintro ⟨-, hmarked, rfl⟩
        exact ⟨[], t, rfl, hmarked, by rw [pathThrough_nil]⟩
    | cons i place =>
      have hnone : Item.descend? (i :: place) (.trait t) = none := rfl
      rw [hnone]
      exact iff_of_false (not_foundAt_none d) fun h => List.cons_ne_nil _ _ h.1
  rw [discoverTrait_eq]
  by_cases hmarked : t.isMarked
  · rw [if_pos hmarked]
    refine ⟨List.pairwise_singleton _ _, fun place d => ?_⟩
    rw [hself, and_iff_right hmarked]
    simp
  · rw [if_neg hmarked]
    refine ⟨List.Pairwise.nil, fun place d => ?_⟩
    rw [hself]
    simp [hmarked]

theorem IsListing.module {header inner : Tokens} {name : String}
    (h : IsListing (some (collectItem.nested modulePath name)) (itemAt? items) listing) :
    IsListing modulePath (fun place => Item.descend? place (.module header name inner items))
      listing := by
  refine ⟨h.ascending, fun place d => (h.mem_iff place d).trans ?_⟩
  cases place with
  | nil =>
    refine iff_of_false (not_foundAt_none d) ?_
    rintro ⟨names, t, hfound, -⟩
    cases hfound
  | cons i place =>
    rw [descend_module _ (List.cons_ne_nil i place)]
    constructor
    · rintro ⟨names, t, hfound, hmarked, rfl⟩
      refine ⟨name :: names, t, ?_, hmarked, ?_⟩
      · rw [hfound, Option.map_some]
      · rw [pathThrough_cons]
    · rintro ⟨names, t, hfound, hmarked, rfl⟩
      obtain ⟨⟨below, item⟩, hbelow, heq⟩ := Option.map_eq_some_iff.1 hfound
      cases heq
      refine ⟨below, t, hbelow, hmarked, ?_⟩
      rw [pathThrough_cons]

def shifted (place : List Nat) : List Nat := place.modifyHead (· + 1)

theorem shifted_lt_iff (place place' : List Nat) (h : place ≠ []) (h' : place' ≠ []) :
    shifted place < shifted place' ↔ place < place' := by
  obtain ⟨i, rest, rfl⟩ := List.exists_cons_of_ne_nil h
  obtain ⟨j, rest', rfl⟩ := List.exists_cons_of_ne_nil h'
  simp [shifted, List.cons_lt_cons_iff]

theorem mem_first {place : List Nat} {d : Discovered} :
    (place, d) ∈ listing.map (fun p => (0 :: p.1, p.2)) ↔
      ∃ rest, place = 0 :: rest ∧ (rest, d) ∈ listing := by
  simp only [List.mem_map, Prod.exists, Prod.mk.injEq]
  constructor
  · rintro ⟨rest, _, hmem, rfl, rfl⟩
    exact ⟨rest, rfl, hmem⟩
  · rintro ⟨rest, rfl, hmem⟩
    exact ⟨rest, d, hmem, rfl, rfl⟩

theorem mem_behind {place : List Nat} {d : Discovered} (hne : ∀ p ∈ more, p.1 ≠ []) :
    (place, d) ∈ more.map (fun p => (shifted p.1, p.2)) ↔
      ∃ i rest, place = (i + 1) :: rest ∧ (i :: rest, d) ∈ more := by
  simp only [List.mem_map, Prod.exists, Prod.mk.injEq]
  constructor
  · rintro ⟨before, _, hmem, rfl, rfl⟩
    have hbefore : before ≠ [] := hne _ hmem
    obtain ⟨i, rest, rfl⟩ := List.exists_cons_of_ne_nil hbefore
    exact ⟨i, rest, rfl, hmem⟩
  · rintro ⟨i, rest, rfl, hmem⟩
    exact ⟨i :: rest, d, hmem, rfl, rfl⟩

/-- What a list of items has: what its first item has, and behind it what the others have. -/
theorem IsListing.cons (h : IsListing modulePath (fun place => Item.descend? place item) listing)
    (hmore : IsListing modulePath (itemAt? items) more) :
    IsListing modulePath (itemAt? (item :: items))
      (listing.map (fun p => (0 :: p.1, p.2)) ++ more.map (fun p => (shifted p.1, p.2))) := by
  -- Nothing is found at the empty place.
  have hne : ∀ p ∈ more, p.1 ≠ [] := by
    rintro ⟨place, d⟩ hp rfl
    exact not_foundAt_none d ((hmore.mem_iff [] d).1 hp)
  constructor
  · refine List.pairwise_append.2 ⟨?_, ?_, ?_⟩
    · rw [List.pairwise_map]
      refine h.ascending.imp fun hlt => ?_
      exact List.cons_lt_cons_iff.2 (.inr ⟨rfl, hlt⟩)
    · rw [List.pairwise_map]
      refine hmore.ascending.imp_of_mem fun hp hq hlt => ?_
      exact (shifted_lt_iff _ _ (hne _ hp) (hne _ hq)).2 hlt
    · intro p hp q hq
      obtain ⟨p, -, rfl⟩ := List.mem_map.1 hp
      obtain ⟨q, hmem, rfl⟩ := List.mem_map.1 hq
      obtain ⟨i, rest, hplace⟩ := List.exists_cons_of_ne_nil (hne q hmem)
      have hshift : shifted q.1 = (i + 1) :: rest := by rw [hplace, shifted, List.modifyHead_cons]
      rw [hshift]
      exact List.cons_lt_cons_iff.2 (.inl (Nat.succ_pos i))
  · intro place d
    rw [List.mem_append]
    rw [mem_first, mem_behind hne]
    -- A place starts with `0` in the first item and with a successor behind it.
    rcases place with _ | ⟨_ | i, rest⟩
    · refine iff_of_false ?_ (not_foundAt_none d)
      simp
    · rw [itemAt_cons_zero, ← h.mem_iff]
      simp
    · rw [itemAt_cons_succ, ← hmore.mem_iff]
      simp

end Listings

/-! ## What is collected -/

mutual

theorem exists_listing_item (modulePath : Option String) : ∀ item : Item,
    ∃ listing, IsListing modulePath (fun place => Item.descend? place item) listing ∧
      collectItem modulePath item = listing.map Prod.snd
  | .trait t => by
    refine ⟨_, IsListing.trait modulePath t, ?_⟩
    rw [collectItem, List.map_map]
    exact (List.map_id _).symm
  | .module header name inner items => by
    obtain ⟨listing, hlisting, hcollect⟩ :=
      exists_listing (some (collectItem.nested modulePath name)) items
    exact ⟨listing, hlisting.module, hcollect⟩
  | .named _ _ => ⟨[], IsListing.other nofun nofun, rfl⟩
  | .implementation _ => ⟨[], IsListing.other nofun nofun, rfl⟩
  | .other _ => ⟨[], IsListing.other nofun nofun, rfl⟩

/-- **What is collected from items is what stands at their places**, in the order of the places. -/
theorem exists_listing (modulePath : Option String) : ∀ items : List Item,
    ∃ listing, IsListing modulePath (itemAt? items) listing ∧
      collectItems modulePath items = listing.map Prod.snd
  | [] => by
    refine ⟨[], IsListing.nil fun place names t h => ?_, rfl⟩
    cases place <;> cases h
  | item :: rest => by
    obtain ⟨listing, hlisting, hcollect⟩ := exists_listing_item modulePath item
    obtain ⟨more, hmore, hcollect'⟩ := exists_listing modulePath rest
    refine ⟨_, hlisting.cons hmore, ?_⟩
    rw [collectItems, hcollect, hcollect', List.map_append, List.map_map, List.map_map]
    rfl

end

theorem collectItems_append (modulePath : Option String) (more : List Item) :
    ∀ items : List Item, collectItems modulePath (items ++ more) =
      collectItems modulePath items ++ collectItems modulePath more
  | [] => rfl
  | item :: rest => by
    rw [List.cons_append, collectItems, collectItems, collectItems_append modulePath more rest,
      List.append_assoc]

/-- **What is found in a file is its marked traits**: each once, in the order of the file, with its
item, the module it stands in and whether its implementation comes from a file. What is found in two
lists of items one after the other is what is found in each, and in a module it is what is found in
its items below the path of the module. -/
theorem collectItems_marked (modulePath : Option String) :
    (∀ items, ∃ listing : List (List Nat × Discovered),
      collectItems modulePath items = listing.map Prod.snd ∧
      listing.Pairwise (fun p q => p.1 < q.1) ∧
      ∀ place d, (place, d) ∈ listing ↔ ∃ names t,
        itemAt? items place = some (names, .trait t) ∧ t.isMarked ∧
          d = ⟨.trait t, pathThrough modulePath names, t.isExternal⟩) ∧
    (∀ items more, collectItems modulePath (items ++ more) =
      collectItems modulePath items ++ collectItems modulePath more) ∧
    ∀ header name inner items, collectItems modulePath [.module header name inner items] =
      collectItems (some (qualified modulePath name)) items := by
  refine ⟨fun items => ?_, fun items more => collectItems_append modulePath more items,
    fun header name inner items => ?_⟩
  · obtain ⟨listing, hlisting, hcollect⟩ := exists_listing modulePath items
    exact ⟨listing, hcollect, hlisting.ascending, hlisting.mem_iff⟩
  · rw [collectItems, collectItems, List.append_nil, collectItem]
    rfl

end GraphRepo

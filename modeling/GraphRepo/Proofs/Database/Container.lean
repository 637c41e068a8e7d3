import GraphRepo.Database.Invocation

/-!
# What containers keep

A sequence keeps elements as they come. A set keeps one of each class of equal elements, and an
ascending one keeps them in order. The order of elements is any that is transitive.
-/

namespace GraphRepo

open Std

variable {β : Type} {order : β → β → Ordering}

/-! ## Keeping the first -/

theorem mem_of_mem_keepFirst {b : β} :
    ∀ {bs : List β}, b ∈ keepFirst order bs → b ∈ bs
  | [], h => h
  | c :: rest, h => by
    rw [keepFirst] at h
    obtain rfl | hmem := List.mem_cons.1 h
    · exact List.mem_cons_self
    · exact List.mem_cons_of_mem c (mem_of_mem_keepFirst (List.mem_filter.1 hmem).1)

theorem pairwise_keepFirst : ∀ bs : List β, (keepFirst order bs).Pairwise (order · · ≠ .eq)
  | [] => List.Pairwise.nil
  | b :: rest => by
    rw [keepFirst, List.pairwise_cons]
    refine ⟨fun c hc => ?_, (pairwise_keepFirst rest).filter _⟩
    exact of_decide_eq_true (List.mem_filter.1 hc).2

theorem exists_mem_keepFirst [TransCmp order] {b : β} :
    ∀ {bs : List β}, b ∈ bs → ∃ k ∈ keepFirst order bs, order k b = .eq
  | c :: rest, h => by
    rw [keepFirst]
    obtain rfl | hmem := List.mem_cons.1 h
    · exact ⟨b, List.mem_cons_self, ReflCmp.compare_self⟩
    · obtain ⟨k, hk, heq⟩ := exists_mem_keepFirst hmem
      by_cases hck : order c k = .eq
      · exact ⟨c, List.mem_cons_self, TransCmp.eq_trans hck heq⟩
      · exact ⟨k, List.mem_cons_of_mem c (List.mem_filter.2 ⟨hk, decide_eq_true hck⟩), heq⟩

/-! ## Ascending order -/

theorem mem_of_mem_insertAscending {b c : β} :
    ∀ {bs : List β}, c ∈ insertAscending order b bs → c = b ∨ c ∈ bs
  | [], h => .inl (List.mem_singleton.1 h)
  | d :: rest, h => by
    rw [insertAscending] at h
    split at h
    · exact List.mem_cons.1 h
    · exact .inr h
    · obtain rfl | hmem := List.mem_cons.1 h
      · exact .inr List.mem_cons_self
      · obtain hb | hrest := mem_of_mem_insertAscending hmem
        · exact .inl hb
        · exact .inr (List.mem_cons_of_mem d hrest)

theorem mem_insertAscending {b c : β} :
    ∀ {bs : List β}, c ∈ bs → c ∈ insertAscending order b bs
  | d :: rest, h => by
    rw [insertAscending]
    split
    · exact List.mem_cons_of_mem b h
    · exact h
    · obtain rfl | hmem := List.mem_cons.1 h
      · exact List.mem_cons_self
      · exact List.mem_cons_of_mem d (mem_insertAscending hmem)

theorem exists_mem_insertAscending [TransCmp order] (b : β) :
    ∀ bs : List β, ∃ k ∈ insertAscending order b bs, order k b = .eq
  | [] => ⟨b, List.mem_singleton.2 rfl, ReflCmp.compare_self⟩
  | d :: rest => by
    rw [insertAscending]
    split
    · exact ⟨b, List.mem_cons_self, ReflCmp.compare_self⟩
    · rename_i heq
      exact ⟨d, List.mem_cons_self, OrientedCmp.eq_symm heq⟩
    · obtain ⟨k, hk, heq⟩ := exists_mem_insertAscending b rest
      exact ⟨k, List.mem_cons_of_mem d hk, heq⟩

theorem pairwise_insertAscending [TransCmp order] (b : β) :
    ∀ {bs : List β}, bs.Pairwise (order · · = .lt) →
      (insertAscending order b bs).Pairwise (order · · = .lt)
  | [], _ => List.pairwise_singleton _ _
  | d :: rest, h => by
    obtain ⟨hd, hrest⟩ := List.pairwise_cons.1 h
    rw [insertAscending]
    split
    · rename_i hlt
      refine List.pairwise_cons.2 ⟨fun c hc => ?_, h⟩
      obtain rfl | hmem := List.mem_cons.1 hc
      · exact hlt
      · exact TransCmp.lt_trans hlt (hd c hmem)
    · exact h
    · rename_i hgt
      refine List.pairwise_cons.2 ⟨fun c hc => ?_, pairwise_insertAscending b hrest⟩
      obtain rfl | hmem := mem_of_mem_insertAscending hc
      · exact OrientedCmp.lt_of_gt hgt
      · exact hd c hmem

theorem pairwise_foldr_insertAscending [TransCmp order] :
    ∀ bs : List β, (bs.foldr (insertAscending order) []).Pairwise (order · · = .lt)
  | [] => List.Pairwise.nil
  | b :: rest => pairwise_insertAscending b (pairwise_foldr_insertAscending rest)

/-! ## Containers -/

theorem Container.mem_of_mem_arrange {container : Container} {b : β} {bs : List β}
    (h : b ∈ container.arrange order bs) : b ∈ bs := by
  cases container with
  | sequence => exact h
  | distinct => exact mem_of_mem_keepFirst h
  | ascending =>
    rw [arrange] at h
    induction bs with
    | nil => exact h
    | cons c rest ih =>
      obtain rfl | hmem := mem_of_mem_insertAscending h
      · exact List.mem_cons_self
      · exact List.mem_cons_of_mem c (ih hmem)

/-- **A container loses no element**: it keeps an equal one of each. -/
theorem Container.exists_mem_arrange [TransCmp order] (container : Container) {b : β} {bs : List β}
    (h : b ∈ bs) : ∃ k ∈ container.arrange order bs, order k b = .eq := by
  cases container with
  | sequence => exact ⟨b, h, ReflCmp.compare_self⟩
  | distinct => exact exists_mem_keepFirst h
  | ascending =>
    rw [arrange]
    induction bs with
    | nil => cases h
    | cons c rest ih =>
      obtain rfl | hmem := List.mem_cons.1 h
      · exact exists_mem_insertAscending b _
      · obtain ⟨k, hk, heq⟩ := ih hmem
        exact ⟨k, mem_insertAscending hk, heq⟩

/-- What a container holds once rows were collected into it: nothing but rows, for every row one
that equals it, and these as they came or without two that are equal or in ascending order. -/
structure Container.Holds (container : Container) (order : β → β → Ordering)
    (rows held : List β) : Prop where
  is_row : ∀ b ∈ held, b ∈ rows
  kept : ∀ b ∈ rows, ∃ k ∈ held, order k b = .eq
  arranged : match container with
    | .sequence => held = rows
    | .distinct => held.Pairwise (order · · ≠ .eq)
    | .ascending => held.Pairwise (order · · = .lt)

theorem Container.holds_arrange [TransCmp order] (container : Container) (rows : List β) :
    container.Holds order rows (container.arrange order rows) := by
  refine ⟨fun b => mem_of_mem_arrange, fun b => container.exists_mem_arrange, ?_⟩
  cases container with
  | sequence => rfl
  | distinct => exact pairwise_keepFirst rows
  | ascending => exact pairwise_foldr_insertAscending rows

end GraphRepo

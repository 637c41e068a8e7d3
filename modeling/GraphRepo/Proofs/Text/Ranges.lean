import Mathlib
import GraphRepo.Text.IdentifierChar
import GraphRepo.Text.Numeric

/-!
# Classes of characters in others

The ranges of two classes ascend, so one walk along both lists decides whether all characters of one
are in the other. The start of an identifier, where it is a letter or a digit at all, is a letter.
-/

namespace GraphRepo.Text

/-- The ranges from the first on that does not end before `a`. -/
def rangesFrom (a : Nat) : List Nat → List Nat
  | lo :: hi :: rest => if lo ≤ hi ∧ hi < a then rangesFrom a rest else lo :: hi :: rest
  | _ => []

/-- Whether the first range reaches from `a` to `b` or further. -/
def reachesOver (a b : Nat) : List Nat → Bool
  | lo :: hi :: _ => lo ≤ a && b ≤ hi
  | _ => false

/-- Whether each of some ranges is in one of others, but for the exceptions. One walk along both
lists decides it. -/
def within (exceptions : List Nat) : List Nat → List Nat → Bool
  | lo :: hi :: rest, others =>
    let behind := rangesFrom lo others
    (reachesOver lo hi behind || (List.range' lo (hi + 1 - lo)).all fun n =>
      exceptions.contains n || inRanges behind n) && within exceptions rest behind
  | _, _ => true

theorem inRanges_rangesFrom {a n : Nat} (ha : a ≤ n) : ∀ {ranges : List Nat},
    inRanges (rangesFrom a ranges) n → inRanges ranges n
  | [], h => h
  | [_], h => by cases h
  | lo :: hi :: rest, h => by
    rw [rangesFrom] at h
    split_ifs at h with hbefore
    · rw [inRanges, if_neg (by omega), if_neg (by omega)]
      exact inRanges_rangesFrom ha h
    · exact h

theorem inRanges_of_reachesOver {a b n : Nat} (ha : a ≤ n) (hb : n ≤ b) : ∀ {ranges : List Nat},
    reachesOver a b ranges → inRanges ranges n
  | [], h => by cases h
  | [_], h => by cases h
  | lo :: hi :: rest, h => by
    rw [reachesOver, Bool.and_eq_true, decide_eq_true_iff, decide_eq_true_iff] at h
    rw [inRanges, if_neg (by omega), if_pos (by omega)]

theorem inRanges_of_within {exceptions : List Nat} {n : Nat} : ∀ {ranges others : List Nat},
    within exceptions ranges others → inRanges ranges n → n ∈ exceptions ∨ inRanges others n
  | [], _, _, hn => by cases hn
  | [_], _, _, hn => by cases hn
  | lo :: hi :: rest, others, h, hn => by
    simp only [within, Bool.and_eq_true, Bool.or_eq_true, List.all_eq_true] at h
    obtain ⟨hrange, hrest⟩ := h
    rw [inRanges] at hn
    split_ifs at hn with hlo hhi
    · have hfrom := Nat.le_of_not_lt hlo
      obtain hreaches | hall := hrange
      · exact .inr (inRanges_rangesFrom hfrom (inRanges_of_reachesOver hfrom hhi hreaches))
      · have hn := hall n (List.mem_range'_1.2 (by omega))
        rw [List.contains_iff_mem] at hn
        exact hn.imp_right (inRanges_rangesFrom hfrom)
    · exact (inRanges_of_within hrest hn).imp_right (inRanges_rangesFrom (Nat.le_of_not_lt hlo))

/-- **What identifiers start with is alphabetic** or an underscore, if it is alphanumeric at all.
Two signs that they may start with, `℘` and `℮`, are not. -/
theorem isAlphabetic_of_isIdentStart {c : Char} (h : isIdentStart c) :
    isAlphabetic c ∨ c = '_' ↔ isAlphanumeric c ∨ c = '_' := by
  have hwithin : within [8472, 8494] identStartRanges alphabeticRanges := by decide +kernel
  have hsigns : ∀ n ∈ [8472, 8494], inRanges numericRanges n = false := by decide +kernel
  rw [isIdentStart, Bool.or_eq_true, beq_iff_eq] at h
  refine or_congr_left' fun hc => ?_
  have hnumeric : isAlphabetic c ∨ isNumeric c = false :=
    (inRanges_of_within hwithin (h.resolve_left hc)).symm.imp_right (hsigns _)
  rw [isAlphanumeric, Bool.or_eq_true]
  refine (or_iff_left_of_imp fun hc => ?_).symm
  exact hnumeric.resolve_right (by simp [hc])

end GraphRepo.Text

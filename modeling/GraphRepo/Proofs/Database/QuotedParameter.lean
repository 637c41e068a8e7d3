import Mathlib
import GraphRepo.Proofs.Database.NodeText

/-!
# Quoted names as parameters

A name that statements write between backticks, with every backtick in it doubled, may also stand
behind `$`. The scanner does not know of doubling there either: it takes the name up to the first
backtick in it, and the rest of the name for escaped names. So the name comes back whole exactly if
there is no backtick in it.
-/

namespace GraphRepo

open Cypher

/-- The start of a name up to the first backtick in it, unless that is empty. -/
def plainStart (name : String) : Option String :=
  match name.toList.takeWhile (· ≠ backtick) with
  | [] => none
  | c :: start => some (String.ofList (c :: start))

theorem plainStart_eq_none {name : String} (h : name.toList.takeWhile (· ≠ backtick) = []) :
    plainStart name = none := by
  rw [plainStart, h]

theorem plainStart_eq_some {name : String} (h : name.toList.takeWhile (· ≠ backtick) ≠ []) :
    plainStart name = some (String.ofList (name.toList.takeWhile (· ≠ backtick))) := by
  obtain ⟨c, start, hstart⟩ := List.exists_cons_of_ne_nil h
  rw [plainStart, hstart]

theorem plainStart_eq_self {name : String} :
    plainStart name = some name ↔ name ≠ "" ∧ backtick ∉ name.toList := by
  have hwhole : name.toList.takeWhile (· ≠ backtick) = name.toList ↔ backtick ∉ name.toList := by
    rw [List.takeWhile_eq_self_iff]
    constructor
    · exact fun h hmem => absurd (h backtick hmem) (by simp)
    · exact fun h c hc => decide_eq_true fun heq => h (heq ▸ hc)
  by_cases hstart : name.toList.takeWhile (· ≠ backtick) = []
  · have hno : ¬ (name ≠ "" ∧ backtick ∉ name.toList) := by
      rintro ⟨hne, hnone⟩
      exact hne (String.toList_eq_nil_iff.1 ((hwhole.2 hnone).symm.trans hstart))
    simp [plainStart_eq_none hstart, hno]
  · have hne : name ≠ "" := by
      rintro rfl
      exact hstart rfl
    rw [plainStart_eq_some hstart, Option.some.injEq, ← String.toList_inj, String.toList_ofList,
      hwhole, and_iff_right hne]

/-! ## The scanner behind `$` -/

/-- Behind the first backtick of a name that is written with doubled backticks, what is left is a
quoted name again. -/
theorem exists_doubled_eq (rest : List Char) : ∀ name : List Char, ∃ after,
    doubled name ++ backtick :: rest = name.takeWhile (· ≠ backtick) ++ backtick :: after ∧
      boundNames after = boundNames rest
  | [] => ⟨rest, rfl, rfl⟩
  | c :: name => by
    by_cases hc : c = backtick
    · subst hc
      refine ⟨(escapeName (String.ofList name)).toList ++ rest, ?_, boundNames_escapeName _ rest⟩
      rw [toList_escapeName, String.toList_ofList, doubled_backtick]
      simp
    · obtain ⟨after, heq, hnames⟩ := exists_doubled_eq rest name
      refine ⟨after, ?_, hnames⟩
      rw [doubled_cons hc, List.cons_append, heq]
      simp [hc]

/-- **Behind `$` a quoted name is read up to its first backtick**, and scanning goes on behind the
whole of it. -/
theorem boundNames_quotedParameter (name : String) (rest : List Char) :
    boundNames ('$' :: ((escapeName name).toList ++ rest)) =
      (plainStart name).toList ++ boundNames rest := by
  obtain ⟨after, hdoubled, hafter⟩ := exists_doubled_eq rest name.toList
  have htext : (escapeName name).toList ++ rest =
      backtick :: (name.toList.takeWhile (· ≠ backtick) ++ backtick :: after) := by
    rw [toList_escapeName, List.cons_append, List.append_assoc, List.singleton_append, hdoubled]
  by_cases hstart : name.toList.takeWhile (· ≠ backtick) = []
  · -- No name is left between the first two backticks, so the sign is a token by itself.
    have hfirst : FirstToken '$' ((escapeName name).toList ++ rest) (.other '$')
        ((escapeName name).toList ++ rest) := by
      refine .dollar rfl (by rw [htext]; rfl) fun body more hbody hfree => ?_
      rw [htext, hstart] at hbody
      cases body with
      | nil => rfl
      | cons b body =>
        have hb : backtick = b := (List.cons.inj (List.cons.inj hbody).2).1
        exact absurd (hb ▸ List.mem_cons_self) hfree
    rw [plainStart_eq_none hstart, boundNames, scan_of_firstToken hfirst]
    exact boundNames_escapeName name rest
  · have hfree : backtick ∉ name.toList.takeWhile (· ≠ backtick) := fun hmem => by
      simpa using List.mem_takeWhile_imp hmem
    have hfirst : FirstToken '$' ((escapeName name).toList ++ rest)
        (.escapedParameter (name.toList.takeWhile (· ≠ backtick))) after :=
      .escapedParameter rfl htext hstart hfree
    rw [plainStart_eq_some hstart, boundNames, scan_of_firstToken hfirst, ← hafter]
    rfl

/-- **When a quoted name is the parameter that is read.** In a closed query context `$` and a quoted
name add the start of the name up to its first backtick, if there is one, and nothing else. That is
the name exactly if it is not empty and has no backtick. -/
theorem parameters_quotedParameter (name : String) :
    (∀ before after : String, isClosed before.toList →
      parameters (before ++ "$" ++ escapeName name ++ after) =
        unionNames (unionNames (parameters before) (plainStart name).toList) (parameters after)) ∧
    parameters ("$" ++ escapeName name) = (plainStart name).toList ∧
    (parameters ("$" ++ escapeName name) = [name] ↔ name ≠ "" ∧ backtick ∉ name.toList) := by
  have hset : nameSet (plainStart name).toList = (plainStart name).toList := by
    cases plainStart name <;> rfl
  have halone : parameters ("$" ++ escapeName name) = (plainStart name).toList := by
    have htext : ("$" ++ escapeName name).toList = '$' :: ((escapeName name).toList ++ []) := by
      rw [String.toList_append, List.append_nil]
      rfl
    rw [parameters, htext, boundNames_quotedParameter, boundNames, scan, List.filterMap_nil,
      List.append_nil, hset]
  refine ⟨fun before after hbefore => ?_, halone, ?_⟩
  · have htext : (before ++ "$" ++ escapeName name ++ after).toList =
        before.toList ++ '$' :: ((escapeName name).toList ++ after.toList) := by
      simp [String.toList_append]
    unfold parameters
    rw [htext, boundNames_append hbefore, boundNames_quotedParameter, ← List.append_assoc,
      nameSet_append, nameSet_append, hset]
  · rw [halone, ← plainStart_eq_self]
    cases plainStart name with
    | none => simp
    | some start => simp

/-- A name with quotes, a `$` and blanks behind other parameters. -/
theorem parameters_quotedParameter_odd :
    isClosed "MATCH (n:\x60A\x60) WHERE n.x = ".toList ∧
      parameters ("MATCH (n:\x60A\x60) WHERE n.x = " ++ "$" ++ escapeName "it's $odd // \x22"
        ++ " + $w") = ["it's $odd // \x22", "w"] := by
  have hbefore : isClosed "MATCH (n:\x60A\x60) WHERE n.x = ".toList := by decide_cbv
  refine ⟨hbefore, ((parameters_quotedParameter _).1 _ " + $w" hbefore).trans ?_⟩
  cbv

/-- The name `a`, a backtick and `b`: quoted it reads back whole, and behind `$` the scanner reads
`a`. Of a name that starts with a backtick it reads nothing. -/
theorem parameters_backtick_ne :
    quotedName? (escapeName "a\x60b").toList = some ("a\x60b".toList, []) ∧
      parameters ("$" ++ escapeName "a\x60b") = ["a"] ∧
      parameters ("$" ++ escapeName "a\x60b") ≠ ["a\x60b"] ∧
      parameters ("$" ++ escapeName "\x60b") = [] := by
  have hstart : parameters ("$" ++ escapeName "a\x60b") = ["a"] := by decide_cbv
  refine ⟨by decide_cbv, hstart, ?_, by decide_cbv⟩
  rw [hstart]
  decide

end GraphRepo

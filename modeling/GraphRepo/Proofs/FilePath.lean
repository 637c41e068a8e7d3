import Mathlib.Data.List.Basic
import GraphRepo.FilePath

/-!
# Paths taken apart

A text cut at slashes into pieces, and the pieces that count as components. What stands behind a
slash adds its own components to those of the text before it, and what lies below a directory is what
is left when the components of the directory are taken away.
-/

namespace GraphRepo.FilePath

/-! ## Pieces -/

theorem pieces_ne_nil (cs : List Char) : pieces cs ≠ [] := by
  cases cs with
  | nil => exact List.cons_ne_nil _ _
  | cons c rest =>
    rw [pieces]
    split
    · exact List.cons_ne_nil _ _
    · split <;> exact List.cons_ne_nil _ _

theorem pieces_append (after : List Char) : ∀ before : List Char,
    pieces (before ++ '/' :: after) = pieces before ++ pieces after
  | [] => rfl
  | c :: before => by
    rw [List.cons_append, pieces, pieces, pieces_append after before]
    split
    · rfl
    · cases hpieces : pieces before with
      | nil => exact absurd hpieces (pieces_ne_nil before)
      | cons p ps => rfl

theorem pieces_of_not_mem : ∀ {cs : List Char}, '/' ∉ cs → pieces cs = [cs]
  | [], _ => rfl
  | c :: rest, h => by
    obtain ⟨hc, hrest⟩ := not_or.1 (List.mem_cons.not.1 h)
    rw [pieces, if_neg fun heq => hc heq.symm, pieces_of_not_mem hrest]

/-! ## Components -/

theorem components_ofList_root (rest : List Char) :
    components (String.ofList ('/' :: rest)) = .root :: (pieces rest).filterMap component? := by
  rw [components, String.toList_ofList]
  rfl

theorem components_ofList_current {cs : List Char} {rest : List (List Char)}
    (hcs : pieces cs = ['.'] :: rest) :
    components (String.ofList cs) = .current :: rest.filterMap component? := by
  rw [components, String.toList_ofList]
  split
  · cases hcs
  · cases hcs
  · rw [hcs]
    rfl

theorem components_ofList_relative {cs : List Char} (hroot : cs.head? ≠ some '/')
    (hcurrent : (pieces cs).head? ≠ some ['.']) :
    components (String.ofList cs) = (pieces cs).filterMap component? := by
  rw [components, String.toList_ofList]
  split
  · rfl
  · exact absurd rfl hroot
  · split
    · rename_i hpieces
      rw [hpieces] at hcurrent
      exact absurd rfl hcurrent
    · rfl

/-- **What stands behind a slash adds its own components.** -/
theorem components_append {before : List Char} (hbefore : before ≠ []) (after : List Char) :
    components (String.ofList (before ++ '/' :: after)) =
      components (String.ofList before) ++ (pieces after).filterMap component? := by
  obtain ⟨c, rest, rfl⟩ := List.exists_cons_of_ne_nil hbefore
  have hpieces := pieces_append after (c :: rest)
  by_cases hroot : c = '/'
  · subst hroot
    rw [List.cons_append, components_ofList_root, components_ofList_root, pieces_append,
      List.filterMap_append, List.cons_append]
  · obtain ⟨p, ps, hps⟩ := List.exists_cons_of_ne_nil (pieces_ne_nil (c :: rest))
    have hhead : (c :: rest).head? ≠ some '/' := fun h => hroot (Option.some.inj h)
    rw [hps, List.cons_append] at hpieces
    rw [List.cons_append] at hpieces ⊢
    by_cases hcurrent : p = ['.']
    · subst hcurrent
      rw [components_ofList_current hpieces, components_ofList_current hps,
        List.filterMap_append, List.cons_append]
    · have hfirst (qs : List (List Char)) : (p :: qs).head? ≠ some ['.'] :=
        fun h => hcurrent (Option.some.inj h)
      rw [components_ofList_relative hhead (hps ▸ hfirst _), hps, ← List.filterMap_append,
        List.cons_append, ← hpieces]
      exact components_ofList_relative hhead (hpieces ▸ hfirst _)

/-- A component is the start of the path or one of its pieces. -/
theorem mem_components {path : String} {c : Component} (h : c ∈ components path) :
    c = .root ∨ c = .current ∨ ∃ piece, component? piece = some c := by
  have hpiece {ps : List (List Char)} (hmem : c ∈ ps.filterMap component?) :
      ∃ piece, component? piece = some c := by
    obtain ⟨piece, -, hpiece⟩ := List.mem_filterMap.1 hmem
    exact ⟨piece, hpiece⟩
  unfold components at h
  split at h
  · cases h
  · exact (List.mem_cons.1 h).imp_right fun hmem => .inr (hpiece hmem)
  · split at h
    · exact .inr ((List.mem_cons.1 h).imp_right hpiece)
    · exact .inr (.inr (hpiece h))

theorem ne_empty_of_normal_mem {path name : String} (h : .normal name ∈ components path) :
    name ≠ "" := by
  rcases mem_components h with heq | heq | ⟨piece, hpiece⟩
  · cases heq
  · cases heq
  · unfold component? at hpiece
    split at hpiece
    · cases hpiece
    · cases hpiece
    · cases hpiece
    · rename_i hempty _ _
      cases hpiece
      exact fun hname => hempty (String.ofList_eq_empty_iff.1 hname)

theorem mapM_name : ∀ {cs : List Component} {names : List String},
    cs.mapM Component.name? = some names ↔ cs = names.map .normal
  | [], names => by cases names <;> simp
  | c :: cs, names => by
    rw [List.mapM_cons]
    constructor
    · intro h
      obtain ⟨name, hname, h⟩ := Option.bind_eq_some_iff.1 h
      obtain ⟨rest, hrest, h⟩ := Option.bind_eq_some_iff.1 h
      cases Option.some.inj h
      rw [mapM_name.1 hrest]
      cases c with
      | normal n => rw [← Option.some.inj hname, List.map_cons]
      | _ => cases hname
    · intro h
      cases names with
      | nil => cases h
      | cons name rest =>
        obtain ⟨rfl, hrest⟩ := List.cons.inj h
        rw [mapM_name.2 hrest]
        rfl

theorem dropBase?_eq_some : ∀ {base file rest : List Component},
    dropBase? base file = some rest ↔ file = base ++ rest
  | [], file, rest => by rw [dropBase?, Option.some_inj, List.nil_append]
  | b :: base, [], rest => by
    rw [dropBase?, List.cons_append]
    exact iff_of_false nofun nofun
  | b :: base, f :: file, rest => by
    rw [dropBase?, List.cons_append, List.cons.injEq]
    by_cases hb : b = f
    · rw [if_pos hb, dropBase?_eq_some, and_iff_right hb.symm]
    · rw [if_neg hb]
      exact iff_of_false nofun fun h => hb h.1.symm

/-! ## Stems and extensions -/

theorem splitLastDot_eq_none : ∀ {cs : List Char}, splitLastDot cs = none ↔ '.' ∉ cs
  | [] => by simp [splitLastDot]
  | c :: rest => by
    have ih := @splitLastDot_eq_none rest
    rw [splitLastDot, List.mem_cons, not_or, ← ih]
    cases splitLastDot rest with
    | some found => simp
    | none => by_cases hc : c = '.' <;> simp [hc, eq_comm]

theorem splitLastDot_eq_some : ∀ {cs before after : List Char},
    splitLastDot cs = some (before, after) ↔ cs = before ++ '.' :: after ∧ '.' ∉ after
  | [], before, after => by cases before <;> simp [splitLastDot]
  | c :: rest, [], after => by
    have hnone := @splitLastDot_eq_none rest
    rw [splitLastDot, List.nil_append, List.cons.injEq]
    cases hrest : splitLastDot rest with
    | some found =>
      rw [hrest] at hnone
      have hdot : '.' ∈ rest := by simpa using hnone
      refine iff_of_false (fun h => by cases h) ?_
      rintro ⟨⟨-, rfl⟩, hafter⟩
      exact hafter hdot
    | none =>
      have hdot : '.' ∉ rest := hnone.1 hrest
      by_cases hc : c = '.'
      · simpa [hc] using fun h : rest = after => h ▸ hdot
      · simp [hc]
  | c :: rest, d :: before, after => by
    have ih := @splitLastDot_eq_some rest before after
    rw [splitLastDot, List.cons_append, List.cons.injEq, and_assoc, ← ih]
    cases splitLastDot rest with
    | some found => simp [Prod.ext_iff, and_assoc]
    | none => by_cases hc : c = '.' <;> simp [hc]

theorem stemAndExtension?_eq_some {name stem extension : String} :
    stemAndExtension? name = some (stem, extension) ↔
      name = stem ++ "." ++ extension ∧ stem ≠ "" ∧ '.' ∉ extension.toList := by
  have hsplit := @splitLastDot_eq_some name.toList stem.toList extension.toList
  have htext : name.toList = stem.toList ++ '.' :: extension.toList ↔
      name = stem ++ "." ++ extension := by
    rw [← String.toList_inj, String.toList_append, String.toList_append, List.append_assoc]
    rfl
  rw [htext] at hsplit
  rw [and_left_comm, ← hsplit, stemAndExtension?]
  constructor
  · intro h
    split at h
    · rename_i c before after hfound
      cases h
      rw [String.toList_ofList, String.toList_ofList]
      exact ⟨by simp, hfound⟩
    · cases h
  · rintro ⟨hstem, hfound⟩
    rw [hfound]
    cases htoList : stem.toList with
    | nil => exact absurd (String.toList_eq_nil_iff.1 htoList) hstem
    | cons c before =>
      dsimp only
      rw [← htoList, String.ofList_toList, String.ofList_toList]

end GraphRepo.FilePath

import Mathlib.Data.List.Find
import GraphRepo.Repository.Declaration

/-!
# Names of factories

The factory of a repository has the name of the trait in lower case with underscores between its
words. What is not alphanumeric is not part of any word, so the name loses its leading underscores,
and what is left need not be an identifier.
-/

namespace GraphRepo

namespace Text

/-! ## Words -/

theorem flatten_runs (p : Char → Bool) : ∀ cs : List Char, (runs p cs).flatten = cs.filter p
  | [] => rfl
  | c :: rest => by
    have ih := flatten_runs p rest
    rw [runs]
    by_cases hc : p c
    · rw [if_pos hc, List.filter_cons_of_pos hc, ← ih]
      cases runs p rest <;> simp
    · rw [if_neg hc, List.filter_cons_of_neg hc, ← ih]
      rfl

theorem flatten_humps (side : CaseSide) (word cs : List Char) (h : cs ≠ []) :
    (humps side word cs).flatten = word.reverse ++ cs := by
  fun_induction humps side word cs with
  | case1 => exact absurd rfl h
  | case2 side word c => simp
  | case3 side word c d rest _ ih => simp [ih (List.cons_ne_nil d rest)]
  | case4 side word c d rest _ _ ih => simp [ih (List.cons_ne_nil d rest)]
  | case5 side word c d rest _ _ ih => simp [ih (List.cons_ne_nil d rest)]

/-- A word that goes on has a character in it as soon as a case was seen. -/
theorem ne_nil_of_mem_humps {side : CaseSide} {word cs w : List Char}
    (hword : side = .upper → word ≠ []) (h : w ∈ humps side word cs) : w ≠ [] := by
  fun_induction humps side word cs with
  | case1 => cases h
  | case2 side word c =>
    rw [List.mem_singleton.1 h]
    simp
  | case3 side word c d rest _ ih =>
    rcases List.mem_cons.1 h with rfl | hrest
    · simp
    · exact ih nofun hrest
  | case4 side word c d rest _ hup ih =>
    rcases List.mem_cons.1 h with rfl | hrest
    · simpa using hword hup.1
    · exact ih nofun hrest
  | case5 side word c d rest _ _ ih => exact ih (fun _ => List.cons_ne_nil c word) h

/-- **Words are what a name consists of**, but for the characters that are not alphanumeric. -/
theorem flatten_words (name : List Char) : (words name).flatten = name.filter isAlphanumeric := by
  have hrun (run : List Char) : (humps .neither [] run).flatten = run := by
    cases run with
    | nil => rfl
    | cons c rest => exact flatten_humps .neither [] (c :: rest) (List.cons_ne_nil c rest)
  rw [← flatten_runs, words]
  induction runs isAlphanumeric name with
  | nil => rfl
  | cons run rest ih => rw [List.flatMap_cons, List.flatten_append, ih, hrun, List.flatten_cons]

theorem ne_nil_of_mem_words {name w : List Char} (h : w ∈ words name) : w ≠ [] := by
  obtain ⟨run, -, hw⟩ := List.mem_flatMap.1 h
  have hside : CaseSide.neither = .upper → ([] : List Char) ≠ [] := nofun
  exact ne_nil_of_mem_humps hside hw

/-! ## Names in ASCII -/

theorem of_ascii {P : Char → Prop} (h : ∀ n : Fin 128, P (Char.ofNat n)) {c : Char}
    (hc : c.toNat < 128) : P c := by
  have hn := h ⟨c.toNat, hc⟩
  rwa [Char.ofNat_toNat] at hn

variable {c : Char}

theorem isAlphanumeric_ascii (h : c.toNat < 128) : isAlphanumeric c = c.isAlphanum :=
  of_ascii (P := fun c => isAlphanumeric c = c.isAlphanum) (by decide +kernel) h

theorem lower_ascii (h : c.toNat < 128) : lower c = [c.toLower] :=
  of_ascii (P := fun c => lower c = [c.toLower]) (by decide +kernel) h

theorem isIdentContinue_toLower (h : c.toNat < 128) : c.isAlphanum → isIdentContinue c.toLower :=
  of_ascii (P := fun c => c.isAlphanum → isIdentContinue c.toLower) (by decide +kernel) h

theorem isIdentStart_toLower (h : c.toNat < 128) :
    c.isAlphanum → isIdentStart c.toLower = c.isAlpha :=
  of_ascii (P := fun c => c.isAlphanum → isIdentStart c.toLower = c.isAlpha) (by decide +kernel) h

theorem not_isIdentStart_of_isDigit (hc : c.isDigit) : ¬ isIdentStart c := by
  have h : c.toNat < 128 := by
    have hnine : '9'.toNat = 57 := rfl
    have hdigit := Char.isDigit_iff_toNat.1 hc
    omega
  exact of_ascii (P := fun c => c.isDigit → ¬ isIdentStart c) (by decide +kernel) h hc

theorem lowerWord_ascii : ∀ {w : List Char}, (∀ c ∈ w, c.toNat < 128) →
    lowerWord w = w.map Char.toLower
  | [], _ => rfl
  | c :: rest, h => by
    obtain ⟨hc, hrest⟩ := List.forall_mem_cons.1 h
    have hsigma : ¬ (c.toNat = 931 ∧ rest.isEmpty) := by omega
    rw [lowerWord, if_neg hsigma, lower_ascii hc, lowerWord_ascii hrest]
    rfl

theorem mem_intercalate {sep : List Char} {d : Char} :
    ∀ {ws : List (List Char)}, d ∈ sep.intercalate ws → d ∈ sep ∨ ∃ w ∈ ws, d ∈ w
  | [], h => by cases h
  | [w], h => by
    rw [List.intercalate_singleton] at h
    exact .inr ⟨w, List.mem_cons_self, h⟩
  | w :: w' :: rest, h => by
    rw [List.intercalate_cons_cons, List.mem_append, List.mem_append] at h
    rcases h with (hw | hsep) | hrest
    · exact .inr ⟨w, List.mem_cons_self, hw⟩
    · exact .inl hsep
    · rcases mem_intercalate hrest with hsep | ⟨v, hv, hd⟩
      · exact .inl hsep
      · exact .inr ⟨v, List.mem_cons_of_mem w hv, hd⟩

variable {name : List Char}

theorem mem_snakeCase (hname : ∀ c ∈ name, c.toNat < 128) {d : Char} (h : d ∈ snakeCase name) :
    d = '_' ∨ ∃ c ∈ name, c.isAlphanum ∧ d = c.toLower := by
  rcases mem_intercalate h with hsep | ⟨_, hlower, hd⟩
  · exact .inl (List.mem_singleton.1 hsep)
  · obtain ⟨w, hw, rfl⟩ := List.mem_map.1 hlower
    have hword (c : Char) (hc : c ∈ w) : c ∈ name ∧ isAlphanumeric c := by
      rw [← List.mem_filter, ← flatten_words]
      exact List.mem_flatten_of_mem hw hc
    rw [lowerWord_ascii fun c hc => hname c (hword c hc).1] at hd
    obtain ⟨c, hc, rfl⟩ := List.mem_map.1 hd
    obtain ⟨hmem, halnum⟩ := hword c hc
    rw [isAlphanumeric_ascii (hname c hmem)] at halnum
    exact .inr ⟨c, hmem, halnum, rfl⟩

theorem head_snakeCase (hname : ∀ c ∈ name, c.toNat < 128) :
    (snakeCase name).head? = (name.find? Char.isAlphanum).map Char.toLower := by
  have hfind : name.find? Char.isAlphanum = (words name).flatten.head? := by
    rw [flatten_words, List.head?_filter]
    exact (List.find?_congr fun c hc => isAlphanumeric_ascii (hname c hc)).symm
  rw [hfind, snakeCase]
  cases hwords : words name with
  | nil => rfl
  | cons w rest =>
    have hw : w ∈ words name := by
      rw [hwords]
      exact List.mem_cons_self
    obtain ⟨c, cs, rfl⟩ := List.exists_cons_of_ne_nil (ne_nil_of_mem_words hw)
    have hascii : ∀ c' ∈ c :: cs, c'.toNat < 128 := by
      intro c' hc'
      have hmem := List.mem_flatten_of_mem hw hc'
      rw [flatten_words] at hmem
      exact hname c' ((List.mem_filter.1 hmem).1)
    rw [List.map_cons, lowerWord_ascii hascii]
    cases rest with
    | nil => rfl
    | cons w' rest =>
      rw [List.map_cons, List.map_cons, List.intercalate_cons_cons]
      rfl

end Text

open Text

theorem identifier_isOk {text : String} :
    (∃ name, identifier text = .ok name) ↔ hasIdentifierForm text.toList := by
  unfold identifier
  constructor
  · rintro ⟨name, h⟩
    split at h
    · cases h
    · split at h
      · cases h
      · split at h
        · assumption
        · cases h
  · intro hform
    have hnonempty : ¬ text.isEmpty := by
      intro hempty
      rw [String.isEmpty_iff.1 hempty] at hform
      cases hform
    have hletter : ¬ text.all Char.isDigit := by
      intro hdigits
      rw [String.all_bool_eq] at hdigits
      cases htext : text.toList with
      | nil =>
        rw [htext] at hform
        cases hform
      | cons c rest =>
        rw [htext] at hform hdigits
        have hstart : isIdentStart c := (Bool.and_eq_true_iff.1 hform).1
        have hdigit : c.isDigit := List.all_eq_true.1 hdigits c List.mem_cons_self
        exact not_isIdentStart_of_isDigit hdigit hstart
    exact ⟨text, by rw [if_neg hnonempty, if_neg hletter, if_pos hform]⟩

/-- **When a trait has a factory.** A name in ASCII makes the name of a factory exactly if its first
letter or digit is a letter. -/
theorem factoryName_ascii {name : String} (hname : ∀ c ∈ name.toList, c.toNat < 128) :
    (∃ factory, identifier (snake name) = .ok factory) ↔
      (name.toList.find? Char.isAlphanum).any Char.isAlpha := by
  have hhead := head_snakeCase hname
  rw [identifier_isOk, snake, String.toList_ofList]
  cases hfind : name.toList.find? Char.isAlphanum with
  | none =>
    rw [hfind, Option.map_none, List.head?_eq_none_iff] at hhead
    rw [hhead]
    rfl
  | some c =>
    obtain ⟨rest, hrest⟩ : ∃ rest, snakeCase name.toList = c.toLower :: rest := by
      rw [hfind] at hhead
      exact List.head?_eq_some_iff.1 hhead
    have hascii : c.toNat < 128 := hname c (List.mem_of_find?_eq_some hfind)
    have halnum : c.isAlphanum := List.find?_some hfind
    have hcontinue : rest.all isIdentContinue := by
      rw [List.all_eq_true]
      intro d hd
      have hmem : d ∈ snakeCase name.toList := by
        rw [hrest]
        exact List.mem_cons_of_mem _ hd
      rcases mem_snakeCase hname hmem with rfl | ⟨c', hc', hletter, rfl⟩
      · decide +kernel
      · exact isIdentContinue_toLower (hname c' hc') hletter
    rw [hrest, hasIdentifierForm, hcontinue, Bool.and_true, isIdentStart_toLower hascii halnum]
    rfl

end GraphRepo

import Mathlib
import GraphRepo.Proofs.Source.Leaves

/-!
# Where quoted literals end

A quoted literal says itself where it ends, and its suffix goes on as a word does. So what the lexer
takes of one text it takes of every other text in which something stops the literal.
-/

namespace GraphRepo.Source

variable {kind : QuotedKind} {cs after : List Char}

/-- The function takes the front of the text up to `after`, and it takes that front as well where
something else stops it. -/
def TakesFront (f : List Char → Option (List Char)) (cs after : List Char) : Prop :=
  ∃ taken, cs = taken ++ after ∧ ∀ rest, Stops rest → f (taken ++ rest) = some rest

theorem exists_suffix (cs : List Char) : ∃ name, cs = name ++ suffixEnd cs ∧
    (∀ c ∈ name, Text.isIdentContinue c) ∧
      ∀ rest, EndsWord rest → suffixEnd (name ++ rest) = rest := by
  cases hend : plainIdentEnd cs with
  | none =>
    refine ⟨[], ?_, List.forall_mem_nil _, fun rest hrest => hrest.suffixEnd⟩
    rw [suffixEnd, hend, Option.getD_none, List.nil_append]
  | some after =>
    obtain ⟨name, rfl, hname⟩ := exists_word hend
    refine ⟨name, ?_, isIdentContinue_of_word hname, fun rest hrest => ?_⟩
    · rw [suffixEnd, hend, Option.getD_some]
    · rw [suffixEnd, plainIdentEnd_append hname hrest, Option.getD_some]

/-! ## Escapes -/

theorem hexEscapeEnd_cons (kind : QuotedKind) (a b : Char) :
    (∀ rest, kind.hexEscapeEnd (a :: b :: rest) = some rest) ∨
      ∀ rest, kind.hexEscapeEnd (a :: b :: rest) = none := by
  cases ha : hexDigit? a with
  | none => exact .inr fun _ => by simp [QuotedKind.hexEscapeEnd, ha]
  | some m =>
    cases hb : hexDigit? b with
    | none => exact .inr fun _ => by simp [QuotedKind.hexEscapeEnd, ha, hb]
    | some n =>
      cases kind with
      | text => by_cases h : m ≤ 7 <;> simp [QuotedKind.hexEscapeEnd, ha, hb, h]
      | bytes => exact .inl fun _ => by simp [QuotedKind.hexEscapeEnd, ha, hb]
      | cText => by_cases h : m = 0 ∧ n = 0 <;> simp [QuotedKind.hexEscapeEnd, ha, hb, h]

theorem hexEscapeEnd_eq_some (h : kind.hexEscapeEnd cs = some after) :
    ∃ a b, cs = a :: b :: after ∧ ∀ rest, kind.hexEscapeEnd (a :: b :: rest) = some rest := by
  rcases cs with _ | ⟨a, _ | ⟨b, cs⟩⟩
  · cases h
  · cases h
  · rcases hexEscapeEnd_cons kind a b with htakes | hnot
    · rw [htakes] at h
      cases h
      exact ⟨a, b, rfl, htakes⟩
    · rw [hnot] at h
      cases h

theorem codePointEnd_eq_some : ∀ {cs : List Char} {count value n : Nat} {after : List Char},
    codePointEnd count value cs = some (n, after) → ∃ taken, cs = taken ++ after ∧
      ∀ rest, codePointEnd count value (taken ++ rest) = some (n, rest)
  | [], _, _, _, _, h => by cases h
  | c :: cs, count, value, n, after, h => by
    rw [codePointEnd] at h
    cases hdigit : hexDigit? c with
    | some d =>
      simp only [hdigit] at h
      split_ifs at h with hcount
      obtain ⟨taken, rfl, htaken⟩ := codePointEnd_eq_some h
      exact ⟨c :: taken, rfl, fun rest => by simp [codePointEnd, hdigit, hcount, htaken]⟩
    | none =>
      simp only [hdigit] at h
      split_ifs at h with hcount hmark hbrace
      · obtain ⟨taken, rfl, htaken⟩ := codePointEnd_eq_some h
        subst hmark
        exact ⟨'_' :: taken, rfl, fun rest => by simp [codePointEnd, hdigit, hcount, htaken]⟩
      · cases h
        obtain ⟨rfl, hvalue⟩ := hbrace
        exact ⟨['\x7d'], rfl, fun rest => by simp [codePointEnd, hdigit, hcount, hvalue]⟩

/-- A continued line goes on with a character that is no blank. -/
theorem continuationEnd_eq_some : ∀ {cs : List Char} {returned : Bool} {after : List Char},
    continuationEnd returned cs = some after → ∃ taken c more, after = c :: more ∧
      cs = taken ++ c :: more ∧
      ∀ rest, continuationEnd returned (taken ++ c :: rest) = some (c :: rest)
  | [], returned, _, h => by cases returned <;> cases h
  | c :: cs, true, after, h => by
    by_cases hc : c = '\n'
    · subst hc
      have hblanks : continuationEnd false cs = some after := h
      obtain ⟨taken, d, more, rfl, rfl, htaken⟩ := continuationEnd_eq_some hblanks
      exact ⟨'\n' :: taken, d, more, rfl, rfl, htaken⟩
    · simp [continuationEnd, hc] at h
  | c :: cs, false, after, h => by
    rw [continuationEnd] at h
    split_ifs at h with hreturn hblank
    · obtain ⟨taken, d, more, rfl, rfl, htaken⟩ := continuationEnd_eq_some h
      exact ⟨c :: taken, d, more, rfl, rfl, fun rest => by simp [continuationEnd, hreturn, htaken]⟩
    · obtain ⟨taken, d, more, rfl, rfl, htaken⟩ := continuationEnd_eq_some h
      exact ⟨c :: taken, d, more, rfl, rfl, fun rest => by
        simp [continuationEnd, hreturn, hblank, htaken]⟩
    · cases h
      exact ⟨[], c, cs, rfl, rfl, fun rest => by simp [continuationEnd, hreturn, hblank]⟩

theorem escapeEnd_eq_some (h : kind.escapeEnd cs = some after) :
    ∃ c taken, cs = c :: taken ++ after ∧ c ≠ '\n' ∧ c ≠ '\r' ∧
      ∀ rest, kind.escapeEnd (c :: taken ++ rest) = some rest := by
  rcases cs with _ | ⟨c, cs⟩
  · cases h
  unfold QuotedKind.escapeEnd at h
  dsimp only at h
  split_ifs at h with hhex hsimple hzero hkind hpoint
  · obtain ⟨a, b, rfl, hescape⟩ := hexEscapeEnd_eq_some h
    subst hhex
    exact ⟨'x', [a, b], rfl, by decide, by decide, hescape⟩
  · cases h
    refine ⟨c, [], rfl, ?_, ?_, fun rest => by simp [QuotedKind.escapeEnd, hhex, hsimple]⟩
    · rintro rfl
      simp at hsimple
    · rintro rfl
      simp at hsimple
  · cases h
    subst hzero
    exact ⟨'0', [], rfl, by decide, by decide, fun rest => by simp [QuotedKind.escapeEnd, hkind]⟩
  · obtain ⟨rfl, hbytes⟩ := hpoint
    split at h
    · obtain ⟨⟨n, behind⟩, hdigits, hvalue⟩ := Option.bind_eq_some_iff.1 h
      obtain ⟨taken, rfl, htaken⟩ := codePointEnd_eq_some hdigits
      split_ifs at hvalue with hnul
      cases hvalue
      exact ⟨'u', '\x7b' :: taken, rfl, by decide, by decide, fun rest => by
        simp [QuotedKind.escapeEnd, hbytes, htaken, hnul]⟩
    · cases h

/-! ## Quoted literals -/

theorem cookedEnd_escape {d : Char} (hline : d ≠ '\n') (hreturn : d ≠ '\r') (fuel : Nat)
    (cs : List Char) : kind.cookedEnd (fuel + 1) ('\\' :: d :: cs) =
      (kind.escapeEnd (d :: cs)).bind (kind.cookedEnd fuel) := by
  simp [QuotedKind.cookedEnd, hline, hreturn]

/-- A step inside a cooked literal takes `front`, whatever stands behind the next character. -/
structure CookedStep (kind : QuotedKind) (front cs : List Char) : Prop where
  some : front ≠ []
  goesOn : ∀ (fuel : Nat) {more : List Char}, more.head? = cs.head? →
    kind.cookedEnd (fuel + 1) (front ++ more) = kind.cookedEnd fuel more

/-- The characters that a backslash at the end of a line takes with it are a step. -/
theorem exists_cookedStep_continued {start : List Char} {returned : Bool} {fuel : Nat}
    (hstart : ∀ (fuel : Nat) (cs : List Char), kind.cookedEnd (fuel + 1) (start ++ cs) =
      (continuationEnd returned cs).bind (kind.cookedEnd fuel)) (hne : start ≠ [])
    (h : (continuationEnd returned cs).bind (kind.cookedEnd fuel) = some after) :
    ∃ front more, start ++ cs = front ++ more ∧ CookedStep kind front more ∧
      kind.cookedEnd fuel more = some after := by
  obtain ⟨behind, hblanks, hrest⟩ := Option.bind_eq_some_iff.1 h
  obtain ⟨taken, c, more, rfl, rfl, htaken⟩ := continuationEnd_eq_some hblanks
  have hstep : CookedStep kind (start ++ taken) (c :: more) := by
    refine ⟨List.append_ne_nil_of_left_ne_nil hne taken, fun fuel other hhead => ?_⟩
    rcases other with _ | ⟨d, other⟩
    · cases hhead
    · cases hhead
      rw [List.append_assoc, hstart, htaken, Option.bind_some]
  exact ⟨start ++ taken, c :: more, (List.append_assoc ..).symm, hstep, hrest⟩

/-- A cooked literal is at its quote, or it goes on behind a step. -/
theorem cookedEnd_cases {fuel : Nat} (h : kind.cookedEnd (fuel + 1) cs = some after) :
    (∃ rest, cs = '\x22' :: rest ∧ suffixEnd rest = after) ∨
      ∃ front more, cs = front ++ more ∧ CookedStep kind front more ∧
        kind.cookedEnd fuel more = some after := by
  rcases cs with _ | ⟨c, cs⟩
  · cases h
  by_cases hquote : c = '\x22'
  · subst hquote
    exact .inl ⟨cs, rfl, by simpa [QuotedKind.cookedEnd] using h⟩
  right
  by_cases hreturn : c = '\r'
  · subst hreturn
    rcases cs with _ | ⟨d, cs⟩
    · simp [QuotedKind.cookedEnd] at h
    · by_cases hd : d = '\n'
      · subst hd
        exact ⟨['\r', '\n'], cs, rfl, ⟨List.cons_ne_nil _ _, fun _ _ _ => rfl⟩, h⟩
      · simp [QuotedKind.cookedEnd, hd] at h
  by_cases hbackslash : c = '\\'
  · subst hbackslash
    rcases cs with _ | ⟨d, cs⟩
    · simp [QuotedKind.cookedEnd, QuotedKind.escapeEnd] at h
    by_cases hline : d = '\n'
    · subst hline
      have hstart (fuel : Nat) (cs : List Char) : kind.cookedEnd (fuel + 1) (['\\', '\n'] ++ cs) =
          (continuationEnd false cs).bind (kind.cookedEnd fuel) := rfl
      exact exists_cookedStep_continued hstart (List.cons_ne_nil _ _) h
    by_cases hreturned : d = '\r'
    · subst hreturned
      have hstart (fuel : Nat) (cs : List Char) : kind.cookedEnd (fuel + 1) (['\\', '\r'] ++ cs) =
          (continuationEnd true cs).bind (kind.cookedEnd fuel) := rfl
      exact exists_cookedStep_continued hstart (List.cons_ne_nil _ _) h
    · rw [cookedEnd_escape hline hreturned] at h
      obtain ⟨behind, hescape, hrest⟩ := Option.bind_eq_some_iff.1 h
      obtain ⟨e, taken, heq, -, -, htaken⟩ := escapeEnd_eq_some hescape
      obtain ⟨rfl, rfl⟩ := List.cons.inj heq
      refine ⟨'\\' :: d :: taken, behind, rfl, ⟨List.cons_ne_nil _ _, fun fuel more _ => ?_⟩, hrest⟩
      have htaken : kind.escapeEnd (d :: (taken ++ more)) = some more := htaken more
      rw [List.cons_append, List.cons_append, cookedEnd_escape hline hreturned, htaken,
        Option.bind_some]
  · by_cases hholds : kind.holds c
    · have hgoesOn (fuel : Nat) (cs : List Char) :
          kind.cookedEnd (fuel + 1) ([c] ++ cs) = kind.cookedEnd fuel cs := by
        simp [QuotedKind.cookedEnd, hquote, hreturn, hbackslash, hholds]
      exact ⟨[c], cs, rfl, ⟨List.cons_ne_nil _ _, fun fuel more _ => hgoesOn fuel more⟩,
        (hgoesOn fuel cs).symm.trans h⟩
    · simp [QuotedKind.cookedEnd, hquote, hreturn, hbackslash, hholds] at h

/-- **A cooked literal ends at its quote**, and behind a suffix. As many steps as it has characters
are enough. -/
theorem cookedEnd_eq_some : ∀ {fuel : Nat} {cs : List Char}, kind.cookedEnd fuel cs = some after →
    ∃ taken, taken ≠ [] ∧ cs = taken ++ after ∧ ∀ rest, Stops rest → ∀ {fuel : Nat},
      taken.length ≤ fuel → kind.cookedEnd fuel (taken ++ rest) = some rest
  | 0, _, h => by cases h
  | fuel + 1, cs, h => by
    rcases cookedEnd_cases h with ⟨behind, rfl, hbehind⟩ | ⟨front, more, rfl, hstep, hrest⟩
    · obtain ⟨name, hname, -, hsuffix⟩ := exists_suffix behind
      rw [hbehind] at hname
      refine ⟨'\x22' :: name, List.cons_ne_nil _ _, congrArg _ hname,
        fun rest hstops fuel hfuel => ?_⟩
      obtain ⟨fuel, rfl⟩ := Nat.exists_eq_succ_of_ne_zero (Nat.ne_zero_of_lt hfuel)
      simp [QuotedKind.cookedEnd, hsuffix rest hstops.endsWord]
    · obtain ⟨taken, hne, rfl, htaken⟩ := cookedEnd_eq_some hrest
      refine ⟨front ++ taken, List.append_ne_nil_of_left_ne_nil hstep.some _,
        (List.append_assoc ..).symm, fun rest hstops fuel hfuel => ?_⟩
      have hpos := List.length_pos_of_ne_nil hstep.some
      rw [List.length_append] at hfuel
      obtain ⟨fuel, rfl⟩ := Nat.exists_eq_succ_of_ne_zero (Nat.ne_zero_of_lt (by omega : 0 < fuel))
      rw [List.append_assoc, Nat.succ_eq_add_one, hstep.goesOn]
      · exact htaken rest hstops (by omega)
      · rw [List.head?_append_of_ne_nil _ hne, List.head?_append_of_ne_nil _ hne]

theorem rawEnd_cons {c : Char} (hreturn : c ≠ '\r') (pounds : Nat) (cs : List Char) :
    kind.rawEnd pounds (c :: cs) =
      if c = '\x22' ∧ (List.replicate pounds '#').isPrefixOf cs then
        some (suffixEnd (cs.drop pounds))
      else if kind.holds c then kind.rawEnd pounds cs else none := by
  rw [QuotedKind.rawEnd]
  · simp only [if_neg hreturn]
  · rintro _ rfl
    exact absurd rfl hreturn

/-- **A raw literal ends at its quote with the signs behind it**, and behind a suffix. -/
theorem rawEnd_eq_some {pounds : Nat} : ∀ {cs : List Char}, kind.rawEnd pounds cs = some after →
    ∃ taken, pounds < taken.length ∧ cs = taken ++ after ∧
      ∀ rest, Stops rest → kind.rawEnd pounds (taken ++ rest) = some rest
  | [], h => by cases h
  | c :: cs, h => by
    by_cases hreturn : c = '\r'
    · subst hreturn
      rcases cs with _ | ⟨d, cs⟩
      · simp [QuotedKind.rawEnd] at h
      · by_cases hd : d = '\n'
        · subst hd
          have hbehind : kind.rawEnd pounds cs = some after := h
          obtain ⟨taken, hlength, rfl, htaken⟩ := rawEnd_eq_some hbehind
          exact ⟨'\r' :: '\n' :: taken, Nat.lt_succ_of_lt (Nat.lt_succ_of_lt hlength), rfl, htaken⟩
        · rw [QuotedKind.rawEnd] at h
          · simp at h
          · rintro _ _ ⟨⟩
            exact hd rfl
    · rw [rawEnd_cons hreturn] at h
      split_ifs at h with hend hholds
      · obtain ⟨rfl, hpounds⟩ := hend
        obtain ⟨behind, rfl⟩ := List.isPrefixOf_iff_prefix.1 hpounds
        obtain ⟨name, hname, -, hsuffix⟩ := exists_suffix behind
        have hdrop (cs : List Char) : (List.replicate pounds '#' ++ cs).drop pounds = cs :=
          List.drop_left' List.length_replicate
        rw [hdrop] at h
        rw [Option.some.inj h] at hname
        refine ⟨'\x22' :: (List.replicate pounds '#' ++ name), ?_, by simp [hname],
          fun rest hstops => ?_⟩
        · rw [List.length_cons, List.length_append, List.length_replicate]
          omega
        · have hstarts := List.prefix_append (List.replicate pounds '#') (name ++ rest)
          rw [List.cons_append, List.append_assoc, rawEnd_cons hreturn,
            if_pos ⟨rfl, List.isPrefixOf_iff_prefix.2 hstarts⟩, hdrop, hsuffix rest hstops.endsWord]
      · obtain ⟨taken, hlength, rfl, htaken⟩ := rawEnd_eq_some h
        refine ⟨c :: taken, Nat.lt_succ_of_lt hlength, rfl, fun rest hstops => ?_⟩
        -- The signs that would end the literal here would be in what it takes.
        have hgoesOn : ¬ (c = '\x22' ∧ (List.replicate pounds '#').isPrefixOf (taken ++ rest)) := by
          rintro ⟨hquote, hpounds⟩
          refine hend ⟨hquote, List.isPrefixOf_iff_prefix.2 ?_⟩
          have hshort : (List.replicate pounds '#').length ≤ taken.length := by
            rw [List.length_replicate]
            omega
          have hin := List.prefix_of_prefix_length_le (List.isPrefixOf_iff_prefix.1 hpounds)
            (List.prefix_append taken rest) hshort
          exact hin.trans (List.prefix_append taken after)
        rw [List.cons_append, rawEnd_cons hreturn, if_neg hgoesOn, if_pos hholds,
          htaken rest hstops]

theorem rawLiteralEnd_append {front : List Char} (hfront : ∀ c ∈ front, c = '#') (cs : List Char) :
    kind.rawLiteralEnd (front ++ '\x22' :: cs) =
      if front.length ≤ 255 then kind.rawEnd front.length cs else none := by
  have htake : (front ++ '\x22' :: cs).takeWhile (· = '#') = front := by
    rw [List.takeWhile_append_of_pos (by simpa using hfront)]
    simp
  unfold QuotedKind.rawLiteralEnd
  rw [htake]
  dsimp only
  rw [List.drop_left]
  rfl

theorem rawLiteralEnd_eq_some (h : kind.rawLiteralEnd cs = some after) :
    TakesFront kind.rawLiteralEnd cs after := by
  have hfront : ∀ c ∈ cs.takeWhile (· = '#'), c = '#' := fun c hc => by
    simpa using List.mem_takeWhile_imp hc
  have hcs := List.prefix_iff_eq_append.1 (List.takeWhile_prefix (l := cs) (· = '#'))
  unfold QuotedKind.rawLiteralEnd at h
  dsimp only at h
  split at h
  · next body heq =>
    split_ifs at h with hcount
    obtain ⟨taken, -, rfl, htaken⟩ := rawEnd_eq_some h
    rw [heq] at hcs
    refine ⟨cs.takeWhile (· = '#') ++ '\x22' :: taken, ?_, fun rest hstops => ?_⟩
    · rw [List.append_assoc, List.cons_append, hcs]
    · rw [List.append_assoc, List.cons_append, rawLiteralEnd_append hfront, if_pos hcount,
        htaken rest hstops]
  · cases h

/-- What a quoted literal has behind its mark. -/
def quotedOpenings : List (List Char) := ['\x22'] :: rawOpenings.map ('r' :: ·)

/-- **A quoted literal ends at its quote**; behind its mark it opens as one. -/
theorem QuotedKind.literalEnd_eq_some {mark : List Char}
    (h : kind.literalEnd mark cs = some after) :
    ∃ opening ∈ quotedOpenings, ∃ taken, cs = mark ++ opening ++ taken ++ after ∧
      ∀ rest, Stops rest → kind.literalEnd mark (mark ++ opening ++ taken ++ rest) = some rest := by
  unfold QuotedKind.literalEnd at h
  cases hcooked : (dropText? (mark ++ ['\x22']) cs).bind
      (fun rest => kind.cookedEnd (rest.length + 1) rest) with
  | some found =>
    rw [hcooked] at h
    cases h
    obtain ⟨body, hbody, hend⟩ := Option.bind_eq_some_iff.1 hcooked
    obtain ⟨taken, -, rfl, htaken⟩ := cookedEnd_eq_some hend
    rw [dropText?_eq_some] at hbody
    refine ⟨['\x22'], List.mem_cons_self, taken, by simp [hbody], fun rest hstops => ?_⟩
    have hopen : dropText? (mark ++ ['\x22']) (mark ++ ['\x22'] ++ taken ++ rest) =
        some (taken ++ rest) := dropText?_eq_some.2 (by simp)
    have hfuel : taken.length ≤ (taken ++ rest).length + 1 := by
      rw [List.length_append]
      omega
    rw [QuotedKind.literalEnd, hopen, Option.bind_some, htaken rest hstops hfuel]
    rfl
  | none =>
    rw [hcooked] at h
    obtain ⟨body, hbody, hend⟩ := Option.bind_eq_some_iff.1 h
    obtain ⟨taken, rfl, htaken⟩ := rawLiteralEnd_eq_some hend
    obtain ⟨opening, hopening, more, rfl⟩ : ∃ opening ∈ rawOpenings, opening <+: taken := by
      by_contra hno
      have hnone : kind.rawLiteralEnd (taken ++ []) = none :=
        rawLiteralEnd_eq_none kind (by simpa using hno)
      rw [htaken [] trivial] at hnone
      cases hnone
    rw [dropText?_eq_some] at hbody
    refine ⟨'r' :: opening, List.mem_cons_of_mem _ (List.mem_map_of_mem hopening), more,
      by simp [hbody], fun rest hstops => ?_⟩
    have htext : mark ++ 'r' :: opening ++ more ++ rest =
        mark ++ 'r' :: (opening ++ more ++ rest) := by simp
    have hclosed :
        dropText? (mark ++ ['\x22']) (mark ++ 'r' :: (opening ++ more ++ rest)) = none := by
      refine Option.eq_none_iff_forall_ne_some.2 fun other hother => ?_
      rw [dropText?_eq_some, List.append_assoc, List.append_assoc,
        List.append_cancel_left_eq] at hother
      cases hother
    have hopen : dropText? (mark ++ ['r']) (mark ++ 'r' :: (opening ++ more ++ rest)) =
        some (opening ++ more ++ rest) := dropText?_eq_some.2 (by simp)
    rw [htext, QuotedKind.literalEnd, hclosed, hopen, Option.bind_none, Option.bind_some,
      htaken rest hstops]
    rfl

theorem singleEnd_body (h : kind.singleEnd cs = some after) : ∃ body behind,
    cs = body ++ '\x27' :: behind ∧ suffixEnd behind = after ∧
      ∀ rest, kind.singleEnd (body ++ '\x27' :: rest) = some (suffixEnd rest) := by
  rcases cs with _ | ⟨c, cs⟩
  · cases h
  unfold QuotedKind.singleEnd at h
  dsimp only at h
  split at h
  · next behind heq =>
    by_cases hbackslash : c = '\\'
    · subst hbackslash
      rw [if_pos rfl] at heq
      split at heq
      · cases heq
      · cases heq
      · next hline hreturn =>
        obtain ⟨d, taken, rfl, -, -, htaken⟩ := escapeEnd_eq_some heq
        have hd (e : Char) (hne : ∀ rest, d :: taken ++ '\x27' :: behind ≠ e :: rest) : d ≠ e := by
          rintro rfl
          exact hne _ rfl
        refine ⟨'\\' :: d :: taken, behind, rfl, Option.some.inj h, fun rest => ?_⟩
        have hescape : kind.escapeEnd (d :: (taken ++ '\x27' :: rest)) = some ('\x27' :: rest) :=
          htaken _
        have hfeed : d ≠ '\n' := hd '\n' (by simpa using hline)
        have hback : d ≠ '\r' := hd '\r' (by simpa using hreturn)
        simp [QuotedKind.singleEnd, hescape, hfeed, hback]
    · rw [if_neg hbackslash] at heq
      split_ifs at heq with hholds
      cases heq
      refine ⟨[c], behind, rfl, Option.some.inj h, fun rest => ?_⟩
      simp [QuotedKind.singleEnd, hbackslash, hholds]
  · cases h

/-- **A character ends at its quote**, and behind a suffix. -/
theorem singleEnd_eq_some (h : kind.singleEnd cs = some after) :
    TakesFront kind.singleEnd cs after := by
  obtain ⟨body, behind, rfl, hbehind, hbody⟩ := singleEnd_body h
  obtain ⟨name, hname, -, hsuffix⟩ := exists_suffix behind
  rw [hbehind] at hname
  refine ⟨body ++ '\x27' :: name, ?_, fun rest hstops => ?_⟩
  · rw [List.append_assoc, List.cons_append, ← hname]
  · rw [List.append_assoc, List.cons_append, hbody, hsuffix rest hstops.endsWord]

end GraphRepo.Source

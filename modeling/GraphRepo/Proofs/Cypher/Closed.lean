import Mathlib
import GraphRepo.Cypher.Parameter
import GraphRepo.Proofs.Cypher.FirstToken
import GraphRepo.Proofs.Table
import GraphRepo.Text.Blank

/-!
# Query texts put together

A text in which every string, name and comment is closed, and which ends in white space outside of
them, keeps its tokens when more text follows. So its parameters and those of the text behind it are
the parameters of both, and a closed string, name or comment between the two adds none.
-/

namespace GraphRepo.Cypher

/-! ## Closed texts -/

/-- Whether a token is more than the opening of a construct that is not closed. -/
def Token.isClosed : Token → Bool
  | .blockComment _ closed => closed
  | .other c => !(isQuote c || c = backtick)
  | _ => true

/-- Whether a token is a white space character outside of all constructs. -/
def Token.isSpace : Token → Bool
  | .other c => Text.isBlank c
  | _ => false

/-- **A closed text**: no construct in it is left open, and it is empty or ends in white space
outside of all constructs. -/
def isClosed (text : List Char) : Bool :=
  (scan text).all Token.isClosed && (scan text).getLast?.all Token.isSpace

theorem isClosed_iff {text : List Char} : isClosed text = true ↔
    (∀ t ∈ scan text, t.isClosed) ∧ ∀ t ∈ (scan text).getLast?, t.isSpace := by
  simp [isClosed, Option.all_eq_true]

theorem isOpener_of_isBlank {c : Char} (h : Text.isBlank c) : isOpener c = false := by
  refine Bool.eq_false_iff.2 fun hc => ?_
  simp only [isOpener, isQuote, Bool.or_eq_true, decide_eq_true_eq] at hc
  obtain ((rfl | rfl | rfl) | rfl) | rfl := hc
  all_goals exact absurd h (by decide)

/-! ## More text behind a token -/

/-- A run of characters that stops within a text stops there when more text follows. -/
theorem span_append {p : Char → Bool} (s : List Char) : ∀ {cs : List Char}, cs.dropWhile p ≠ [] →
    (cs ++ s).takeWhile p = cs.takeWhile p ∧ (cs ++ s).dropWhile p = cs.dropWhile p ++ s
  | [], h => absurd rfl h
  | c :: rest, h => by
    by_cases hc : p c
    · have hr : rest.dropWhile p ≠ [] := by simpa [hc] using h
      obtain ⟨ht, hd⟩ := span_append s hr
      simp [hc, ht, hd]
    · simp [hc]

theorem exists_body_of_isClosed {text : List Char}
    (h : ∀ t ∈ scan (backtick :: text), t.isClosed) :
    ∃ body after, text = body ++ backtick :: after ∧ backtick ∉ body := by
  refine Classical.byContradiction fun hno => ?_
  have hm : backtick ∉ text := fun hm => hno (List.eq_append_cons_of_mem hm)
  rw [scan_cons, nextToken_of_firstToken (.strayBacktick rfl hm)] at h
  have := h _ List.mem_cons_self
  simp [Token.isClosed] at this

/-- **The first token of a text without open constructs stays when more text follows**, unless it
reaches to the end of the text. -/
theorem FirstToken.append {c : Char} {rest : List Char} {t : Token} {after : List Char}
    (s : List Char) (h : FirstToken c rest t after) (ht : t.isClosed)
    (hafter : ∀ u ∈ scan after, u.isClosed) (hne : after ≠ []) : FirstToken c (rest ++ s) t (after ++ s) := by
  cases h with
  | @lineComment text hc hr =>
    obtain ⟨h1, h2⟩ := span_append s hne
    have := @FirstToken.lineComment c (rest ++ s) (text ++ s) hc (by simp [hr])
    rwa [h1, h2] at this
  | blockComment hc hr hn => exact .blockComment hc (by simp [hr]) hn
  | openComment hc hr hn => cases ht
  | slash hc hslash hstar =>
    have hh : (rest ++ s).head? = rest.head? := List.head?_append_of_ne_nil _ hne
    exact .slash hc (hh ▸ hslash) (hh ▸ hstar)
  | quoted hq hr hn => exact .quoted hq (by simp [hr]) hn
  | strayQuote hq hn => simp [Token.isClosed, hq] at ht
  | escapedName hc hr hn => exact .escapedName hc (by simp [hr]) hn
  | strayBacktick hc hn => simp [Token.isClosed, hc] at ht
  | parameter hc hname =>
    obtain ⟨h1, h2⟩ := span_append s hne
    have := @FirstToken.parameter c (rest ++ s) hc (by rw [h1]; exact hname)
    rwa [h1, h2] at this
  | escapedParameter hc hr hb hn => exact .escapedParameter hc (by simp [hr]) hb hn
  | dollar hc hname hempty =>
    obtain ⟨d, text, rfl⟩ := List.exists_cons_of_ne_nil hne
    refine .dollar hc ?_ fun body after hr hn => ?_
    · cases hd : isNameChar d
      · simp [hd]
      · simp [hd] at hname
    · simp only [List.cons_append, List.cons.injEq] at hr
      obtain ⟨rfl, hr⟩ := hr
      -- The name that follows is closed within the text, and it is empty.
      obtain ⟨body', after', rfl, hn'⟩ := exists_body_of_isClosed hafter
      cases hempty body' after' rfl hn'
      cases body with
      | nil => rfl
      | cons b body =>
        simp only [List.nil_append, List.cons_append, List.cons.injEq] at hr
        exact absurd (hr.1 ▸ List.mem_cons_self) hn
  | plain hc => exact .plain hc

theorem FirstToken.of_isSpace {c : Char} {rest : List Char} {t : Token} {after : List Char}
    (h : FirstToken c rest t after) (ht : t.isSpace) : Text.isBlank c ∧ after = rest := by
  have htext := h.text_append
  cases t with
  | other d =>
    simp only [Token.text, List.cons_append, List.nil_append, List.cons.injEq] at htext
    exact ⟨htext.1 ▸ ht, htext.2⟩
  | _ => cases ht

/-! ## Texts behind closed texts -/

/-- **Nothing reaches over the end of a closed text.** -/
theorem Reaches.of_isClosed (s : List Char) : ∀ {p : List Char}, isClosed p →
    Reaches (p ++ s) (scan p) s := by
  intro p
  fun_induction scan p with
  | case1 => intro _; exact .here s
  | case2 c rest ih =>
    intro h
    obtain ⟨hclosed, hlast⟩ := isClosed_iff.1 h
    rw [scan_cons] at hclosed hlast
    obtain ⟨ht, hafter⟩ := List.forall_mem_cons.1 hclosed
    have hfirst := firstToken_nextToken c rest
    by_cases hne : (nextToken c rest).2 = []
    · -- The last token is a white space character, after which anything may follow.
      rw [hne] at hlast hfirst ⊢
      obtain ⟨hb, rfl⟩ := hfirst.of_isSpace (hlast _ (by simp [scan]))
      have hself : FirstToken c [] (.other c) [] := .plain (isOpener_of_isBlank hb)
      rw [nextToken_of_firstToken hself, scan]
      exact .behind (.plain (isOpener_of_isBlank hb)) (.here s)
    · refine .behind (hfirst.append s ht hafter hne) (ih (isClosed_iff.2 ⟨hafter, fun u hu => ?_⟩))
      refine hlast u ?_
      rw [List.getLast?_cons, Option.mem_def.1 hu]
      rfl

/-- **Scanning goes on where a closed text ends.** -/
theorem scan_append (s : List Char) {p : List Char} (h : isClosed p) :
    scan (p ++ s) = scan p ++ scan s := (Reaches.of_isClosed s h).scan_eq

/-! ## Closed constructs -/

def lineEnds : List (List Char) := [['\n'], ['\r'], ['\r', '\n']]

/-- **A closed construct that is no parameter**: a string, an escaped name, a block comment up to
its first end, or a line comment with the end of its line. -/
inductive OpaqueRegion : List Char → Prop
  | string {quote : Char} {body : List Char} : isQuote quote → QuotedText quote body →
    OpaqueRegion (quote :: body ++ [quote])
  | escapedName {body : List Char} : backtick ∉ body →
    OpaqueRegion (backtick :: body ++ [backtick])
  | blockComment {body : List Char} : HasNoCommentEnd body →
    OpaqueRegion ('/' :: '*' :: body ++ ['*', '/'])
  | lineComment {body lineEnd : List Char} : (∀ c ∈ body, isLineBreak c = false) →
    lineEnd ∈ lineEnds → OpaqueRegion ('/' :: '/' :: body ++ lineEnd)

theorem scan_lineComment {body : List Char} (hbody : ∀ c ∈ body, isLineBreak c = false) {b : Char}
    (hb : isLineBreak b) (rest : List Char) :
    scan ('/' :: '/' :: (body ++ b :: rest)) = .lineComment body :: .other b :: scan rest := by
  have hplain : isOpener b = false := by
    obtain rfl | rfl : b = '\n' ∨ b = '\r' := by simpa [isLineBreak] using hb
    · rfl
    · rfl
  have hline := @FirstToken.lineComment '/' _ (body ++ b :: rest) rfl rfl
  rw [List.takeWhile_append_of_pos (by simpa using hbody),
    List.dropWhile_append_of_pos (by simpa using hbody)] at hline
  simp only [hb, Bool.not_true, Bool.false_eq_true, not_false_eq_true, List.takeWhile_cons_of_neg,
    List.append_nil, List.dropWhile_cons_of_neg] at hline
  rw [scan_of_firstToken hline, scan_of_firstToken (.plain hplain)]

/-- **A closed construct makes tokens of its own, and none of them names a parameter.** -/
theorem scan_opaqueRegion {r : List Char} (h : OpaqueRegion r) (s : List Char) :
    ∃ ts, scan (r ++ s) = ts ++ scan s ∧ ∀ t ∈ ts, t.binds = none := by
  cases h with
  | @string quote body hq hbody =>
    refine ⟨[.quoted quote body], ?_, by simp [Token.binds]⟩
    exact scan_of_firstToken (.quoted hq (by simp) hbody)
  | @escapedName body hbody =>
    refine ⟨[.escapedName body], ?_, by simp [Token.binds]⟩
    exact scan_of_firstToken (.escapedName rfl (by simp) hbody)
  | @blockComment body hbody =>
    refine ⟨[.blockComment body true], ?_, by simp [Token.binds]⟩
    exact scan_of_firstToken (.blockComment rfl (by simp) hbody)
  | @lineComment body lineEnd hbody hend =>
    simp only [lineEnds, List.mem_cons, List.not_mem_nil, or_false] at hend
    obtain rfl | rfl | rfl := hend
    · refine ⟨[.lineComment body, .other '\n'], ?_, by simp [Token.binds]⟩
      simpa using scan_lineComment hbody (b := '\n') rfl s
    · refine ⟨[.lineComment body, .other '\r'], ?_, by simp [Token.binds]⟩
      simpa using scan_lineComment hbody (b := '\r') rfl s
    · refine ⟨[.lineComment body, .other '\r', .other '\n'], ?_, by simp [Token.binds]⟩
      have hnl : FirstToken '\n' s (.other '\n') s := .plain rfl
      simpa [scan_of_firstToken hnl] using scan_lineComment hbody (b := '\r') rfl ('\n' :: s)

/-! ## Parameters -/

theorem boundNames_append {p : List Char} (hp : isClosed p) (s : List Char) :
    boundNames (p ++ s) = boundNames p ++ boundNames s := by
  unfold boundNames
  rw [scan_append s hp, List.filterMap_append]

theorem boundNames_opaqueRegion {r : List Char} (h : OpaqueRegion r) (s : List Char) :
    boundNames (r ++ s) = boundNames s := by
  obtain ⟨ts, hts, hnone⟩ := scan_opaqueRegion h s
  unfold boundNames
  rw [hts, List.filterMap_append, List.filterMap_eq_nil_iff.2, List.nil_append]
  intro t ht
  rw [hnone t ht]
  rfl

/-- **The parameters of a text put together at the end of a closed text are those of both parts,
and no construct that is closed in between adds to them.** -/
theorem parameters_append (p s : String) (hp : isClosed p.toList) :
    parameters (p ++ s) = unionNames (parameters p) (parameters s) ∧
      ∀ r : String, OpaqueRegion r.toList →
        parameters (p ++ r ++ s) = unionNames (parameters p) (parameters s) := by
  unfold parameters
  refine ⟨?_, fun r hr => ?_⟩
  · rw [String.toList_append, boundNames_append hp, nameSet_append]
  · rw [String.toList_append, String.toList_append, List.append_assoc, boundNames_append hp,
      boundNames_opaqueRegion hr, nameSet_append]

/-- A text with an escaped name and a comment, and behind it a string that hides a parameter, the
start of a comment and a quote. -/
theorem parameters_append_hidden :
    isClosed "MATCH (n:\x60$a\x60) // it's $b\n SET n.x = $y, n.z = ".toList ∧
      OpaqueRegion "\x22$c /* it\\\x22s\x22".toList ∧
      parameters ("MATCH (n:\x60$a\x60) // it's $b\n SET n.x = $y, n.z = "
        ++ "\x22$c /* it\\\x22s\x22" ++ " RETURN $w") = ["w", "y"] := by
  have hp : isClosed "MATCH (n:\x60$a\x60) // it's $b\n SET n.x = $y, n.z = ".toList := by
    decide_cbv
  have hbody : quotedBody '\x22' ("$c /* it\\\x22s".toList ++ ['\x22']) =
      some ("$c /* it\\\x22s".toList, []) := by decide_cbv
  have hr : OpaqueRegion "\x22$c /* it\\\x22s\x22".toList := by
    simpa using OpaqueRegion.string rfl ((quotedBody_eq_some (by decide)).1 hbody).2
  refine ⟨hp, hr, ((parameters_append _ " RETURN $w" hp).2 _ hr).trans ?_⟩
  cbv

end GraphRepo.Cypher

import Mathlib
import GraphRepo.Proofs.Cypher.Grammar
import GraphRepo.Proofs.Repository.BindingKey

/-!
# Scanning the text of a query

Whatever the text of a query is, it is scanned to its end: the tokens are the whole text, and each
is what the grammar takes where it stands. So there is no query whose text is refused, and what is
reported of the parameters of a method is about their keys. A name is reported exactly if it stands
behind `$` at a place between two tokens.
-/

namespace GraphRepo

namespace Cypher

/-! ## The tokens of a text -/

theorem Token.text_ne_nil (t : Token) : t.text ≠ [] := by
  cases t <;> exact List.cons_ne_nil _ _

theorem flatMap_text_scan (text : List Char) : (scan text).flatMap Token.text = text := by
  fun_induction scan text with
  | case1 => rfl
  | case2 c rest ih =>
    rw [List.flatMap_cons, ih]
    exact (firstToken_nextToken c rest).text_append

theorem Reaches.text_eq {text place : List Char} {ts : List Token} (h : Reaches text ts place) :
    text = ts.flatMap Token.text ++ place := by
  induction h with
  | here place => rfl
  | behind hfirst _ ih =>
    rw [List.flatMap_cons, List.append_assoc, ← ih]
    exact hfirst.text_append.symm

/-- Between any two tokens is a place from which the later ones are scanned. -/
theorem reaches_of_scan {behind : List Token} : ∀ {before : List Token} {text : List Char},
    scan text = before ++ behind →
      Reaches text before (behind.flatMap Token.text) ∧ scan (behind.flatMap Token.text) = behind
  | [], text, h => by
    rw [List.nil_append] at h
    rw [← h, flatMap_text_scan]
    exact ⟨.here text, rfl⟩
  | t :: before, [], h => by
    rw [scan] at h
    cases h
  | t :: before, c :: rest, h => by
    rw [scan_cons, List.cons_append] at h
    obtain ⟨ht, hbefore⟩ := List.cons.inj h
    obtain ⟨hreaches, hscan⟩ := reaches_of_scan hbefore
    have hfirst := firstToken_nextToken c rest
    rw [ht] at hfirst
    exact ⟨.behind hfirst hreaches, hscan⟩

theorem firstToken_of_scan {c : Char} {rest : List Char} {t : Token} {behind : List Token}
    (h : scan (c :: rest) = t :: behind) : ∃ after, FirstToken c rest t after := by
  rw [scan_cons] at h
  exact ⟨(nextToken c rest).2, (List.cons.inj h).1 ▸ firstToken_nextToken c rest⟩

/-- **Each token is what the grammar takes where it stands**, and reports the name that it binds. -/
theorem token_answers_of_scan {text : List Char} {before behind : List Token} {t : Token}
    (h : scan text = before ++ t :: behind) :
    Peg.token.Answers (t.text ++ behind.flatMap Token.text)
      (some (t.binds.toList, behind.flatMap Token.text)) := by
  obtain ⟨-, hscan⟩ := reaches_of_scan h
  rw [List.flatMap_cons] at hscan
  obtain ⟨c, cs, htext⟩ := List.exists_cons_of_ne_nil t.text_ne_nil
  rw [htext, List.cons_append] at hscan ⊢
  obtain ⟨after, hfirst⟩ := firstToken_of_scan hscan
  have hafter : after = behind.flatMap Token.text := by
    have hsame := hfirst.text_append
    rw [htext, List.cons_append] at hsame
    exact List.append_cancel_left (List.cons.inj hsame).2
  rw [← hafter] at hfirst ⊢
  exact Peg.token_of_firstToken hfirst

/-! ## Names -/

/-- **A name that is written at a place of a text**: behind `$` all the characters that a name may
have without backticks, or behind `$` and a backtick all those before the next backtick. -/
inductive NamedAt (name : List Char) : List Char → Prop
  | plain {rest : List Char} : name = rest.takeWhile isNameChar → name ≠ [] →
    NamedAt name ('$' :: rest)
  | inBackticks {after : List Char} : name ≠ [] → backtick ∉ name →
    NamedAt name ('$' :: backtick :: (name ++ backtick :: after))

theorem NamedAt.ne_nil {name place : List Char} (h : NamedAt name place) : name ≠ [] := by
  cases h with
  | plain _ hne => exact hne
  | inBackticks hne _ => exact hne

/-- The first token of a text binds a name exactly if that is written there. -/
theorem FirstToken.binds_eq_some {c : Char} {rest : List Char} {t : Token} {after name : List Char}
    (h : FirstToken c rest t after) : t.binds = some name ↔ NamedAt name (c :: rest) := by
  constructor
  · intro hbinds
    cases h with
    | parameter hc hname =>
      cases hbinds
      exact hc ▸ .plain rfl hname
    | escapedParameter hc hr hne hn =>
      cases hbinds
      rw [hc, hr]
      exact .inBackticks hne hn
    | _ => cases hbinds
  · intro hnamed
    have hnext := nextToken_of_firstToken h
    cases hnamed with
    | plain hname hne =>
      have hsame := hnext.symm.trans (nextToken_of_firstToken (.parameter rfl (hname ▸ hne)))
      rw [(Prod.mk.inj hsame).1, hname]
      rfl
    | inBackticks hne hn =>
      have hsame := hnext.symm.trans (nextToken_of_firstToken (.escapedParameter rfl rfl hne hn))
      rw [(Prod.mk.inj hsame).1]
      rfl

/-- **A name is reported exactly if it is written at a place between two tokens.** -/
theorem mem_parameters_iff {query name : String} : name ∈ parameters query ↔
    ∃ ts place, Reaches query.toList ts place ∧ NamedAt name.toList place := by
  rw [mem_parameters, List.mem_filterMap]
  constructor
  · rintro ⟨t, ht, hbinds⟩
    obtain ⟨before, behind, hsplit⟩ := List.append_of_mem ht
    obtain ⟨hreaches, hscan⟩ := reaches_of_scan hsplit
    refine ⟨before, _, hreaches, ?_⟩
    cases hplace : (t :: behind).flatMap Token.text with
    | nil =>
      rw [hplace, scan] at hscan
      cases hscan
    | cons c rest =>
      rw [hplace] at hscan
      obtain ⟨after, hfirst⟩ := firstToken_of_scan hscan
      exact hfirst.binds_eq_some.1 hbinds
  · rintro ⟨ts, place, hreaches, hnamed⟩
    obtain ⟨c, rest, rfl⟩ : ∃ c rest, place = c :: rest := by
      cases hnamed <;> exact ⟨_, _, rfl⟩
    rw [hreaches.scan_eq, scan_cons]
    refine ⟨(nextToken c rest).1, by simp, ?_⟩
    exact (firstToken_nextToken c rest).binds_eq_some.2 hnamed

end Cypher

/-! ## What is reported of a query -/

open Cypher

def keyDiagnostics (interface : String) (m : MethodDeclaration) (bound : List String) :
    List Diagnostic :=
  (bindingFaults bound [] m.parameters).map fun (key, fault) =>
    .danglingKey interface m.name key fault.message

/-- The diagnostics for the parameters of a method by what a grammar answers on its query. A text
that is refused is a defect of the signature, and names nothing. -/
def diagnosticsBy (interface : String) (m : MethodDeclaration) (refusal : String) :
    Peg.Answer → List Diagnostic
  | some (names, _) => keyDiagnostics interface m (nameSet (names.map String.ofList))
  | none => .invalidSignature interface m.name refusal :: keyDiagnostics interface m []

theorem boundNames_eq_map (text : List Char) :
    boundNames text = ((scan text).filterMap Token.binds).map String.ofList :=
  List.map_filterMap.symm

/-- **The text of a query is scanned to its end, whatever it is.** The grammar takes it, and has no
other answer; what it reports are the parameters. The tokens make up the text, and each is one step
of the grammar that takes something. The diagnostics by the grammar are those of the generator, and
all are about keys. The parameters are the names that are written between two tokens. -/
theorem query_scanned (query : String) :
    (∃ names, (∀ r, Peg.query.Answers query.toList r ↔ r = some (names, [])) ∧
      parameters query = nameSet (names.map String.ofList)) ∧
    (scan query.toList).flatMap Token.text = query.toList ∧
    (∀ before t behind, scan query.toList = before ++ t :: behind → t.text ≠ [] ∧
      Peg.token.Answers (t.text ++ behind.flatMap Token.text)
        (some (t.binds.toList, behind.flatMap Token.text))) ∧
    (∀ interface m refusal r, Peg.query.Answers query.toList r →
      diagnosticsBy interface m refusal r = validateBindings interface m query ∧
      ∀ d ∈ diagnosticsBy interface m refusal r,
        ∃ key fault, d = .danglingKey interface m.name key (KeyFault.message fault)) ∧
    ∀ name, name ∈ parameters query ↔ name ≠ "" ∧ ∃ before place,
      query.toList = before.flatMap Token.text ++ place ∧ Reaches query.toList before place ∧
        NamedAt name.toList place := by
  have hparameters : parameters query =
      nameSet (((scan query.toList).filterMap Token.binds).map String.ofList) := by
    rw [parameters, boundNames_eq_map]
  refine ⟨⟨_, fun r => Peg.query_answers, hparameters⟩, flatMap_text_scan _, ?_, ?_, ?_⟩
  · exact fun before t behind h => ⟨t.text_ne_nil, token_answers_of_scan h⟩
  · intro interface m refusal r h
    obtain rfl := Peg.query_answers.1 h
    have hsame : diagnosticsBy interface m refusal
        (some ((scan query.toList).filterMap Token.binds, [])) =
          validateBindings interface m query := by
      rw [diagnosticsBy, ← hparameters]
      rfl
    refine ⟨hsame, fun d hd => ?_⟩
    obtain ⟨⟨key, fault⟩, -, rfl⟩ := List.mem_map.1 hd
    exact ⟨key, fault, rfl⟩
  · intro name
    rw [mem_parameters_iff]
    constructor
    · rintro ⟨before, place, hreaches, hnamed⟩
      refine ⟨fun hempty => hnamed.ne_nil ?_, before, place, hreaches.text_eq, hreaches, hnamed⟩
      rw [hempty]
      rfl
    · rintro ⟨-, before, place, -, hreaches, hnamed⟩
      exact ⟨before, place, hreaches, hnamed⟩

/-- A string and a name that are not closed hide nothing, a comment that is not closed does. The
backslash at the end is a token. -/
theorem query_scanned_open :
    let query := "RETURN $a_1é, $\x60b c\x60, 'it $\x60d /* $e \\"
    parameters query = ["a_1", "b c"] ∧
      (∃ before place, Reaches query.toList before place ∧ NamedAt "b c".toList place) ∧
      ∃ r, Peg.query.Answers query.toList r ∧
        diagnosticsBy "Users" (greetBy "d") "refused" r =
          [.danglingKey "Users" "greet" "d" KeyFault.unknown.message] := by
  intro query
  have hread : parameters query = ["a_1", "b c"] := by decide_cbv
  have hreport : validateBindings "Users" (greetBy "d") query =
      [.danglingKey "Users" "greet" "d" KeyFault.unknown.message] := by decide_cbv
  obtain ⟨⟨names, hall, -⟩, -, -, hdiagnostics, hnames⟩ := query_scanned query
  have hmem : "b c" ∈ parameters query := hread ▸ by simp
  obtain ⟨-, before, place, -, hreaches, hnamed⟩ := (hnames "b c").1 hmem
  have hanswer := (hall (some (names, []))).2 rfl
  exact ⟨hread, ⟨before, place, hreaches, hnamed⟩, _, hanswer,
    (hdiagnostics "Users" (greetBy "d") "refused" _ hanswer).1.trans hreport⟩

end GraphRepo

import Mathlib
import GraphRepo.Proofs.Repository.Expansion
import GraphRepo.Proofs.Repository.FileMode
import GraphRepo.Proofs.Repository.SpelledUnit
import GraphRepo.Proofs.Source.Reads.Statements

/-!
# Units as files

A rendered unit is a comment that names the trait and the tokens of the unit behind it. The comment
ends with its line, so the tokens are what the file is read as, unless the module of the trait has a
line feed in its text: then the rest of the comment is read too.
-/

namespace GraphRepo

open Source

/-! ## Comments of one line -/

theorem lineEnd_append {line after : List Char} (h : '\n' ∉ line) :
    (lineEnd (line ++ '\n' :: after)).2 = '\n' :: after := by
  induction line with
  | nil => rfl
  | cons c line ih =>
    obtain ⟨hc, hline⟩ := List.ne_and_not_mem_of_not_mem_cons h
    rw [List.cons_append, lineEnd.eq_def]
    split
    · next heq => cases heq
    · next heq => exact absurd (List.cons.inj heq).1.symm hc
    · next heq =>
      -- A carriage return before the line feed can only be the last character of the line.
      obtain ⟨-, hrest⟩ := List.cons.inj heq
      cases line with
      | nil => exact hrest.symm
      | cons d line => exact absurd (List.cons.inj hrest).1.symm (List.ne_of_not_mem_cons hline)
    · next heq =>
      obtain ⟨rfl, rfl⟩ := List.cons.inj heq
      exact ih hline

theorem lexes_lineFeed (rest : List Char) : Lexes ('\n' :: rest) [] rest := by
  have hcut : cut ('\n' :: rest) = some ([], rest) := rfl
  have hstep := Lexes.step hcut (Nat.lt_succ_self _) (.stop rest)
  rwa [List.append_nil] at hstep

/-- A line behind `// ` is no part of the tokens. -/
theorem lexes_comment {line : List Char} (h : '\n' ∉ line) (after : List Char) :
    Lexes ('/' :: '/' :: ' ' :: (line ++ '\n' :: after)) [] ('\n' :: after) := by
  have hspace : '\n' ∉ ' ' :: line := List.not_mem_cons_of_ne_of_not_mem (by decide) h
  have hcut : cut ('/' :: '/' :: ' ' :: (line ++ '\n' :: after)) = some ([], '\n' :: after) := by
    have hend : cut ('/' :: '/' :: ' ' :: (line ++ '\n' :: after)) =
        some ([], (lineEnd ((' ' :: line) ++ '\n' :: after)).2) := rfl
    rw [hend, lineEnd_append hspace]
  have hlength : ('\n' :: after).length < ('/' :: '/' :: ' ' :: (line ++ '\n' :: after)).length := by
    simp only [List.length_cons, List.length_append]
    omega
  have hstep := Lexes.step hcut hlength (.stop _)
  rwa [List.append_nil] at hstep

/-! ## The file of a unit -/

namespace GeneratedUnit

variable {u : GeneratedUnit}

def header (u : GeneratedUnit) : String :=
  "// @generated by neorepo from `" ++ u.interface ++ "`. Do not edit."

theorem render_eq (u : GeneratedUnit) : u.render = u.header ++ "\n" ++ u.tokens.text ++ "\n" := by
  have hend : "`. Do not edit.\n" = "`. Do not edit." ++ "\n" := by simp
  unfold render header
  rw [hend]
  simp only [String.append_assoc]

theorem toList_render (u : GeneratedUnit) :
    u.render.toList = u.header.toList ++ '\n' :: (Tokens.chars u.tokens ++ ['\n']) := by
  have hfeed : "\n".toList = ['\n'] := rfl
  rw [render_eq, String.toList_append, String.toList_append, String.toList_append, hfeed,
    Tokens.text, String.toList_ofList]
  simp only [List.append_assoc, List.cons_append, List.nil_append]

theorem mem_header : '\n' ∈ u.header.toList ↔ '\n' ∈ u.interface.toList := by
  have hstart : '\n' ∉ "// @generated by neorepo from `".toList := by simp
  have hend : '\n' ∉ "`. Do not edit.".toList := by simp
  unfold header
  rw [String.toList_append, String.toList_append, List.mem_append, List.mem_append]
  exact ⟨fun h => (h.resolve_right hend).resolve_left hstart, fun h => .inl (.inr h)⟩

theorem header_starts (u : GeneratedUnit) :
    ∃ line, u.header.toList = '/' :: '/' :: ' ' :: line := by
  have hstart : "// @generated by neorepo from `".toList =
      '/' :: '/' :: ' ' :: "@generated by neorepo from `".toList := by cbv
  unfold header
  rw [String.toList_append, String.toList_append, hstart]
  exact ⟨_, rfl⟩

/-- **A unit whose name has no line feed is read back from its file.** -/
theorem tokenize_render (hspelled : Spelled u.tokens) (hline : '\n' ∉ u.header.toList) :
    ∃ ts, tokenize u.render = some ts ∧ Tokens.unspaced ts = Tokens.unspaced u.tokens := by
  obtain ⟨line, hheader⟩ := u.header_starts
  have hbare : '\n' ∉ line := by
    intro hmem
    rw [hheader] at hline
    exact hline (by simp [hmem])
  have hstops : Stops ['\n'] := by simp [Stops]
  obtain ⟨ts, hplain, hlexes⟩ := hspelled.lexes fun _ => hstops
  have hend : Lexes ['\n'] [] [] := lexes_lineFeed []
  have hall := (lexes_comment hbare _).trans ((lexes_lineFeed _).trans (hlexes.trans hend))
  rw [List.nil_append, List.nil_append, List.append_nil] at hall
  refine ⟨ts, tokenize_of_lexes ?_, hplain⟩
  rw [toList_render, hheader]
  exact hall

end GeneratedUnit

/-! ## Generated files -/

theorem not_lineFeed_of_standsAlone {name : String} (h : (TokenTree.ident name).StandsAlone) :
    '\n' ∉ name.toList := by
  obtain ⟨hword, hname⟩ := plainName_of_standsAlone h
  have hplain : '\n' ∉ (Declaration.plainName name).toList := fun hmem =>
    absurd (isIdentContinue_of_word hword '\n' hmem) (by decide)
  rcases hname with hname | hname
  · rwa [hname] at hplain
  · rw [hname, toList_raw]
    simpa using hplain

theorem mem_interface {g : Generator} {t : Trait} {modulePath : Option String}
    {unit : GeneratedUnit} (h : g.generate (.trait t) modulePath = .ok unit) (ht : t.IsSpelled) :
    '\n' ∈ unit.interface.toList ↔
      ∃ m ∈ modulePath.orElse fun _ => g.moduleName, '\n' ∈ m.toList := by
  obtain ⟨_, p, hitem, hplan, rfl⟩ := Generator.generate_eq_ok.1 h
  obtain rfl := Item.trait.inj hitem
  obtain ⟨hread, -, -⟩ := planOf_eq_ok.1 hplan
  obtain ⟨-, entity, id, found, -, -, hd⟩ := readTrait_eq_ok hread
  have hname : '\n' ∉ p.declaration.name.toList := by
    rw [hd]
    exact not_lineFeed_of_standsAlone (spelled_ident_cons.1 ht.name).1
  have hcolons : '\n' ∉ "::".toList := by simp
  unfold Plan.unit Declaration.qualifiedName qualified
  cases modulePath.orElse fun _ => g.moduleName with
  | none => simpa using hname
  | some m =>
    dsimp only
    rw [String.toList_append, String.toList_append, List.mem_append, List.mem_append]
    constructor
    · exact fun hmem => ⟨m, rfl, (hmem.resolve_right hname).resolve_right hcolons⟩
    · rintro ⟨_, hm, hmem⟩
      obtain rfl := Option.some.inj hm
      exact .inl (.inl hmem)

theorem spelled_of_generate {g : Generator} {t : Trait} {modulePath : Option String}
    {unit : GeneratedUnit} (h : g.generate (.trait t) modulePath = .ok unit) (ht : t.IsSpelled)
    (hg : g.runtime.IsSpelled) : Spelled unit.tokens := by
  obtain ⟨_, p, hitem, hplan, rfl⟩ := Generator.generate_eq_ok.1 h
  obtain rfl := Item.trait.inj hitem
  exact spelled_of_planOf hplan ht hg.tokens

theorem tokenize_render_of_generate {g : Generator} {t : Trait} {modulePath : Option String}
    {unit : GeneratedUnit} (h : g.generate (.trait t) modulePath = .ok unit) (ht : t.IsSpelled)
    (hg : g.runtime.IsSpelled)
    (hmodule : ∀ m ∈ modulePath.orElse fun _ => g.moduleName, '\n' ∉ m.toList) :
    ∃ ts, tokenize unit.render = some ts ∧ Tokens.unspaced ts = Tokens.unspaced unit.tokens := by
  refine GeneratedUnit.tokenize_render (spelled_of_generate h ht hg) fun hmem => ?_
  obtain ⟨m, hm, hfeed⟩ := (mem_interface h ht).1 (GeneratedUnit.mem_header.1 hmem)
  exact hmodule m hm hfeed

/-- **A rendered unit is a comment of one line and its tokens**, if its module has no line feed. -/
theorem render_readBack {g : Generator} {t : Trait} {modulePath : Option String}
    {unit : GeneratedUnit} (h : g.generate (.trait t) modulePath = .ok unit) (ht : t.IsSpelled)
    (hg : g.runtime.IsSpelled) :
    unit.render = unit.header ++ "\n" ++ unit.tokens.text ++ "\n" ∧
    (∃ line, unit.header.toList = '/' :: '/' :: ' ' :: line) ∧
    ('\n' ∈ unit.header.toList ↔
      ∃ m ∈ modulePath.orElse fun _ => g.moduleName, '\n' ∈ m.toList) ∧
    ((∀ m ∈ modulePath.orElse fun _ => g.moduleName, '\n' ∉ m.toList) →
      ∃ ts, tokenize unit.render = some ts ∧ Tokens.unspaced ts = Tokens.unspaced unit.tokens) := by
  exact ⟨unit.render_eq, unit.header_starts, GeneratedUnit.mem_header.trans (mem_interface h ht),
    tokenize_render_of_generate h ht hg⟩

/-- The file of the bare trait `R` in `crate::users` is read back as its unit. -/
theorem render_readBack_users :
    ∃ unit, defaultGenerator.generate (.trait (bareTrait "R" [])) (some "crate::users") = .ok unit ∧
      ∃ ts, tokenize unit.render = some ts ∧
        Tokens.unspaced ts = Tokens.unspaced unit.tokens := by
  have hunit := Generator.generate_bareTrait (g := defaultGenerator) [] identifier_snake_r
    (some "crate::users")
  have hitem : readItem? "trait R: NeoRepository<User, String> \x7b\x7d" =
      some (.trait (bareTrait "R" [])) := by
    set_option maxRecDepth 10000 in cbv
  have htrait := isSpelled_of_readItem? hitem
  have hruntime : defaultGenerator.runtime.IsSpelled :=
    isSpelled_of_readPath? readPath_defaultRuntime
  rw [Item.IsSpelled] at htrait
  refine ⟨_, hunit, (render_readBack hunit htrait hruntime).2.2.2 ?_⟩
  intro m hm
  obtain rfl := Option.some.inj hm
  decide +kernel

/-! ## Source that is read -/

theorem isSpelled_of_ofText {runtime : String} {moduleName : Option String} {g : Generator}
    (h : Generator.ofText runtime moduleName = .ok g) : g.runtime.IsSpelled := by
  unfold Generator.ofText at h
  split at h
  · next path hpath =>
    cases h
    exact isSpelled_of_readPath? hpath
  · cases h

mutual

theorem isSpelled_of_mem_traits {t : Trait} : ∀ {item : Item}, item.IsSpelled → t ∈ item.traits →
    t.IsSpelled
  | .trait u, h, hmem => by
    rw [Item.IsSpelled] at h
    rw [Item.traits, List.mem_singleton] at hmem
    exact hmem ▸ h
  | .module header name inner items, h, hmem => by
    rw [Item.IsSpelled] at h
    rw [Item.traits] at hmem
    exact isSpelled_of_mem_traitsOfAll h.2.2.2 hmem
  | .named _ _, _, hmem => by cases hmem
  | .implementation _, _, hmem => by cases hmem
  | .other _, _, hmem => by cases hmem

theorem isSpelled_of_mem_traitsOfAll {t : Trait} : ∀ {items : List Item}, Item.AllSpelled items →
    t ∈ Item.traitsOfAll items → t.IsSpelled
  | [], _, hmem => by cases hmem
  | item :: rest, h, hmem => by
    rw [Item.AllSpelled] at h
    rw [Item.traitsOfAll, List.mem_append] at hmem
    rcases hmem with hitem | hrest
    · exact isSpelled_of_mem_traits h.1 hitem
    · exact isSpelled_of_mem_traitsOfAll h.2 hrest

end

/-- **What is generated from a file is read back.** The traits of the file, those inside modules
included, can be written, and so can the runtime's path. -/
theorem tokenize_render_of_readItems {text runtime : String} {moduleName modulePath : Option String}
    {g : Generator} {items : List Item} {t : Trait} {unit : GeneratedUnit}
    (hg : Generator.ofText runtime moduleName = .ok g) (hitems : readItems? text = some items)
    (hmem : t ∈ Item.traitsOfAll items) (h : g.generate (.trait t) modulePath = .ok unit)
    (hmodule : ∀ m ∈ modulePath.orElse fun _ => g.moduleName, '\n' ∉ m.toList) :
    ∃ ts, tokenize unit.render = some ts ∧ Tokens.unspaced ts = Tokens.unspaced unit.tokens := by
  have hspelled := Item.allSpelled_iff.2 (isSpelled_of_readItems? hitems)
  exact tokenize_render_of_generate h (isSpelled_of_mem_traitsOfAll hspelled hmem)
    (isSpelled_of_ofText hg) hmodule

/-! ## A line feed in the comment -/

/-- The lexer stops at the backtick behind the name of a trait. -/
theorem lexes_name (rest : List Char) :
    ∃ ls, Lexes ('b' :: ':' :: ':' :: 'R' :: '`' :: rest) ls ('`' :: rest) := by
  have hmodule : cut ('b' :: ':' :: ':' :: 'R' :: '`' :: rest) =
    some ([.tree (.ident (textBefore _ _))], ':' :: ':' :: 'R' :: '`' :: rest) := rfl
  have hfirst : cut (':' :: ':' :: 'R' :: '`' :: rest) =
    some ([.tree (.punct ':' .joint)], ':' :: 'R' :: '`' :: rest) := rfl
  have hsecond : cut (':' :: 'R' :: '`' :: rest) =
    some ([.tree (.punct ':' .alone)], 'R' :: '`' :: rest) := rfl
  have hname : cut ('R' :: '`' :: rest) =
    some ([.tree (.ident (textBefore _ _))], '`' :: rest) := rfl
  exact ⟨_, .step hmodule (Nat.lt_succ_self _) (.step hfirst (Nat.lt_succ_self _)
    (.step hsecond (Nat.lt_succ_self _) (.step hname (Nat.lt_succ_self _) (.stop _))))⟩

/-- With a line feed in the module path the rest of the comment is read as source. -/
theorem render_readBack_lineFeed :
    ∃ unit, defaultGenerator.generate (.trait (bareTrait "R" [])) (some "a\nb") = .ok unit ∧
      tokenize unit.render = none := by
  refine ⟨_, Generator.generate_bareTrait [] identifier_snake_r _, ?_⟩
  have hbare : '\n' ∉ "@generated by neorepo from `a".toList := by simp
  have hheader : ("// @generated by neorepo from `" ++ "a\nb::R" ++ "`. Do not edit.").toList =
      '/' :: '/' :: ' ' :: ("@generated by neorepo from `a".toList ++
        '\n' :: 'b' :: ':' :: ':' :: 'R' :: '`' :: ". Do not edit.".toList) := by cbv
  have hnone {u : GeneratedUnit} (hu : u.interface = "a\nb::R") : tokenize u.render = none := by
    have hlist : u.header.toList = ("// @generated by neorepo from `" ++ "a\nb::R" ++
        "`. Do not edit.").toList := by
      unfold GeneratedUnit.header
      rw [hu]
    let rest := ". Do not edit.".toList ++ '\n' :: (Tokens.chars u.tokens ++ ['\n'])
    obtain ⟨ls, hname⟩ := lexes_name rest
    have hall := (lexes_comment hbare _).trans ((lexes_lineFeed _).trans hname)
    have hlexes : Lexes (dropMark u.render.toList) ls ('`' :: rest) := by
      rw [GeneratedUnit.toList_render, hlist, hheader]
      simpa [rest, dropMark] using hall
    exact tokenize_eq_none hlexes (List.cons_ne_nil _ _) rfl
  exact hnone rfl

end GraphRepo

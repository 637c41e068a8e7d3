import Mathlib
import GraphRepo.Proofs.Repository.Emitted
import GraphRepo.Proofs.Repository.Passes

/-!
# The two ways to an implementation

A trait is expanded where it stands, with the runtime crate that its attribute names, or it is found
in a file and generated with the runtime crate that the generator is set to. What is generated is the
same up to that path, and the path can be read off it.
-/

namespace GraphRepo

open Source

/-! ## The runtime crate in an implementation -/

namespace Assembly

def beforeRuntime (a : Assembly) : Tokens :=
  doc (" Generated implementation of [`" ++ a.declaration.name ++ "`].") ++ allowUnused
    ++ word "pub" ++ parens (word "crate") ++ word "struct" ++ a.implType ++ op "<" ++ word "S"
    ++ op ":"

theorem exists_tokens_eq (a : Assembly) :
    ∃ rest, a.tokens = a.beforeRuntime ++ (a.runtime ++ rest) := by
  unfold tokens implStruct sessionParameter inRuntime beforeRuntime
  simp only [List.append_assoc]
  exact ⟨_, rfl⟩

/-- Outside of all brackets the path of the runtime crate stands six times. -/
theorem length_tokens (a : Assembly) :
    a.tokens.length = 6 * a.runtime.length +
      (Assembly.mk [] a.declaration a.factory []).tokens.length := by
  unfold tokens implStruct constructor delegation implementation factoryFunction impl base
    asyncTrait sessionParameter inRuntime attributeTokens braces parens brackets
  -- A bracket is one token, whatever is in it: the methods count for nothing here.
  simp only [List.length_append, List.length_cons, List.length_nil, Option.map_some,
    Option.map_none, Option.getD_some, Option.getD_none, implTypeOfSession, implType]
  omega

/-- **The path of the runtime crate can be read off an implementation.** -/
theorem runtime_eq_of_tokens_eq {d : Declaration} {factory : String} {runtime runtime' : Tokens}
    {methods methods' : List Tokens}
    (h : (Assembly.mk runtime d factory methods).tokens =
      (Assembly.mk runtime' d factory methods').tokens) : runtime = runtime' := by
  have hlength := length_tokens (Assembly.mk runtime d factory methods)
  have hlength' := length_tokens (Assembly.mk runtime' d factory methods')
  rw [h, hlength'] at hlength
  dsimp only at hlength
  obtain ⟨rest, hrest⟩ := exists_tokens_eq (Assembly.mk runtime d factory methods)
  obtain ⟨rest', hrest'⟩ := exists_tokens_eq (Assembly.mk runtime' d factory methods')
  have htokens : runtime ++ rest = runtime' ++ rest' :=
    List.append_cancel_left (hrest.symm.trans (h.trans hrest'))
  have hsame : runtime.length = runtime'.length := by omega
  exact (List.append_inj htokens hsame).1

end Assembly

theorem Plan.tokens_inj {p : Plan} {runtime runtime' : Tokens} :
    (p.assembly runtime).tokens = (p.assembly runtime').tokens ↔ runtime = runtime' := by
  constructor
  · exact Assembly.runtime_eq_of_tokens_eq
  · rintro rfl
    rfl

/-! ## Expansions -/

/-- In place a trait stays, with its implementation or its diagnostics behind it. -/
theorem Generator.expandItem_trait {g : Generator} {t : Trait} {behind : Tokens}
    (h : (∃ p, planOf t = .ok p ∧ behind = (p.assembly g.runtime.tokens).tokens) ∨
      ∃ faults, planOf t = .error (.diagnostics faults) ∧ behind = compileErrors faults) :
    g.expandItem (.trait t) false =
      (cleanTrait t g.runtime).map fun kept => kept.tokens ++ behind := by
  have hcleaned : g.cleaned (.trait t) = (cleanTrait t g.runtime).map Trait.tokens := rfl
  rw [expandItem, hcleaned, generate_trait]
  cases cleanTrait t g.runtime with
  | error a => rfl
  | ok kept =>
    rcases h with ⟨p, hplan, rfl⟩ | ⟨faults, hplan, rfl⟩
    · rw [hplan]
      rfl
    · rw [hplan]
      rfl

theorem expand_eq {arguments ts : Tokens} {args : Arguments} {item : Item} {path : Path}
    (harguments : Arguments.ofTokens arguments = .ok args) (hitem : itemOfTokens? ts = some item)
    (hpath : readPath? (args.runtime.getD defaultRuntime) = some path) :
    expand arguments ts =
      ((⟨path, none⟩ : Generator).expandItem item args.external).map .tokens := by
  unfold expand Generator.ofText
  rw [harguments]
  dsimp only
  rw [hitem, hpath]

/-! ## Both ways -/

/-- **A unit from a file is the implementation in place exactly if both name the same runtime
crate.** A trait whose attribute says `external` and names a path is found in its file, and the pass
reports its unit or its diagnostics. In place, with that path and without `external`, the same
diagnostics stand behind the trait, or an implementation that differs from the unit unless the path
is that of the generator: in a file the path of the attribute is not looked at. -/
theorem unit_eq_expansion_iff {marked : Trait} {before after : List Attribute} {mark : Attribute}
    {p : String} {path : Path} {arguments ts : Tokens} {g : Generator}
    {modulePath : Option String} {items : List Item} {report : Report}
    (hattributes : marked.attributes = before ++ mark :: after)
    (hmark : isRepositoryAttribute mark)
    (hexternal : Arguments.ofAttribute mark = .ok ⟨some p, true⟩)
    (harguments : Arguments.ofTokens arguments = .ok ⟨some p, false⟩)
    (hitem : itemOfTokens? ts = some (.trait { marked with attributes := before ++ after }))
    (hpath : readPath? p = some path) (hmem : marked ∈ Item.traitsOfAll items)
    (hrun : g.run (collectItems modulePath items) = .ok report) :
    ∃ d ∈ collectItems modulePath items, d.item = .trait marked ∧ d.external ∧
      let stays := cleanTrait { marked with attributes := before ++ after } path
      ((∃ unit ∈ report.units, g.generate d.item d.modulePath = .ok unit ∧
          ∃ made, (⟨path, none⟩ : Generator).generate
              (.trait { marked with attributes := before ++ after }) none = .ok made ∧
            expand arguments ts = stays.map (fun kept => .tokens (kept.tokens ++ made.tokens)) ∧
            (unit.tokens = made.tokens ↔ path.tokens = g.runtime.tokens)) ∨
        ∃ failure ∈ report.failures, failure.interface = interfaceName d.item d.modulePath ∧
          expand arguments ts =
            stays.map fun kept => .tokens (kept.tokens ++ compileErrors failure.diagnostics)) := by
  have hin : mark ∈ marked.attributes := by
    rw [hattributes]
    exact List.mem_append_right _ List.mem_cons_self
  have hsays : saysExternal mark := by
    rw [saysExternal, hexternal]
  have hmarked : marked.isMarked := List.any_eq_true.2 ⟨mark, hin, hmark⟩
  have hfromFile : marked.isExternal :=
    List.any_eq_true.2 ⟨mark, List.mem_filter.2 ⟨hin, hmark⟩, hsays⟩
  obtain ⟨d, hd, hditem, hdexternal⟩ := mem_collectItems.2 ⟨hmem, hmarked, hfromFile⟩
  refine ⟨d, hd, hditem, hdexternal, ?_⟩
  obtain ⟨hnoAbort, rfl⟩ := Generator.run_eq_ok.1 hrun
  -- Both ways have the one plan: it has nothing of the attributes.
  let t : Trait := { marked with attributes := before ++ after }
  have hsame : planOf t = planOf marked := planOf_attributes marked (before ++ after)
  have hgenerate := g.generate_trait marked d.modulePath
  have hexpand := expand_eq harguments hitem hpath
  cases hplan : planOf marked with
  | ok plan =>
    rw [hplan] at hsame hgenerate
    let unit := plan.unit g.runtime.tokens (d.modulePath.orElse fun _ => g.moduleName)
    have hreported : g.unit? d = some unit := by
      rw [Generator.unit?, hditem, hgenerate]
      rfl
    have hmade := Generator.generate_trait ⟨path, none⟩ t none
    rw [hsame] at hmade
    refine .inl ⟨unit, List.mem_filterMap.2 ⟨d, hd, hreported⟩, ?_, _, hmade, ?_, ?_⟩
    · rw [hditem, hgenerate]
      rfl
    · rw [hexpand, Generator.expandItem_trait (.inl ⟨plan, hsame, rfl⟩)]
      cases cleanTrait t path <;> rfl
    · exact Plan.tokens_inj.trans eq_comm
  | error fault =>
    rw [hplan] at hsame hgenerate
    cases fault with
    | abort a =>
      have habort := hnoAbort d hd a
      rw [hditem, hgenerate] at habort
      exact absurd rfl habort
    | diagnostics faults =>
      have hreported : g.failure? d = some ⟨interfaceName d.item d.modulePath, faults⟩ := by
        rw [Generator.failure?, hditem, hgenerate]
        rfl
      refine .inr ⟨_, List.mem_filterMap.2 ⟨d, hd, hreported⟩, rfl, ?_⟩
      rw [hexpand, Generator.expandItem_trait (.inr ⟨faults, hsame, rfl⟩)]
      cases cleanTrait t path <;> rfl

/-- `crate = "…"`. -/
def crateArgument (path : String) : Tokens :=
  word "crate" ++ op "=" ++ [.literal ("\x22" ++ path ++ "\x22")]

/-- The trait of `greet` with `#[repository(external, crate = "…")]`. -/
def markedTrait (path : String) : Trait :=
  { greetTrait with
    attributes := [⟨false, ⟨false, ["repository"]⟩,
      .list .paren (word "external" ++ op "," ++ crateArgument path)⟩] }

/-- A pass over a file with only this trait reports its unit. -/
theorem run_markedTrait (g : Generator) (path : String) :
    ∃ p, planOf greetTrait = .ok p ∧
      g.run (collectItems none [.trait (markedTrait path)]) =
        .ok ⟨[p.unit g.runtime.tokens g.moduleName], []⟩ := by
  have hplan : planOf (markedTrait path) = planOf greetTrait := planOf_attributes greetTrait _
  have hcollect := @collectItems_trait (markedTrait path) (by rfl) none
  refine ⟨_, planOf_greet, ?_⟩
  rw [hcollect, Generator.run, Generator.generate_trait, hplan, planOf_greet]
  rfl

theorem itemOfTokens_greet : itemOfTokens? greetTrait.tokens = some (.trait greetTrait) := by
  set_option maxRecDepth 10000 in cbv

/-- With `crate = "::neorepo"` the unit from a file is the implementation in place. -/
theorem unit_eq_expansion_neorepo :
    let g : Generator := ⟨.segments true [] (.plain "neorepo"), none⟩
    ∃ report unit kept, g.run (collectItems none [.trait (markedTrait "::neorepo")]) = .ok report ∧
      unit ∈ report.units ∧ cleanTrait greetTrait g.runtime = .ok kept ∧
      expand (crateArgument "::neorepo") greetTrait.tokens =
        .ok (.tokens (kept.tokens ++ unit.tokens)) := by
  intro g
  obtain ⟨p, -, hrun⟩ := run_markedTrait g "::neorepo"
  obtain ⟨kept, hkept⟩ := (@cleanTrait_isOk greetTrait g.runtime).2 (.inr ⟨rfl, by decide⟩)
  obtain ⟨d, -, -, -, hboth⟩ := @unit_eq_expansion_iff (markedTrait "::neorepo") [] [] _
    "::neorepo" g.runtime (crateArgument "::neorepo") greetTrait.tokens g none _ _
    rfl (by rfl) (by cbv) (by cbv) itemOfTokens_greet (by cbv) List.mem_cons_self hrun
  rcases hboth with ⟨unit, hunit, -, made, -, hexpand, hsame⟩ | ⟨failure, hfailure, -⟩
  · refine ⟨_, unit, kept, hrun, hunit, hkept, ?_⟩
    rw [hexpand, hsame.2 rfl]
    exact map_eq_ok.2 ⟨kept, hkept, rfl⟩
  · cases hfailure

/-- The generator that is set to nothing. -/
def defaultGenerator : Generator := ⟨.segments true [] (.plain "neorepo"), none⟩

theorem ofText_defaultRuntime :
    Generator.ofText defaultRuntime none = .ok ⟨.segments true [] (.plain "neorepo"), none⟩ := by
  cbv

theorem readPath_rt :
    readPath? "crate::rt" = some (.segments false [.plain "crate"] (.plain "rt")) := by
  cbv

theorem ofTokens_rt :
    Arguments.ofTokens (crateArgument "crate::rt") = .ok ⟨some "crate::rt", false⟩ := by
  cbv

/-- With `crate = "crate::rt"` the unit from a file is for `::neorepo`, and not the implementation in
place. -/
theorem unit_ne_expansion_rt :
    let marked := markedTrait "crate::rt"
    ∃ g report unit path kept made, Generator.ofText defaultRuntime none = .ok g ∧
      g.run (collectItems none [.trait marked]) = .ok report ∧ report.units = [unit] ∧
      readPath? "crate::rt" = some path ∧ cleanTrait greetTrait path = .ok kept ∧
      expand (crateArgument "crate::rt") greetTrait.tokens = .ok (.tokens (kept.tokens ++ made)) ∧
      unit.tokens ≠ made := by
  intro marked
  let g : Generator := ⟨.segments true [] (.plain "neorepo"), none⟩
  let path : Path := .segments false [.plain "crate"] (.plain "rt")
  obtain ⟨p, hplan, hrun⟩ := run_markedTrait g "crate::rt"
  obtain ⟨kept, hkept⟩ := (@cleanTrait_isOk greetTrait path).2 (.inr ⟨rfl, by decide⟩)
  refine ⟨g, _, _, path, kept, (p.assembly path.tokens).tokens, ofText_defaultRuntime, hrun, rfl,
    readPath_rt, hkept, ?_, fun hsame => ?_⟩
  · have hplace :=
      @Generator.expandItem_trait ⟨path, none⟩ greetTrait _ (.inl ⟨p, hplan, rfl⟩)
    rw [expand_eq ofTokens_rt itemOfTokens_greet readPath_rt]
    exact map_eq_ok.2 ⟨_, hplace.trans (map_eq_ok.2 ⟨kept, hkept, rfl⟩), rfl⟩
  · have hlength := congrArg List.length (Plan.tokens_inj.1 hsame)
    exact absurd hlength (by decide)

end GraphRepo

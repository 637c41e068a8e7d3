import Mathlib
import GraphRepo.Proofs.Command.Running
import GraphRepo.Proofs.FileSystem
import GraphRepo.Proofs.Repository.ErrorForm

/-!
# Checks and expansions

A check and the expansion in place find the same faults in a trait. The expansion also reads the
arguments of the attribute and the path of the runtime crate in them, which a check does not look at.
-/

namespace GraphRepo

open Source

variable {σ : Type}

/-- The path of the runtime crate for some arguments, if they can be read and name one. -/
def runtimeOf? (arguments : Tokens) : Option Path :=
  match Arguments.ofTokens arguments with
  | .ok args => readPath? (args.runtime.getD defaultRuntime)
  | .error _ => none

/-- A check reports a repository: it fails, and what is wrong with the repository is in its log. -/
def Reported (g : Generator) (d : Discovered)
    (result : EStateM.Result CommandFault (Terminal σ) Unit) : Prop :=
  ∃ failure failures total t', g.failure? d = some failure ∧ failure.diagnostics ≠ [] ∧
    result = .error (.failed failures total) t' ∧ ∀ note ∈ failure.notes, note ∈ t'.log

/-! ## Arguments -/

theorem runtimeOf_eq_some {arguments : Tokens} {path : Path} :
    runtimeOf? arguments = some path ↔ ∃ args, Arguments.ofTokens arguments = .ok args ∧
      readPath? (args.runtime.getD defaultRuntime) = some path := by
  unfold runtimeOf?
  cases Arguments.ofTokens arguments with
  | ok args => simp
  | error fault => simp

theorem expandsToError_of_runtimeOf {arguments ts : Tokens} {item : Item}
    (hitem : itemOfTokens? ts = some item) (h : runtimeOf? arguments = none) :
    ExpandsToError arguments ts := by
  unfold runtimeOf? at h
  cases harguments : Arguments.ofTokens arguments with
  | error fault =>
    have hexpand : expand arguments ts = .ok (.tokens (ts ++ compileError fault.message)) := by
      rw [expand, harguments]
    exact ⟨_, hexpand, ts, fault.message, rfl⟩
  | ok args =>
    rw [harguments] at h
    dsimp only at h
    let fault := Diagnostic.invalidRuntime (args.runtime.getD defaultRuntime)
    have hexpand : expand arguments ts =
        .ok (.tokens (item.tokens ++ compileError fault.message)) := by
      rw [expand, harguments]
      dsimp only
      rw [hitem, Generator.ofText, h]
    exact ⟨_, hexpand, item.tokens, fault.message, rfl⟩

/-! ## Checks -/

theorem failure_eq_some {g : Generator} {d : Discovered} {t : Trait} {failure : Failure}
    (hitem : d.item = .trait t) :
    g.failure? d = some failure ↔ ∃ faults, planOf t = .error (.diagnostics faults) ∧
      failure = ⟨interfaceName d.item d.modulePath, faults⟩ := by
  rw [Generator.failure?, hitem, Generator.generate_trait, ← hitem]
  cases planOf t with
  | ok p => simp [Except.map]
  | error fault =>
    cases fault with
    | abort a => simp [Except.map]
    | diagnostics faults => simp [Except.map, eq_comm]

section Sources

variable [ReadableDisk σ] {c : Configuration} {g : Generator} {files : List String}
  {sourceRoot : Option String} {t : Terminal σ}

theorem exists_repository {file : String} {items : List Item} {marked : Trait}
    (hfile : file ∈ files) (hitems : source? t.disk file = some items)
    (hmem : marked ∈ Item.traitsOfAll items) (hmarked : marked.isMarked) :
    ∃ d ∈ repositories t.disk sourceRoot files, d.item = .trait marked := by
  obtain ⟨d, hd, hitem, -⟩ := mem_collectItems.2 ⟨hmem, hmarked, rfl⟩
  refine ⟨d, List.mem_flatMap.2 ⟨file, hfile, ?_⟩, hitem⟩
  rw [repositoriesIn, hitems]
  exact hd

/-- **Exactly the repositories with diagnostics are reported.** -/
theorem reported_iff {d : Discovered} {marked : Trait}
    (hsources : ∀ file ∈ files, (source? t.disk file).isSome)
    (hg : Generator.ofText c.generator.runtime c.generator.moduleName = .ok g)
    (hnoAbort : ∀ d ∈ repositories t.disk sourceRoot files, ∀ a,
      g.generate d.item d.modulePath ≠ .error (.abort a))
    (hd : d ∈ repositories t.disk sourceRoot files) (hitem : d.item = .trait marked) :
    Reported g d ((Command.runCheck c files sourceRoot).run t) ↔
      ∃ faults, planOf marked = .error (.diagnostics faults) := by
  constructor
  · rintro ⟨failure, -, -, -, hfailure, -⟩
    obtain ⟨faults, hplan, -⟩ := (failure_eq_some hitem).1 hfailure
    exact ⟨faults, hplan⟩
  · rintro ⟨faults, hplan⟩
    have hfailure : g.failure? d = some ⟨interfaceName d.item d.modulePath, faults⟩ :=
      (failure_eq_some hitem).2 ⟨faults, hplan, rfl⟩
    let found := repositories t.disk sourceRoot files
    let report : Report := ⟨found.filterMap g.unit?, found.filterMap g.failure?⟩
    have hrun : g.run found = .ok report := Generator.run_eq_ok.2 ⟨hnoAbort, rfl⟩
    have hreported : ⟨interfaceName d.item d.modulePath, faults⟩ ∈ report.failures :=
      List.mem_filterMap.2 ⟨d, hd, hfailure⟩
    have hfails : ¬report.isSuccess := fun h =>
      List.ne_nil_of_mem hreported (List.isEmpty_iff.1 h)
    have hcheck := run_check hsources hg hrun
    rw [Report.conclusion, if_neg hfails] at hcheck
    refine ⟨_, _, _, _, hfailure, ne_nil_of_planOf hplan, hcheck, fun note hnote => ?_⟩
    exact List.mem_append_right _ (List.mem_append_right _
      (List.mem_flatMap.2 ⟨_, hreported, hnote⟩))

/-! ## Both -/

/-- **A check reports what the expansion reports, but for the arguments.** The traits that carry the
attribute are found, wherever they stand. Let the arguments of the expansion, those of the attribute
or any others, be readable and name a path next to which the trait can stay: then a check reports the
trait exactly if its expansion in place is an error. If they cannot be read or name no path, the
expansion is an error whatever the trait is; if the trait cannot stay, everything stops. -/
theorem reported_iff_expandsToError {file : String} {items : List Item} {marked : Trait}
    {before after : List Attribute} {mark : Attribute} {arguments ts : Tokens}
    (hsources : ∀ file ∈ files, (source? t.disk file).isSome)
    (hg : Generator.ofText c.generator.runtime c.generator.moduleName = .ok g)
    (hnoAbort : ∀ d ∈ repositories t.disk sourceRoot files, ∀ a,
      g.generate d.item d.modulePath ≠ .error (.abort a))
    (hfile : file ∈ files) (hitems : source? t.disk file = some items)
    (hmem : marked ∈ Item.traitsOfAll items)
    (hattributes : marked.attributes = before ++ mark :: after)
    (hmark : isRepositoryAttribute mark)
    (hitem : itemOfTokens? ts = some (.trait { marked with attributes := before ++ after })) :
    let stays := cleanTrait { marked with attributes := before ++ after }
    (∃ d ∈ repositories t.disk sourceRoot files, d.item = .trait marked) ∧
      ∀ d ∈ repositories t.disk sourceRoot files, d.item = .trait marked →
        (∀ path kept, runtimeOf? arguments = some path → stays path = .ok kept →
          (Reported g d ((Command.runCheck c files sourceRoot).run t) ↔ ExpandsToError arguments ts)) ∧
        (runtimeOf? arguments = none → ExpandsToError arguments ts) ∧
        ∀ path a, runtimeOf? arguments = some path → stays path = .error a →
          expand arguments ts = .error a := by
  intro stays
  have hmarked : marked.isMarked := by
    refine List.any_eq_true.2 ⟨mark, ?_, hmark⟩
    rw [hattributes]
    exact List.mem_append_right _ List.mem_cons_self
  refine ⟨exists_repository hfile hitems hmem hmarked, fun d hd hditem => ⟨?_, ?_, ?_⟩⟩
  · intro path kept hruntime hkept
    obtain ⟨args, harguments, hpath⟩ := runtimeOf_eq_some.1 hruntime
    have hplan : planOf { marked with attributes := before ++ after } = planOf marked :=
      planOf_attributes marked _
    rw [reported_iff hsources hg hnoAbort hd hditem,
      expandsToError_iff harguments hitem hpath hkept, hplan]
  · exact fun hruntime => expandsToError_of_runtimeOf hitem hruntime
  · intro path a hruntime hstays
    obtain ⟨args, harguments, hpath⟩ := runtimeOf_eq_some.1 hruntime
    have hexpand : (⟨path, none⟩ : Generator).expandItem
        (.trait { marked with attributes := before ++ after }) args.external = .error a := by
      rw [Generator.expandItem_eq]
      exact bind_eq_error.2 (.inl hstays)
    rw [expand_eq harguments hitem hpath, hexpand]
    rfl

end Sources

/-! ## A file with one repository -/

/-- A file `r.rs` and nothing else. -/
def oneFile (text : String) : FileSystem := ⟨[], [(["r.rs"], .file text)]⟩

theorem source_oneFile {text : String} {items : List Item} (h : readItems? text = some items) :
    source? (oneFile text) "r.rs" = some items := by
  have hread : (oneFile text).readFile "r.rs" = .ok text :=
    FileSystem.readFile_of_entry (by decide) rfl
  rw [source_eq_of_readFile hread, h]

theorem sources_oneFile {text : String} {items : List Item} (h : readItems? text = some items) :
    ∀ file ∈ ["r.rs"], (source? (oneFile text) file).isSome := by
  intro file hfile
  rw [List.mem_singleton.1 hfile]
  exact Option.isSome_of_eq_some (source_oneFile h)

theorem repositories_oneFile {text : String} {t : Trait} (h : readItems? text = some [.trait t])
    (hmarked : t.isMarked) :
    repositories (oneFile text) none ["r.rs"] = [⟨.trait t, none, t.isExternal⟩] := by
  have hin : repositoriesIn (oneFile text) none "r.rs" = [⟨.trait t, none, t.isExternal⟩] := by
    rw [repositoriesIn, source_oneFile h]
    exact collectItems_trait hmarked none
  rw [repositories, List.flatMap_cons, hin]
  rfl

def repositoryMark (payload : Payload) : Attribute := ⟨false, ⟨false, ["repository"]⟩, payload⟩

def baselessTrait (attributes : List Attribute) : Trait :=
  { bareTrait "R" attributes with bounds := [] }

theorem readItems_baseless :
    readItems? "#[repository] trait R {}" =
      some [.trait (baselessTrait [repositoryMark .nothing])] := by
  set_option maxRecDepth 10000 in cbv

theorem itemOfTokens_baseless :
    itemOfTokens? (baselessTrait []).tokens = some (.trait (baselessTrait [])) := by
  set_option maxRecDepth 10000 in cbv

theorem planOf_baseless (attributes : List Attribute) :
    planOf (baselessTrait attributes) =
      .error (.diagnostics [.unavailable "R" (TraitFault.noBase "R").message]) := by
  cbv

/-- A trait that extends nothing is reported by a check and in place. -/
theorem reported_baseless :
    let t : Terminal FileSystem := .fresh (oneFile "#[repository] trait R {}") (.server [])
    ∃ d ∈ repositories t.disk none ["r.rs"],
      d.item = .trait (baselessTrait [repositoryMark .nothing]) ∧
        Reported defaultGenerator d ((Command.runCheck .default ["r.rs"] none).run t) ∧
        ExpandsToError [] (baselessTrait []).tokens := by
  intro t
  have hitems := source_oneFile readItems_baseless
  have hsources := sources_oneFile readItems_baseless
  have hnoAbort : ∀ d ∈ repositories t.disk none ["r.rs"], ∀ a,
      defaultGenerator.generate d.item d.modulePath ≠ .error (.abort a) := by
    intro d hd a
    have hfound : repositories t.disk none ["r.rs"] = _ :=
      repositories_oneFile readItems_baseless (by rfl)
    rw [hfound] at hd
    rw [List.mem_singleton.1 hd, Generator.generate_trait, planOf_baseless]
    exact fun h => by cases h
  obtain ⟨⟨d, hd, hditem⟩, hall⟩ := @reported_iff_expandsToError _ _ .default defaultGenerator
    ["r.rs"] none t "r.rs" _ (baselessTrait [repositoryMark .nothing]) [] [] _ []
    (baselessTrait []).tokens hsources ofText_defaultRuntime hnoAbort List.mem_cons_self hitems
    List.mem_cons_self rfl (by rfl) itemOfTokens_baseless
  obtain ⟨kept, hkept⟩ := exists_cleanTrait (baselessTrait [])
  have hruntime : runtimeOf? [] = some defaultGenerator.runtime :=
    runtimeOf_eq_some.2 ⟨_, rfl, readPath_defaultRuntime⟩
  have hsame := (hall d hd hditem).1 _ kept hruntime hkept
  have hreported : Reported defaultGenerator d ((Command.runCheck .default ["r.rs"] none).run t) :=
    (reported_iff hsources ofText_defaultRuntime hnoAbort hd hditem).2 ⟨_, planOf_baseless _⟩
  exact ⟨d, hd, hditem, hreported, hsame.1 hreported⟩

theorem readItems_label :
    readItems? "#[repository(label)] trait R: NeoRepository<User, String> {}" =
      some [.trait (bareTrait "R" [repositoryMark (.list .paren (word "label"))])] := by
  set_option maxRecDepth 10000 in cbv

theorem itemOfTokens_bare :
    itemOfTokens? (bareTrait "R" []).tokens = some (.trait (bareTrait "R" [])) := by
  set_option maxRecDepth 10000 in cbv

theorem runtimeOf_label : runtimeOf? (word "label") = none := by cbv

/-- An argument that does not exist is an error in place, and a check says that all is well. -/
theorem label_not_reported :
    let t : Terminal FileSystem :=
      .fresh (oneFile "#[repository(label)] trait R: NeoRepository<User, String> {}") (.server [])
    source? t.disk "r.rs" =
        some [.trait (bareTrait "R" [repositoryMark (.list .paren (word "label"))])] ∧
      (∃ t', (Command.runCheck .default ["r.rs"] none).run t = .ok () t') ∧
      (∀ d, ¬Reported defaultGenerator d ((Command.runCheck .default ["r.rs"] none).run t)) ∧
      ExpandsToError (word "label") (bareTrait "R" []).tokens := by
  intro t
  have hitems := source_oneFile readItems_label
  have hsources := sources_oneFile readItems_label
  have hrun : defaultGenerator.run (repositories t.disk none ["r.rs"]) =
      .ok ⟨[(barePlan "R" "r").unit defaultGenerator.runtime.tokens none], []⟩ := by
    have hfound : repositories t.disk none ["r.rs"] = _ :=
      repositories_oneFile readItems_label (by rfl)
    rw [hfound]
    refine Generator.run_of_units ?_
    rw [List.map_cons, Generator.generate_bareTrait _ identifier_snake_r]
    rfl
  obtain ⟨t', hcheck⟩ : ∃ t', (Command.runCheck .default ["r.rs"] none).run t = .ok () t' :=
    (check_succeeds_iff hsources).2 ⟨_, _, ofText_defaultRuntime, hrun, by rfl⟩
  refine ⟨hitems, ⟨t', hcheck⟩, fun d h => ?_,
    expandsToError_of_runtimeOf itemOfTokens_bare runtimeOf_label⟩
  obtain ⟨failure, failures, total, t'', -, -, hfails, -⟩ := h
  cases hcheck.symm.trans hfails

end GraphRepo

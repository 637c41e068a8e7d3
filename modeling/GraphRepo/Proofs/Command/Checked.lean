import Mathlib
import GraphRepo.Proofs.Command.Running
import GraphRepo.Proofs.FileSystem
import GraphRepo.Proofs.Repository.FileMode

/-!
# Generating what was checked

A check and the generation after it make the same units. The check looks at them one by one and not
at their file names together, so where the disk takes the files the generation fails exactly if two
units have one file name.
-/

namespace GraphRepo

open Source

/-! ## External repositories -/

namespace Generator

/-- The names of the files for the external repositories among some. -/
def fileNames (g : Generator) (found : List Discovered) : List String :=
  ((found.filter (·.external)).filterMap g.unit?).map (·.fileName)

theorem run_external {g : Generator} {found : List Discovered} {report : Report}
    (hrun : g.run found = .ok report) (hsuccess : report.isSuccess) :
    g.run (found.filter (·.external)) =
      .ok ⟨(found.filter (·.external)).filterMap g.unit?, []⟩ := by
  obtain ⟨hnoAbort, rfl⟩ := run_eq_ok.1 hrun
  have hnone : ∀ d ∈ found, g.failure? d = none :=
    List.filterMap_eq_nil_iff.1 (List.isEmpty_iff.1 hsuccess)
  have hnoneExternal : (found.filter (·.external)).filterMap g.failure? = [] :=
    List.filterMap_eq_nil_iff.2 fun d hd => hnone d (List.mem_of_mem_filter hd)
  refine run_eq_ok.2 ⟨fun d hd => hnoAbort d (List.mem_of_mem_filter hd), ?_⟩
  rw [hnoneExternal]

end Generator

/-! ## Both commands -/

section Commands

variable {σ : Type} [ReadableDisk σ] {c : Configuration} {files : List String}
  {sourceRoot output : Option String} {t : Terminal σ} {g : Generator} {report : Report}

theorem run_generate_external (hsources : ∀ file ∈ files, (source? t.disk file).isSome)
    (hg : Generator.ofText c.generator.runtime c.generator.moduleName = .ok g)
    (hrun : g.run (repositories t.disk sourceRoot files) = .ok report) (hsuccess : report.isSuccess)
    (htakes : TakesFiles (output.getD c.generator.output)
      (g.fileNames (repositories t.disk sourceRoot files)) t.disk) :
    let names := g.fileNames (repositories t.disk sourceRoot files)
    ∃ t', ((Command.runGenerate c files output sourceRoot).run t =
        if names.Nodup then .ok () t' else .error (.unwritten (repeated [] names).length) t') ∧
      ∀ name ∈ repeated [] names, (.error, (SinkFault.alreadyWritten name).message) ∈ t'.log := by
  intro names
  let made : Report :=
    ⟨((repositories t.disk sourceRoot files).filter (·.external)).filterMap g.unit?, []⟩
  have hmade : g.run ((repositories t.disk sourceRoot files).filter (·.external)) = .ok made :=
    Generator.run_external hrun hsuccess
  obtain ⟨summary, sink, hwritten⟩ : ∃ summary sink,
      made.writeTo (⟨output.getD c.generator.output, [], t.disk⟩ : DirectorySink σ) =
        (summary, sink) := ⟨_, _, rfl⟩
  have herrors : summary.errors = (repeated [] names).map .alreadyWritten := by
    have h := @errors_writeTo _ _ made _ _ htakes
    rwa [hwritten] at h
  have hdistinct : summary.isSuccess ↔ names.Nodup := by
    have h := @isSuccess_writeTo _ _ made _ _ htakes
    rwa [hwritten] at h
  have hresult := run_generate output hsources hg hmade hwritten
  extract_lets t' at hresult
  have hnoFailure : ¬(!made.isSuccess) := by simp [Report.isSuccess, made]
  rw [if_neg hnoFailure] at hresult
  refine ⟨t', hresult.trans ?_, fun name hname => ?_⟩
  · by_cases hnodup : names.Nodup
    · rw [if_pos hnodup, if_pos (hdistinct.2 hnodup)]
    · rw [if_neg hnodup, if_neg fun h => hnodup (hdistinct.1 h), herrors, List.length_map]
  · have herror : SinkFault.alreadyWritten name ∈ summary.errors := by
      rw [herrors]
      exact List.mem_map_of_mem hname
    have hnote : (LogLevel.error, (SinkFault.alreadyWritten name).message) ∈
        writeNotes (output.getD c.generator.output) summary sink.paths :=
      List.mem_append_right _ (List.mem_map_of_mem herror)
    exact List.mem_append_right _ (List.mem_append_left _ (List.mem_append_right _ hnote))

/-- **What was checked is generated exactly if no two files have one name.** After a check without
failures, on a disk that takes the files of the external repositories, the generation from the same
sources succeeds if the names of these files are distinct. If they are not, it fails, and every name
that comes again is reported. -/
theorem generate_of_check (hsources : ∀ file ∈ files, (source? t.disk file).isSome)
    (hcheck : ∃ t', (Command.runCheck c files sourceRoot).run t = .ok () t') :
    ∃ g, Generator.ofText c.generator.runtime c.generator.moduleName = .ok g ∧
      let names := g.fileNames (repositories t.disk sourceRoot files)
      ∀ output : Option String, TakesFiles (output.getD c.generator.output) names t.disk →
        ∃ t', ((Command.runGenerate c files output sourceRoot).run t =
            if names.Nodup then .ok () t' else .error (.unwritten (repeated [] names).length) t') ∧
          ∀ name ∈ repeated [] names, (.error, (SinkFault.alreadyWritten name).message) ∈ t'.log := by
  obtain ⟨g, report, hg, hrun, hsuccess⟩ := (check_succeeds_iff hsources).1 hcheck
  exact ⟨g, hg, fun output htakes => run_generate_external hsources hg hrun hsuccess htakes⟩

end Commands

/-! ## Files with one repository -/

def externalMark : Attribute :=
  ⟨false, ⟨false, ["repository"]⟩, .list .paren (word "external")⟩

def externalR : String := "#[repository(external)] trait R: NeoRepository<User, String> {}"

def externalS : String := "#[repository(external)] trait S: NeoRepository<User, String> {}"

/-- Three files with a trait in each, two of which have one name, and a directory for what is
generated. -/
def threeFiles : FileSystem where
  workingDirectory := []
  entries := [(["a.rs"], .file externalR), (["b.rs"], .file externalS),
    (["c.rs"], .file externalR), (["generated"], .directory)]

theorem readItems_externalR :
    readItems? externalR = some [.trait (bareTrait "R" [externalMark])] := by
  set_option maxRecDepth 10000 in cbv

theorem readItems_externalS :
    readItems? externalS = some [.trait (bareTrait "S" [externalMark])] := by
  set_option maxRecDepth 10000 in cbv

theorem source_threeFiles :
    source? threeFiles "a.rs" = some [.trait (bareTrait "R" [externalMark])] ∧
      source? threeFiles "b.rs" = some [.trait (bareTrait "S" [externalMark])] ∧
      source? threeFiles "c.rs" = some [.trait (bareTrait "R" [externalMark])] := by
  have ha : threeFiles.readFile "a.rs" = .ok externalR :=
    FileSystem.readFile_of_entry (by decide) rfl
  have hb : threeFiles.readFile "b.rs" = .ok externalS :=
    FileSystem.readFile_of_entry (by decide) rfl
  have hc : threeFiles.readFile "c.rs" = .ok externalR :=
    FileSystem.readFile_of_entry (by decide) rfl
  rw [source_eq_of_readFile ha, source_eq_of_readFile hb, source_eq_of_readFile hc]
  exact ⟨readItems_externalR, readItems_externalS, readItems_externalR⟩

/-- A trait that was found in a file of no known module. -/
def foundBare (name : String) : Discovered := ⟨.trait (bareTrait name [externalMark]), none, true⟩

theorem collectItems_bare (name : String) :
    collectItems none [.trait (bareTrait name [externalMark])] = [foundBare name] :=
  collectItems_trait (by rfl) none

theorem repositories_threeFiles :
    repositories threeFiles none ["a.rs", "b.rs"] = [foundBare "R", foundBare "S"] ∧
      repositories threeFiles none ["a.rs", "c.rs"] = [foundBare "R", foundBare "R"] := by
  obtain ⟨ha, hb, hc⟩ := source_threeFiles
  simp only [repositories, repositoriesIn, List.flatMap_cons, List.flatMap_nil, ha, hb, hc,
    fileModule, Option.bind_none, Option.getD_some, collectItems_bare]
  exact ⟨rfl, rfl⟩

theorem generate_foundBare {name factory : String} (h : identifier (snake name) = .ok factory) :
    defaultGenerator.generate (foundBare name).item (foundBare name).modulePath =
      .ok ((barePlan name factory).unit defaultGenerator.runtime.tokens none) := by
  exact Generator.generate_bareTrait _ h none

theorem unit_foundBare {name factory : String} (h : identifier (snake name) = .ok factory) :
    defaultGenerator.unit? (foundBare name) =
      some ((barePlan name factory).unit defaultGenerator.runtime.tokens none) := by
  rw [Generator.unit?, generate_foundBare h]

/-- A pass over two such traits, and the names of their files. -/
theorem run_foundBare {name factory name' factory' : String}
    (h : identifier (snake name) = .ok factory) (h' : identifier (snake name') = .ok factory') :
    let made (name factory : String) :=
      (barePlan name factory).unit defaultGenerator.runtime.tokens none
    defaultGenerator.run [foundBare name, foundBare name'] =
        .ok ⟨[made name factory, made name' factory'], []⟩ ∧
      defaultGenerator.fileNames [foundBare name, foundBare name'] =
        [(made name factory).fileName, (made name' factory').fileName] := by
  refine ⟨Generator.run_of_units ?_, ?_⟩
  · rw [List.map_cons, List.map_cons, generate_foundBare h, generate_foundBare h']
    rfl
  · have hexternal : [foundBare name, foundBare name'].filter (·.external) =
        [foundBare name, foundBare name'] := rfl
    rw [Generator.fileNames, hexternal, List.filterMap_cons, unit_foundBare h, List.filterMap_cons,
      unit_foundBare h']
    rfl

theorem identifier_snake_s : identifier (snake "S") = .ok "s" := by cbv

theorem fileName_bare (runtime : Tokens) :
    ((barePlan "R" "r").unit runtime none).fileName = "r_impl.rs" ∧
      ((barePlan "S" "s").unit runtime none).fileName = "s_impl.rs" := by
  have hname (name factory : String) : ((barePlan name factory).unit runtime none).fileName =
      (barePlan name factory).declaration.fileName := rfl
  rw [hname, hname]
  constructor <;> decide +kernel

theorem takesFiles_threeFiles {names : List String}
    (hnames : ∀ name ∈ names, name ∈ ["r_impl.rs", "s_impl.rs"]) :
    TakesFiles "generated" names threeFiles := by
  have hdirectory : FileSystem.IsFileName "generated" := by decide
  have hstart : threeFiles.start "generated" = [] := by decide
  have hentry : threeFiles.entry? ["generated"] = some .directory := by decide
  have hfits : ∀ name ∈ ["r_impl.rs", "s_impl.rs"], FileSystem.FitsIn "generated" name ∧
      threeFiles.entry? ["generated", name] = none := by decide
  have hroom : FileSystem.HasRoom "generated" ["generated"] names threeFiles := by
    refine ⟨FileSystem.acceptable_eq_ok.2 (by decide), ?_, fun name hname h => ?_⟩
    · rw [hstart, FileSystem.names_of_isFileName hdirectory,
        FileSystem.walk_cons hdirectory.ne_current hdirectory.ne_parent, FileSystem.lookup_eq_ok]
      exact ⟨⟨by decide, hentry⟩, rfl⟩
    · cases (hfits name (hnames name hname)).2.symm.trans h
  exact hroom.takesFiles fun name hname => (hfits name (hnames name hname)).1

/-- Two files with traits of different names are checked and generated. -/
theorem generate_of_check_distinct :
    let t : Terminal FileSystem := .fresh threeFiles (.server [])
    (∃ t', (Command.runCheck .default ["a.rs", "b.rs"] none).run t = .ok () t') ∧
      ∃ t', (Command.runGenerate .default ["a.rs", "b.rs"] none none).run t = .ok () t' := by
  intro t
  obtain ⟨ha, hb, -⟩ := source_threeFiles
  obtain ⟨hfileR, hfileS⟩ := fileName_bare defaultGenerator.runtime.tokens
  obtain ⟨hrun, hnames⟩ := run_foundBare identifier_snake_r identifier_snake_s
  rw [← repositories_threeFiles.1] at hrun hnames
  have hsources : ∀ file ∈ ["a.rs", "b.rs"], (source? t.disk file).isSome := by
    simp [t, Terminal.fresh, ha, hb]
  have hcheck : ∃ t', (Command.runCheck .default ["a.rs", "b.rs"] none).run t = .ok () t' :=
    (check_succeeds_iff hsources).2 ⟨_, _, ofText_defaultRuntime, hrun, by rfl⟩
  obtain ⟨g, hg, hgenerate⟩ := generate_of_check hsources hcheck
  have hdefault : g = defaultGenerator := Except.ok.inj (hg.symm.trans ofText_defaultRuntime)
  rw [hdefault] at hgenerate
  have hdisk : t.disk = threeFiles := rfl
  rw [hdisk, hnames, hfileR, hfileS] at hgenerate
  obtain ⟨t', hresult, -⟩ := hgenerate none (takesFiles_threeFiles (by simp))
  exact ⟨hcheck, t', hresult.trans (if_pos (by decide))⟩

/-- Two files with traits of one name are checked and not generated. -/
theorem not_generated_of_check :
    let t : Terminal FileSystem := .fresh threeFiles (.server [])
    (∃ t', (Command.runCheck .default ["a.rs", "c.rs"] none).run t = .ok () t') ∧
      TakesFiles Configuration.default.generator.output ["r_impl.rs", "r_impl.rs"] t.disk ∧
      ∃ t', (Command.runGenerate .default ["a.rs", "c.rs"] none none).run t =
          .error (.unwritten 1) t' ∧
        (.error, (SinkFault.alreadyWritten "r_impl.rs").message) ∈ t'.log := by
  intro t
  obtain ⟨ha, -, hc⟩ := source_threeFiles
  obtain ⟨hfileR, -⟩ := fileName_bare defaultGenerator.runtime.tokens
  obtain ⟨hrun, hnames⟩ := run_foundBare identifier_snake_r identifier_snake_r
  rw [← repositories_threeFiles.2] at hrun hnames
  rw [hfileR] at hnames
  have hsources : ∀ file ∈ ["a.rs", "c.rs"], (source? t.disk file).isSome := by
    simp [t, Terminal.fresh, ha, hc]
  have htakes : TakesFiles "generated" ["r_impl.rs", "r_impl.rs"] threeFiles :=
    takesFiles_threeFiles (by simp)
  have hcheck : ∃ t', (Command.runCheck .default ["a.rs", "c.rs"] none).run t = .ok () t' :=
    (check_succeeds_iff hsources).2 ⟨_, _, ofText_defaultRuntime, hrun, by rfl⟩
  refine ⟨hcheck, htakes, ?_⟩
  have hgenerate := @run_generate_external _ _ .default _ none none _ defaultGenerator _ hsources
    ofText_defaultRuntime hrun (by rfl)
  have hdisk : t.disk = threeFiles := rfl
  rw [hdisk, hnames] at hgenerate
  obtain ⟨t', hresult, hlog⟩ := hgenerate htakes
  exact ⟨t', hresult.trans (if_neg (by decide)), hlog _ (by decide)⟩

end GraphRepo

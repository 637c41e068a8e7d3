import Mathlib
import GraphRepo.Command.Run
import GraphRepo.Proofs.Repository.Passes

/-!
# Commands on sources

Where all files are sources, a command finds their repositories and passes over them, and up to there
it leaves nothing behind but notes in the log. What `check` and `generate` come to is then known from
the report of the pass and, for `generate`, from what the directory takes.
-/

namespace GraphRepo

open Source

variable {σ : Type}

/-! ## Notes -/

def Terminal.noted (t : Terminal σ) (entries : List (LogLevel × String)) : Terminal σ :=
  { t with log := t.log ++ entries }

theorem Terminal.noted_nil (t : Terminal σ) : t.noted [] = t := by
  simp only [noted, List.append_nil]

theorem Terminal.noted_noted (t : Terminal σ) (entries more : List (LogLevel × String)) :
    (t.noted entries).noted more = t.noted (entries ++ more) := by
  simp only [noted, List.append_assoc]

theorem Task.run_note (level : LogLevel) (message : String) (t : Terminal σ) :
    (Task.note level message).run t = .ok () (t.noted [(level, message)]) := rfl

theorem Task.run_forM {α : Type} {task : α → Task σ Unit} {entries : α → List (LogLevel × String)}
    (htask : ∀ a t, (task a).run t = .ok () (t.noted (entries a))) :
    ∀ (as : List α) (t : Terminal σ), (as.forM task).run t = .ok () (t.noted (as.flatMap entries))
  | [], t => by
    rw [List.flatMap_nil, Terminal.noted_nil]
    rfl
  | a :: as, t => by
    have hrest := run_forM htask as (t.noted (entries a))
    rw [Terminal.noted_noted] at hrest
    exact (run_bind_ok (htask a t)).trans hrest

theorem Task.run_forM_note {α : Type} (level : LogLevel) (message : α → String) (as : List α)
    (t : Terminal σ) :
    (as.forM fun a => Task.note level (message a)).run t =
      .ok () (t.noted (as.map fun a => (level, message a))) := by
  rw [← List.flatMap_pure_eq_map]
  exact run_forM (fun a t => run_note level (message a) t) as t

/-! ## Finding repositories -/

section Sources

variable [ReadableDisk σ]

/-- The items of a file that is a source. -/
def source? (disk : σ) (file : String) : Option (List Item) :=
  match ReadableDisk.readFile file disk with
  | .ok text => readItems? text
  | .error _ => none

theorem source_eq_of_readFile {disk : σ} {file text : String}
    (h : ReadableDisk.readFile file disk = .ok text) : source? disk file = readItems? text := by
  rw [source?, h]

def fileModule (sourceRoot : Option String) (file : String) : Option String :=
  sourceRoot.bind fun root => modulePathFor root file

def repositoriesIn (disk : σ) (sourceRoot : Option String) (file : String) : List Discovered :=
  collectItems (fileModule sourceRoot file) ((source? disk file).getD [])

/-- The repositories in some files, in order. -/
def repositories (disk : σ) (sourceRoot : Option String) (files : List String) :
    List Discovered :=
  files.flatMap (repositoriesIn disk sourceRoot)

def countNote (disk : σ) (sourceRoot : Option String) (file : String) : LogLevel × String :=
  (.debug, file ++ ": " ++ toString (repositoriesIn disk sourceRoot file).length
    ++ " repository trait(s) in " ++ (fileModule sourceRoot file).getD "unknown module")

theorem run_readSource {file : String} {items : List Item} {t : Terminal σ}
    (h : source? t.disk file = some items) :
    (Command.readSource file).run t = .ok items t := by
  unfold source? at h
  split at h
  · rename_i text hread
    simp only [Command.readSource, EStateM.run, bind, EStateM.bind, get, getThe, MonadStateOf.get,
      EStateM.get, hread, h]
    rfl
  · cases h

theorem run_discoverFile (sourceRoot : Option String) {file : String} {t : Terminal σ}
    (h : (source? t.disk file).isSome) :
    (Command.discoverFile sourceRoot file).run t =
      .ok (repositoriesIn t.disk sourceRoot file) (t.noted [countNote t.disk sourceRoot file]) := by
  obtain ⟨items, hitems⟩ := Option.isSome_iff_exists.1 h
  unfold Command.discoverFile countNote repositoriesIn
  rw [run_bind_ok (run_readSource hitems), hitems]
  rfl

theorem run_mapM_discoverFile (sourceRoot : Option String) :
    ∀ {files : List String} {t : Terminal σ}, (∀ file ∈ files, (source? t.disk file).isSome) →
      (files.mapM (Command.discoverFile sourceRoot)).run t =
        .ok (files.map (repositoriesIn t.disk sourceRoot))
          (t.noted (files.map (countNote t.disk sourceRoot)))
  | [], t, _ => by
    rw [List.map_nil, List.map_nil, Terminal.noted_nil]
    rfl
  | file :: files, t, h => by
    obtain ⟨hfile, hfiles⟩ := List.forall_mem_cons.1 h
    have hrest := @run_mapM_discoverFile sourceRoot files
      (t.noted [countNote t.disk sourceRoot file]) hfiles
    rw [List.mapM_cons, run_bind_ok (run_discoverFile sourceRoot hfile), run_bind_ok hrest,
      Terminal.noted_noted]
    rfl

theorem run_discover (sourceRoot : Option String) {files : List String} {t : Terminal σ}
    (h : ∀ file ∈ files, (source? t.disk file).isSome) :
    (Command.discover sourceRoot files).run t =
      .ok (repositories t.disk sourceRoot files)
        (t.noted (files.map (countNote t.disk sourceRoot))) := by
  unfold Command.discover repositories
  rw [run_bind_ok (run_mapM_discoverFile sourceRoot h), List.flatMap_def]
  rfl

end Sources

/-! ## Passing over them -/

theorem run_generation (c : Configuration) (found : List Discovered) (t : Terminal σ) :
    (Command.generation c found).run t =
      match Generator.ofText c.generator.runtime c.generator.moduleName with
      | .error fault => .error (.generator fault) t
      | .ok g =>
        match g.run found with
        | .error a => .error (.abort a) t
        | .ok report => .ok report t := by
  unfold Command.generation Command.generator
  cases Generator.ofText c.generator.runtime c.generator.moduleName with
  | error fault => rfl
  | ok g =>
    have hg : (Task.ofExcept (.ok g) : Task σ Generator).run t = .ok g t := rfl
    refine (run_bind_ok hg).trans ?_
    dsimp only
    cases g.run found <;> rfl

theorem run_generation_ok {c : Configuration} {g : Generator} {found : List Discovered}
    {report : Report} (hg : Generator.ofText c.generator.runtime c.generator.moduleName = .ok g)
    (hrun : g.run found = .ok report) (t : Terminal σ) :
    (Command.generation c found).run t = .ok report t := by
  rw [run_generation, hg]
  dsimp only
  rw [hrun]

def Failure.notes (f : Failure) : List (LogLevel × String) :=
  f.diagnostics.map fun d => (.error, f.interface ++ ": " ++ d.message)

/-- What a command ends with that has nothing else to do than to report. -/
def Report.conclusion (r : Report) (t : Terminal σ) : EStateM.Result CommandFault (Terminal σ) Unit :=
  if r.isSuccess then .ok () t
  else .error (.failed r.failures.length (r.failures.length + r.units.length)) t

theorem run_finish (r : Report) (t : Terminal σ) :
    (Command.finish r).run t = r.conclusion (t.noted (r.failures.flatMap Failure.notes)) := by
  have hnotes (f : Failure) (t : Terminal σ) :
      (f.diagnostics.forM fun d => Task.note .error (f.interface ++ ": " ++ d.message)).run t =
        .ok () (t.noted f.notes) := Task.run_forM_note .error _ _ t
  unfold Command.finish Report.conclusion
  rw [run_bind_ok (Task.run_forM hnotes r.failures t)]
  cases r.isSuccess <;> rfl

def skipNotes (found : List Discovered) : List (LogLevel × String) :=
  found.flatMap fun d =>
    if d.external then []
    else [(.warn, "Skipping " ++ Command.foundName d
      ++ ": mark it #[repository(external)] to use a generated file")]

theorem run_keepExternal (found : List Discovered) (t : Terminal σ) :
    (Command.keepExternal found).run t =
      .ok (found.filter (·.external)) (t.noted (skipNotes found)) := by
  have hnote (d : Discovered) (t : Terminal σ) :
      ((if d.external then pure () else Task.note .warn ("Skipping " ++ Command.foundName d
          ++ ": mark it #[repository(external)] to use a generated file")) : Task σ Unit).run t =
        .ok () (t.noted (if d.external then [] else [(.warn, "Skipping " ++ Command.foundName d
          ++ ": mark it #[repository(external)] to use a generated file")])) := by
    cases d.external with
    | true => exact congrArg (EStateM.Result.ok ()) t.noted_nil.symm
    | false => rfl
  unfold Command.keepExternal
  rw [run_bind_ok (Task.run_forM hnote found t)]
  rfl

def writeNotes (directory : String) (summary : WriteSummary) (paths : List String) :
    List (LogLevel × String) :=
  paths.map (fun path => (.debug, "Wrote " ++ path))
    ++ [(.info, "Generated " ++ toString summary.written.length ++ " file(s) in " ++ directory)]
    ++ summary.errors.map fun fault => (.error, fault.message)

theorem Terminal.noted_writeNotes (directory : String) (summary : WriteSummary)
    (paths : List String) (t : Terminal σ) :
    ((t.noted (paths.map fun path => (.debug, "Wrote " ++ path))).noted
      [(.info, "Generated " ++ toString summary.written.length ++ " file(s) in " ++ directory)]).noted
      (summary.errors.map fun fault => (.error, fault.message)) =
      t.noted (writeNotes directory summary paths) := by
  rw [noted_noted, noted_noted, writeNotes, List.append_assoc]

/-! ## Checking -/

section Sources

variable [ReadableDisk σ] {c : Configuration} {files : List String} {sourceRoot : Option String}
  {t : Terminal σ}

def okNote (u : GeneratedUnit) : LogLevel × String :=
  (.info, u.interface ++ ": ok (" ++ toString u.methods.length ++ " method(s), factory `"
    ++ u.factory ++ "`)")

/-- **A check of sources reports on all their repositories**: those that are well are named, then
every diagnostic of the others, and it fails if there is one. -/
theorem run_check {g : Generator} {report : Report}
    (hsources : ∀ file ∈ files, (source? t.disk file).isSome)
    (hg : Generator.ofText c.generator.runtime c.generator.moduleName = .ok g)
    (hrun : g.run (repositories t.disk sourceRoot files) = .ok report) :
    (Command.runCheck c files sourceRoot).run t =
      report.conclusion (t.noted (files.map (countNote t.disk sourceRoot)
        ++ report.units.map okNote ++ report.failures.flatMap Failure.notes)) := by
  unfold Command.runCheck
  rw [run_bind_ok (run_discover sourceRoot hsources), run_bind_ok (run_generation_ok hg hrun _),
    run_bind_ok (Task.run_forM_note .info _ _ _), run_finish, Terminal.noted_noted,
    Terminal.noted_noted, ← List.append_assoc]
  rfl

theorem run_check_of_error {fault : CommandFault}
    (hsources : ∀ file ∈ files, (source? t.disk file).isSome)
    (hfails : ∀ t' : Terminal σ,
      (Command.generation c (repositories t.disk sourceRoot files)).run t' = .error fault t') :
    (Command.runCheck c files sourceRoot).run t =
      .error fault (t.noted (files.map (countNote t.disk sourceRoot))) := by
  unfold Command.runCheck
  rw [run_bind_ok (run_discover sourceRoot hsources), run_bind_error (hfails _)]

/-- A check succeeds exactly if the pass over the repositories is without failures. -/
theorem check_succeeds_iff (hsources : ∀ file ∈ files, (source? t.disk file).isSome) :
    (∃ t', (Command.runCheck c files sourceRoot).run t = .ok () t') ↔
      ∃ g report, Generator.ofText c.generator.runtime c.generator.moduleName = .ok g ∧
        g.run (repositories t.disk sourceRoot files) = .ok report ∧ report.isSuccess := by
  constructor
  · rintro ⟨t', h⟩
    have hgeneration := @run_generation σ c (repositories t.disk sourceRoot files)
    cases hg : Generator.ofText c.generator.runtime c.generator.moduleName with
    | error fault =>
      rw [hg] at hgeneration
      cases (run_check_of_error hsources hgeneration).symm.trans h
    | ok g =>
      rw [hg] at hgeneration
      dsimp only at hgeneration
      cases hrun : g.run (repositories t.disk sourceRoot files) with
      | error a =>
        rw [hrun] at hgeneration
        cases (run_check_of_error hsources hgeneration).symm.trans h
      | ok report =>
        rw [run_check hsources hg hrun, Report.conclusion] at h
        split at h
        · rename_i hsuccess
          exact ⟨g, report, rfl, hrun, hsuccess⟩
        · cases h
  · rintro ⟨g, report, hg, hrun, hsuccess⟩
    rw [run_check hsources hg hrun, Report.conclusion, if_pos hsuccess]
    exact ⟨_, rfl⟩

/-! ## Generating -/

theorem run_writeReport {report : Report} {directory : String} {summary : WriteSummary}
    {sink : DirectorySink σ} (hwritten : report.writeTo ⟨directory, [], t.disk⟩ = (summary, sink)) :
    (Command.writeReport report directory).run t =
      .ok (summary, sink.paths) { t with disk := sink.disk } := by
  simp only [Command.writeReport, EStateM.run, modifyGet, MonadStateOf.modifyGet, EStateM.modifyGet,
    hwritten]

/-- **Sources are generated from their external repositories**: whatever of the report can be written
is written, and the command fails if a repository failed or a file could not be written. -/
theorem run_generate {g : Generator} {report : Report} (output : Option String)
    {summary : WriteSummary} {sink : DirectorySink σ}
    (hsources : ∀ file ∈ files, (source? t.disk file).isSome)
    (hg : Generator.ofText c.generator.runtime c.generator.moduleName = .ok g)
    (hrun : g.run ((repositories t.disk sourceRoot files).filter (·.external)) = .ok report)
    (hwritten : report.writeTo ⟨output.getD c.generator.output, [], t.disk⟩ = (summary, sink)) :
    (Command.runGenerate c files output sourceRoot).run t =
      let t' := { t with disk := sink.disk }.noted (files.map (countNote t.disk sourceRoot)
        ++ skipNotes (repositories t.disk sourceRoot files)
        ++ writeNotes (output.getD c.generator.output) summary sink.paths
        ++ report.failures.flatMap Failure.notes)
      if !report.isSuccess then
        .error (.failed report.failures.length (report.failures.length + report.units.length)) t'
      else if summary.isSuccess then .ok () t' else .error (.unwritten summary.errors.length) t' := by
  let sources := files.map (countNote t.disk sourceRoot)
  let skipped := skipNotes (repositories t.disk sourceRoot files)
  let found := (t.noted sources).noted skipped
  have hwrite : (Command.writeReport report (output.getD c.generator.output)).run found =
      .ok (summary, sink.paths) { found with disk := sink.disk } := run_writeReport hwritten
  have hfound : { found with disk := sink.disk } =
      { t with disk := sink.disk }.noted (sources ++ skipped) :=
    Terminal.noted_noted { t with disk := sink.disk } sources skipped
  unfold Command.runGenerate
  rw [run_bind_ok (run_discover sourceRoot hsources), run_bind_ok (run_keepExternal _ _),
    run_bind_ok (run_generation_ok hg hrun _)]
  dsimp only
  rw [run_bind_ok hwrite, run_bind_ok (Task.run_forM_note .debug _ _ _),
    run_bind_ok (Task.run_note .info _ _), run_bind_ok (Task.run_forM_note .error _ _ _),
    Terminal.noted_writeNotes, hfound, Terminal.noted_noted]
  -- Failures are told last, whatever could not be written, and they decide the fault.
  have hfinish := run_finish report ({ t with disk := sink.disk }.noted
    (sources ++ skipped ++ writeNotes (output.getD c.generator.output) summary sink.paths))
  rw [Terminal.noted_noted, Report.conclusion] at hfinish
  cases hsuccess : report.isSuccess with
  | true =>
    rw [hsuccess, if_pos rfl] at hfinish
    rw [run_bind_ok hfinish]
    cases summary.isSuccess <;> rfl
  | false =>
    rw [hsuccess, if_neg (by decide)] at hfinish
    exact run_bind_error hfinish

end Sources

end GraphRepo

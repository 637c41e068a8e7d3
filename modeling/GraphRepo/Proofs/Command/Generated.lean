import Mathlib
import GraphRepo.Proofs.Command.Checked
import GraphRepo.Proofs.Repository.DirectoryTurns

/-!
# What is generated

A generation stops before it writes anything if one of its files is no source or the runtime crate
has no path. Otherwise every unit of an external repository has its turn, whatever becomes of the
other repositories and of the other units, and how the generation ends is known from the failures
and the turns.
-/

namespace GraphRepo

open Source

variable {σ : Type}

/-! ## Before anything is written -/

section Sources

variable [ReadableDisk σ] {files : List String} {sourceRoot : Option String}

theorem run_readSource_none {file : String} {t : Terminal σ} (h : source? t.disk file = none) :
    ∃ fault, (Command.readSource file).run t = .error fault t := by
  unfold source? at h
  split at h
  · rename_i text hread
    refine ⟨.notSource file, ?_⟩
    simp only [Command.readSource, EStateM.run, bind, EStateM.bind, get, getThe, MonadStateOf.get,
      EStateM.get, hread, h]
    rfl
  · rename_i fault hread
    refine ⟨.unreadable file fault, ?_⟩
    simp only [Command.readSource, EStateM.run, bind, EStateM.bind, get, getThe, MonadStateOf.get,
      EStateM.get, hread]
    rfl

theorem source_eq_none_of_readFile {disk : σ} {file : String} {fault : DiskFault}
    (h : ReadableDisk.readFile file disk = .error fault) : source? disk file = none := by
  rw [source?, h]

/-- The files before the first that is no source leave their notes, and nothing else happens. -/
theorem run_mapM_discoverFile_none (sourceRoot : Option String) :
    ∀ {files : List String} {t : Terminal σ}, (∃ file ∈ files, source? t.disk file = none) →
      ∃ fault notes, (files.mapM (Command.discoverFile sourceRoot)).run t =
        .error fault (t.noted notes)
  | [], _, h => by
    obtain ⟨file, hfile, -⟩ := h
    cases hfile
  | file :: files, t, h => by
    rw [List.mapM_cons]
    cases hsource : source? t.disk file with
    | none =>
      obtain ⟨fault, hfault⟩ := run_readSource_none hsource
      have hfile : (Command.discoverFile sourceRoot file).run t = .error fault t := by
        unfold Command.discoverFile
        exact run_bind_error hfault
      refine ⟨fault, [], ?_⟩
      rw [run_bind_error hfile, Terminal.noted_nil]
    | some items =>
      have hlater : ∃ file ∈ files, source? t.disk file = none := by
        obtain ⟨bad, hbad, hnone⟩ := h
        rcases List.mem_cons.1 hbad with rfl | hmem
        · cases hsource.symm.trans hnone
        · exact ⟨bad, hmem, hnone⟩
      have hfile := run_discoverFile sourceRoot (Option.isSome_of_eq_some hsource)
      obtain ⟨fault, notes, hrest⟩ := @run_mapM_discoverFile_none sourceRoot files
        (t.noted [countNote t.disk sourceRoot file]) hlater
      refine ⟨fault, [countNote t.disk sourceRoot file] ++ notes, ?_⟩
      rw [run_bind_ok hfile, run_bind_error hrest, Terminal.noted_noted]

theorem run_discover_none (sourceRoot : Option String) {t : Terminal σ}
    (h : ∃ file ∈ files, source? t.disk file = none) :
    ∃ fault notes, (Command.discover sourceRoot files).run t = .error fault (t.noted notes) := by
  obtain ⟨fault, notes, hrun⟩ := run_mapM_discoverFile_none sourceRoot h
  exact ⟨fault, notes, by unfold Command.discover; exact run_bind_error hrun⟩

/-- **Nothing is written** if a file is no source or the runtime crate has no path. -/
theorem run_generate_stops {c : Configuration} {output : Option String} {t : Terminal σ}
    (h : (∃ file ∈ files, source? t.disk file = none) ∨ readPath? c.generator.runtime = none) :
    ∃ fault notes, (Command.runGenerate c files output sourceRoot).run t =
      .error fault (t.noted notes) := by
  unfold Command.runGenerate
  by_cases hbad : ∃ file ∈ files, source? t.disk file = none
  · obtain ⟨fault, notes, hrun⟩ := run_discover_none sourceRoot hbad
    exact ⟨fault, notes, run_bind_error hrun⟩
  · have hsources : ∀ file ∈ files, (source? t.disk file).isSome := by
      intro file hfile
      rw [Option.isSome_iff_ne_none]
      exact fun hnone => hbad ⟨file, hfile, hnone⟩
    have hpath : readPath? c.generator.runtime = none := h.resolve_left hbad
    have hfault : Generator.ofText c.generator.runtime c.generator.moduleName =
        .error (.invalidRuntime c.generator.runtime) := by
      rw [Generator.ofText, hpath]
    refine ⟨.generator (.invalidRuntime c.generator.runtime),
      files.map (countNote t.disk sourceRoot) ++ skipNotes (repositories t.disk sourceRoot files),
      ?_⟩
    rw [run_bind_ok (run_discover sourceRoot hsources), run_bind_ok (run_keepExternal _ _),
      Terminal.noted_noted]
    refine run_bind_error ?_
    rw [run_generation, hfault]

end Sources

/-! ## How a generation ends -/

/-- What a generation comes to, by the repositories that failed and what became of the units. -/
def ending (failures : List Failure) (turns : List (GeneratedUnit × Fate)) (t : Terminal σ) :
    EStateM.Result CommandFault (Terminal σ) Unit :=
  if !failures.isEmpty then .error (.failed failures.length (failures.length + turns.length)) t
  else if turns.all (·.2 = .written) then .ok () t
  else .error (.unwritten (turns.countP (·.2 ≠ .written))) t

theorem ending_succeeds_iff {failures : List Failure} {turns : List (GeneratedUnit × Fate)}
    {t : Terminal σ} : (∃ t', ending failures turns t = .ok () t') ↔
      failures = [] ∧ ∀ p ∈ turns, p.2 = .written := by
  have hall : turns.all (·.2 = .written) ↔ ∀ p ∈ turns, p.2 = .written := by
    simp only [List.all_eq_true, decide_eq_true_eq]
  rw [← hall]
  cases failures with
  | cons failure rest => simp [ending]
  | nil => by_cases hwritten : turns.all (·.2 = .written) <;> simp [ending, hwritten]

namespace Generator

/-- A pass that is not aborted fails for no repository exactly if all have units. -/
theorem failures_eq_nil {g : Generator} {ds : List Discovered}
    (hnoAbort : ∀ d ∈ ds, ∀ a, g.generate d.item d.modulePath ≠ .error (.abort a)) :
    ds.filterMap g.failure? = [] ↔ ∀ d ∈ ds, ∃ unit, g.generate d.item d.modulePath = .ok unit := by
  rw [List.filterMap_eq_nil_iff]
  refine forall₂_congr fun d hd => ?_
  rw [failure?]
  rcases hgenerate : g.generate d.item d.modulePath with (faults | a) | unit
  · simp
  · exact absurd hgenerate (hnoAbort d hd a)
  · simp

end Generator

section Sources

variable [ReadableDisk σ]

/-- **What a generation leaves and how it ends.** If a file is no source or the runtime crate has no
path, it fails and leaves nothing but notes in the log. Otherwise the units of the external
repositories have their turns on the disk, and that is all that happens there. Whatever files these
repositories were found in and whatever else is in these, the turns and the failures are the same.
The generation succeeds exactly if every external repository has a unit and every unit is written,
and all that went wrong is in the log. -/
theorem generate_ends (c : Configuration) (output sourceRoot : Option String) (t : Terminal σ) :
    let directory := output.getD c.generator.output
    let run := fun files => (Command.runGenerate c files output sourceRoot).run t
    (∀ files, (∃ file ∈ files, source? t.disk file = none) ∨ readPath? c.generator.runtime = none →
      ∃ fault notes, run files = .error fault (t.noted notes)) ∧
    ∀ g external, Generator.ofText c.generator.runtime c.generator.moduleName = .ok g →
      (∀ d ∈ external, ∀ a, g.generate d.item d.modulePath ≠ .error (.abort a)) →
      ∃ turns left, WritesInTurn directory (external.filterMap g.unit?) turns t.disk left ∧
        ∀ files, (∀ file ∈ files, (source? t.disk file).isSome) →
          (repositories t.disk sourceRoot files).filter (·.external) = external →
          ∃ notes, run files =
              ending (external.filterMap g.failure?) turns ({ t with disk := left }.noted notes) ∧
            ((∃ t', run files = .ok () t') ↔
              (∀ d ∈ external, ∃ unit, g.generate d.item d.modulePath = .ok unit) ∧
                ∀ p ∈ turns, p.2 = .written) ∧
            (∀ d ∈ external, ∀ failure, g.failure? d = some failure →
              ∀ note ∈ failure.notes, note ∈ notes) ∧
            ∀ p ∈ turns, ∀ fault, p.2.fault? directory p.1.fileName = some fault →
              (.error, fault.message) ∈ notes := by
  intro directory run
  refine ⟨fun files h => run_generate_stops h, fun g external hg hnoAbort => ?_⟩
  let report : Report := ⟨external.filterMap g.unit?, external.filterMap g.failure?⟩
  have hrun : g.run external = .ok report := Generator.run_eq_ok.2 ⟨hnoAbort, rfl⟩
  obtain ⟨turns, hturns, herrors⟩ := writeTo_inTurn report directory t.disk
  obtain ⟨summary, sink, hwritten⟩ : ∃ summary sink,
      report.writeTo (⟨directory, [], t.disk⟩ : DirectorySink σ) = (summary, sink) := ⟨_, _, rfl⟩
  rw [hwritten] at hturns herrors
  refine ⟨turns, sink.disk, hturns, fun files hsources hexternal => ?_⟩
  subst hexternal
  have hresult := run_generate output hsources hg hrun hwritten
  extract_lets t' at hresult
  have hunits : report.units.length = turns.length := by
    rw [← hturns.ofUnits, List.length_map]
  have hsuccess : summary.isSuccess = turns.all (·.2 = .written) := by
    rw [WriteSummary.isSuccess, herrors, isEmpty_faults]
  have hcount : summary.errors.length = turns.countP (·.2 ≠ .written) := by
    rw [herrors, length_faults]
  rw [hunits, hsuccess, hcount] at hresult
  have hends : run files = ending report.failures turns t' := hresult
  refine ⟨_, hends, ?_, fun d hd failure hfailure note hnote => ?_, fun p hp fault hfault => ?_⟩
  · rw [hends, ending_succeeds_iff]
    exact and_congr_left' (Generator.failures_eq_nil hnoAbort)
  · exact List.mem_append_right _
      (List.mem_flatMap.2 ⟨failure, List.mem_filterMap.2 ⟨d, hd, hfailure⟩, hnote⟩)
  · have hreported : fault ∈ summary.errors := by
      rw [herrors]
      exact List.mem_filterMap.2 ⟨p, hp, hfault⟩
    have hnote : (LogLevel.error, fault.message) ∈ writeNotes directory summary sink.paths :=
      List.mem_append_right _ (List.mem_map_of_mem hreported)
    exact List.mem_append_left _ (List.mem_append_right _ hnote)

end Sources

/-- With a file that is not there nothing is generated; of two traits of one name the first is, and
the generation fails for the other. -/
theorem generate_ends_threeFiles :
    let t : Terminal FileSystem := .fresh threeFiles (.server [])
    (∃ fault notes, (Command.runGenerate .default ["a.rs", "d.rs"] none none).run t =
      .error fault (t.noted notes)) ∧
    ∃ left notes, (Command.runGenerate .default ["a.rs", "c.rs"] none none).run t =
        .error (.unwritten 1) ({ t with disk := left }.noted notes) ∧
      (.error, (SinkFault.alreadyWritten "r_impl.rs").message) ∈ notes := by
  intro t
  obtain ⟨hstops, hends⟩ := generate_ends .default none none t
  have hread : threeFiles.readFile "d.rs" = .error .notFound :=
    FileSystem.readFile_of_missing (by decide) (by decide)
  have hmissing : source? t.disk "d.rs" = none := source_eq_none_of_readFile hread
  refine ⟨hstops _ (.inl ⟨"d.rs", by simp, hmissing⟩), ?_⟩
  obtain ⟨ha, -, hc⟩ := source_threeFiles
  obtain ⟨hfile, -⟩ := fileName_bare defaultGenerator.runtime.tokens
  have hsources : ∀ file ∈ ["a.rs", "c.rs"], (source? t.disk file).isSome := by
    simp [t, Terminal.fresh, ha, hc]
  have hexternal : (repositories t.disk none ["a.rs", "c.rs"]).filter (·.external) =
      [foundBare "R", foundBare "R"] := congrArg _ repositories_threeFiles.2
  obtain ⟨hrun, -⟩ := run_foundBare identifier_snake_r identifier_snake_r
  obtain ⟨hnoAbort, hreport⟩ := Generator.run_eq_ok.1 hrun
  obtain ⟨turns, left, hturns, hfiles⟩ := hends defaultGenerator _ ofText_defaultRuntime hnoAbort
  obtain ⟨notes, hresult, -, -, hnotes⟩ := hfiles _ hsources hexternal
  obtain ⟨hunits, hfailures⟩ := Report.mk.inj hreport
  rw [← hunits] at hturns
  rw [← hfailures] at hresult
  have hfates := hturns.kept (takesFiles_threeFiles (by simp [hfile]))
  obtain ⟨⟨u, fate⟩, rest, rfl, hu, hrest⟩ := List.map_eq_cons_iff.1 hturns.ofUnits
  obtain ⟨⟨v, fate'⟩, rest', rfl, hv, hnil⟩ := List.map_eq_cons_iff.1 hrest
  obtain rfl := List.map_eq_nil_iff.1 hnil
  dsimp only at hu hv
  -- No name is taken before the first of the two, and that of the second is.
  have hwritten : fate = .written := by
    refine (hfates _ List.mem_cons_self).resolve_right fun h => ?_
    exact not_written_nil _ ((hturns.repeated [] u fate _ rfl).1 h)
  subst hwritten
  have hrepeated : fate' = .repeated := by
    refine (hturns.repeated [(u, .written)] v fate' [] rfl).2 ⟨u, List.mem_cons_self, ?_⟩
    rw [hu, hv]
  subst hrepeated
  refine ⟨left, notes, hresult, ?_⟩
  have hname : v.fileName = "r_impl.rs" := by rw [hv, hfile]
  have hfault := hnotes (v, .repeated) (by simp) _ rfl
  rwa [hname] at hfault

end GraphRepo

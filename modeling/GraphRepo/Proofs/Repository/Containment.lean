import Mathlib
import GraphRepo.Proofs.Confined
import GraphRepo.Proofs.Repository.DirectoryTurns
import GraphRepo.Proofs.Repository.FileName

/-!
# Containment of generated files

No module path and no configured namespace leads out of the directory that is written into. Of what
they say only letters and digits come into the name of a file, in lower case, and neither a dot nor
a mark between directories is the lower case of one of them.
-/

namespace GraphRepo

open FilePath FileSystem Source

/-! ## What lower case cannot have -/

namespace Text

/-- Whether runs have the code points of characters as images, and not that of a NUL. -/
def characterImages : List Nat → Bool
  | lo :: hi :: _ :: image :: rest =>
    0 < image && (image + (hi - lo) < 0xd800 || (0xdfff < image && image + (hi - lo) < 0x110000)) &&
      characterImages rest
  | _ => true

theorem isValidChar_mapRuns {runs : List Nat} {n : Nat} (hruns : characterImages runs)
    (hvalid : n.isValidChar) (hne : n ≠ 0) :
    (mapRuns runs n).isValidChar ∧ mapRuns runs n ≠ 0 := by
  fun_induction mapRuns runs n with
  | case1 => exact ⟨hvalid, hne⟩
  | case2 lo hi step image rest n hlo hhi hstep =>
    simp only [characterImages, Bool.and_eq_true, Bool.or_eq_true, decide_eq_true_iff] at hruns
    unfold Nat.isValidChar
    omega
  | case3 => exact ⟨hvalid, hne⟩
  | case4 lo hi step image rest n hlo hhi ih =>
    simp only [characterImages, Bool.and_eq_true] at hruns
    exact ih hruns.2 hvalid hne
  | case5 => exact ⟨hvalid, hne⟩

theorem nul_not_mem_lower {c : Char} (hne : c ≠ '\x00') : '\x00' ∉ lower c := by
  have hnat : c.toNat ≠ 0 := fun h => hne (Char.toNat_inj.1 h)
  have hruns : characterImages lowerRuns := by decide
  have hvalid : c.toNat.isValidChar := c.valid
  obtain ⟨hvalid, himage⟩ := isValidChar_mapRuns hruns hvalid hnat
  have htoNat : (Char.ofNat (mapRuns lowerRuns c.toNat)).toNat = mapRuns lowerRuns c.toNat := by
    rw [Char.toNat_ofNat, if_pos hvalid]
  unfold lower
  split
  · decide
  · intro h
    rw [← List.mem_singleton.1 h] at htoNat
    exact himage htoNat.symm

theorem not_mem_snakeCase {d : Char} (hmarks : d ≠ '_' ∧ d ≠ Char.ofNat 962)
    (hd : isAlphanumeric d = false) (hlower : ∀ {c : Char}, c ≠ d → d ∉ lower c)
    (name : List Char) : d ∉ snakeCase name := by
  intro h
  rcases mem_lower_of_mem_snakeCase h with hunderscore | hsigma | ⟨c, -, hc, hmem⟩
  · exact hmarks.1 hunderscore
  · exact hmarks.2 hsigma
  · have hne : c ≠ d := by
      rintro rfl
      rw [hd] at hc
      cases hc
    exact hlower hne hmem

/-- The characters that could make more of a file name than a plain one. -/
def pathMarks : List Char := ['.', '/', '\\', ':', '\x00']

theorem pathMark_not_mem_snakeCase {d : Char} (hd : d ∈ pathMarks) (name : List Char) :
    d ∉ snakeCase name := by
  have hmark {d : Char} (hmarks : d ≠ '_' ∧ d ≠ Char.ofNat 962) (hd : isAlphanumeric d = false)
      (hlower : IsLowerOfNone d) : d ∉ snakeCase name :=
    not_mem_snakeCase hmarks hd (not_mem_lower hlower) name
  have hnul : '\x00' ∉ snakeCase name :=
    not_mem_snakeCase (by decide) (by decide) nul_not_mem_lower name
  simp only [pathMarks, List.mem_cons, List.not_mem_nil, or_false] at hd
  rcases hd with rfl | rfl | rfl | rfl | rfl
  · exact hmark (by decide) (by decide) (by decide)
  · exact hmark (by decide) (by decide) (by decide)
  · exact hmark (by decide) (by decide) (by decide)
  · exact hmark (by decide) (by decide) (by decide)
  · exact hnul

end Text

/-! ## Plain names -/

/-- The name of a file that is nothing but the one plain component of a path: it ends in `_impl.rs`,
the dot there is its only one, and no mark between directories or drives is in it. -/
structure IsPlainFile (name : String) : Prop where
  stem : ∃ stem : String, name = stem ++ "_impl.rs" ∧ ∀ d ∈ Text.pathMarks, d ∉ stem.toList
  components : components name = [.normal name]

theorem intercalate_append_last (sep last more : String) : ∀ before : List String,
    sep.intercalate (before ++ [last ++ more]) = sep.intercalate (before ++ [last]) ++ more
  | [] => by
    rw [List.nil_append, List.nil_append, String.intercalate_singleton,
      String.intercalate_singleton]
  | s :: before => by
    rw [intercalate_concat, intercalate_concat]
    simp only [String.append_assoc]

theorem pathMark_not_mem_fileStem {d : Char} (hd : d ∈ Text.pathMarks)
    (modulePath : Option String) (name : String) :
    d ∉ ("__".intercalate (modulesInName modulePath ++ [snake name])).toList := by
  have hunderscores : d ∉ "__".toList := by
    have htext : "__".toList = ['_', '_'] := rfl
    have hunderscore : '_' ∉ Text.pathMarks := by decide
    have hne : d ≠ '_' := fun h => hunderscore (h ▸ hd)
    rw [htext]
    simp [hne]
  intro h
  rw [String.toList_intercalate] at h
  rcases Text.mem_intercalate h with hsep | ⟨w, hw, hmem⟩
  · exact hunderscores hsep
  · obtain ⟨text, htext, rfl⟩ := List.mem_map.1 hw
    rcases List.mem_append.1 htext with hmodule | hname
    · obtain ⟨segment, -, rfl⟩ := List.mem_map.1 hmodule
      rw [String.toList_ofList] at hmem
      exact Text.pathMark_not_mem_snakeCase hd segment hmem
    · rw [List.mem_singleton.1 hname, snake, String.toList_ofList] at hmem
      exact Text.pathMark_not_mem_snakeCase hd name.toList hmem

theorem isFileName_of_stem {name stem : String} (hname : name = stem ++ "_impl.rs")
    (hstem : ∀ d ∈ Text.pathMarks, d ∉ stem.toList) : IsFileName name := by
  have htext : name.toList = stem.toList ++ "_impl.rs".toList := by
    rw [hname, String.toList_append]
  have hlong (text : String) (hshort : text.toList.length < 8) : name ≠ text := by
    rintro rfl
    rw [htext, List.length_append] at hshort
    have hlength : "_impl.rs".toList.length = 8 := rfl
    omega
  refine ⟨hlong "" (by decide), hlong "." (by decide), hlong ".." (by decide), ?_⟩
  rw [htext, List.mem_append, not_or]
  exact ⟨hstem '/' (by decide), by decide⟩

/-- **Every file has a plain name.** -/
theorem Declaration.isPlainFile (d : Declaration) : IsPlainFile d.fileName := by
  let stem := "__".intercalate (modulesInName d.modulePath ++ [snake d.name])
  have hname : d.fileName = stem ++ "_impl.rs" := by
    rw [fileName_eq_fileStem, fileStem, intercalate_append_last, String.append_assoc]
    rfl
  have hstem : ∀ c ∈ Text.pathMarks, c ∉ stem.toList :=
    fun c hc => pathMark_not_mem_fileStem hc d.modulePath d.name
  exact ⟨⟨stem, hname, hstem⟩, components_of_isFileName (isFileName_of_stem hname hstem)⟩

theorem IsPlainFile.isFileName {name : String} (h : IsPlainFile name) : IsFileName name := by
  obtain ⟨stem, hname, hstem⟩ := h.stem
  exact isFileName_of_stem hname hstem

theorem isPlainFile_of_run {g : Generator} {ds : List Discovered} {report : Report}
    (h : g.run ds = .ok report) : ∀ unit ∈ report.units, IsPlainFile unit.fileName := by
  obtain ⟨-, rfl⟩ := Generator.run_eq_ok.1 h
  intro unit hunit
  obtain ⟨d, -, hd⟩ := List.mem_filterMap.1 hunit
  unfold Generator.unit? at hd
  split at hd
  · rename_i made hmade
    cases hd
    obtain ⟨_, p, -, -, rfl⟩ := Generator.generate_eq_ok.1 hmade
    exact Declaration.isPlainFile _
  · cases hd

/-! ## Writing files with plain names -/

theorem Fate.Takes.confined {directory name contents : String} {fate : Fate} {fs left : FileSystem}
    {files : List String} (h : fate.Takes directory name contents fs left) (hname : IsFileName name)
    (hfile : name ∈ files) : Confined directory files fs left := by
  have hmakes := createDirectory_confined directory files fs
  cases h with
  | repeated => exact Confined.refl directory files fs
  | noDirectory hleft =>
    have hdisk : (createDirectory directory fs).2 = left := congrArg Prod.snd hleft
    exact hdisk ▸ hmakes
  | written hmade hleft =>
    rename_i made
    have hdisk : (createDirectory directory fs).2 = made := congrArg Prod.snd hmade
    have hwrites := @writeFile_confined directory _ files hname hfile contents made
    have hdisk' : (writeFile (join directory name) contents made).2 = left :=
      congrArg Prod.snd hleft
    exact (hdisk ▸ hmakes).trans (hdisk' ▸ hwrites)
  | refused hmade hleft =>
    rename_i made fault
    have hdisk : (createDirectory directory fs).2 = made := congrArg Prod.snd hmade
    have hwrites := @writeFile_confined directory _ files hname hfile contents made
    have hdisk' : (writeFile (join directory name) contents made).2 = left :=
      congrArg Prod.snd hleft
    exact (hdisk ▸ hmakes).trans (hdisk' ▸ hwrites)

theorem Turns.confined {directory : String} {turns : List (GeneratedUnit × Fate)}
    {fs left : FileSystem} {files : List String} (h : Turns directory turns fs left)
    (hnames : ∀ p ∈ turns, IsFileName p.1.fileName ∧ p.1.fileName ∈ files) :
    Confined directory files fs left := by
  induction h with
  | nil => exact Confined.refl directory files _
  | cons hu hturns ih =>
    obtain ⟨⟨hname, hfile⟩, hrest⟩ := List.forall_mem_cons.1 hnames
    exact (hu.confined hname hfile).trans (ih hrest)

theorem writeUnits_confined {units : List GeneratedUnit}
    (h : ∀ unit ∈ units, IsPlainFile unit.fileName) (s : DirectorySink FileSystem) :
    Confined s.root (units.map (·.fileName)) s.disk (writeUnits units s).2.disk := by
  obtain ⟨turns, rfl, hturns, -, -⟩ := writeUnits_turns units s
  refine hturns.confined fun p hp => ?_
  have hunit := @List.mem_map_of_mem _ _ _ _ Prod.fst hp
  exact ⟨(h p.1 hunit).isFileName, List.mem_map_of_mem hunit⟩

/-- **Generated files stay in the directory they are written into.** Whatever the module path, the
configured namespace and the trait are, the name of the file is one plain component, which is added
to those of the directory. So a pass that is written into a directory changes nothing on the disk but
the files of its units right in that directory, and makes no directories but those on the way. -/
theorem fileName_contained (g : Generator) :
    (∀ d : Declaration, IsPlainFile d.fileName ∧
      ∀ root, components (join root d.fileName) = components root ++ [.normal d.fileName]) ∧
    ∀ ds report, g.run ds = .ok report → (∀ unit ∈ report.units, IsPlainFile unit.fileName) ∧
      ∀ s : DirectorySink FileSystem,
        Confined s.root (report.units.map (·.fileName)) s.disk (report.writeTo s).2.disk := by
  refine ⟨fun d => ⟨d.isPlainFile, components_join d.isPlainFile.isFileName⟩,
    fun ds report h => ⟨isPlainFile_of_run h, ?_⟩⟩
  exact writeUnits_confined (isPlainFile_of_run h)

/-- A namespace that names the directory above, a place at the root, a drive and a NUL. -/
def hostileNamespace : String := "..::/etc\\C:\x00y"

/-- With a namespace that leads elsewhere the file still has a plain name. -/
theorem fileName_contained_hostile :
    let g : Generator := ⟨.segments true [] (.plain "neorepo"), some hostileNamespace⟩
    let sink : DirectorySink FileSystem := ⟨"out", [], ofDirectory ["w"]⟩
    ∃ report, g.run [⟨.trait markedR, none, false⟩] = .ok report ∧
      report.units.map (·.fileName) = ["__etc_c_y__r_impl.rs"] ∧
      Confined "out" ["__etc_c_y__r_impl.rs"] sink.disk (report.writeTo sink).2.disk := by
  intro g sink
  have hgenerate : g.generate (.trait markedR) none =
      .ok ((barePlan "R" "r").unit g.runtime.tokens (some hostileNamespace)) :=
    Generator.generate_bareTrait _ identifier_snake_r none
  have hrun : g.run [⟨.trait markedR, none, false⟩] =
      .ok ⟨[(barePlan "R" "r").unit g.runtime.tokens (some hostileNamespace)], []⟩ :=
    Generator.run_of_units (by rw [List.map_singleton, hgenerate, List.map_singleton])
  have hfile : ((barePlan "R" "r").unit g.runtime.tokens (some hostileNamespace)).fileName =
      "__etc_c_y__r_impl.rs" := by
    change Declaration.fileName
      { (barePlan "R" "r").declaration with modulePath := some hostileNamespace } = _
    decide +kernel
  obtain ⟨-, hreports⟩ := fileName_contained g
  obtain ⟨-, hconfined⟩ := hreports _ _ hrun
  have hfiles := congrArg (fun name => [name]) hfile
  refine ⟨_, hrun, hfiles, ?_⟩
  rw [← hfile]
  exact hconfined sink

end GraphRepo

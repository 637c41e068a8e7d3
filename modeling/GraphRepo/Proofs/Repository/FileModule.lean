import Mathlib
import GraphRepo.Proofs.FilePath
import GraphRepo.Proofs.Repository.FileName

/-!
# The module of a file

A source file below the root of a crate is a module below the crate: that of its directory and its
stem. A `mod.rs` is the module of its directory, and so are `lib.rs` and `main.rs` right below the
root. So two files are one module exactly if one of them is the `mod.rs` of the directory that has
the other's stem, or if both are the root of the crate.
-/

namespace GraphRepo

open FilePath

/-! ## Files below a directory -/

namespace FilePath

/-- A file lies below a directory at the end of some names. -/
def LiesBelow (root file : String) (names : List String) : Prop :=
  components file = components root ++ names.map .normal

instance (root file : String) (names : List String) : Decidable (LiesBelow root file names) :=
  inferInstanceAs (Decidable (_ = _))

/-- The extension of a path: that of its last component, if this is a name. -/
def extension? (path : String) : Option String :=
  ((components path).getLast?.bind Component.name?).bind fun name =>
    (stemAndExtension? name).map Prod.snd

variable {root file : String} {names : List String}

theorem LiesBelow.iff_eq {names' : List String} (h : LiesBelow root file names) :
    LiesBelow root file names' ↔ names = names' := by
  have hnormal (name name' : String) (heq : Component.normal name = .normal name') :
      name = name' := Component.normal.inj heq
  rw [LiesBelow, h, List.append_cancel_left_eq, List.map_inj_right hnormal]

theorem LiesBelow.ne_empty (h : LiesBelow root file names) : ∀ name ∈ names, name ≠ "" := by
  intro name hname
  have hmem : Component.normal name ∈ components file := by
    rw [h]
    exact List.mem_append_right _ (List.mem_map_of_mem hname)
  exact ne_empty_of_normal_mem hmem

theorem LiesBelow.extension_eq_some {name extension : String}
    (h : LiesBelow root file (names ++ [name])) :
    extension? file = some extension ↔
      ∃ stem, name = stem ++ "." ++ extension ∧ stem ≠ "" ∧ '.' ∉ extension.toList := by
  have hlast : (components file).getLast? = some (.normal name) := by
    rw [h, List.map_append, ← List.append_assoc]
    exact List.getLast?_concat
  rw [extension?, hlast, Option.bind_some, Component.name?, Option.bind_some,
    Option.map_eq_some_iff]
  simp [stemAndExtension?_eq_some]

end FilePath

/-! ## The module that a file is -/

/-- A file that is the module of its directory, by the names of its directories and its stem. -/
def StandsForDirectory (parents : List String) (stem : String) : Prop :=
  stem = "mod" ∨ (parents = [] ∧ (stem = "lib" ∨ stem = "main"))

instance (parents : List String) (stem : String) : Decidable (StandsForDirectory parents stem) :=
  inferInstanceAs (Decidable (_ ∨ _))

/-- The names of the modules down to a file, by those of its directories and its stem. -/
def modulesTo (parents : List String) (stem : String) : List String :=
  if StandsForDirectory parents stem then parents else parents ++ [stem]

variable {root file module : String} {parents parents' : List String} {stem stem' : String}

theorem append_rs (stem : String) : stem ++ ".rs" = stem ++ "." ++ "rs" := by
  rw [String.append_assoc]
  rfl

theorem crate_cons_modulesTo (parents : List String) (stem : String) :
    ("crate" :: parents ++
      if stem = "mod" || (parents.isEmpty && (stem = "lib" || stem = "main")) then [] else [stem]) =
        "crate" :: modulesTo parents stem := by
  have hcondition : (stem = "mod" || (parents.isEmpty && (stem = "lib" || stem = "main"))) = true ↔
      StandsForDirectory parents stem := by simp [StandsForDirectory]
  rw [modulesTo, List.cons_append]
  by_cases h : StandsForDirectory parents stem
  · rw [if_pos h, if_pos (hcondition.2 h), List.append_nil]
  · rw [if_neg h, if_neg (mt hcondition.1 h)]

/-- **A source file is the module of its directories and its stem.** -/
theorem modulePathFor_eq_some :
    modulePathFor root file = some module ↔ ∃ parents stem, stem ≠ "" ∧
      LiesBelow root file (parents ++ [stem ++ ".rs"]) ∧
        module = cratePath (modulesTo parents stem) := by
  unfold modulePathFor
  constructor
  · intro h
    obtain ⟨relative, hrelative, h⟩ := Option.bind_eq_some_iff.1 h
    obtain ⟨names, hnames, h⟩ := Option.bind_eq_some_iff.1 h
    obtain ⟨last, hlast, h⟩ := Option.bind_eq_some_iff.1 h
    obtain ⟨⟨stem, extension⟩, hstem, h⟩ := Option.bind_eq_some_iff.1 h
    obtain ⟨_, hrs, hmodule⟩ := Option.bind_eq_some_iff.1 h
    have hrs : extension = "rs" := (Option.guard_eq_some' _).1 hrs
    obtain ⟨parents, hparents⟩ := List.getLast?_eq_some_iff.1 hlast
    obtain ⟨hname, hne, -⟩ := stemAndExtension?_eq_some.1 hstem
    have hnames' : names = parents ++ [stem ++ ".rs"] := by rw [hparents, hname, hrs, append_rs]
    refine ⟨parents, stem, hne, ?_, ?_⟩
    · rw [LiesBelow, ← hnames', ← mapM_name.1 hnames]
      exact dropBase?_eq_some.1 hrelative
    · rw [cratePath, ← crate_cons_modulesTo, ← Option.some.inj hmodule, hnames',
        List.dropLast_concat]
  · rintro ⟨parents, stem, hne, hlies, rfl⟩
    have hrelative := dropBase?_eq_some.2 hlies
    have hnames := mapM_name.2 (Eq.refl ((parents ++ [stem ++ ".rs"]).map Component.normal))
    have hlast : (parents ++ [stem ++ ".rs"]).getLast? = some (stem ++ ".rs") :=
      List.getLast?_concat
    have hstem : stemAndExtension? (stem ++ ".rs") = some (stem, "rs") :=
      stemAndExtension?_eq_some.2 ⟨append_rs stem, hne, by decide⟩
    simp only [hrelative, hnames, hlast, hstem, Option.bind_eq_bind, Option.bind_some]
    rw [List.dropLast_concat, crate_cons_modulesTo]
    rfl

/-! ## Two files -/

/-- Two files of which one is named by a stem and the other is the `mod.rs` of the directory of that
name. -/
def FileAndDirectory (names names' : List String) : Prop :=
  ∃ parents stem, names = parents ++ [stem ++ ".rs"] ∧ names' = parents ++ [stem, "mod.rs"] ∧
    ¬StandsForDirectory parents stem

/-- The files that are the root of a crate. -/
def rootFiles : List (List String) := [["lib.rs"], ["main.rs"], ["mod.rs"]]

theorem concat_rs_inj : parents ++ [stem ++ ".rs"] = parents' ++ [stem' ++ ".rs"] ↔
    parents = parents' ∧ stem = stem' := by
  rw [List.append_singleton_inj, String.append_left_inj]

theorem fileAndDirectory_iff :
    FileAndDirectory (parents ++ [stem ++ ".rs"]) (parents' ++ [stem' ++ ".rs"]) ↔
      ¬StandsForDirectory parents stem ∧ parents' = parents ++ [stem] ∧ stem' = "mod" := by
  have hdirectory (above : List String) (name : String) :
      above ++ [name, "mod.rs"] = (above ++ [name]) ++ ["mod" ++ ".rs"] := by
    rw [List.append_assoc]
    rfl
  constructor
  · rintro ⟨above, name, hfile, hfile', hstands⟩
    obtain ⟨rfl, rfl⟩ := concat_rs_inj.1 hfile
    rw [hdirectory] at hfile'
    exact ⟨hstands, concat_rs_inj.1 hfile'⟩
  · rintro ⟨hstands, rfl, rfl⟩
    exact ⟨parents, stem, rfl, (hdirectory parents stem).symm, hstands⟩

theorem concat_rs_mem_rootFiles : parents ++ [stem ++ ".rs"] ∈ rootFiles ↔
    parents = [] ∧ StandsForDirectory parents stem := by
  have hroot : rootFiles = ["lib", "main", "mod"].map fun name => [] ++ [name ++ ".rs"] := rfl
  rw [hroot, List.mem_map]
  constructor
  · rintro ⟨name, hname, heq⟩
    obtain ⟨rfl, rfl⟩ := concat_rs_inj.1 heq
    refine ⟨rfl, ?_⟩
    simp only [List.mem_cons, List.not_mem_nil, or_false] at hname
    rcases hname with rfl | rfl | rfl
    · exact .inr ⟨rfl, .inl rfl⟩
    · exact .inr ⟨rfl, .inr rfl⟩
    · exact .inl rfl
  · rintro ⟨rfl, hstands⟩
    refine ⟨stem, ?_, rfl⟩
    rcases hstands with rfl | ⟨-, rfl | rfl⟩ <;> decide

theorem StandsForDirectory.eq_mod (h : StandsForDirectory parents stem) (hbelow : parents ≠ []) :
    stem = "mod" :=
  h.resolve_right fun hroot => hbelow hroot.1

theorem FileAndDirectory.stands
    (h : FileAndDirectory (parents ++ [stem ++ ".rs"]) (parents' ++ [stem' ++ ".rs"])) :
    ¬StandsForDirectory parents stem ∧ StandsForDirectory parents' stem' := by
  obtain ⟨hstands, -, hmod⟩ := fileAndDirectory_iff.1 h
  exact ⟨hstands, .inl hmod⟩

theorem FileAndDirectory.length_eq {names names' : List String}
    (h : FileAndDirectory names names') : names'.length = names.length + 1 := by
  obtain ⟨parents, stem, rfl, rfl, -⟩ := h
  simp

theorem append_singleton_eq_iff (h : ¬StandsForDirectory parents stem)
    (h' : StandsForDirectory parents' stem') :
    parents ++ [stem] = parents' ↔
      FileAndDirectory (parents ++ [stem ++ ".rs"]) (parents' ++ [stem' ++ ".rs"]) := by
  rw [fileAndDirectory_iff, and_iff_right h]
  constructor
  · rintro rfl
    exact ⟨rfl, h'.eq_mod (List.append_ne_nil_of_right_ne_nil _ (List.cons_ne_nil _ _))⟩
  · rintro ⟨rfl, -⟩
    rfl

/-- Two files are one module if they are one file, if one of them is named by its stem and the other
stands for the directory of that name, or if both are roots. -/
theorem modulesTo_eq_iff :
    modulesTo parents stem = modulesTo parents' stem' ↔
      (parents = parents' ∧ stem = stem') ∨
      FileAndDirectory (parents ++ [stem ++ ".rs"]) (parents' ++ [stem' ++ ".rs"]) ∨
      FileAndDirectory (parents' ++ [stem' ++ ".rs"]) (parents ++ [stem ++ ".rs"]) ∨
      (parents ++ [stem ++ ".rs"] ∈ rootFiles ∧ parents' ++ [stem' ++ ".rs"] ∈ rootFiles) := by
  rw [concat_rs_mem_rootFiles, concat_rs_mem_rootFiles]
  unfold modulesTo
  by_cases h : StandsForDirectory parents stem <;> by_cases h' : StandsForDirectory parents' stem'
  -- Both are their directories: below the root both are called `mod.rs`.
  · rw [if_pos h, if_pos h']
    constructor
    · rintro rfl
      by_cases hroot : parents = []
      · exact .inr (.inr (.inr ⟨⟨hroot, h⟩, hroot, h'⟩))
      · exact .inl ⟨rfl, (h.eq_mod hroot).trans (h'.eq_mod hroot).symm⟩
    · rintro (hsame | hfile | hfile | hroots)
      · exact hsame.1
      · exact absurd h hfile.stands.1
      · exact absurd h' hfile.stands.1
      · exact hroots.1.1.trans hroots.2.1.symm
  -- One of them is its directory and has the other's name.
  · rw [if_pos h, if_neg h', eq_comm, append_singleton_eq_iff h' h]
    constructor
    · exact fun hfile => .inr (.inr (.inl hfile))
    · rintro (⟨rfl, rfl⟩ | hfile | hfile | hroots)
      · exact absurd h h'
      · exact absurd h hfile.stands.1
      · exact hfile
      · exact absurd hroots.2.2 h'
  · rw [if_neg h, if_pos h', append_singleton_eq_iff h h']
    constructor
    · exact fun hfile => .inr (.inl hfile)
    · rintro (⟨rfl, rfl⟩ | hfile | hfile | hroots)
      · exact absurd h' h
      · exact hfile
      · exact absurd h' hfile.stands.1
      · exact absurd hroots.1.2 h
  -- Neither is, so the last module of each is its own stem.
  · rw [if_neg h, if_neg h', List.append_singleton_inj]
    constructor
    · exact .inl
    · rintro (hsame | hfile | hfile | hroots)
      · exact hsame
      · exact absurd hfile.stands.2 h'
      · exact absurd hfile.stands.2 h
      · exact absurd hroots.1.2 h

/-! ## Source files -/

/-- The way to a source file. -/
def IsSourceFile (names : List String) : Prop :=
  ∃ parents stem, stem ≠ "" ∧ names = parents ++ [stem ++ ".rs"]

variable {names names' : List String} {file' : String}

theorem FilePath.LiesBelow.isSourceFile_iff (h : LiesBelow root file names) :
    IsSourceFile names ↔ names ≠ [] ∧ extension? file = some "rs" := by
  constructor
  · rintro ⟨parents, stem, hne, rfl⟩
    refine ⟨List.append_ne_nil_of_right_ne_nil _ (List.cons_ne_nil _ _), ?_⟩
    exact h.extension_eq_some.2 ⟨stem, append_rs stem, hne, by decide⟩
  · rintro ⟨hne, hextension⟩
    obtain ⟨parents, name, rfl⟩ := (List.eq_nil_or_concat' names).resolve_left hne
    obtain ⟨stem, hname, hstem, -⟩ := h.extension_eq_some.1 hextension
    exact ⟨parents, stem, hstem, by rw [hname, append_rs]⟩

theorem FilePath.LiesBelow.modulePathFor_eq_some (h : LiesBelow root file names) :
    modulePathFor root file = some module ↔ ∃ parents stem, stem ≠ "" ∧
      names = parents ++ [stem ++ ".rs"] ∧ module = cratePath (modulesTo parents stem) := by
  simp only [GraphRepo.modulePathFor_eq_some, h.iff_eq]

theorem FilePath.LiesBelow.exists_modulePathFor (h : LiesBelow root file names) :
    (∃ module, modulePathFor root file = some module) ↔ IsSourceFile names := by
  simp only [h.modulePathFor_eq_some, IsSourceFile]
  constructor
  · rintro ⟨-, parents, stem, hstem, hnames, -⟩
    exact ⟨parents, stem, hstem, hnames⟩
  · rintro ⟨parents, stem, hstem, hnames⟩
    exact ⟨_, parents, stem, hstem, hnames, rfl⟩

theorem no_colon_modulesTo (h : ∀ name ∈ parents ++ [stem ++ ".rs"], ':' ∉ name.toList) :
    ∀ name ∈ modulesTo parents stem, ':' ∉ name.toList := by
  obtain ⟨hparents, hlast⟩ := List.forall_mem_append.1 h
  intro name hname
  unfold modulesTo at hname
  split at hname
  · exact hparents name hname
  · rcases List.mem_append.1 hname with hname | hname
    · exact hparents name hname
    · have hcolon := hlast _ List.mem_cons_self
      rw [String.toList_append, List.mem_append, not_or] at hcolon
      exact List.mem_singleton.1 hname ▸ hcolon.1

/-- **Two source files are one module if they are one file, a file and the `mod.rs` of the directory
of its name, or two roots.** -/
theorem modulePathFor_eq_iff (h : LiesBelow root file names) (h' : LiesBelow root file' names')
    (hcolon : ∀ name ∈ names ++ names', ':' ∉ name.toList) :
    (∃ module, modulePathFor root file = some module ∧ modulePathFor root file' = some module) ↔
      (IsSourceFile names ∧ IsSourceFile names') ∧
        (names = names' ∨ FileAndDirectory names names' ∨ FileAndDirectory names' names ∨
          (names ∈ rootFiles ∧ names' ∈ rootFiles)) := by
  obtain ⟨hnames, hnames'⟩ := List.forall_mem_append.1 hcolon
  simp only [h.modulePathFor_eq_some, h'.modulePathFor_eq_some]
  constructor
  · rintro ⟨_, ⟨parents, stem, hstem, rfl, rfl⟩, parents', stem', hstem', rfl, hmodule⟩
    refine ⟨⟨⟨parents, stem, hstem, rfl⟩, parents', stem', hstem', rfl⟩, ?_⟩
    have hinj := cratePath_inj_of_not_mem (no_colon_modulesTo hnames) (no_colon_modulesTo hnames')
    rw [hinj] at hmodule
    rw [concat_rs_inj]
    exact modulesTo_eq_iff.1 hmodule
  · rintro ⟨⟨⟨parents, stem, hstem, rfl⟩, parents', stem', hstem', rfl⟩, hsame⟩
    rw [concat_rs_inj] at hsame
    exact ⟨_, ⟨parents, stem, hstem, rfl, rfl⟩, parents', stem', hstem', rfl,
      congrArg cratePath (modulesTo_eq_iff.2 hsame)⟩

theorem FileAndDirectory.isSourceFile (h : FileAndDirectory names names')
    (hne : ∀ name ∈ names', name ≠ "") : IsSourceFile names ∧ IsSourceFile names' := by
  obtain ⟨parents, stem, rfl, rfl, -⟩ := h
  have hstem : stem ≠ "" := hne stem (by simp)
  exact ⟨⟨parents, stem, hstem, rfl⟩, parents ++ [stem], "mod", by decide, by simp⟩

theorem isSourceFile_of_mem_rootFiles (h : names ∈ rootFiles) : IsSourceFile names := by
  simp only [rootFiles, List.mem_cons, List.not_mem_nil, or_false] at h
  rcases h with rfl | rfl | rfl
  · exact ⟨[], "lib", by decide, rfl⟩
  · exact ⟨[], "main", by decide, rfl⟩
  · exact ⟨[], "mod", by decide, rfl⟩

/-- **Which files are modules, and which of them are the same.** A file is a module if it is a source
file below the root, and no file outside the root or with another extension is one. Two of them are
the same module if they are the same file, if one is `P/s.rs` and the other `P/s/mod.rs`, or if both
are the root of the crate, and in no other case. -/
theorem modulePathFor_eq_iff_files (root : String) :
    (∀ file names, LiesBelow root file names → names ≠ [] → extension? file = some "rs" →
      ∃ module, modulePathFor root file = some module) ∧
    (∀ file, ¬components root <+: components file ∨ extension? file ≠ some "rs" →
      modulePathFor root file = none) ∧
    ∀ file file' names names', LiesBelow root file names → LiesBelow root file' names' →
      (∀ name ∈ names ++ names', ':' ∉ name.toList) →
        ((∃ module,
            modulePathFor root file = some module ∧ modulePathFor root file' = some module) ↔
          (components file = components file' ∧ names ≠ [] ∧ extension? file = some "rs") ∨
          FileAndDirectory names names' ∨ FileAndDirectory names' names ∨
          (names ∈ rootFiles ∧ names' ∈ rootFiles)) := by
  refine ⟨fun file names h hne hextension => ?_, fun file hfile => ?_,
    fun file file' names names' h h' hcolon => ?_⟩
  · exact h.exists_modulePathFor.2 (h.isSourceFile_iff.2 ⟨hne, hextension⟩)
  · refine Option.eq_none_iff_forall_ne_some.2 fun module hmodule => ?_
    obtain ⟨parents, stem, -, h, -⟩ := modulePathFor_eq_some.1 hmodule
    have hextension := h.isSourceFile_iff.1 (h.exists_modulePathFor.1 ⟨module, hmodule⟩)
    rcases hfile with hout | hother
    · exact hout ⟨_, h.symm⟩
    · exact hother hextension.2
  · have hsame : components file = components file' ↔ names = names' := by
      rw [h']
      exact h.iff_eq
    rw [modulePathFor_eq_iff h h' hcolon, hsame, ← h.isSourceFile_iff]
    constructor
    · rintro ⟨⟨hsource, -⟩, heq | hother⟩
      · exact .inl ⟨heq, hsource⟩
      · exact .inr hother
    · rintro (⟨rfl, hsource⟩ | hfile | hfile | hroots)
      · exact ⟨⟨hsource, hsource⟩, .inl rfl⟩
      · exact ⟨hfile.isSourceFile h'.ne_empty, .inr (.inl hfile)⟩
      · exact ⟨(hfile.isSourceFile h.ne_empty).symm, .inr (.inr (.inl hfile))⟩
      · exact ⟨hroots.imp isSourceFile_of_mem_rootFiles isSourceFile_of_mem_rootFiles,
          .inr (.inr (.inr hroots))⟩

/-- `src/a.rs` and `src/a/mod.rs` are one module, `src/b.rs` is another, and `lib.rs` and
`src/notes.txt` are none. -/
theorem modulePathFor_eq_iff_files_src :
    (∃ module, modulePathFor "src" "src/a.rs" = some module ∧
      modulePathFor "src" "src/a/mod.rs" = some module) ∧
    (¬∃ module, modulePathFor "src" "src/a.rs" = some module ∧
      modulePathFor "src" "src/b.rs" = some module) ∧
    (∃ module, modulePathFor "src" "src/b.rs" = some module) ∧
    modulePathFor "src" "lib.rs" = none ∧ modulePathFor "src" "src/notes.txt" = none := by
  obtain ⟨hsome, hnone, hsame⟩ := modulePathFor_eq_iff_files "src"
  have ha : LiesBelow "src" "src/a.rs" ["a.rs"] := by decide
  have hmod : LiesBelow "src" "src/a/mod.rs" ["a", "mod.rs"] := by decide
  have hb : LiesBelow "src" "src/b.rs" ["b.rs"] := by decide
  have hstands : ¬StandsForDirectory [] "a" := by decide
  refine ⟨?_, ?_, ?_, ?_, ?_⟩
  · exact (hsame _ _ _ _ ha hmod (by decide)).2 (.inr (.inl ⟨[], "a", rfl, rfl, hstands⟩))
  · intro h
    rcases (hsame _ _ _ _ ha hb (by decide)).1 h with heq | hfile | hfile | hroots
    · exact absurd heq.1 (by decide)
    · exact absurd hfile.length_eq (by decide)
    · exact absurd hfile.length_eq (by decide)
    · exact absurd hroots.1 (by decide)
  · exact hsome _ _ hb (by decide) (by decide)
  · exact hnone _ (.inl (by decide))
  · exact hnone _ (.inr (by decide))

end GraphRepo

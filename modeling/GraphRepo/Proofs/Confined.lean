import Mathlib
import GraphRepo.Proofs.FileSystem

/-!
# What writing into a directory changes

A file with a plain name lies right in the directory it is written into, wherever the path of the
directory leads. Besides, directories are made where nothing was on the way there. All else on the
disk stays as it was.
-/

namespace GraphRepo

namespace FilePath

/-! ## The paths above a path -/

theorem intercalate_pieces (cs : List Char) : ['/'].intercalate (pieces cs) = cs := by
  fun_induction pieces cs with
  | case1 => rfl
  | case2 rest ih =>
    obtain ⟨p, ps, hps⟩ := List.exists_cons_of_ne_nil (pieces_ne_nil rest)
    rw [hps] at ih ⊢
    rw [List.intercalate_cons_cons, ih]
    rfl
  | case3 c rest hc hrest ih => exact absurd hrest (pieces_ne_nil rest)
  | case4 c rest hc p ps hps ih =>
    rw [hps] at ih
    cases ps with
    | nil =>
      rw [List.intercalate_singleton] at ih ⊢
      rw [ih]
    | cons p' ps =>
      rw [List.intercalate_cons_cons] at ih ⊢
      rw [← ih]
      rfl

theorem intercalate_append_cons (sep p : List Char) (ps : List (List Char)) :
    ∀ {kept : List (List Char)}, kept ≠ [] →
      sep.intercalate (kept ++ p :: ps) = sep.intercalate kept ++ sep ++ sep.intercalate (p :: ps)
  | [], h => absurd rfl h
  | [q], _ => by rw [List.singleton_append, List.intercalate_cons_cons, List.intercalate_singleton]
  | q :: q' :: kept, _ => by
    have ih := intercalate_append_cons sep p ps (List.cons_ne_nil q' kept)
    rw [List.cons_append] at ih
    rw [List.cons_append, List.cons_append, List.intercalate_cons_cons, ih,
      List.intercalate_cons_cons]
    simp only [List.append_assoc]

/-- A path is another or the start of it up to a slash. -/
def IsAbove (above path : List Char) : Prop := path = above ∨ ∃ rest, path = above ++ '/' :: rest

/-- A path above some pieces is empty or has the first of them. -/
theorem mem_pathsAbove {head : List Char} {path : String} : ∀ {backwards : List (List Char)},
    path ∈ pathsAbove head backwards →
      path = "" ∨ ∃ kept, kept <+: backwards.reverse ∧
        path = String.ofList (head ++ ['/'].intercalate kept)
  | [], h => by
    rw [pathsAbove] at h
    split at h
    · exact .inl (List.mem_singleton.1 h)
    · cases h
  | piece :: backwards, h => by
    have hlast : backwards.reverse <+: (piece :: backwards).reverse := by
      rw [List.reverse_cons]
      exact List.prefix_append _ _
    have hmore (hmem : path ∈ pathsAbove head backwards) : path = "" ∨
        ∃ kept, kept <+: (piece :: backwards).reverse ∧
          path = String.ofList (head ++ ['/'].intercalate kept) :=
      (mem_pathsAbove hmem).imp_right fun ⟨kept, hkept, hpath⟩ => ⟨kept, hkept.trans hlast, hpath⟩
    rw [pathsAbove] at h
    split at h
    · exact hmore h
    · rcases List.mem_cons.1 h with hpath | hmem
      · exact .inr ⟨_, (List.reverse_prefix.2 (List.dropWhile_suffix _)).trans hlast, hpath⟩
      · exact hmore hmem

theorem splitStart_eq {cs head rest : List Char} (h : splitStart cs = (head, rest)) :
    cs = head ++ rest ∧ (head = [] ∨ head = ['/'] ∨ IsAbove head cs) := by
  unfold splitStart at h
  split at h <;> cases h
  · exact ⟨rfl, .inr (.inl rfl)⟩
  · exact ⟨rfl, .inr (.inr (.inl rfl))⟩
  · exact ⟨rfl, .inr (.inr (.inr ⟨_, rfl⟩))⟩
  · exact ⟨rfl, .inl rfl⟩

theorem isAbove_of_mem_ancestors {path above : String} (h : above ∈ ancestors path) :
    above = "" ∨ above = "/" ∨ IsAbove above.toList path.toList := by
  rw [ancestors] at h
  rcases hstart : splitStart path.toList with ⟨head, rest⟩
  obtain ⟨hpath, hhead⟩ := splitStart_eq hstart
  rw [hstart] at h
  rcases List.mem_cons.1 h with rfl | hmem
  · exact .inr (.inr (.inl rfl))
  · rcases mem_pathsAbove hmem with hempty | ⟨kept, ⟨more, hmore⟩, rfl⟩
    · exact .inl hempty
    · rw [List.reverse_reverse] at hmore
      rw [String.toList_ofList]
      rcases eq_or_ne kept [] with rfl | hkept
      · rw [List.intercalate_nil, List.append_nil]
        rcases hhead with rfl | rfl | habove
        · exact .inl rfl
        · exact .inr (.inl rfl)
        · exact .inr (.inr habove)
      · refine .inr (.inr ?_)
        rw [hpath, ← intercalate_pieces rest, ← hmore]
        cases more with
        | nil => exact .inl (by rw [List.append_nil])
        | cons p ps =>
          refine .inr ⟨['/'].intercalate (p :: ps), ?_⟩
          rw [intercalate_append_cons _ _ _ hkept]
          simp

end FilePath

namespace FileSystem

open FilePath

variable {fs mid left : FileSystem} {path directory name : String} {here place : List String}
  {files : List String}

/-! ## Ways -/

theorem names_isAbove {above : String} (h : IsAbove above.toList path.toList) :
    names above <+: names path := by
  rcases h with hsame | ⟨rest, hrest⟩
  · rw [String.toList_inj.1 hsame]
  · rw [names, names, hrest, pieces_append, List.map_append, List.filter_append]
    exact List.prefix_append _ _

theorem isAbsolute_isAbove {above : String} (h : IsAbove above.toList path.toList)
    (hne : above ≠ "") : isAbsolute above = isAbsolute path := by
  rcases h with hsame | ⟨rest, hrest⟩
  · rw [String.toList_inj.1 hsame]
  · have hne' : above.toList ≠ [] := fun h => hne (String.toList_eq_nil_iff.1 h)
    rw [Bool.eq_iff_iff, isAbsolute_iff, isAbsolute_iff, hrest, List.head?_append_of_ne_nil _ hne']

/-- Every directory that is made before a path is used lies on the way that the path leads. -/
theorem leads_of_mem_ancestors {above : String}
    (h : above ∈ (ancestors path).takeWhile fun p => !isStart p) :
    names above <+: names path ∧ ∀ fs : FileSystem, fs.start above = fs.start path := by
  have hstart : ¬isStart above := by simpa using List.mem_takeWhile_imp h
  have hempty : above ≠ "" := by
    rintro rfl
    exact hstart (by decide)
  have hroot : above ≠ "/" := by
    rintro rfl
    exact hstart (by decide)
  have habove := ((isAbove_of_mem_ancestors ((List.takeWhile_subset _) h)).resolve_left
    hempty).resolve_left hroot
  refine ⟨names_isAbove habove, fun fs => ?_⟩
  rw [start, start, isAbsolute_isAbove habove hempty]

/-- A place that a path leads over. -/
def LeadsOver (fs : FileSystem) (path : String) (place : List String) : Prop :=
  ∃ above, above <+: names path ∧ fs.walk (fs.start path) above = .ok place

/-! ## Confined changes -/

/-- Between two states of the disk only this has changed: directories were made where nothing was on
the way to a directory, and right in it there are other texts in some files. -/
structure Confined (directory : String) (files : List String) (fs left : FileSystem) : Prop where
  workingDirectory : left.workingDirectory = fs.workingDirectory
  directories : ∀ place, fs.entry? place = some .directory → left.entry? place = some .directory
  places : ∀ place, left.entry? place = fs.entry? place ∨
    (fs.entry? place = none ∧ left.entry? place = some .directory ∧
      left.LeadsOver directory place) ∨
    ∃ here name text, name ∈ files ∧ place = here ++ [name] ∧
      left.walk (left.start directory) (names directory) = .ok here ∧
        left.entry? place = some (.file text)

theorem Confined.refl (directory : String) (files : List String) (fs : FileSystem) :
    Confined directory files fs fs := ⟨rfl, fun _ h => h, fun _ => .inl rfl⟩

theorem Confined.start_eq (h : Confined directory files fs left) (path : String) :
    left.start path = fs.start path := by
  rw [start, start, h.workingDirectory]

/-- A walk comes to where it came before. -/
theorem Confined.walk (h : Confined directory files fs left) {names : List String}
    (hwalk : fs.walk (fs.start path) names = .ok place) :
    left.walk (left.start path) names = .ok place := by
  rw [h.start_eq]
  exact walk_of_directories h.directories hwalk

theorem Confined.trans (h : Confined directory files fs mid)
    (h' : Confined directory files mid left) : Confined directory files fs left := by
  refine ⟨h'.workingDirectory.trans h.workingDirectory,
    fun place hplace => h'.directories place (h.directories place hplace), fun place => ?_⟩
  rcases h'.places place with hsame | ⟨hnone, hmade, hway⟩ | hfile
  · rw [hsame]
    rcases h.places place with hbefore | ⟨hnone, hmade, above, habove, hwalk⟩ |
      ⟨here, name, text, hname, hplace, hwalk, htext⟩
    · exact .inl hbefore
    · exact .inr (.inl ⟨hnone, hmade, above, habove, h'.walk hwalk⟩)
    · exact .inr (.inr ⟨here, name, text, hname, hplace, h'.walk hwalk, htext⟩)
  · rcases h.places place with hbefore | ⟨-, hdirectory, -⟩ | ⟨-, -, text, -, -, -, htext⟩
    · exact .inr (.inl ⟨hbefore ▸ hnone, hmade, hway⟩)
    · rw [hnone] at hdirectory
      cases hdirectory
    · rw [hnone] at htext
      cases htext
  · exact .inr (.inr hfile)

/-! ## One operation -/

theorem directories_put {e : Entry} (hplace : place ≠ [])
    (h : fs.entry? place = some .directory → e = .directory) (other : List String)
    (hother : fs.entry? other = some .directory) :
    entry? (fs.put place e) other = some .directory := by
  by_cases hsame : other = place
  · rw [hsame] at hother ⊢
    rw [entry_put_self hplace, h hother]
  · rw [entry_put_of_ne hsame, hother]

theorem locate_eq_ok (h : fs.locate path = .ok (here, some name)) :
    ∃ above, names path = above ++ [name] ∧ fs.walk (fs.start path) above = .ok here ∧
      name ≠ "." ∧ name ≠ ".." := by
  obtain ⟨_, -, h⟩ := bind_eq_ok.1 h
  obtain ⟨place, hwalk, h⟩ := bind_eq_ok.1 h
  rcases List.eq_nil_or_concat' (names path) with hnames | ⟨above, last, hnames⟩
  · rw [hnames] at h
    cases h
  · rw [hnames, List.dropLast_concat] at hwalk
    rw [hnames, List.getLast?_concat] at h
    split at h
    · cases h
    · cases h
    · cases h
    · rename_i hcurrent hparent heq
      cases h
      cases heq
      exact ⟨above, hnames, hwalk, fun hname => hcurrent (hname ▸ rfl),
        fun hname => hparent (hname ▸ rfl)⟩

/-- **A directory that is made lies on the way**, where nothing was. -/
theorem makeDirectory_confined (hway : names path <+: names directory)
    (hstart : ∀ fs : FileSystem, fs.start path = fs.start directory)
    (h : makeDirectory path fs = .ok left) : Confined directory files fs left := by
  obtain ⟨⟨here, last⟩, hlocate, h⟩ := bind_eq_ok.1 h
  cases last with
  | none => cases h
  | some name =>
    obtain ⟨found, hlookup, h⟩ := bind_eq_ok.1 h
    obtain ⟨above, hnames, hwalk, hcurrent, hparent⟩ := locate_eq_ok hlocate
    obtain ⟨hshort, rfl⟩ := lookup_eq_ok.1 hlookup
    have hne : here ++ [name] ≠ [] := List.append_ne_nil_of_right_ne_nil _ (List.cons_ne_nil _ _)
    cases hentry : fs.entry? (here ++ [name]) with
    | some e =>
      rw [hentry] at h
      cases h
    | none =>
      rw [hentry] at h
      cases h
      have hdirectories := @directories_put fs _ .directory hne fun _ => rfl
      refine ⟨rfl, hdirectories, fun place => ?_⟩
      by_cases hplace : place = here ++ [name]
      · subst hplace
        have hmade := entry_put_self hne .directory fs
        refine .inr (.inl ⟨hentry, hmade, names path, hway, ?_⟩)
        rw [← hstart, hnames, walk_append]
        refine bind_eq_ok.2 ⟨here, walk_of_directories hdirectories hwalk, ?_⟩
        exact (walk_cons hcurrent hparent).2 ⟨lookup_eq_ok.2 ⟨hshort, hmade⟩, rfl⟩
      · exact .inl (entry_put_of_ne hplace _ fs)

theorem makeAll_confined : ∀ {paths : List String} {fs : FileSystem},
    (∀ path ∈ paths, names path <+: names directory ∧
      ∀ fs : FileSystem, fs.start path = fs.start directory) →
    Confined directory files fs (makeAll paths fs).2
  | [], fs, _ => Confined.refl directory files fs
  | path :: above, fs, h => by
    obtain ⟨⟨hway, hstart⟩, habove⟩ := List.forall_mem_cons.1 h
    have ih := @makeAll_confined above fs habove
    unfold makeAll
    cases hfirst : makeDirectory path fs with
    | ok made => exact makeDirectory_confined hway hstart hfirst
    | error fault =>
      cases fault with
      | notFound =>
        rcases hmade : makeAll above fs with ⟨result, made⟩
        rw [hmade] at ih
        cases result with
        | error fault => exact ih
        | ok _ =>
          dsimp only
          cases hsecond : makeDirectory path made with
          | ok made' => exact ih.trans (makeDirectory_confined hway hstart hsecond)
          | error fault => exact ih
      | _ => exact Confined.refl directory files fs

theorem createDirectory_confined (directory : String) (files : List String) (fs : FileSystem) :
    Confined directory files fs (createDirectory directory fs).2 :=
  makeAll_confined fun _ h => leads_of_mem_ancestors h

/-- **A file with a plain name is written right into the directory.** -/
theorem writeFile_confined (hname : IsFileName name) (hfile : name ∈ files) (contents : String)
    (fs : FileSystem) :
    Confined directory files fs (writeFile (join directory name) contents fs).2 := by
  unfold writeFile
  split
  · exact Confined.refl directory files fs
  · exact Confined.refl directory files fs
  · rename_i here last hlocate
    obtain ⟨above, hnames, hwalk, -, -⟩ := locate_eq_ok hlocate
    rw [names_join hname, List.append_singleton_inj] at hnames
    obtain ⟨rfl, rfl⟩ := hnames
    rw [start_join hname] at hwalk
    have hne : here ++ [name] ≠ [] := List.append_ne_nil_of_right_ne_nil _ (List.cons_ne_nil _ _)
    split
    · exact Confined.refl directory files fs
    · split
      · exact Confined.refl directory files fs
      · exact Confined.refl directory files fs
      · rename_i hfree hlookup
        obtain ⟨-, hentry⟩ := lookup_eq_ok.1 hlookup
        have hdirectories := @directories_put fs _ (.file contents) hne fun hthere =>
          absurd (hentry.symm.trans hthere) hfree
        refine ⟨rfl, hdirectories, fun place => ?_⟩
        by_cases hplace : place = here ++ [name]
        · exact .inr (.inr ⟨here, name, contents, hfile, hplace,
            walk_of_directories hdirectories hwalk, hplace ▸ entry_put_self hne _ fs⟩)
        · exact .inl (entry_put_of_ne hplace _ fs)

end FileSystem

end GraphRepo

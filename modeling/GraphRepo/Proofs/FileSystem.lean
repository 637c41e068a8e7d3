import Mathlib
import GraphRepo.FileSystem
import GraphRepo.Proofs.FilePath
import GraphRepo.Proofs.Outcome
import GraphRepo.Proofs.Repository.Writing

/-!
# Directories that take files

A directory that is there takes every file whose name is one name of a path, is short enough and is
not that of a directory in it; and it still does so when the file is written.
-/

namespace GraphRepo

namespace FileSystem

open FilePath

/-! ## Paths into a directory -/

/-- A name that a file can have: one name of a path that leads somewhere else. -/
structure IsFileName (name : String) : Prop where
  ne_empty : name ≠ ""
  ne_current : name ≠ "."
  ne_parent : name ≠ ".."
  no_slash : '/' ∉ name.toList

variable {directory name : String} {fs : FileSystem} {here place : List String}

instance : Decidable (IsFileName name) :=
  decidable_of_iff (name ≠ "" ∧ name ≠ "." ∧ name ≠ ".." ∧ '/' ∉ name.toList)
    ⟨fun ⟨hempty, hcurrent, hparent, hslash⟩ => ⟨hempty, hcurrent, hparent, hslash⟩,
      fun h => ⟨h.ne_empty, h.ne_current, h.ne_parent, h.no_slash⟩⟩

theorem IsFileName.not_isAbsolute (hname : IsFileName name) : isAbsolute name = false := by
  unfold isAbsolute
  split
  · rename_i rest hcs
    exact absurd (hcs ▸ List.mem_cons_self) hname.no_slash
  · rfl

theorem toList_join (hname : IsFileName name) (hdirectory : directory ≠ "") :
    (join directory name).toList = directory.toList ++ name.toList ∧
        directory.toList.getLast? = some '/' ∨
      (join directory name).toList = directory.toList ++ '/' :: name.toList := by
  rw [join, hname.not_isAbsolute, if_neg (by decide)]
  split
  · rename_i hend
    rw [Bool.or_eq_true, decide_eq_true_eq] at hend
    refine .inl ⟨String.toList_append .., hend.resolve_left fun hempty => ?_⟩
    exact hdirectory (by simpa using hempty)
  · refine .inr ?_
    rw [String.toList_append, String.toList_append, List.append_assoc]
    rfl

theorem join_empty (name : String) : join "" name = name := by
  unfold join
  split
  · rfl
  · rw [if_pos (by decide), String.empty_append]

theorem filter_names (hname : IsFileName name) :
    ([name.toList].map String.ofList).filter (· ≠ "") = [name] := by
  simp [String.ofList_toList, hname.ne_empty]

theorem names_of_isFileName (hname : IsFileName name) : names name = [name] := by
  rw [names, pieces_of_not_mem hname.no_slash, filter_names hname]

theorem names_join (hname : IsFileName name) (directory : String) :
    names (join directory name) = names directory ++ [name] := by
  rcases eq_or_ne directory "" with rfl | hdirectory
  · rw [join_empty, names_of_isFileName hname]
    rfl
  · have hpieces := pieces_of_not_mem hname.no_slash
    have hlast := filter_names hname
    unfold names
    rcases toList_join hname hdirectory with ⟨htext, hend⟩ | htext
    · obtain ⟨before, hbefore⟩ := List.getLast?_eq_some_iff.1 hend
      rw [htext, hbefore, List.append_assoc, List.singleton_append, pieces_append, pieces_append,
        hpieces, List.map_append, List.filter_append, hlast, List.map_append, List.filter_append]
      simp [pieces]
    · rw [htext, pieces_append, hpieces, List.map_append, List.filter_append, hlast]

theorem component_of_isFileName (hname : IsFileName name) :
    component? name.toList = some (.normal name) := by
  have hne (text : String) (h : name ≠ text) : name.toList ≠ text.toList :=
    fun heq => h (String.toList_inj.1 heq)
  unfold component?
  split
  · rename_i hcs
    exact absurd hcs (hne "" hname.ne_empty)
  · rename_i hcs
    exact absurd hcs (hne "." hname.ne_current)
  · rename_i hcs
    exact absurd hcs (hne ".." hname.ne_parent)
  · rw [String.ofList_toList]

theorem components_of_isFileName (hname : IsFileName name) : components name = [.normal name] := by
  have hpieces := pieces_of_not_mem hname.no_slash
  have hroot : name.toList.head? ≠ some '/' := fun h => hname.no_slash (List.mem_of_mem_head? h)
  have hcurrent : (pieces name.toList).head? ≠ some ['.'] := by
    rw [hpieces]
    exact fun h => hname.ne_current (String.toList_inj.1 (Option.some.inj h))
  have hcomponents := components_ofList_relative hroot hcurrent
  rw [String.ofList_toList, hpieces, List.filterMap_cons_some (component_of_isFileName hname)]
    at hcomponents
  exact hcomponents

/-- **A file in a directory has one component more.** -/
theorem components_join (hname : IsFileName name) (directory : String) :
    components (join directory name) = components directory ++ [.normal name] := by
  have hlast : (pieces name.toList).filterMap component? = [.normal name] := by
    rw [pieces_of_not_mem hname.no_slash]
    exact List.filterMap_cons_some (component_of_isFileName hname)
  rcases eq_or_ne directory "" with rfl | hdirectory
  · rw [join_empty, components_of_isFileName hname]
    rfl
  · have hbehind {before : List Char} (hbefore : before ≠ []) :
        components (String.ofList (before ++ '/' :: name.toList)) =
          components (String.ofList before) ++ [.normal name] := by
      rw [components_append hbefore, hlast]
    rcases toList_join hname hdirectory with ⟨htext, hend⟩ | htext
    · obtain ⟨before, hbefore⟩ := List.getLast?_eq_some_iff.1 hend
      rw [hbefore, List.append_assoc, List.singleton_append] at htext
      have hjoin := congrArg String.ofList htext
      have hstart := congrArg String.ofList hbefore
      rw [String.ofList_toList] at hjoin hstart
      rw [hjoin, hstart]
      -- The slash at the end of the directory counts for nothing unless it is the root.
      rcases eq_or_ne before [] with rfl | hne
      · rw [List.nil_append, List.nil_append, components_ofList_root, components_ofList_root, hlast]
        rfl
      · rw [hbehind hne, components_append hne []]
        simp [pieces, component?]
    · have hne : directory.toList ≠ [] := fun h => hdirectory (String.toList_eq_nil_iff.1 h)
      have hjoin := congrArg String.ofList htext
      rw [String.ofList_toList] at hjoin
      rw [hjoin, hbehind hne, String.ofList_toList]

theorem isAbsolute_iff (path : String) : isAbsolute path ↔ path.toList.head? = some '/' := by
  unfold isAbsolute
  split
  · rename_i rest hcs
    simp [hcs]
  · rename_i hrelative
    cases hcs : path.toList with
    | nil => simp
    | cons c rest => simpa using fun hc : c = '/' => hrelative rest (hc ▸ hcs)

theorem start_join (hname : IsFileName name) (directory : String) (fs : FileSystem) :
    fs.start (join directory name) = fs.start directory := by
  have habsolute : isAbsolute (join directory name) = isAbsolute directory := by
    rcases eq_or_ne directory "" with rfl | hdirectory
    · rw [join_empty, hname.not_isAbsolute]
      rfl
    · have hne : directory.toList ≠ [] := fun h => hdirectory (String.toList_eq_nil_iff.1 h)
      rw [Bool.eq_iff_iff, isAbsolute_iff, isAbsolute_iff]
      rcases toList_join hname hdirectory with ⟨htext, -⟩ | htext
      · rw [htext, List.head?_append_of_ne_nil _ hne]
      · rw [htext, List.head?_append_of_ne_nil _ hne]
  rw [start, start, habsolute]

theorem namesDirectory_of_getLast {path : String} (hname : IsFileName name)
    (hlast : path.toList.getLast? = name.toList.getLast?) : namesDirectory path = false := by
  rw [namesDirectory, hlast, decide_eq_false_iff_not]
  exact fun h => hname.no_slash (List.mem_of_getLast? h)

theorem namesDirectory_join (hname : IsFileName name) (hdirectory : directory ≠ "") :
    namesDirectory (join directory name) = false := by
  have hne : name.toList ≠ [] := fun h => hname.ne_empty (String.toList_eq_nil_iff.1 h)
  refine namesDirectory_of_getLast hname ?_
  rcases toList_join hname hdirectory with ⟨htext, -⟩ | htext
  · rw [htext, List.getLast?_append_of_ne_nil _ hne]
  · rw [htext, List.getLast?_append_of_ne_nil _ (List.cons_ne_nil _ _),
      List.getLast?_cons_of_ne_nil hne]

theorem acceptable_eq_ok {path : String} : acceptable path = .ok () ↔
    '\x00' ∉ path.toList ∧ path ≠ "" ∧ path.utf8ByteSize < pathLimit := by
  unfold acceptable
  split
  · rename_i hnul
    simpa using fun h => absurd (List.contains_iff_mem.1 hnul) h
  · rename_i hnul
    have hnul' : '\x00' ∉ path.toList := fun h => hnul (List.contains_iff_mem.2 h)
    split
    · rename_i hempty
      simpa [hnul'] using fun h => absurd (String.isEmpty_iff.1 hempty) h
    · rename_i hempty
      have hne : path ≠ "" := fun h => hempty (String.isEmpty_iff.2 h)
      split
      · rename_i hlong
        simp [Nat.not_lt.2 hlong]
      · rename_i hshort
        simp [hnul', hne, Nat.not_le.1 hshort]

/-- A name that a file in a directory can have as far as names and paths are bounded. -/
structure FitsIn (directory name : String) : Prop where
  isFileName : IsFileName name
  short : name.utf8ByteSize ≤ nameLimit
  acceptable : acceptable (join directory name) = .ok ()

instance : Decidable (FitsIn directory name) :=
  decidable_of_iff (IsFileName name ∧ name.utf8ByteSize ≤ nameLimit ∧
      ('\x00' ∉ (join directory name).toList ∧ join directory name ≠ "" ∧
        (join directory name).utf8ByteSize < pathLimit))
    ⟨fun ⟨hname, hshort, hpath⟩ => ⟨hname, hshort, acceptable_eq_ok.2 hpath⟩,
      fun h => ⟨h.isFileName, h.short, acceptable_eq_ok.1 h.acceptable⟩⟩

/-! ## Walking -/

theorem lookup_eq_ok {found : Option Entry} : fs.lookup here name = .ok found ↔
    name.utf8ByteSize ≤ nameLimit ∧ fs.entry? (here ++ [name]) = found := by
  unfold lookup
  split
  · rename_i hlong
    simp [Nat.not_le.2 hlong]
  · rename_i hshort
    simp [Nat.not_lt.1 hshort]

theorem walk_cons {more : List String} (hcurrent : name ≠ ".") (hparent : name ≠ "..") :
    fs.walk here (name :: more) = .ok place ↔
      fs.lookup here name = .ok (some .directory) ∧ fs.walk (here ++ [name]) more = .ok place := by
  rw [walk, if_neg hcurrent, if_neg hparent]
  cases fs.lookup here name with
  | error fault => simp
  | ok found =>
    cases found with
    | none => simp
    | some e => cases e <;> simp

theorem walk_append (fs : FileSystem) (more : List String) : ∀ (here names : List String),
    fs.walk here (names ++ more) = (do
      let place ← fs.walk here names
      fs.walk place more)
  | here, [] => rfl
  | here, name :: names => by
    rw [List.cons_append, walk, walk]
    split
    · exact walk_append fs more here names
    · split
      · exact walk_append fs more here.dropLast names
      · cases fs.lookup here name with
        | error fault => rfl
        | ok found =>
          cases found with
          | none => rfl
          | some e =>
            cases e with
            | file contents => rfl
            | directory => exact walk_append fs more (here ++ [name]) names

/-- Where all directories stay, a walk comes to where it came before. -/
theorem walk_of_directories {fs fs' : FileSystem}
    (h : ∀ place, fs.entry? place = some .directory → entry? fs' place = some .directory) :
    ∀ {names here place : List String}, fs.walk here names = .ok place →
      fs'.walk here names = .ok place
  | [], _, _, hwalk => hwalk
  | name :: names, here, place, hwalk => by
    by_cases hcurrent : name = "."
    · rw [walk, if_pos hcurrent] at hwalk ⊢
      exact walk_of_directories h hwalk
    · by_cases hparent : name = ".."
      · rw [walk, if_neg hcurrent, if_pos hparent] at hwalk ⊢
        exact walk_of_directories h hwalk
      · obtain ⟨hlookup, hrest⟩ := (walk_cons hcurrent hparent).1 hwalk
        obtain ⟨hshort, hentry⟩ := lookup_eq_ok.1 hlookup
        exact (walk_cons hcurrent hparent).2
          ⟨lookup_eq_ok.2 ⟨hshort, h _ hentry⟩, walk_of_directories h hrest⟩

/-- A path leads to its last name in the directory that the others lead to. -/
theorem locate_of_walk {path last : String} {above : List String}
    (hpath : acceptable path = .ok ()) (hnames : names path = above ++ [last])
    (habove : fs.walk (fs.start path) above = .ok here) (hcurrent : last ≠ ".")
    (hparent : last ≠ "..") : fs.locate path = .ok (here, some last) := by
  have hlast : (above ++ [last]).getLast? = some last := List.getLast?_concat
  simp only [locate, hpath, hnames, List.dropLast_concat, habove, hlast, bind, Except.bind]
  rfl

theorem locate_of_fits (hfits : FitsIn "" name) (fs : FileSystem) :
    fs.locate name = .ok (fs.start name, some name) := by
  have hname := hfits.isFileName
  have hpath := hfits.acceptable
  rw [join_empty] at hpath
  exact @locate_of_walk _ _ _ _ [] hpath (names_of_isFileName hname) rfl hname.ne_current
    hname.ne_parent

/-- A file that lies where paths start is read by its name. -/
theorem readFile_of_entry {contents : String} (hfits : FitsIn "" name)
    (hentry : fs.entry? (fs.start name ++ [name]) = some (.file contents)) :
    fs.readFile name = .ok contents := by
  have hlocate := locate_of_fits hfits fs
  have hlookup : fs.lookup (fs.start name) name = .ok (some (.file contents)) :=
    lookup_eq_ok.2 ⟨hfits.short, hentry⟩
  have hfile : namesDirectory name = false := namesDirectory_of_getLast hfits.isFileName rfl
  simp only [readFile, hlocate, bind, Except.bind, hlookup, hfile]
  rfl

theorem readFile_of_missing (hfits : FitsIn "" name)
    (hentry : fs.entry? (fs.start name ++ [name]) = none) :
    fs.readFile name = .error .notFound := by
  have hlocate := locate_of_fits hfits fs
  have hlookup : fs.lookup (fs.start name) name = .ok none := lookup_eq_ok.2 ⟨hfits.short, hentry⟩
  simp only [readFile, hlocate, bind, Except.bind, hlookup]
  rfl

/-! ## Putting something at a place -/

theorem entry_put_self (hplace : place ≠ []) (e : Entry) (fs : FileSystem) :
    entry? (fs.put place e) place = some e := by
  have hnone : (fs.entries.filter (·.1 != place)).find? (·.1 == place) = none := by
    refine List.find?_eq_none.2 fun x hx => ?_
    have hne := (List.mem_filter.1 hx).2
    simpa [bne_iff_ne] using hne
  unfold entry? put
  rw [if_neg (by simpa using hplace), List.find?_append, hnone]
  simp

theorem entry_put_of_ne {other : List String} (hother : other ≠ place) (e : Entry)
    (fs : FileSystem) : entry? (fs.put place e) other = fs.entry? other := by
  have hkept : (fs.entries.filter (·.1 != place)).find? (·.1 == other) =
      fs.entries.find? (·.1 == other) := by
    rw [List.find?_filter]
    refine List.find?_congr fun x _ => ?_
    by_cases hx : x.1 = other
    · simp [hx, hother]
    · simp [hx]
  have hnew : List.find? (·.1 == other) [(place, e)] = none := by
    simp [Ne.symm hother]
  unfold entry? put
  rw [List.find?_append, hkept, hnew, Option.or_none]

/-! ## Directories with room -/

theorem makeDirectory_of_walk {path : String} (hpath : acceptable path = .ok ())
    (hwalk : fs.walk (fs.start path) (names path) = .ok place) :
    makeDirectory path fs = .error .exists := by
  rcases List.eq_nil_or_concat (names path) with hnames | ⟨above, last, hnames⟩
  · simp only [makeDirectory, locate, hpath, hnames, List.dropLast_nil, walk, List.getLast?_nil]
    rfl
  · rw [List.concat_eq_append] at hnames
    rw [hnames, walk_append] at hwalk
    obtain ⟨here, habove, hlast⟩ := bind_eq_ok.1 hwalk
    have hdrop : (names path).dropLast = above := by rw [hnames, List.dropLast_concat]
    have hend : (names path).getLast? = some last := by rw [hnames, List.getLast?_concat]
    by_cases hcurrent : last = "."
    · simp only [makeDirectory, locate, hpath, hdrop, habove, hend, hcurrent]
      rfl
    · by_cases hparent : last = ".."
      · simp only [makeDirectory, locate, hpath, hdrop, habove, hend, hparent]
        rfl
      · obtain ⟨hlookup, -⟩ := (walk_cons hcurrent hparent).1 hlast
        have hlocate := locate_of_walk hpath hnames habove hcurrent hparent
        simp only [makeDirectory, hlocate, bind, Except.bind, hlookup]
        rfl

theorem createDirectory_of_walk {path : String} (hpath : acceptable path = .ok ())
    (hwalk : fs.walk (fs.start path) (names path) = .ok place) :
    createDirectory path fs = (.ok (), fs) := by
  have hthere : fs.isDirectory path := by
    rw [isDirectory, hpath, hwalk]
  rw [createDirectory, ancestors]
  dsimp only
  rw [List.takeWhile_cons]
  split
  · rw [makeAll, makeDirectory_of_walk hpath hwalk]
    dsimp only
    rw [if_pos hthere]
  · rfl

/-- A directory that is there, at a place where no directory has one of the names. -/
structure HasRoom (directory : String) (place names : List String) (fs : FileSystem) : Prop where
  acceptable : acceptable directory = .ok ()
  walk : fs.walk (fs.start directory) (FileSystem.names directory) = .ok place
  free : ∀ name ∈ names, fs.entry? (place ++ [name]) ≠ some .directory

theorem HasRoom.ne_empty {names : List String} (h : HasRoom directory place names fs) :
    directory ≠ "" := by
  rintro rfl
  exact absurd h.acceptable (by decide)

theorem HasRoom.put {names : List String} (h : HasRoom directory place names fs)
    (hname : name ∈ names) (contents : String) :
    HasRoom directory place names (fs.put (place ++ [name]) (.file contents)) := by
  have hne : place ++ [name] ≠ [] := by simp
  refine ⟨h.acceptable, walk_of_directories (fun other hother => ?_) h.walk, fun other hother => ?_⟩
  · have hother' : other ≠ place ++ [name] := by
      rintro rfl
      exact h.free name hname hother
    rw [entry_put_of_ne hother', hother]
  · by_cases hsame : place ++ [other] = place ++ [name]
    · rw [hsame, entry_put_self hne]
      exact fun heq => by cases heq
    · rw [entry_put_of_ne hsame]
      exact h.free other hother

theorem HasRoom.writeFile {names : List String} (h : HasRoom directory place names fs)
    (hname : name ∈ names) (hfits : FitsIn directory name) (contents : String) :
    writeFile (join directory name) contents fs =
      (.ok (), fs.put (place ++ [name]) (.file contents)) := by
  have hname' := hfits.isFileName
  have hwalk : fs.walk (fs.start (join directory name)) (FileSystem.names directory) =
      .ok place := by
    rw [start_join hname', h.walk]
  have hlocate : fs.locate (join directory name) = .ok (place, some name) :=
    locate_of_walk hfits.acceptable (names_join hname' directory) hwalk hname'.ne_current
      hname'.ne_parent
  have hlookup : fs.lookup place name = .ok (fs.entry? (place ++ [name])) :=
    lookup_eq_ok.2 ⟨hfits.short, rfl⟩
  unfold FileSystem.writeFile
  rw [hlocate]
  dsimp only
  rw [namesDirectory_join hname' h.ne_empty, if_neg (by decide), hlookup]
  have hfree := h.free name hname
  cases hentry : fs.entry? (place ++ [name]) with
  | none => rfl
  | some e =>
    cases e with
    | file old => rfl
    | directory => exact absurd hentry hfree

/-- **A directory with room takes files**, and has room still. -/
theorem HasRoom.takesFiles {names : List String} (h : HasRoom directory place names fs)
    (hnames : ∀ name ∈ names, FitsIn directory name) : TakesFiles directory names fs := by
  refine ⟨HasRoom directory place names, h, fun fs h => ?_⟩
  refine ⟨fs, createDirectory_of_walk h.acceptable h.walk, fun name hname contents => ?_⟩
  exact ⟨_, h.writeFile hname (hnames name hname) contents, h.put hname contents⟩

end FileSystem

end GraphRepo

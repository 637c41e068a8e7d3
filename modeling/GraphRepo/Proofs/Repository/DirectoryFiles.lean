import Mathlib
import GraphRepo.Proofs.Repository.Containment
import GraphRepo.Proofs.Repository.MemoryFiles

/-!
# Files in a directory, whatever fails

Files are handed to a directory one after the other, on a disk that may fail at any of its two
operations. A name is taken by the first write that succeeds and by no other, and a write that fails
leaves it free. Where the disk never fails the directory answers as memory does, and its files read
back what memory holds.
-/

namespace GraphRepo

open FilePath FileSystem

variable {σ : Type}

/-- Files handed to a sink one after the other: what it answers to each, and what it is then. -/
def writeEach [Sink σ] : List (String × String) → σ → List (Except SinkFault Unit) × σ
  | [], s => ([], s)
  | file :: rest, s =>
    let first := Sink.write file.1 file.2 s
    let later := writeEach rest first.2
    (first.1 :: later.1, later.2)

/-- The names of the files whose write succeeded, in order. -/
def successes (files : List (String × String)) (answers : List (Except SinkFault Unit)) :
    List String :=
  ((files.zip answers).filter (·.2.isOk)).map (·.1.1)

/-- Whether the disk failed in none of some writes. -/
def NoDiskFault (answers : List (Except SinkFault Unit)) : Prop :=
  ∀ path fault, .error (.disk path fault) ∉ answers

theorem writeEach_append [Sink σ] (after : List (String × String)) :
    ∀ (before : List (String × String)) (s : σ), writeEach (before ++ after) s =
      ((writeEach before s).1 ++ (writeEach after (writeEach before s).2).1,
        (writeEach after (writeEach before s).2).2)
  | [], s => rfl
  | file :: before, s => by
    have ih := writeEach_append after before (Sink.write file.1 file.2 s).2
    rw [List.cons_append, writeEach, ih]
    rfl

theorem length_writeEach [Sink σ] : ∀ (files : List (String × String)) (s : σ),
    (writeEach files s).1.length = files.length
  | [], s => rfl
  | file :: rest, s => by
    have ih := length_writeEach rest (Sink.write file.1 file.2 s).2
    rw [writeEach, List.length_cons, List.length_cons, ih]

theorem successes_cons (file : String × String) (rest : List (String × String))
    (answer : Except SinkFault Unit) (answers : List (Except SinkFault Unit)) :
    successes (file :: rest) (answer :: answers) =
      (if answer.isOk then [file.1] else []) ++ successes rest answers := by
  unfold successes
  rw [List.zip_cons_cons, List.filter_cons]
  split <;> rfl

theorem noDiskFault_cons [Sink σ] {file : String × String} {rest : List (String × String)} {s : σ} :
    NoDiskFault (writeEach (file :: rest) s).1 ↔
      (∀ path fault, (Sink.write file.1 file.2 s).1 ≠ .error (.disk path fault)) ∧
        NoDiskFault (writeEach rest (Sink.write file.1 file.2 s).2).1 := by
  unfold NoDiskFault
  rw [writeEach, ← forall_and]
  refine forall_congr' fun path => ?_
  rw [← forall_and]
  refine forall_congr' fun fault => ?_
  rw [List.mem_cons, not_or, ne_comm]

/-! ## Names -/

variable [Disk σ]

theorem Fate.isOk_iff (fate : Fate) (directory name : String) :
    ((fate.fault? directory name).elim (.ok ()) .error : Except SinkFault Unit).isOk = true ↔
      fate = .written := by
  cases fate <;> simp [fault?, Except.isOk, Except.toBool]

namespace DirectorySink

/-- The names that were taken are those whose write succeeded, and each succeeded once. -/
theorem written_writeEach : ∀ (files : List (String × String)) (s : DirectorySink σ),
    Ascending s.written →
      (writeEach files s).2.root = s.root ∧ Ascending (writeEach files s).2.written ∧
      (∀ name, name ∈ (writeEach files s).2.written ↔
        name ∈ s.written ∨ name ∈ successes files (writeEach files s).1) ∧
      (successes files (writeEach files s).1).Nodup ∧
      ∀ name ∈ successes files (writeEach files s).1, name ∉ s.written
  | [], s, hs => by
    have hnone : successes [] (writeEach [] s).1 = [] := rfl
    refine ⟨rfl, hs, fun name => ?_, List.nodup_nil, List.forall_mem_nil _⟩
    rw [hnone, or_iff_left List.not_mem_nil]
    rfl
  | (name, contents) :: rest, s, hs => by
    obtain ⟨fate, left, -, hrepeated, hwrite⟩ := s.write_takes name contents
    have hsink : Sink.write name contents s = _ := hwrite
    have hok := fate.isOk_iff s.root name
    rw [writeEach, hsink]
    dsimp only
    rw [successes_cons]
    by_cases hwritten : fate = .written
    · have hfree : name ∉ s.written := fun h => by
        rw [hrepeated.2 h] at hwritten
        cases hwritten
      obtain ⟨hroot, hascending, hmem, hnodup, hnew⟩ := written_writeEach rest
        ⟨s.root, insertName name s.written, left⟩ (ascending_insertName name hs)
      rw [if_pos hwritten, if_pos (hok.2 hwritten), List.singleton_append]
      refine ⟨hroot, hascending, fun n => ?_, List.nodup_cons.2 ⟨fun h => ?_, hnodup⟩, ?_⟩
      · rw [hmem, mem_insertName, List.mem_cons, or_comm (a := n = name), or_assoc]
      · exact hnew name h ((mem_insertName _ _ _).2 (.inl rfl))
      · refine List.forall_mem_cons.2 ⟨hfree, fun n hn htaken => ?_⟩
        exact hnew n hn ((mem_insertName _ _ _).2 (.inr htaken))
    · rw [if_neg hwritten, if_neg fun h => hwritten (hok.1 h), List.nil_append]
      exact written_writeEach rest ⟨s.root, s.written, left⟩ hs

end DirectorySink

/-- Files handed to a new sink for a directory, on a disk that answers whatever it does. -/
structure WrittenOnce (root : String) (files : List (String × String)) (disk : σ) : Prop where
  /-- No name is written twice. -/
  nodup : (successes files (writeEach files (⟨root, [], disk⟩ : DirectorySink σ)).1).Nodup
  /-- What is listed are the names that were written, ascending. -/
  paths : (writeEach files (⟨root, [], disk⟩ : DirectorySink σ)).2.paths =
    (nameSet (successes files (writeEach files (⟨root, [], disk⟩ : DirectorySink σ)).1)).map
      (join root)
  /-- Each file in its turn: the name is refused exactly if it was written before, and nothing is
  done then; otherwise the disk is asked, and where it fails the names that are taken stay. -/
  turns : ∀ before name contents after, files = before ++ (name, contents) :: after →
    let earlier := writeEach before (⟨root, [], disk⟩ : DirectorySink σ)
    let turn := DirectorySink.write name contents earlier.2
    (writeEach files (⟨root, [], disk⟩ : DirectorySink σ)).1[before.length]? = some turn.1 ∧
      (turn.1 = .error (.alreadyWritten name) ↔ name ∈ successes before earlier.1) ∧
      (turn.1 = .error (.alreadyWritten name) → turn.2 = earlier.2) ∧
      (turn.1.isOk = false → turn.2.written = earlier.2.written) ∧
      ∃ fate : Fate, fate.Takes root name contents earlier.2.disk turn.2.disk ∧
        turn.1 = (fate.fault? root name).elim (.ok ()) .error ∧
        (fate = .repeated ↔ name ∈ successes before earlier.1)

theorem Fate.fault_eq_alreadyWritten (fate : Fate) (directory name : String) :
    ((fate.fault? directory name).elim (.ok ()) .error : Except SinkFault Unit) =
      .error (.alreadyWritten name) ↔ fate = .repeated := by
  cases fate <;> simp [fault?]

theorem writtenOnce (root : String) (files : List (String × String)) (disk : σ) :
    WrittenOnce root files disk := by
  have hstart : Ascending (⟨root, [], disk⟩ : DirectorySink σ).written := List.Pairwise.nil
  obtain ⟨hroot, hascending, hmem, hnodup, -⟩ := DirectorySink.written_writeEach files _ hstart
  refine ⟨hnodup, ?paths, ?turns⟩
  case paths =>
    -- Both lists ascend, so they are the same list if they have the same names.
    have hwritten : (writeEach files (⟨root, [], disk⟩ : DirectorySink σ)).2.written =
        nameSet (successes files (writeEach files (⟨root, [], disk⟩ : DirectorySink σ)).1) := by
      refine List.Pairwise.eq_of_mem_iff hascending (ascending_nameSet _) fun name => ?_
      rw [hmem, mem_nameSet, or_iff_right List.not_mem_nil]
    rw [DirectorySink.paths, hroot, hwritten]
  case turns =>
    rintro before name contents after rfl
    obtain ⟨hroot', -, hmem', -, -⟩ := DirectorySink.written_writeEach before _ hstart
    obtain ⟨fate, left, htakes, hrepeated, hwrite⟩ :=
      (writeEach before (⟨root, [], disk⟩ : DirectorySink σ)).2.write_takes name contents
    rw [hmem', or_iff_right List.not_mem_nil] at hrepeated
    rw [hroot'] at htakes hwrite
    have hlength := length_writeEach before (⟨root, [], disk⟩ : DirectorySink σ)
    refine ⟨?_, ?_, ?_, ?_, fate, ?_, ?_, hrepeated⟩
    · rw [writeEach_append, ← hlength, List.getElem?_append_right le_rfl, Nat.sub_self]
      rfl
    · rw [hwrite, fate.fault_eq_alreadyWritten, hrepeated]
    · intro hrefused
      rw [hwrite, fate.fault_eq_alreadyWritten] at hrefused
      subst hrefused
      cases htakes
      rw [hwrite, if_neg (by decide), ← hroot']
    · intro hfailed
      rw [hwrite] at hfailed ⊢
      have hnot : fate ≠ .written := fun h => by
        rw [(fate.isOk_iff root name).2 h] at hfailed
        cases hfailed
      exact if_neg hnot
    · rw [hwrite]
      exact htakes
    · rw [hwrite]

/-! ## As in memory -/

/-- **One write where the disk does not fail.** The name is refused in the directory and in memory,
and nothing changes, or the file is written in both. -/
theorem write_of_noFault {s : DirectorySink σ} {m : MemorySink} {name contents : String}
    (hnames : s.written = m.files.keys)
    (hfault : ∀ path fault, (DirectorySink.write name contents s).1 ≠ .error (.disk path fault)) :
    (DirectorySink.write name contents s = (.error (.alreadyWritten name), s) ∧
        MemorySink.write name contents m = (.error (.alreadyWritten name), m)) ∨
      ∃ left, Fate.written.Takes s.root name contents s.disk left ∧
        DirectorySink.write name contents s = (.ok (), ⟨s.root, insertName name s.written, left⟩) ∧
        MemorySink.write name contents m = (.ok (), ⟨m.files.set name contents⟩) := by
  obtain ⟨fate, left, htakes, hrepeated, hwrite⟩ := s.write_takes name contents
  have hhas : m.files.has name = true ↔ fate = .repeated := by
    rw [Table.has_iff, ← hnames, hrepeated]
  rw [hwrite] at hfault
  cases fate with
  | written =>
    refine .inr ⟨left, htakes, hwrite, ?_⟩
    rw [MemorySink.write, if_neg fun h => by cases hhas.1 h]
  | repeated =>
    refine .inl ⟨DirectorySink.write_of_mem (hrepeated.1 rfl) contents, ?_⟩
    rw [MemorySink.write, if_pos (hhas.2 rfl)]
  | noDirectory fault => exact absurd rfl (hfault s.root fault)
  | refused fault => exact absurd rfl (hfault (join s.root name) fault)

theorem answers_writeEach : ∀ (files : List (String × String)) {s : DirectorySink σ}
    {m : MemorySink}, s.written = m.files.keys → NoDiskFault (writeEach files s).1 →
      (writeEach files s).1 = (writeEach files m).1 ∧
        (writeEach files s).2.written = (writeEach files m).2.files.keys
  | [], s, m, hnames, _ => ⟨rfl, hnames⟩
  | (name, contents) :: rest, s, m, hnames, hfault => by
    obtain ⟨hfirst, hrest⟩ := noDiskFault_cons.1 hfault
    have hsink : Sink.write name contents s = DirectorySink.write name contents s := rfl
    have hmemory : Sink.write name contents m = MemorySink.write name contents m := rfl
    rw [hsink] at hrest
    rw [writeEach, writeEach, hsink, hmemory]
    rcases write_of_noFault hnames hfirst with ⟨hs, hm⟩ | ⟨left, -, hs, hm⟩
    · rw [hs] at hrest ⊢
      rw [hm]
      obtain ⟨hanswers, hleft⟩ := answers_writeEach rest hnames hrest
      exact ⟨congrArg (_ :: ·) hanswers, hleft⟩
    · rw [hs] at hrest ⊢
      rw [hm]
      have hkeys : insertName name s.written = (m.files.set name contents).keys := by
        rw [Table.keys_set, hnames]
      obtain ⟨hanswers, hleft⟩ := answers_writeEach rest hkeys hrest
      exact ⟨congrArg (_ :: ·) hanswers, hleft⟩

/-- A disk that takes the files fails in none of the writes. -/
theorem noDiskFault_writeEach {root : String} {names : List String} {good : σ → Prop}
    (hgood : KeepsTaking good root names) : ∀ (files : List (String × String))
    {written : List String} {disk : σ}, good disk → (∀ file ∈ files, file.1 ∈ names) →
      NoDiskFault (writeEach files (⟨root, written, disk⟩ : DirectorySink σ)).1
  | [], written, disk, _, _ => fun path fault => List.not_mem_nil
  | (name, contents) :: rest, written, disk, hdisk, hfiles => by
    obtain ⟨hname, hrest⟩ := List.forall_mem_cons.1 hfiles
    have hsink : Sink.write name contents (⟨root, written, disk⟩ : DirectorySink σ) =
      DirectorySink.write name contents ⟨root, written, disk⟩ := rfl
    rw [noDiskFault_cons, hsink]
    by_cases htaken : name ∈ written
    · rw [DirectorySink.write_of_mem htaken]
      exact ⟨fun path fault h => (by cases h), noDiskFault_writeEach hgood rest hdisk hrest⟩
    · obtain ⟨made, hmade, htakes⟩ := hgood disk hdisk
      obtain ⟨left, hleft, hstill⟩ := htakes name hname contents
      rw [DirectorySink.write_of_not_mem htaken hmade hleft]
      exact ⟨fun path fault h => (by cases h), noDiskFault_writeEach hgood rest hstill hrest⟩

/-! ## What is read back -/

namespace FileSystem

variable {fs left : FileSystem} {root name contents : String} {files : List String}

/-- A directory has a file with a text. -/
def Keeps (fs : FileSystem) (root name contents : String) : Prop :=
  IsFileName name ∧ acceptable (join root name) = .ok () ∧ ∃ here,
    fs.walk (fs.start root) (names root) = .ok here ∧
      fs.lookup here name = .ok (some (.file contents))

theorem Keeps.readFile (h : fs.Keeps root name contents) :
    fs.readFile (join root name) = .ok contents := by
  obtain ⟨hname, hpath, here, hwalk, hlookup⟩ := h
  have hfile : namesDirectory (join root name) = false := by
    rcases eq_or_ne root "" with rfl | hroot
    · rw [join_empty]
      exact namesDirectory_of_getLast hname rfl
    · exact namesDirectory_join hname hroot
  rw [← start_join hname] at hwalk
  have hlocate := locate_of_walk hpath (names_join hname root) hwalk hname.ne_current
    hname.ne_parent
  simp only [FileSystem.readFile, hlocate, bind, Except.bind, hlookup, hfile]
  rfl

/-- A file stays as it is where only others are written. -/
theorem Keeps.confined (h : fs.Keeps root name contents) (hleft : Confined root files fs left)
    (hother : name ∉ files) : left.Keeps root name contents := by
  obtain ⟨hname, hpath, here, hwalk, hlookup⟩ := h
  obtain ⟨hshort, hentry⟩ := lookup_eq_ok.1 hlookup
  refine ⟨hname, hpath, here, hleft.walk hwalk, lookup_eq_ok.2 ⟨hshort, ?_⟩⟩
  rcases hleft.places (here ++ [name]) with hsame | ⟨hnone, -, -⟩ |
    ⟨there, other, text, hfile, hplace, -, -⟩
  · rw [hsame, hentry]
  · rw [hentry] at hnone
    cases hnone
  · obtain ⟨-, rfl⟩ := List.append_singleton_inj.1 hplace
    exact absurd hfile hother

theorem keeps_of_writeFile (hname : IsFileName name)
    (h : writeFile (join root name) contents fs = (.ok (), left)) :
    left.Keeps root name contents := by
  have hconfined := @writeFile_confined root name [name] hname List.mem_cons_self contents fs
  rw [h] at hconfined
  unfold writeFile at h
  split at h
  · cases h
  · cases h
  · rename_i here last hlocate
    obtain ⟨above, hnames, hwalk, -, -⟩ := locate_eq_ok hlocate
    obtain ⟨_, hpath, -⟩ := bind_eq_ok.1 hlocate
    rw [names_join hname, List.append_singleton_inj] at hnames
    obtain ⟨rfl, rfl⟩ := hnames
    rw [start_join hname] at hwalk
    split at h
    · cases h
    · split at h
      · cases h
      · cases h
      · rename_i hlookup
        obtain ⟨hshort, -⟩ := lookup_eq_ok.1 hlookup
        have hne : here ++ [name] ≠ [] := List.append_ne_nil_of_right_ne_nil _ (List.cons_ne_nil _ _)
        refine ⟨hname, hpath, here, hconfined.walk hwalk, lookup_eq_ok.2 ⟨hshort, ?_⟩⟩
        cases h
        exact entry_put_self hne _ fs

end FileSystem

/-- Where the disk never fails, each file of memory is in the directory. -/
theorem keeps_writeEach : ∀ (files : List (String × String)) {s : DirectorySink FileSystem}
    {m : MemorySink}, (∀ file ∈ files, IsFileName file.1) → s.written = m.files.keys →
      (∀ name contents, m.files.find? name = some contents →
        s.disk.Keeps s.root name contents) →
      NoDiskFault (writeEach files s).1 →
      ∀ name contents, (writeEach files m).2.files.find? name = some contents →
        (writeEach files s).2.disk.Keeps s.root name contents
  | [], s, m, _, _, hkeeps, _ => hkeeps
  | (name, contents) :: rest, s, m, hfiles, hnames, hkeeps, hfault => by
    obtain ⟨hname, hplain⟩ := List.forall_mem_cons.1 hfiles
    obtain ⟨hfirst, hrest⟩ := noDiskFault_cons.1 hfault
    have hsink : Sink.write name contents s = DirectorySink.write name contents s := rfl
    have hmemory : Sink.write name contents m = MemorySink.write name contents m := rfl
    rw [hsink] at hrest
    rw [writeEach, writeEach, hsink, hmemory]
    rcases write_of_noFault hnames hfirst with ⟨hs, hm⟩ | ⟨left, htakes, hs, hm⟩
    · rw [hs] at hrest ⊢
      rw [hm]
      exact keeps_writeEach rest hplain hnames hkeeps hrest
    · rw [hs] at hrest ⊢
      rw [hm]
      have hkeys : insertName name s.written = (m.files.set name contents).keys := by
        rw [Table.keys_set, hnames]
      refine @keeps_writeEach rest ⟨s.root, _, left⟩ ⟨m.files.set name contents⟩ hplain hkeys ?_ hrest
      intro other text hfound
      rw [Table.find?_set] at hfound
      have hconfined := @Fate.Takes.confined _ _ _ _ _ _ [name] htakes hname List.mem_cons_self
      by_cases hother : name = other
      · subst hother
        rw [if_pos rfl] at hfound
        cases hfound
        cases htakes with
        | written hmade hleft => exact keeps_of_writeFile hname hleft
      · rw [if_neg hother] at hfound
        exact (hkeeps other text hfound).confined hconfined fun h =>
          hother (List.mem_singleton.1 h).symm

theorem confined_writeEach {all : List String} : ∀ (files : List (String × String))
    (s : DirectorySink FileSystem), (∀ file ∈ files, IsFileName file.1 ∧ file.1 ∈ all) →
      Confined s.root all s.disk (writeEach files s).2.disk
  | [], s, _ => Confined.refl s.root all s.disk
  | (name, contents) :: rest, s, hfiles => by
    obtain ⟨⟨hname, hall⟩, hplain⟩ := List.forall_mem_cons.1 hfiles
    obtain ⟨fate, left, htakes, -, hwrite⟩ := s.write_takes name contents
    have hsink : Sink.write name contents s = _ := hwrite
    rw [writeEach, hsink]
    exact (htakes.confined hname hall).trans (confined_writeEach rest ⟨s.root, _, left⟩ hplain)

/-- **A directory takes each name once, whatever fails.** On every disk, a write is refused exactly
if an earlier one of the same name succeeded, and then nothing is done; a write that fails takes no
name; and the names that are listed are those whose write succeeded. If the disk fails in none of
the writes, the answers are those of memory; if the names are plain besides, each file that memory
has is read back from the directory with the same text, and nothing else on the disk has changed
but the directories on the way. -/
theorem directory_files (root : String) (files : List (String × String)) :
    (∀ {σ : Type} [Disk σ] (disk : σ), WrittenOnce root files disk ∧
      let run := writeEach files (⟨root, [], disk⟩ : DirectorySink σ)
      let memory := writeEach files (⟨[]⟩ : MemorySink)
      (NoDiskFault run.1 → run.1 = memory.1 ∧ run.2.written = memory.2.files.keys)) ∧
    ∀ disk : FileSystem,
      let run := writeEach files (⟨root, [], disk⟩ : DirectorySink FileSystem)
      let memory := writeEach files (⟨[]⟩ : MemorySink)
      (∀ file ∈ files, IsFileName file.1) → NoDiskFault run.1 →
        (∀ name contents, memory.2.files.find? name = some contents →
          run.2.disk.readFile (join root name) = .ok contents) ∧
        Confined root (files.map Prod.fst) disk run.2.disk := by
  refine ⟨fun {σ} _ disk => ⟨writtenOnce root files disk, answers_writeEach files rfl⟩, ?_⟩
  intro disk run memory hplain hfault
  refine ⟨fun name contents hfound => ?_, ?_⟩
  · have hnone (name contents : String)
        (h : (⟨[]⟩ : MemorySink).files.find? name = some contents) :
        disk.Keeps root name contents := by cases h
    have hkeeps := @keeps_writeEach files ⟨root, [], disk⟩ ⟨[]⟩ hplain rfl hnone hfault
    exact (hkeeps name contents hfound).readFile
  · exact confined_writeEach files ⟨root, [], disk⟩ fun file hfile =>
      ⟨hplain file hfile, List.mem_map_of_mem hfile⟩

/-- Of three files the second has the name of the first, and its text is not written. -/
theorem directory_files_twice :
    let files := [("a.rs", "1"), ("a.rs", "2"), ("b.rs", "3")]
    let run := writeEach files (⟨"/w", [], ofDirectory ["w"]⟩ : DirectorySink FileSystem)
    (∀ file ∈ files, IsFileName file.1) ∧ NoDiskFault run.1 ∧
      run.1 = [.ok (), .error (.alreadyWritten "a.rs"), .ok ()] ∧
      run.2.disk.readFile "/w/a.rs" = .ok "1" ∧ run.2.disk.readFile "/w/b.rs" = .ok "3" := by
  intro files run
  have hplain : ∀ file ∈ files, IsFileName file.1 := by decide
  have hroom : HasRoom "/w" ["w"] ["a.rs", "b.rs"] (ofDirectory ["w"]) :=
    ⟨by decide, by decide, by decide⟩
  obtain ⟨good, hdisk, hgood⟩ := hroom.takesFiles (by decide)
  have hfault : NoDiskFault run.1 := noDiskFault_writeEach hgood files hdisk (by decide)
  obtain ⟨hdisks, hreads⟩ := directory_files "/w" files
  obtain ⟨hanswers, -⟩ := (hdisks (ofDirectory ["w"])).2 hfault
  obtain ⟨hread, -⟩ := hreads (ofDirectory ["w"]) hplain hfault
  exact ⟨hplain, hfault, hanswers.trans rfl, hread "a.rs" "1" rfl, hread "b.rs" "3" rfl⟩

end GraphRepo

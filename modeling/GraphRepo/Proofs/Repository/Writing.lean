import GraphRepo.Proofs.Table
import GraphRepo.Repository.Pass

/-!
# Writing a report into a directory

A directory takes each name once in a pass. On a disk that takes the files no other write fails, so
the whole of a report is written exactly if no two of its units have the same file name.
-/

namespace GraphRepo

variable {σ : Type}

/-! ## Names that come again -/

/-- The names that were taken before or stand further ahead; the others are taken one by one. -/
def repeated : List String → List String → List String
  | _, [] => []
  | taken, name :: rest =>
    if name ∈ taken then name :: repeated taken rest else repeated (insertName name taken) rest

theorem repeated_eq_nil : ∀ {names taken : List String},
    repeated taken names = [] ↔ names.Nodup ∧ ∀ name ∈ names, name ∉ taken
  | [], taken => by simp [repeated]
  | name :: rest, taken => by
    rw [repeated, List.nodup_cons, List.forall_mem_cons]
    by_cases htaken : name ∈ taken
    · simp [htaken]
    · have hfree : (∀ n ∈ rest, n ∉ insertName name taken) ↔
          name ∉ rest ∧ ∀ n ∈ rest, n ∉ taken := by
        constructor
        · intro h
          refine ⟨fun hname => h name hname ((mem_insertName _ _ _).2 (.inl rfl)), fun n hn => ?_⟩
          exact fun htaken => h n hn ((mem_insertName _ _ _).2 (.inr htaken))
        · rintro ⟨hname, hrest⟩ n hn hmem
          obtain rfl | hmem := (mem_insertName _ _ _).1 hmem
          · exact hname hn
          · exact hrest n hn hmem
      rw [if_neg htaken, repeated_eq_nil, hfree]
      constructor
      · rintro ⟨hnodup, hname, hrest⟩
        exact ⟨⟨hname, hnodup⟩, htaken, hrest⟩
      · rintro ⟨⟨hname, hnodup⟩, -, hrest⟩
        exact ⟨hnodup, hname, hrest⟩

/-! ## Disks that take files -/

variable [Disk σ]

/-- Good disks make the directory and take a file of each name in it, after which they are good
again. -/
def KeepsTaking (good : σ → Prop) (directory : String) (names : List String) : Prop :=
  ∀ disk, good disk → ∃ made, Disk.createDirectory directory disk = (.ok (), made) ∧
    ∀ name ∈ names, ∀ contents, ∃ left,
      Disk.writeFile (FilePath.join directory name) contents made = (.ok (), left) ∧ good left

/-- A disk that takes files of some names in a directory, however many. -/
def TakesFiles (directory : String) (names : List String) (disk : σ) : Prop :=
  ∃ good, good disk ∧ KeepsTaking good directory names

namespace DirectorySink

theorem write_of_mem {name : String} {s : DirectorySink σ} (h : name ∈ s.written)
    (contents : String) : write name contents s = (.error (.alreadyWritten name), s) := by
  rw [write, if_pos (List.contains_iff_mem.2 h)]

theorem write_of_not_mem {name contents : String} {s : DirectorySink σ} {made left : σ}
    (h : name ∉ s.written) (hmade : Disk.createDirectory s.root s.disk = (.ok (), made))
    (hleft : Disk.writeFile (FilePath.join s.root name) contents made = (.ok (), left)) :
    write name contents s =
      (.ok (), { s with disk := left, written := insertName name s.written }) := by
  rw [write, if_neg fun hmem => h (List.contains_iff_mem.1 hmem), hmade]
  dsimp only
  rw [hleft]

end DirectorySink

theorem errors_writeUnits {directory : String} {names : List String} {good : σ → Prop}
    (hgood : KeepsTaking good directory names) :
    ∀ {units : List GeneratedUnit} {written : List String} {disk : σ}, good disk →
      (∀ u ∈ units, u.fileName ∈ names) →
      (writeUnits units (⟨directory, written, disk⟩ : DirectorySink σ)).1.errors =
        (repeated written (units.map (·.fileName))).map .alreadyWritten
  | [], _, _, _, _ => rfl
  | u :: rest, written, disk, hdisk, hnames => by
    obtain ⟨hname, hrest⟩ := List.forall_mem_cons.1 hnames
    have hwrite : Sink.write u.fileName u.render (⟨directory, written, disk⟩ : DirectorySink σ) =
      DirectorySink.write u.fileName u.render ⟨directory, written, disk⟩ := rfl
    rw [writeUnits, hwrite, List.map_cons, repeated]
    by_cases htaken : u.fileName ∈ written
    · rw [DirectorySink.write_of_mem htaken, if_pos htaken, List.map_cons,
        ← errors_writeUnits hgood hdisk hrest]
    · obtain ⟨made, hmade, hfiles⟩ := hgood disk hdisk
      obtain ⟨left, hleft, hstill⟩ := hfiles u.fileName hname u.render
      rw [DirectorySink.write_of_not_mem htaken hmade hleft, if_neg htaken,
        ← errors_writeUnits hgood hstill hrest]

/-- **On a disk that takes the files, only the names that come again are not written.** -/
theorem errors_writeTo {r : Report} {directory : String} {disk : σ}
    (h : TakesFiles directory (r.units.map (·.fileName)) disk) :
    (r.writeTo (⟨directory, [], disk⟩ : DirectorySink σ)).1.errors =
      (repeated [] (r.units.map (·.fileName))).map .alreadyWritten := by
  obtain ⟨good, hdisk, hgood⟩ := h
  exact errors_writeUnits hgood hdisk fun u hu => List.mem_map_of_mem hu

theorem isSuccess_writeTo {r : Report} {directory : String} {disk : σ}
    (h : TakesFiles directory (r.units.map (·.fileName)) disk) :
    (r.writeTo (⟨directory, [], disk⟩ : DirectorySink σ)).1.isSuccess ↔
      (r.units.map (·.fileName)).Nodup := by
  rw [WriteSummary.isSuccess, errors_writeTo h, List.isEmpty_iff, List.map_eq_nil_iff,
    repeated_eq_nil]
  simp

end GraphRepo

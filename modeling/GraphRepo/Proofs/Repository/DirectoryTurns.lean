import GraphRepo.Proofs.Repository.Writing

/-!
# Writing into a directory, turn by turn

A directory lies on a disk that may fail at any time. Each file has its turn: it is written, or its
name was written before, or the disk refuses the directory or the file. What the disk did in its
turn is all that a file leaves behind, and only what was written takes a name.
-/

namespace GraphRepo

variable {σ : Type}

/-- What becomes of a file when it is its turn. -/
inductive Fate
  | written
  | repeated
  | noDirectory (fault : DiskFault)
  | refused (fault : DiskFault)
  deriving DecidableEq

/-- The fault that is reported of a file, if it was not written. -/
def Fate.fault? (directory name : String) : Fate → Option SinkFault
  | .written => none
  | .repeated => some (.alreadyWritten name)
  | .noDirectory fault => some (.disk directory fault)
  | .refused fault => some (.disk (FilePath.join directory name) fault)

theorem Fate.fault_eq_none {directory name : String} {fate : Fate} :
    fate.fault? directory name = none ↔ fate = .written := by
  cases fate <;> simp [fault?]

variable [Disk σ]

/-- What a file does to the disk when it is its turn. -/
inductive Fate.Takes (directory name contents : String) : Fate → σ → σ → Prop
  | written {disk made left : σ} (hmade : Disk.createDirectory directory disk = (.ok (), made))
      (hleft : Disk.writeFile (FilePath.join directory name) contents made = (.ok (), left)) :
      Takes directory name contents .written disk left
  | repeated {disk : σ} : Takes directory name contents .repeated disk disk
  | noDirectory {disk left : σ} {fault : DiskFault}
      (hleft : Disk.createDirectory directory disk = (.error fault, left)) :
      Takes directory name contents (.noDirectory fault) disk left
  | refused {disk made left : σ} {fault : DiskFault}
      (hmade : Disk.createDirectory directory disk = (.ok (), made))
      (hleft : Disk.writeFile (FilePath.join directory name) contents made = (.error fault, left)) :
      Takes directory name contents (.refused fault) disk left

/-- What units do to the disk one after the other. -/
inductive Turns (directory : String) : List (GeneratedUnit × Fate) → σ → σ → Prop
  | nil {disk : σ} : Turns directory [] disk disk
  | cons {u : GeneratedUnit} {fate : Fate} {turns : List (GeneratedUnit × Fate)}
      {disk next left : σ} (hu : fate.Takes directory u.fileName u.render disk next)
      (hturns : Turns directory turns next left) :
      Turns directory ((u, fate) :: turns) disk left

/-- A name is taken by a unit that was written. -/
def Written (turns : List (GeneratedUnit × Fate)) (name : String) : Prop :=
  ∃ u, (u, Fate.written) ∈ turns ∧ u.fileName = name

/-- Units are written into a directory one after the other, on a disk that may refuse any of them.
Of those with one name the first that is written takes it, and all later ones are repeated. -/
structure WritesInTurn (directory : String) (units : List GeneratedUnit)
    (turns : List (GeneratedUnit × Fate)) (disk left : σ) : Prop where
  ofUnits : turns.map Prod.fst = units
  onDisk : Turns directory turns disk left
  repeated : ∀ before u fate after, turns = before ++ (u, fate) :: after →
    (fate = .repeated ↔ Written before u.fileName)

/-! ## One turn -/

namespace DirectorySink

/-- **One write.** The name is taken exactly if it was or the file is written now. -/
theorem write_takes (name contents : String) (s : DirectorySink σ) :
    ∃ (fate : Fate) (left : σ), fate.Takes s.root name contents s.disk left ∧
      (fate = .repeated ↔ name ∈ s.written) ∧
      write name contents s =
        ((fate.fault? s.root name).elim (.ok ()) .error,
          ⟨s.root, if fate = .written then insertName name s.written else s.written, left⟩) := by
  unfold write
  by_cases htaken : name ∈ s.written
  · rw [if_pos (List.contains_iff_mem.2 htaken)]
    exact ⟨.repeated, s.disk, .repeated, iff_of_true rfl htaken, rfl⟩
  · rw [if_neg fun h => htaken (List.contains_iff_mem.1 h)]
    rcases hmade : Disk.createDirectory s.root s.disk with ⟨fault | ok, made⟩
    · exact ⟨.noDirectory fault, made, .noDirectory hmade, iff_of_false nofun htaken, rfl⟩
    · dsimp only
      rcases hleft : Disk.writeFile (FilePath.join s.root name) contents made with
        ⟨fault | ok, left⟩
      · exact ⟨.refused fault, left, .refused hmade hleft, iff_of_false nofun htaken, rfl⟩
      · exact ⟨.written, left, .written hmade hleft, iff_of_false nofun htaken, rfl⟩

end DirectorySink

/-! ## All turns -/

theorem not_written_nil (name : String) : ¬Written [] name := by
  rintro ⟨u, hu, -⟩
  cases hu

theorem written_cons {u : GeneratedUnit} {fate : Fate} {turns : List (GeneratedUnit × Fate)}
    {name : String} :
    Written ((u, fate) :: turns) name ↔
      (fate = .written ∧ u.fileName = name) ∨ Written turns name := by
  constructor
  · rintro ⟨v, hv, hname⟩
    rcases List.mem_cons.1 hv with heq | hmem
    · cases heq
      exact .inl ⟨rfl, hname⟩
    · exact .inr ⟨v, hmem, hname⟩
  · rintro (⟨rfl, hname⟩ | ⟨v, hv, hname⟩)
    · exact ⟨u, List.mem_cons_self, hname⟩
    · exact ⟨v, List.mem_cons_of_mem _ hv, hname⟩

theorem writeUnits_step {s s' : DirectorySink σ} {u : GeneratedUnit} {fault : Option SinkFault}
    (h : DirectorySink.write u.fileName u.render s = (fault.elim (.ok ()) .error, s'))
    (units : List GeneratedUnit) :
    (writeUnits (u :: units) s).1.errors = fault.toList ++ (writeUnits units s').1.errors ∧
      (writeUnits (u :: units) s).2 = (writeUnits units s').2 := by
  have hsink : Sink.write u.fileName u.render s = (fault.elim (.ok ()) .error, s') := h
  rw [writeUnits, hsink]
  cases fault <;> exact ⟨rfl, rfl⟩

/-- **Units have their turns one after the other**, whatever becomes of each. A unit is turned down
exactly if its name was taken before; what becomes of the others is for the disk to say. -/
theorem writeUnits_turns : ∀ (units : List GeneratedUnit) (s : DirectorySink σ),
    ∃ turns : List (GeneratedUnit × Fate), turns.map Prod.fst = units ∧
      Turns s.root turns s.disk (writeUnits units s).2.disk ∧
      (writeUnits units s).1.errors =
        turns.filterMap (fun p => p.2.fault? s.root p.1.fileName) ∧
      ∀ before u fate after, turns = before ++ (u, fate) :: after →
        (fate = .repeated ↔ u.fileName ∈ s.written ∨ Written before u.fileName)
  | [], s => ⟨[], rfl, .nil, rfl, fun before u fate after h => by cases before <;> cases h⟩
  | u :: units, s => by
    obtain ⟨fate, left, htakes, hrepeated, hwrite⟩ := s.write_takes u.fileName u.render
    obtain ⟨turns, hunits, hturns, herrors, hlater⟩ := writeUnits_turns units
      ⟨s.root, if fate = .written then insertName u.fileName s.written else s.written, left⟩
    obtain ⟨hfaults, hsink⟩ := writeUnits_step hwrite units
    refine ⟨(u, fate) :: turns, by rw [List.map_cons, hunits], ?_, ?_, ?_⟩
    · rw [hsink]
      exact .cons htakes hturns
    · rw [hfaults, herrors, List.filterMap_cons]
      cases fate.fault? s.root u.fileName <;> rfl
    · intro before v fate' after heq
      cases before with
      | nil =>
        cases heq
        rw [hrepeated, or_iff_left (not_written_nil _)]
      | cons first before =>
        obtain ⟨rfl, hrest⟩ := List.cons.inj heq
        -- The others find the name of the first one taken exactly if that one was written.
        have htaken : v.fileName ∈ (if fate = .written then insertName u.fileName s.written
            else s.written) ↔
            (fate = .written ∧ u.fileName = v.fileName) ∨ v.fileName ∈ s.written := by
          by_cases hwritten : fate = .written
          · rw [if_pos hwritten, mem_insertName, and_iff_right hwritten, eq_comm]
          · rw [if_neg hwritten, or_iff_right fun h => hwritten h.1]
        rw [hlater before v fate' after hrest, htaken, written_cons, or_assoc, or_left_comm]

theorem isEmpty_faults (directory : String) (turns : List (GeneratedUnit × Fate)) :
    (turns.filterMap fun p => p.2.fault? directory p.1.fileName).isEmpty =
      turns.all (·.2 = .written) := by
  rw [Bool.eq_iff_iff, List.isEmpty_iff, List.filterMap_eq_nil_iff, List.all_eq_true]
  refine forall₂_congr fun p _ => ?_
  rw [Fate.fault_eq_none, decide_eq_true_iff]

theorem length_faults (directory : String) (turns : List (GeneratedUnit × Fate)) :
    (turns.filterMap fun p => p.2.fault? directory p.1.fileName).length =
      turns.countP (·.2 ≠ .written) := by
  rw [List.length_filterMap_eq_countP]
  refine List.countP_congr fun p _ => ?_
  rw [Option.isSome_iff_ne_none, Ne, Fate.fault_eq_none, decide_eq_true_iff]

/-- **A report is written into a directory in turn**, and the faults are those of the turns. -/
theorem writeTo_inTurn (r : Report) (directory : String) (disk : σ) :
    ∃ turns, WritesInTurn directory r.units turns disk
        (r.writeTo (⟨directory, [], disk⟩ : DirectorySink σ)).2.disk ∧
      (r.writeTo (⟨directory, [], disk⟩ : DirectorySink σ)).1.errors =
        turns.filterMap fun p => p.2.fault? directory p.1.fileName := by
  obtain ⟨turns, hunits, hturns, herrors, hrepeated⟩ :=
    writeUnits_turns r.units (⟨directory, [], disk⟩ : DirectorySink σ)
  refine ⟨turns, ⟨hunits, hturns, fun before u fate after h => ?_⟩, herrors⟩
  rw [hrepeated before u fate after h, or_iff_right List.not_mem_nil]

/-! ## Disks that take files -/

theorem Fate.Takes.kept {directory : String} {names : List String} {good : σ → Prop}
    (hgood : KeepsTaking good directory names) {name contents : String} {fate : Fate}
    {disk left : σ} (h : fate.Takes directory name contents disk left) (hdisk : good disk)
    (hname : name ∈ names) : (fate = .written ∨ fate = .repeated) ∧ good left := by
  obtain ⟨made, hmade, hfiles⟩ := hgood disk hdisk
  obtain ⟨there, hthere, hstill⟩ := hfiles name hname contents
  cases h with
  | repeated => exact ⟨.inr rfl, hdisk⟩
  | noDirectory hleft => cases hmade.symm.trans hleft
  | written hmade' hleft =>
    cases hmade.symm.trans hmade'
    cases hthere.symm.trans hleft
    exact ⟨.inl rfl, hstill⟩
  | refused hmade' hleft =>
    cases hmade.symm.trans hmade'
    cases hthere.symm.trans hleft

theorem Turns.kept {directory : String} {names : List String} {good : σ → Prop}
    (hgood : KeepsTaking good directory names) {turns : List (GeneratedUnit × Fate)}
    {disk left : σ} (h : Turns directory turns disk left) (hdisk : good disk)
    (hnames : ∀ p ∈ turns, p.1.fileName ∈ names) :
    ∀ p ∈ turns, p.2 = .written ∨ p.2 = .repeated := by
  induction h with
  | nil => exact List.forall_mem_nil _
  | cons hu hturns ih =>
    obtain ⟨hname, hrest⟩ := List.forall_mem_cons.1 hnames
    obtain ⟨hfate, hnext⟩ := hu.kept hgood hdisk hname
    exact List.forall_mem_cons.2 ⟨hfate, ih hnext hrest⟩

/-- **A disk that takes the files refuses none of them.** -/
theorem WritesInTurn.kept {directory : String} {units : List GeneratedUnit}
    {turns : List (GeneratedUnit × Fate)} {disk left : σ}
    (h : WritesInTurn directory units turns disk left)
    (htakes : TakesFiles directory (units.map (·.fileName)) disk) :
    ∀ p ∈ turns, p.2 = .written ∨ p.2 = .repeated := by
  obtain ⟨good, hdisk, hgood⟩ := htakes
  refine h.onDisk.kept hgood hdisk fun p hp => ?_
  rw [← h.ofUnits, List.map_map]
  exact List.mem_map_of_mem hp

end GraphRepo

import Mathlib
import GraphRepo.Proofs.Repository.FactoryName
import GraphRepo.Proofs.Repository.FileMode

/-!
# Names of files

The file of a repository is named after its modules and its trait, each in lower case with
underscores between its words, and two underscores between them. No such name has two underscores in
a row or one at its end, so the names can be found again in that of the file. What they were before
they were in lower case cannot.
-/

namespace GraphRepo

open Source

/-! ## Texts with doubled marks between them -/

/-- No mark follows a mark. -/
def Spaced (mark : Char) (cs : List Char) : Prop := cs.IsChain fun c d => ¬(c = mark ∧ d = mark)

section Pieces

variable {mark : Char}

theorem spaced_of_not_mem : ∀ {cs : List Char}, mark ∉ cs → Spaced mark cs
  | [], _ => List.isChain_nil
  | [c], _ => List.isChain_singleton c
  | c :: d :: rest, h => by
    obtain ⟨hc, hrest⟩ := not_or.1 (mt List.mem_cons.2 h)
    exact List.isChain_cons_cons.2 ⟨fun hmark => hc hmark.1.symm, spaced_of_not_mem hrest⟩

theorem piecesBetween_of_spaced : ∀ {cs : List Char}, Spaced mark cs → piecesBetween mark cs = [cs]
  | [], _ => rfl
  | [c], _ => rfl
  | c :: d :: rest, h => by
    obtain ⟨hcd, hrest⟩ := List.isChain_cons_cons.1 h
    rw [piecesBetween, if_neg hcd, piecesBetween_of_spaced hrest]

theorem piecesBetween_append (rest : List Char) : ∀ {cs : List Char}, Spaced mark cs →
    cs.getLast? ≠ some mark →
      piecesBetween mark (cs ++ mark :: mark :: rest) = cs :: piecesBetween mark rest
  | [], _, _ => by rw [List.nil_append, piecesBetween, if_pos ⟨rfl, rfl⟩]
  | [c], _, hlast => by
    have hc : ¬(c = mark ∧ mark = mark) := fun h => hlast (congrArg some h.1)
    rw [List.singleton_append, piecesBetween, if_neg hc, piecesBetween, if_pos ⟨rfl, rfl⟩]
  | c :: d :: cs, h, hlast => by
    obtain ⟨hcd, hcs⟩ := List.isChain_cons_cons.1 h
    rw [List.getLast?_cons_cons] at hlast
    have hrest := piecesBetween_append rest hcs hlast
    rw [List.cons_append] at hrest
    rw [List.cons_append, List.cons_append, piecesBetween, if_neg hcd, hrest]

/-- **What doubled marks were put between is found again.** -/
theorem piecesBetween_intercalate {last : List Char} (hlast : Spaced mark last) :
    ∀ {ps : List (List Char)}, (∀ p ∈ ps, Spaced mark p ∧ p.getLast? ≠ some mark) →
      piecesBetween mark ([mark, mark].intercalate (ps ++ [last])) = ps ++ [last]
  | [], _ => by
    rw [List.nil_append, List.intercalate_singleton, piecesBetween_of_spaced hlast]
  | p :: ps, h => by
    obtain ⟨⟨hp, hend⟩, hps⟩ := List.forall_mem_cons.1 h
    have ih := piecesBetween_intercalate hlast hps
    obtain ⟨q, qs, hq⟩ := List.exists_cons_of_ne_nil (List.append_ne_nil_of_right_ne_nil ps
      (List.cons_ne_nil last []))
    rw [hq] at ih
    rw [List.cons_append, hq, List.intercalate_cons_cons, List.append_assoc]
    exact (piecesBetween_append _ hp hend).trans (congrArg (p :: ·) ih)

theorem head_intercalate {w : List Char} (hw : w ≠ []) (ws : List (List Char)) :
    ([mark].intercalate (w :: ws)).head? = w.head? := by
  cases ws with
  | nil => rw [List.intercalate_singleton]
  | cons w' ws =>
    rw [List.intercalate_cons_cons, List.append_assoc, List.head?_append_of_ne_nil _ hw]

theorem spaced_intercalate : ∀ {ws : List (List Char)}, (∀ w ∈ ws, w ≠ [] ∧ mark ∉ w) →
    Spaced mark ([mark].intercalate ws) ∧ ([mark].intercalate ws).getLast? ≠ some mark
  | [], _ => ⟨List.isChain_nil, fun h => by cases h⟩
  | [w], h => by
    obtain ⟨-, hmark⟩ := h w List.mem_cons_self
    rw [List.intercalate_singleton]
    exact ⟨spaced_of_not_mem hmark, fun hlast => hmark (List.mem_of_getLast? hlast)⟩
  | w :: w' :: ws, h => by
    obtain ⟨⟨-, hmark⟩, hrest⟩ := List.forall_mem_cons.1 h
    obtain ⟨hne', hmark'⟩ := hrest w' List.mem_cons_self
    obtain ⟨hspaced, hlast⟩ := spaced_intercalate hrest
    have hhead := @head_intercalate mark _ hne' ws
    -- Neither the word before the mark ends in one nor does the word behind it start with one.
    have hbefore : Spaced mark (w ++ [mark]) := by
      refine List.isChain_append.2
        ⟨spaced_of_not_mem hmark, List.isChain_singleton mark, fun c hc d _ hboth => hmark ?_⟩
      rw [← hboth.1]
      exact List.mem_of_getLast? hc
    rw [List.intercalate_cons_cons]
    constructor
    · refine List.isChain_append.2 ⟨hbefore, hspaced, fun c _ d hd hboth => hmark' ?_⟩
      rw [hhead] at hd
      rw [← hboth.2]
      exact List.mem_of_mem_head? hd
    · have hne : [mark].intercalate (w' :: ws) ≠ [] := by
        intro hnil
        rw [hnil] at hhead
        exact hne' (List.head?_eq_none_iff.1 hhead.symm)
      rwa [List.getLast?_append_of_ne_nil _ hne]

end Pieces

/-! ## Lower case -/

namespace Text

/-- Whether a code point is the image of none under some runs. -/
def misses (n : Nat) : List Nat → Bool
  | lo :: hi :: _ :: image :: rest => (n < image || image + (hi - lo) < n) && misses n rest
  | _ => true

theorem mapRuns_ne {runs : List Nat} {m n : Nat} (hruns : misses n runs) (hne : m ≠ n) :
    mapRuns runs m ≠ n := by
  fun_induction mapRuns runs m with
  | case1 => exact hne
  | case2 lo hi step image rest m hlo hhi hstep =>
    rw [misses, Bool.and_eq_true, Bool.or_eq_true, decide_eq_true_iff, decide_eq_true_iff] at hruns
    omega
  | case3 => exact hne
  | case4 lo hi step image rest m hlo hhi ih =>
    rw [misses, Bool.and_eq_true] at hruns
    exact ih hruns.2 hne
  | case5 => exact hne

/-- The lower case of no other character has it. -/
def IsLowerOfNone (d : Char) : Prop :=
  misses d.toNat lowerRuns ∧ d ∉ ['\x00', 'i', Char.ofNat 775, Char.ofNat 962]

instance : DecidablePred IsLowerOfNone := fun d =>
  inferInstanceAs (Decidable (misses d.toNat lowerRuns ∧ d ∉ _))

section LowerCase

variable {c d : Char}

theorem not_mem_lower (hd : IsLowerOfNone d) (hne : c ≠ d) : d ∉ lower c := by
  obtain ⟨hruns, hspecial⟩ := hd
  simp only [List.mem_cons, List.not_mem_nil, or_false, not_or] at hspecial
  obtain ⟨hnul, hi, hdot, -⟩ := hspecial
  intro h
  rw [lower] at h
  split at h
  · simp [hi, hdot] at h
  · have hd : d = Char.ofNat (mapRuns lowerRuns c.toNat) := List.mem_singleton.1 h
    have hnat := congrArg Char.toNat hd
    rw [Char.toNat_ofNat] at hnat
    split at hnat
    · exact mapRuns_ne hruns (mt Char.toNat_inj.1 hne) hnat.symm
    · exact hnul (Char.toNat_inj.1 hnat)

/-- What is in a word in lower case is in the lower case of one of its characters, but for the sigma
at the end. -/
theorem mem_lowerWord : ∀ {w : List Char}, d ∈ lowerWord w →
    d = Char.ofNat 962 ∨ ∃ c ∈ w, d ∈ lower c
  | [], h => by
    rw [lowerWord] at h
    cases h
  | c :: rest, h => by
    rw [lowerWord] at h
    rcases List.mem_append.1 h with hfirst | hrest
    · split at hfirst
      · exact .inl (List.mem_singleton.1 hfirst)
      · exact .inr ⟨c, List.mem_cons_self, hfirst⟩
    · rcases mem_lowerWord hrest with hsigma | ⟨c', hc', hlower⟩
      · exact .inl hsigma
      · exact .inr ⟨c', List.mem_cons_of_mem c hc', hlower⟩

theorem not_mem_lowerWord (hd : IsLowerOfNone d) {w : List Char} (h : d ∉ w) : d ∉ lowerWord w := by
  intro hmem
  rcases mem_lowerWord hmem with rfl | ⟨c, hc, hlower⟩
  · exact hd.2 (by simp)
  · have hne : c ≠ d := fun heq => h (heq ▸ hc)
    exact not_mem_lower hd hne hlower

theorem mem_lower_of_mem_snakeCase {name : List Char} (h : d ∈ snakeCase name) :
    d = '_' ∨ d = Char.ofNat 962 ∨ ∃ c ∈ name, isAlphanumeric c ∧ d ∈ lower c := by
  rcases mem_intercalate h with hsep | ⟨v, hv, hmem⟩
  · exact .inl (List.mem_singleton.1 hsep)
  · obtain ⟨w, hw, rfl⟩ := List.mem_map.1 hv
    rcases mem_lowerWord hmem with hsigma | ⟨c, hc, hlower⟩
    · exact .inr (.inl hsigma)
    · have hword := List.mem_flatten_of_mem hw hc
      rw [flatten_words, List.mem_filter] at hword
      exact .inr (.inr ⟨c, hword.1, hword.2, hlower⟩)

theorem lowerWord_ne_nil {w : List Char} (h : w ≠ []) : lowerWord w ≠ [] := by
  obtain ⟨c, rest, rfl⟩ := List.exists_cons_of_ne_nil h
  have hlower : lower c ≠ [] := by
    unfold lower
    split <;> simp
  unfold lowerWord
  split <;> simp [hlower]

/-- **Words in lower case have single underscores between them**, and none at the end. -/
theorem spaced_snakeCase (name : List Char) :
    Spaced '_' (snakeCase name) ∧ (snakeCase name).getLast? ≠ some '_' := by
  refine spaced_intercalate fun v hv => ?_
  obtain ⟨w, hw, rfl⟩ := List.mem_map.1 hv
  have hunderscore : '_' ∉ w := by
    intro hmem
    have hletter := List.mem_flatten_of_mem hw hmem
    rw [flatten_words, List.mem_filter] at hletter
    exact absurd hletter.2 (by decide)
  exact ⟨lowerWord_ne_nil (ne_nil_of_mem_words hw), not_mem_lowerWord (by decide) hunderscore⟩

end LowerCase

end Text

/-! ## File names -/

/-- What the name of a file has of the module. -/
def modulesInName (modulePath : Option String) : List String :=
  (modulePath.elim [] moduleSegments).map fun s => String.ofList (Text.snakeCase s)

/-- The name of a file without its extension. -/
def fileStem (modulePath : Option String) (name : String) : String :=
  "__".intercalate (modulesInName modulePath ++ [snake name ++ "_impl"])

theorem piecesBetween_fileStem (modulePath : Option String) (name : String) :
    piecesBetween '_' (fileStem modulePath name).toList =
      (modulesInName modulePath).map String.toList ++ [(snake name).toList ++ "_impl".toList] := by
  have hlast : Spaced '_' ((snake name).toList ++ "_impl".toList) := by
    obtain ⟨hspaced, hend⟩ := Text.spaced_snakeCase name.toList
    rw [snake, String.toList_ofList]
    refine List.isChain_append.2 ⟨hspaced, ?_, fun c hc d _ hboth => hend ?_⟩
    · simp
    · rw [← hboth.1]
      exact hc
  have hmodules : ∀ p ∈ (modulesInName modulePath).map String.toList,
      Spaced '_' p ∧ p.getLast? ≠ some '_' := by
    intro p hp
    obtain ⟨text, htext, rfl⟩ := List.mem_map.1 hp
    obtain ⟨segment, -, rfl⟩ := List.mem_map.1 htext
    rw [String.toList_ofList]
    exact Text.spaced_snakeCase segment
  have hpieces := piecesBetween_intercalate hlast hmodules
  rw [fileStem, String.toList_intercalate, List.map_append, List.map_singleton,
    String.toList_append]
  exact hpieces

/-- **A file name tells the modules and the trait**, as they are in lower case. -/
theorem fileStem_inj {modulePath modulePath' : Option String} {name name' : String} :
    fileStem modulePath name = fileStem modulePath' name' ↔
      modulesInName modulePath = modulesInName modulePath' ∧ snake name = snake name' := by
  constructor
  · intro h
    have hpieces := congrArg (fun stem => piecesBetween '_' stem.toList) h
    rw [piecesBetween_fileStem, piecesBetween_fileStem, List.append_singleton_inj] at hpieces
    obtain ⟨hmodules, hname⟩ := hpieces
    rw [List.map_inj_right fun _ _ => String.toList_inj.1] at hmodules
    exact ⟨hmodules, String.toList_inj.1 (List.append_cancel_right hname)⟩
  · rintro ⟨hmodules, hname⟩
    rw [fileStem, fileStem, hmodules, hname]

theorem fileName_eq_fileStem (d : Declaration) :
    d.fileName = fileStem d.modulePath d.name ++ ".rs" := rfl

/-- **A file name is the trait and its modules in lower case, and nothing else.** Cut at its doubled
underscores it falls into the names of the modules and that of the trait. So two traits have one file
exactly if these names are the same, whatever underscores are in what they were made from. -/
theorem Declaration.fileName_eq_iff (d d' : Declaration) :
    (∃ stem, d.fileName = stem ++ ".rs" ∧ piecesBetween '_' stem.toList =
      (modulesInName d.modulePath).map String.toList ++
        [(snake d.name).toList ++ "_impl".toList]) ∧
    (d.fileName = d'.fileName ↔
      snake d.name = snake d'.name ∧ modulesInName d.modulePath = modulesInName d'.modulePath) := by
  constructor
  · exact ⟨_, fileName_eq_fileStem d, piecesBetween_fileStem d.modulePath d.name⟩
  · rw [fileName_eq_fileStem, fileName_eq_fileStem, String.append_left_inj, fileStem_inj, and_comm]

/-- A module without letters and digits, between `a` and `b`. -/
example : piecesBetween '_' "a____b__r_impl".toList =
    ["a".toList, [], "b".toList, "r_impl".toList] := by decide

/-! ## Modules -/

/-- A module of some names below the root of the crate. -/
def cratePath (names : List String) : String := "::".intercalate ("crate" :: names)

structure IsModuleName (name : String) : Prop where
  no_colon : ':' ∉ name.toList
  trimmed : Text.trim name.toList = name.toList
  counts : name ∉ ["", "crate", "self"]

theorem intercalate_concat (sep last : String) : ∀ (s : String) (ss : List String),
    sep.intercalate (s :: ss ++ [last]) = sep.intercalate (s :: ss) ++ sep ++ last
  | s, [] => by
    rw [List.singleton_append, String.intercalate_cons_cons, String.intercalate_singleton,
      String.intercalate_singleton]
  | s, s' :: ss => by
    rw [List.cons_append, List.cons_append, String.intercalate_cons_cons, ← List.cons_append,
      intercalate_concat sep last s' ss, String.intercalate_cons_cons]
    simp only [String.append_assoc]

theorem cratePath_concat (names : List String) (name : String) :
    cratePath (names ++ [name]) = cratePath names ++ "::" ++ name :=
  intercalate_concat "::" name "crate" names

/-- **The path of a module is cut at its doubled colons into the names it was made of.** -/
theorem piecesBetween_cratePath {names : List String} (h : ∀ name ∈ names, ':' ∉ name.toList) :
    piecesBetween ':' (cratePath names).toList = ("crate" :: names).map String.toList := by
  have hall : ∀ p ∈ ("crate" :: names).map String.toList, ':' ∉ p := by
    intro p hp
    obtain ⟨name, hname, rfl⟩ := List.mem_map.1 hp
    rcases List.mem_cons.1 hname with rfl | hmem
    · decide
    · exact h name hmem
  obtain ⟨above, last, hlast⟩ :=
    (List.eq_nil_or_concat (("crate" :: names).map String.toList)).resolve_left (by simp)
  rw [cratePath, String.toList_intercalate]
  rw [hlast] at hall ⊢
  rw [List.concat_eq_append] at hall ⊢
  refine piecesBetween_intercalate (spaced_of_not_mem (hall last (by simp))) fun p hp => ?_
  have hcolon := hall p (List.mem_append_left _ hp)
  exact ⟨spaced_of_not_mem hcolon, fun hend => hcolon (List.mem_of_getLast? hend)⟩

theorem cratePath_inj_of_not_mem {names names' : List String}
    (h : ∀ name ∈ names, ':' ∉ name.toList) (h' : ∀ name ∈ names', ':' ∉ name.toList) :
    cratePath names = cratePath names' ↔ names = names' := by
  constructor
  · intro hpath
    have hpieces := congrArg (fun path => piecesBetween ':' path.toList) hpath
    rw [piecesBetween_cratePath h, piecesBetween_cratePath h'] at hpieces
    exact List.tail_eq_of_cons_eq ((List.map_inj_right fun _ _ => String.toList_inj.1).1 hpieces)
  · rintro rfl
    rfl

theorem moduleSegments_cratePath {names : List String} (h : ∀ name ∈ names, IsModuleName name) :
    moduleSegments (cratePath names) = names.map String.toList := by
  have hpieces := piecesBetween_cratePath fun name hname => (h name hname).no_colon
  have htrim : (("crate" :: names).map String.toList).map Text.trim =
      ("crate" :: names).map String.toList := by
    refine (List.map_congr_left fun p hp => ?_).trans (List.map_id _)
    obtain ⟨name, hname, rfl⟩ := List.mem_map.1 hp
    rcases List.mem_cons.1 hname with rfl | hmem
    · decide
    · exact (h name hmem).trimmed
  have hcount : ∀ p ∈ names.map String.toList,
      !(["", "crate", "self"].contains (String.ofList p)) := by
    intro p hp
    obtain ⟨name, hname, rfl⟩ := List.mem_map.1 hp
    rw [String.ofList_toList]
    simpa using (h name hname).counts
  rw [moduleSegments, hpieces, htrim, List.map_cons, List.filter_cons_of_neg (by decide)]
  exact List.filter_eq_self.2 hcount

theorem modulesInName_cratePath {names : List String} (h : ∀ name ∈ names, IsModuleName name) :
    modulesInName (some (cratePath names)) = names.map snake := by
  rw [modulesInName, Option.elim_some, moduleSegments_cratePath h, List.map_map]
  rfl

theorem cratePath_inj {names names' : List String} (h : ∀ name ∈ names, IsModuleName name)
    (h' : ∀ name ∈ names', IsModuleName name) :
    cratePath names = cratePath names' ↔ names = names' :=
  cratePath_inj_of_not_mem (fun name hname => (h name hname).no_colon)
    fun name hname => (h' name hname).no_colon

theorem exists_cratePath {root file module : String} (h : modulePathFor root file = some module) :
    ∃ names, module = cratePath names := by
  unfold modulePathFor at h
  obtain ⟨relative, -, h⟩ := Option.bind_eq_some_iff.1 h
  obtain ⟨names, -, h⟩ := Option.bind_eq_some_iff.1 h
  obtain ⟨last, -, h⟩ := Option.bind_eq_some_iff.1 h
  obtain ⟨⟨stem, extension⟩, -, h⟩ := Option.bind_eq_some_iff.1 h
  obtain ⟨-, -, h⟩ := Option.bind_eq_some_iff.1 h
  exact ⟨_, (Option.some.inj h).symm⟩

mutual

theorem modulePath_of_collectItem {d : Discovered} : ∀ {item : Item} {names : List String},
    d ∈ collectItem (some (cratePath names)) item →
      ∃ names, d.modulePath = some (cratePath names)
  | .trait t, names, h => by
    rw [collectItem, discoverTrait_eq] at h
    split at h
    · obtain rfl := List.mem_singleton.1 h
      exact ⟨names, rfl⟩
    · cases h
  | .module _ name _ items, names, h => by
    rw [collectItem, collectItem.nested, ← cratePath_concat] at h
    exact modulePath_of_collectItems h
  | .named _ _, _, h => by cases h
  | .implementation _, _, h => by cases h
  | .other _, _, h => by cases h

/-- **Every repository in a module below the root is in one below the root.** -/
theorem modulePath_of_collectItems {d : Discovered} : ∀ {items : List Item} {names : List String},
    d ∈ collectItems (some (cratePath names)) items →
      ∃ names, d.modulePath = some (cratePath names)
  | [], _, h => by cases h
  | item :: rest, names, h => by
    rw [collectItems] at h
    rcases List.mem_append.1 h with hitem | hrest
    · exact modulePath_of_collectItem hitem
    · exact modulePath_of_collectItems hrest

end

/-! ## Traits of one name -/

theorem fileName_of_generate {g : Generator} {t : Trait} {module : String} {unit : GeneratedUnit}
    (h : g.generate (.trait t) (some module) = .ok unit) :
    unit.fileName = fileStem (some module) t.name ++ ".rs" := by
  obtain ⟨t', p, ht, hplan, rfl⟩ := Generator.generate_eq_ok.1 h
  obtain rfl := Item.trait.inj ht
  obtain ⟨hread, -⟩ := planOf_eq_ok.1 hplan
  have hname : p.declaration.name = t.name := by
    obtain ⟨-, _, _, _, -, -, hd⟩ := readTrait_eq_ok hread
    rw [hd]
  rw [← hname]
  rfl

/-- **Two traits of one name have one file exactly if their modules are the same in lower case.**
The traits stand in files of a crate or in modules inside these, so their modules are below its
root. If the names of all these modules are in lower case already, then traits in different modules
have different files. -/
theorem fileName_eq_iff_modules {root file file' module module' : String} {items items' : List Item}
    {d d' : Discovered} {t t' : Trait} {g : Generator} {unit unit' : GeneratedUnit}
    (hfile : modulePathFor root file = some module)
    (hfile' : modulePathFor root file' = some module')
    (hd : d ∈ collectItems (some module) items) (hd' : d' ∈ collectItems (some module') items')
    (hitem : d.item = .trait t) (hitem' : d'.item = .trait t') (hname : t.name = t'.name)
    (hunit : g.generate d.item d.modulePath = .ok unit)
    (hunit' : g.generate d'.item d'.modulePath = .ok unit') :
    (∃ names, d.modulePath = some (cratePath names)) ∧
      (∃ names', d'.modulePath = some (cratePath names')) ∧
      (unit.fileName = unit'.fileName ↔
        modulesInName d.modulePath = modulesInName d'.modulePath) ∧
      ∀ names names', d.modulePath = some (cratePath names) →
        d'.modulePath = some (cratePath names') → (∀ name ∈ names ++ names', IsModuleName name) →
          (unit.fileName = unit'.fileName ↔ names.map snake = names'.map snake) ∧
            ((∀ name ∈ names ++ names', snake name = name) →
              (unit.fileName = unit'.fileName ↔ d.modulePath = d'.modulePath)) := by
  obtain ⟨above, rfl⟩ := exists_cratePath hfile
  obtain ⟨above', rfl⟩ := exists_cratePath hfile'
  obtain ⟨found, hfound⟩ := modulePath_of_collectItems hd
  obtain ⟨found', hfound'⟩ := modulePath_of_collectItems hd'
  have hsame : unit.fileName = unit'.fileName ↔
      modulesInName d.modulePath = modulesInName d'.modulePath := by
    rw [hitem, hfound] at hunit
    rw [hitem', hfound'] at hunit'
    rw [fileName_of_generate hunit, fileName_of_generate hunit', hfound, hfound',
      String.append_left_inj, fileStem_inj, hname, and_iff_left rfl]
  refine ⟨⟨found, hfound⟩, ⟨found', hfound'⟩, hsame, fun names names' hnames hnames' hmodules => ?_⟩
  obtain ⟨hfit, hfit'⟩ := List.forall_mem_append.1 hmodules
  have hsnake : unit.fileName = unit'.fileName ↔ names.map snake = names'.map snake := by
    rw [hsame, hnames, hnames', modulesInName_cratePath hfit, modulesInName_cratePath hfit']
  refine ⟨hsnake, fun hlower => ?_⟩
  -- Names in snake case already are what the file name has of them.
  obtain ⟨hlower, hlower'⟩ := List.forall_mem_append.1 hlower
  have hself : names.map snake = names := (List.map_congr_left hlower).trans (List.map_id _)
  have hself' : names'.map snake = names' := (List.map_congr_left hlower').trans (List.map_id _)
  rw [hsnake, hself, hself', hnames, hnames', Option.some_inj, cratePath_inj hfit hfit']

/-- `#[repository] trait R : NeoRepository<User, String> {}`. -/
def markedR : Trait := bareTrait "R" [⟨false, ⟨false, ["repository"]⟩, .nothing⟩]

theorem collectItems_markedR (modulePath : Option String) :
    collectItems modulePath [.trait markedR] = [⟨.trait markedR, modulePath, false⟩] :=
  collectItems_trait (by rfl) modulePath

theorem generate_markedR (g : Generator) (module : String) :
    g.generate (.trait markedR) (some module) =
      .ok ((barePlan "R" "r").unit g.runtime.tokens (some module)) :=
  Generator.generate_bareTrait _ identifier_snake_r _

/-- A trait in `src/a.rs` and one of its name in `src/b.rs` have different files. -/
theorem fileName_ne_of_modules :
    let unit (module : String) :=
      (barePlan "R" "r").unit defaultGenerator.runtime.tokens (some module)
    modulePathFor "src" "src/a.rs" = some "crate::a" ∧
      modulePathFor "src" "src/b.rs" = some "crate::b" ∧
      (unit "crate::a").fileName ≠ (unit "crate::b").fileName := by
  intro unit
  have ha : modulePathFor "src" "src/a.rs" = some "crate::a" := by cbv
  have hb : modulePathFor "src" "src/b.rs" = some "crate::b" := by cbv
  have hfound (module : String) : ⟨.trait markedR, some module, false⟩ ∈
      collectItems (some module) [.trait markedR] := by
    rw [collectItems_markedR]
    exact List.mem_cons_self
  obtain ⟨-, -, -, hmodules⟩ := fileName_eq_iff_modules ha hb (hfound _) (hfound _) rfl rfl rfl
    (generate_markedR defaultGenerator _) (generate_markedR defaultGenerator _)
  have hnames : ∀ name ∈ ["a"] ++ ["b"], IsModuleName name ∧ snake name = name := by
    intro name hname
    rcases List.mem_cons.1 hname with rfl | hname
    · exact ⟨⟨by decide, by decide, by decide⟩, by cbv⟩
    · rw [List.mem_singleton.1 hname]
      exact ⟨⟨by decide, by decide, by decide⟩, by cbv⟩
  obtain ⟨-, hlower⟩ := hmodules ["a"] ["b"] rfl rfl fun name hname => (hnames name hname).1
  refine ⟨ha, hb, fun hsame => ?_⟩
  have hpath := (hlower fun name hname => (hnames name hname).2).1 hsame
  exact absurd hpath (by decide)

/-- A trait in `src/store.rs` and one of its name in `src/_store.rs` have one file. -/
theorem fileName_eq_of_modules :
    let unit (module : String) :=
      (barePlan "R" "r").unit defaultGenerator.runtime.tokens (some module)
    modulePathFor "src" "src/store.rs" = some "crate::store" ∧
      modulePathFor "src" "src/_store.rs" = some "crate::_store" ∧
      (∀ module, collectItems (some module) [.trait markedR] =
        [⟨.trait markedR, some module, false⟩]) ∧
      (∀ module, defaultGenerator.generate (.trait markedR) (some module) = .ok (unit module)) ∧
      (unit "crate::store").fileName = (unit "crate::_store").fileName := by
  intro unit
  have hstore : modulePathFor "src" "src/store.rs" = some "crate::store" := by cbv
  have hstore' : modulePathFor "src" "src/_store.rs" = some "crate::_store" := by cbv
  have hsame : (unit "crate::store").fileName = (unit "crate::_store").fileName := by cbv
  exact ⟨hstore, hstore', fun module => collectItems_markedR (some module),
    fun module => generate_markedR defaultGenerator module, hsame⟩

end GraphRepo

import Mathlib
import GraphRepo.Proofs.Cypher.Closed
import GraphRepo.Proofs.Repository.Accepted

/-!
# Keys and the variables of a query

A key may be any word of letters, digits and underscores; the scanner ends the name of a parameter
at the first character that is no ASCII letter, digit or underscore. So the two mean the same
variable exactly as long as the word is ASCII: of any other word the scanner reads the part before
its first other character, if there is one.
-/

namespace GraphRepo

open Cypher

/-! ## Words in a query -/

namespace Cypher

theorem scan_plain (rest : List Char) : ∀ {word : List Char}, (∀ c ∈ word, isOpener c = false) →
    scan (word ++ rest) = word.map .other ++ scan rest
  | [], _ => rfl
  | c :: word, h => by
    obtain ⟨hc, hword⟩ := List.forall_mem_cons.1 h
    have hfirst : FirstToken c (word ++ rest) (.other c) (word ++ rest) := .plain hc
    rw [List.cons_append, scan_of_firstToken hfirst, scan_plain rest hword]
    rfl

/-- A run of characters ends before a character that is none of them. -/
theorem span_append_stop {p : Char → Bool} {rest : List Char} (hrest : rest.head?.all (!p ·)) :
    ∀ word : List Char, (word ++ rest).takeWhile p = word.takeWhile p ∧
      (word ++ rest).dropWhile p = word.dropWhile p ++ rest
  | [] => by
    cases rest with
    | nil => exact ⟨rfl, rfl⟩
    | cons d rest =>
      have hd : p d = false := by simpa using hrest
      simp [hd]
  | c :: word => by
    obtain ⟨ht, hd⟩ := span_append_stop hrest word
    by_cases hc : p c
    · simp [hc, ht, hd]
    · simp [hc]

theorem mem_parameters {query name : String} :
    name ∈ parameters query ↔ name.toList ∈ (scan query.toList).filterMap Token.binds := by
  unfold parameters boundNames
  rw [mem_nameSet, List.mem_filterMap, List.mem_filterMap]
  refine exists_congr fun t => and_congr_right fun _ => ?_
  rw [Option.map_eq_some_iff]
  constructor
  · rintro ⟨cs, hcs, rfl⟩
    rw [String.toList_ofList, hcs]
  · exact fun hcs => ⟨name.toList, hcs, String.ofList_toList⟩

/-- The name that the scanner reads of a word behind `$`, if it reads one. -/
def nameOf (word : List Char) : Option (List Char) :=
  match word.takeWhile isNameChar with
  | [] => none
  | c :: name => some (c :: name)

/-- **Behind `$` the scanner reads the start of a word**, and no other parameter in the rest of
it. -/
theorem binds_scan_dollar {word : List Char} (hword : ∀ c ∈ word, isOpener c = false)
    (hne : word ≠ []) {rest : List Char} (hrest : rest.head?.all (!isNameChar ·)) :
    (scan ('$' :: (word ++ rest))).filterMap Token.binds =
      (nameOf word).toList ++ (scan rest).filterMap Token.binds := by
  obtain ⟨htake, hdrop⟩ := span_append_stop hrest word
  have hothers (cs : List Char) : (cs.map Token.other).filterMap Token.binds = [] := by
    rw [List.filterMap_eq_nil_iff]
    intro t ht
    obtain ⟨c, -, rfl⟩ := List.mem_map.1 ht
    rfl
  unfold nameOf
  cases hread : word.takeWhile isNameChar with
  | cons n name =>
    have hfirst := @FirstToken.parameter '$' (word ++ rest) rfl (by simp [htake, hread])
    rw [htake, hdrop, hread] at hfirst
    have hplain : ∀ c ∈ word.dropWhile isNameChar, isOpener c = false := fun c hc =>
      hword c ((List.dropWhile_sublist _).subset hc)
    rw [scan_of_firstToken hfirst, scan_plain rest hplain, List.filterMap_cons, List.filterMap_append,
      hothers]
    rfl
  | nil =>
    -- The sign is a token by itself: no character of a name follows, and no backtick.
    obtain ⟨c, word, rfl⟩ := List.exists_cons_of_ne_nil hne
    have hc : c ≠ backtick := by
      rintro rfl
      exact absurd (hword backtick List.mem_cons_self) (by decide)
    have hfirst : FirstToken '$' (c :: word ++ rest) (.other '$') (c :: word ++ rest) := by
      refine .dollar rfl (by rw [htake, hread]) fun body after h _ => ?_
      rw [List.cons_append] at h
      exact absurd (List.cons.inj h).1 hc
    rw [scan_of_firstToken hfirst, scan_plain rest hword, List.filterMap_cons, List.filterMap_append,
      hothers]
    rfl

theorem nameOf_eq_self {word : List Char} (hne : word ≠ []) :
    nameOf word = some word ↔ ∀ c ∈ word, isNameChar c := by
  rw [← List.takeWhile_eq_self_iff, nameOf]
  cases hread : word.takeWhile isNameChar with
  | nil => simp [hne.symm]
  | cons c name => simp

end Cypher

/-! ## Keys -/

theorem isOpener_of_isAlphanumeric {c : Char} (h : Text.isAlphanumeric c || c = '_') :
    isOpener c = false := by
  refine Bool.eq_false_iff.2 fun hc => ?_
  simp only [isOpener, isQuote, Bool.or_eq_true, decide_eq_true_eq] at hc
  obtain ((rfl | rfl | rfl) | rfl) | rfl := hc
  all_goals exact absurd h (by decide)

theorem isVariableName_word {key : String} (h : isVariableName key) :
    key.toList ≠ [] ∧ ∀ c ∈ key.toList, isOpener c = false := by
  unfold isVariableName at h
  cases hk : key.toList with
  | nil => simp [hk] at h
  | cons c rest =>
    rw [hk] at h
    obtain ⟨hc, hrest⟩ := Bool.and_eq_true_iff.1 h
    refine ⟨List.cons_ne_nil c rest, List.forall_mem_cons.2 ⟨?_, fun d hd => ?_⟩⟩
    · refine isOpener_of_isAlphanumeric ?_
      obtain hletter | hunderscore := Bool.or_eq_true_iff.1 hc
      · simp [Text.isAlphanumeric, hletter]
      · simp [hunderscore]
    · exact isOpener_of_isAlphanumeric (List.all_eq_true.1 hrest d hd)

def keyFault? (bound : List String) (key : String) : Option KeyFault :=
  if !isVariableName key then some .invalid
  else if !bound.contains key then some .unknown
  else none

theorem keyFault?_eq_none {bound : List String} {key : String} :
    keyFault? bound key = none ↔ isVariableName key ∧ key ∈ bound := by
  unfold keyFault?
  by_cases hkey : isVariableName key
  · by_cases hmem : key ∈ bound <;> simp [hkey, hmem]
  · simp [hkey]

theorem keyFault?_ne_repeated {bound : List String} {key : String} :
    keyFault? bound key ≠ some .repeated := by
  unfold keyFault?
  split
  · exact nofun
  · split <;> exact nofun

/-- A parameter has the fault of its key, and may repeat one before it. -/
theorem keyFaults_eq (bound before : List String) (p : Parameter) :
    keyFaults bound before p = (p.bindingKey.bind (keyFault? bound)).toList ++
      if before.count p.key = 1 then [.repeated] else [] := by
  rw [keyFaults]
  congr 1
  cases p.bindingKey with
  | none => rfl
  | some key =>
    have htoList : (if !isVariableName key then [KeyFault.invalid]
        else if !bound.contains key then [KeyFault.unknown] else []) =
          (keyFault? bound key).toList := by
      unfold keyFault?
      split
      · rfl
      · split <;> rfl
    exact htoList

theorem mem_keyFaults {bound before : List String} {p : Parameter} {fault : KeyFault}
    (hfault : fault ≠ .repeated) :
    fault ∈ keyFaults bound before p ↔ ∃ key ∈ p.bindingKey, keyFault? bound key = some fault := by
  have hrepeated : fault ∉ if before.count p.key = 1 then [KeyFault.repeated] else [] := by
    split
    · exact fun h => hfault (List.mem_singleton.1 h)
    · exact List.not_mem_nil
  rw [keyFaults_eq, List.mem_append, or_iff_left hrepeated, Option.mem_toList,
    Option.bind_eq_some_iff]
  rfl

/-- The faults of keys, apart from their repetition, are those of each parameter by itself. -/
theorem mem_bindingFaults {bound : List String} {key : String} {fault : KeyFault}
    (hfault : fault ≠ .repeated) :
    ∀ {before : List String} {ps : List Parameter},
      (key, fault) ∈ bindingFaults bound before ps ↔
        (∃ p ∈ ps, p.bindingKey = some key) ∧ keyFault? bound key = some fault
  | before, [] => by simp [bindingFaults]
  | before, p :: rest => by
    have hhere : (key, fault) ∈ (keyFaults bound before p).map (fun f => (p.key, f)) ↔
        p.bindingKey = some key ∧ keyFault? bound key = some fault := by
      rw [List.mem_map]
      constructor
      · rintro ⟨f, hf, heq⟩
        obtain ⟨hkey, rfl⟩ := Prod.mk.inj heq
        obtain ⟨k, hk, hfound⟩ := (mem_keyFaults hfault).1 hf
        rw [Parameter.key, Option.mem_def.1 hk] at hkey
        cases hkey
        exact ⟨hk, hfound⟩
      · rintro ⟨hk, hfound⟩
        refine ⟨fault, (mem_keyFaults hfault).2 ⟨key, hk, hfound⟩, ?_⟩
        rw [Parameter.key, hk]
        rfl
    rw [bindingFaults, List.mem_append, hhere, mem_bindingFaults hfault]
    simp only [List.mem_cons, or_and_right, exists_or, exists_eq_left]

theorem KeyFault.message_inj {f g : KeyFault} (h : f.message = g.message) : f = g := by
  cases f <;> cases g <;> first | rfl | exact absurd h (by decide)

/-- Whether a query method has a diagnostic that its query does not have a key. -/
def IsDangling (interface : String) (m : MethodDeclaration) (query key : String) : Prop :=
  ∃ fault : KeyFault, fault ≠ .repeated ∧
    .danglingKey interface m.name key fault.message ∈ validateBindings interface m query

/-- **The keys that are reported** are those that are no words or no variables of the query. -/
theorem isDangling_iff {interface : String} {m : MethodDeclaration} {query key : String} :
    IsDangling interface m query key ↔ (∃ p ∈ m.parameters, p.bindingKey = some key) ∧
      ¬ (isVariableName key ∧ key ∈ parameters query) := by
  have hreported (fault : KeyFault) (hfault : fault ≠ .repeated) :
      .danglingKey interface m.name key fault.message ∈ validateBindings interface m query ↔
        (∃ p ∈ m.parameters, p.bindingKey = some key) ∧
          keyFault? (parameters query) key = some fault := by
    rw [← @mem_bindingFaults _ _ _ hfault [], validateBindings, List.mem_map]
    constructor
    · rintro ⟨⟨k, f⟩, hmem, heq⟩
      simp only [Diagnostic.danglingKey.injEq, true_and] at heq
      obtain ⟨rfl, hmessage⟩ := heq
      rwa [KeyFault.message_inj hmessage] at hmem
    · exact fun hmem => ⟨_, hmem, rfl⟩
  rw [← keyFault?_eq_none, ← ne_eq, Option.ne_none_iff_exists']
  constructor
  · rintro ⟨fault, hfault, hmem⟩
    obtain ⟨hp, hfound⟩ := (hreported fault hfault).1 hmem
    exact ⟨hp, fault, hfound⟩
  · rintro ⟨hp, fault, hfound⟩
    have hfault : fault ≠ .repeated := by
      rintro rfl
      exact keyFault?_ne_repeated hfound
    exact ⟨fault, hfault, (hreported fault hfault).2 ⟨hp, hfound⟩⟩

/-! ## Keys in queries -/

/-- The parameters of a query in which `$` and a key stand outside of all tokens, and no character
of a name follows: those before and behind that place, and what the scanner reads of the key. -/
theorem mem_parameters_of_key {key : String} (hkey : isVariableName key) {query name : String}
    {ts : List Token} {rest : List Char}
    (hquery : Reaches query.toList ts ('$' :: (key.toList ++ rest)))
    (hrest : rest.head?.all (!isNameChar ·)) :
    name ∈ parameters query ↔ name.toList ∈ ts.filterMap Token.binds ∨
      nameOf key.toList = some name.toList ∨ name ∈ parameters (String.ofList rest) := by
  obtain ⟨hne, hword⟩ := isVariableName_word hkey
  rw [mem_parameters, mem_parameters, hquery.scan_eq, List.filterMap_append,
    binds_scan_dollar hword hne hrest, String.toList_ofList, List.mem_append, List.mem_append,
    Option.mem_toList]

/-- Of a query that returns a single variable the scanner reads the start of its name. -/
theorem parameters_return {key : String} (hkey : isVariableName key) :
    parameters ("RETURN $" ++ key ++ " ") = ((nameOf key.toList).map String.ofList).toList := by
  have hclosed : isClosed "RETURN ".toList := by decide_cbv
  have hnone : (scan "RETURN ".toList).filterMap Token.binds = [] := by decide_cbv
  have hspace : parameters (String.ofList [' ']) = [] := by decide_cbv
  have hreaches := Reaches.of_isClosed ('$' :: (key.toList ++ [' '])) hclosed
  have htext : ("RETURN $" ++ key ++ " ").toList =
      "RETURN ".toList ++ '$' :: (key.toList ++ [' ']) := by
    simp [String.toList_append]
  rw [← htext] at hreaches
  have hmem (name : String) : name ∈ parameters ("RETURN $" ++ key ++ " ") ↔
      name ∈ ((nameOf key.toList).map String.ofList).toList := by
    rw [mem_parameters_of_key hkey hreaches rfl, hnone, hspace]
    simp only [List.not_mem_nil, or_false, false_or, Option.mem_toList,
      Option.map_eq_some_iff]
    constructor
    · exact fun h => ⟨_, h, String.ofList_toList⟩
    · rintro ⟨cs, hcs, rfl⟩
      rw [String.toList_ofList, hcs]
  have hascending : Ascending ((nameOf key.toList).map String.ofList).toList := by
    cases nameOf key.toList with
    | none => exact List.Pairwise.nil
    | some name => exact List.pairwise_singleton _ _
  exact List.Pairwise.eq_of_mem_iff (ascending_nameSet _) hascending hmem

/-- **When a key and the scanner mean the same variable.** In any query what stands behind `$` is
read as the start of the key, up to its first character that is no ASCII letter, digit or underscore.
That is the key exactly if it has no such character. Then it is never reported where it stands in a
query, and no other key is taken by a query that has only this variable. -/
theorem variable_of_key {key : String} (hkey : isVariableName key) :
    (∀ (query : String) (ts : List Token) (rest : List Char),
      Reaches query.toList ts ('$' :: (key.toList ++ rest)) → rest.head?.all (!isNameChar ·) →
      ∀ name : String, name ∈ parameters query ↔ name.toList ∈ ts.filterMap Token.binds ∨
        nameOf key.toList = some name.toList ∨ name ∈ parameters (String.ofList rest)) ∧
    parameters ("RETURN $" ++ key ++ " ") = ((nameOf key.toList).map String.ofList).toList ∧
    (parameters ("RETURN $" ++ key ++ " ") = [key] ↔ ∀ c ∈ key.toList, isNameChar c) ∧
    (∀ interface (m : MethodDeclaration), (∃ p ∈ m.parameters, p.bindingKey = some key) →
      (IsDangling interface m ("RETURN $" ++ key ++ " ") key ↔
        ¬ ∀ c ∈ key.toList, isNameChar c)) ∧
    ((∀ c ∈ key.toList, isNameChar c) →
      (∀ (query : String) (ts : List Token) (rest : List Char),
        Reaches query.toList ts ('$' :: (key.toList ++ rest)) → rest.head?.all (!isNameChar ·) →
        ∀ interface m, ¬ IsDangling interface m query key) ∧
      ∀ other, other ≠ key → ∀ interface (m : MethodDeclaration),
        (∃ p ∈ m.parameters, p.bindingKey = some other) →
          IsDangling interface m ("RETURN $" ++ key ++ " ") other) := by
  obtain ⟨hne, -⟩ := isVariableName_word hkey
  have hself := nameOf_eq_self hne
  have hread := parameters_return hkey
  have hmem (other : String) :
      other ∈ parameters ("RETURN $" ++ key ++ " ") ↔ nameOf key.toList = some other.toList := by
    rw [hread, Option.mem_toList, Option.map_eq_some_iff]
    constructor
    · rintro ⟨cs, hcs, rfl⟩
      rw [String.toList_ofList, hcs]
    · exact fun h => ⟨_, h, String.ofList_toList⟩
  refine ⟨fun query ts rest hquery hrest name => mem_parameters_of_key hkey hquery hrest,
    hread, ?_, ?_, fun hascii => ⟨?_, ?_⟩⟩
  · rw [hread, ← hself]
    cases nameOf key.toList with
    | none => simp
    | some name => simp [← String.toList_inj, String.toList_ofList]
  · intro interface m hp
    rw [isDangling_iff, and_iff_right hp, and_iff_right hkey, hmem, hself]
  · intro query ts rest hquery hrest interface m hdangling
    refine (isDangling_iff.1 hdangling).2 ⟨hkey, ?_⟩
    exact (mem_parameters_of_key hkey hquery hrest).2 (.inr (.inl (hself.2 hascii)))
  · intro other hother interface m hp
    refine isDangling_iff.2 ⟨hp, fun h => hother ?_⟩
    have hname := (hmem other).1 h.2
    rw [hself.2 hascii] at hname
    exact (String.toList_inj.1 (Option.some.inj hname)).symm

/-- `greet` with `#[param("…")]` on its parameter. -/
def greetBy (key : String) : MethodDeclaration :=
  { greet.method with
    parameters := greet.method.parameters.map fun p => { p with bindingKey := some key } }

theorem greetBy_bindingKey (key : String) :
    ∃ p ∈ (greetBy key).parameters, p.bindingKey = some key :=
  ⟨_, List.mem_cons_self, rfl⟩

/-- In a query with `'$min_age'` and `$min_age` the key `min_age` is not reported, and alone it leaves
no `min`. -/
theorem variable_of_key_age :
    let query := "RETURN '$min_age', $min_age AS age"
    isVariableName "min_age" ∧ parameters "RETURN $min_age " = ["min_age"] ∧
      ¬ IsDangling "Users" (greetBy "min_age") query "min_age" ∧
      IsDangling "Users" (greetBy "min") "RETURN $min_age " "min" := by
  obtain ⟨-, -, hsame, -, htaken⟩ := @variable_of_key "min_age" (by decide_cbv)
  have hascii : ∀ c ∈ "min_age".toList, isNameChar c := by
    rw [← List.all_eq_true]
    decide_cbv
  obtain ⟨hnever, hother⟩ := htaken hascii
  refine ⟨by decide_cbv, hsame.2 hascii, ?_, ?_⟩
  · exact hnever _ _ " AS age".toList
      (Reaches.of_isClosed _ (by decide_cbv : isClosed "RETURN '$min_age', ".toList)) rfl _ _
  · exact hother "min" (by decide) "Users" (greetBy "min") (greetBy_bindingKey "min")

/-- A key may be `é`, which the scanner does not read, and `naïve`, of which it reads `na`. The first
is reported although the query has it, and of the second the start is taken for the query. -/
theorem parameters_unicode_ne :
    isVariableName "é" ∧ parameters "RETURN $é " ≠ ["é"] ∧
      IsDangling "Users" (greetBy "é") "RETURN $é " "é" ∧
      isVariableName "naïve" ∧ parameters "RETURN $naïve " = ["na"] ∧
      ¬ IsDangling "Users" (greetBy "na") "RETURN $naïve " "na" := by
  have hnone : parameters "RETURN $é " = [] := by decide_cbv
  have hstart : parameters "RETURN $naïve " = ["na"] := by decide_cbv
  refine ⟨by decide_cbv, ?_, ?_, by decide_cbv, hstart, ?_⟩
  · rw [hnone]
    exact (List.cons_ne_nil _ _).symm
  · refine isDangling_iff.2 ⟨greetBy_bindingKey "é", fun h => ?_⟩
    rw [hnone] at h
    exact List.not_mem_nil h.2
  · refine fun h => (isDangling_iff.1 h).2 ⟨by decide_cbv, ?_⟩
    rw [hstart]
    exact List.mem_singleton.2 rfl

end GraphRepo

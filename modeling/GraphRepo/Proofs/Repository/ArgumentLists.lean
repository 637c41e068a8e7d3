import GraphRepo.Repository.Arguments
import GraphRepo.Proofs.Outcome

/-!
# Lists of arguments

What the tokens in `#[repository(…)]` may be: arguments with commas between them, each `external` or
`crate = "path"`, as many as one likes and in any order, with or without a comma behind the last.
All other tokens are refused.
-/

namespace GraphRepo

open Source

/-- One argument of the attribute. -/
inductive RepositoryArgument
  | external
  /-- Where the runtime is found. -/
  | runtime (path : String)
  deriving DecidableEq, Repr

namespace RepositoryArgument

/-- How an argument is written. -/
inductive Spells : RepositoryArgument → Tokens → Prop
  | external : Spells .external [.ident "external"]
  | runtime {text path : String} (spacing : Spacing) (value : stringValue? text = some path) :
    Spells (.runtime path) [.ident "crate", .punct '=' spacing, .literal text]

def path? : RepositoryArgument → Option String
  | .external => none
  | .runtime path => some path

end RepositoryArgument

/-- How a list of arguments is written; a comma may stand behind the last one. -/
inductive SpellsList : List RepositoryArgument → Tokens → Prop
  | nil : SpellsList [] []
  | last {a : RepositoryArgument} {ts : Tokens} (one : a.Spells ts) : SpellsList [a] ts
  | cons {a : RepositoryArgument} {items : List RepositoryArgument} {ts rest : Tokens}
    (spacing : Spacing) (one : a.Spells ts) (more : SpellsList items rest) :
    SpellsList (a :: items) (ts ++ .punct ',' spacing :: rest)

namespace Arguments

/-- What one more argument changes. -/
def add (args : Arguments) : RepositoryArgument → Arguments
  | .external => { args with external := true }
  | .runtime path => { args with runtime := some path }

/-- What a list of arguments says: the last path, and whether `external` is among them. -/
def ofList (items : List RepositoryArgument) : Arguments :=
  ⟨(items.filterMap RepositoryArgument.path?).getLast?, items.contains .external⟩

theorem foldl_add : ∀ (items : List RepositoryArgument) (args : Arguments),
    items.foldl add args =
      ⟨(ofList items).runtime.or args.runtime, (ofList items).external || args.external⟩
  | [], args => rfl
  | .external :: items, args => by
    rw [List.foldl_cons, foldl_add items]
    simp [ofList, add, RepositoryArgument.path?]
  | .runtime path :: items, args => by
    rw [List.foldl_cons, foldl_add items]
    have hpath : (RepositoryArgument.runtime path).path? = some path := rfl
    simp only [ofList, add, List.filterMap_cons_some hpath, List.getLast?_cons]
    cases (items.filterMap RepositoryArgument.path?).getLast? <;> simp

end Arguments

/-! ## The path of an argument -/

variable {ts rest : Tokens} {fuel : Nat} {name : String} {names names' : List String}

theorem readSegments_of_not_onOp (h : ts.onOp "::" = false) (fuel : Nat) (names : List String) :
    readSegments fuel names ts = .ok (names, ts) := by
  cases fuel with
  | zero => rfl
  | succ fuel => rw [readSegments, if_neg (by rw [h]; decide)]

theorem length_readSegments : ∀ {fuel : Nat} {names : List String} {ts : Tokens},
    readSegments fuel names ts = .ok (names', rest) → names.length ≤ names'.length
  | 0, names, ts, h => by
    cases h
    exact Nat.le_refl _
  | fuel + 1, names, ts, h => by
    rw [readSegments] at h
    split at h
    · split at h
      · have ih := length_readSegments h
        rw [List.length_append] at ih
        omega
      · cases h
      · cases h
    · cases h
      exact Nat.le_refl _

theorem readSegments_singleton (h : readSegments fuel [name] ts = .ok ([name'], rest)) :
    name' = name ∧ rest = ts := by
  cases fuel with
  | zero =>
    cases h
    exact ⟨rfl, rfl⟩
  | succ fuel =>
    rw [readSegments] at h
    split at h
    · split at h
      · have hlength := length_readSegments h
        simp at hlength
      · cases h
      · cases h
    · cases h
      exact ⟨rfl, rfl⟩

theorem eq_of_readArgumentPath (h : readArgumentPath ts = .ok (⟨false, [name]⟩, rest)) :
    ts = .ident name :: rest := by
  unfold readArgumentPath at h
  by_cases hleading : ts.onOp "::" = true
  · simp only [hleading, if_true] at h
    split at h
    · obtain ⟨_, -, hpath⟩ := map_eq_ok.1 h
      cases hpath
    · cases h
    · cases h
  · simp only [hleading] at h
    split at h
    · rename_i first after hfirst
      obtain ⟨⟨names, left⟩, hnames, hpath⟩ := map_eq_ok.1 h
      cases hpath
      obtain ⟨rfl, rfl⟩ := readSegments_singleton hnames
      exact hfirst
    · cases h
    · cases h

theorem readArgumentPath_ident (h : rest.onOp "::" = false) (name : String) :
    readArgumentPath (.ident name :: rest) = .ok (⟨false, [name]⟩, rest) := by
  have hleading : Tokens.onOp "::" (.ident name :: rest) = false := rfl
  unfold readArgumentPath
  rw [hleading]
  simp only [Bool.false_eq_true, if_false, readSegments_of_not_onOp h, Except.map]

/-! ## One argument -/

theorem onOp_equals_iff : ts.onOp "=" = true ↔ ∃ spacing rest, ts = .punct '=' spacing :: rest := by
  have hone : ts.onOp "=" = startsWith ['='] ts := rfl
  rw [hone]
  constructor
  · intro h
    cases ts with
    | nil => cases h
    | cons t rest =>
      cases t with
      | punct c spacing =>
        simp only [startsWith, decide_eq_true_eq] at h
        exact ⟨spacing, rest, by rw [h]⟩
      | ident | literal | group => cases h
  · rintro ⟨spacing, rest, rfl⟩
    simp [startsWith]

theorem readRuntime_eq_ok {path : String} : readRuntime ts = .ok (path, rest) ↔
    ∃ spacing text, ts = .punct '=' spacing :: .literal text :: rest ∧
      stringValue? text = some path := by
  unfold readRuntime
  constructor
  · intro h
    split at h
    · rename_i hequals
      obtain ⟨spacing, after, rfl⟩ := onOp_equals_iff.1 hequals
      rw [List.drop_one, List.tail_cons] at h
      split at h
      · rename_i text left
        split at h
        · rename_i hvalue
          cases h
          exact ⟨spacing, text, rfl, hvalue⟩
        · cases h
      · cases h
      · cases h
    · cases h
  · rintro ⟨spacing, text, rfl, hvalue⟩
    rw [if_pos (onOp_equals_iff.2 ⟨spacing, _, rfl⟩), List.drop_one, List.tail_cons]
    simp only [hvalue]

theorem beq_attributePath {p : AttributePath} :
    (p == ⟨false, [name]⟩) = true ↔ p = ⟨false, [name]⟩ := by
  obtain ⟨leading, names⟩ := p
  have hsame : ((⟨leading, names⟩ : AttributePath) == ⟨false, [name]⟩) =
      (leading == false && names == [name]) := rfl
  simp [hsame]

variable {args args' : Arguments} {a : RepositoryArgument} {taken : Tokens}

theorem spells_of_readArgument (h : readArgument args ts = .ok (args', rest)) :
    ∃ a taken, RepositoryArgument.Spells a taken ∧ ts = taken ++ rest ∧ args' = args.add a := by
  obtain ⟨⟨path, left⟩, hpath, h⟩ := bind_eq_ok.1 h
  dsimp only at h
  split at h
  · rename_i hcrate
    rw [beq_attributePath.1 hcrate] at hpath
    obtain ⟨⟨runtime, after⟩, hruntime, hdone⟩ := bind_eq_ok.1 h
    obtain ⟨spacing, text, rfl, hvalue⟩ := readRuntime_eq_ok.1 hruntime
    cases hdone
    exact ⟨.runtime runtime, _, .runtime spacing hvalue, eq_of_readArgumentPath hpath, rfl⟩
  · split at h
    · rename_i hexternal
      rw [beq_attributePath.1 hexternal] at hpath
      cases h
      exact ⟨.external, _, .external, eq_of_readArgumentPath hpath, rfl⟩
    · cases h

theorem readArgument_of_spells (h : a.Spells taken) (hrest : rest.onOp "::" = false) :
    readArgument args (taken ++ rest) = .ok (args.add a, rest) := by
  cases h with
  | external =>
    rw [List.singleton_append]
    refine bind_eq_ok.2 ⟨_, readArgumentPath_ident hrest "external", ?_⟩
    rfl
  | @runtime text path spacing hvalue =>
    have hequals : Tokens.onOp "::" (.punct '=' spacing :: .literal text :: rest) = false := rfl
    have hruntime : readRuntime (.punct '=' spacing :: .literal text :: rest) = .ok (path, rest) :=
      readRuntime_eq_ok.2 ⟨spacing, text, rfl, hvalue⟩
    refine bind_eq_ok.2 ⟨_, readArgumentPath_ident hequals "crate", ?_⟩
    exact bind_eq_ok.2 ⟨_, hruntime, rfl⟩

theorem RepositoryArgument.Spells.length_pos (h : a.Spells taken) : 0 < taken.length := by
  cases h <;> simp

/-! ## All of them -/

theorem readArguments_nil (fuel : Nat) (args : Arguments) :
    readArguments fuel args [] = .ok args := by
  cases fuel <;> rfl

theorem spellsList_of_readArguments : ∀ {fuel : Nat} {args : Arguments} {ts : Tokens},
    ts.length ≤ fuel → readArguments fuel args ts = .ok args' →
      ∃ items, SpellsList items ts ∧ args' = items.foldl Arguments.add args
  | fuel, args, [], _, h => by
    rw [readArguments_nil] at h
    cases h
    exact ⟨[], .nil, rfl⟩
  | 0, _, _ :: _, hfuel, _ => absurd hfuel (Nat.not_succ_le_zero _)
  | fuel + 1, args, t :: ts, hfuel, h => by
    obtain ⟨⟨args₁, left⟩, hone, hmore⟩ := bind_eq_ok.1 h
    obtain ⟨a, taken, hspells, htaken, rfl⟩ := spells_of_readArgument hone
    rw [htaken] at hfuel ⊢
    dsimp only at hmore
    split at hmore
    · cases hmore
      exact ⟨[a], by rw [List.append_nil]; exact .last hspells, rfl⟩
    · rename_i spacing rest
      have hpos := hspells.length_pos
      rw [List.length_append, List.length_cons] at hfuel
      obtain ⟨items, hitems, rfl⟩ := spellsList_of_readArguments (by omega) hmore
      exact ⟨a :: items, .cons spacing hspells hitems, rfl⟩
    · cases hmore

theorem readArguments_of_spellsList {items : List RepositoryArgument} (h : SpellsList items ts) :
    ∀ {fuel : Nat} (args : Arguments), ts.length ≤ fuel →
      readArguments fuel args ts = .ok (items.foldl Arguments.add args) := by
  induction h with
  | nil => exact fun args _ => readArguments_nil _ args
  | @last a taken hspells =>
    intro fuel args hfuel
    have hpos := hspells.length_pos
    obtain ⟨fuel, rfl⟩ : ∃ n, fuel = n + 1 := ⟨fuel - 1, by omega⟩
    have hone : readArgument args (taken ++ []) = _ := readArgument_of_spells hspells rfl
    rw [List.append_nil] at hone
    cases taken with
    | nil => cases hspells
    | cons t taken => exact bind_eq_ok.2 ⟨_, hone, rfl⟩
  | @cons a items taken rest spacing hspells hmore ih =>
    intro fuel args hfuel
    have hpos := hspells.length_pos
    rw [List.length_append, List.length_cons] at hfuel
    obtain ⟨fuel, rfl⟩ : ∃ n, fuel = n + 1 := ⟨fuel - 1, by omega⟩
    have hone : readArgument args (taken ++ .punct ',' spacing :: rest) = _ :=
      readArgument_of_spells hspells (by cases rest <;> rfl)
    cases taken with
    | nil => cases hspells
    | cons t taken => exact bind_eq_ok.2 ⟨_, hone, ih (args.add a) (by omega)⟩

theorem ofTokens_eq_ok : Arguments.ofTokens ts = .ok args ↔
    ∃ items, SpellsList items ts ∧ args = .ofList items := by
  have hfold (items : List RepositoryArgument) :
      items.foldl Arguments.add .empty = Arguments.ofList items := by
    rw [Arguments.foldl_add]
    simp [Arguments.empty]
  constructor
  · intro h
    obtain ⟨items, hitems, rfl⟩ := spellsList_of_readArguments (Nat.le_refl _) h
    exact ⟨items, hitems, hfold items⟩
  · rintro ⟨items, hitems, rfl⟩
    rw [← hfold]
    exact readArguments_of_spellsList hitems .empty (Nat.le_refl _)

theorem filterMap_path? : ∀ items : List RepositoryArgument,
    items.filterMap RepositoryArgument.path? =
      (items.filter (· ≠ .external)).filterMap RepositoryArgument.path?
  | [] => rfl
  | .external :: items => filterMap_path? items
  | .runtime path :: items => congrArg (path :: ·) (filterMap_path? items)

/-- The paths alone and whether `external` is there at all decide what a list says. -/
theorem Arguments.ofList_congr {items items' : List RepositoryArgument}
    (hruntime : items.filter (· ≠ .external) = items'.filter (· ≠ .external))
    (hexternal : .external ∈ items ↔ .external ∈ items') :
    Arguments.ofList items = Arguments.ofList items' := by
  have hcontains : items.contains .external = items'.contains .external := by
    rw [Bool.eq_iff_iff, List.contains_iff_mem, List.contains_iff_mem, hexternal]
  unfold Arguments.ofList
  rw [filterMap_path? items, filterMap_path? items', hruntime, hcontains]

/-- **The tokens that are taken are the lists of arguments, and no others.** They say where the
runtime is if there is a `crate`, the last of them, and that the implementation is external if
`external` is among them, wherever it stands. -/
theorem arguments_of_spellsList (ts : Tokens) :
    (∀ args, Arguments.ofTokens ts = .ok args ↔
      ∃ items, SpellsList items ts ∧ args = .ofList items) ∧
    ((∃ fault, Arguments.ofTokens ts = .error fault) ↔ ∀ items, ¬SpellsList items ts) ∧
    ∀ items items' ts', SpellsList items ts → SpellsList items' ts' →
      items.filter (· ≠ .external) = items'.filter (· ≠ .external) →
      (.external ∈ items ↔ .external ∈ items') →
      Arguments.ofTokens ts = Arguments.ofTokens ts' := by
  refine ⟨fun args => ofTokens_eq_ok, ⟨?refused, ?error⟩, ?anywhere⟩
  case refused =>
    rintro ⟨fault, hfault⟩ items hitems
    rw [ofTokens_eq_ok.2 ⟨items, hitems, rfl⟩] at hfault
    cases hfault
  case error =>
    intro hnone
    rcases ok_or_error (Arguments.ofTokens ts) with ⟨args, hargs⟩ | hfault
    · obtain ⟨items, hitems, -⟩ := ofTokens_eq_ok.1 hargs
      exact absurd hitems (hnone items)
    · exact hfault
  case anywhere =>
    intro items items' ts' hitems hitems' hruntime hexternal
    rw [ofTokens_eq_ok.2 ⟨items, hitems, rfl⟩, ofTokens_eq_ok.2 ⟨items', hitems', rfl⟩,
      Arguments.ofList_congr hruntime hexternal]

/-- `external` behind a path and in front of it, with a comma at the end. -/
theorem arguments_of_spellsList_swapped :
    let path : Tokens := [.ident "crate", .punct '=' .alone, .literal "\x22rt\x22"]
    let behind : Tokens := path ++ [.punct ',' .alone, .ident "external"]
    let before : Tokens :=
      [.ident "external"] ++ .punct ',' .alone :: (path ++ [.punct ',' .alone])
    Arguments.ofTokens behind = .ok ⟨some "rt", true⟩ ∧
      Arguments.ofTokens behind = Arguments.ofTokens before := by
  intro path behind before
  have hpath : (RepositoryArgument.runtime "rt").Spells path := .runtime .alone (by decide)
  have hbehind : SpellsList [.runtime "rt", .external] behind :=
    .cons .alone hpath (.last .external)
  have hbefore : SpellsList [.external, .runtime "rt"] before :=
    .cons .alone .external (.cons .alone hpath .nil)
  obtain ⟨haccepted, -, hanywhere⟩ := arguments_of_spellsList behind
  exact ⟨(haccepted _).2 ⟨_, hbehind, rfl⟩,
    hanywhere _ _ _ hbehind hbefore (by decide) (by decide)⟩

end GraphRepo

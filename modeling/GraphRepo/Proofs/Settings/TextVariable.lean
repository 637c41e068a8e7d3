import GraphRepo.Settings.Configuration
import GraphRepo.Proofs.Settings.PlainText

/-!
# A setting in a variable

One variable of the environment holds a setting that is a text, and no file holds any. The setting
is what the variable holds, and the others have their defaults, exactly if the text stands for
itself; otherwise it is what the text is read as, and where that is no text at all nothing is
loaded.
-/

namespace GraphRepo

open GraphRepo.Configuration

/-- The settings that are texts. -/
inductive TextSetting
  | uri
  | user
  | password
  | runtime
  | moduleName
  deriving DecidableEq, Repr

namespace TextSetting

def sectionName : TextSetting → String
  | .uri | .user | .password => "neo4j"
  | .runtime | .moduleName => "generator"

def name : TextSetting → String
  | .uri => "uri"
  | .user => "user"
  | .password => "password"
  | .runtime => "runtime"
  | .moduleName => "namespace"

def variableName : TextSetting → String
  | .uri => "NEOREPO_NEO4J__URI"
  | .user => "NEOREPO_NEO4J__USER"
  | .password => "NEOREPO_NEO4J__PASSWORD"
  | .runtime => "NEOREPO_GENERATOR__RUNTIME"
  | .moduleName => "NEOREPO_GENERATOR__NAMESPACE"

/-- The configuration with one text in the place of its default. -/
def withText : TextSetting → String → Configuration
  | .uri, text => { Configuration.default with server.uri := text }
  | .user, text => { Configuration.default with server.user := text }
  | .password, text => { Configuration.default with server.password := some text }
  | .runtime, text => { Configuration.default with generator.runtime := text }
  | .moduleName, text => { Configuration.default with generator.moduleName := some text }

/-- What becomes of a value of the setting: a text is taken, and nothing else. -/
def read (t : TextSetting) : Setting → Except ConfigurationFault Configuration
  | .string text => .ok (t.withText text)
  | found => .error (.wrongType [t.sectionName, t.name] found "a string")

/-- The variable of the setting holds a text, and no other variable is a setting. -/
def OnlyVariable (t : TextSetting) (s : String) (environment : Environment) : Prop :=
  ∃ before after, environment = before ++ (t.variableName, s) :: after ∧
    ∀ e ∈ before ++ after, variablePath e.1 = none

end TextSetting

/-- There is neither a file of the user nor one of the project. -/
def NoFiles (environment : Environment) (fs : FileSystem) : Prop :=
  findFile? fs (userFile environment fs) = none ∧ findFile? fs projectFile = none

variable {t : TextSetting} {s : String} {environment : Environment} {fs : FileSystem}

namespace TextSetting

theorem variablePath_variableName (t : TextSetting) :
    variablePath t.variableName = some [t.sectionName, t.name] := by
  cases t <;> decide

theorem ofSettings_nested (t : TextSetting) (v : Setting) :
    ofSettings [(t.sectionName, .table [(t.name, v)])] = t.read v := by
  cases t <;> cases v <;> rfl

theorem read_eq_ok {v : Setting} {text : String} :
    t.read v = .ok (t.withText text) ↔ v = .string text := by
  constructor
  · intro h
    cases v with
    | string found =>
      have hsame : t.withText found = t.withText text := Except.ok.inj h
      cases t <;> cases hsame <;> rfl
    | bool | signed | unsigned | float | list | table => cases h
  · rintro rfl
    rfl

end TextSetting

/-! ## The environment -/

theorem foldl_onto_nil (es : Environment) (settings : Table Setting) :
    (es.map fun _ => []).foldl Setting.entriesOnto settings = settings := by
  induction es with
  | nil => rfl
  | cons e es ih => exact ih

theorem ofEnvironment_only (h : t.OnlyVariable s environment) :
    ofEnvironment environment =
      (Literal.setting s).map fun v => [(t.sectionName, .table [(t.name, v)])] := by
  obtain ⟨before, after, rfl, hothers⟩ := h
  let settings (e : String × String) : Except Text.CutFault (Table Setting) := ofVariable e.1 e.2
  have hsettings (environment : Environment) :
    ofEnvironment environment = (environment.mapM settings).map layered := rfl
  have hnone : ∀ e ∈ before ++ after, settings e = .ok [] := fun e he => by
    dsimp only [settings]
    rw [ofVariable, hothers e he]
  have hone : settings (t.variableName, s) =
      (Literal.setting s).map fun v => [(t.sectionName, .table [(t.name, v)])] := by
    dsimp only [settings]
    rw [ofVariable, t.variablePath_variableName]
    rfl
  rw [hsettings]
  cases hs : Literal.setting s with
  | error fault =>
    rw [hs] at hone
    rw [mapM_of_error hone after fun e he => ⟨[], hnone e (List.mem_append_left _ he)⟩]
    rfl
  | ok v =>
    rw [hs] at hone
    have hall : (before ++ (t.variableName, s) :: after).mapM settings =
        .ok (before.map (fun _ => []) ++ [(t.sectionName, .table [(t.name, v)])] ::
          after.map fun _ => []) := by
      have hbefore : before.map settings = before.map fun _ => .ok [] :=
        List.map_congr_left fun e he => hnone e (List.mem_append_left _ he)
      have hafter : after.map settings = after.map fun _ => .ok [] :=
        List.map_congr_left fun e he => hnone e (List.mem_append_right _ he)
      rw [mapM_eq_ok, List.map_append, List.map_cons, List.map_append, List.map_cons,
        List.map_map, List.map_map, hone, hbefore, hafter]
      rfl
    rw [hall]
    have hlayered : layered (before.map (fun _ => []) ++
        [(t.sectionName, .table [(t.name, v)])] :: after.map fun _ => []) =
          [(t.sectionName, .table [(t.name, v)])] := by
      unfold layered
      rw [List.foldl_append, foldl_onto_nil, List.foldl_cons, foldl_onto_nil]
      rfl
    exact congrArg Except.ok hlayered

/-- **What is loaded from one variable**: what the text is read as, if that is a text. -/
theorem load_only (h : t.OnlyVariable s environment) (hfiles : NoFiles environment fs) :
    Configuration.load environment fs = (Literal.setting s).mapError .cut >>= t.read := by
  obtain ⟨huser, hproject⟩ := hfiles
  unfold load loadWith ofFile
  rw [ofEnvironment_only h, huser, hproject]
  cases Literal.setting s with
  | error fault => rfl
  | ok v => exact t.ofSettings_nested v

/-- **A variable sets its setting to what it holds exactly if that stands for itself.** Whatever else
the text is read as is not taken: another text is taken in its place, a cut is reported, and a truth
value, a number, a list or a table is of the wrong kind. -/
theorem load_text_variable (henvironment : t.OnlyVariable s environment)
    (hfiles : NoFiles environment fs) (htrim : Text.trim s.toList = s.toList) :
    (Configuration.load environment fs = .ok (t.withText s) ↔ ¬Literal.Misread s.toList) ∧
      Configuration.load environment fs = (Literal.setting s).mapError .cut >>= t.read := by
  have hload := load_only henvironment hfiles
  refine ⟨?_, hload⟩
  rw [hload, ← Literal.setting_eq_self_iff htrim, bind_eq_ok]
  cases Literal.setting s with
  | error fault =>
    constructor
    · rintro ⟨v, hv, -⟩
      cases hv
    · intro h
      cases h
  | ok v =>
    constructor
    · rintro ⟨v', hv, hread⟩
      cases hv
      rw [TextSetting.read_eq_ok.1 hread]
    · intro h
      cases h
      exact ⟨_, rfl, rfl⟩

/-- An address of a server is taken as it stands. -/
theorem load_text_variable_uri :
    let environment : Environment := [("HOME", "/home/u"), ("NEOREPO_NEO4J__URI", "bolt://db:7687")]
    Configuration.load environment (FileSystem.ofDirectory ["w"]) =
      .ok (TextSetting.uri.withText "bolt://db:7687") := by
  intro environment
  have honly : TextSetting.uri.OnlyVariable "bolt://db:7687" environment :=
    ⟨[("HOME", "/home/u")], [], rfl, by decide⟩
  have hfiles : NoFiles environment (FileSystem.ofDirectory ["w"]) := ⟨by decide, by decide⟩
  have hplain : ¬Literal.Misread "bolt://db:7687".toList :=
    Literal.not_misread_of_start (by decide) (by decide) (by decide)
  exact (load_text_variable honly hfiles (by decide)).1.2 hplain

/-- A password of digits is read as a number, and nothing is loaded. -/
theorem load_password_digits :
    let environment : Environment := [("NEOREPO_NEO4J__PASSWORD", "12345")]
    let fs := FileSystem.ofDirectory ["w"]
    TextSetting.password.OnlyVariable "12345" environment ∧ NoFiles environment fs ∧
      Text.trim "12345".toList = "12345".toList ∧
      Configuration.load environment fs ≠ .ok (TextSetting.password.withText "12345") ∧
      Configuration.load environment fs =
        .error (.wrongType ["neo4j", "password"] (.unsigned 12345) "a string") := by
  intro environment fs
  have honly : TextSetting.password.OnlyVariable "12345" environment := ⟨[], [], rfl, by decide⟩
  have hfiles : NoFiles environment fs := ⟨by decide, by decide⟩
  have hread : Literal.setting "12345" = .ok (.unsigned 12345) := rfl
  have hload : Configuration.load environment fs =
      .error (.wrongType ["neo4j", "password"] (.unsigned 12345) "a string") := by
    rw [load_only honly hfiles, hread]
    rfl
  refine ⟨honly, hfiles, by decide, ?_, hload⟩
  rw [hload]
  exact fun h => by cases h

end GraphRepo

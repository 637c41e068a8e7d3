import Mathlib
import GraphRepo.Proofs.Outcome
import GraphRepo.Repository.Extraction
import GraphRepo.Repository.MethodBody

/-!
# Accepted methods

A method that the generator implements has passed two checks: its signature and markers were read
from a member of a trait, and its behavior fits them. Here is what each check leaves known of it.
-/

namespace GraphRepo

open Source

variable {ε α : Type}

theorem partition_eq_nil : ∀ {l : List (Except ε α)} {vs : List α},
    partition l = ([], vs) ↔ l = vs.map .ok
  | [], vs => by
    rw [partition, Prod.mk.injEq, eq_self, true_and, eq_comm, eq_comm (a := []),
      List.map_eq_nil_iff]
  | .error e :: rest, vs => by cases vs <;> simp [partition]
  | .ok a :: rest, [] => by simp [partition]
  | .ok a :: rest, v :: vs => by
    have ih : partition rest = ([], vs) ↔ rest = vs.map .ok := partition_eq_nil
    rw [Prod.ext_iff] at ih
    simp only [partition, Prod.mk.injEq, List.cons.injEq, List.map_cons, Except.ok.injEq, ← ih]
    exact and_left_comm

theorem together_eq_ok {answers : List (Except (List Diagnostic) α)} {vs : List α} :
    together answers = .ok vs ↔ answers = vs.map .ok := by
  rw [← partition_eq_nil, together]
  obtain ⟨errors, values⟩ := partition answers
  cases errors <;> simp

/-! ## What extraction checked -/

/-- **A trait that was read has no parameters, and every member of it was read.** -/
theorem readTrait_eq_ok {t : Trait} {modulePath : Option String} {d : Declaration}
    (h : readTrait t modulePath = .ok d) :
    t.generics.entries = [] ∧ ∃ entity id, ∃ found : List Extracted,
      baseArguments t = .ok (entity, id) ∧
      t.members.map (readMember t.name) = found.map .ok ∧
      d = ⟨t.name, modulePath, t.visibility, entity, id, found.filterMap Extracted.method?,
        found.filterMap Extracted.passthrough?⟩ := by
  rw [readTrait] at h
  by_cases hg : t.generics.entries = []
  · rw [if_neg (by simp [hg])] at h
    cases hb : baseArguments t with
    | error fault => rw [hb] at h; cases h
    | ok base =>
      cases hm : readMembers t.name t.members with
      | error errors => rw [hb, hm] at h; cases h
      | ok found =>
        rw [hb, hm] at h
        cases h
        exact ⟨hg, _, _, found, rfl, together_eq_ok.1 hm, rfl⟩
  · rw [if_pos (by simpa using hg)] at h
    cases h

theorem extract_eq_ok {item : Item} {modulePath : Option String} {d : Declaration}
    (h : extract item modulePath = .ok d) :
    ∃ t, item = .trait t ∧ readTrait t modulePath = .ok d := by
  cases item with
  | trait t => exact ⟨t, rfl, h⟩
  | _ => cases h

/-- A member that is a method to implement has no body, and its markers and signature were read. -/
theorem readMember_eq_method {interface : String} {member : Member} {m : MethodDeclaration}
    (h : readMember interface member = .ok (.method m)) :
    ∃ source : Method, member = .method source ∧ source.body = none ∧
      ∃ markers, readMarkers source.attributes = .ok markers ∧
        readSignature interface source.signature markers = .ok m := by
  cases member with
  | method source =>
    rw [readMember, readMethod] at h
    cases hmarkers : readMarkers source.attributes with
    | error fault => rw [hmarkers] at h; cases h
    | ok markers =>
      cases hbody : source.body with
      | some body =>
        rw [hmarkers, hbody] at h
        by_cases hempty : markers.isEmpty <;> simp [hempty] at h
      | none =>
        rw [hmarkers, hbody] at h
        obtain ⟨m', hm', hmethod⟩ := map_eq_ok.1 h
        cases hmethod
        exact ⟨source, rfl, hbody, markers, hmarkers, hm'⟩
  | constant hasDefault tokens => cases hasDefault <;> cases h
  | other tokens => cases h

/-- **A signature that was read** takes `&self`, is async, and had every input and its return type
read. -/
theorem readSignature_eq_ok {interface : String} {s : Signature} {markers : Markers}
    {m : MethodDeclaration} (h : readSignature interface s markers = .ok m) :
    takesSharedSelf s ∧ s.isAsync ∧ ∃ parameters : List (Option Parameter), ∃ returns,
      s.inputs.map (readInput interface s.name) = parameters.map .ok ∧
      returnShape s.output = .ok returns ∧
      m = ⟨s.name, stripSignature s, parameters.filterMap id, returns, markers⟩ := by
  rw [readSignature] at h
  rcases hp : partition (s.inputs.map (readInput interface s.name)) with ⟨errors, parameters⟩
  simp only [hp] at h
  split at h
  · rename_i returns hreturns hfaults
    cases h
    simp only [List.append_eq_nil_iff] at hfaults
    obtain ⟨⟨hself, hasync⟩, rfl⟩ := hfaults
    refine ⟨?_, ?_, parameters, returns, partition_eq_nil.1 hp, hreturns, rfl⟩
    · exact Classical.byContradiction fun hn => by simp [hn] at hself
    · exact Classical.byContradiction fun hn => by simp [hn] at hasync
  · cases h
  · cases h

/-! ## Markers -/

/-- What one attribute does to the query among the markers. -/
theorem Markers.read_query {m m' : Markers} {a : Attribute} (h : m.read a = .ok m') :
    (a.isNamed "query" = true ∧ m.query = none ∧ ∃ text, soleString? a.payload = some text ∧
      m'.query = some text) ∨
    (a.isNamed "query" = false ∧ m'.query = m.query) := by
  unfold Markers.read at h
  split at h
  · rename_i hnamed
    split at h
    · cases h
    · rename_i hnone
      split at h
      · rename_i text htext
        cases h
        exact .inl ⟨hnamed, by simpa using hnone, text, htext, rfl⟩
      · cases h
  · rename_i hother
    refine .inr ⟨by simpa using hother, ?_⟩
    split at h
    · split at h <;> cases h
      rfl
    · split at h
      · split at h <;> cases h
        rfl
      · cases h
        rfl

/-- Once there is a query among the markers, no other attribute may be one. -/
theorem foldlM_read_of_query {text : String} :
    ∀ {attributes : List Attribute} {m m' : Markers}, m.query = some text →
      attributes.foldlM Markers.read m = .ok m' →
      attributes.filter (·.isNamed "query") = [] ∧ m'.query = some text
  | [], _, _, hm, h => by
    cases h
    exact ⟨rfl, hm⟩
  | a :: rest, m, m', hm, h => by
    rw [List.foldlM_cons] at h
    obtain ⟨m₁, hread, hrest⟩ := bind_eq_ok.1 h
    obtain ⟨-, hnone, -⟩ | ⟨hother, hsame⟩ := Markers.read_query hread
    · rw [hm] at hnone
      cases hnone
    · rw [List.filter_cons_of_neg (by simp [hother])]
      exact foldlM_read_of_query (hsame.trans hm) hrest

theorem foldlM_read_of_no_query {text : String} :
    ∀ {attributes : List Attribute} {m m' : Markers}, m.query = none → m'.query = some text →
      attributes.foldlM Markers.read m = .ok m' →
      ∃ a, attributes.filter (·.isNamed "query") = [a] ∧ soleString? a.payload = some text
  | [], _, _, hm, hm', h => by
    cases h
    rw [hm] at hm'
    cases hm'
  | a :: rest, m, m', hm, hm', h => by
    rw [List.foldlM_cons] at h
    obtain ⟨m₁, hread, hrest⟩ := bind_eq_ok.1 h
    obtain ⟨hnamed, -, found, hfound, hquery⟩ | ⟨hother, hsame⟩ := Markers.read_query hread
    · obtain ⟨hnone, hkept⟩ := foldlM_read_of_query hquery hrest
      rw [hm'] at hkept
      cases hkept
      refine ⟨a, ?_, hfound⟩
      rw [List.filter_cons_of_pos hnamed, hnone]
    · rw [List.filter_cons_of_neg (by simp [hother])]
      exact foldlM_read_of_no_query (hsame.trans hm) hm' hrest

/-- **The query among the markers is the literal of the only `#[query]`.** -/
theorem readMarkers_query {attributes : List Attribute} {markers : Markers} {text : String}
    (h : readMarkers attributes = .ok markers) (hq : markers.query = some text) :
    ∃ a, attributes.filter (·.isNamed "query") = [a] ∧ soleString? a.payload = some text :=
  foldlM_read_of_no_query rfl hq h

/-! ## What classification checked -/

theorem check_eq_ok {interface : String} {m : MethodDeclaration} {c : Classified}
    (h : check interface m = .ok c) :
    c.method = m ∧ classify m = .ok c.behavior ∧ validate interface m c.behavior = [] := by
  rw [check] at h
  cases hclass : classify m with
  | error fault => rw [hclass] at h; cases h
  | ok behavior =>
    cases hvalid : validate interface m behavior with
    | nil =>
      simp only [hclass, hvalid] at h
      cases h
      exact ⟨rfl, rfl, hvalid⟩
    | cons fault rest => simp [hclass, hvalid] at h

theorem classifyAll_methods {d : Declaration} {cs : List Classified} (h : classifyAll d = .ok cs) :
    d.methods = cs.map Classified.method :=
  eq_map_of_values (fun hcheck => (check_eq_ok hcheck).1) (together_eq_ok.1 h)

/-- A method runs a query only if its markers have that query. -/
theorem classify_eq_query {m : MethodDeclaration} {text : String}
    (h : classify m = .ok (.query text)) : m.markers.query = some text := by
  rw [classify] at h
  cases hq : m.markers.query with
  | some found =>
    rw [hq] at h
    cases h
    rfl
  | none =>
    simp only [hq] at h
    repeat' split at h
    all_goals cases h

/-! ## What is known of an accepted method -/

/-- A method, with its behavior, of a declaration that was read from an item. -/
structure Accepted (item : Item) (modulePath : Option String) (d : Declaration) (c : Classified) :
    Prop where
  extracted : extract item modulePath = .ok d
  classified : ∃ cs, classifyAll d = .ok cs ∧ c ∈ cs

namespace Accepted

variable {item : Item} {modulePath : Option String} {d : Declaration} {c : Classified}

theorem checked (h : Accepted item modulePath d c) :
    c.method ∈ d.methods ∧ classify c.method = .ok c.behavior ∧
      validate d.name c.method c.behavior = [] := by
  obtain ⟨cs, hcs, hc⟩ := h.classified
  have hall := together_eq_ok.1 hcs
  have hmem : (.ok c : Except (List Diagnostic) Classified) ∈ d.methods.map (check d.name) := by
    rw [hall]
    exact List.mem_map_of_mem hc
  obtain ⟨m, hm, hcheck⟩ := List.mem_map.1 hmem
  obtain ⟨rfl, hclass, hvalid⟩ := check_eq_ok hcheck
  exact ⟨hm, hclass, hvalid⟩

/-- **An accepted method was read from a method without a body of the trait.** -/
theorem source (h : Accepted item modulePath d c) :
    ∃ t m markers, item = .trait t ∧ d.name = t.name ∧ .method m ∈ t.members ∧ m.body = none ∧
      readMarkers m.attributes = .ok markers ∧
      readSignature d.name m.signature markers = .ok c.method := by
  obtain ⟨hmem, -, -⟩ := h.checked
  obtain ⟨t, rfl, ht⟩ := extract_eq_ok h.extracted
  obtain ⟨-, entity, id, found, -, hall, rfl⟩ := readTrait_eq_ok ht
  obtain ⟨x, hx, hmethod⟩ := List.mem_filterMap.1 hmem
  obtain rfl : x = .method c.method := by
    cases x with
    | method m => exact congrArg Extracted.method (Option.some.inj hmethod)
    | _ => cases hmethod
  have hread : .ok (.method c.method) ∈ t.members.map (readMember t.name) := by
    rw [hall]
    exact List.mem_map_of_mem hx
  obtain ⟨member, hmember, hok⟩ := List.mem_map.1 hread
  obtain ⟨m, rfl, hbody, markers, hmarkers, hsignature⟩ := readMember_eq_method hok
  exact ⟨t, m, markers, rfl, rfl, hmember, hbody, hmarkers, hsignature⟩

/-- **The text of an accepted query is the value of its method's only `#[query]`.** -/
theorem query_literal (h : Accepted item modulePath d c) {text : String}
    (hq : c.behavior = .query text) :
    ∃ t m a, item = .trait t ∧ .method m ∈ t.members ∧ m.body = none ∧
      m.signature.name = c.method.name ∧ m.attributes.filter (·.isNamed "query") = [a] ∧
      soleString? a.payload = some text := by
  obtain ⟨-, hclass, -⟩ := h.checked
  obtain ⟨t, m, markers, hitem, -, hmember, hbody, hmarkers, hsignature⟩ := h.source
  obtain ⟨-, -, parameters, returns, -, -, hm⟩ := readSignature_eq_ok hsignature
  rw [hq] at hclass
  have htext := classify_eq_query hclass
  rw [hm] at htext
  obtain ⟨a, ha, hliteral⟩ := readMarkers_query hmarkers htext
  exact ⟨t, m, a, hitem, hmember, hbody, by rw [hm], ha, hliteral⟩

end Accepted

/-! ## Bodies of queries -/

/-- The bindings of the parameters of a method. -/
def MethodDeclaration.bindings (m : MethodDeclaration) : List Binding :=
  m.parameters.map fun p => ⟨p.key, p.name⟩

theorem Classified.body_of_query {c : Classified} {text : String} (hq : c.behavior = .query text)
    (interface : String) :
    c.body interface = .query text c.method.bindings
      (.ofShape (interface ++ "::" ++ c.method.name) c.method.returns) := by
  unfold Classified.body
  rw [hq]
  rfl

/-! ## Traits of one query -/

def plainType (name : String) : Ty := .path (.ofName name)

def appliedType (name : String) (arg : Ty) : Ty :=
  .path (.segments false [] (.angled name false [.type arg] false))

/-- `async fn name(&self, …) -> Result<ok>`. -/
def querySignature (name : String) (inputs : List Input) (ok : Ty) : Signature where
  isConst := false
  isAsync := true
  qualifiers := []
  name := name
  generics := ⟨[], false, []⟩
  inputs := .receiver [] (some none) false none :: inputs
  trailing := false
  variadic := []
  output := some (appliedType "Result" ok)

/-- A repository of users with one query method; `literal` is its text as it is written. -/
def queryTrait (literal : String) (s : Signature) : Trait where
  attributes := []
  visibility := []
  qualifiers := []
  name := "Users"
  generics := ⟨[], false, []⟩
  bounds := [.trait false [] (.segments false []
    (.angled baseTrait false [.type (plainType "User"), .type (plainType "String")] false))]
  trailing := false
  members := [.method ⟨[⟨false, ⟨false, ["query"]⟩, .list .paren [.literal literal]⟩], s, none⟩]

def queryDeclaration (m : MethodDeclaration) : Declaration :=
  ⟨"Users", none, [], plainType "User", plainType "String", [m], []⟩

/-- `async fn greet(&self, name: String) -> Result<User>` with the query `RETURN $name`. -/
def greet : Classified where
  method := {
    name := "greet"
    signature := querySignature "greet" [.typed [] (.name "name") (plainType "String")]
      (plainType "User")
    parameters := [⟨"name", ⟨"String", plainType "String", false, []⟩, .owned, none⟩]
    returns := .nonNull ⟨"User", plainType "User", false, []⟩
    markers := ⟨some "RETURN $name", false, false⟩ }
  behavior := .query "RETURN $name"

theorem accepted_greet :
    Accepted (.trait (queryTrait "\x22RETURN $name\x22" greet.method.signature)) none
      (queryDeclaration greet.method) greet := by
  refine ⟨rfl, [greet], ?_, List.mem_singleton.2 rfl⟩
  cbv

end GraphRepo

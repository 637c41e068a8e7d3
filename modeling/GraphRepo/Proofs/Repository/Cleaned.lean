import Mathlib
import GraphRepo.Proofs.Repository.Emitted

/-!
# The trait that stays

What stays of a trait is the trait itself in all but its attributes. These stand at places: on the
trait, on a method, on `self` and on a parameter. From each place the generator takes its own
attributes and leaves the others in their order; only on the trait itself it puts one in front. This
says all there is to say, so to do it once more changes nothing.
-/

namespace GraphRepo

open Source

/-! ## Attributes and the rest -/

def Source.Input.bare : Input → Input
  | .receiver _ reference mutable type => .receiver [] reference mutable type
  | .typed _ pattern type => .typed [] pattern type

def Source.Signature.bare (s : Signature) : Signature :=
  { s with inputs := s.inputs.map Input.bare }

def Source.Method.bare (m : Method) : Method :=
  { m with attributes := [], signature := m.signature.bare }

def Source.Member.bare : Member → Member
  | .method m => .method m.bare
  | member => member

/-- A trait with no attributes on itself, its methods and their inputs. -/
def Source.Trait.bare (t : Trait) : Trait :=
  { t with attributes := [], members := t.members.map Member.bare }

/-- A place for attributes. Members and the inputs of a method are counted. -/
inductive Place
  | onTrait
  | onMethod (member : Nat)
  | onReceiver (member input : Nat)
  | onParameter (member input : Nat)

def Source.Input.atReceiver? : Input → Option (List Attribute)
  | .receiver attributes .. => some attributes
  | .typed .. => none

def Source.Input.atParameter? : Input → Option (List Attribute)
  | .receiver .. => none
  | .typed attributes .. => some attributes

def Source.Member.method? : Member → Option Method
  | .method m => some m
  | _ => none

def Source.Trait.method? (t : Trait) (i : Nat) : Option Method := t.members[i]?.bind Member.method?

def Source.Trait.input? (t : Trait) (i j : Nat) : Option Input :=
  (t.method? i).bind fun m => m.signature.inputs[j]?

/-- The attributes at a place, if the trait has that place. -/
def Source.Trait.attributesAt? (t : Trait) : Place → Option (List Attribute)
  | .onTrait => some t.attributes
  | .onMethod i => (t.method? i).map Method.attributes
  | .onReceiver i j => (t.input? i j).bind Input.atReceiver?
  | .onParameter i j => (t.input? i j).bind Input.atParameter?

/-! ### A trait is its attributes and the rest -/

theorem Source.Input.ext_bare {i j : Input} (hbare : i.bare = j.bare)
    (hreceiver : i.atReceiver? = j.atReceiver?) (hparameter : i.atParameter? = j.atParameter?) :
    i = j := by
  cases i <;> cases j <;> simp_all [bare, atReceiver?, atParameter?]

theorem Source.Method.ext_bare {m n : Method} (hbare : m.bare = n.bare)
    (hattributes : m.attributes = n.attributes)
    (hreceiver : ∀ j : Nat, m.signature.inputs[j]?.bind Input.atReceiver? =
      n.signature.inputs[j]?.bind Input.atReceiver?)
    (hparameter : ∀ j : Nat, m.signature.inputs[j]?.bind Input.atParameter? =
      n.signature.inputs[j]?.bind Input.atParameter?) : m = n := by
  obtain ⟨attributes, s, body⟩ := m
  obtain ⟨attributes', s', body'⟩ := n
  simp only [bare, Signature.bare, Method.mk.injEq, Signature.mk.injEq, true_and] at hbare
  obtain ⟨⟨hconst, hasync, hqualifiers, hname, hgenerics, hinputs, hrest⟩, hbody⟩ := hbare
  have hsame : s.inputs = s'.inputs := by
    refine List.ext_getElem? fun j => ?_
    have hj := congrArg (·[j]?) hinputs
    have hr := hreceiver j
    have hp := hparameter j
    simp only [List.getElem?_map] at hj
    cases hi : s.inputs[j]? with
    | none => cases hi' : s'.inputs[j]? <;> simp_all
    | some i =>
      cases hi' : s'.inputs[j]? with
      | none => simp_all
      | some i' =>
        simp only [hi, hi', Option.map_some, Option.some.injEq, Option.bind_some] at hj hr hp
        rw [Input.ext_bare hj hr hp]
  cases s
  cases s'
  simp_all

theorem Source.Trait.ext_bare {t u : Trait} (hbare : t.bare = u.bare)
    (hattributes : ∀ place, t.attributesAt? place = u.attributesAt? place) : t = u := by
  have htrait : t.attributes = u.attributes := Option.some.inj (hattributes .onTrait)
  have hmembers : t.members = u.members := by
    refine List.ext_getElem? fun i => ?_
    have hi := congrArg (fun v : Trait => v.members[i]?) hbare
    have hmethod := hattributes (.onMethod i)
    have hreceiver := fun j => hattributes (.onReceiver i j)
    have hparameter := fun j => hattributes (.onParameter i j)
    simp only [bare, List.getElem?_map] at hi
    simp only [attributesAt?, input?, method?] at hmethod hreceiver hparameter
    rcases hm : t.members[i]? with _ | m <;> rcases hn : u.members[i]? with _ | n
    · rfl
    · simp [hm, hn] at hi
    · simp [hm, hn] at hi
    simp only [hm, hn, Option.map_some, Option.some.injEq] at hi
    simp only [hm, hn, Option.bind_some] at hmethod hreceiver hparameter
    cases m with
    | method a =>
      cases n with
      | method b =>
        exact congrArg (some ∘ Member.method) (Method.ext_bare (Member.method.inj hi)
          (Option.some.inj hmethod) hreceiver hparameter)
      | _ => cases hi
    | constant hasDefault tokens => cases n <;> cases hi; rfl
    | other tokens => cases n <;> cases hi; rfl
  cases t
  cases u
  simp_all [bare]

/-! ## What cleaning does at a place -/

/-- Whether the generator takes an attribute from a place. -/
def Place.drops : Place → Attribute → Bool
  | .onTrait, a => a.endsIn "repository"
  | .onMethod _, a => ["query", "insert", "update"].any (a.isNamed ·)
  | .onReceiver .., _ => false
  | .onParameter .., a => a.isNamed "param"

def Source.Path.leading : Path → Bool
  | .segments leading _ _ => leading

/-- `#[runtime::__private::async_trait]`. -/
def asyncTraitOf (runtime : Path) : Attribute :=
  ⟨false, ⟨runtime.leading, runtime.names ++ ["__private", "async_trait"]⟩, .nothing⟩

/-- What the generator puts in front of the attributes at a place. -/
def Place.added (runtime : Path) (t : Trait) : Place → List Attribute
  | .onTrait => if t.attributes.any isAsyncAttribute then [] else [asyncTraitOf runtime]
  | _ => []

/-- **A trait that stays of another**: the two are the same but for their attributes, and at each
place it has what is put in front and then what is not taken away. -/
structure IsCleaned (runtime : Path) (t u : Trait) : Prop where
  bare : u.bare = t.bare
  attributesAt : ∀ place, u.attributesAt? place = (t.attributesAt? place).map fun attributes =>
    place.added runtime t ++ attributes.filter (!place.drops ·)

theorem IsCleaned.unique {runtime : Path} {t u v : Trait} (hu : IsCleaned runtime t u)
    (hv : IsCleaned runtime t v) : u = v :=
  Trait.ext_bare (hu.bare.trans hv.bare.symm) fun place =>
    (hu.attributesAt place).trans (hv.attributesAt place).symm

/-! ## Stripping -/

section

variable {t : Trait} {i j : Nat}

theorem bare_stripInput (input : Input) : (stripInput input).bare = input.bare := by
  cases input <;> rfl

theorem bare_stripMember (member : Member) : (stripMember member).bare = member.bare := by
  cases member with
  | method m =>
    have hinputs : (m.signature.inputs.map stripInput).map Input.bare =
        m.signature.inputs.map Input.bare := by
      rw [List.map_map]
      exact List.map_congr_left fun input _ => bare_stripInput input
    simp [stripMember, Member.bare, stripMethod, Method.bare, stripSignature, Signature.bare,
      hinputs]
  | _ => rfl

theorem bare_stripTrait (t : Trait) : (stripTrait t).bare = t.bare := by
  have hmembers : (t.members.map stripMember).map Member.bare = t.members.map Member.bare := by
    rw [List.map_map]
    exact List.map_congr_left fun member _ => bare_stripMember member
  simp [stripTrait, Trait.bare, hmembers]

theorem method_stripTrait : (stripTrait t).method? i = (t.method? i).map stripMethod := by
  unfold Trait.method? stripTrait
  rw [List.getElem?_map]
  cases t.members[i]? with
  | none => rfl
  | some member => cases member <;> rfl

theorem input_stripTrait : (stripTrait t).input? i j = (t.input? i j).map stripInput := by
  unfold Trait.input?
  rw [method_stripTrait]
  cases t.method? i with
  | none => rfl
  | some m => exact List.getElem?_map ..

theorem attributesAt_stripTrait (t : Trait) (place : Place) :
    (stripTrait t).attributesAt? place =
      (t.attributesAt? place).map (·.filter (!place.drops ·)) := by
  cases place with
  | onTrait => rfl
  | onMethod i =>
    have hmarkers : (fun a => !isMarker a) = fun a => !(Place.onMethod i).drops a := by
      funext a
      simp [isMarker, Place.drops, Bool.or_assoc]
    simp only [Trait.attributesAt?, method_stripTrait]
    rw [← hmarkers]
    cases t.method? i <;> rfl
  | onReceiver i j =>
    simp only [Trait.attributesAt?, input_stripTrait]
    rcases t.input? i j with _ | input
    · rfl
    · cases input <;> simp [stripInput, Input.atReceiver?, Place.drops]
  | onParameter i j =>
    simp only [Trait.attributesAt?, input_stripTrait]
    rcases t.input? i j with _ | input
    · rfl
    · cases input <;> rfl

/-- The attribute for asynchronous methods is none of those that are taken away. -/
theorem any_isAsync_stripTrait (t : Trait) :
    (stripTrait t).attributes.any isAsyncAttribute = t.attributes.any isAsyncAttribute := by
  have hkept (a : Attribute) :
      (!isRepositoryAttribute a && isAsyncAttribute a) = isAsyncAttribute a := by
    unfold isRepositoryAttribute isAsyncAttribute Attribute.endsIn
    by_cases hlast : a.path.names.getLast? = some "async_trait"
    · simp [hlast]
    · simp [hlast]
  have hfilter : (stripTrait t).attributes = t.attributes.filter (!isRepositoryAttribute ·) := rfl
  rw [hfilter, List.any_filter]
  simp only [hkept]

end

/-! ## Cleaning -/

variable {t u : Trait} {runtime : Path}

theorem isAsync_asyncTraitOf (runtime : Path) : isAsyncAttribute (asyncTraitOf runtime) := by
  simp [isAsyncAttribute, Attribute.endsIn, asyncTraitOf, List.getLast?_append]

theorem asyncAttribute_eq_ok {a : Attribute} :
    asyncAttribute runtime = .ok a ↔
      runtime.isPlain ∧ "try" ∉ runtime.names ∧ a = asyncTraitOf runtime := by
  obtain ⟨leading, qualifier, last⟩ := runtime
  rw [asyncAttribute, map_eq_ok]
  constructor
  · rintro ⟨names, hnames, rfl⟩
    obtain ⟨hplain, htry, rfl⟩ := attributeNames_eq_ok.1 hnames
    exact ⟨hplain, htry, rfl⟩
  · rintro ⟨hplain, htry, rfl⟩
    exact ⟨_, attributeNames_eq_ok.2 ⟨hplain, htry, rfl⟩, rfl⟩

theorem cleanTrait_of_async (hasync : t.attributes.any isAsyncAttribute) (runtime : Path) :
    cleanTrait t runtime = .ok (stripTrait t) := by
  rw [cleanTrait, any_isAsync_stripTrait]
  exact if_pos hasync

theorem cleanTrait_of_not_async (hasync : t.attributes.any isAsyncAttribute = false) :
    cleanTrait t runtime = .ok u ↔ runtime.isPlain ∧ "try" ∉ runtime.names ∧
      u = { stripTrait t with
        attributes := asyncTraitOf runtime :: (stripTrait t).attributes } := by
  rw [cleanTrait, any_isAsync_stripTrait, hasync, if_neg Bool.false_ne_true, map_eq_ok]
  constructor
  · rintro ⟨a, ha, rfl⟩
    obtain ⟨hplain, htry, rfl⟩ := asyncAttribute_eq_ok.1 ha
    exact ⟨hplain, htry, rfl⟩
  · rintro ⟨hplain, htry, rfl⟩
    exact ⟨_, asyncAttribute_eq_ok.2 ⟨hplain, htry, rfl⟩, rfl⟩

theorem isCleaned_of_cleanTrait (h : cleanTrait t runtime = .ok u) : IsCleaned runtime t u := by
  by_cases hasync : t.attributes.any isAsyncAttribute
  · rw [cleanTrait_of_async hasync] at h
    cases h
    refine ⟨bare_stripTrait t, fun place => ?_⟩
    rw [attributesAt_stripTrait]
    cases place <;> simp [Place.added, hasync]
  · obtain ⟨-, -, rfl⟩ := (cleanTrait_of_not_async (by simpa using hasync)).1 h
    refine ⟨bare_stripTrait t, fun place => ?_⟩
    cases place with
    | onTrait =>
      have hadded : Place.onTrait.added runtime t = [asyncTraitOf runtime] := if_neg hasync
      rw [hadded]
      rfl
    | onMethod i => exact attributesAt_stripTrait t (.onMethod i)
    | onReceiver i j => exact attributesAt_stripTrait t (.onReceiver i j)
    | onParameter i j => exact attributesAt_stripTrait t (.onParameter i j)

theorem IsCleaned.isAsync (h : IsCleaned runtime t u) : u.attributes.any isAsyncAttribute := by
  have hu : u.attributes = Place.onTrait.added runtime t ++ (stripTrait t).attributes :=
    Option.some.inj (h.attributesAt .onTrait)
  rw [hu, List.any_append, any_isAsync_stripTrait, Bool.or_eq_true]
  by_cases hasync : t.attributes.any isAsyncAttribute
  · exact .inr hasync
  · refine .inl ?_
    rw [Place.added, if_neg hasync]
    simp [isAsync_asyncTraitOf]

theorem IsCleaned.self (h : IsCleaned runtime t u) : IsCleaned runtime u u := by
  refine ⟨rfl, fun place => ?_⟩
  have hadded : place.added runtime u = [] := by
    cases place with
    | onTrait => exact if_pos h.isAsync
    | _ => rfl
  have hnew : ∀ a ∈ place.added runtime t, !place.drops a := by
    cases place with
    | onTrait =>
      intro a ha
      rw [Place.added] at ha
      split at ha
      · cases ha
      · obtain rfl := List.mem_singleton.1 ha
        simp [Place.drops, Attribute.endsIn, asyncTraitOf, List.getLast?_append]
    | _ => intro a ha; cases ha
  rw [hadded, h.attributesAt place, Option.map_map]
  congr 1
  funext attributes
  simp [List.filter_append, List.filter_eq_self.2 hnew]

/-- **What stays of a trait.** It stays exactly if it has the attribute for asynchronous methods or
this can be written with the path of the runtime crate. Then it is the same but for its attributes:
the generator's are gone from the trait, its methods and their parameters, the others stand as they
did, and the attribute for asynchronous methods comes first unless there is one. No other trait is
like that, and cleaning leaves this one as it is. -/
theorem cleanTrait_isCleaned (t : Trait) (runtime : Path) :
    ((∃ u, cleanTrait t runtime = .ok u) ↔
      t.attributes.any isAsyncAttribute ∨ runtime.isPlain ∧ "try" ∉ runtime.names) ∧
    ∀ u, cleanTrait t runtime = .ok u →
      IsCleaned runtime t u ∧ (∀ v, IsCleaned runtime t v → v = u) ∧
        cleanTrait u runtime = .ok u := by
  refine ⟨?_, fun u hu => ?_⟩
  · rw [cleanTrait_isOk, any_isAsync_stripTrait]
  · have hcleaned := isCleaned_of_cleanTrait hu
    refine ⟨hcleaned, fun v hv => hv.unique hcleaned, ?_⟩
    have hagain := cleanTrait_of_async hcleaned.isAsync runtime
    rw [hagain, (isCleaned_of_cleanTrait hagain).unique hcleaned.self]

/-- `greet` with an attribute of the generator's and another one at every place. -/
def annotatedTrait : Trait :=
  let plain (name : String) : Attribute := ⟨false, ⟨false, [name]⟩, .nothing⟩
  let s := greet.method.signature
  { greetTrait with
    attributes := [⟨false, ⟨true, ["rt", "repository"]⟩, .nothing⟩, plain "doc"]
    members := [.method ⟨[plain "cold", plain "insert"],
      { s with inputs := [.receiver [plain "param", plain "warn"] (some none) false none,
          .typed [plain "query", plain "param"] (.name "name") (plainType "String")] }, none⟩] }

/-- The generator's attributes are gone where they are read. On `self` there is nothing to read, and
`#[query]` is not read on a parameter. -/
theorem cleanTrait_isCleaned_annotated :
    let plain (name : String) : Attribute := ⟨false, ⟨false, [name]⟩, .nothing⟩
    let runtime : Path := .segments true [] (.plain "neorepo")
    ∃ u, cleanTrait annotatedTrait runtime = .ok u ∧ cleanTrait u runtime = .ok u ∧
      u.bare = annotatedTrait.bare ∧
      u.attributesAt? .onTrait =
        some [⟨false, ⟨true, ["neorepo", "__private", "async_trait"]⟩, .nothing⟩, plain "doc"] ∧
      u.attributesAt? (.onMethod 0) = some [plain "cold"] ∧
      u.attributesAt? (.onReceiver 0 0) = some [plain "param", plain "warn"] ∧
      u.attributesAt? (.onParameter 0 1) = some [plain "query"] := by
  obtain ⟨hstays, hcleaned⟩ :=
    cleanTrait_isCleaned annotatedTrait (.segments true [] (.plain "neorepo"))
  obtain ⟨u, hu⟩ := hstays.2 (.inr ⟨rfl, by decide⟩)
  obtain ⟨h, -, hagain⟩ := hcleaned u hu
  exact ⟨u, hu, hagain, h.bare, h.attributesAt _, h.attributesAt _, h.attributesAt _,
    h.attributesAt _⟩

/-- `rt::try` is the path of a runtime crate, and a trait with no attributes does not stay next to
it. -/
theorem not_cleaned_nested_try :
    ∃ runtime, readPath? "rt::try" = some runtime ∧ runtime.isPlain ∧
      ¬ (bareTrait "R" []).attributes.any isAsyncAttribute ∧
      cleanTrait (bareTrait "R" []) runtime =
        .error ⟨"expected path segment after \x60::\x60"⟩ := by
  have hread : readPath? "rt::try" = some (.segments false [.plain "rt"] (.plain "try")) := by cbv
  exact ⟨_, hread, rfl, by decide, rfl⟩

end GraphRepo

import Mathlib
import GraphRepo.Proofs.Source.Leaves
import GraphRepo.Source.Item

/-!
# Syntax that can be written

Of each kind of syntax it is said what tokens it keeps, here and in its parts. If those can be
written, so can its own.
-/

namespace GraphRepo.Source

/-! ## Words and operators of the syntax -/

/-- The words that the syntax puts in by itself. -/
def syntaxWords : List String :=
  ["mut", "self", "const", "async", "fn", "trait", "unsafe", "in", "_"]

theorem spelled_syntaxWord {name : String} (h : name ∈ syntaxWords) : Spelled (word name) := by
  have hall : syntaxWords.all fun name => plainIdentEnd name.toList == some [] := by decide +kernel
  exact spelled_word (standsAlone_word (eq_of_beq (List.all_eq_true.1 hall name h)))

theorem spelled_wordIf {name : String} (condition : Bool) (h : name ∈ syntaxWords) :
    Spelled (wordIf condition name) := by
  unfold wordIf
  split
  · exact spelled_syntaxWord h
  · exact .nil

/-! ## Types -/

mutual

/-- The tokens that a type keeps, here and in its parts, can be written. -/
def Ty.IsSpelled : Ty → Prop
  | .paren inner => inner.IsSpelled
  | .group inner => inner.IsSpelled
  | .reference lifetime _ target =>
    (∀ name ∈ lifetime, Spelled (lifetimeTokens name)) ∧ target.IsSpelled
  | .path p => p.IsSpelled
  | .tuple elems _ => Ty.AllSpelled elems
  | .bare _ modifiers p => Spelled modifiers ∧ p.IsSpelled
  | .other tokens => Spelled tokens

def Ty.AllSpelled : List Ty → Prop
  | [] => True
  | t :: rest => t.IsSpelled ∧ Ty.AllSpelled rest

def Path.IsSpelled : Path → Prop
  | .segments _ qualifier last => Segment.AllSpelled qualifier ∧ last.IsSpelled

def Segment.IsSpelled : Segment → Prop
  | .plain name => Spelled (word name)
  | .angled name _ args _ => Spelled (word name) ∧ Argument.AllSpelled args
  | .called name tokens => Spelled (word name) ∧ Spelled tokens

def Segment.AllSpelled : List Segment → Prop
  | [] => True
  | s :: rest => s.IsSpelled ∧ Segment.AllSpelled rest

def Argument.IsSpelled : Argument → Prop
  | .lifetime name => Spelled (lifetimeTokens name)
  | .type ty => ty.IsSpelled
  | .other tokens => Spelled tokens

def Argument.AllSpelled : List Argument → Prop
  | [] => True
  | a :: rest => a.IsSpelled ∧ Argument.AllSpelled rest

end

theorem Ty.allSpelled_iff : ∀ {types : List Ty}, Ty.AllSpelled types ↔ ∀ t ∈ types, t.IsSpelled
  | [] => by simp [Ty.AllSpelled]
  | t :: rest => by rw [Ty.AllSpelled, Ty.allSpelled_iff, List.forall_mem_cons]

theorem Segment.allSpelled_iff : ∀ {segments : List Segment},
    Segment.AllSpelled segments ↔ ∀ s ∈ segments, s.IsSpelled
  | [] => by simp [Segment.AllSpelled]
  | s :: rest => by rw [Segment.AllSpelled, Segment.allSpelled_iff, List.forall_mem_cons]

theorem Argument.allSpelled_iff : ∀ {args : List Argument},
    Argument.AllSpelled args ↔ ∀ a ∈ args, a.IsSpelled
  | [] => by simp [Argument.AllSpelled]
  | a :: rest => by rw [Argument.AllSpelled, Argument.allSpelled_iff, List.forall_mem_cons]

theorem spelled_leading (leading : Bool) : Spelled (leadingTokens leading) := by
  unfold leadingTokens
  split
  · exact spelled_op (by decide)
  · exact .nil

theorem spelled_reference {lifetime : Option String}
    (h : ∀ name ∈ lifetime, Spelled (lifetimeTokens name)) (exclusive : Bool) :
    Spelled (referenceTokens lifetime exclusive) := by
  have hlifetime : Spelled ((lifetime.map lifetimeTokens).getD []) := by
    cases lifetime with
    | none => exact .nil
    | some name => exact h name rfl
  exact ((spelled_op (by decide)).append hlifetime).append
    (spelled_wordIf exclusive (by simp [syntaxWords]))

theorem spelled_qualifier : ∀ {segments : List Tokens}, (∀ s ∈ segments, Spelled s) →
    Spelled (qualifierTokens segments)
  | [], _ => .nil
  | s :: rest, h => by
    obtain ⟨hs, hrest⟩ := List.forall_mem_cons.1 h
    exact (hs.append (spelled_op (by decide))).append (spelled_qualifier hrest)

theorem spelled_entries {entries : List (Bool × Tokens)} (h : ∀ e ∈ entries, Spelled e.2)
    (trailing : Bool) : Spelled (genericEntries entries trailing) := by
  have hcomma : Spelled (op ",") := spelled_op (by decide)
  unfold genericEntries
  extract_lets withComma lifetimes others write
  have hwrite : ∀ e ∈ withComma, Spelled (write e) := by
    intro e he
    obtain ⟨⟨⟨isLifetime, tokens⟩, i⟩, hmem, rfl⟩ := List.mem_map.1 he
    have htokens : Spelled tokens := h _ (List.fst_mem_of_mem_zipIdx hmem)
    dsimp only [write]
    split
    · exact htokens.append hcomma
    · exact htokens.append .nil
  have hlifetimes : Spelled (lifetimes.flatMap write) :=
    .flatMap fun e he => hwrite e (List.mem_of_mem_filter he)
  have hothers : Spelled (others.flatMap write) :=
    .flatMap fun e he => hwrite e (List.mem_of_mem_filter he)
  refine (hlifetimes.append ?_).append hothers
  split
  · exact hcomma
  · exact .nil

mutual

theorem Ty.IsSpelled.tokens : ∀ {ty : Ty}, ty.IsSpelled → Spelled ty.tokens
  | .paren inner, h => by
    rw [Ty.IsSpelled] at h
    rw [Ty.tokens]
    exact h.tokens.inGroup
  | .group inner, h => by
    rw [Ty.IsSpelled] at h
    rw [Ty.tokens]
    exact h.tokens
  | .reference lifetime exclusive target, h => by
    rw [Ty.IsSpelled] at h
    rw [Ty.tokens]
    exact (spelled_reference h.1 exclusive).append h.2.tokens
  | .path p, h => by
    rw [Ty.IsSpelled] at h
    rw [Ty.tokens]
    exact h.tokens
  | .tuple elems trailing, h => by
    rw [Ty.IsSpelled] at h
    rw [Ty.tokens]
    exact (Spelled.commaSeparated (Ty.AllSpelled.tokens h) trailing).inGroup
  | .bare true modifiers p, h => by
    rw [Ty.IsSpelled] at h
    rw [Ty.tokens]
    exact (h.1.append h.2.tokens).inGroup
  | .bare false modifiers p, h => by
    rw [Ty.IsSpelled] at h
    rw [Ty.tokens]
    exact h.1.append h.2.tokens
  | .other tokens, h => by
    rw [Ty.IsSpelled] at h
    rw [Ty.tokens]
    exact h

theorem Ty.AllSpelled.tokens : ∀ {types : List Ty}, Ty.AllSpelled types →
    ∀ ts ∈ Ty.tokensOfEach types, Spelled ts
  | [], _, ts, hts => by cases hts
  | t :: rest, h, ts, hts => by
    rw [Ty.AllSpelled] at h
    rw [Ty.tokensOfEach, List.mem_cons] at hts
    rcases hts with rfl | hts
    · exact h.1.tokens
    · exact Ty.AllSpelled.tokens h.2 ts hts

theorem Path.IsSpelled.tokens : ∀ {p : Path}, p.IsSpelled → Spelled p.tokens
  | .segments leading qualifier last, h => by
    rw [Path.IsSpelled] at h
    rw [Path.tokens]
    have hqualifier := spelled_qualifier (Segment.AllSpelled.tokens h.1)
    exact ((spelled_leading leading).append hqualifier).append h.2.tokens

theorem Segment.IsSpelled.tokens : ∀ {s : Segment}, s.IsSpelled → Spelled s.tokens
  | .plain name, h => by
    rw [Segment.IsSpelled] at h
    rw [Segment.tokens]
    exact h
  | .angled name turbofish args trailing, h => by
    rw [Segment.IsSpelled] at h
    rw [Segment.tokens]
    have hopening : Spelled (op "<") := spelled_op (by decide)
    have hclose : Spelled (op ">") := spelled_op (by decide)
    have hentries := spelled_entries (Argument.AllSpelled.entries h.2) trailing
    exact (((h.1.append (spelled_leading turbofish)).append hopening).append hentries).append hclose
  | .called name tokens, h => by
    rw [Segment.IsSpelled] at h
    rw [Segment.tokens]
    exact h.1.append h.2

theorem Segment.AllSpelled.tokens : ∀ {segments : List Segment}, Segment.AllSpelled segments →
    ∀ ts ∈ Segment.tokensOfEach segments, Spelled ts
  | [], _, ts, hts => by cases hts
  | s :: rest, h, ts, hts => by
    rw [Segment.AllSpelled] at h
    rw [Segment.tokensOfEach, List.mem_cons] at hts
    rcases hts with rfl | hts
    · exact h.1.tokens
    · exact Segment.AllSpelled.tokens h.2 ts hts

theorem Argument.IsSpelled.tokens : ∀ {a : Argument}, a.IsSpelled → Spelled a.tokens
  | .lifetime name, h => by
    rw [Argument.IsSpelled] at h
    rw [Argument.tokens]
    exact h
  | .type ty, h => by
    rw [Argument.IsSpelled] at h
    rw [Argument.tokens]
    exact h.tokens
  | .other tokens, h => by
    rw [Argument.IsSpelled] at h
    rw [Argument.tokens]
    exact h

theorem Argument.AllSpelled.entries : ∀ {args : List Argument}, Argument.AllSpelled args →
    ∀ e ∈ Argument.entriesOf args, Spelled e.2
  | [], _, e, he => by cases he
  | a :: rest, h, e, he => by
    rw [Argument.AllSpelled] at h
    have hcons : e.2 = a.tokens ∨ e ∈ Argument.entriesOf rest := by
      cases a <;> simp only [Argument.entriesOf, List.mem_cons] at he <;> grind
    rcases hcons with heq | he
    · rw [heq]
      exact h.1.tokens
    · exact Argument.AllSpelled.entries h.2 e he

end

/-! ## Items -/

structure Generics.IsSpelled (g : Generics) : Prop where
  entries : ∀ e ∈ g.entries, Spelled e.2
  whereClause : Spelled g.whereClause

def Pattern.IsSpelled : Pattern → Prop
  | .name ident => Spelled (word ident)
  | .range _ tokens => Spelled tokens
  | .constant inner statements => Spelled inner ∧ Spelled statements
  | .asWritten tokens => Spelled tokens
  | .other tokens => Spelled tokens

def Input.IsSpelled : Input → Prop
  | .receiver attributes reference _ type =>
    (∀ a ∈ attributes, Spelled a.tokens)
      ∧ (∀ lifetime ∈ reference, ∀ name ∈ lifetime, Spelled (lifetimeTokens name))
      ∧ ∀ ty ∈ type, ty.IsSpelled
  | .typed attributes pattern type =>
    (∀ a ∈ attributes, Spelled a.tokens) ∧ pattern.IsSpelled ∧ type.IsSpelled

structure Signature.IsSpelled (s : Signature) : Prop where
  qualifiers : Spelled s.qualifiers
  name : Spelled (word s.name)
  generics : s.generics.IsSpelled
  inputs : ∀ input ∈ s.inputs, input.IsSpelled
  variadic : Spelled s.variadic
  output : ∀ ty ∈ s.output, ty.IsSpelled

structure Method.IsSpelled (m : Method) : Prop where
  attributes : ∀ a ∈ m.attributes, Spelled a.tokens
  signature : m.signature.IsSpelled
  body : ∀ body ∈ m.body, Spelled body

def Member.IsSpelled : Member → Prop
  | .method m => m.IsSpelled
  | .constant _ tokens => Spelled tokens
  | .other tokens => Spelled tokens

def Bound.IsSpelled : Bound → Prop
  | .trait _ modifiers path => Spelled modifiers ∧ path.IsSpelled
  | .constant tokens => Spelled tokens
  | .other tokens => Spelled tokens

structure Trait.IsSpelled (t : Trait) : Prop where
  attributes : ∀ a ∈ t.attributes, Spelled a.tokens
  visibility : Spelled t.visibility
  qualifiers : Spelled t.qualifiers
  name : Spelled (word t.name)
  generics : t.generics.IsSpelled
  bounds : ∀ b ∈ t.bounds, b.IsSpelled
  members : ∀ m ∈ t.members, m.IsSpelled

mutual

def Item.IsSpelled : Item → Prop
  | .trait t => t.IsSpelled
  | .module header name inner items =>
    Spelled header ∧ Spelled (word name) ∧ Spelled inner ∧ Item.AllSpelled items
  | .named _ tokens => Spelled tokens
  | .implementation tokens => Spelled tokens
  | .other tokens => Spelled tokens

def Item.AllSpelled : List Item → Prop
  | [] => True
  | item :: rest => item.IsSpelled ∧ Item.AllSpelled rest

end

theorem Item.allSpelled_iff : ∀ {items : List Item},
    Item.AllSpelled items ↔ ∀ item ∈ items, item.IsSpelled
  | [] => by simp [Item.AllSpelled]
  | item :: rest => by rw [Item.AllSpelled, Item.allSpelled_iff, List.forall_mem_cons]

theorem spelled_outer {attributes : List Attribute} (h : ∀ a ∈ attributes, Spelled a.tokens) :
    Spelled (Attribute.outerTokens attributes) :=
  .flatMap fun a ha => h a (List.mem_of_mem_filter ha)

theorem spelled_inner {attributes : List Attribute} (h : ∀ a ∈ attributes, Spelled a.tokens) :
    Spelled (Attribute.innerTokens attributes) :=
  .flatMap fun a ha => h a (List.mem_of_mem_filter ha)

theorem Generics.IsSpelled.tokens {g : Generics} (h : g.IsSpelled) : Spelled g.tokens := by
  unfold Generics.tokens
  split
  · exact .nil
  · have hentries := spelled_entries h.entries g.trailing
    exact ((spelled_op (by decide)).append hentries).append (spelled_op (by decide))

theorem Pattern.IsSpelled.tokens {p : Pattern} (h : p.IsSpelled) : Spelled p.tokens := by
  cases p with
  | name ident => exact h
  | range isOpen tokens => exact h
  | constant inner statements =>
    exact (spelled_syntaxWord (by simp [syntaxWords])).append (h.1.append h.2).inGroup
  | asWritten tokens => exact h
  | other tokens => exact h

theorem Input.IsSpelled.tokens {input : Input} (h : input.IsSpelled) : Spelled input.tokens := by
  have hcolon : Spelled (op ":") := spelled_op (by decide)
  cases input with
  | receiver attributes reference mutable type =>
    obtain ⟨hattributes, hreference, htype⟩ := h
    have hself : Spelled (word "self") := spelled_syntaxWord (by simp [syntaxWords])
    have hmut : Spelled (wordIf mutable "mut") := spelled_wordIf _ (by simp [syntaxWords])
    refine ((((spelled_outer hattributes).append ?_).append hmut).append hself).append ?_
    · cases reference with
      | none => exact .nil
      | some lifetime => exact spelled_reference (hreference lifetime rfl) false
    · cases type with
      | none => exact .nil
      | some ty => exact hcolon.append (htype ty rfl).tokens
  | typed attributes pattern type =>
    obtain ⟨hattributes, hpattern, htype⟩ := h
    exact (((spelled_outer hattributes).append hpattern.tokens).append hcolon).append htype.tokens

theorem Signature.IsSpelled.tokens {s : Signature} (h : s.IsSpelled) : Spelled s.tokens := by
  have hfn : Spelled (word "fn") := spelled_syntaxWord (by simp [syntaxWords])
  have hinputs : Spelled (commaSeparated s.trailing (s.inputs.map Input.tokens)) :=
    .commaSeparated (List.forall_mem_map.2 fun input hinput => (h.inputs input hinput).tokens) _
  have hconst : Spelled (wordIf s.isConst "const") :=
    spelled_wordIf _ (by simp [syntaxWords])
  have hasync : Spelled (wordIf s.isAsync "async") :=
    spelled_wordIf _ (by simp [syntaxWords])
  have hhead := ((hconst.append hasync).append
    h.qualifiers).append hfn
  refine ((((hhead.append h.name).append h.generics.tokens).append
    (hinputs.append h.variadic).inGroup).append ?_).append h.generics.whereClause
  cases houtput : s.output with
  | none => exact .nil
  | some ty => exact (spelled_op (by decide)).append (h.output ty houtput).tokens

theorem Method.IsSpelled.tokens {m : Method} (h : m.IsSpelled) : Spelled m.tokens := by
  refine ((spelled_outer h.attributes).append h.signature.tokens).append ?_
  cases hbody : m.body with
  | none => exact spelled_op (by decide)
  | some body => exact ((spelled_inner h.attributes).append (h.body body hbody)).inGroup

theorem Member.IsSpelled.tokens {m : Member} (h : m.IsSpelled) : Spelled m.tokens := by
  cases m with
  | method m => exact Method.IsSpelled.tokens h
  | constant hasDefault tokens => exact h
  | other tokens => exact h

theorem Bound.IsSpelled.tokens {b : Bound} (h : b.IsSpelled) : Spelled b.tokens := by
  cases b with
  | trait parenthesized modifiers path =>
    have hpath := h.1.append h.2.tokens
    cases parenthesized with
    | true => exact hpath.inGroup
    | false => exact hpath
  | constant tokens => exact h
  | other tokens => exact h

theorem Trait.IsSpelled.tokens {t : Trait} (h : t.IsSpelled) : Spelled t.tokens := by
  have htrait : Spelled (word "trait") := spelled_syntaxWord (by simp [syntaxWords])
  have hbounds : Spelled (if t.bounds.isEmpty then []
      else op ":" ++ separated "+" t.trailing (t.bounds.map Bound.tokens)) := by
    split
    · exact .nil
    · exact (spelled_op (by decide)).append (.separated (spelled_op (by decide)) _
        (List.forall_mem_map.2 fun b hb => (h.bounds b hb).tokens))
  have hmembers : Spelled (t.members.flatMap Member.tokens) :=
    .flatMap fun m hm => (h.members m hm).tokens
  have hhead := (((spelled_outer h.attributes).append h.visibility).append h.qualifiers).append
    htrait
  exact ((((hhead.append h.name).append h.generics.tokens).append hbounds).append
    h.generics.whereClause).append ((spelled_inner h.attributes).append hmembers).inGroup

mutual

theorem Item.IsSpelled.tokens : ∀ {item : Item}, item.IsSpelled → Spelled item.tokens
  | .trait t, h => by
    rw [Item.IsSpelled] at h
    rw [Item.tokens]
    exact h.tokens
  | .module header name inner items, h => by
    rw [Item.IsSpelled] at h
    obtain ⟨hheader, hname, hinner, hitems⟩ := h
    rw [Item.tokens]
    exact (hheader.append hname).append (hinner.append (Item.AllSpelled.tokens hitems)).inGroup
  | .named name tokens, h => by
    rw [Item.IsSpelled] at h
    rw [Item.tokens]
    exact h
  | .implementation tokens, h => by
    rw [Item.IsSpelled] at h
    rw [Item.tokens]
    exact h
  | .other tokens, h => by
    rw [Item.IsSpelled] at h
    rw [Item.tokens]
    exact h

theorem Item.AllSpelled.tokens : ∀ {items : List Item}, Item.AllSpelled items →
    Spelled (Item.tokensOfAll items)
  | [], _ => .nil
  | item :: rest, h => by
    rw [Item.AllSpelled] at h
    rw [Item.tokensOfAll]
    exact h.1.tokens.append (Item.AllSpelled.tokens h.2)

end

end GraphRepo.Source

import KernelSweep.Yaml.Library

set_option autoImplicit false

namespace KernelSweep.Yaml

/-- `reads n old new gave`: the node `n` over the value `old` stands for `new`, and gives a value of
its own if `gave`. -/
abbrev Reading (α : Type) := Node → α → α → Bool → Prop

namespace Node

mutual

/-- Without aliases, and without keys that merge another mapping in. -/
def isPlain : Node → Bool
  | .scalar .. => true
  | .sequence _ _ items => arePlain items
  | .mapping _ _ entries => entriesArePlain entries
  | .alias .. => false

def arePlain : List Node → Bool
  | [] => true
  | n :: rest => n.isPlain && arePlain rest

def entriesArePlain : List (Node × Node) → Bool
  | [] => true
  | (k, v) :: rest => !k.isMergeKey && k.isPlain && v.isPlain && entriesArePlain rest

end

/-- The node itself, or the anchored one that an alias stands for. -/
def resolve (env : List (Nat × Node)) : Node → Node
  | .alias line name number target => (env.lookup target).getD (.alias line name number target)
  | n => n

end Node

/-- No two keys are the same. -/
def KeysDiffer (entries : List (Node × Node)) : Prop := (entries.map fun e => e.1.keyText).Nodup

def unmerged (entries : List (Node × Node)) : List (Node × Node) :=
  entries.filter fun e => !e.1.isMergeKey

section Scalars

variable (lib : Library)

def Library.isNull : Node → Bool
  | .scalar _ tag value _ => (lib.scalar tag value).any Scalar.null
  | _ => false

/-- Null gives nothing. -/
inductive ReadsScalar {α : Type} (take : Scalar → Option α) : Reading α
  | null {line : Nat} {tag value : String} {quoted : Bool} {s : Scalar} {old : α} :
    lib.scalar tag value = some s → s.null = true →
      ReadsScalar take (.scalar line tag value quoted) old old false
  | value {line : Nat} {tag value : String} {quoted : Bool} {s : Scalar} {old new : α} :
    lib.scalar tag value = some s → s.null = false → take s = some new →
      ReadsScalar take (.scalar line tag value quoted) old new true

/-- A key and the name it denotes; null denotes none. -/
def Names (k : Node) (name : Text.Bytes) : Prop := ReadsScalar lib Scalar.text k [] name true

/-- The same of a key that can be an alias. -/
def KeyNames (env : List (Nat × Node)) (k : Node) (name : Text.Bytes) : Prop :=
  Names lib (k.resolve env) name

end Scalars

/-- No two keys denote one name. -/
abbrev NamesApart (denotes : Node → Text.Bytes → Prop) (entries : List (Node × Node)) : Prop :=
  entries.Pairwise fun e e' => ∀ name, denotes e.1 name → ¬ denotes e'.1 name

section Mappings

variable (lib : Library) (env : List (Nat × Node))

/-- A mapping and the entries of all that are merged into it, one mapping behind the other. A
sequence has those of its items. -/
inductive Opens : Node → List (Node × Node) → List (Node × Node) → Prop
  | mapping {n : Node} {line : Nat} {tag : String} {entries : List (Node × Node)} :
    n.resolve env = .mapping line tag entries → KeysDiffer entries →
      (∀ e ∈ entries, e.1.isMergeKey = false) → Opens n (unmerged entries) []
  | merging {n : Node} {line : Nat} {tag : String} {entries first later : List (Node × Node)}
      {e : Node × Node} :
    n.resolve env = .mapping line tag entries → KeysDiffer entries → e ∈ entries →
      e.1.isMergeKey = true → Opens e.2 first later →
        Opens n (unmerged entries) (first ++ later)
  | nil {line : Nat} {tag : String} : Opens (.sequence line tag []) [] []
  | cons {line : Nat} {tag : String} {n : Node} {ns : List Node}
      {first later more : List (Node × Node)} :
    (∃ line tag entries, n.resolve env = .mapping line tag entries) → Opens n first later →
      Opens (.sequence line tag ns) [] more →
        Opens (.sequence line tag (n :: ns)) [] (first ++ later ++ more)

/-- What an entry with a name does to a value. -/
abbrev Filling (σ : Type) := Text.Bytes → Node → σ → σ → Prop

/-- Entries one after the other. A null key is left out with its value. -/
inductive Fills {σ : Type} (fill : Filling σ) : List (Node × Node) → σ → σ → Prop
  | nil {s : σ} : Fills fill [] s s
  | null {k v : Node} {rest : List (Node × Node)} {s s' : σ} :
    lib.isNull (k.resolve env) = true → Fills fill rest s s' → Fills fill ((k, v) :: rest) s s'
  | entry {k v : Node} {name : Text.Bytes} {rest : List (Node × Node)} {s mid s' : σ} :
    KeyNames lib env k name → fill name v s mid → Fills fill rest mid s' →
      Fills fill ((k, v) :: rest) s s'

/-- Entries that are merged in. Those with a hidden name are passed over, and each of the others
hides its name from those behind it. -/
inductive Merges {σ : Type} (fill : Filling σ) :
    List (Node × Node) → List Text.Bytes → σ → σ → Prop
  | nil {hidden : List Text.Bytes} {s : σ} : Merges fill [] hidden s s
  | null {k v : Node} {rest : List (Node × Node)} {hidden : List Text.Bytes} {s s' : σ} :
    lib.isNull (k.resolve env) = true → Merges fill rest hidden s s' →
      Merges fill ((k, v) :: rest) hidden s s'
  | hidden {k v : Node} {name : Text.Bytes} {rest : List (Node × Node)} {hidden : List Text.Bytes}
      {s s' : σ} :
    KeyNames lib env k name → name ∈ hidden → Merges fill rest hidden s s' →
      Merges fill ((k, v) :: rest) hidden s s'
  | entry {k v : Node} {name : Text.Bytes} {rest : List (Node × Node)} {hidden : List Text.Bytes}
      {s mid s' : σ} :
    KeyNames lib env k name → name ∉ hidden → fill name v s mid →
      Merges fill rest (name :: hidden) mid s' → Merges fill ((k, v) :: rest) hidden s s'

/-- A mapping's own entries first and then those merged in, as far as no key of its own hides
them. -/
inductive DecodesMapping {σ : Type} (own merged : Filling σ) : Node → σ → σ → Prop
  | entries {line : Nat} {tag : String} {entries first later : List (Node × Node)}
      {hidden : List Text.Bytes} {old mid new : σ} :
    Opens env (.mapping line tag entries) first later → Fills lib env own first old mid →
      (∀ name ∈ hidden, ∃ e ∈ entries, KeyNames lib env e.1 name) →
        Merges lib env merged later hidden mid new →
          DecodesMapping own merged (.mapping line tag entries) old new

/-- A value is decoded onto the empty one. Null stands for the empty one, and replaces nothing in a
table that was there before. -/
inductive PutsEntry {α : Type} (item : Reading α) (empty : α) (fresh : Bool) :
    Filling (List (Text.Bytes × α))
  | value {name : Text.Bytes} {v : Node} {a : α} {t : List (Text.Bytes × α)} :
    item v empty a true → PutsEntry item empty fresh name v t (assocPut name a t)
  | null {name : Text.Bytes} {v : Node} {a : α} {t : List (Text.Bytes × α)} :
    item v empty a false → fresh = true ∨ t.lookup name = none →
      PutsEntry item empty fresh name v t (assocPut name empty t)
  | kept {name : Text.Bytes} {v : Node} {a : α} {t : List (Text.Bytes × α)} :
    item v empty a false → fresh = false → t.lookup name ≠ none →
      PutsEntry item empty fresh name v t t

/-- Each item over the empty one; those that give nothing are left out. -/
inductive ReadsItems {α : Type} (item : Reading α) (empty : α) : List Node → List α → Prop
  | nil : ReadsItems item empty [] []
  | skip {n : Node} {rest : List Node} {a : α} {as : List α} :
    item n empty a false → ReadsItems item empty rest as →
      ReadsItems item empty (n :: rest) as
  | cons {n : Node} {rest : List Node} {a : α} {as : List α} :
    item n empty a true → ReadsItems item empty rest as →
      ReadsItems item empty (n :: rest) (a :: as)

inductive ReadsList {α : Type} (item : Reading α) (empty : α) : Reading (List α)
  | null {n : Node} {old : List α} : lib.isNull n = true → ReadsList item empty n old [] true
  | sequence {line : Nat} {tag : String} {ns : List Node} {old new : List α} :
    ReadsItems item empty ns new → ReadsList item empty (.sequence line tag ns) old new true

inductive DecodesTable {α : Type} (item : Reading α) (empty : α) :
    Reading (List (Text.Bytes × α))
  | null {n : Node} {old : List (Text.Bytes × α)} :
    lib.isNull n = true → DecodesTable item empty n old [] true
  | mapping {n : Node} {old new : List (Text.Bytes × α)} :
    DecodesMapping lib env (PutsEntry item empty old.isEmpty) (PutsEntry item empty false) n old
      new → DecodesTable item empty n old new true

/-- No field is set twice by the mapping itself. -/
inductive DecodesRecord {σ : Type} (sets : Filling σ) : Reading σ
  | null {n : Node} {old : σ} : lib.isNull n = true → DecodesRecord sets n old old false
  | mapping {line : Nat} {tag : String} {entries : List (Node × Node)} {old new : σ} :
    NamesApart (KeyNames lib env) (unmerged entries) →
      DecodesMapping lib env sets sets (.mapping line tag entries) old new →
        DecodesRecord sets (.mapping line tag entries) old new true

mutual

/-- How a node of a document with these anchored nodes is decoded. -/
def Kind.Decodes : (k : Kind) → Reading k.Value
  | .text => fun n => ReadsScalar lib Scalar.text (n.resolve env)
  | .int => fun n => ReadsScalar lib Scalar.int (n.resolve env)
  | .bool => fun n => ReadsScalar lib Scalar.bool (n.resolve env)
  | .list _ item => fun n => ReadsList lib item.Decodes item.zero (n.resolve env)
  | .table _ item => fun n => DecodesTable lib env item.Decodes item.zero (n.resolve env)
  | .record _ fields => fun n => DecodesRecord lib env fields.Sets (n.resolve env)

/-- A field is decoded onto the value it has. -/
def Fields.Sets : (fields : Fields) → Filling fields.Value
  | .nil => fun _ _ _ _ => False
  | .cons called kind rest => fun name v s s' =>
    if Text.encode called = name then (∃ gave, kind.Decodes v s.1 s'.1 gave) ∧ s'.2 = s.2
    else rest.Sets name v s.2 s'.2 ∧ s'.1 = s.1

end

end Mappings

def Fields.names : Fields → List String
  | .nil => []
  | .cons name _ rest => name :: rest.names

mutual

/-- No record has two fields of one name. -/
def Kind.isDistinct : Kind → Bool
  | .text | .int | .bool => true
  | .list _ item | .table _ item => item.isDistinct
  | .record _ fields => decide fields.names.Nodup && fields.areDistinct

def Fields.areDistinct : Fields → Bool
  | .nil => true
  | .cons _ kind rest => kind.isDistinct && rest.areDistinct

end

/-- What is relied on of a library: that it decodes strictly by the rules. Of documents with aliases
or merged mappings it may refuse more. -/
structure Library.Strict (lib : Library) : Prop where
  empty {content : Text.Bytes} (k : Kind) (old : k.Value) :
    lib.document content = .ok none → lib.decode k content old = (old, .error .empty)
  /-- There is nothing to decode only if there is no document. -/
  empty_only {content : Text.Bytes} {k : Kind} {old : k.Value} :
    (lib.decode k content old).2 = .error .empty → lib.document content = .ok none
  sound {content : Text.Bytes} {d : Document} {k : Kind} {old new : k.Value} :
    lib.document content = .ok (some d) → lib.decode k content old = (new, .ok ()) →
      ∃ gave, k.Decodes lib d.anchored d.root old new gave
  complete {content : Text.Bytes} {d : Document} {k : Kind} {old new : k.Value} {gave : Bool} :
    lib.document content = .ok (some d) → k.isDistinct → d.root.isPlain →
      k.Decodes lib d.anchored d.root old new gave → lib.decode k content old = (new, .ok ())

end KernelSweep.Yaml

import KernelSweep.Proofs.Text.Utf8
import KernelSweep.Proofs.Yaml.Rules
import Mathlib.Data.List.Forall2
import Mathlib.Data.List.Nodup

set_option autoImplicit false

namespace KernelSweep.Yaml

/-- A field of a record with given fields: its name, its kind and its place. -/
structure Slot (σ : Type) where
  name : String
  kind : Kind
  get : σ → kind.Value

/-- The same field of a record that has one more in front. -/
def Slot.behind {σ : Type} (α : Type) (f : Slot σ) : Slot (α × σ) where
  name := f.name
  kind := f.kind
  get s := f.get s.2

def Fields.slots : (fields : Fields) → List (Slot fields.Value)
  | .nil => []
  | .cons name kind rest => ⟨name, kind, Prod.fst⟩ :: rest.slots.map (Slot.behind kind.Value)

section Readings

variable (lib : Library)

/-- A field over the entries of a mapping: it is read from the entry that names it, and otherwise
keeps its value. -/
structure Overlaid {α : Type} (name : Text.Bytes) (reads : Reading α)
    (entries : List (Node × Node)) (old new : α) : Prop where
  named : ∀ e ∈ entries, Names lib e.1 name → ∃ gave, reads e.2 old new gave
  kept : (∀ e ∈ entries, ¬ Names lib e.1 name) → new = old

/-- Every key is null or a name, and no name is given twice. -/
structure KeysFit (names : List String) (entries : List (Node × Node)) : Prop where
  known : ∀ e ∈ entries, lib.isNull e.1 = true ∨ ∃ name ∈ names, Names lib e.1 (Text.encode name)
  once : NamesApart (Names lib) entries

inductive ReadsRecord {σ : Type} (names : List String)
    (overlaid : List (Node × Node) → σ → σ → Prop) : Reading σ
  | null {n : Node} {old : σ} : lib.isNull n = true → ReadsRecord names overlaid n old old false
  | mapping {line : Nat} {tag : String} {entries : List (Node × Node)} {old new : σ} :
    KeysDiffer entries → KeysFit lib names entries → overlaid entries old new →
      ReadsRecord names overlaid (.mapping line tag entries) old new true

/-- What a mapping gives an empty table, entry by entry; a null key is left out with its value. -/
def ReadsEntries {α : Type} (item : Reading α) (empty : α) (entries : List (Node × Node))
    (named : List (Text.Bytes × α)) : Prop :=
  List.Forall₂ (fun e p => Names lib e.1 p.1 ∧ ∃ gave, item e.2 empty p.2 gave)
    (entries.filter fun e => !lib.isNull e.1) named

/-- A table over the empty one. Of keys with one name the last counts. -/
inductive ReadsTable {α : Type} (item : Reading α) (empty : α) :
    Reading (List (Text.Bytes × α))
  | null {n : Node} {old : List (Text.Bytes × α)} :
    lib.isNull n = true → ReadsTable item empty n old [] true
  | mapping {line : Nat} {tag : String} {entries : List (Node × Node)}
      {named : List (Text.Bytes × α)} :
    KeysDiffer entries → ReadsEntries lib item empty entries named →
      ReadsTable item empty (.mapping line tag entries) []
        (named.foldl (fun t p => assocPut p.1 p.2 t) []) true

mutual

/-- What a node without aliases and merged mappings stands for over an old value, told without the
order of the keys of records. -/
def Kind.Reads : (k : Kind) → Reading k.Value
  | .text => ReadsScalar lib Scalar.text
  | .int => ReadsScalar lib Scalar.int
  | .bool => ReadsScalar lib Scalar.bool
  | .list _ item => ReadsList lib item.Reads item.zero
  | .table _ item => ReadsTable lib item.Reads item.zero
  | .record _ fields => ReadsRecord lib fields.names fields.Overlaid

def Fields.Overlaid : (fields : Fields) → List (Node × Node) → fields.Value → fields.Value → Prop
  | .nil => fun _ _ _ => True
  | .cons name kind rest => fun entries old new =>
    Yaml.Overlaid lib (Text.encode name) kind.Reads entries old.1 new.1 ∧
      rest.Overlaid entries old.2 new.2

end

/-- A plain mapping over an old record: its keys fit, and it is laid over every field. -/
structure Overlays (fields : Fields) (entries : List (Node × Node)) (old new : fields.Value) :
    Prop where
  keys : KeysFit lib fields.names entries
  fields : ∀ f ∈ fields.slots,
    Overlaid lib (Text.encode f.name) (f.kind.Reads lib) entries (f.get old) (f.get new)

end Readings

section Plain

variable {lib : Library} {env : List (Nat × Node)}

@[simp] theorem arePlain_iff {ns : List Node} : Node.arePlain ns = true ↔ ∀ n ∈ ns, n.isPlain := by
  induction ns with
  | nil => simp [Node.arePlain]
  | cons n rest ih => simp [Node.arePlain, ih]

theorem entriesArePlain_iff {es : List (Node × Node)} :
    Node.entriesArePlain es = true ↔
      ∀ e ∈ es, e.1.isMergeKey = false ∧ e.1.isPlain ∧ e.2.isPlain := by
  induction es with
  | nil => simp [Node.entriesArePlain]
  | cons e rest ih => simp [Node.entriesArePlain, ih, and_assoc]

theorem Node.entries_isPlain {line : Nat} {tag : String} {entries : List (Node × Node)}
    (plain : (Node.mapping line tag entries).isPlain) :
    ∀ e ∈ entries, e.1.isMergeKey = false ∧ e.1.isPlain ∧ e.2.isPlain := by
  rw [isPlain] at plain
  exact entriesArePlain_iff.mp plain

theorem Node.resolve_of_plain {n : Node} (plain : n.isPlain) : n.resolve env = n := by
  match n with
  | .scalar .. | .sequence .. | .mapping .. => rfl
  | .alias .. => simp [isPlain] at plain

theorem keyNames_iff_of_plain {k : Node} {name : Text.Bytes} (plain : k.isPlain) :
    KeyNames lib env k name ↔ Names lib k name := by
  rw [KeyNames, Node.resolve_of_plain plain]

theorem namesApart_iff_of_plain {entries : List (Node × Node)}
    (plain : ∀ e ∈ entries, e.1.isPlain) :
    NamesApart (KeyNames lib env) entries ↔ NamesApart (Names lib) entries := by
  refine List.Pairwise.iff_of_mem fun mem mem' => forall_congr' fun name => ?_
  rw [keyNames_iff_of_plain (plain _ mem), keyNames_iff_of_plain (plain _ mem')]

theorem unmerged_of_plain {entries : List (Node × Node)}
    (plain : ∀ e ∈ entries, e.1.isMergeKey = false) : unmerged entries = entries :=
  List.filter_eq_self.mpr fun e mem => by simp [plain e mem]

end Plain

section Null

variable {lib : Library}

theorem isNull_scalar_iff {line : Nat} {tag value : String} {quoted : Bool} :
    lib.isNull (.scalar line tag value quoted) = true ↔
      ∃ s, lib.scalar tag value = some s ∧ s.null = true := by
  simp only [Library.isNull, Option.any_eq_true]

/-- Only a scalar can be null. -/
theorem exists_scalar_of_isNull {n : Node} (null : lib.isNull n = true) :
    ∃ line tag value quoted s, n = .scalar line tag value quoted ∧
      lib.scalar tag value = some s ∧ s.null = true := by
  cases n with
  | scalar line tag value quoted =>
    obtain ⟨s, means, given⟩ := isNull_scalar_iff.mp null
    exact ⟨line, tag, value, quoted, s, rfl, means, given⟩
  | _ => contradiction

theorem ReadsScalar.isNull {α : Type} {take : Scalar → Option α} {n : Node} {old new : α}
    (reads : ReadsScalar lib take n old new false) : lib.isNull n = true ∧ new = old := by
  cases reads with
  | null means null => exact ⟨isNull_scalar_iff.mpr ⟨_, means, null⟩, rfl⟩

theorem ReadsScalar.not_isNull {α : Type} {take : Scalar → Option α} {n : Node} {old new : α}
    (reads : ReadsScalar lib take n old new true) : lib.isNull n = false := by
  cases reads with
  | value means given _ => simp [Library.isNull, means, given]

theorem Names.not_isNull {k : Node} {name : Text.Bytes} (names : Names lib k name) :
    lib.isNull k = false :=
  ReadsScalar.not_isNull names

theorem Names.unique {k : Node} {name name' : Text.Bytes} (names : Names lib k name)
    (names' : Names lib k name') : name = name' := by
  cases names with
  | value means _ taken =>
    cases names' with
    | value means' _ taken' => simp_all

end Null

section Fields

theorem Fields.forall_slots_cons {name : String} {kind : Kind} {rest : Fields}
    {P : Slot (Fields.cons name kind rest).Value → Prop} :
    (∀ f ∈ (Fields.cons name kind rest).slots, P f) ↔
      P ⟨name, kind, Prod.fst⟩ ∧ ∀ f ∈ rest.slots, P (f.behind kind.Value) :=
  List.forall_mem_cons.trans (and_congr Iff.rfl List.forall_mem_map)

theorem Fields.mem_names_of_slot : (fields : Fields) → ∀ f ∈ fields.slots, f.name ∈ fields.names
  | .nil => by simp [slots]
  | .cons name kind rest => by
    rw [forall_slots_cons]
    exact ⟨List.mem_cons_self, fun f mem => List.mem_cons_of_mem _ (rest.mem_names_of_slot f mem)⟩

/-- A record is made up of its fields. -/
theorem Fields.ext : (fields : Fields) → ∀ s s' : fields.Value,
    (∀ f ∈ fields.slots, f.get s = f.get s') → s = s'
  | .nil, _, _, _ => rfl
  | .cons _ _ rest, _, _, same => by
    rw [forall_slots_cons] at same
    exact Prod.ext same.1 (rest.ext _ _ same.2)

/-- The fields can be taken from two records. -/
theorem Fields.exists_mixed (pick : String → Prop) [DecidablePred pick] :
    (fields : Fields) → ∀ s s' : fields.Value,
      ∃ mid : fields.Value, ∀ f ∈ fields.slots,
        f.get mid = if pick f.name then f.get s' else f.get s
  | .nil, _, _ => ⟨(), by simp [slots]⟩
  | .cons name kind rest, s, s' => by
    obtain ⟨mid, mixed⟩ := rest.exists_mixed pick s.2 s'.2
    refine ⟨(if pick name then s'.1 else s.1, mid), ?_⟩
    rw [forall_slots_cons]
    exact ⟨rfl, mixed⟩

variable {lib : Library} {env : List (Nat × Node)}

theorem Fields.overlaid_iff (fields : Fields) {entries : List (Node × Node)}
    {old new : fields.Value} :
    fields.Overlaid lib entries old new ↔ ∀ f ∈ fields.slots,
      Yaml.Overlaid lib (Text.encode f.name) (f.kind.Reads lib) entries (f.get old)
        (f.get new) := by
  match fields with
  | .nil => simp [Overlaid, slots]
  | .cons name kind rest =>
    rw [forall_slots_cons]
    exact and_congr Iff.rfl rest.overlaid_iff

end Fields

end KernelSweep.Yaml

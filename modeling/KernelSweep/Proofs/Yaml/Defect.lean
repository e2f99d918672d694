import KernelSweep.Proofs.Yaml.Agreement

set_option autoImplicit false

namespace KernelSweep.Yaml

/-- The kind of the field with a name. -/
def Fields.kindOf : Fields → Text.Bytes → Option Kind
  | .nil, _ => none
  | .cons called kind rest, name =>
    if Text.encode called = name then some kind else rest.kindOf name

namespace Kind

/-- The kinds of entries by name, where a mapping is expected. -/
def entries : Kind → Option (Text.Bytes → Option Kind)
  | .record _ fields => some fields.kindOf
  | .table _ item => some fun _ => some item
  | _ => none

/-- Whether a name can be given once only, in whatever writing. -/
def isSingle : Kind → Bool
  | .record .. => true
  | _ => false

end Kind

section Defects

variable (lib : Library) (env : List (Nat × Node))

def Library.takes {α : Type} (take : Scalar → Option α) : Node → Bool
  | .scalar _ tag value _ => (lib.scalar tag value).any fun s => s.null || (take s).isSome
  | _ => false

/-- Whether a node has the form that a kind asks for. -/
def Kind.admits : Kind → Node → Bool
  | .text, n => lib.takes Scalar.text n
  | .int, n => lib.takes Scalar.int n
  | .bool, n => lib.takes Scalar.bool n
  | .list .., .sequence .. => true
  | .record .., .mapping .. => true
  | .table .., .mapping .. => true
  | _, n => lib.isNull n

/-- The entries of a mapping, and those of all mappings merged into it. -/
inductive Merged : Node → List (Node × Node) → Prop
  | own {n : Node} {line : Nat} {tag : String} {es : List (Node × Node)} :
    n.resolve env = .mapping line tag es → Merged n es
  | inner {n : Node} {line : Nat} {tag : String} {es es' : List (Node × Node)} {e : Node × Node} :
    n.resolve env = .mapping line tag es → e ∈ es → e.1.isMergeKey = true → Merged e.2 es' →
      Merged n es'
  | item {line : Nat} {tag : String} {ns : List Node} {n : Node} {es : List (Node × Node)} :
    n ∈ ns → Merged n es → Merged (.sequence line tag ns) es

/-- Something is wrong with a node for a kind, or below it. -/
inductive Defect : Kind → Node → Prop
  | mistyped {k : Kind} {n : Node} : k.admits lib (n.resolve env) = false → Defect k n
  | item {type : String} {k : Kind} {n m : Node} {line : Nat} {tag : String} {ns : List Node} :
    n.resolve env = .sequence line tag ns → m ∈ ns → Defect k m → Defect (.list type k) n
  | repeated {k : Kind} {n : Node} {part : Text.Bytes → Option Kind} {es : List (Node × Node)} :
    k.entries = some part → Merged env n es → ¬ KeysDiffer es → Defect k n
  | twice {k : Kind} {n : Node} {line : Nat} {tag : String} {es : List (Node × Node)}
      {e e' : Node × Node} {name : Text.Bytes} :
    k.isSingle = true → n.resolve env = .mapping line tag es → [e, e'].Sublist es →
      e.1.isMergeKey = false → e'.1.isMergeKey = false → KeyNames lib env e.1 name →
        KeyNames lib env e'.1 name → Defect k n
  | key {k : Kind} {n : Node} {part : Text.Bytes → Option Kind} {es : List (Node × Node)}
      {e : Node × Node} :
    k.entries = some part → Merged env n es → e ∈ es → e.1.isMergeKey = false →
      lib.isNull (e.1.resolve env) = false → (∀ name, ¬ KeyNames lib env e.1 name) → Defect k n
  /-- A merge key may hide what is merged in under the name that it has itself. -/
  | unknown {k : Kind} {n : Node} {part : Text.Bytes → Option Kind} {es : List (Node × Node)}
      {e : Node × Node} {name : Text.Bytes} :
    k.entries = some part → Merged env n es → e ∈ es → e.1.isMergeKey = false →
      KeyNames lib env e.1 name →
        (∀ es', Merged env n es' → ∀ e' ∈ es', e'.1.isMergeKey = true →
          ¬ KeyNames lib env e'.1 name) →
        part name = none → Defect k n
  | value {k below : Kind} {n : Node} {part : Text.Bytes → Option Kind} {line : Nat}
      {tag : String} {es : List (Node × Node)} {e : Node × Node} {name : Text.Bytes} :
    k.entries = some part → n.resolve env = .mapping line tag es → e ∈ es →
      e.1.isMergeKey = false → KeyNames lib env e.1 name → part name = some below →
        Defect below e.2 → Defect k n
  /-- Only the first of several entries with one name is sure to be read. -/
  | merged {k below : Kind} {n : Node} {part : Text.Bytes → Option Kind}
      {es : List (Node × Node)} {e : Node × Node} {name : Text.Bytes} :
    k.entries = some part → Merged env n es → e ∈ es → e.1.isMergeKey = false →
      KeyNames lib env e.1 name →
        (∀ es', Merged env n es' → ∀ e' ∈ es', KeyNames lib env e'.1 name → e' = e) →
        part name = some below → Defect below e.2 → Defect k n

end Defects

variable {lib : Library} {env : List (Nat × Node)}

/-- What a reading lets through has no defect. -/
def Reading.Guards {α : Type} (lib : Library) (env : List (Nat × Node)) (reads : Reading α)
    (k : Kind) : Prop :=
  ∀ ⦃n : Node⦄ ⦃old new : α⦄ ⦃gave : Bool⦄, reads n old new gave → ¬ Defect lib env k n

theorem takes_of_readsScalar {α : Type} {take : Scalar → Option α} {n : Node} {old new : α}
    {gave : Bool} (reads : ReadsScalar lib take n old new gave) : lib.takes take n = true := by
  cases reads with
  | null means null => simp [Library.takes, means, null]
  | value means _ taken => simp [Library.takes, means, taken]

/-- Where no entries are expected, only the form can be wrong. -/
theorem not_defect_of_takes {k : Kind} {n : Node} (admitted : k.admits lib (n.resolve env) = true)
    (bare : k.entries = none) (single : k.isSingle = false)
    (items : ∀ type item, k ≠ .list type item) : ¬ Defect lib env k n := by
  intro defect
  cases defect with
  | mistyped refused => simp [admitted] at refused
  | item => exact items _ _ rfl
  | repeated given | key given | unknown given | value given | merged given =>
    simp [bare] at given
  | twice only => simp [single] at only

theorem readsItems_sound {α : Type} {item : Reading α} {k : Kind}
    (guards : item.Guards lib env k) {empty : α} {ns : List Node} {as : List α}
    (read : ReadsItems item empty ns as) : ∀ n ∈ ns, ¬ Defect lib env k n := by
  induction read with
  | nil => exact List.forall_mem_nil _
  | skip first _ ih => exact List.forall_mem_cons.mpr ⟨guards first, ih⟩
  | cons first _ ih => exact List.forall_mem_cons.mpr ⟨guards first, ih⟩

theorem readsList_guards {α : Type} {item : Reading α} {type : String} {k : Kind}
    (guards : item.Guards lib env k) (empty : α) :
    Reading.Guards lib env (fun n => ReadsList lib item empty (n.resolve env)) (.list type k) := by
  intro n old new gave read defect
  cases defect with
  | mistyped refused =>
    generalize n.resolve env = m at read refused
    cases read with
    | null null => cases m <;> simp_all [Kind.admits]
    | sequence => cases refused
  | item here mem below =>
    rw [here] at read
    cases read with
    | null null => cases null
    | sequence read => exact readsItems_sound guards read _ mem below
  | repeated given | key given | unknown given | value given | merged given => cases given
  | twice only => cases only

section Opening

variable {n : Node} {first later : List (Node × Node)}

theorem mem_unmerged {entries : List (Node × Node)} {e : Node × Node} :
    e ∈ unmerged entries ↔ e ∈ entries ∧ e.1.isMergeKey = false := by
  simp [unmerged]

theorem Node.keyText_of_isMergeKey {k : Node} (merge : k.isMergeKey = true) :
    k.keyText = (0, "<<") := by
  match k with
  | .scalar .. =>
    simp only [isMergeKey, Bool.and_eq_true, beq_iff_eq] at merge
    simp [keyText, merge.1]
  | .sequence .. | .mapping .. | .alias .. => simp [isMergeKey] at merge

/-- A mapping whose keys differ has one merge key at most. -/
theorem KeysDiffer.eq_of_isMergeKey {entries : List (Node × Node)} (differ : KeysDiffer entries)
    {e e' : Node × Node} (mem : e ∈ entries) (merge : e.1.isMergeKey = true) (mem' : e' ∈ entries)
    (merge' : e'.1.isMergeKey = true) : e = e' := by
  apply List.inj_on_of_nodup_map differ mem mem'
  rw [Node.keyText_of_isMergeKey merge, Node.keyText_of_isMergeKey merge']

theorem merged_sequence_iff {line : Nat} {tag : String} {ns : List Node}
    {es : List (Node × Node)} :
    Merged env (.sequence line tag ns) es ↔ ∃ n ∈ ns, Merged env n es := by
  constructor
  · rintro (same | same | ⟨mem, below⟩)
    · cases same
    · cases same
    · exact ⟨_, mem, below⟩
  · rintro ⟨n, mem, below⟩
    exact .item mem below

/-- What is opened are the entries of the mappings merged in, none of which has a key twice. -/
structure OpensMerged (env : List (Nat × Node)) (n : Node) (found : List (Node × Node)) : Prop where
  differ : ∀ es, Merged env n es → KeysDiffer es
  all : ∀ es, Merged env n es → ∀ e ∈ unmerged es, e ∈ found
  only : ∀ e ∈ found, ∃ es, Merged env n es ∧ e ∈ es ∧ e.1.isMergeKey = false

theorem opensMerged_of_opens (opens : Opens env n first later) :
    OpensMerged env n (first ++ later) := by
  induction opens with
  | @mapping n line tag entries here differ plain =>
    have alone (es : List (Node × Node)) (merged : Merged env n es) : es = entries := by
      obtain same | ⟨same, mem, merge, -⟩ | ⟨-, -⟩ := merged
      · cases same.symm.trans here
        rfl
      · cases same.symm.trans here
        simp [plain _ mem] at merge
      · cases here
    rw [List.append_nil]
    refine ⟨fun es merged => ?_, fun es merged e mem => ?_, fun e mem => ?_⟩
    · rw [alone es merged]
      exact differ
    · rwa [← alone es merged]
    · exact ⟨entries, .own here, mem_unmerged.mp mem⟩
  | @merging n line tag entries inner more e here differ mem merge _ ih =>
    have cases' (es : List (Node × Node)) (merged : Merged env n es) :
        es = entries ∨ Merged env e.2 es := by
      obtain same | ⟨same, mem', merge', below⟩ | ⟨-, -⟩ := merged
      · cases same.symm.trans here
        exact .inl rfl
      · cases same.symm.trans here
        rw [differ.eq_of_isMergeKey mem merge mem' merge']
        exact .inr below
      · cases here
    refine ⟨fun es merged => ?_, fun es merged e' mem' => ?_, fun e' mem' => ?_⟩
    · obtain rfl | below := cases' es merged
      · exact differ
      · exact ih.differ es below
    · obtain rfl | below := cases' es merged
      · exact List.mem_append_left _ mem'
      · exact List.mem_append_right _ (ih.all es below e' mem')
    · obtain own | below := List.mem_append.mp mem'
      · exact ⟨entries, .own here, mem_unmerged.mp own⟩
      · obtain ⟨es, merged, holds⟩ := ih.only e' below
        exact ⟨es, .inner here mem merge merged, holds⟩
  | @nil line tag =>
    have nothing (es : List (Node × Node)) : ¬ Merged env (.sequence line tag []) es := by
      intro merged
      obtain ⟨m, mem, -⟩ := merged_sequence_iff.mp merged
      cases mem
    exact ⟨fun es merged => absurd merged (nothing es), fun es merged => absurd merged (nothing es),
      by simp⟩
  | @cons line tag m ns inner more rest _ _ _ ih ih' =>
    rw [List.nil_append] at ih' ⊢
    have cases' (es : List (Node × Node)) (merged : Merged env (.sequence line tag (m :: ns)) es) :
        Merged env m es ∨ Merged env (.sequence line tag ns) es := by
      obtain ⟨m', mem, below⟩ := merged_sequence_iff.mp merged
      obtain rfl | mem := List.mem_cons.mp mem
      · exact .inl below
      · exact .inr (.item mem below)
    have grows (es : List (Node × Node)) (merged : Merged env (.sequence line tag ns) es) :
        Merged env (.sequence line tag (m :: ns)) es := by
      obtain ⟨m', mem, below⟩ := merged_sequence_iff.mp merged
      exact .item (List.mem_cons_of_mem _ mem) below
    refine ⟨fun es merged => ?_, fun es merged e mem => ?_, fun e mem => ?_⟩
    · exact (cases' es merged).elim (ih.differ es) (ih'.differ es)
    · obtain here | there := cases' es merged
      · exact List.mem_append_left _ (ih.all es here e mem)
      · exact List.mem_append_right _ (ih'.all es there e mem)
    · obtain here | there := List.mem_append.mp mem
      · obtain ⟨es, merged, holds⟩ := ih.only e here
        exact ⟨es, .item List.mem_cons_self merged, holds⟩
      · obtain ⟨es, merged, holds⟩ := ih'.only e there
        exact ⟨es, grows es merged, holds⟩

end Opening

section Entries

variable {σ : Type} {part : Text.Bytes → Option Kind}

/-- An entry is let through only if its name has a kind and its value no defect. -/
def Filling.Guards (lib : Library) (env : List (Nat × Node)) (fill : Filling σ)
    (part : Text.Bytes → Option Kind) : Prop :=
  ∀ ⦃name : Text.Bytes⦄ ⦃v : Node⦄ ⦃s s' : σ⦄, fill name v s s' →
    ∃ k, part name = some k ∧ ¬ Defect lib env k v

/-- An entry with a name that has a kind, and a value without a defect. -/
def SoundEntry (lib : Library) (env : List (Nat × Node)) (part : Text.Bytes → Option Kind)
    (e : Node × Node) (name : Text.Bytes) : Prop :=
  KeyNames lib env e.1 name ∧ ∃ k, part name = some k ∧ ¬ Defect lib env k e.2

theorem KeyNames.not_isNull {k : Node} {name : Text.Bytes} (names : KeyNames lib env k name) :
    lib.isNull (k.resolve env) = false :=
  Names.not_isNull names

/-- Every entry of a mapping's own has been read. -/
theorem soundEntries_of_fills {fill : Filling σ} (guards : fill.Guards lib env part)
    {es : List (Node × Node)} {s s' : σ} (fills : Fills lib env fill es s s') :
    ∀ e ∈ es, lib.isNull (e.1.resolve env) = true ∨ ∃ name, SoundEntry lib env part e name := by
  induction fills with
  | nil => exact List.forall_mem_nil _
  | null null _ ih => exact List.forall_mem_cons.mpr ⟨.inl null, ih⟩
  | entry names filled _ ih =>
    exact List.forall_mem_cons.mpr ⟨.inr ⟨_, names, guards filled⟩, ih⟩

/-- Of the entries merged in, those with a hidden name have not, nor those behind another of the
same name. -/
theorem soundEntries_of_merges {fill : Filling σ} (guards : fill.Guards lib env part)
    {es : List (Node × Node)} {hidden : List Text.Bytes} {s s' : σ}
    (merges : Merges lib env fill es hidden s s') :
    ∀ e ∈ es, lib.isNull (e.1.resolve env) = true ∨ ∃ name, KeyNames lib env e.1 name ∧
      (name ∈ hidden ∨ ∃ e' ∈ es, SoundEntry lib env part e' name) := by
  induction merges with
  | nil => exact List.forall_mem_nil _
  | null null _ ih =>
    refine List.forall_mem_cons.mpr ⟨.inl null, fun e mem => (ih e mem).imp_right ?_⟩
    rintro ⟨name, names, before | ⟨e', mem', sound⟩⟩
    · exact ⟨name, names, .inl before⟩
    · exact ⟨name, names, .inr ⟨e', List.mem_cons_of_mem _ mem', sound⟩⟩
  | hidden names before _ ih =>
    refine List.forall_mem_cons.mpr ⟨.inr ⟨_, names, .inl before⟩, fun e mem =>
      (ih e mem).imp_right ?_⟩
    rintro ⟨name, names, before | ⟨e', mem', sound⟩⟩
    · exact ⟨name, names, .inl before⟩
    · exact ⟨name, names, .inr ⟨e', List.mem_cons_of_mem _ mem', sound⟩⟩
  | entry names _ filled _ ih =>
    have sound : SoundEntry lib env part (_, _) _ := ⟨names, guards filled⟩
    refine List.forall_mem_cons.mpr ⟨.inr ⟨_, names, .inr ⟨_, List.mem_cons_self, sound⟩⟩,
      fun e mem => (ih e mem).imp_right ?_⟩
    rintro ⟨name, names', before | ⟨e', mem', sound'⟩⟩
    · obtain rfl | before := List.mem_cons.mp before
      · exact ⟨_, names', .inr ⟨_, List.mem_cons_self, sound⟩⟩
      · exact ⟨name, names', .inl before⟩
    · exact ⟨name, names', .inr ⟨e', List.mem_cons_of_mem _ mem', sound'⟩⟩

/-- Of all mappings merged in no key is given twice, and all keys are texts or null; a name is that
of a sound entry unless a merge key has it, and the entries of the mapping's own are all sound. -/
structure SoundMapping (lib : Library) (env : List (Nat × Node)) (part : Text.Bytes → Option Kind)
    (n : Node) : Prop where
  once : ∀ es, Merged env n es → KeysDiffer es
  key : ∀ es, Merged env n es → ∀ e ∈ es, e.1.isMergeKey = false →
    lib.isNull (e.1.resolve env) = true ∨ ∃ name, KeyNames lib env e.1 name
  named : ∀ es, Merged env n es → ∀ e ∈ es, e.1.isMergeKey = false →
    ∀ name, KeyNames lib env e.1 name → ∃ es', Merged env n es' ∧ ∃ e' ∈ es',
      KeyNames lib env e'.1 name ∧
        (e'.1.isMergeKey = true ∨ SoundEntry lib env part e' name)
  own : ∀ line tag es, n.resolve env = .mapping line tag es → ∀ e ∈ es, e.1.isMergeKey = false →
    ∀ name, KeyNames lib env e.1 name → SoundEntry lib env part e name

theorem KeyNames.unique {k : Node} {name name' : Text.Bytes} (names : KeyNames lib env k name)
    (names' : KeyNames lib env k name') : name = name' :=
  Names.unique names names'

/-- An alias brings in what the mapping does that it stands for. -/
theorem merged_resolve_iff {n : Node} {line : Nat} {tag : String} {entries es : List (Node × Node)}
    (resolved : n.resolve env = .mapping line tag entries) :
    Merged env n es ↔ Merged env (.mapping line tag entries) es := by
  constructor
  · rintro (same | ⟨same, mem, merge, below⟩ | -)
    · exact .own (resolved.symm.trans same)
    · exact .inner (resolved.symm.trans same) mem merge below
    · cases resolved
  · rintro (same | ⟨same, mem, merge, below⟩)
    · exact .own (resolved.trans same)
    · exact .inner (resolved.trans same) mem merge below

/-- The own entries have been read one by one, and the others as far as their names were not
hidden. -/
theorem soundMapping_of_decodes {own merged : Filling σ} (guards : own.Guards lib env part)
    (guards' : merged.Guards lib env part) {n m : Node} (resolved : n.resolve env = m) {old new : σ}
    (decodes : DecodesMapping lib env own merged m old new) : SoundMapping lib env part n := by
  obtain @⟨line, tag, entries, first, later, hidden, _, mid, _, opens, fills, hides, merges⟩ :=
    decodes
  obtain rfl := unmerged_of_opens opens
  have opened := opensMerged_of_opens opens
  have known := soundEntries_of_fills guards fills
  have own (e : Node × Node) (mem : e ∈ unmerged entries) (name : Text.Bytes)
      (names : KeyNames lib env e.1 name) : SoundEntry lib env part e name := by
    obtain null | ⟨name', sound⟩ := known e mem
    · exact absurd (names.not_isNull.symm.trans null) Bool.false_ne_true
    · exact names.unique sound.1 ▸ sound
  have ofEntries (e : Node × Node) (mem : e ∈ entries) (name : Text.Bytes)
      (names : KeyNames lib env e.1 name) : ∃ es', Merged env n es' ∧ ∃ e' ∈ es',
        KeyNames lib env e'.1 name ∧
          (e'.1.isMergeKey = true ∨ SoundEntry lib env part e' name) := by
    refine ⟨entries, .own resolved, e, mem, names, ?_⟩
    cases merge : e.1.isMergeKey with
    | true => exact .inl rfl
    | false => exact .inr (own e (mem_unmerged.mpr ⟨mem, merge⟩) name names)
  have each (e : Node × Node) (mem : e ∈ unmerged entries ++ later) :
      lib.isNull (e.1.resolve env) = true ∨ ∃ name, KeyNames lib env e.1 name ∧
        ∃ es', Merged env n es' ∧ ∃ e' ∈ es', KeyNames lib env e'.1 name ∧
          (e'.1.isMergeKey = true ∨ SoundEntry lib env part e' name) := by
    obtain here | there := List.mem_append.mp mem
    · refine (known e here).imp_right ?_
      rintro ⟨name, names, -⟩
      exact ⟨name, names, ofEntries e (mem_unmerged.mp here).1 name names⟩
    · refine (soundEntries_of_merges guards' merges e there).imp_right ?_
      rintro ⟨name, names, before | ⟨e', mem', sound⟩⟩
      · obtain ⟨e', mem', names'⟩ := hides name before
        exact ⟨name, names, ofEntries e' mem' name names'⟩
      · obtain ⟨es', given, member, -⟩ := opened.only e' (List.mem_append_right _ mem')
        exact ⟨name, names, es', (merged_resolve_iff resolved).mpr given, e', member, sound.1,
          .inr sound⟩
  refine ⟨fun es given => ?_, fun es given e mem plain => ?_, fun es given e mem plain name names =>
    ?_, fun line' tag' es here e mem plain => ?_⟩
  · exact opened.differ es ((merged_resolve_iff resolved).mp given)
  · have found := opened.all es ((merged_resolve_iff resolved).mp given) e
      (mem_unmerged.mpr ⟨mem, plain⟩)
    refine (each e found).imp_right ?_
    rintro ⟨name, names, -⟩
    exact ⟨name, names⟩
  · have found := opened.all es ((merged_resolve_iff resolved).mp given) e
      (mem_unmerged.mpr ⟨mem, plain⟩)
    obtain null | ⟨name', names', holds⟩ := each e found
    · exact absurd (names.not_isNull.symm.trans null) Bool.false_ne_true
    · exact names.unique names' ▸ holds
  · cases resolved.symm.trans here
    exact own e (mem_unmerged.mpr ⟨mem, plain⟩)

/-- A mapping whose entries are sound has no defect of its own. -/
theorem SoundMapping.not_defect {n : Node} {k : Kind} (sound : SoundMapping lib env part n)
    (entries : k.entries = some part) (admitted : k.admits lib (n.resolve env) = true)
    (apart : k.isSingle = true → ∀ line tag es, n.resolve env = .mapping line tag es →
      NamesApart (KeyNames lib env) (unmerged es)) :
    ¬ Defect lib env k n := by
  intro defect
  cases defect with
  | mistyped refused => simp [admitted] at refused
  | item => cases entries
  | repeated _ given repeats => exact repeats (sound.once _ given)
  | @twice _ _ line tag es e e' name only here order plain plain' names names' =>
    have order' : [e, e'].Sublist (unmerged es) := by
      simpa [unmerged, plain, plain'] using order.filter fun e => !e.1.isMergeKey
    have distinct := (apart only line tag es here).sublist order'
    simp only [List.pairwise_cons, List.mem_singleton, forall_eq] at distinct
    exact distinct.1 name names names'
  | key _ given mem plain filled nameless =>
    obtain null | ⟨name, names⟩ := sound.key _ given _ mem plain
    · exact Bool.false_ne_true (filled.symm.trans null)
    · exact nameless name names
  | unknown same given mem plain names alone missing =>
    cases entries.symm.trans same
    obtain ⟨es', given', e', mem', names', merge | ⟨-, k, known, -⟩⟩ :=
      sound.named _ given _ mem plain _ names
    · exact alone es' given' e' mem' merge names'
    · simp [missing] at known
  | value same here mem plain names known below =>
    cases entries.symm.trans same
    obtain ⟨-, k, known', fine⟩ := sound.own _ _ _ here _ mem plain _ names
    cases known.symm.trans known'
    exact fine below
  | merged same given mem plain names alone known below =>
    cases entries.symm.trans same
    obtain ⟨es', given', e', mem', names', holds⟩ := sound.named _ given _ mem plain _ names
    cases alone es' given' e' mem' names'
    obtain merge | ⟨-, k, known', fine⟩ := holds
    · simp [plain] at merge
    · cases known.symm.trans known'
      exact fine below

/-- Null has no entries at all. -/
theorem not_defect_of_isNull {n : Node} {k : Kind} (null : lib.isNull (n.resolve env) = true)
    (entries : k.entries = some part) : ¬ Defect lib env k n := by
  have nothing (es : List (Node × Node)) : ¬ Merged env n es := by
    rintro (here | ⟨here, -⟩ | -)
    · simp [here, Library.isNull] at null
    · simp [here, Library.isNull] at null
    · cases null
  have sound : SoundMapping lib env part n :=
    ⟨fun es given => absurd given (nothing es), fun es given => absurd given (nothing es),
      fun es given => absurd given (nothing es), fun _ _ es here =>
        absurd (.own here) (nothing es)⟩
  apply sound.not_defect entries
  · obtain ⟨line, tag, value, quoted, s, same, -⟩ := exists_scalar_of_isNull null
    rw [same] at null ⊢
    cases k with
    | record | table => exact null
    | text | int | bool | list => cases entries
  · exact fun _ _ _ es here => absurd (.own here) (nothing es)

end Entries

section Kinds

theorem readsScalar_guards {α : Type} {take : Scalar → Option α} {k : Kind}
    (admits : ∀ n, k.admits lib n = lib.takes take n) (bare : k.entries = none)
    (single : k.isSingle = false) (items : ∀ type item, k ≠ .list type item) :
    Reading.Guards lib env (fun n => ReadsScalar lib take (n.resolve env)) k := by
  intro n old new gave read
  apply not_defect_of_takes _ bare single items
  rw [admits]
  exact takes_of_readsScalar read

theorem putsEntry_guards {α : Type} {item : Reading α} {k : Kind} (guards : item.Guards lib env k)
    (empty : α) (fresh : Bool) :
    Filling.Guards lib env (PutsEntry item empty fresh) fun _ => some k := by
  intro name v t t' puts
  cases puts with
  | value read | null read | kept read => exact ⟨k, rfl, guards read⟩

theorem decodesTable_guards {α : Type} {item : Reading α} {type : String} {k : Kind}
    (guards : item.Guards lib env k) (empty : α) :
    Reading.Guards lib env (fun n => DecodesTable lib env item empty (n.resolve env))
      (.table type k) := by
  intro n old new gave decodes
  generalize here : n.resolve env = m at decodes
  cases decodes with
  | null null => exact not_defect_of_isNull (here ▸ null) rfl
  | mapping decodes =>
    have sound := soundMapping_of_decodes (putsEntry_guards guards empty _)
      (putsEntry_guards guards empty _) here decodes
    apply sound.not_defect rfl
    · rw [here]
      cases decodes
      rfl
    · intro only
      cases only

theorem decodesRecord_guards {σ : Type} {sets : Filling σ} {type : String} {fields : Fields}
    (guards : sets.Guards lib env fields.kindOf) :
    Reading.Guards lib env (fun n => DecodesRecord lib env sets (n.resolve env))
      (.record type fields) := by
  intro n old new gave decodes
  generalize here : n.resolve env = m at decodes
  cases decodes with
  | null null => exact not_defect_of_isNull (here ▸ null) rfl
  | mapping apart decodes =>
    apply (soundMapping_of_decodes guards guards here decodes).not_defect rfl
    · rw [here]
      rfl
    · intro _ line tag es same
      cases here.symm.trans same
      exact apart

mutual

/-- Strict decoding lets no defect through. -/
theorem Kind.decodes_guards : (k : Kind) → Reading.Guards lib env (k.Decodes lib env) k
  | .text => readsScalar_guards (fun _ => rfl) rfl rfl nofun
  | .int => readsScalar_guards (fun _ => rfl) rfl rfl nofun
  | .bool => readsScalar_guards (fun _ => rfl) rfl rfl nofun
  | .list _ item => readsList_guards item.decodes_guards item.zero
  | .table _ item => decodesTable_guards item.decodes_guards item.zero
  | .record _ fields => decodesRecord_guards fields.sets_guards

theorem Fields.sets_guards : (fields : Fields) →
    Filling.Guards lib env (fields.Sets lib env) fields.kindOf
  | .nil, _, _, _, _, set => absurd set id
  | .cons called kind rest, name, v, s, s', set => by
    by_cases here : Text.encode called = name
    · obtain ⟨⟨gave, decodes⟩, -⟩ := (Fields.sets_cons_of_eq here).mp set
      exact ⟨kind, if_pos here, kind.decodes_guards decodes⟩
    · obtain ⟨k, known, sound⟩ := rest.sets_guards ((Fields.sets_cons_of_ne here).mp set).1
      exact ⟨k, (if_neg here).trans known, sound⟩

end

end Kinds

end KernelSweep.Yaml

import KernelSweep.Proofs.Yaml.Overlay

set_option autoImplicit false

namespace KernelSweep.Yaml

mutual

/-- There is nothing in the tables of a value. -/
def Kind.IsBlank : (k : Kind) → k.Value → Prop
  | .text | .int | .bool | .list _ _ => fun _ => True
  | .table _ _ => fun t => t = []
  | .record _ fields => fields.AreBlank

def Fields.AreBlank : (fields : Fields) → fields.Value → Prop
  | .nil => fun _ => True
  | .cons _ kind rest => fun s => kind.IsBlank s.1 ∧ rest.AreBlank s.2

end

mutual

theorem Kind.zero_isBlank : (k : Kind) → k.IsBlank k.zero
  | .text | .int | .bool | .list _ _ => trivial
  | .table _ _ => rfl
  | .record _ fields => fields.zero_areBlank

theorem Fields.zero_areBlank : (fields : Fields) → fields.AreBlank fields.zero
  | .nil => trivial
  | .cons _ kind rest => ⟨kind.zero_isBlank, rest.zero_areBlank⟩

end

theorem Fields.areBlank_iff (fields : Fields) {s : fields.Value} :
    fields.AreBlank s ↔ ∀ f ∈ fields.slots, f.kind.IsBlank (f.get s) := by
  match fields with
  | .nil => simp [AreBlank, slots]
  | .cons name kind rest =>
    rw [forall_slots_cons]
    exact and_congr Iff.rfl rest.areBlank_iff

section Entries

variable {lib : Library} {env : List (Nat × Node)} {k v : Node} {rest : List (Node × Node)}

theorem keysFit_cons_iff {names : List String} :
    KeysFit lib names ((k, v) :: rest) ↔
      (lib.isNull k = true ∨ ∃ called ∈ names, Names lib k (Text.encode called)) ∧
        (∀ e ∈ rest, ∀ name, Names lib k name → ¬ Names lib e.1 name) ∧
          KeysFit lib names rest := by
  constructor
  · rintro ⟨known, once⟩
    rw [List.forall_mem_cons] at known
    obtain ⟨apart, once⟩ := List.pairwise_cons.mp once
    exact ⟨known.1, apart, known.2, once⟩
  · rintro ⟨here, apart, known, once⟩
    exact ⟨List.forall_mem_cons.mpr ⟨here, known⟩, List.pairwise_cons.mpr ⟨apart, once⟩⟩

section Overlaid

variable {α : Type} {name : Text.Bytes} {reads : Reading α} {old new : α}

theorem overlaid_of_unnamed (unnamed : ∀ e ∈ rest, ¬ Names lib e.1 name) :
    Overlaid lib name reads rest old new ↔ new = old := by
  constructor
  · intro overlaid
    exact overlaid.kept unnamed
  · intro same
    exact ⟨fun e mem names => absurd names (unnamed e mem), fun _ => same⟩

theorem overlaid_cons_of_nameless (nameless : ¬ Names lib k name) :
    Overlaid lib name reads ((k, v) :: rest) old new ↔ Overlaid lib name reads rest old new := by
  constructor
  · rintro ⟨named, kept⟩
    rw [List.forall_mem_cons] at named kept
    exact ⟨named.2, fun unnamed => kept ⟨nameless, unnamed⟩⟩
  · rintro ⟨named, kept⟩
    refine ⟨?_, fun unnamed => kept (List.forall_mem_cons.mp unnamed).2⟩
    exact List.forall_mem_cons.mpr ⟨fun names => absurd names nameless, named⟩

theorem overlaid_cons_of_names (names : Names lib k name)
    (unnamed : ∀ e ∈ rest, ¬ Names lib e.1 name) :
    Overlaid lib name reads ((k, v) :: rest) old new ↔ ∃ gave, reads v old new gave := by
  constructor
  · intro overlaid
    exact overlaid.named (k, v) List.mem_cons_self names
  · intro read
    refine ⟨?_, fun unnamed => absurd names (unnamed (k, v) List.mem_cons_self)⟩
    exact List.forall_mem_cons.mpr
      ⟨fun _ => read, fun e mem names' => absurd names' (unnamed e mem)⟩

end Overlaid

theorem unmerged_of_opens {line : Nat} {tag : String} {entries first later : List (Node × Node)}
    (opens : Opens env (.mapping line tag entries) first later) : first = unmerged entries := by
  cases opens with
  | mapping here => cases here; rfl
  | merging here => cases here; rfl

/-- A plain mapping has no entries but its own. -/
theorem decodesMapping_iff_of_plain {σ : Type} {own merged : Filling σ} {line : Nat} {tag : String}
    {entries : List (Node × Node)} {old new : σ}
    (plain : ∀ e ∈ entries, e.1.isMergeKey = false) :
    DecodesMapping lib env own merged (.mapping line tag entries) old new ↔
      KeysDiffer entries ∧ Fills lib env own entries old new := by
  constructor
  · rintro ⟨opens, fills, -, merges⟩
    cases opens with
    | mapping here differ =>
      cases here
      cases merges
      rw [unmerged_of_plain plain] at fills
      exact ⟨differ, fills⟩
    | merging here _ mem merge =>
      cases here
      rw [plain _ mem] at merge
      contradiction
  · rintro ⟨differ, fills⟩
    rw [← unmerged_of_plain plain] at fills
    exact .entries (.mapping rfl differ plain) fills (List.forall_mem_nil _) .nil

end Entries

section Records

variable {lib : Library} {env : List (Nat × Node)}

section Cons

variable {called : String} {kind : Kind} {rest : Fields} {name : Text.Bytes} {v : Node}
  {s s' : (Fields.cons called kind rest).Value}

theorem Fields.sets_cons_of_eq (here : Text.encode called = name) :
    (Fields.cons called kind rest).Sets lib env name v s s' ↔
      (∃ gave, kind.Decodes lib env v s.1 s'.1 gave) ∧ s'.2 = s.2 :=
  iff_of_eq (if_pos here)

theorem Fields.sets_cons_of_ne (here : Text.encode called ≠ name) :
    (Fields.cons called kind rest).Sets lib env name v s s' ↔
      rest.Sets lib env name v s.2 s'.2 ∧ s'.1 = s.1 :=
  iff_of_eq (if_neg here)

end Cons

/-- Setting a field decodes onto it and changes no other. -/
theorem Fields.sets_iff (fields : Fields) (distinct : fields.names.Nodup) {name : Text.Bytes}
    {v : Node} {s s' : fields.Value} :
    fields.Sets lib env name v s s' ↔ (∃ called ∈ fields.names, Text.encode called = name) ∧
      ∀ f ∈ fields.slots,
        (Text.encode f.name = name → ∃ gave, f.kind.Decodes lib env v (f.get s) (f.get s') gave) ∧
          (Text.encode f.name ≠ name → f.get s' = f.get s) := by
  match fields with
  | .nil => simp [Sets, names]
  | .cons called kind rest =>
    obtain ⟨fresh, distinct'⟩ := List.nodup_cons.mp distinct
    have below : rest.Sets lib env name v s.2 s'.2 ↔ _ := rest.sets_iff distinct'
    rw [forall_slots_cons]
    by_cases here : Text.encode called = name
    · have missing (other : String) (mem : other ∈ rest.names) : Text.encode other ≠ name := by
        intro also
        exact fresh (Text.encode_injective (also.trans here.symm) ▸ mem)
      have others (f : Slot rest.Value) (mem : f ∈ rest.slots) : Text.encode f.name ≠ name :=
        missing f.name (rest.mem_names_of_slot f mem)
      rw [sets_cons_of_eq here]
      constructor
      · rintro ⟨read, kept⟩
        exact ⟨⟨called, List.mem_cons_self, here⟩, ⟨fun _ => read, fun other => absurd here other⟩,
          fun f mem => ⟨fun also => absurd also (others f mem), fun _ => congrArg f.get kept⟩⟩
      · rintro ⟨-, read, kept⟩
        exact ⟨read.1 here, rest.ext _ _ fun f mem => (kept f mem).2 (others f mem)⟩
    · rw [sets_cons_of_ne here]
      constructor
      · rintro ⟨set, kept⟩
        obtain ⟨⟨other, mem, also⟩, each⟩ := below.mp set
        exact ⟨⟨other, List.mem_cons_of_mem _ mem, also⟩,
          ⟨fun here' => absurd here' here, fun _ => kept⟩, each⟩
      · rintro ⟨⟨other, mem, also⟩, kept, each⟩
        obtain rfl | mem := List.mem_cons.mp mem
        · exact absurd also here
        · exact ⟨below.mpr ⟨⟨other, mem, also⟩, each⟩, kept.2 here⟩

variable {fields : Fields} {entries : List (Node × Node)} {old new : fields.Value}

/-- Every field is overlaid as it is decoded from its node. -/
def Fields.Covered (lib : Library) (env : List (Nat × Node)) (fields : Fields)
    (entries : List (Node × Node)) (old new : fields.Value) : Prop :=
  ∀ f ∈ fields.slots,
    Yaml.Overlaid lib (Text.encode f.name) (f.kind.Decodes lib env) entries (f.get old) (f.get new)

theorem covered_of_fills (distinct : fields.names.Nodup) (plain : ∀ e ∈ entries, e.1.isPlain)
    (fills : Fills lib env (fields.Sets lib env) entries old new)
    (apart : NamesApart (Names lib) entries) :
    KeysFit lib fields.names entries ∧ fields.Covered lib env entries old new := by
  induction fills with
  | nil => exact ⟨⟨by simp, .nil⟩, fun f _ => (overlaid_of_unnamed (by simp)).mpr rfl⟩
  | @null k v rest s s' null _ ih =>
    obtain ⟨plainKey, plain⟩ := List.forall_mem_cons.mp plain
    obtain ⟨first, apart⟩ := List.pairwise_cons.mp apart
    rw [Node.resolve_of_plain plainKey] at null
    have nameless (name : Text.Bytes) : ¬ Names lib k name := fun names =>
      Bool.false_ne_true (names.not_isNull.symm.trans null)
    obtain ⟨fit, covered⟩ := ih plain apart
    exact ⟨keysFit_cons_iff.mpr ⟨.inl null, first, fit⟩, fun f mem =>
      (overlaid_cons_of_nameless (nameless _)).mpr (covered f mem)⟩
  | @entry k v name rest s mid s' names set _ ih =>
    obtain ⟨plainKey, plain⟩ := List.forall_mem_cons.mp plain
    obtain ⟨first, apart⟩ := List.pairwise_cons.mp apart
    rw [keyNames_iff_of_plain plainKey] at names
    obtain ⟨⟨called, known, rfl⟩, each⟩ := (fields.sets_iff distinct).mp set
    have unnamed (e : Node × Node) (mem : e ∈ rest) : ¬ Names lib e.1 (Text.encode called) :=
      first e mem _ names
    obtain ⟨fit, covered⟩ := ih plain apart
    refine ⟨keysFit_cons_iff.mpr ⟨.inr ⟨called, known, names⟩, first, fit⟩, fun f mem => ?_⟩
    obtain ⟨read, kept⟩ := each f mem
    have later := covered f mem
    by_cases here : Text.encode f.name = Text.encode called
    · rw [here] at later ⊢
      rw [(overlaid_of_unnamed unnamed).mp later, overlaid_cons_of_names names unnamed]
      exact read here
    · rw [overlaid_cons_of_nameless fun also => here (also.unique names), ← kept here]
      exact later

theorem fills_of_covered (distinct : fields.names.Nodup) (plain : ∀ e ∈ entries, e.1.isPlain)
    (fit : KeysFit lib fields.names entries) (covered : fields.Covered lib env entries old new) :
    Fills lib env (fields.Sets lib env) entries old new := by
  induction entries generalizing old with
  | nil =>
    have same : old = new := fields.ext _ _ fun f mem => ((covered f mem).kept (by simp)).symm
    rw [same]
    exact .nil
  | cons e rest ih =>
    obtain ⟨k, v⟩ := e
    obtain ⟨plainKey, plain⟩ := List.forall_mem_cons.mp plain
    obtain ⟨null | ⟨called, known, names⟩, first, fit⟩ := keysFit_cons_iff.mp fit
    · have nameless (name : Text.Bytes) : ¬ Names lib k name := fun names =>
        Bool.false_ne_true (names.not_isNull.symm.trans null)
      have later : fields.Covered lib env rest old new := fun f mem =>
        (overlaid_cons_of_nameless (nameless _)).mp (covered f mem)
      have null' : lib.isNull (k.resolve env) = true := by
        rw [Node.resolve_of_plain plainKey, null]
      exact .null null' (ih plain fit later)
    · have unnamed (e : Node × Node) (mem : e ∈ rest) : ¬ Names lib e.1 (Text.encode called) :=
        first e mem _ names
      obtain ⟨mid, mixed⟩ := fields.exists_mixed (Text.encode · = Text.encode called) old new
      have set : fields.Sets lib env (Text.encode called) v old mid := by
        refine (fields.sets_iff distinct).mpr ⟨⟨called, known, rfl⟩, fun f mem => ⟨?_, ?_⟩⟩
        · intro here
          have overlaid := covered f mem
          rw [here] at overlaid
          rw [mixed f mem, if_pos here]
          exact (overlaid_cons_of_names names unnamed).mp overlaid
        · intro elsewhere
          rw [mixed f mem, if_neg elsewhere]
      have later : fields.Covered lib env rest mid new := by
        intro f mem
        by_cases here : Text.encode f.name = Text.encode called
        · rw [mixed f mem, if_pos here, here]
          exact (overlaid_of_unnamed unnamed).mpr rfl
        · rw [mixed f mem, if_neg here]
          exact (overlaid_cons_of_nameless fun also => here (also.unique names)).mp (covered f mem)
      exact .entry ((keyNames_iff_of_plain plainKey).mpr names) set (ih plain fit later)

end Records

section Kinds

variable {lib : Library} {env : List (Nat × Node)} {α : Type} {item item' : Reading α} {empty : α}

theorem ReadsList.gives {n : Node} {old new : List α} {P : Prop}
    (reads : ReadsList lib item empty n old new false) : P := by
  cases reads

theorem DecodesTable.gives {n : Node} {old new : List (Text.Bytes × α)} {P : Prop}
    (decodes : DecodesTable lib env item empty n old new false) : P := by
  cases decodes

theorem DecodesRecord.isNull {σ : Type} {sets : Filling σ} {n : Node} {old new : σ}
    (decodes : DecodesRecord lib env sets n old new false) :
    lib.isNull n = true ∧ new = old := by
  cases decodes with
  | null null => exact ⟨null, rfl⟩

/-- Only null gives nothing, and the old value stays. -/
theorem Kind.isNull_of_decodes {k : Kind} {n : Node} {old new : k.Value}
    (decodes : k.Decodes lib env n old new false) :
    lib.isNull (n.resolve env) = true ∧ new = old := by
  cases k with
  | text | int | bool => exact ReadsScalar.isNull decodes
  | list => exact ReadsList.gives decodes
  | table => exact DecodesTable.gives decodes
  | record => exact DecodesRecord.isNull decodes

theorem readsItems_congr {ns : List Node} {as : List α}
    (same : ∀ n ∈ ns, ∀ a gave, item n empty a gave → item' n empty a gave)
    (read : ReadsItems item empty ns as) : ReadsItems item' empty ns as := by
  induction read with
  | nil => exact .nil
  | skip first _ ih =>
    rw [List.forall_mem_cons] at same
    exact .skip (same.1 _ _ first) (ih same.2)
  | cons first _ ih =>
    rw [List.forall_mem_cons] at same
    exact .cons (same.1 _ _ first) (ih same.2)

theorem Overlaid.congr {name : Text.Bytes} {reads reads' : Reading α}
    {entries : List (Node × Node)} {old new : α}
    (same : ∀ e ∈ entries, ∀ gave, reads e.2 old new gave → reads' e.2 old new gave)
    (overlaid : Overlaid lib name reads entries old new) :
    Overlaid lib name reads' entries old new where
  named e mem names := by
    obtain ⟨gave, read⟩ := overlaid.named e mem names
    exact ⟨gave, same e mem gave read⟩
  kept := overlaid.kept

section Tables

variable {entries : List (Node × Node)} {t t' : List (Text.Bytes × α)}
  (still : ∀ n a, item n empty a false → a = empty) (plain : ∀ e ∈ entries, e.1.isPlain)

include still plain

/-- In a table that starts empty a null value replaces whatever its name had. -/
theorem readsEntries_of_fills
    (same : ∀ e ∈ entries, ∀ a gave, item e.2 empty a gave → item' e.2 empty a gave)
    (fills : Fills lib env (PutsEntry item empty true) entries t t') :
    ∃ named, ReadsEntries lib item' empty entries named ∧
      t' = named.foldl (fun t p => assocPut p.1 p.2 t) t := by
  induction fills with
  | nil => exact ⟨[], .nil, rfl⟩
  | @null k v rest s s' null _ ih =>
    obtain ⟨plainKey, plain⟩ := List.forall_mem_cons.mp plain
    rw [Node.resolve_of_plain plainKey] at null
    obtain ⟨named, read, put⟩ := ih plain (List.forall_mem_cons.mp same).2
    refine ⟨named, ?_, put⟩
    rwa [ReadsEntries, List.filter_cons_of_neg (by simp [null])]
  | @entry k v name rest s mid s' names puts _ ih =>
    obtain ⟨plainKey, plain⟩ := List.forall_mem_cons.mp plain
    obtain ⟨here, same⟩ := List.forall_mem_cons.mp same
    rw [keyNames_iff_of_plain plainKey] at names
    obtain ⟨a, gave, value, rfl⟩ : ∃ a gave, item v empty a gave ∧ mid = assocPut name a s := by
      cases puts with
      | value value => exact ⟨_, _, value, rfl⟩
      | null value =>
        cases still _ _ value
        exact ⟨_, _, value, rfl⟩
      | kept _ fresh => cases fresh
    obtain ⟨named, read, put⟩ := ih plain same
    refine ⟨(name, a) :: named, ?_, put⟩
    rw [ReadsEntries, List.filter_cons_of_pos (by simp [names.not_isNull])]
    exact .cons ⟨names, gave, here a gave value⟩ read

theorem fills_of_readsEntries {named : List (Text.Bytes × α)}
    (same : ∀ e ∈ entries, ∀ a gave, item' e.2 empty a gave → item e.2 empty a gave)
    (read : ReadsEntries lib item' empty entries named) :
    Fills lib env (PutsEntry item empty true) entries t
      (named.foldl (fun t p => assocPut p.1 p.2 t) t) := by
  induction entries generalizing named t with
  | nil =>
    cases read
    exact .nil
  | cons e rest ih =>
    obtain ⟨k, v⟩ := e
    obtain ⟨plainKey, plain⟩ := List.forall_mem_cons.mp plain
    obtain ⟨here, same⟩ := List.forall_mem_cons.mp same
    cases null : lib.isNull k with
    | true =>
      rw [ReadsEntries, List.filter_cons_of_neg (by simp [null])] at read
      have null' : lib.isNull (k.resolve env) = true := by
        rw [Node.resolve_of_plain plainKey, null]
      exact .null null' (ih plain same read)
    | false =>
      rw [ReadsEntries, List.filter_cons_of_pos (by simp [null])] at read
      cases read with
      | @cons _ p _ named first later =>
        obtain ⟨names, gave, value⟩ := first
        have decoded := here _ _ value
        have puts : PutsEntry item empty true p.1 v t (assocPut p.1 p.2 t) := by
          cases gave with
          | true => exact .value decoded
          | false =>
            rw [still _ _ decoded]
            exact .null decoded (.inl rfl)
        exact .entry ((keyNames_iff_of_plain plainKey).mpr names) puts (ih plain same later)

end Tables

theorem readsScalar_resolve_iff {take : Scalar → Option α} {n : Node} {old new : α} {gave : Bool}
    (plain : n.isPlain) :
    ReadsScalar lib take (n.resolve env) old new gave ↔ ReadsScalar lib take n old new gave := by
  rw [Node.resolve_of_plain plain]

/-- The readings of plain items agree. -/
def Agree (item item' : Reading α) (empty : α) : Prop :=
  ∀ n : Node, n.isPlain → ∀ a gave, item n empty a gave ↔ item' n empty a gave

theorem readsList_resolve_iff (same : Agree item item' empty) {n : Node} {old new : List α}
    {gave : Bool} (plain : n.isPlain) :
    ReadsList lib item empty (n.resolve env) old new gave ↔
      ReadsList lib item' empty n old new gave := by
  rw [Node.resolve_of_plain plain]
  constructor
  · intro reads
    cases reads with
    | null null => exact .null null
    | @sequence _ _ ns _ _ read =>
      have each : ∀ n ∈ ns, n.isPlain := by simpa [Node.isPlain] using plain
      exact .sequence (readsItems_congr (fun n mem a gave => (same n (each n mem) a gave).mp) read)
  · intro reads
    cases reads with
    | null null => exact .null null
    | @sequence _ _ ns _ _ read =>
      have each : ∀ n ∈ ns, n.isPlain := by simpa [Node.isPlain] using plain
      exact .sequence (readsItems_congr (fun n mem a gave => (same n (each n mem) a gave).mpr) read)

theorem decodesTable_resolve_iff (same : Agree item item' empty)
    (still : ∀ n a, item n empty a false → a = empty) {n : Node} {new : List (Text.Bytes × α)}
    {gave : Bool} (plain : n.isPlain) :
    DecodesTable lib env item empty (n.resolve env) [] new gave ↔
      ReadsTable lib item' empty n [] new gave := by
  rw [Node.resolve_of_plain plain]
  constructor
  · intro decodes
    cases decodes with
    | null null => exact .null null
    | mapping decodes =>
      obtain @⟨line, tag, entries, -⟩ := id decodes
      have parts := Node.entries_isPlain plain
      obtain ⟨differ, fills⟩ :=
        (decodesMapping_iff_of_plain fun e mem => (parts e mem).1).mp decodes
      obtain ⟨named, read, rfl⟩ := readsEntries_of_fills still (fun e mem => (parts e mem).2.1)
        (fun e mem a gave => (same e.2 (parts e mem).2.2 a gave).mp) fills
      exact .mapping differ read
  · intro reads
    cases reads with
    | null null => exact .null null
    | mapping differ read =>
      have parts := Node.entries_isPlain plain
      refine .mapping ((decodesMapping_iff_of_plain fun e mem => (parts e mem).1).mpr ⟨differ, ?_⟩)
      exact fills_of_readsEntries still (fun e mem => (parts e mem).2.1)
        (fun e mem a gave => (same e.2 (parts e mem).2.2 a gave).mpr) read

/-- The readings of the fields of a record agree over its values. -/
def Fields.Agree (lib : Library) (env : List (Nat × Node)) (fields : Fields)
    (old : fields.Value) : Prop :=
  ∀ f ∈ fields.slots, ∀ n : Node, n.isPlain → ∀ a gave,
    f.kind.Decodes lib env n (f.get old) a gave ↔ f.kind.Reads lib n (f.get old) a gave

theorem decodesRecord_resolve_iff {fields : Fields} (distinct : fields.names.Nodup)
    {old new : fields.Value} (same : fields.Agree lib env old) {n : Node} {gave : Bool}
    (plain : n.isPlain) :
    DecodesRecord lib env (fields.Sets lib env) (n.resolve env) old new gave ↔
      ReadsRecord lib fields.names (fields.Overlaid lib) n old new gave := by
  rw [Node.resolve_of_plain plain]
  constructor
  · intro decodes
    cases decodes with
    | null null => exact .null null
    | mapping apart decodes =>
      have parts := Node.entries_isPlain plain
      have keys (e : Node × Node) (mem : e ∈ _) : e.1.isMergeKey = false := (parts e mem).1
      obtain ⟨differ, fills⟩ := (decodesMapping_iff_of_plain keys).mp decodes
      rw [unmerged_of_plain keys, namesApart_iff_of_plain fun e mem => (parts e mem).2.1] at apart
      obtain ⟨fit, covered⟩ :=
        covered_of_fills distinct (fun e mem => (parts e mem).2.1) fills apart
      refine .mapping differ fit (fields.overlaid_iff.mpr fun f slot => ?_)
      exact (covered f slot).congr fun e mem gave => (same f slot e.2 (parts e mem).2.2 _ gave).mp
  · intro reads
    cases reads with
    | null null => exact .null null
    | mapping differ fit overlaid =>
      have parts := Node.entries_isPlain plain
      have keys (e : Node × Node) (mem : e ∈ _) : e.1.isMergeKey = false := (parts e mem).1
      have covered : fields.Covered lib env _ old new := fun f slot =>
        (fields.overlaid_iff.mp overlaid f slot).congr fun e mem gave =>
          (same f slot e.2 (parts e mem).2.2 _ gave).mpr
      have fills := fills_of_covered distinct (fun e mem => (parts e mem).2.1) fit covered
      refine .mapping ?_ ((decodesMapping_iff_of_plain keys).mpr ⟨differ, fills⟩)
      rw [unmerged_of_plain keys]
      exact (namesApart_iff_of_plain fun e mem => (parts e mem).2.1).mpr fit.once

mutual

/-- Decoding a plain node gives what the node stands for. -/
theorem Kind.decodes_iff_reads : (k : Kind) → k.isDistinct = true →
    ∀ {n : Node} {old new : k.Value} {gave : Bool}, n.isPlain = true → k.IsBlank old →
      (k.Decodes lib env n old new gave ↔ k.Reads lib n old new gave)
  | .text, _, _, _, _, _, plain, _ => readsScalar_resolve_iff plain
  | .int, _, _, _, _, _, plain, _ => readsScalar_resolve_iff plain
  | .bool, _, _, _, _, _, plain, _ => readsScalar_resolve_iff plain
  | .list _ item, distinct, _, _, _, _, plain, _ =>
    readsList_resolve_iff
      (fun _ plain _ _ => item.decodes_iff_reads distinct plain item.zero_isBlank) plain
  | .table _ item, distinct, _, _, _, _, plain, blank => by
    cases blank
    exact decodesTable_resolve_iff
      (fun _ plain _ _ => item.decodes_iff_reads distinct plain item.zero_isBlank)
      (fun _ _ decodes => (item.isNull_of_decodes decodes).2) plain
  | .record _ fields, distinct, _, _, _, _, plain, blank => by
    rw [Kind.isDistinct, Bool.and_eq_true, decide_eq_true_eq] at distinct
    refine decodesRecord_resolve_iff distinct.1 (fun f mem n plain a gave => ?_) plain
    exact fields.decodes_iff_reads distinct.2 f mem plain (fields.areBlank_iff.mp blank f mem)

theorem Fields.decodes_iff_reads : (fields : Fields) → fields.areDistinct = true →
    ∀ f ∈ fields.slots, ∀ {n : Node} {old new : f.kind.Value} {gave : Bool}, n.isPlain = true →
      f.kind.IsBlank old →
        (f.kind.Decodes lib env n old new gave ↔ f.kind.Reads lib n old new gave)
  | .nil, _ => by simp [Fields.slots]
  | .cons _ kind rest, distinct => by
    rw [Fields.areDistinct, Bool.and_eq_true] at distinct
    rw [Fields.forall_slots_cons]
    exact ⟨kind.decodes_iff_reads distinct.1, rest.decodes_iff_reads distinct.2⟩

end

end Kinds

end KernelSweep.Yaml

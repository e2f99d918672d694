import KernelSweep.Proofs.Yaml.Soundness

set_option autoImplicit false

namespace KernelSweep.Yaml

/-- No alias has been followed so far, and there is room for a mapping without merges. -/
structure DecodeState.Calm (s : DecodeState) : Prop where
  active : s.active = []
  aliased : s.aliased = 0
  room : 2 ≤ s.size

section Runs

variable {α β : Type}

/-- Without aliases `d` gives `a` and leaves no issue. -/
def Runs (d : Decoder α) (a : α) : Prop :=
  ∀ s, s.Calm → ∃ s', d s = .ok (a, s') ∧ s'.Calm ∧ s'.issues = s.issues

theorem Runs.pure (a : α) : Runs (pure a) a := fun s calm => ⟨s, rfl, calm, rfl⟩

theorem Runs.of_eq {a b : α} (same : a = b) : Runs (Pure.pure a) b := same ▸ .pure a

theorem Runs.bind {d : Decoder α} {next : α → Decoder β} {a : α} {b : β} (first : Runs d a)
    (then' : Runs (next a) b) : Runs (d >>= next) b := by
  intro s calm
  obtain ⟨s₁, run, calm₁, clean₁⟩ := first s calm
  obtain ⟨s₂, run₂, calm₂, clean₂⟩ := then' s₁ calm₁
  exact ⟨s₂, (bind_run run).trans run₂, calm₂, clean₂.trans clean₁⟩

theorem Runs.lift {x : Except Fault α} {a : α} (given : x = .ok a) :
    Runs (liftM x) a := by
  rintro s calm
  rw [given]
  exact ⟨s, rfl, calm, rfl⟩

theorem runs_count : Runs count () := by
  intro s calm
  let s' : DecodeState :=
    { s with
      decoded := s.decoded + 1
      aliased := if s.active.isEmpty then s.aliased else s.aliased + 1 }
  have calm' : s'.Calm := ⟨calm.active, by simp [s', calm.active, calm.aliased], calm.room⟩
  have few : ¬ (100 < s'.aliased ∧ 1000 < s'.decoded ∧ 99 * s'.decoded < 100 * s'.aliased) := by
    rw [calm'.aliased]
    omega
  refine ⟨s', ?_, calm', rfl⟩
  rw [count, bind_run (a := ()) (t := s') rfl, bind_run (a := s') (t := s') rfl, if_neg few]
  rfl

/-- A node that is no alias is worked on itself. -/
theorem Runs.decoding {work : Node → Decoder α} {n : Node} {a : α} (plain : n.isPlain)
    (runs : Runs (work n) a) : Runs (decoding n work) a := by
  refine runs_count.bind ?_
  match n with
  | .scalar .. | .sequence .. | .mapping .. => exact runs
  | .alias .. => simp [Node.isPlain] at plain

theorem exists_runs_filterMapM {f : α → Decoder (Option β)} {as : List α}
    (each : ∀ a ∈ as, ∃ o, Runs (f a) o) : ∃ bs, Runs (as.filterMapM f) bs := by
  induction as with
  | nil => exact ⟨[], .pure []⟩
  | cons a rest ih =>
    obtain ⟨⟨o, first⟩, others⟩ := List.forall_mem_cons.mp each
    obtain ⟨bs, below⟩ := ih others
    rw [List.filterMapM_cons]
    cases o with
    | none => exact ⟨bs, first.bind below⟩
    | some b => exact ⟨b :: bs, first.bind (below.bind (.pure _))⟩

end Runs

section Scalars

theorem readScalar_of_plainLibrary {tag value : String} {s : Scalar}
    (read : plainLibrary.scalar tag value = some s) : readScalar tag value = .ok s := by
  change (readScalar tag value).toOption = some s at read
  cases given : readScalar tag value with
  | error e => rw [given] at read; cases read
  | ok => rw [given] at read; cases read; rfl

theorem runs_scalarShape {α : Type} {take : Scalar → Option α} {n : Node} {old new : α}
    {gave : Bool} (type : String) (reads : ReadsScalar plainLibrary take n old new gave) :
    Runs (scalarShape type take n old) (new, gave) := by
  cases reads with
  | null read null =>
    refine .decoding rfl ((Runs.lift (readScalar_of_plainLibrary read)).bind ?_)
    rw [null, if_pos rfl]
    exact .pure _
  | value read given taken =>
    refine .decoding rfl ((Runs.lift (readScalar_of_plainLibrary read)).bind ?_)
    simp only [given, Bool.false_eq_true, ↓reduceIte, taken]
    exact .pure _

theorem runs_isNull {n : Node} (null : plainLibrary.isNull n = true) : Runs (isNull n) true := by
  obtain ⟨line, tag, value, quoted, s, rfl, read, given⟩ := exists_scalar_of_isNull null
  rw [← given]
  exact (Runs.lift (readScalar_of_plainLibrary read)).bind (.pure _)

theorem runs_key_of_names {k : Node} {name : Text.Bytes} (names : Names plainLibrary k name) :
    Runs (textShape k []) (name, true) :=
  runs_scalarShape "string" names

theorem runs_key_of_null {k : Node} (null : plainLibrary.isNull k = true) :
    Runs (textShape k []) ([], false) := by
  obtain ⟨line, tag, value, quoted, s, rfl, read, given⟩ := exists_scalar_of_isNull null
  exact runs_scalarShape "string" (.null read given)

end Scalars

section Lists

variable {α : Type} {item : Shape α} {reads : Reading α}

/-- A shape decodes what a reading has of nodes without aliases. -/
def Shape.Covers (shape : Shape α) (reads : Reading α) : Prop :=
  ∀ n : Node, n.isPlain → ∀ old new gave, reads n old new gave → Runs (shape n old) (new, gave)

theorem runs_items (covers : item.Covers reads) {empty : α} {ns : List Node} {as : List α}
    (plain : ∀ n ∈ ns, n.isPlain) (read : ReadsItems reads empty ns as) :
    Runs (items item empty ns) as := by
  induction read with
  | nil => exact .pure _
  | skip first _ ih =>
    obtain ⟨here, plain⟩ := List.forall_mem_cons.mp plain
    exact (covers _ here _ _ _ first).bind ((ih plain).bind (.pure _))
  | cons first _ ih =>
    obtain ⟨here, plain⟩ := List.forall_mem_cons.mp plain
    exact (covers _ here _ _ _ first).bind ((ih plain).bind (.pure _))

theorem list_covers (covers : item.Covers reads) (type : String) (empty : α) :
    Shape.Covers (list type item empty) (ReadsList plainLibrary reads empty) := by
  intro n plain old new gave read
  refine .decoding plain ?_
  cases read with
  | sequence read =>
    exact (runs_items covers (by simpa [Node.isPlain] using plain) read).bind (.pure _)
  | null null =>
    obtain ⟨line, tag, value, quoted, s, rfl, -⟩ := exists_scalar_of_isNull null
    exact (runs_isNull null).bind (.pure _)

end Lists

section Mappings

variable {env : List (Nat × Node)} {σ : Type} {entries : List (Node × Node)}

theorem layers_of_plain {line : Nat} {tag : String}
    (plain : ∀ e ∈ entries, e.1.isMergeKey = false) (differ : KeysDiffer entries) (fuel : Nat) :
    layers (fuel + 2) (.mapping line tag entries) = pure [.entries entries] := by
  have own : entries.filter (fun e => !e.1.isMergeKey) = entries := unmerged_of_plain plain
  have unmerging : entries.find? (fun e => e.1.isMergeKey) = none :=
    List.find?_eq_none.mpr fun e mem => by simp [plain e mem]
  simp only [layers, following, repeatedKeys_eq_nil_iff.mpr differ, mergedLayers, unmerging, own,
    pure_bind]

theorem exists_runs_ownNames (plain : ∀ e ∈ entries, e.1.isPlain) :
    ∃ names, Runs (ownNames entries) names := by
  refine exists_runs_filterMapM fun e mem => ?_
  match e, plain e mem with
  | (.scalar _ tag value _, _), _ =>
    simp only [target, pure_bind]
    split
    · exact ⟨_, .pure _⟩
    · exact ⟨_, .pure _⟩
  | (.sequence .., _), _ | (.mapping .., _), _ => exact ⟨none, .pure none⟩
  | (.alias .., _), plain => simp [Node.isPlain] at plain

/-- A step does what filling in its entry does, if need be only for names not met before. -/
def EntryStep.Covers (step : EntryStep σ) (fill : Filling σ) (careful : Prop) : Prop :=
  ∀ name line done v s s', v.isPlain → (careful → name ∉ done) → fill name v s s' →
    Runs (step name line done v s) s'

theorem runs_foldEntries {step : EntryStep σ} {fill : Filling σ} {careful : Prop}
    (covers : step.Covers fill careful) {s s' : σ}
    (plain : ∀ e ∈ entries, e.1.isPlain ∧ e.2.isPlain)
    (fills : Fills plainLibrary env fill entries s s') (done : List Text.Bytes)
    (apart : careful → NamesApart (Names plainLibrary) entries ∧
      ∀ e ∈ entries, ∀ name ∈ done, ¬ Names plainLibrary e.1 name) :
    Runs (foldEntries step false entries [] done s) (s', []) := by
  induction fills generalizing done with
  | nil => exact .pure _
  | @null k v rest s s' null _ ih =>
    obtain ⟨⟨here, -⟩, plain⟩ := List.forall_mem_cons.mp plain
    rw [Node.resolve_of_plain here] at null
    refine (runs_key_of_null null).bind (ih plain done fun care => ?_)
    obtain ⟨apart, fresh⟩ := apart care
    exact ⟨(List.pairwise_cons.mp apart).2, (List.forall_mem_cons.mp fresh).2⟩
  | @entry k v name rest s mid s' names filled _ ih =>
    obtain ⟨⟨here, value⟩, plain⟩ := List.forall_mem_cons.mp plain
    rw [keyNames_iff_of_plain here] at names
    have free (care : careful) : name ∉ done := fun mem =>
      (apart care).2 (k, v) List.mem_cons_self name mem names
    have first : Runs (step name k.line done v s) mid := covers _ _ _ _ _ _ value free filled
    refine (runs_key_of_names names).bind (first.bind (ih plain (name :: done) fun care => ?_))
    obtain ⟨apart, fresh⟩ := apart care
    obtain ⟨others, apart⟩ := List.pairwise_cons.mp apart
    refine ⟨apart, fun e mem name' given => ?_⟩
    obtain rfl | before := List.mem_cons.mp given
    · exact others e mem name' names
    · exact fresh e (List.mem_cons_of_mem _ mem) name' before

theorem runs_foldMapping {own merged : EntryStep σ} {fill fill' : Filling σ} {careful : Prop}
    (covers : own.Covers fill careful) {line : Nat} {tag : String} {old new : σ}
    (plain : (Node.mapping line tag entries).isPlain)
    (decodes : DecodesMapping plainLibrary env fill fill' (.mapping line tag entries) old new)
    (apart : careful → NamesApart (KeyNames plainLibrary env) (unmerged entries)) :
    Runs (foldMapping own merged line tag entries old) (new, true) := by
  have parts := Node.entries_isPlain plain
  have keys (e : Node × Node) (mem : e ∈ entries) : e.1.isMergeKey = false := (parts e mem).1
  obtain ⟨differ, fills⟩ := (decodesMapping_iff_of_plain keys).mp decodes
  rw [unmerged_of_plain keys] at apart
  obtain ⟨names, hides⟩ := exists_runs_ownNames fun e mem => (parts e mem).2.1
  have filled : Runs (foldEntries own false entries [] [] old) (new, []) := by
    refine runs_foldEntries covers (fun e mem => (parts e mem).2) fills [] fun care => ⟨?_, by simp⟩
    exact (namesApart_iff_of_plain fun e mem => (parts e mem).2.1).mp (apart care)
  intro s calm
  obtain ⟨fuel, room⟩ := Nat.exists_eq_add_of_le' calm.room
  have layer : layers s.size (.mapping line tag entries) s = .ok ([.entries entries], s) := by
    rw [room, layers_of_plain keys differ]
    rfl
  rw [foldMapping, bind_run (a := s) (t := s) rfl, bind_run layer]
  exact (filled.bind (hides.bind (Runs.bind (.pure new) (.pure (new, true))))) s calm

end Mappings

section Kinds

variable {env : List (Nat × Node)}

theorem tableStep_covers {α : Type} {item : Shape α} {reads : Reading α}
    (covers : item.Covers reads) (empty : α) (fresh : Bool) :
    EntryStep.Covers (tableStep item empty fresh) (PutsEntry reads empty fresh) False := by
  intro name line done v t t' plain _ puts
  cases puts with
  | value read => exact (covers v plain _ _ _ read).bind (.pure _)
  | null read free =>
    refine (covers v plain _ _ _ read).bind ?_
    have free' : (fresh || (t.lookup name).isNone) = true := by simpa using free
    simp only [Bool.false_eq_true, ↓reduceIte, free']
    exact .pure _
  | kept read stale taken =>
    refine (covers v plain _ _ _ read).bind ?_
    have taken' : (fresh || (t.lookup name).isNone) = false := by simpa [stale] using taken
    simp only [Bool.false_eq_true, ↓reduceIte, taken']
    exact .pure _

theorem table_covers {α : Type} {item : Shape α} {reads : Reading α} (covers : item.Covers reads)
    (type : String) (empty : α) :
    Shape.Covers (table type item empty) (DecodesTable plainLibrary env reads empty) := by
  intro n plain old new gave read
  refine .decoding plain ?_
  cases read with
  | mapping decodes =>
    obtain @⟨line, tag, entries, -⟩ := id decodes
    exact runs_foldMapping (tableStep_covers covers empty _) plain decodes False.elim
  | null null =>
    obtain ⟨line, tag, value, quoted, s, rfl, -⟩ := exists_scalar_of_isNull null
    exact (runs_isNull null).bind (.pure _)

/-- Setting a field runs the first member with its name. -/
def Members.Cover {σ : Type} (members : List (Member σ)) (sets : Filling σ) : Prop :=
  ∀ name (v : Node) s s', v.isPlain → sets name v s s' →
    ∃ f, (members.find? fun f => Text.encode f.name == name) = some f ∧ Runs (f.set v s) s'

theorem record_covers {σ : Type} {members : List (Member σ)} {sets : Filling σ}
    (cover : Members.Cover members sets) (type : String) :
    Shape.Covers (record type members) (DecodesRecord plainLibrary env sets) := by
  have step : EntryStep.Covers (recordStep type members) sets True := by
    intro name line done v s s' plain once set
    obtain ⟨f, found, runs⟩ := cover name v s s' plain set
    have fresh : done.contains name = false := by simpa using once trivial
    simp only [recordStep, found, fresh, Bool.false_eq_true, ↓reduceIte]
    exact runs
  intro n plain old new gave read
  refine .decoding plain ?_
  cases read with
  | mapping apart decodes => exact runs_foldMapping step plain decodes fun _ => apart
  | null null =>
    obtain ⟨line, tag, value, quoted, s, rfl, -⟩ := exists_scalar_of_isNull null
    exact (runs_isNull null).bind (.pure _)

theorem resolve_covers {α : Type} {shape : Shape α} {reads : Reading α}
    (covers : shape.Covers reads) : shape.Covers fun n => reads (n.resolve env) := by
  intro n plain old new gave read
  rw [Node.resolve_of_plain plain] at read
  exact covers n plain old new gave read

mutual

/-- The stand-in decodes all that the rules allow without aliases. -/
theorem Kind.shape_covers : (k : Kind) → Shape.Covers k.shape (k.Decodes plainLibrary env)
  | .text => resolve_covers fun _ _ _ _ _ => runs_scalarShape "string"
  | .int => resolve_covers fun _ _ _ _ _ => runs_scalarShape "int"
  | .bool => resolve_covers fun _ _ _ _ _ => runs_scalarShape "bool"
  | .list type item => resolve_covers (list_covers item.shape_covers type item.zero)
  | .table type item => resolve_covers (table_covers item.shape_covers type item.zero)
  | .record type fields => resolve_covers (record_covers fields.members_cover type)

theorem Fields.members_cover : (fields : Fields) →
    Members.Cover fields.members (fields.Sets plainLibrary env)
  | .nil, _, _, _, _, _, set => nomatch set
  | .cons called kind rest, name, v, s, s', plain, set => by
    by_cases here : Text.encode called = name
    · obtain ⟨⟨gave, decodes⟩, kept⟩ := (Fields.sets_cons_of_eq here).mp set
      refine ⟨_, List.find?_cons_of_pos (beq_iff_eq.mpr here), ?_⟩
      refine (kind.shape_covers v plain _ _ _ decodes).bind (.of_eq ?_)
      cases gave with
      | true => exact Prod.ext rfl kept.symm
      | false => exact Prod.ext (kind.isNull_of_decodes decodes).2.symm kept.symm
    · obtain ⟨set, kept⟩ := (Fields.sets_cons_of_ne here).mp set
      obtain ⟨f, found, runs⟩ := rest.members_cover name v s.2 s'.2 plain set
      have passed :
          ((Fields.cons called kind rest).members.find? fun f => Text.encode f.name == name) =
            (rest.members.map (Member.behind kind.Value)).find? fun f =>
              Text.encode f.name == name :=
        List.find?_cons_of_neg (by simpa [Member.of] using here)
      refine ⟨f.behind kind.Value, passed.trans ?_, runs.bind (.of_eq (Prod.ext kept.symm rfl))⟩
      exact (List.find?_map ..).trans (Option.map_eq_some_iff.mpr ⟨f, found, rfl⟩)

end

theorem size_of_compose {content : Text.Bytes} {c : Composed} (composed : compose content = .ok c) :
    8 ≤ c.size := by
  unfold compose at composed
  split at composed
  · simp only [Bind.bind, Except.bind] at composed
    split at composed
    · cases composed
    · cases composed
      exact Nat.le_add_left ..
  · cases composed

theorem decodeOnto_complete {content : Text.Bytes} {d : Document} {k : Kind} {old new : k.Value}
    {gave : Bool} (given : plainLibrary.document content = .ok (some d)) (plain : d.root.isPlain)
    (decodes : k.Decodes plainLibrary d.anchored d.root old new gave) :
    decodeOnto k content old = (new, .ok ()) := by
  obtain ⟨size, composed⟩ := composed_of_document given
  have room : 8 ≤ size := size_of_compose composed
  obtain ⟨s, run, -, clean⟩ := k.shape_covers d.root plain old new gave decodes
    { anchored := d.anchored, size } ⟨rfl, rfl, by simp only; omega⟩
  have run' : (k.shape d.root old).run { anchored := d.anchored, size } =
      .ok ((new, gave), s) := run
  rw [decodeOnto, composed]
  simp only [run', clean, List.isEmpty_nil, ↓reduceIte]

end Kinds

theorem decodeOnto_of_empty {content : Text.Bytes} (k : Kind) (old : k.Value)
    (given : plainLibrary.document content = .ok none) :
    decodeOnto k content old = (old, .error .empty) := by
  simp only [plainLibrary] at given
  split at given
  · contradiction
  · rename_i c composed
    have here : c.document = none := Except.ok.inj given
    rw [decodeOnto, composed]
    obtain ⟨document, size⟩ := c
    cases here
    rfl

theorem document_of_empty {content : Text.Bytes} {k : Kind} {old : k.Value}
    (failed : (decodeOnto k content old).2 = .error .empty) :
    plainLibrary.document content = .ok none := by
  unfold decodeOnto at failed
  split at failed
  · cases failed
  · rename_i composed
    simp only [plainLibrary, composed]
  · split at failed
    · cases failed
    · dsimp only at failed
      split at failed
      · cases failed
      · cases failed

theorem plainLibrary_strict : plainLibrary.Strict where
  empty := decodeOnto_of_empty
  empty_only := document_of_empty
  sound := decodeOnto_sound
  complete given _ := decodeOnto_complete given

end KernelSweep.Yaml

import KernelSweep.Proofs.Yaml.Agreement
import KernelSweep.Yaml.Decode

set_option autoImplicit false

namespace KernelSweep.Yaml

section Passes

variable (env : List (Nat × Node)) {α β : Type}

/-- Unless `d` fails or leaves an issue, it gives a value with `P`. -/
def Passes (d : Decoder α) (P : α → Prop) : Prop :=
  ∀ s a s', s.anchored = env → d s = .ok (a, s') →
    s'.anchored = env ∧ s.issues <+: s'.issues ∧ (s'.issues = s.issues → P a)

variable {env}

theorem bind_run {d : Decoder α} {next : α → Decoder β} {s t : DecodeState} {a : α}
    (given : d s = .ok (a, t)) : (d >>= next) s = next a t := by
  simp only [Bind.bind, StateT.bind, given, Except.bind]

theorem bind_run_error {d : Decoder α} {next : α → Decoder β} {s : DecodeState} {e : Fault}
    (failed : d s = .error e) : (d >>= next) s = .error e := by
  simp only [Bind.bind, StateT.bind, failed, Except.bind]

theorem Passes.mono {d : Decoder α} {P Q : α → Prop} (passes : Passes env d P)
    (stronger : ∀ a, P a → Q a) : Passes env d Q := by
  intro s a s' known given
  obtain ⟨known', grown, holds⟩ := passes s a s' known given
  exact ⟨known', grown, fun clean => stronger a (holds clean)⟩

theorem Passes.and {d : Decoder α} {P Q : α → Prop} (passes : Passes env d P)
    (passes' : Passes env d Q) : Passes env d fun a => P a ∧ Q a := by
  intro s a s' known given
  obtain ⟨known', grown, holds⟩ := passes s a s' known given
  exact ⟨known', grown, fun clean => ⟨holds clean, (passes' s a s' known given).2.2 clean⟩⟩

theorem Passes.pure {a : α} {P : α → Prop} (holds : P a) : Passes env (pure a) P := by
  rintro s _ _ known ⟨⟩
  exact ⟨known, List.prefix_refl _, fun _ => holds⟩

theorem Passes.fail {e : Fault} {P : α → Prop} : Passes env (throw e) P := by
  rintro s a s' known ⟨⟩

theorem Passes.bind {d : Decoder α} {next : α → Decoder β} {P : α → Prop} {Q : β → Prop}
    (first : Passes env d P) (then' : ∀ a, Passes env (next a) fun b => P a → Q b) :
    Passes env (d >>= next) Q := by
  intro s b s₂ known given
  cases run : d s with
  | error e =>
    rw [bind_run_error run] at given
    contradiction
  | ok r =>
    obtain ⟨a, s₁⟩ := r
    rw [bind_run run] at given
    obtain ⟨known₁, grown₁, holds₁⟩ := first s a s₁ known run
    obtain ⟨known₂, grown₂, holds₂⟩ := then' a s₁ b s₂ known₁ given
    refine ⟨known₂, grown₁.trans grown₂, fun clean => ?_⟩
    have clean₁ : s₁.issues = s.issues :=
      (grown₁.eq_of_length_le (clean ▸ grown₂.length_le)).symm
    exact holds₂ (clean.trans clean₁.symm) (holds₁ clean₁)

theorem Passes.lift (x : Except Fault α) : Passes env (liftM x) fun a => x = .ok a := by
  intro s a s' known given
  cases x with
  | error => contradiction
  | ok =>
    cases given
    exact ⟨known, List.prefix_refl _, fun _ => rfl⟩

theorem passes_reportAll (issues : List Issue) :
    Passes env (reportAll issues) fun _ => issues = [] := by
  rintro s _ _ known ⟨⟩
  exact ⟨known, List.prefix_append _ _, by simp⟩

theorem passes_report (issue : Issue) : Passes env (report issue) fun _ => False :=
  (passes_reportAll [issue]).mono fun _ empty => List.cons_ne_nil _ _ empty

theorem passes_mismatch (n : Node) (type : String) :
    Passes env (mismatch n type) fun _ => False := by
  match n with
  | .scalar .. | .sequence .. => exact passes_report _
  | .mapping line tag entries =>
    simp only [mismatch]
    split
    · exact passes_report _
    · rename_i found
      exact (passes_reportAll _).mono fun _ empty => found empty
  | .alias .. => exact .fail

/-- What refuses a node lets nothing through, whatever comes after it. -/
theorem Passes.refuse {n : Node} {type : String} {a : α} {P : α → Prop} :
    Passes env (do mismatch n type; return a) P :=
  (passes_mismatch n type).bind fun _ => .pure False.elim

theorem passes_modify {f : DecodeState → DecodeState} (keeps : ∀ s, (f s).anchored = s.anchored)
    (keeps' : ∀ s, (f s).issues = s.issues) : Passes env (modify f) fun _ => True := by
  rintro s _ _ known ⟨⟩
  have grown : s.issues <+: (f s).issues := (keeps' s).symm ▸ List.prefix_refl _
  exact ⟨(keeps s).trans known, grown, fun _ => trivial⟩

theorem passes_active (f : List Nat → List Nat) :
    Passes env (modify fun s => { s with active := f s.active }) fun _ => True :=
  passes_modify (fun _ => rfl) fun _ => rfl

theorem passes_get : Passes env get fun s => s.anchored = env := by
  rintro s _ _ known ⟨⟩
  exact ⟨known, List.prefix_refl _, fun _ => known⟩

theorem passes_count : Passes env count fun _ => True := by
  refine Passes.bind (passes_modify ?_ ?_) fun _ => passes_get.bind fun s => ?_
  · exact fun _ => rfl
  · exact fun _ => rfl
  · split
    · exact .fail
    · exact .pure fun _ _ => trivial

theorem passes_target (n : Node) : Passes env (target n) fun m => m = n.resolve env := by
  match n with
  | .alias line name number target =>
    refine passes_get.bind fun s => ?_
    cases found : s.anchored.lookup target with
    | none => exact .fail
    | some m => exact .pure fun known => by simp [Node.resolve, ← known, found]
  | .scalar .. | .sequence .. | .mapping .. => exact .pure rfl

theorem Passes.following {work : Node → Decoder α} {P : Node → α → Prop}
    (each : ∀ m, Passes env (work m) (P m)) (n : Node) :
    Passes env (following n work) (P (n.resolve env)) := by
  match n with
  | .alias line name number target =>
    refine passes_get.bind fun s => ?_
    have followed : Passes env (do
        modify fun s => { s with active := number :: s.active }
        let a ← work (← Yaml.target (.alias line name number target))
        modify fun s => { s with active := s.active.tail }
        return a) (P ((Node.alias line name number target).resolve env)) := by
      refine (passes_active _).bind fun _ => (passes_target _).bind fun m =>
        (each m).bind fun a => (passes_active List.tail).bind fun _ => .pure ?_
      rintro - holds rfl -
      exact holds
    split
    · exact Passes.bind (P := fun _ => True) .fail fun _ => followed.mono fun _ holds _ _ => holds
    · exact followed.mono fun _ holds _ => holds
  | .scalar .. | .sequence .. | .mapping .. => exact each _

theorem Passes.decoding {work : Node → Decoder α} {P : Node → α → Prop}
    (each : ∀ m, Passes env (work m) (P m)) (n : Node) :
    Passes env (decoding n work) (P (n.resolve env)) := by
  refine passes_count.bind fun _ => ?_
  match n with
  | .alias line name number target =>
    apply (Passes.following (P := P) (fun m => ?_) _).mono fun _ holds _ => holds
    exact passes_count.bind fun _ => (each m).mono fun _ holds _ => holds
  | .scalar .. | .sequence .. | .mapping .. => exact (each _).mono fun _ holds _ => holds

theorem passes_mapM {f : α → Decoder β} {P : α → β → Prop}
    (each : ∀ a, Passes env (f a) (P a)) (l : List α) :
    Passes env (l.mapM f) fun bs => List.Forall₂ P l bs := by
  induction l with
  | nil => exact .pure .nil
  | cons a rest ih =>
    rw [List.mapM_cons]
    exact (each a).bind fun b => ih.bind fun bs => .pure fun others first => .cons first others

theorem passes_filterMapM {f : α → Decoder (Option β)} {P : α → β → Prop}
    (one : ∀ a, Passes env (f a) fun o => ∀ b, o = some b → P a b) (as : List α) :
    Passes env (as.filterMapM f) fun bs => ∀ b ∈ bs, ∃ a ∈ as, P a b := by
  induction as with
  | nil => exact .pure (by simp)
  | cons a rest ih =>
    rw [List.filterMapM_cons]
    refine (one a).bind fun o => ?_
    simp only [List.mem_cons, exists_eq_or_imp]
    cases o with
    | none => exact ih.mono fun bs others _ b mem => .inr (others b mem)
    | some first =>
      refine ih.bind fun bs => .pure fun others named b mem => ?_
      obtain rfl | mem := List.mem_cons.mp mem
      · exact .inl (named b rfl)
      · exact .inr (others b mem)

end Passes

section Scalars

variable {env : List (Nat × Node)}

theorem plainLibrary_scalar {tag value : String} {s : Scalar}
    (read : readScalar tag value = .ok s) : plainLibrary.scalar tag value = some s := by
  show (readScalar tag value).toOption = some s
  rw [read]
  rfl

theorem passes_scalarShape {α : Type} (type : String) (take : Scalar → Option α) (n : Node)
    (old : α) : Passes env (scalarShape type take n old) fun r =>
      ReadsScalar plainLibrary take (n.resolve env) old r.1 r.2 := by
  refine Passes.decoding
    (P := fun m (r : α × Bool) => ReadsScalar plainLibrary take m old r.1 r.2) (fun m => ?_) n
  match m with
  | .scalar line tag value quoted =>
    refine (Passes.lift _).bind fun s => ?_
    cases null : s.null with
    | true => exact .pure fun read => .null (plainLibrary_scalar read) null
    | false =>
      simp only [Bool.false_eq_true, ↓reduceIte]
      cases taken : take s with
      | some new => exact .pure fun read => .value (plainLibrary_scalar read) null taken
      | none => exact .refuse
  | .sequence .. | .mapping .. | .alias .. => exact .refuse

theorem passes_isNull (n : Node) : Passes env (isNull n) fun b => b = plainLibrary.isNull n := by
  match n with
  | .scalar line tag value quoted =>
    refine (Passes.lift _).bind fun s => .pure fun read => ?_
    simp [Library.isNull, plainLibrary_scalar read]
  | .sequence .. | .mapping .. | .alias .. => exact .pure rfl

/-- Null passes, and any other node that comes here is refused. -/
theorem passes_null_or_refuse {β : Type} (n : Node) (type : String) (a b : β) :
    Passes env
      (do
        if ← isNull n then return a
        mismatch n type
        return b)
      fun r => plainLibrary.isNull n = true ∧ r = a := by
  refine (passes_isNull n).bind fun null => ?_
  cases null with
  | true => exact .pure fun same => ⟨same.symm, rfl⟩
  | false => exact .refuse

end Scalars

section Lists

variable {env : List (Nat × Node)} {α : Type} {item : Shape α} {reads : Reading α}

/-- A shape gives what a reading tells. -/
def Shape.Follows (env : List (Nat × Node)) (shape : Shape α) (reads : Reading α) : Prop :=
  ∀ n old, Passes env (shape n old) fun r => reads n old r.1 r.2

theorem passes_items (follows : item.Follows env reads) (empty : α) (ns : List Node) :
    Passes env (items item empty ns) fun as => ReadsItems reads empty ns as := by
  induction ns with
  | nil => exact .pure .nil
  | cons n rest ih =>
    refine (follows n empty).bind fun (a, gave) => ih.bind fun more => .pure fun others read => ?_
    cases gave with
    | true => exact .cons read others
    | false => exact .skip read others

theorem list_follows (follows : item.Follows env reads) (type : String) (empty : α) :
    Shape.Follows env (list type item empty)
      fun n => ReadsList plainLibrary reads empty (n.resolve env) := by
  intro n old
  refine Passes.decoding
    (P := fun m (r : List α × Bool) => ReadsList plainLibrary reads empty m old r.1 r.2)
    (fun m => ?_) n
  match m with
  | .sequence line tag ns =>
    exact (passes_items follows empty ns).bind fun as => .pure .sequence
  | .scalar .. | .mapping .. | .alias .. =>
    refine (passes_null_or_refuse _ type _ _).mono ?_
    rintro _ ⟨null, rfl⟩
    exact .null null

end Lists

section Layers

variable {env : List (Nat × Node)}

theorem repeatedKeys_eq_nil_iff {entries : List (Node × Node)} :
    repeatedKeys entries = [] ↔ KeysDiffer entries := by
  induction entries with
  | nil => simp [repeatedKeys, KeysDiffer]
  | cons e rest ih =>
    simp only [KeysDiffer] at ih
    simp only [repeatedKeys, KeysDiffer, List.append_eq_nil_iff, List.filterMap_eq_nil_iff, ih,
      List.map_cons, List.nodup_cons]
    simp

/-- The entries of layers one behind the other, if none is broken. -/
def Layer.whole : List Layer → Option (List (Node × Node))
  | [] => some []
  | .entries es :: rest => (whole rest).map (es ++ ·)
  | .broken _ :: _ => none

theorem Layer.whole_append_eq_some {ls ls' : List Layer} {found : List (Node × Node)}
    (whole : Layer.whole (ls ++ ls') = some found) :
    ∃ first later, Layer.whole ls = some first ∧ Layer.whole ls' = some later ∧
      found = first ++ later := by
  induction ls generalizing found with
  | nil => exact ⟨[], found, rfl, whole, rfl⟩
  | cons layer rest ih =>
    cases layer with
    | broken => cases whole
    | entries es =>
      obtain ⟨more, below, rfl⟩ := Option.map_eq_some_iff.mp whole
      obtain ⟨first, later, here, there, rfl⟩ := ih below
      exact ⟨es ++ first, later, by rw [Layer.whole, here]; rfl, there, by rw [List.append_assoc]⟩

/-- What opening a mapping gives: its own layer first, unless something is broken. -/
structure Opened (env : List (Nat × Node)) (n : Node) (ls : List Layer) : Prop where
  mapping : ∃ line tag entries, n.resolve env = .mapping line tag entries
  faulty : ∀ issues, .broken issues ∈ ls → issues ≠ []
  opens : ∀ found, Layer.whole ls = some found → ∃ first rest later,
    ls = .entries first :: rest ∧ Layer.whole rest = some later ∧ found = first ++ later ∧
      Opens env n first later

/-- What is merged into a mapping with these entries. -/
structure OpenedBelow (env : List (Nat × Node)) (entries : List (Node × Node)) (ls : List Layer) :
    Prop where
  faulty : ∀ issues, .broken issues ∈ ls → issues ≠ []
  opens : ∀ found, Layer.whole ls = some found →
    ((∀ e ∈ entries, e.1.isMergeKey = false) ∧ found = []) ∨
      ∃ e ∈ entries, e.1.isMergeKey = true ∧
        ∃ first later, Opens env e.2 first later ∧ found = first ++ later

theorem opens_of_items {line : Nat} {tag : String} {ns : List Node} {lss : List (List Layer)}
    (each : List.Forall₂ (Opened env) ns lss) :
    (∀ issues, .broken issues ∈ lss.flatten → issues ≠ []) ∧
      ∀ found, Layer.whole lss.flatten = some found →
        Opens env (.sequence line tag ns) [] found := by
  induction each with
  | nil =>
    refine ⟨by simp, fun found whole => ?_⟩
    cases whole
    exact .nil
  | cons first _ ih =>
    obtain ⟨faulty, opens⟩ := ih
    refine ⟨fun issues mem => ?_, fun found whole => ?_⟩
    · obtain here | there := List.mem_append.mp mem
      · exact first.faulty issues here
      · exact faulty issues there
    · obtain ⟨here, more, ofFirst, ofRest, rfl⟩ := Layer.whole_append_eq_some whole
      obtain ⟨own, _, later, -, -, rfl, opened⟩ := first.opens here ofFirst
      exact .cons first.mapping opened (opens more ofRest)

theorem opened_of_mapping {n : Node} {line : Nat} {tag : String} {entries : List (Node × Node)}
    {ls : List Layer} (here : n.resolve env = .mapping line tag entries)
    (differ : KeysDiffer entries) (below : OpenedBelow env entries ls) :
    Opened env n (.entries (unmerged entries) :: ls) where
  mapping := ⟨line, tag, entries, here⟩
  faulty issues mem := below.faulty issues (by simpa using mem)
  opens found whole := by
    obtain ⟨later, ofRest, rfl⟩ := Option.map_eq_some_iff.mp whole
    refine ⟨_, ls, later, rfl, ofRest, rfl, ?_⟩
    obtain ⟨plain, rfl⟩ | ⟨e, mem, merge, first, more, opens, rfl⟩ := below.opens later ofRest
    · exact .mapping here differ plain
    · exact .merging here differ mem merge opens

theorem passes_layers (fuel : Nat) :
    (∀ n, Passes env (layers fuel n) (Opened env n)) ∧
      ∀ entries, Passes env (mergedLayers fuel entries) (OpenedBelow env entries) := by
  induction fuel with
  | zero => exact ⟨fun n => .fail, fun entries => .fail⟩
  | succ fuel ih =>
    obtain ⟨layersBelow, mergedBelow⟩ := ih
    constructor
    · intro n
      rw [layers]
      refine (Passes.following (P := fun m ls => ∀ n, n.resolve env = m → Opened env n ls)
        (fun m => ?_) n).mono fun ls opened => opened n rfl
      cases m with
      | mapping line tag entries =>
        dsimp only
        split
        · rename_i once
          refine (mergedBelow entries).bind fun merged => .pure fun below n here => ?_
          exact opened_of_mapping here (repeatedKeys_eq_nil_iff.mp once) below
        · rename_i found
          refine .pure fun n here => ⟨⟨line, tag, entries, here⟩, ?_, nofun⟩
          intro issues mem
          cases List.mem_singleton.mp mem
          exact found
      | _ => exact .fail
    · intro entries
      rw [mergedLayers]
      cases found : entries.find? fun e => e.1.isMergeKey with
      | none =>
        refine .pure ⟨by simp, fun found' whole => .inl ⟨fun e mem => ?_, ?_⟩⟩
        · exact Bool.eq_false_iff.mpr (List.find?_eq_none.mp found e mem)
        · cases whole
          rfl
      | some e =>
        obtain ⟨k, v⟩ := e
        have mem := List.mem_of_find?_eq_some found
        have merge : (k, v).1.isMergeKey = true :=
          List.find?_some (p := fun e : Node × Node => e.1.isMergeKey) found
        split
        · contradiction
        · rename_i same
          cases same
          refine (passes_mapM layersBelow _).bind fun lss => .pure fun each => ?_
          obtain ⟨faulty, opens⟩ := opens_of_items each
          exact ⟨faulty, fun found' whole =>
            .inr ⟨_, mem, merge, [], found', opens found' whole, rfl⟩⟩
        · rename_i same
          cases same
          refine (layersBelow v).mono fun ls opened => ⟨opened.faulty, fun found' whole => ?_⟩
          obtain ⟨first, _, later, -, -, rfl, opens⟩ := opened.opens found' whole
          exact .inr ⟨_, mem, merge, first, later, opens, rfl⟩

end Layers

section Entries

variable {env : List (Nat × Node)} {σ : Type} {step : EntryStep σ} {fill : Filling σ}

/-- A step does to a value what filling in its entry does. -/
def EntryStep.Follows (env : List (Nat × Node)) (step : EntryStep σ) (fill : Filling σ) : Prop :=
  ∀ name line done v s, Passes env (step name line done v s) fun s' => fill name v s s'

/-- A key that is a text, or null. -/
theorem passes_key (k : Node) :
    Passes env (textShape k []) fun r =>
      if r.2 then KeyNames plainLibrary env k r.1
      else plainLibrary.isNull (k.resolve env) = true := by
  refine (passes_scalarShape "string" Scalar.text k []).mono fun (name, gave) read => ?_
  cases gave with
  | true => exact read
  | false => exact (ReadsScalar.isNull read).1

theorem passes_foldEntries_own (follows : step.Follows env fill) (es : List (Node × Node))
    (hidden done : List Text.Bytes) (s : σ) :
    Passes env (foldEntries step false es hidden done s) fun r =>
      Fills plainLibrary env fill es s r.1 := by
  induction es generalizing done s with
  | nil => exact .pure .nil
  | cons e rest ih =>
    obtain ⟨k, v⟩ := e
    refine (passes_key k).bind fun (name, gave) => ?_
    cases gave with
    | false => exact (ih done s).mono fun r others null => .null null others
    | true =>
      refine (follows name k.line done v s).bind fun s' => ?_
      exact (ih (name :: done) s').mono fun r others filled names => .entry names filled others

/-- A step that lets no name through a second time. -/
def EntryStep.Once (env : List (Nat × Node)) (step : EntryStep σ) : Prop :=
  ∀ name line done v s, Passes env (step name line done v s) fun _ => name ∉ done

theorem passes_foldEntries_once (once : step.Once env) (es : List (Node × Node))
    (hidden done : List Text.Bytes) (s : σ) :
    Passes env (foldEntries step false es hidden done s) fun _ =>
      NamesApart (KeyNames plainLibrary env) es ∧
        ∀ e ∈ es, ∀ name ∈ done, ¬ KeyNames plainLibrary env e.1 name := by
  induction es generalizing done s with
  | nil => exact .pure ⟨.nil, by simp⟩
  | cons e rest ih =>
    obtain ⟨k, v⟩ := e
    refine (passes_key k).bind fun (name, gave) => ?_
    cases gave with
    | false =>
      refine (ih done s).mono fun r ⟨apart, fresh⟩ null => ?_
      have nameless (name' : Text.Bytes) : ¬ KeyNames plainLibrary env k name' := fun names =>
        Bool.false_ne_true ((Names.not_isNull names).symm.trans null)
      exact ⟨.cons (fun _ _ name' names => absurd names (nameless name')) apart,
        List.forall_mem_cons.mpr ⟨fun name' _ => nameless name', fresh⟩⟩
    | true =>
      refine (once name k.line done v s).bind fun s' => ?_
      refine (ih (name :: done) s').mono fun r ⟨apart, fresh⟩ notBefore names => ?_
      refine ⟨.cons (fun e later name' names' => ?_) apart, List.forall_mem_cons.mpr
        ⟨fun name' before names' => ?_, fun e later name' before =>
          fresh e later name' (List.mem_cons_of_mem _ before)⟩⟩
      · rw [← Names.unique names names']
        exact fresh e later name List.mem_cons_self
      · rw [← Names.unique names names'] at before
        exact notBefore before

theorem passes_foldEntries_merged (follows : step.Follows env fill) (es : List (Node × Node))
    (hidden done : List Text.Bytes) (s : σ) :
    Passes env (foldEntries step true es hidden done s) fun r =>
      ∀ later s', Merges plainLibrary env fill later r.2 r.1 s' →
        Merges plainLibrary env fill (es ++ later) hidden s s' := by
  induction es generalizing hidden done s with
  | nil => exact .pure fun _ _ merges => merges
  | cons e rest ih =>
    obtain ⟨k, v⟩ := e
    refine (passes_key k).bind fun (name, gave) => ?_
    cases gave with
    | false =>
      exact (ih hidden done s).mono fun r others null later s' merges =>
        .null null (others later s' merges)
    | true =>
      simp only [Bool.not_true, Bool.false_eq_true, ↓reduceIte, Bool.true_and]
      split
      · rename_i before
        exact (ih hidden done s).mono fun r others names later s' merges =>
          .hidden names (by simpa using before) (others later s' merges)
      · rename_i fresh
        refine (follows name k.line done v s).bind fun s₁ => ?_
        exact (ih (name :: hidden) (name :: done) s₁).mono
          fun r others filled names later s' merges =>
            .entry names (by simpa using fresh) filled (others later s' merges)

theorem passes_foldMerged (follows : step.Follows env fill) (ls : List Layer)
    (hidden : List Text.Bytes) (s : σ) :
    Passes env (foldMerged step ls hidden s) fun s' =>
      (∀ issues, .broken issues ∈ ls → issues ≠ []) →
        ∃ found, Layer.whole ls = some found ∧
          Merges plainLibrary env fill found hidden s s' := by
  induction ls generalizing hidden s with
  | nil => exact .pure fun _ => ⟨[], rfl, .nil⟩
  | cons layer rest ih =>
    cases layer with
    | broken issues =>
      refine (passes_reportAll issues).bind fun _ => (ih hidden s).mono fun _ _ empty faulty => ?_
      exact absurd empty (faulty issues List.mem_cons_self)
    | entries es =>
      refine (passes_foldEntries_merged follows es hidden [] s).bind fun (s₁, hidden') => ?_
      refine (ih hidden' s₁).mono fun s' others first faulty => ?_
      obtain ⟨found, whole, merges⟩ :=
        others fun issues mem => faulty issues (List.mem_cons_of_mem _ mem)
      exact ⟨es ++ found, by rw [Layer.whole, whole]; rfl, first found s' merges⟩

theorem passes_ownNames (es : List (Node × Node)) :
    Passes env (ownNames es) fun names =>
      ∀ name ∈ names, ∃ e ∈ es, KeyNames plainLibrary env e.1 name := by
  refine passes_filterMapM (fun e => (passes_target e.1).bind fun m => ?_) es
  split
  · split
    · rename_i line tag value quoted _ t text means
      refine .pure fun here name same => ?_
      cases same
      rw [KeyNames, ← here]
      have read : readScalar tag value =
          .ok ⟨false, some text, intOf (.text text), boolOf (.text text)⟩ := by
        rw [readScalar, means]
        rfl
      exact .value (plainLibrary_scalar read) rfl rfl
    · exact .pure fun _ name impossible => by cases impossible
  · exact .pure fun _ name impossible => by cases impossible

/-- A mapping is decoded as its steps do, and has no name of its own twice if they see to that. -/
theorem passes_foldMapping {own merged : EntryStep σ} {fill fill' : Filling σ}
    (follows : own.Follows env fill) (follows' : merged.Follows env fill') {careful : Prop}
    (once : careful → own.Once env) (line : Nat) (tag : String) (entries : List (Node × Node))
    (s : σ) :
    Passes env (foldMapping own merged line tag entries s) fun r =>
      DecodesMapping plainLibrary env fill fill' (.mapping line tag entries) s r.1 ∧ r.2 = true ∧
        (careful → NamesApart (KeyNames plainLibrary env) (unmerged entries)) := by
  refine passes_get.bind fun state => ((passes_layers state.size).1 _).bind fun ls => ?_
  split
  · rename_i es more
    have apart : Passes env (foldEntries own false es [] [] s) fun _ =>
        careful → NamesApart (KeyNames plainLibrary env) es := by
      by_cases care : careful
      · exact (passes_foldEntries_once (once care) es [] [] s).mono fun _ found _ => found.1
      · exact (passes_foldEntries_own follows es [] [] s).mono fun _ _ given => absurd given care
    refine ((passes_foldEntries_own follows es [] [] s).and apart).bind fun (mid, hidden) => ?_
    refine (passes_ownNames entries).bind fun names =>
      (passes_foldMerged follows' more names mid).bind fun new => .pure ?_
    rintro merges hides ⟨fills, apart⟩ opened -
    obtain ⟨later, whole, merges⟩ := merges fun issues mem =>
      opened.faulty issues (List.mem_cons_of_mem _ mem)
    have found : Layer.whole (.entries es :: more) = some (es ++ later) := by
      rw [Layer.whole, whole]
      rfl
    obtain ⟨_, _, later', same, whole', -, opens⟩ := opened.opens _ found
    cases same
    cases whole.symm.trans whole'
    rw [unmerged_of_opens opens] at apart
    exact ⟨.entries opens fills hides merges, rfl, apart⟩
  · rename_i issues rest
    refine (passes_reportAll issues).bind fun _ => .pure fun empty opened => ?_
    exact absurd empty (opened.faulty issues List.mem_cons_self)
  · refine .pure fun opened => ?_
    obtain ⟨_, _, _, same, -⟩ := opened.opens [] rfl
    cases same

end Entries

section Kinds

variable {env : List (Nat × Node)}

theorem tableStep_follows {α : Type} {item : Shape α} {reads : Reading α}
    (follows : item.Follows env reads) (empty : α) (fresh : Bool) :
    EntryStep.Follows env (tableStep item empty fresh) (PutsEntry reads empty fresh) := by
  intro name line done v t
  refine (follows v empty).bind fun (a, gave) => ?_
  cases gave with
  | true => exact .pure .value
  | false =>
    simp only [Bool.false_eq_true, ↓reduceIte]
    split
    · rename_i free
      rw [Bool.or_eq_true, Option.isNone_iff_eq_none] at free
      exact .pure fun read => .null read free
    · rename_i taken
      simp only [Bool.or_eq_true, Option.isNone_iff_eq_none, not_or] at taken
      exact .pure fun read => .kept read (Bool.eq_false_iff.mpr taken.1) taken.2

theorem table_follows {α : Type} {item : Shape α} {reads : Reading α}
    (follows : item.Follows env reads) (type : String) (empty : α) :
    Shape.Follows env (table type item empty)
      fun n => DecodesTable plainLibrary env reads empty (n.resolve env) := by
  intro n old
  refine Passes.decoding (P := fun m (r : List (Text.Bytes × α) × Bool) =>
    DecodesTable plainLibrary env reads empty m old r.1 r.2) (fun m => ?_) n
  match m with
  | .mapping line tag entries =>
    refine (passes_foldMapping (tableStep_follows follows empty _)
      (tableStep_follows follows empty _) (fun never : False => never.elim) line tag entries
      old).mono ?_
    rintro ⟨new, _⟩ ⟨decodes, rfl, -⟩
    exact .mapping decodes
  | .scalar .. | .sequence .. | .alias .. =>
    refine (passes_null_or_refuse _ type _ _).mono ?_
    rintro _ ⟨null, rfl⟩
    exact .null null

/-- The first member with a name sets the field of that name. -/
def Members.Follow {σ : Type} (env : List (Nat × Node)) (members : List (Member σ))
    (sets : Filling σ) : Prop :=
  ∀ name f, (members.find? fun f => Text.encode f.name == name) = some f → ∀ v s,
    Passes env (f.set v s) fun s' => sets name v s s'

theorem record_follows {σ : Type} {members : List (Member σ)} {sets : Filling σ}
    (follow : Members.Follow env members sets) (type : String) :
    Shape.Follows env (record type members)
      fun n => DecodesRecord plainLibrary env sets (n.resolve env) := by
  have step : ∀ name line done v s, Passes env (recordStep type members name line done v s)
      fun s' => sets name v s s' ∧ name ∉ done := by
    intro name line done v s
    unfold recordStep
    split
    · exact (passes_report _).bind fun _ => .pure False.elim
    · rename_i f found
      split
      · exact (passes_report _).bind fun _ => .pure False.elim
      · rename_i fresh
        exact (follow name f found v s).mono fun s' set => ⟨set, by simpa using fresh⟩
  have follows : EntryStep.Follows env (recordStep type members) sets :=
    fun name line done v s => (step name line done v s).mono fun _ given => given.1
  have once : EntryStep.Once env (recordStep type members) :=
    fun name line done v s => (step name line done v s).mono fun _ given => given.2
  intro n old
  refine Passes.decoding (P := fun m (r : σ × Bool) =>
    DecodesRecord plainLibrary env sets m old r.1 r.2) (fun m => ?_) n
  match m with
  | .mapping line tag entries =>
    refine (passes_foldMapping follows follows (fun _ : True => once) line tag entries old).mono ?_
    rintro ⟨new, _⟩ ⟨decodes, rfl, apart⟩
    exact .mapping (apart trivial) decodes
  | .scalar .. | .sequence .. | .alias .. =>
    refine (passes_null_or_refuse _ type _ _).mono ?_
    rintro _ ⟨null, rfl⟩
    exact .null null

/-- A field with a name is the first one, or another one behind it. -/
theorem Fields.member_cons {called : String} {kind : Kind} {rest : Fields} {name : Text.Bytes}
    {f : Member (Fields.cons called kind rest).Value}
    (found : ((Fields.cons called kind rest).members.find? fun f => Text.encode f.name == name) =
      some f) :
    (Text.encode called = name ∧ f = .of called kind.shape Prod.fst (fun a s => (a, s.2))) ∨
      (Text.encode called ≠ name ∧
        ∃ g, (rest.members.find? fun f => Text.encode f.name == name) = some g ∧
          f = g.behind kind.Value) := by
  rw [Fields.members, List.find?_cons] at found
  split at found
  · rename_i here
    cases found
    exact .inl ⟨beq_iff_eq.mp here, rfl⟩
  · rename_i elsewhere
    obtain ⟨g, given, same⟩ := Option.map_eq_some_iff.mp ((List.find?_map ..).symm.trans found)
    exact .inr ⟨fun here => by simp [Member.of, here] at elsewhere, g, given, same.symm⟩

theorem composed_of_document {content : Text.Bytes} {d : Document}
    (given : plainLibrary.document content = .ok (some d)) :
    ∃ size, compose content = .ok ⟨some d, size⟩ := by
  simp only [plainLibrary] at given
  split at given
  · contradiction
  · rename_i c composed
    have here : c.document = some d := Except.ok.inj given
    exact ⟨c.size, here ▸ composed⟩

mutual

/-- What the stand-in lets through it has decoded by the rules. -/
theorem Kind.shape_follows : (k : Kind) →
    Shape.Follows env k.shape (k.Decodes plainLibrary env)
  | .text => passes_scalarShape "string" Scalar.text
  | .int => passes_scalarShape "int" Scalar.int
  | .bool => passes_scalarShape "bool" Scalar.bool
  | .list type item => list_follows item.shape_follows type item.zero
  | .table type item => table_follows item.shape_follows type item.zero
  | .record type fields => record_follows fields.members_follow type

theorem Fields.members_follow : (fields : Fields) →
    Members.Follow env fields.members (fields.Sets plainLibrary env)
  | .nil, _, _, found, _, _ => nomatch found
  | .cons called kind rest, name, f, found, v, s => by
    obtain ⟨here, rfl⟩ | ⟨elsewhere, g, given, rfl⟩ := Fields.member_cons found
    · refine (kind.shape_follows v s.1).bind fun (a, gave) => .pure fun decodes => ?_
      refine (Fields.sets_cons_of_eq here).mpr ?_
      cases gave with
      | true => exact ⟨⟨true, decodes⟩, rfl⟩
      | false =>
        have kept : kind.Decodes plainLibrary env v s.1 s.1 false :=
          (kind.isNull_of_decodes decodes).2 ▸ decodes
        exact ⟨⟨false, kept⟩, rfl⟩
    · refine (rest.members_follow name g given v s.2).bind fun s' => .pure fun sets => ?_
      exact (Fields.sets_cons_of_ne elsewhere).mpr ⟨sets, rfl⟩

end

theorem decodeOnto_sound {content : Text.Bytes} {d : Document} {k : Kind} {old new : k.Value}
    (given : plainLibrary.document content = .ok (some d))
    (decoded : decodeOnto k content old = (new, .ok ())) :
    ∃ gave, k.Decodes plainLibrary d.anchored d.root old new gave := by
  obtain ⟨size, composed⟩ := composed_of_document given
  rw [decodeOnto, composed] at decoded
  dsimp only at decoded
  split at decoded
  · cases decoded
  · rename_i a gave s run
    obtain ⟨-, -, follows⟩ := k.shape_follows d.root old _ _ _ rfl run
    split at decoded
    · rename_i clean
      cases decoded
      exact ⟨gave, follows (List.isEmpty_iff.mp clean)⟩
    · cases decoded

end Kinds

end KernelSweep.Yaml

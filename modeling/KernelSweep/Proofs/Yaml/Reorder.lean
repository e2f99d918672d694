import KernelSweep.Proofs.Yaml.Overlay
import Mathlib.Data.List.Pairwise
import Mathlib.Data.List.Perm.Basic

set_option autoImplicit false

namespace KernelSweep.Yaml

/-- The same node up to the order of keys, at every depth, and to where and how it is written. Keys
that denote one name keep their order. -/
inductive Node.Reorders (lib : Library) : Node → Node → Prop
  | scalar {line line' : Nat} {tag value : String} {quoted quoted' : Bool} :
    Reorders lib (.scalar line tag value quoted) (.scalar line' tag value quoted')
  | sequence {line line' : Nat} {tag tag' : String} {ns ns' : List Node} :
    List.Forall₂ (Reorders lib) ns ns' →
      Reorders lib (.sequence line tag ns) (.sequence line' tag' ns')
  | mapping {line line' : Nat} {tag tag' : String} {es mid es' : List (Node × Node)} :
    List.Forall₂ (Reorders lib) (es.map Prod.fst) (mid.map Prod.fst) →
      List.Forall₂ (Reorders lib) (es.map Prod.snd) (mid.map Prod.snd) → mid.Perm es' →
        NamesApart (Names lib) es ∨ mid = es' →
          Reorders lib (.mapping line tag es) (.mapping line' tag' es')

mutual

/-- The same value up to the order of the entries of its tables. -/
def Kind.Alike : (k : Kind) → k.Value → k.Value → Prop
  | .text | .int | .bool => fun a b => a = b
  | .list _ item => List.Forall₂ item.Alike
  | .table _ item => fun s t =>
    ∃ mid, List.Forall₂ (fun p q => p.1 = q.1 ∧ item.Alike p.2 q.2) s mid ∧ mid.Perm t
  | .record _ fields => fields.Alike

def Fields.Alike : (fields : Fields) → fields.Value → fields.Value → Prop
  | .nil => fun _ _ => True
  | .cons _ kind rest => fun s t => kind.Alike s.1 t.1 ∧ rest.Alike s.2 t.2

end

mutual

theorem Kind.alike_refl : (k : Kind) → ∀ a : k.Value, k.Alike a a
  | .text, _ | .int, _ | .bool, _ => rfl
  | .list _ item, _ => List.forall₂_same.mpr fun a _ => item.alike_refl a
  | .table _ item, t =>
    ⟨t, List.forall₂_same.mpr fun p _ => ⟨rfl, item.alike_refl p.2⟩, .refl _⟩
  | .record _ fields, s => fields.alike_refl s

theorem Fields.alike_refl : (fields : Fields) → ∀ s : fields.Value, fields.Alike s s
  | .nil, _ => trivial
  | .cons _ kind rest, s => ⟨kind.alike_refl s.1, rest.alike_refl s.2⟩

end

section Lists

variable {α β γ δ : Type} {R : α → β → Prop} {l : List α} {l' : List β}

theorem exists_mem_of_forall₂ (alike : List.Forall₂ R l l') {a : α} (mem : a ∈ l) :
    ∃ b ∈ l', R a b := by
  induction alike with
  | nil => contradiction
  | cons first _ ih =>
    obtain rfl | mem := List.mem_cons.mp mem
    · exact ⟨_, List.mem_cons_self, first⟩
    · obtain ⟨b, mem', alike⟩ := ih mem
      exact ⟨b, List.mem_cons_of_mem _ mem', alike⟩

/-- What two lists give passes along with their members. -/
theorem exists_forall₂ {S : α → γ → Prop} {T : β → δ → Prop} {U : γ → δ → Prop} {cs : List γ}
    (alike : List.Forall₂ R l l') (given : List.Forall₂ S l cs)
    (passes : ∀ a b c, R a b → S a c → ∃ d, T b d ∧ U c d) :
    ∃ ds, List.Forall₂ T l' ds ∧ List.Forall₂ U cs ds := by
  induction alike generalizing cs with
  | nil =>
    cases given
    exact ⟨[], .nil, .nil⟩
  | cons first _ ih =>
    cases given with
    | cons holds others =>
      obtain ⟨d, here, same⟩ := passes _ _ _ first holds
      obtain ⟨ds, later, alike⟩ := ih others
      exact ⟨d :: ds, .cons here later, .cons same alike⟩

theorem pairwise_of_forall₂ {P : α → α → Prop} {Q : β → β → Prop} (alike : List.Forall₂ R l l')
    (apart : l.Pairwise P) (passes : ∀ a b a' b', R a b → R a' b' → P a a' → Q b b') :
    l'.Pairwise Q := by
  induction alike with
  | nil => exact .nil
  | cons first others ih =>
    obtain ⟨here, later⟩ := List.pairwise_cons.mp apart
    refine .cons (fun b' mem => ?_) (ih later)
    obtain ⟨a', mem, alike⟩ := exists_mem_of_forall₂ (R := fun b a => R a b) others.flip mem
    exact passes _ _ _ _ first alike (here a' mem)

end Lists

variable {lib : Library}

/-- Nodes in another order stand for the same values in another order. -/
def Reading.Respects {α : Type} (lib : Library) (reads : Reading α) (alike : α → α → Prop) : Prop :=
  ∀ ⦃n n' : Node⦄ ⦃old new : α⦄ ⦃gave : Bool⦄, n.Reorders lib n' → reads n old new gave →
    ∃ new', reads n' old new' gave ∧ alike new new'

section Nodes

variable {n n' : Node} (reorders : n.Reorders lib n')

include reorders

theorem Node.Reorders.isNull_eq : lib.isNull n' = lib.isNull n := by
  cases reorders <;> rfl

theorem Node.Reorders.keyText_eq : n'.keyText = n.keyText := by
  cases reorders <;> rfl

theorem ReadsScalar.of_reorders {α : Type} {take : Scalar → Option α} {old new : α} {gave : Bool}
    (reads : ReadsScalar lib take n old new gave) : ReadsScalar lib take n' old new gave := by
  cases reads with
  | null means null =>
    cases reorders
    exact .null means null
  | value means given taken =>
    cases reorders
    exact .value means given taken

theorem Node.Reorders.symm_names {name : Text.Bytes} (names : Names lib n' name) :
    Names lib n name := by
  cases reorders with
  | scalar =>
    cases names with
    | value means given taken => exact .value means given taken
  | sequence => cases names
  | mapping => cases names

theorem Node.Reorders.names_iff {name : Text.Bytes} : Names lib n' name ↔ Names lib n name :=
  ⟨reorders.symm_names, fun names => ReadsScalar.of_reorders reorders names⟩

end Nodes

theorem readsScalar_respects {α : Type} {take : Scalar → Option α} {alike : α → α → Prop}
    (refl : ∀ a, alike a a) : Reading.Respects lib (ReadsScalar lib take) alike :=
  fun _ _ _ new _ reorders read => ⟨new, read.of_reorders reorders, refl new⟩

theorem readsItems_reorder {α : Type} {item : Reading α} {alike : α → α → Prop}
    (respects : item.Respects lib alike) {empty : α} {ns ns' : List Node} {as : List α}
    (reorder : List.Forall₂ (Node.Reorders lib) ns ns') (read : ReadsItems item empty ns as) :
    ∃ as', ReadsItems item empty ns' as' ∧ List.Forall₂ alike as as' := by
  induction reorder generalizing as with
  | nil =>
    cases read
    exact ⟨[], .nil, .nil⟩
  | cons first _ ih =>
    cases read with
    | skip here later =>
      obtain ⟨a', here', -⟩ := respects first here
      obtain ⟨as', later', same⟩ := ih later
      exact ⟨as', .skip here' later', same⟩
    | cons here later =>
      obtain ⟨a', here', alike⟩ := respects first here
      obtain ⟨as', later', same⟩ := ih later
      exact ⟨a' :: as', .cons here' later', .cons alike same⟩

theorem readsList_respects {α : Type} {item : Reading α} {alike : α → α → Prop}
    (respects : item.Respects lib alike) (empty : α) :
    Reading.Respects lib (ReadsList lib item empty) (List.Forall₂ alike) := by
  intro n n' old new gave reorders read
  cases read with
  | null null => exact ⟨[], .null (reorders.isNull_eq.trans null), .nil⟩
  | sequence read =>
    cases reorders with
    | sequence each =>
      obtain ⟨as', read', same⟩ := readsItems_reorder respects each read
      exact ⟨as', .sequence read', same⟩

def EntryReorders (lib : Library) (e e' : Node × Node) : Prop :=
  e.1.Reorders lib e'.1 ∧ e.2.Reorders lib e'.2

/-- The same entries in another order, if no two keys denote one name. -/
def EntriesReorder (lib : Library) (es es' : List (Node × Node)) : Prop :=
  ∃ mid, List.Forall₂ (EntryReorders lib) es mid ∧ mid.Perm es' ∧
    (NamesApart (Names lib) es ∨ mid = es')

theorem forall₂_entryReorders {es mid : List (Node × Node)}
    (keys : List.Forall₂ (Node.Reorders lib) (es.map Prod.fst) (mid.map Prod.fst))
    (values : List.Forall₂ (Node.Reorders lib) (es.map Prod.snd) (mid.map Prod.snd)) :
    List.Forall₂ (EntryReorders lib) es mid := by
  rw [List.forall₂_map_left_iff, List.forall₂_map_right_iff] at keys values
  induction keys with
  | nil => exact .nil
  | cons key _ ih =>
    cases values with
    | cons value values => exact .cons ⟨key, value⟩ (ih values)

theorem Node.Reorders.of_mapping {line : Nat} {tag : String} {es : List (Node × Node)} {n' : Node}
    (reorders : (Node.mapping line tag es).Reorders lib n') :
    ∃ line' tag' es', n' = .mapping line' tag' es' ∧ EntriesReorder lib es es' := by
  cases reorders with
  | mapping keys values perm apart =>
    exact ⟨_, _, _, rfl, _, forall₂_entryReorders keys values, perm, apart⟩

namespace EntriesReorder

variable {es es' : List (Node × Node)} (reorder : EntriesReorder lib es es')

include reorder

theorem exists_right {e : Node × Node} (mem : e ∈ es) : ∃ e' ∈ es', EntryReorders lib e e' := by
  obtain ⟨mid, each, perm, -⟩ := reorder
  obtain ⟨e', mem', alike⟩ := exists_mem_of_forall₂ each mem
  exact ⟨e', perm.mem_iff.mp mem', alike⟩

theorem exists_left {e' : Node × Node} (mem : e' ∈ es') : ∃ e ∈ es, EntryReorders lib e e' := by
  obtain ⟨mid, each, perm, -⟩ := reorder
  exact exists_mem_of_forall₂ (R := fun e' e => EntryReorders lib e e') each.flip
    (perm.mem_iff.mpr mem)

theorem keysDiffer (differ : KeysDiffer es) : KeysDiffer es' := by
  obtain ⟨mid, each, perm, -⟩ := reorder
  have same : mid.map (fun e => e.1.keyText) = es.map fun e => e.1.keyText := by
    rw [← List.forall₂_eq_eq_eq, List.forall₂_map_left_iff, List.forall₂_map_right_iff]
    exact (each.imp fun e e' alike => alike.1.keyText_eq).flip
  rw [KeysDiffer, ← same] at differ
  exact (perm.map _).nodup_iff.mp differ

theorem namesApart (apart : NamesApart (Names lib) es) : NamesApart (Names lib) es' := by
  obtain ⟨mid, each, perm, -⟩ := reorder
  have before : NamesApart (Names lib) mid := pairwise_of_forall₂ each apart
    fun e e' f f' alike alike' apart name names names' =>
      apart name (alike.1.names_iff.mp names) (alike'.1.names_iff.mp names')
  exact (perm.pairwise_iff fun apart name names names' => apart name names' names).mp before

theorem keysFit {names : List String} (fit : KeysFit lib names es) : KeysFit lib names es' where
  known e' mem' := by
    obtain ⟨e, mem, alike⟩ := reorder.exists_left mem'
    obtain null | ⟨name, known, denotes⟩ := fit.known e mem
    · exact .inl (alike.1.isNull_eq.trans null)
    · exact .inr ⟨name, known, alike.1.names_iff.mpr denotes⟩
  once := reorder.namesApart fit.once

end EntriesReorder

theorem NamesApart.eq {es : List (Node × Node)} {e e' : Node × Node}
    (apart : NamesApart (Names lib) es) (mem : e ∈ es) (mem' : e' ∈ es) {name : Text.Bytes}
    (names : Names lib e.1 name) (names' : Names lib e'.1 name) : e = e' := by
  have symmetric : Std.Symm fun e e' : Node × Node =>
      ∀ name, Names lib e.1 name → ¬ Names lib e'.1 name :=
    ⟨fun _ _ apart name names names' => apart name names' names⟩
  by_contra different
  exact apart.forall mem mem' different name names names'

/-- A field is read again from the entry that names it, wherever that stands. -/
theorem Overlaid.reorder {α : Type} {reads : Reading α} {alike : α → α → Prop}
    (respects : reads.Respects lib alike) (refl : ∀ a, alike a a) {name : Text.Bytes}
    {es es' : List (Node × Node)} (reorder : EntriesReorder lib es es')
    (apart : NamesApart (Names lib) es) {old new : α}
    (overlaid : Overlaid lib name reads es old new) :
    ∃ new', Overlaid lib name reads es' old new' ∧ alike new new' := by
  have apart' := reorder.namesApart apart
  by_cases given : ∃ e ∈ es, Names lib e.1 name
  · obtain ⟨e, mem, names⟩ := given
    obtain ⟨gave, read⟩ := overlaid.named e mem names
    obtain ⟨e', mem', alike⟩ := reorder.exists_right mem
    have names' := alike.1.names_iff.mpr names
    obtain ⟨new', read', same⟩ := respects alike.2 read
    refine ⟨new', ⟨fun other member also => ?_, fun unnamed => absurd names' (unnamed e' mem')⟩,
      same⟩
    cases apart'.eq member mem' also names'
    exact ⟨gave, read'⟩
  · have unnamed (e : Node × Node) (mem : e ∈ es) : ¬ Names lib e.1 name := fun names =>
      given ⟨e, mem, names⟩
    have unnamed' (e' : Node × Node) (mem' : e' ∈ es') : ¬ Names lib e'.1 name := fun names => by
      obtain ⟨e, mem, alike⟩ := reorder.exists_left mem'
      exact unnamed e mem (alike.1.names_iff.mp names)
    refine ⟨old, ⟨fun e' mem' names => absurd names (unnamed' e' mem'), fun _ => rfl⟩, ?_⟩
    rw [overlaid.kept unnamed]
    exact refl old

section Tables

variable {α : Type} {item : Reading α} {alike : α → α → Prop} {empty : α}

/-- Entries of two tables with one name and like values. -/
def EntryAlike (alike : α → α → Prop) (p q : Text.Bytes × α) : Prop := p.1 = q.1 ∧ alike p.2 q.2

theorem foldl_assocPut (named t : List (Text.Bytes × α))
    (apart : ((t ++ named).map Prod.fst).Nodup) :
    named.foldl (fun t p => assocPut p.1 p.2 t) t = t ++ named := by
  induction named generalizing t with
  | nil => simp
  | cons p rest ih =>
    obtain ⟨name, a⟩ := p
    have kept : t.filter (fun e => e.1 != name) = t := by
      rw [List.filter_eq_self]
      intro e mem
      rw [bne_iff_ne]
      rintro rfl
      rw [List.map_append, List.map_cons, List.nodup_append] at apart
      exact apart.2.2 e.1 (List.mem_map_of_mem mem) e.1 List.mem_cons_self rfl
    have put : assocPut name a t = t ++ [(name, a)] := by rw [assocPut, kept]
    rw [List.foldl_cons, put, ih _ (by simpa using apart), List.append_assoc]
    rfl

theorem forall₂_assocPut {t t' : List (Text.Bytes × α)}
    (same : List.Forall₂ (EntryAlike alike) t t') {p p' : Text.Bytes × α}
    (here : EntryAlike alike p p') :
    List.Forall₂ (EntryAlike alike) (assocPut p.1 p.2 t) (assocPut p'.1 p'.2 t') := by
  have kept := List.rel_filter (p := fun e : Text.Bytes × α => e.1 != p.1)
    (q := fun e => e.1 != p'.1) (fun e e' alike => by simp [alike.1, here.1]) same
  exact List.rel_append kept (.cons here .nil)

theorem forall₂_foldl_assocPut {named named' : List (Text.Bytes × α)}
    (same : List.Forall₂ (EntryAlike alike) named named') {t t' : List (Text.Bytes × α)}
    (before : List.Forall₂ (EntryAlike alike) t t') :
    List.Forall₂ (EntryAlike alike) (named.foldl (fun t p => assocPut p.1 p.2 t) t)
      (named'.foldl (fun t p => assocPut p.1 p.2 t) t') := by
  induction same generalizing t t' with
  | nil => exact before
  | cons here _ ih => exact ih (forall₂_assocPut before here)

theorem ReadsEntries.nodup {entries : List (Node × Node)} {named : List (Text.Bytes × α)}
    (read : ReadsEntries lib item empty entries named) (apart : NamesApart (Names lib) entries) :
    (named.map Prod.fst).Nodup := by
  rw [List.Nodup, List.pairwise_map]
  refine pairwise_of_forall₂ read (apart.sublist List.filter_sublist) ?_
  rintro e p e' p' ⟨names, -⟩ ⟨names', -⟩ apart same
  exact apart p.1 names (same ▸ names')

theorem ReadsEntries.of_forall₂ (respects : item.Respects lib alike)
    {es mid : List (Node × Node)} (each : List.Forall₂ (EntryReorders lib) es mid)
    {named : List (Text.Bytes × α)} (read : ReadsEntries lib item empty es named) :
    ∃ named', ReadsEntries lib item empty mid named' ∧
      List.Forall₂ (EntryAlike alike) named named' := by
  have kept := List.rel_filter (p := fun e : Node × Node => !lib.isNull e.1)
    (q := fun e => !lib.isNull e.1) (fun e e' alike => by simp [alike.1.isNull_eq]) each
  refine exists_forall₂ kept read ?_
  rintro e e' p alike ⟨names, gave, value⟩
  obtain ⟨a', value', same⟩ := respects alike.2 value
  exact ⟨(p.1, a'), ⟨alike.1.names_iff.mpr names, gave, value'⟩, rfl, same⟩

theorem readsTable_respects (respects : item.Respects lib alike) :
    Reading.Respects lib (ReadsTable lib item empty) fun s t =>
      ∃ mid, List.Forall₂ (EntryAlike alike) s mid ∧ mid.Perm t := by
  intro n n' old new gave reorders read
  cases read with
  | null null => exact ⟨[], .null (reorders.isNull_eq.trans null), [], .nil, .refl _⟩
  | @mapping _ _ _ named differ entries =>
    obtain ⟨line, tag, es', rfl, reorder⟩ := reorders.of_mapping
    have differ' := reorder.keysDiffer differ
    obtain ⟨mid, each, perm, apart | rfl⟩ := reorder
    · obtain ⟨named₁, entries₁, same⟩ := entries.of_forall₂ respects each
      obtain ⟨named₂, entries₂, perm'⟩ := List.perm_comp_forall₂ (perm.symm.filter _) entries₁
      have apart' := entries.nodup apart
      have names : named₁.map Prod.fst = named.map Prod.fst := by
        rw [← List.forall₂_eq_eq_eq, List.forall₂_map_left_iff, List.forall₂_map_right_iff]
        exact (same.imp fun p q alike => alike.1.symm).flip
      have apart₂ : (named₂.map Prod.fst).Nodup :=
        (perm'.map _).nodup_iff.mpr (names ▸ apart')
      refine ⟨_, .mapping differ' entries₂, named₁, ?_, ?_⟩
      · rwa [foldl_assocPut _ [] apart']
      · rw [foldl_assocPut _ [] apart₂]
        exact perm'.symm
    · obtain ⟨named', entries', same⟩ := entries.of_forall₂ respects each
      exact ⟨_, .mapping differ' entries', _, forall₂_foldl_assocPut same .nil, .refl _⟩

end Tables

theorem readsRecord_respects {σ : Type} {names : List String}
    {overlaid : List (Node × Node) → σ → σ → Prop} {alike : σ → σ → Prop}
    (refl : ∀ s, alike s s)
    (respects : ∀ es es' old new, EntriesReorder lib es es' → NamesApart (Names lib) es →
      overlaid es old new → ∃ new', overlaid es' old new' ∧ alike new new') :
    Reading.Respects lib (ReadsRecord lib names overlaid) alike := by
  intro n n' old new gave reorders read
  cases read with
  | null null => exact ⟨old, .null (reorders.isNull_eq.trans null), refl old⟩
  | mapping differ fit laid =>
    obtain ⟨line, tag, es', rfl, reorder⟩ := reorders.of_mapping
    obtain ⟨new', laid', same⟩ := respects _ _ _ _ reorder fit.once laid
    exact ⟨new', .mapping (reorder.keysDiffer differ) (reorder.keysFit fit) laid', same⟩

mutual

/-- No kind of value sees the order of keys, but for that of the entries of its tables. -/
theorem Kind.respects : (k : Kind) → Reading.Respects lib (k.Reads lib) k.Alike
  | .text => readsScalar_respects Kind.text.alike_refl
  | .int => readsScalar_respects Kind.int.alike_refl
  | .bool => readsScalar_respects Kind.bool.alike_refl
  | .list _ item => readsList_respects item.respects item.zero
  | .table _ item => readsTable_respects item.respects
  | .record _ fields => readsRecord_respects fields.alike_refl fields.respects

theorem Fields.respects : (fields : Fields) → ∀ (es es' : List (Node × Node))
    (old new : fields.Value), EntriesReorder lib es es' → NamesApart (Names lib) es →
      fields.Overlaid lib es old new →
        ∃ new', fields.Overlaid lib es' old new' ∧ fields.Alike new new'
  | .nil, _, _, _, _, _, _, _ => ⟨(), trivial, trivial⟩
  | .cons _ kind rest, es, es', old, new, reorder, apart, overlaid => by
    obtain ⟨a, here, same⟩ := overlaid.1.reorder kind.respects kind.alike_refl reorder apart
    obtain ⟨s, later, others⟩ := rest.respects es es' old.2 new.2 reorder apart overlaid.2
    exact ⟨(a, s), ⟨here, later⟩, same, others⟩

end

end KernelSweep.Yaml

import KernelSweep.Environment
import KernelSweep.Proofs.Text.ByteOrder
import KernelSweep.Proofs.Text.Utf8
import Mathlib.Data.List.Nodup
import Mathlib.Data.List.Sort
import Mathlib.Data.String.Basic

set_option autoImplicit false

namespace KernelSweep

open Text (Bytes)

namespace Environment

theorem entryKey_assignment {name : String} (plain : '='.toUInt8 ∉ Text.encode name)
    (value : Bytes) : entryKey (assignment name value) = Text.encode name := by
  have others : ∀ b ∈ Text.encode name, (b != '='.toUInt8) = true := by
    intro b member
    exact bne_iff_ne.mpr fun same => plain (same ▸ member)
  rw [entryKey, assignment, List.takeWhile_append_of_pos others]
  simp

theorem plain_of_managed :
    ∀ name ∈ Variable.managed, '='.toUInt8 ∉ Text.encode name := by
  decide +kernel

theorem isManaged_iff {key : Bytes} :
    isManaged key = true ↔ key ∈ Variable.managed.map Text.encode := by
  simp [isManaged]

/-- The entries that have nothing to do with the toolchain. -/
def unmanaged (entries : List Bytes) : List Bytes :=
  entries.filter fun entry => entryKey entry ∉ Variable.managed.map Text.encode

def entriesUnder (name : String) (entries : List Bytes) : List Bytes :=
  entries.filter fun entry => entryKey entry == Text.encode name

theorem entriesUnder_unmanaged {name : String} (managed : name ∈ Variable.managed)
    (entries : List Bytes) : entriesUnder name (unmanaged entries) = [] := by
  rw [entriesUnder, unmanaged, List.filter_filter, List.filter_eq_nil_iff]
  intro entry _ both
  simp only [Bool.and_eq_true, beq_iff_eq, decide_eq_true_eq] at both
  exact both.2 (both.1 ▸ List.mem_map_of_mem managed)

variable (e : Environment)

theorem keys_perm : e.keys.Perm (e.vars.map Prod.fst) := List.mergeSort_perm _ _

theorem mem_keys_iff {name : String} : name ∈ e.keys ↔ (e.lookup name).isSome = true := by
  rw [e.keys_perm.mem_iff, lookup, List.lookup_isSome_iff]
  simp

theorem nodup_keys : e.keys.Nodup := e.keys_perm.nodup_iff.mpr e.distinct

theorem keys_ascending : e.keys.Pairwise (· < ·) := by
  have sorted : e.keys.Pairwise fun name other => decide (name ≤ other) = true :=
    List.pairwise_mergeSort (by simpa using fun _ _ _ => le_trans) (by simpa using le_total) _
  refine (sorted.and e.nodup_keys).imp fun both => ?_
  exact lt_of_le_of_ne (of_decide_eq_true both.1) both.2

/-- A list is the sorted list of the bound names when it has these names in ascending order. -/
theorem keys_eq_of_perm {names : List String} (ascending : names.Pairwise (· < ·))
    (same : names.Perm (e.vars.map Prod.fst)) : e.keys = names :=
  (e.keys_perm.trans same.symm).eq_of_pairwise' (e.keys_ascending.imp le_of_lt)
    (ascending.imp le_of_lt)

theorem entries_eq : e.entries = unmanaged e.inherited ++
    e.keys.map fun name => assignment name ((e.lookup name).getD []) := by
  have same : (fun entry => !isManaged (entryKey entry)) =
      fun entry => decide (entryKey entry ∉ Variable.managed.map Text.encode) := by
    funext entry
    rw [Bool.eq_iff_iff, Bool.not_eq_true', decide_eq_true_iff, ← isManaged_iff, Bool.not_eq_true]
  rw [entries, unmanaged, same]

section Set

variable {e} {name : String} (value : Bytes)

theorem lookup_assign (vars : List (String × Bytes)) (other : String) :
    (assign name value vars).lookup other =
      if other = name then some value else vars.lookup other := by
  induction vars with
  | nil => simp [assign, List.lookup_cons, List.lookup_nil, eq_comm]; grind
  | cons var rest ih =>
    rw [assign]
    split_ifs <;> simp only [List.lookup_cons] <;> grind

theorem lookup_set (other : String) :
    (e.set name value).lookup other = if other = name then some value else e.lookup other :=
  lookup_assign value e.vars other

theorem map_fst_assign {vars : List (String × Bytes)} (absent : name ∉ vars.map Prod.fst) :
    (assign name value vars).map Prod.fst = vars.map Prod.fst ++ [name] := by
  induction vars with
  | nil => rfl
  | cons var rest ih =>
    rw [List.map_cons, List.mem_cons, not_or] at absent
    rw [assign, if_neg (Ne.symm absent.1), List.map_cons, ih absent.2]
    rfl

/-- A name that was not bound comes in at one place. -/
theorem keys_set (absent : e.lookup name = none) :
    ∃ before after, e.keys = before ++ after ∧
      (e.set name value).keys = before ++ name :: after := by
  have unbound : name ∉ e.vars.map Prod.fst := by
    rw [← e.keys_perm.mem_iff, mem_keys_iff, absent]
    simp
  have here : name ∈ (e.set name value).keys := by
    rw [mem_keys_iff, lookup_set, if_pos rfl]
    rfl
  obtain ⟨before, after, split⟩ := List.append_of_mem here
  refine ⟨before, after, e.keys_eq_of_perm ?_ ?_, split⟩
  · have ascending := (e.set name value).keys_ascending
    rw [split] at ascending
    exact ascending.sublist ((List.sublist_cons_self ..).append_left before)
  · have perm := (e.set name value).keys_perm
    rw [split] at perm
    have names : (e.set name value).vars.map Prod.fst = e.vars.map Prod.fst ++ [name] :=
      map_fst_assign value unbound
    rw [names] at perm
    exact (List.perm_middle.symm.trans (perm.trans List.perm_append_comm)).cons_inv

end Set

/-- What the entries hold under a name: the one assignment of a bound variable, or nothing. -/
theorem entriesUnder_entries (bounded : ∀ name ∈ e.keys, name ∈ Variable.managed)
    {name : String} (managed : name ∈ Variable.managed) :
    entriesUnder name e.entries = ((e.lookup name).map (assignment name)).toList := by
  have inherited := entriesUnder_unmanaged managed e.inherited
  rw [entriesUnder] at inherited
  rw [entries_eq, entriesUnder, List.filter_append, inherited, List.nil_append, List.filter_map]
  have own : e.keys.filter ((fun entry => entryKey entry == Text.encode name) ∘
      fun name => assignment name ((e.lookup name).getD [])) = e.keys.filter (· == name) := by
    apply List.filter_congr
    intro other member
    rw [Function.comp_apply, entryKey_assignment (plain_of_managed other (bounded other member)),
      Bool.eq_iff_iff, beq_iff_eq, beq_iff_eq, Text.encode_injective.eq_iff]
  rw [own]
  cases found : e.lookup name with
  | none =>
    have unbound : name ∉ e.keys := by
      rw [mem_keys_iff, found]
      simp
    have empty : e.keys.filter (· == name) = [] := by
      rw [List.filter_eq_nil_iff]
      intro other member same
      exact unbound (beq_iff_eq.mp same ▸ member)
    rw [empty]
    rfl
  | some value =>
    have bound : name ∈ e.keys := by
      rw [mem_keys_iff, found]
      rfl
    rw [List.filter_beq, List.count_eq_one_of_mem e.nodup_keys bound]
    simp [found]

/-- What a run sees of the entries of its parent and of the variables bound for it. -/
structure IsolatedFrom (inherited : List Bytes) : Prop where
  /-- Inherited entries under other names, each as often and where it was, then the bound
  variables. -/
  entries : e.entries = unmanaged inherited ++
    e.keys.map fun name => assignment name ((e.lookup name).getD [])
  ascending : e.keys.Pairwise fun name other => Text.encode name < Text.encode other
  managed : ∀ name ∈ e.keys, name ∈ Variable.managed
  bound : ∀ name, name ∈ e.keys ↔ (e.lookup name).isSome = true
  once : ∀ name ∈ Variable.managed, ∀ value, e.lookup name = some value →
    entriesUnder name e.entries = [assignment name value]
  never : ∀ name ∈ Variable.managed, e.lookup name = none → entriesUnder name e.entries = []

/-- Variables under names of the toolchain are all that a run sees under these names. -/
theorem isolatedFrom_inherited (managed : ∀ name ∈ e.keys, name ∈ Variable.managed) :
    e.IsolatedFrom e.inherited where
  entries := e.entries_eq
  ascending := e.keys_ascending.imp Text.encode_lt_encode
  managed := managed
  bound _ := e.mem_keys_iff
  once name known value held := by
    rw [e.entriesUnder_entries managed known, held]
    rfl
  never name known absent := by
    rw [e.entriesUnder_entries managed known, absent]
    rfl

end Environment

end KernelSweep

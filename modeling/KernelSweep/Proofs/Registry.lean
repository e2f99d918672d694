import KernelSweep.Config.Basic
import Mathlib.Data.List.Nodup
import Mathlib.Data.List.Perm.Basic

set_option autoImplicit false

namespace KernelSweep

theorem Profile.renamed_eq_iff {p q : Profile} {name : String} :
    { p with name } = { q with name } ↔ ∀ l, p.limit l = q.limit l := by
  constructor
  · intro same l
    have limits := congrArg (fun p => p.limit l) same
    cases l <;> exact limits
  · intro same
    rw [Profile.mk.injEq]
    exact ⟨rfl, same .computeUnits, same .threads, same .groups, same .registers,
      same .sharedMemory, same .blockMemory⟩

namespace Registry

theorem lt_of_not_lt {key other : String} (later : ¬ key < other) (different : other ≠ key) :
    other < key := by
  apply Std.lt_of_le_of_ne _ different
  exact String.not_lt.mp later

/-- Two places in a table do not get in each other's way. -/
theorem insertKey_comm {α : Type} {key other : String} (different : key ≠ other) (value value' : α)
    (table : List (String × α)) :
    insertKey key value (insertKey other value' table) =
      insertKey other value' (insertKey key value table) := by
  induction table with
  | nil => grind [insertKey, String.lt_asymm, lt_of_not_lt]
  | cons entry rest ih => grind [insertKey, String.lt_asymm, String.lt_trans, lt_of_not_lt]

theorem add_comm (r : Registry) {name other : String}
    (different : Text.lower name ≠ Text.lower other) (p q : Profile) :
    (r.add name p).add other q = (r.add other q).add name p :=
  congrArg Registry.mk (insertKey_comm different.symm ..)

/-- What is registered comes from the name in lower case and the limits. -/
theorem add_eq_add {name other : String} (same : Text.lower name = Text.lower other)
    {p q : Profile} (limits : ∀ l, p.limit l = q.limit l) (r : Registry) :
    r.add name p = r.add other q := by
  rw [add, add, same, Profile.renamed_eq_iff.mpr limits]

-- The library's equation for a look-up is a match on a comparison of keys.
theorem lookup_cons {α : Type} (name key : String) (value : α) (rest : List (String × α)) :
    List.lookup name ((key, value) :: rest) =
      if name = key then some value else rest.lookup name := by
  by_cases same : name = key
  · simp [same]
  · simp [List.lookup_cons, beq_false_of_ne same, same]

/-- A table answers with what was put in last under a name. -/
theorem lookup_insertKey {α : Type} (key : String) (value : α) (table : List (String × α))
    (name : String) :
    (insertKey key value table).lookup name =
      if name = key then some value else table.lookup name := by
  induction table with
  | nil => simp only [insertKey, lookup_cons]
  | cons entry rest ih =>
    obtain ⟨k, v⟩ := entry
    unfold insertKey
    split
    · simp only [lookup_cons]
    · split
      · rename_i here
        simp only [here, lookup_cons]
        split <;> rfl
      · rename_i other
        simp only [lookup_cons, ih]
        by_cases same : name = k
        · have different : name ≠ key := same ▸ other
          rw [if_pos same, if_neg different, if_pos same]
        · rw [if_neg same, if_neg same]

theorem lookup_add (r : Registry) (name : String) (p : Profile) (key : String) :
    (r.add name p).entries.lookup key =
      if key = Text.lower name then some { p with name := Text.lower name }
      else r.entries.lookup key :=
  lookup_insertKey ..

variable (r : Registry) {profiles : List (String × Profile)} {key : String}

theorem lookup_of_others (others : ∀ entry ∈ profiles, Text.lower entry.1 ≠ key) :
    (profiles.foldl (fun r (name, p) => r.add name p) r).entries.lookup key =
      r.entries.lookup key := by
  induction profiles generalizing r with
  | nil => rfl
  | cons entry rest ih =>
    obtain ⟨first, later⟩ := List.forall_mem_cons.mp others
    rw [List.foldl_cons, ih _ later, lookup_add, if_neg first.symm]

theorem lookup_of_mem (distinct : (profiles.map fun a => Text.lower a.1).Nodup) {name : String}
    {p : Profile} (listed : (name, p) ∈ profiles) :
    (profiles.foldl (fun r (name, p) => r.add name p) r).entries.lookup (Text.lower name) =
      some { p with name := Text.lower name } := by
  induction profiles generalizing r with
  | nil => simp at listed
  | cons entry rest ih =>
    rw [List.map_cons, List.nodup_cons] at distinct
    rw [List.foldl_cons]
    rcases List.mem_cons.mp listed with rfl | later
    · -- What comes later has another name, so this is what stays.
      have others : ∀ entry ∈ rest, Text.lower entry.1 ≠ Text.lower name :=
        fun entry member same => distinct.1 (List.mem_map.mpr ⟨entry, member, same⟩)
      rw [lookup_of_others _ others, lookup_add, if_pos rfl]
    · exact ih _ distinct.2 later

theorem lookup_eq_ok_iff {name : String} {p : Profile} :
    r.lookup name = .ok p ↔ r.entries.lookup (Text.lower name) = some p := by
  rw [lookup]
  split <;> simp [*]

theorem lookup_builtIn_eq_some_iff {p : Profile} :
    builtIn.entries.lookup key = some p ↔
      p ∈ [Profile.kepler, .maxwell, .pascal] ∧ p.name = key := by
  simp only [builtIn, lookup_cons, List.lookup_nil]
  constructor
  · intro found
    split at found
    · rename_i same
      cases found
      exact ⟨by simp, same.symm⟩
    · split at found
      · rename_i same
        cases found
        exact ⟨by simp, same.symm⟩
      · split at found
        · rename_i same
          cases found
          exact ⟨by simp, same.symm⟩
        · cases found
  · rintro ⟨listed, rfl⟩
    simp only [List.mem_cons, List.not_mem_nil, or_false] at listed
    rcases listed with rfl | rfl | rfl <;> decide

end Registry

namespace Config

/-- No two profiles of the configuration have the same name once case is ignored. -/
def NamesDistinct (c : Config) : Prop := (c.architectures.map fun a => Text.lower a.1).Nodup

instance (c : Config) : Decidable c.NamesDistinct := inferInstanceAs (Decidable (List.Nodup _))

/-- The profile a configuration asks for, case ignored: one of its own, which gets that name, or a
built-in one when none of its own has the name. -/
inductive Chooses (c : Config) : Profile → Prop
  | own {name : String} {p : Profile} (listed : (name, p) ∈ c.architectures)
    (named : Text.lower name = Text.lower c.arch) : Chooses c { p with name := Text.lower c.arch }
  | builtIn {p : Profile} (listed : p ∈ [Profile.kepler, .maxwell, .pascal])
    (named : p.name = Text.lower c.arch)
    (kept : ∀ entry ∈ c.architectures, Text.lower entry.1 ≠ Text.lower c.arch) : Chooses c p

theorem profile_eq_ok_iff {c : Config} (distinct : c.NamesDistinct) {p : Profile} :
    c.profile = .ok p ↔ c.Chooses p := by
  rw [profile, Registry.lookup_eq_ok_iff]
  by_cases own : ∃ entry ∈ c.architectures, Text.lower entry.1 = Text.lower c.arch
  · obtain ⟨⟨name, q⟩, listed, named⟩ := own
    have found := Registry.lookup_of_mem .builtIn distinct listed
    rw [named] at found
    rw [registry, found, Option.some_inj]
    constructor
    · rintro rfl
      exact .own listed named
    · rintro (⟨listed', named'⟩ | ⟨-, -, kept⟩)
      · cases List.inj_on_of_nodup_map distinct listed listed' (named.trans named'.symm)
        rfl
      · exact absurd named (kept _ listed)
  · have others : ∀ entry ∈ c.architectures, Text.lower entry.1 ≠ Text.lower c.arch :=
      fun entry member same => own ⟨entry, member, same⟩
    rw [registry, Registry.lookup_of_others _ others, Registry.lookup_builtIn_eq_some_iff]
    constructor
    · rintro ⟨listed, named⟩
      exact .builtIn listed named others
    · rintro (⟨listed, named⟩ | ⟨listed, named, -⟩)
      · exact absurd named (others _ listed)
      · exact ⟨listed, named⟩

theorem eq_of_profile_eq_error {c : Config} {e : UnknownProfile} (failed : c.profile = .error e) :
    e = ⟨c.arch, c.registry.names⟩ := by
  rw [profile, Registry.lookup] at failed
  split at failed
  · cases failed
  · cases failed
    rfl

/-- The other configuration lists the same profiles, in whatever order, and is the same besides. -/
structure Reorders (c other : Config) : Prop where
  profiles : other.architectures.Perm c.architectures
  besides : other = { c with architectures := other.architectures }

theorem Reorders.refl (c : Config) : c.Reorders c := ⟨.refl _, rfl⟩

/-- Profiles of the configuration under one name, case ignored, have the same limits. -/
def LimitsAgree (c : Config) : Prop :=
  ∀ a ∈ c.architectures, ∀ b ∈ c.architectures, Text.lower a.1 = Text.lower b.1 →
    ∀ l, a.2.limit l = b.2.limit l

-- The limits are compared first, because that is the cheaper half.
instance (c : Config) : Decidable c.LimitsAgree :=
  decidable_of_iff (∀ a ∈ c.architectures, ∀ b ∈ c.architectures,
      { a.2 with name := "" } = { b.2 with name := "" } ∨ Text.lower a.1 ≠ Text.lower b.1) <| by
    simp only [LimitsAgree, Profile.renamed_eq_iff, ← imp_iff_or_not]

theorem NamesDistinct.limitsAgree {c : Config} (distinct : c.NamesDistinct) : c.LimitsAgree := by
  intro a here b there same l
  rw [List.inj_on_of_nodup_map distinct here there same]

variable {c other : Config} (agree : c.LimitsAgree) (reordered : c.Reorders other)
include agree reordered

theorem registry_of_reorders : other.registry = c.registry := by
  have commute : ∀ a ∈ c.architectures, ∀ b ∈ c.architectures, ∀ r : Registry,
      (r.add a.1 a.2).add b.1 b.2 = (r.add b.1 b.2).add a.1 a.2 := by
    intro a here b there r
    by_cases same : Text.lower a.1 = Text.lower b.1
    · simp only [Registry.add_eq_add same (agree a here b there same)]
    · exact r.add_comm same a.2 b.2
  exact (reordered.profiles.symm.foldl_eq' (f := fun r a => r.add a.1 a.2) commute
    Registry.builtIn).symm

theorem binderSpec_of_reorders (applyModel : Bool) (inherited : List Text.Bytes) :
    other.binderSpec applyModel inherited = c.binderSpec applyModel inherited := by
  have profile : other.profile = c.profile := by
    rw [Config.profile, registry_of_reorders agree reordered, reordered.besides]
    rfl
  rw [binderSpec, profile, reordered.besides]
  rfl

end Config

end KernelSweep

import KernelSweep.Proofs.Config.Binder
import KernelSweep.Proofs.Config.Problems

set_option autoImplicit false

namespace KernelSweep.Config

/-- The same configuration with its profiles in another order. -/
theorem reorders_of_perm {c : Config} {order : List (String × Profile)}
    (perm : order.Perm c.architectures) : c.Reorders { c with architectures := order } :=
  ⟨perm, rfl⟩

/-- Registered last, a profile answers to its name. -/
theorem lookup_registry_of_last {c : Config} {before : List (String × Profile)} {name : String}
    {p : Profile} (listed : c.architectures = before ++ [(name, p)]) :
    c.registry.entries.lookup (Text.lower name) = some { p with name := Text.lower name } := by
  rw [registry, listed, List.foldl_append, List.foldl_cons, List.foldl_nil, Registry.lookup_add,
    if_pos rfl]

theorem limitsAgree_of_registry {c : Config}
    (one : ∀ other, c.Reorders other → other.registry = c.registry) : c.LimitsAgree := by
  intro a here b there same
  by_cases equal : b = a
  · intro l
    rw [equal]
  · -- Of two orders that end with these two profiles, each lets another one of them win.
    have apart : b ∈ c.architectures.erase a := (List.mem_erase_of_ne equal).mpr there
    generalize left : (c.architectures.erase a).erase b = rest
    have split : (a :: b :: rest).Perm c.architectures := by
      rw [← left]
      exact ((List.perm_cons_erase apart).symm.cons a).trans (List.perm_cons_erase here).symm
    have aLast : (rest ++ [b] ++ [a]).Perm c.architectures := by
      refine List.Perm.trans ?_ split
      rw [List.append_assoc]
      exact List.perm_append_comm.trans (.swap a b rest)
    have bLast : (rest ++ [a] ++ [b]).Perm c.architectures := by
      refine List.Perm.trans ?_ split
      rw [List.append_assoc]
      exact List.perm_append_comm
    have found := lookup_registry_of_last
      (c := { c with architectures := rest ++ [b] ++ [a] }) rfl
    have found' := lookup_registry_of_last
      (c := { c with architectures := rest ++ [a] ++ [b] }) rfl
    rw [one _ (reorders_of_perm aLast), same] at found
    rw [one _ (reorders_of_perm bLast), found, Option.some_inj] at found'
    exact Profile.renamed_eq_iff.mp found'

theorem profile_of_agree {c other : Config} (agree : c.LimitsAgree) (reordered : c.Reorders other) :
    other.profile = c.profile := by
  rw [profile, registry_of_reorders agree reordered, reordered.besides]
  rfl

/-- The registry is the same for every order of the profiles exactly when profiles of one name, case
ignored, have the same limits, as those of different names do. The profile that is chosen, the
problems that are reported and the environments that are bound are then the same as well. -/
theorem registry_ignores_order_iff (c : Config) :
    ((∀ other, c.Reorders other → other.registry = c.registry) ↔ c.LimitsAgree) ∧
      (c.NamesDistinct → c.LimitsAgree) ∧
      (c.LimitsAgree → ∀ other, c.Reorders other →
        other.profile = c.profile ∧ other.problems = c.problems ∧
          ∀ applyModel inherited,
            other.binder applyModel inherited = c.binder applyModel inherited ∧
              ∀ r, other.bound applyModel inherited r = c.bound applyModel inherited r) := by
  refine ⟨⟨limitsAgree_of_registry, ?_⟩, NamesDistinct.limitsAgree, ?_⟩
  · intro agree other reordered
    exact registry_of_reorders agree reordered
  · intro agree other reordered
    refine ⟨profile_of_agree agree reordered, problems_of_agree agree reordered, ?_⟩
    intro applyModel inherited
    have same := binder_of_agree agree reordered applyModel inherited
    refine ⟨same, fun r => ?_⟩
    rw [bound, bound, same]

/-- Two spellings of one name with the same limits, and a third profile. -/
def respelled : Config :=
  { standard with
    arch := "V"
    architectures := [("V", .kepler), ("w", .maxwell), ("v", .kepler)] }

/-- The same profiles in another order. -/
def respelledAnew : Config :=
  { respelled with architectures := [("v", .kepler), ("V", .kepler), ("w", .maxwell)] }

theorem respelled_ignores_order :
    respelled.LimitsAgree ∧ respelledAnew.registry = respelled.registry ∧
      respelledAnew.profile = respelled.profile := by
  have agree : respelled.LimitsAgree := by decide +kernel
  have reordered : respelled.Reorders respelledAnew :=
    reorders_of_perm (by decide +kernel)
  obtain ⟨registry, -, after⟩ := registry_ignores_order_iff respelled
  exact ⟨agree, registry.mpr agree _ reordered, (after agree _ reordered).1⟩

end KernelSweep.Config

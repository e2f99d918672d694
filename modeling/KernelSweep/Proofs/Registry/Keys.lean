import KernelSweep.Proofs.Registry
import KernelSweep.Proofs.Text.ByteOrder
import KernelSweep.Proofs.Text.Cuts
import KernelSweep.Proofs.Text.LowerCase

set_option autoImplicit false

namespace KernelSweep.Registry

section Table

variable {α : Type} {key : String} {value : α} {table : List (String × α)}

theorem mem_of_mem_insertKey {entry : String × α} (member : entry ∈ insertKey key value table) :
    entry = (key, value) ∨ entry ∈ table := by
  induction table with
  | nil => exact .inl (List.mem_singleton.mp member)
  | cons first rest ih =>
    unfold insertKey at member
    split at member
    · exact List.mem_cons.mp member
    · split at member
      · rcases List.mem_cons.mp member with new | later
        · exact .inl new
        · exact .inr (List.mem_cons_of_mem _ later)
      · rcases List.mem_cons.mp member with same | later
        · exact .inr (same ▸ List.mem_cons_self)
        · rcases ih later with new | old
          · exact .inl new
          · exact .inr (List.mem_cons_of_mem _ old)

def Ascending (table : List (String × α)) : Prop := table.Pairwise fun a b => a.1 < b.1

theorem ascending_insertKey (ascending : Ascending table) :
    Ascending (insertKey key value table) := by
  induction table with
  | nil => exact List.pairwise_singleton ..
  | cons first rest ih =>
    obtain ⟨above, later⟩ := List.pairwise_cons.mp ascending
    unfold insertKey
    split
    · rename_i before
      refine List.pairwise_cons.mpr ⟨?_, ascending⟩
      intro entry member
      rcases List.mem_cons.mp member with rfl | behind
      · exact before
      · exact String.lt_trans before (above entry behind)
    · split
      · rename_i same
        exact List.pairwise_cons.mpr ⟨fun entry member => same ▸ above entry member, later⟩
      · rename_i notBefore different
        refine List.pairwise_cons.mpr ⟨?_, ih later⟩
        intro entry member
        rcases mem_of_mem_insertKey member with rfl | old
        · exact lt_of_not_lt notBefore different
        · exact above entry old

theorem lookup_of_mem_ascending (ascending : Ascending table) (member : (key, value) ∈ table) :
    table.lookup key = some value := by
  obtain ⟨before, after, rfl⟩ := List.append_of_mem member
  refine List.lookup_eq_some_iff.mpr ⟨before, after, rfl, ?_⟩
  intro entry earlier
  have less := (List.pairwise_append.mp ascending).2.2 entry earlier (key, value) (by simp)
  simpa using (Std.ne_of_lt less).symm

end Table

/-- Profiles stand under their own names, which are in lower case and in ascending order. -/
structure IsKept (r : Registry) : Prop where
  lower : ∀ entry ∈ r.entries, Text.lower entry.1 = entry.1
  named : ∀ entry ∈ r.entries, entry.2.name = entry.1
  ascending : Ascending r.entries

theorem isKept_builtIn : builtIn.IsKept :=
  ⟨by decide +kernel, by decide, by unfold Ascending; decide +kernel⟩

theorem IsKept.add {r : Registry} (kept : r.IsKept) (name : String) (p : Profile) :
    (r.add name p).IsKept where
  lower entry member := by
    rcases mem_of_mem_insertKey member with rfl | old
    · exact Text.lower_lower name
    · exact kept.lower entry old
  named entry member := by
    rcases mem_of_mem_insertKey member with rfl | old
    · rfl
    · exact kept.named entry old
  ascending := ascending_insertKey kept.ascending

/-- The registry after some profiles were added to the built-in ones, in this order. -/
def after (additions : List (String × Profile)) : Registry :=
  additions.foldl (fun r (name, p) => r.add name p) builtIn

theorem isKept_after (additions : List (String × Profile)) : (after additions).IsKept := by
  unfold after
  generalize start : builtIn = r
  have kept : r.IsKept := start ▸ isKept_builtIn
  clear start
  induction additions generalizing r with
  | nil => exact kept
  | cons addition rest ih => exact ih _ (kept.add addition.1 addition.2)

/-- What is known of a registry at any time: the names are in lower case, each profile has the name
it stands under and is found again by it, the names are in the order of their bytes, and they are
the names that have an answer, case ignored. -/
structure IsMap (r : Registry) : Prop where
  lower : ∀ entry ∈ r.entries, Text.lower entry.1 = entry.1
  named : ∀ entry ∈ r.entries, entry.2.name = entry.1
  found : ∀ entry ∈ r.entries, r.lookup entry.2.name = .ok entry.2
  ascending : r.names.Pairwise fun a b => Text.encode a < Text.encode b
  answered : ∀ name, (∃ p, r.lookup name = .ok p) ↔ Text.lower name ∈ r.names

theorem exists_lookup_iff (r : Registry) (name : String) :
    (∃ p, r.lookup name = .ok p) ↔ Text.lower name ∈ r.names := by
  simp only [lookup_eq_ok_iff, ← Option.isSome_iff_exists, List.lookup_isSome_iff, beq_iff_eq,
    names, List.mem_map, eq_comm (a := Text.lower name)]

theorem IsKept.isMap {r : Registry} (kept : r.IsKept) : r.IsMap where
  lower := kept.lower
  named := kept.named
  found entry member := by
    rw [lookup_eq_ok_iff, kept.named entry member, kept.lower entry member]
    exact lookup_of_mem_ascending kept.ascending member
  ascending := List.pairwise_map.mpr (kept.ascending.imp Text.encode_lt_encode)
  answered := r.exists_lookup_iff

/-- What a name is answered with, given what was added: the last profile added under it in some
spelling, which gets the name and keeps its limits; else the built-in profile of that name; else
that it is not known, with the names that are. -/
inductive Answers (additions : List (String × Profile)) (name : String) :
    Except UnknownProfile Profile → Prop
  | added {before later : List (String × Profile)} {spelling : String} {p : Profile}
    (split : additions = before ++ (spelling, p) :: later)
    (same : Text.lower spelling = Text.lower name)
    (last : ∀ addition ∈ later, Text.lower addition.1 ≠ Text.lower name) :
    Answers additions name (.ok { p with name := Text.lower name })
  | builtIn {p : Profile} (listed : p ∈ [Profile.kepler, .maxwell, .pascal])
    (named : p.name = Text.lower name)
    (others : ∀ addition ∈ additions, Text.lower addition.1 ≠ Text.lower name) :
    Answers additions name (.ok p)
  | unknown (unlisted : ∀ p ∈ [Profile.kepler, .maxwell, .pascal], p.name ≠ Text.lower name)
    (others : ∀ addition ∈ additions, Text.lower addition.1 ≠ Text.lower name) :
    Answers additions name (.error ⟨name, (after additions).names⟩)

section Answers

variable {additions : List (String × Profile)} {name : String}
  {answer : Except UnknownProfile Profile}

theorem lookup_of_answers (answers : Answers additions name answer) :
    (after additions).lookup name = answer := by
  cases answers with
  | @added before later spelling p split same last =>
    rw [lookup_eq_ok_iff, split, after, List.foldl_append, List.foldl_cons,
      lookup_of_others _ last, lookup_add, if_pos same.symm, same]
  | builtIn listed named others =>
    rw [lookup_eq_ok_iff, after, lookup_of_others _ others]
    exact lookup_builtIn_eq_some_iff.mpr ⟨listed, named⟩
  | unknown unlisted others =>
    have missing : (after additions).entries.lookup (Text.lower name) = .none := by
      rw [after, lookup_of_others _ others, Option.eq_none_iff_forall_ne_some]
      intro p found
      obtain ⟨listed, named⟩ := lookup_builtIn_eq_some_iff.mp found
      exact unlisted p listed named
    simp only [lookup, missing]

theorem exists_answers (additions : List (String × Profile)) (name : String) :
    ∃ answer, Answers additions name answer := by
  -- The last addition under the name is the first one from behind.
  rcases Text.forall_or_first (fun a => Text.lower a.1 ≠ Text.lower name) additions.reverse with
    others | ⟨later, ⟨spelling, p⟩, before, split, last, same⟩
  · have others' : ∀ addition ∈ additions, Text.lower addition.1 ≠ Text.lower name := by
      simpa using others
    by_cases known : ∃ p ∈ [Profile.kepler, .maxwell, .pascal], p.name = Text.lower name
    · obtain ⟨p, listed, named⟩ := known
      exact ⟨_, .builtIn listed named others'⟩
    · exact ⟨_, .unknown (fun p listed named => known ⟨p, listed, named⟩) others'⟩
  · have split' : additions = before.reverse ++ (spelling, p) :: later.reverse := by
      rw [← List.reverse_reverse additions, split]
      simp
    exact ⟨_, .added split' (not_not.mp same) (by simpa using last)⟩

theorem lookup_after_eq_iff :
    (after additions).lookup name = answer ↔ Answers additions name answer := by
  constructor
  · rintro rfl
    obtain ⟨answer, answers⟩ := exists_answers additions name
    rw [lookup_of_answers answers]
    exact answers
  · exact lookup_of_answers

end Answers

/-- After any additions to the built-in profiles, in any spelling, the registry is a map from names
in lower case, and a name is answered with what was added last under it. -/
theorem after_additions_is_map (additions : List (String × Profile)) :
    (after additions).IsMap ∧
      ∀ name answer, (after additions).lookup name = answer ↔ Answers additions name answer :=
  ⟨(isKept_after additions).isMap, fun _ _ => lookup_after_eq_iff⟩

end KernelSweep.Registry

import Mathlib.Data.List.Forall2

set_option autoImplicit false

namespace KernelSweep.Success

variable {ε ε' α β : Type}

theorem bind_eq_ok {x : Except ε α} {next : α → Except ε β} {b : β} :
    (x >>= next) = .ok b ↔ ∃ a, x = .ok a ∧ next a = .ok b := by
  cases x <;> simp [bind, Except.bind]

theorem pure_eq_ok {a b : α} : (pure a : Except ε α) = .ok b ↔ a = b := by
  simp [pure, Except.pure]

theorem mapError_eq_ok {x : Except ε α} {f : ε → ε'} {a : α} :
    x.mapError f = .ok a ↔ x = .ok a := by
  cases x <;> simp [Except.mapError]

theorem map_eq_ok {x : Except ε α} {f : α → β} {b : β} :
    x.map f = .ok b ↔ ∃ a, x = .ok a ∧ f a = b := by
  cases x <;> simp [Except.map]

theorem toOption_eq_some {x : Except ε α} {a : α} : x.toOption = some a ↔ x = .ok a := by
  cases x <;> simp [Except.toOption]

/-- A list of checks succeeds when each of them does, and gives their answers in order. -/
theorem mapM_eq_ok {check : α → Except ε β} {xs : List α} {ys : List β} :
    xs.mapM check = .ok ys ↔ List.Forall₂ (fun x y => check x = .ok y) xs ys := by
  induction xs generalizing ys with
  | nil =>
    rw [List.mapM_nil, pure_eq_ok, List.forall₂_nil_left_iff, eq_comm]
  | cons x rest ih =>
    rw [List.mapM_cons, bind_eq_ok, List.forall₂_cons_left_iff]
    constructor
    · rintro ⟨y, checked, later⟩
      obtain ⟨answers, all, done⟩ := bind_eq_ok.mp later
      exact ⟨y, answers, checked, ih.mp all, (pure_eq_ok.mp done).symm⟩
    · rintro ⟨y, answers, checked, all, rfl⟩
      exact ⟨y, checked, bind_eq_ok.mpr ⟨answers, ih.mpr all, rfl⟩⟩

/-- What a check failed with, if it did. -/
def failure? : Except ε α → Option ε
  | .ok _ => none
  | .error e => some e

theorem failure?_eq_none_iff {x : Except ε α} : failure? x = none ↔ ∃ a, x = .ok a := by
  cases x <;> simp [failure?]

theorem failure?_eq_some_iff {x : Except ε α} {e : ε} : failure? x = some e ↔ x = .error e := by
  cases x <;> simp [failure?]

/-- The first fault in a list, if there is one: what stands before it is sound. -/
inductive FirstFault (sound : α → Prop) (fault : α → ε → Prop) (xs : List α) : Option ε → Prop
  | none (all : ∀ x ∈ xs, sound x) : FirstFault sound fault xs none
  | first {before after : List α} {x : α} {e : ε} (split : xs = before ++ x :: after)
    (earlier : ∀ y ∈ before, sound y) (here : fault x e) : FirstFault sound fault xs (some e)

section FirstFault

variable {sound : α → Prop} {fault : α → ε → Prop} {x : α} {xs : List α} {found : Option ε}

theorem firstFault_nil_iff : FirstFault sound fault [] found ↔ found = none := by
  constructor
  · rintro (_ | ⟨split, -, -⟩)
    · rfl
    · simp at split
  · rintro rfl
    exact .none (by simp)

theorem firstFault_cons_iff :
    FirstFault sound fault (x :: xs) found ↔
      (∃ e, fault x e ∧ found = some e) ∨ sound x ∧ FirstFault sound fault xs found := by
  constructor
  · rintro (all | @⟨before, after, y, e, split, earlier, here⟩)
    · obtain ⟨first, later⟩ := List.forall_mem_cons.mp all
      exact .inr ⟨first, .none later⟩
    · cases before with
      | nil =>
        cases split
        exact .inl ⟨e, here, rfl⟩
      | cons z before =>
        cases split
        obtain ⟨first, later⟩ := List.forall_mem_cons.mp earlier
        exact .inr ⟨first, .first rfl later here⟩
  · rintro (⟨e, here, rfl⟩ | ⟨first, all | @⟨before, after, y, e, rfl, earlier, here⟩⟩)
    · exact .first (List.nil_append _).symm (by simp) here
    · exact .none (List.forall_mem_cons.mpr ⟨first, all⟩)
    · exact .first (List.cons_append ..).symm (List.forall_mem_cons.mpr ⟨first, earlier⟩) here

theorem firstFault_none_iff : FirstFault sound fault xs none ↔ ∀ x ∈ xs, sound x := by
  constructor
  · rintro ⟨all⟩
    exact all
  · exact .none

theorem firstFault_some_iff {e : ε} :
    FirstFault sound fault xs (some e) ↔
      ∃ before x after, xs = before ++ x :: after ∧ (∀ y ∈ before, sound y) ∧ fault x e := by
  constructor
  · rintro (_ | ⟨split, earlier, here⟩)
    exact ⟨_, _, _, split, earlier, here⟩
  · rintro ⟨before, x, after, split, earlier, here⟩
    exact .first split earlier here

/-- A list of checks fails with the failure of the first one that does. -/
theorem failure?_mapM_eq_iff {check : α → Except ε β} :
    failure? (xs.mapM check) = found ↔
      FirstFault (fun x => ∃ y, check x = .ok y) (fun x e => check x = .error e) xs found := by
  induction xs with
  | nil => rw [firstFault_nil_iff, List.mapM_nil]; exact eq_comm
  | cons x rest ih =>
    rw [firstFault_cons_iff, ← ih, List.mapM_cons]
    cases check x with
    | error e => simp [failure?, bind, Except.bind, eq_comm]
    | ok y => cases rest.mapM check <;> simp [failure?, bind, Except.bind, pure, Except.pure]

end FirstFault

/-- What is paired on one side has its partner on the other. -/
theorem exists_left_of_mem {R : α → β → Prop} {xs : List α} {ys : List β}
    (paired : List.Forall₂ R xs ys) {y : β} (member : y ∈ ys) : ∃ x ∈ xs, R x y := by
  induction paired with
  | nil => cases member
  | @cons x y' xs ys related _ ih =>
    rcases List.mem_cons.mp member with rfl | later
    · exact ⟨x, by simp, related⟩
    · obtain ⟨x', known, related'⟩ := ih later
      exact ⟨x', by simp [known], related'⟩

end KernelSweep.Success

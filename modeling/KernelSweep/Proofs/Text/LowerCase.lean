import KernelSweep.Text.Lower

set_option autoImplicit false

namespace KernelSweep.Text

/-- First and last character of a run, the distance between its characters, and the distance of each
to its partner. -/
abbrev CaseRun := Nat × Nat × Nat × Int

namespace CaseRun

def Holds (r : CaseRun) (n : Nat) : Prop := r.1 ≤ n ∧ n ≤ r.2.1 ∧ (n - r.1) % r.2.2.1 = 0

def partner (r : CaseRun) (n : Nat) : Nat := (n + r.2.2.2).toNat

/-- The partners of a run lie before another run or behind it, or each of them falls between two of
its characters. -/
def misses (r other : CaseRun) : Bool :=
  (r.partner r.2.1).blt other.1 || other.2.1.blt (r.partner r.1) ||
    (r.1.beq r.2.1 || r.2.2.1.beq 2) && other.2.2.1.beq 2 && ((r.partner r.1 + other.1) % 2).beq 1

theorem not_holds_partner {r other : CaseRun} (missed : r.misses other = true)
    (above : 0 ≤ r.1 + r.2.2.2) {n : Nat} (held : r.Holds n) : ¬ other.Holds (r.partner n) := by
  obtain ⟨first, last, step, shift⟩ := r
  obtain ⟨first', last', step', shift'⟩ := other
  simp only [misses, Holds, partner, Bool.or_eq_true, Bool.and_eq_true, Nat.blt_eq, Nat.beq_eq] at *
  rcases missed with (before | behind) | ⟨⟨single | second, rfl⟩, odd⟩
  · omega
  · omega
  · omega
  · subst second
    omega

end CaseRun

/-- The runs of the table, and the capitals of ASCII in front of them. -/
def caseRuns : List CaseRun := (0x41, 0x5a, 1, 32) :: lowerRuns.toList

theorem caseRuns_miss :
    (caseRuns.all fun r => caseRuns.all (CaseRun.misses r)) = true := by
  decide +kernel

theorem caseRuns_above : ∀ r ∈ caseRuns, 0 < r.1 ∧ 0 ≤ r.1 + r.2.2.2 := by
  decide +kernel

/-- A character that is not in lower case goes to its partner in a run that holds it. -/
theorem lowerChar_cases (c : Char) :
    lowerChar c = c ∨
      ∃ r ∈ caseRuns, r.Holds c.toNat ∧ lowerChar c = Char.ofNat (r.partner c.toNat) := by
  unfold lowerChar
  split
  · rename_i small
    have ascii : ∀ n < 0x80, (Char.ofNat n).toLower = Char.ofNat n ∨
        (0x41 ≤ n ∧ n ≤ 0x5a) ∧ (Char.ofNat n).toLower = Char.ofNat (n + 32) := by
      decide
    have cases := ascii c.toNat small
    rw [Char.ofNat_toNat] at cases
    rcases cases with same | ⟨capital, lowered⟩
    · exact .inl same
    · exact .inr ⟨_, List.mem_cons_self, ⟨capital.1, capital.2, Nat.mod_one _⟩, lowered⟩
  · split
    · rename_i r found
      have held := Array.find?_some found
      simp only [Bool.and_eq_true, decide_eq_true_eq, beq_iff_eq] at held
      have listed : r ∈ lowerRuns.toList := (Array.mem_of_find?_eq_some found).val
      exact .inr ⟨r, List.mem_cons_of_mem _ listed, ⟨held.1.1, held.1.2, held.2⟩, rfl⟩
    · exact .inl rfl

theorem toNat_ofNat_cases (n : Nat) : (Char.ofNat n).toNat = n ∨ (Char.ofNat n).toNat = 0 := by
  by_cases valid : n.isValidChar
  · rw [Char.ofNat, dif_pos valid]
    exact .inl rfl
  · rw [Char.ofNat, dif_neg valid]
    exact .inr rfl

theorem lowerChar_lowerChar (c : Char) : lowerChar (lowerChar c) = lowerChar c := by
  rcases lowerChar_cases c with same | ⟨r, listed, held, lowered⟩
  · rw [same, same]
  · rw [lowered]
    rcases lowerChar_cases (Char.ofNat (r.partner c.toNat)) with same | ⟨other, listed', held', -⟩
    · exact same
    · -- A run that holds the partner would be one that the partners of its own run miss.
      exfalso
      rcases toNat_ofNat_cases (r.partner c.toNat) with code | invalid
      · rw [code] at held'
        have missed : r.misses other = true :=
          List.all_eq_true.mp (List.all_eq_true.mp caseRuns_miss r listed) other listed'
        exact CaseRun.not_holds_partner missed (caseRuns_above r listed).2 held held'
      · rw [invalid] at held'
        exact absurd held'.1 (Nat.not_le.mpr (caseRuns_above other listed').1)

theorem lower_lower (s : String) : lower (lower s) = lower s := by
  apply String.toList_injective
  simp only [lower, String.toList_map, List.map_map, Function.comp_def, lowerChar_lowerChar]

end KernelSweep.Text

import KernelSweep.Text.Blank

set_option autoImplicit false

namespace KernelSweep.Shell

inductive PatternItem where
  | char (c : Char)
  | anyChar
  | anyText
  | oneOf (negated : Bool) (ranges : List (Char × Char))
  deriving DecidableEq, Repr

/-- A character of an expanded word; a quoted one has no special meaning. -/
structure PatternChar where
  char : Char
  quoted : Bool
  deriving DecidableEq, Repr

/-- The ranges inside brackets. -/
def bracketRanges : List PatternChar → List (Char × Char)
  | a :: ⟨'-', false⟩ :: b :: rest => (a.char, b.char) :: bracketRanges rest
  | a :: rest => (a.char, a.char) :: bracketRanges rest
  | [] => []

/-- The characters up to an unquoted closing bracket, and what follows it. -/
def untilBracket : List PatternChar → Option (List PatternChar × List PatternChar)
  | [] => none
  | c :: rest =>
    if c.char = ']' ∧ !c.quoted then some ([], rest)
    else (untilBracket rest).map fun (inside, after) => (c :: inside, after)

theorem untilBracket_length {cs inside after : List PatternChar}
    (found : untilBracket cs = some (inside, after)) : after.length < cs.length := by
  induction cs generalizing inside with
  | nil => cases found
  | cons c rest ih =>
    unfold untilBracket at found
    split at found
    · cases found
      simp
    · obtain ⟨⟨more, tail⟩, deeper, same⟩ := Option.map_eq_some_iff.mp found
      cases same
      have := ih deeper
      simp only [List.length_cons]
      omega

/-- The inside of a bracket expression, whose first character may be the closing bracket itself. -/
def bracket? : List PatternChar → Option (PatternItem × List PatternChar)
  | ⟨'!', false⟩ :: first :: rest =>
    (untilBracket rest).map fun (inside, after) =>
      (.oneOf true (bracketRanges (first :: inside)), after)
  | first :: rest =>
    (untilBracket rest).map fun (inside, after) =>
      (.oneOf false (bracketRanges (first :: inside)), after)
  | [] => none

theorem bracket?_length {cs after : List PatternChar} {item : PatternItem}
    (found : bracket? cs = some (item, after)) : after.length < cs.length := by
  unfold bracket? at found
  split at found
  case h_3 => cases found
  all_goals
    obtain ⟨⟨inside, tail⟩, deeper, same⟩ := Option.map_eq_some_iff.mp found
    cases same
    have := untilBracket_length deeper
    simp only [List.length_cons]
    omega

def patternItems (cs : List PatternChar) : List PatternItem :=
  match cs with
  | [] => []
  | c :: rest =>
    if c.quoted then .char c.char :: patternItems rest
    else if c.char = '*' then .anyText :: patternItems rest
    else if c.char = '?' then .anyChar :: patternItems rest
    else if c.char = '[' then
      match _found : bracket? rest with
      | some (item, after) => item :: patternItems after
      | none => .char '[' :: patternItems rest
    else .char c.char :: patternItems rest
termination_by cs.length
decreasing_by
  all_goals simp only [List.length_cons]
  all_goals first
    | omega
    | have := bracket?_length _found; omega

/-- Whether a text matches as a whole. -/
def patternMatches : List PatternItem → List Char → Bool
  | [], cs => cs.isEmpty
  | .anyText :: items, [] => patternMatches items []
  | .anyText :: items, c :: cs =>
    patternMatches items (c :: cs) || patternMatches (.anyText :: items) cs
  | .anyChar :: items, _ :: cs => patternMatches items cs
  | .char d :: items, c :: cs => c == d && patternMatches items cs
  | .oneOf negated ranges :: items, c :: cs =>
    (ranges.any (fun r => decide (r.1 ≤ c) && decide (c ≤ r.2)) != negated) &&
      patternMatches items cs
  | _, [] => false
termination_by items cs => items.length + cs.length

end KernelSweep.Shell

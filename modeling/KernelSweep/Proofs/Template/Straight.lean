import KernelSweep.Proofs.Template.Literal
import Mathlib.Data.List.Infix

set_option autoImplicit false

namespace KernelSweep.Template

open KernelSweep.Text (Bytes)

/-- What an action shows that decides nothing. -/
inductive Hole where
  | field (name : List Char)
  /-- A string constant, in quotes or raw, and the bytes it stands for. -/
  | quoted (spelling : List Char) (value : Bytes)
  | integer (spelling : List Char) (value : Int)

namespace Hole

def spelling : Hole → List Char
  | field name => '.' :: name
  | quoted spelling _ => spelling
  | integer spelling _ => spelling

def kind : Hole → Kind
  | field _ => .field
  | quoted spelling _ => if spelling.head? = some '"' then .string else .rawString
  | integer .. => .number

/-- Names and constants are spelled as the language of templates spells them. -/
inductive WellFormed : Hole → Prop
  | field {name : List Char} (word : ∀ c ∈ name, Scan.isWord c = true)
    (start : ∃ c, name.head? = some c ∧ c.isDigit = false) : WellFormed (.field name)
  | string {body : List Char} {value : Bytes} (closed : Scan.cutQuote '"' body = some (body, []))
    (means : Constant.unquote (String.ofList ('"' :: body)) = some value) :
    WellFormed (.quoted ('"' :: body) value)
  | raw {body : List Char} {value : Bytes} (apart : '\x60' ∉ body)
    (means : Constant.unquote (String.ofList ('\x60' :: (body ++ ['\x60']))) = some value) :
    WellFormed (.quoted ('\x60' :: (body ++ ['\x60'])) value)
  | integer {spelling : List Char} {value : Int}
    (means : Number.readLiteral spelling = some value) : WellFormed (.integer spelling value)

end Hole

/-- What stands between two braces: a hole, and blanks around it. -/
structure Action where
  before : List Char
  hole : Hole
  after : List Char

namespace Action

def source (a : Action) : List Char :=
  '{' :: '{' :: (a.before ++ (a.hole.spelling ++ (a.after ++ ['}', '}'])))

structure WellFormed (a : Action) : Prop where
  before : ∀ c ∈ a.before, Scan.isSpace c = true
  hole : a.hole.WellFormed
  after : ∀ c ∈ a.after, Scan.isSpace c = true

end Action

/-- A template without control: text, with an action between any two stretches of it. -/
inductive Straight where
  | last (text : List Char)
  | action (text : List Char) (a : Action) (rest : Straight)

namespace Straight

/-- How the template is written. -/
def source : Straight → List Char
  | last text => text
  | action text a rest => text ++ (a.source ++ rest.source)

/-- Two braces in a row open an action. -/
def Opens (text : List Char) : Prop := ['{', '{'] <:+: text

/-- The text opens no action of its own, not even together with the braces of the next one. -/
def WellFormed : Straight → Prop
  | last text => ¬ Opens text
  | action text a rest => ¬ Opens (text ++ ['{']) ∧ a.WellFormed ∧ rest.WellFormed

end Straight

namespace Scan

/-- Where a scan has come to. -/
structure Place where
  mode : Mode
  position : Position
  rest : List Char

def Place.tokens (fuel : Nat) (a : Place) : List Token := run fuel a.mode a.position a.rest

/-- From one place to another there are these tokens. -/
def Scans (a : Place) (ts : List Token) (b : Place) : Prop :=
  ∀ fuel, a.tokens (ts.length + fuel) = ts ++ b.tokens fuel

theorem Scans.refl (a : Place) : Scans a [] a := by
  intro fuel
  rw [List.length_nil, Nat.zero_add, List.nil_append]

theorem Scans.trans {a b c : Place} {ts us : List Token} (first : Scans a ts b)
    (second : Scans b us c) : Scans a (ts ++ us) c := by
  intro fuel
  rw [List.length_append, Nat.add_assoc, first, second, List.append_assoc]

theorem Scans.of_step {a b : Place} {t : Token}
    (here : step a.mode a.position a.rest = .token t b.mode b.position b.rest) :
    Scans a [t] b := by
  intro fuel
  rw [List.length_singleton, Nat.add_comm, Place.tokens, run, here]
  rfl

theorem Position.after_append (p : Position) (cs ds : List Char) :
    p.after (cs ++ ds) = (p.after cs).after ds := List.foldl_append

section Text

variable {text inner : List Char} {p : Position} {c : Char}

theorem cutBraces_cons (apart : ¬ ['{', '{'] <+: c :: text) :
    cutBraces (c :: text) = (c :: (cutBraces text).1, (cutBraces text).2) := by
  rw [cutBraces]
  rintro rest rfl rfl
  exact apart ⟨rest, rfl⟩

theorem cutBraces_of_not_opens (apart : ¬ Straight.Opens text) :
    cutBraces text = (text, none) := by
  induction text with
  | nil => rfl
  | cons c rest ih =>
    rw [Straight.Opens, List.infix_cons_iff, not_or] at apart
    rw [cutBraces_cons apart.1, ih apart.2]

theorem cutBraces_append (apart : ¬ Straight.Opens (text ++ ['{'])) :
    cutBraces (text ++ '{' :: '{' :: inner) = (text, some inner) := by
  induction text with
  | nil => rfl
  | cons c rest ih =>
    rw [List.cons_append, Straight.Opens, List.infix_cons_iff, not_or] at apart
    have here : ¬ ['{', '{'] <+: c :: (rest ++ '{' :: '{' :: inner) := by
      intro opens
      apply apart.1
      cases rest with
      | nil => simpa using opens
      | cons d rest => simpa using opens
    rw [List.cons_append, cutBraces_cons here, ih apart.2]

/-- The token of a piece of text, none for no text. -/
def textTokens (p : Position) (text : List Char) : List Token :=
  if text = [] then [] else [⟨.text, String.ofList text, p⟩]

theorem scans_text (apart : ¬ Straight.Opens (text ++ ['{'])) (kept : leftTrim inner = false) :
    Scans ⟨.text, p, text ++ '{' :: '{' :: inner⟩ (textTokens p text)
      ⟨.text, p.after text, '{' :: '{' :: inner⟩ := by
  by_cases empty : text = []
  · subst empty
    exact .refl _
  · rw [textTokens, if_neg empty]
    apply Scans.of_step
    have filled : text.isEmpty = false := by simpa using empty
    simp only [step, textStep, cutBraces_append apart, kept, Bool.false_eq_true, ↓reduceIte, filled]

theorem scans_leftBraces (kept : leftTrim inner = false) (plain : inner.head? ≠ some '/') :
    Scans ⟨.text, p, '{' :: '{' :: inner⟩ [⟨.leftBraces, "\x7b\x7b", p⟩]
      ⟨.action 0, p.after ['{', '{'], inner⟩ := by
  apply Scans.of_step
  have cut : cutBraces ('{' :: '{' :: inner) = ([], .some inner) := rfl
  simp only [step, textStep, cut, kept, Bool.false_eq_true, ↓reduceIte, List.isEmpty_nil,
    openBraces, List.length_nil, List.drop_zero]
  split
  · exact absurd rfl plain
  · rfl

theorem scans_rightBraces : Scans ⟨.action 0, p, '}' :: '}' :: text⟩
    [⟨.rightBraces, "\x7d\x7d", p⟩] ⟨.text, p.after ['}', '}'], text⟩ :=
  .of_step rfl

theorem tokens_last (apart : ¬ Straight.Opens text) (fuel : Nat) :
    Place.tokens ((textTokens p text).length + (fuel + 1)) ⟨.text, p, text⟩ =
      textTokens p text ++ [⟨.finish, "", p.after text⟩] := by
  have cut := cutBraces_of_not_opens apart
  by_cases empty : text = []
  · subst empty
    rfl
  · have step : Scans ⟨.text, p, text⟩ (textTokens p text) ⟨.text, p.after text, []⟩ := by
      rw [textTokens, if_neg empty]
      apply Scans.of_step
      simp only [step, textStep, cut]
      rfl
    rw [step]
    rfl

end Text

section Action

variable {rest tail : List Char} {p : Position} {c : Char}

theorem isSpace_of_isDigit (digit : c.isDigit = true) : isSpace c = false := by
  by_contra other
  simp only [isSpace, Bool.not_eq_false, Bool.or_eq_true, beq_iff_eq] at other
  rcases other with ((rfl | rfl) | rfl) | rfl <;> cases digit

theorem leftTrim_of_solid (apart : ∀ c tail, rest = '-' :: c :: tail → isSpace c = false) :
    leftTrim rest = false := by
  unfold leftTrim
  split
  · exact apart _ _ rfl
  · rfl

theorem closing_of_solid (open' : c ≠ '}') (solid : isSpace c = false) :
    closing (c :: rest) = none := by
  unfold closing
  split
  · rename_i found
    exact absurd (List.cons.inj found).1 open'
  · rename_i found
    obtain ⟨rfl, -⟩ := List.cons.inj found
    rw [solid]
    rfl
  · rfl

/-- What stands behind the hole of an action: blanks and closing braces. -/
def Closes (rest : List Char) : Prop :=
  ∃ blanks tail, rest = blanks ++ '}' :: '}' :: tail ∧ ∀ c ∈ blanks, isSpace c = true

theorem Closes.ends (closes : Closes rest) : Ends rest := by
  obtain ⟨blanks, tail, rfl, all⟩ := closes
  intro c first
  cases blanks with
  | nil =>
    cases first
    decide
  | cons d blanks =>
    obtain rfl : d = c := by simpa using first
    have blank := all d List.mem_cons_self
    simp only [isSpace, Bool.or_eq_true, beq_iff_eq] at blank
    rcases blank with ((rfl | rfl) | rfl) | rfl <;> decide

theorem Closes.atTerminator (closes : Closes rest) : atTerminator rest = true := by
  obtain ⟨blanks, tail, rfl, all⟩ := closes
  cases blanks with
  | nil => rfl
  | cons d blanks =>
    have blank := all d List.mem_cons_self
    simp only [isSpace, Bool.or_eq_true, beq_iff_eq] at blank
    rcases blank with ((rfl | rfl) | rfl) | rfl <;> rfl

theorem scans_field {name : List Char} (word : ∀ c ∈ name, isWord c = true)
    (start : ∃ c, name.head? = some c ∧ c.isDigit = false) (closes : Closes rest) :
    Scans ⟨.action 0, p, '.' :: (name ++ rest)⟩ [⟨.field, String.ofList ('.' :: name), p⟩]
      ⟨.action 0, p.after ('.' :: name), rest⟩ := by
  obtain ⟨c, first, digit⟩ := start
  obtain ⟨name, rfl⟩ := List.head?_eq_some_iff.mp first
  have ends := closes.ends.not (p := isWord) (by decide +kernel)
  have open' : closing ('.' :: (c :: name ++ rest)) = none := closing_of_solid (by decide) rfl
  apply Scans.of_step
  simp only [step, actionStep, open']
  simp only [List.cons_append, digit, Bool.false_eq_true, ↓reduceIte, wordStep]
  rw [← List.cons_append, takeWhile_append word ends, dropWhile_append word ends]
  simp [closes.atTerminator, token]

theorem cutQuote_append {quote : Char} (plain : quote ≠ '\\') {cs body : List Char}
    (closed : cutQuote quote cs = some (body, tail)) :
    cutQuote quote (cs ++ rest) = some (body, tail ++ rest) := by
  fun_induction cutQuote quote cs generalizing body tail with
  | case1 => cases closed
  | case2 => cases closed
  | case3 c cs feed ih =>
    obtain ⟨⟨inner, left⟩, cut, same⟩ := Option.map_eq_some_iff.mp closed
    cases same
    simp only [List.cons_append, cutQuote, feed, ↓reduceIte, ih cut, Option.map_some]
  | case4 => cases closed
  | case5 cs _ feed =>
    cases closed
    rw [List.cons_append, cutQuote, if_neg feed, if_pos rfl]
    intro _ _ escape
    exact absurd escape plain
  | case6 c cs escaped feed other ih =>
    obtain ⟨⟨inner, left⟩, cut, same⟩ := Option.map_eq_some_iff.mp closed
    cases same
    rw [List.cons_append, cutQuote, if_neg feed, if_neg other, ih cut, Option.map_some]
    rintro d later rfl follows
    cases cs with
    | nil => cases cut
    | cons d cs => exact escaped d cs rfl rfl

theorem scans_string {body : List Char} (closed : cutQuote '"' body = some (body, [])) :
    Scans ⟨.action 0, p, '"' :: (body ++ rest)⟩ [⟨.string, String.ofList ('"' :: body), p⟩]
      ⟨.action 0, p.after ('"' :: body), rest⟩ := by
  have open' : closing ('"' :: (body ++ rest)) = none := closing_of_solid (by decide) rfl
  apply Scans.of_step
  simp only [step, actionStep, open', quoteStep, cutQuote_append (by decide) closed]
  rfl

theorem scans_raw {body : List Char} (apart : '\x60' ∉ body) :
    Scans ⟨.action 0, p, '\x60' :: (body ++ '\x60' :: rest)⟩
      [⟨.rawString, String.ofList ('\x60' :: (body ++ ['\x60'])), p⟩]
      ⟨.action 0, p.after ('\x60' :: (body ++ ['\x60'])), rest⟩ := by
  have open' : closing ('\x60' :: (body ++ '\x60' :: rest)) = none :=
    closing_of_solid (by decide) rfl
  apply Scans.of_step
  simp only [step, actionStep, open', rawStep,
    Text.cutList_append (Text.apart_of_not_mem apart) (beq_self_eq_true '\x60')]
  rfl

/-- Characters that only a number begins with. -/
theorem actionStep_number {c : Char} (number : c = '+' ∨ c = '-' ∨ c.isDigit = true) :
    actionStep 0 p (c :: rest) = numberStep 0 p (c :: rest) := by
  have blank : isSpace c = false := by
    rcases number with rfl | rfl | digit
    · rfl
    · rfl
    · exact isSpace_of_isDigit digit
  have starts : (c == '.' || c == '+' || c == '-' || c.isDigit) = true := by
    simp only [Bool.or_eq_true, beq_iff_eq]
    tauto
  have open' : closing (c :: rest) = none := by
    refine closing_of_solid ?_ blank
    rintro rfl
    simp at number
  simp only [actionStep, open']
  -- Every case but the last one is about another first character.
  split <;> simp_all

theorem scans_number {cs : List Char} (literal : IsLiteral cs) (closes : Closes rest) :
    Scans ⟨.action 0, p, cs ++ rest⟩ [⟨.number, String.ofList cs, p⟩]
      ⟨.action 0, p.after cs, rest⟩ := by
  have first : ∃ c digits, cs = c :: digits ∧ (c = '+' ∨ c = '-' ∨ c.isDigit = true) := by
    obtain ⟨sign, unsigned, rfl, known, shape⟩ := literal
    rcases signs_of_mem known with rfl | rfl | rfl
    · obtain ⟨c, digits, rfl, digit⟩ := shape.head
      exact ⟨c, digits, rfl, .inr (.inr digit)⟩
    · exact ⟨'+', unsigned, rfl, by simp⟩
    · exact ⟨'-', unsigned, rfl, by simp⟩
  obtain ⟨c, digits, rfl, number⟩ := first
  apply Scans.of_step
  simp only [step, List.cons_append, actionStep_number number, numberStep]
  rw [← List.cons_append, takeNumber_append literal closes.ends]
  cases rest with
  | nil => rfl
  | cons d rest =>
    have apart : ¬ (d = '+' ∨ d = '-') := by
      simpa using closes.ends.not (p := fun c => decide (c = '+' ∨ c = '-')) (by decide) d rfl
    simp only [if_neg apart]
    rfl

/-- A minus sign and closing braces would trim the text behind the action. -/
def Trims (rest : List Char) : Prop := ['-', '}', '}'] <+: rest

/-- The token of a run of blanks, none for no blank. -/
def blankTokens (p : Position) (blanks : List Char) : List Token :=
  if blanks = [] then [] else [⟨.space, String.ofList blanks, p⟩]

theorem scans_blanks {blanks : List Char} (all : ∀ c ∈ blanks, isSpace c = true)
    (solid : ∀ c, rest.head? = some c → isSpace c = false) (keeps : ¬ Trims rest) :
    Scans ⟨.action 0, p, blanks ++ rest⟩ (blankTokens p blanks)
      ⟨.action 0, p.after blanks, rest⟩ := by
  cases blanks with
  | nil => exact .refl _
  | cons c blanks =>
    have blank := all c List.mem_cons_self
    have apart : c ≠ '}' := by
      rintro rfl
      cases blank
    have open' : closing (c :: (blanks ++ rest)) = none := by
      unfold closing
      split
      · rename_i found
        exact absurd (List.cons.inj found).1 apart
      · rename_i tail found
        obtain ⟨rfl, follows⟩ := List.cons.inj found
        cases blanks with
        | nil => exact absurd ⟨tail, follows.symm⟩ keeps
        | cons d blanks =>
          have blank' := all d (by simp)
          rw [(List.cons.inj follows).1] at blank'
          cases blank'
      · rfl
    have space : actionStep 0 p (c :: (blanks ++ rest)) =
        spaceStep 0 p (c :: (blanks ++ rest)) := by
      simp only [isSpace, Bool.or_eq_true, beq_iff_eq] at blank
      rcases blank with ((rfl | rfl) | rfl) | rfl <;> simp only [actionStep, open'] <;> rfl
    have run : (c :: (blanks ++ rest)).takeWhile isSpace = c :: blanks :=
      takeWhile_append all solid
    have left : (c :: (blanks ++ rest)).dropWhile isSpace = rest := dropWhile_append all solid
    apply Scans.of_step
    simp only [step, List.cons_append, space, spaceStep, run, left]
    split
    · exact absurd ⟨_, rfl⟩ keeps
    · rfl

end Action

end Scan

namespace Hole

def token (h : Hole) (p : Position) : Token := ⟨h.kind, String.ofList h.spelling, p⟩

/-- No hole is spelled so that the braces before it would trim or begin a comment. -/
theorem WellFormed.front {h : Hole} (formed : h.WellFormed) :
    ∃ c more, h.spelling = c :: more ∧ Scan.isSpace c = false ∧ c ≠ '/' ∧
      (c = '-' → ∃ d later, more = d :: later ∧ d.isDigit = true) := by
  cases formed with
  | field => exact ⟨'.', _, rfl, rfl, by decide, by simp⟩
  | string => exact ⟨'"', _, rfl, rfl, by decide, by simp⟩
  | raw => exact ⟨'\x60', _, rfl, rfl, by decide, by simp⟩
  | @integer spelling value means =>
    obtain ⟨sign, unsigned, rfl, known, shape⟩ := isLiteral_of_readLiteral means
    obtain ⟨first, digits, rfl, digit⟩ := shape.head
    rcases signs_of_mem known with rfl | rfl | rfl
    · refine ⟨first, digits, rfl, Scan.isSpace_of_isDigit digit, ?_, ?_⟩
      · rintro rfl
        cases digit
      · rintro rfl
        cases digit
    · exact ⟨'+', _, rfl, rfl, by decide, by simp⟩
    · exact ⟨'-', _, rfl, rfl, by decide, fun _ => ⟨first, digits, rfl, digit⟩⟩

theorem WellFormed.not_trims {h : Hole} (formed : h.WellFormed) (rest : List Char) :
    ¬ Scan.Trims (h.spelling ++ rest) := by
  obtain ⟨c, more, spelled, -, -, minus⟩ := formed.front
  rintro ⟨tail, trims⟩
  rw [spelled] at trims
  obtain ⟨rfl, follows⟩ := List.cons.inj trims
  obtain ⟨d, later, rfl, digit⟩ := minus rfl
  rw [← (List.cons.inj follows).1] at digit
  cases digit

theorem WellFormed.scans {h : Hole} (formed : h.WellFormed) {rest : List Char}
    (closes : Scan.Closes rest) (p : Position) :
    Scan.Scans ⟨.action 0, p, h.spelling ++ rest⟩ [h.token p]
      ⟨.action 0, p.after h.spelling, rest⟩ := by
  cases formed with
  | field word start => exact Scan.scans_field word start closes
  | string closed => exact Scan.scans_string closed
  | @raw body value apart =>
    rw [spelling, List.cons_append, List.append_assoc]
    exact Scan.scans_raw apart
  | integer means => exact Scan.scans_number (isLiteral_of_readLiteral means) closes

end Hole

namespace Action

variable {a : Action}

/-- The tokens of an action from its opening braces to its closing ones. -/
def tokens (a : Action) (p : Position) : List Token :=
  let opened := p.after ['{', '{']
  let here := opened.after a.before
  let shown := here.after a.hole.spelling
  [⟨.leftBraces, "\x7b\x7b", p⟩] ++ (Scan.blankTokens opened a.before ++ ([a.hole.token here] ++
    (Scan.blankTokens shown a.after ++ [⟨.rightBraces, "\x7d\x7d", shown.after a.after⟩])))

theorem WellFormed.leftTrim (formed : a.WellFormed) (rest : List Char) :
    Scan.leftTrim (a.before ++ (a.hole.spelling ++ rest)) = false := by
  obtain ⟨c, more, spelled, -, -, minus⟩ := formed.hole.front
  apply Scan.leftTrim_of_solid
  intro d tail split
  cases front : a.before with
  | nil =>
    rw [front, spelled] at split
    obtain ⟨signed, follows⟩ := List.cons.inj split
    obtain ⟨e, later, rfl, digit⟩ := minus signed
    rw [← (List.cons.inj follows).1]
    exact Scan.isSpace_of_isDigit digit
  | cons e blanks =>
    rw [front] at split
    have blank := formed.before e (by simp [front])
    rw [(List.cons.inj split).1] at blank
    cases blank

theorem WellFormed.head (formed : a.WellFormed) (rest : List Char) :
    (a.before ++ (a.hole.spelling ++ rest)).head? ≠ some '/' := by
  obtain ⟨c, more, spelled, -, slash, -⟩ := formed.hole.front
  cases front : a.before with
  | nil => simpa [spelled] using slash
  | cons e blanks =>
    have blank := formed.before e (by simp [front])
    rintro first
    obtain rfl : e = '/' := by simpa using first
    cases blank

/-- An action is scanned piece by piece, and what stands behind it is left. -/
theorem WellFormed.scans (formed : a.WellFormed) (rest : List Char) (p : Position) :
    Scan.Scans ⟨.text, p, a.source ++ rest⟩ (a.tokens p) ⟨.text, p.after a.source, rest⟩ := by
  obtain ⟨c, more, spelled, solid, -, -⟩ := formed.hole.front
  have blank : ∀ d, (a.hole.spelling ++ (a.after ++ '}' :: '}' :: rest)).head? = some d →
      Scan.isSpace d = false := by
    intro d first
    rw [spelled] at first
    cases first
    exact solid
  have braces : ∀ d, ('}' :: '}' :: rest).head? = some d → Scan.isSpace d = false := by
    rintro d first
    cases first
    rfl
  have keeps : ¬ Scan.Trims ('}' :: '}' :: rest) := by
    rintro ⟨tail, trims⟩
    cases trims
  have source : a.source ++ rest =
      '{' :: '{' :: (a.before ++ (a.hole.spelling ++ (a.after ++ '}' :: '}' :: rest))) := by
    simp [source]
  have position : p.after a.source =
      ((((p.after ['{', '{']).after a.before).after a.hole.spelling).after a.after).after
        ['}', '}'] := by
    simp only [← Scan.Position.after_append]
    simp [Action.source]
  rw [source, position]
  exact (Scan.scans_leftBraces (formed.leftTrim _) (formed.head _)).trans
    ((Scan.scans_blanks formed.before blank (formed.hole.not_trims _)).trans
      ((formed.hole.scans ⟨a.after, rest, rfl, formed.after⟩ _).trans
        ((Scan.scans_blanks formed.after braces keeps).trans Scan.scans_rightBraces)))

end Action

namespace Straight

/-- The tokens of a template from a place on. -/
def tokens (p : Position) : Straight → List Token
  | last text => Scan.textTokens p text ++ [⟨.finish, "", p.after text⟩]
  | action text a rest =>
    let here := p.after text
    Scan.textTokens p text ++ (a.tokens here ++ rest.tokens (here.after a.source))

theorem length_textTokens_le (p : Position) (text : List Char) :
    (Scan.textTokens p text).length ≤ text.length := by
  unfold Scan.textTokens
  split_ifs with empty
  · exact Nat.zero_le _
  · exact List.length_pos_iff.mpr empty

theorem length_tokens_le (t : Straight) (p : Position) :
    (t.tokens p).length ≤ 2 * t.source.length + 1 := by
  induction t generalizing p with
  | last text =>
    have front := length_textTokens_le p text
    simp only [tokens, source, List.length_append, List.length_singleton]
    omega
  | action text a rest ih =>
    have front := length_textTokens_le p text
    have later := ih ((p.after text).after a.source)
    have few : (a.tokens (p.after text)).length ≤ 5 := by
      unfold Action.tokens Scan.blankTokens
      split_ifs <;> simp
    have wide : 4 ≤ a.source.length := by
      simp only [Action.source, List.length_append, List.length_cons, List.length_nil]
      omega
    simp only [tokens, source, List.length_append]
    omega

theorem WellFormed.run {t : Straight} (formed : t.WellFormed) (p : Position) (fuel : Nat) :
    Scan.Place.tokens ((t.tokens p).length + fuel) ⟨.text, p, t.source⟩ = t.tokens p := by
  induction t generalizing p fuel with
  | last text =>
    rw [tokens, List.length_append, Nat.add_assoc, List.length_singleton, Nat.add_comm 1]
    exact Scan.tokens_last formed fuel
  | action text a rest ih =>
    obtain ⟨apart, action, later⟩ := formed
    have front : Scan.Scans ⟨.text, p, text ++ (a.source ++ rest.source)⟩ (Scan.textTokens p text)
        ⟨.text, p.after text, a.source ++ rest.source⟩ := by
      have kept := action.leftTrim (a.after ++ '}' :: '}' :: rest.source)
      simpa [Action.source] using Scan.scans_text (p := p) apart kept
    rw [source, tokens, ← List.append_assoc, List.length_append, Nat.add_assoc,
      front.trans (action.scans _ _), ih later]

/-- A template is taken apart where it was put together. -/
theorem WellFormed.scan {t : Straight} (formed : t.WellFormed) :
    Token.scan (String.ofList t.source) = t.tokens .start := by
  have enough := t.length_tokens_le .start
  have fuel : 2 * t.source.length + 2 =
      (t.tokens .start).length + (2 * t.source.length + 2 - (t.tokens .start).length) := by omega
  rw [Token.scan, String.toList_ofList, fuel]
  exact formed.run .start _

end Straight

end KernelSweep.Template

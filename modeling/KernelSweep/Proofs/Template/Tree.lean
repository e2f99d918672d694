import KernelSweep.Proofs.Template.Straight
import KernelSweep.Template.Parse

set_option autoImplicit false

namespace KernelSweep.Template

open KernelSweep.Text (Bytes)

namespace Parse

variable {α β : Type} {p : Parser α} {f : α → Parser β} {a : α} {b : β}
variable {t : Token} {ts mid rest : List Token}

/-- The parser answers and leaves the rest of the tokens. What else it changes is for messages
only. -/
def Reads (p : Parser α) (ts : List Token) (a : α) (rest : List Token) : Prop :=
  ∀ s : State, s.tokens = ts → ∃ latest actionLine,
    p s = .ok (a, { s with tokens := rest, latest, actionLine })

def Fails (p : Parser α) (ts : List Token) : Prop :=
  ∀ s : State, s.tokens = ts → ∃ e, p s = .error e

theorem Reads.bind (first : Reads p ts a mid) (second : Reads (f a) mid b rest) :
    Reads (p >>= f) ts b rest := by
  intro s here
  obtain ⟨latest, line, read⟩ := first s here
  obtain ⟨latest', line', read'⟩ := second { s with tokens := mid, latest, actionLine := line } rfl
  exact ⟨latest', line', by simp only [Bind.bind, StateT.bind, read, Except.bind, read']⟩

theorem Reads.fails (first : Reads p ts a mid) (second : Fails (f a) mid) :
    Fails (p >>= f) ts := by
  intro s here
  obtain ⟨latest, line, read⟩ := first s here
  obtain ⟨e, failed⟩ := second { s with tokens := mid, latest, actionLine := line } rfl
  exact ⟨e, by simp only [Bind.bind, StateT.bind, read, Except.bind, failed]⟩

theorem Fails.bind (failed : Fails p ts) : Fails (p >>= f) ts := by
  intro s here
  obtain ⟨e, failed⟩ := failed s here
  exact ⟨e, by simp only [Bind.bind, StateT.bind, failed, Except.bind]⟩

theorem reads_pure (a : α) (ts : List Token) : Reads (pure a) ts a ts := by
  rintro s rfl
  exact ⟨s.latest, s.actionLine, rfl⟩

theorem fails_fail (cause : ParseCause) (ts : List Token) : Fails (fail cause : Parser α) ts := by
  intro s _
  exact ⟨_, rfl⟩

theorem reads_get {g : State → Parser α} (later : ∀ s, s.tokens = ts → Reads (g s) ts a rest) :
    Reads (get >>= g) ts a rest := by
  intro s here
  exact later s here s here

theorem reads_modify {change : State → State}
    (kept : ∀ s, s.tokens = ts → ∃ line, change s = { s with tokens := rest, actionLine := line }) :
    Reads (modify change) ts () rest := by
  intro s here
  obtain ⟨line, changed⟩ := kept s here
  exact ⟨s.latest, line, by rw [← changed]; rfl⟩

theorem reads_setLine (line : Option Nat) (ts : List Token) :
    Reads (modify fun s => { s with actionLine := line }) ts () ts :=
  reads_modify fun _ here => ⟨line, by rw [← here]⟩

/-- Tokens that were taken can be put back. -/
theorem reads_restore (saved ts : List Token) :
    Reads (modify fun s => { s with tokens := saved }) ts () saved :=
  reads_modify fun s _ => ⟨s.actionLine, rfl⟩

theorem reads_peek : Reads peek (t :: rest) t (t :: rest) := by
  intro s here
  refine ⟨max s.latest t.start.line, s.actionLine, ?_⟩
  rw [← here]
  have first : s.tokens.headD ended = t := by rw [here]; rfl
  rw [← first]
  rfl

theorem reads_next (filled : rest ≠ []) : Reads next (t :: rest) t rest := by
  refine reads_peek.bind (Reads.bind (reads_modify ?_) (reads_pure t rest))
  intro s here
  have long : ¬ (t :: rest).length ≤ 1 := by
    rw [List.length_cons, Nat.not_le]
    exact Nat.lt_add_of_pos_left (List.length_pos_iff.mpr filled)
  refine ⟨s.actionLine, ?_⟩
  rw [here, if_neg long, List.tail_cons]

/-- At most one token, of blanks. -/
def IsBlank (ts : List Token) : Prop := ts = [] ∨ ∃ t, ts = [t] ∧ t.kind = .space

theorem isBlank_blankTokens (p : Position) (blanks : List Char) :
    IsBlank (Scan.blankTokens p blanks) := by
  unfold Scan.blankTokens
  split_ifs
  · exact .inl rfl
  · exact .inr ⟨_, rfl, rfl⟩

theorem reads_peekNonSpace (blank : IsBlank ts) (solid : t.kind ≠ .space) :
    Reads peekNonSpace (ts ++ t :: rest) t (t :: rest) := by
  rcases blank with rfl | ⟨b, rfl, space⟩
  · refine reads_peek.bind ?_
    rw [if_neg solid]
    exact reads_pure t _
  · refine reads_peek.bind ?_
    rw [if_pos space]
    exact (reads_next (List.cons_ne_nil _ _)).bind reads_peek

theorem reads_nextNonSpace (blank : IsBlank ts) (solid : t.kind ≠ .space) (filled : rest ≠ []) :
    Reads nextNonSpace (ts ++ t :: rest) t rest :=
  (reads_peekNonSpace blank solid).bind (reads_next filled)

end Parse

namespace Hole

variable {h : Hole} {fuel : Nat} {p : Position} {rest : List Token}

/-- What a hole is in the tree, unless it is an integer that cannot be read. -/
def operand? (h : Hole) (p : Position) : Option Operand :=
  let mark : Mark := ⟨p, String.ofList h.spelling⟩
  match h with
  | field name => some (.field mark [String.ofList name])
  | quoted _ value => some (.constant mark (some (.text value)))
  | integer spelling _ =>
    (Constant.number (String.ofList spelling)).toOption.map (.constant mark)

theorem kind_mem (h : Hole) : h.kind ∈ [Kind.field, .string, .rawString, .number] := by
  cases h with
  | field => simp [kind]
  | quoted spelling value =>
    rw [kind]
    split_ifs <;> simp
  | integer => simp [kind]

theorem kind_token_ne (h : Hole) (p : Position) {k : Kind}
    (other : k ∉ [Kind.field, .string, .rawString, .number]) : (h.token p).kind ≠ k :=
  fun same => other (same ▸ h.kind_mem)

theorem fieldName_eq (name : List Char) :
    Parse.fieldName (String.ofList ('.' :: name)) = String.ofList name := by
  rw [Parse.fieldName, String.toList_ofList]
  rfl

theorem WellFormed.reads_term (formed : h.WellFormed) {o : Operand} (read : h.operand? p = some o)
    (filled : rest ≠ []) :
    Parse.Reads (Parse.term (fuel + 1)) (h.token p :: rest) (.some o) rest := by
  unfold Parse.term
  refine (Parse.reads_peekNonSpace (.inl rfl) (h.kind_token_ne p (by decide))).bind ?_
  cases formed with
  | @field name word start =>
    refine (Parse.reads_next filled).bind ?_
    cases read
    simp only [token, spelling, fieldName_eq]
    exact Parse.reads_pure _ _
  | string closed means =>
    refine (Parse.reads_next filled).bind ?_
    cases read
    simp only [token, spelling, means]
    exact Parse.reads_pure _ _
  | raw apart means =>
    refine (Parse.reads_next filled).bind ?_
    cases read
    simp only [token, spelling, means]
    exact Parse.reads_pure _ _
  | @integer spelling value means =>
    refine (Parse.reads_next filled).bind ?_
    obtain ⟨v, value, rfl⟩ := Option.map_eq_some_iff.mp read
    cases number : Constant.number (String.ofList spelling) with
    | error e =>
      rw [number] at value
      cases value
    | ok v =>
      rw [number] at value
      cases value
      simp only [token, Hole.spelling, number]
      exact Parse.reads_pure _ _

theorem WellFormed.fails_term (formed : h.WellFormed) (broken : h.operand? p = none)
    (filled : rest ≠ []) : Parse.Fails (Parse.term (fuel + 1)) (h.token p :: rest) := by
  unfold Parse.term
  refine (Parse.reads_peekNonSpace (.inl rfl) (h.kind_token_ne p (by decide))).fails ?_
  cases formed with
  | field => cases broken
  | string => cases broken
  | raw => cases broken
  | @integer spelling value means =>
    refine (Parse.reads_next filled).fails ?_
    cases number : Constant.number (String.ofList spelling) with
    | error e =>
      simp only [token, Hole.spelling, number]
      exact Parse.fails_fail _ _
    | ok v => simp [operand?, number, Except.toOption] at broken

end Hole

namespace Parse

variable {h : Hole} {o : Operand} {fuel : Nat} {place : Position} {t : Token}
variable {blanks rest : List Token}

/-- Behind a hole no field follows that would belong to it. -/
theorem reads_fieldTokens (other : t.kind ≠ .field) :
    Reads (fieldTokens (fuel + 1)) (t :: rest) [] (t :: rest) := by
  refine reads_peek.bind ?_
  rw [if_neg other]
  exact reads_pure _ _

/-- Closing braces are no operand. -/
theorem reads_operand_end (braces : t.kind = .rightBraces) :
    Reads (operand (fuel + 2)) (t :: rest) none (t :: rest) := by
  have term : Reads (term (fuel + 1)) (t :: rest) none (t :: rest) := by
    have solid : t.kind ≠ .space := by simp [braces]
    unfold Parse.term
    refine (reads_peekNonSpace (.inl rfl) solid).bind ?_
    simp only [braces]
    exact reads_pure _ _
  unfold operand
  exact term.bind (reads_pure none _)

theorem reads_operands_end (braces : t.kind = .rightBraces) :
    Reads (operands (fuel + 3)) (t :: rest) [] (t :: rest) := by
  have solid : t.kind ≠ .space := by simp [braces]
  unfold operands
  refine (reads_peekNonSpace (.inl rfl) solid).bind ?_
  refine (reads_operand_end braces).bind (reads_peek.bind ?_)
  simp only [braces]
  exact reads_pure _ _

variable (formed : h.WellFormed) (blank : IsBlank blanks) (braces : t.kind = .rightBraces)
include formed blank braces

theorem reads_operand (read : h.operand? place = some o) :
    Reads (operand (fuel + 2)) (h.token place :: (blanks ++ t :: rest)) (some o)
      (blanks ++ t :: rest) := by
  have filled : blanks ++ t :: rest ≠ [] := by simp
  have ended : Reads (fieldTokens (fuel + 1)) (blanks ++ t :: rest) [] (blanks ++ t :: rest) := by
    rcases blank with rfl | ⟨b, rfl, space⟩
    · exact reads_fieldTokens (by simp [braces])
    · exact reads_fieldTokens (by simp [space])
  unfold operand
  exact (formed.reads_term read filled).bind (ended.bind (reads_pure _ _))

theorem reads_operands (read : h.operand? place = some o) :
    Reads (operands (fuel + 4)) (h.token place :: (blanks ++ t :: rest)) [o] (t :: rest) := by
  unfold operands
  refine (reads_peekNonSpace (.inl rfl) (h.kind_token_ne place (by decide))).bind ?_
  refine (reads_operand formed blank braces read).bind ?_
  rcases blank with rfl | ⟨b, rfl, space⟩
  · refine reads_peek.bind ?_
    simp only [braces]
    exact reads_pure _ _
  · refine reads_peek.bind ?_
    simp only [space]
    exact (reads_next (List.cons_ne_nil t rest)).bind
      ((reads_operands_end braces).bind (reads_pure [o] _))

end Parse

namespace Hole

/-- What a hole is as a command, and as a pipeline of that command. -/
def mark (h : Hole) (p : Position) : Mark := ⟨p, String.ofList h.spelling⟩

def command (h : Hole) (p : Position) (o : Operand) : Command := .mk (h.mark p) o []

def pipeline (h : Hole) (p : Position) (o : Operand) : Pipeline :=
  .mk (h.mark p) [] true [h.command p o]

theorem shown_of_operand? {h : Hole} {p : Position} {o : Operand} (read : h.operand? p = some o) :
    o.shown = String.ofList h.spelling := by
  cases h with
  | field => cases read; rfl
  | quoted => cases read; rfl
  | integer spelling value =>
    obtain ⟨v, -, rfl⟩ := Option.map_eq_some_iff.mp read
    rfl

end Hole

namespace Parse

theorem startsCommand_token (h : Hole) (place : Position) :
    startsCommand (h.token place).kind (h.token place).text = true := by
  have known : h.kind = .field ∨ h.kind = .string ∨ h.kind = .rawString ∨ h.kind = .number := by
    simpa using h.kind_mem
  rcases known with kind | kind | kind | kind <;> simp [Hole.token, kind, startsCommand]

/-- No pipeline of a hole keeps its value in a variable. -/
theorem reads_declarations (h : Hole) (place : Position) (rest : List Token) (context : String) :
    Reads (declarations context 2 []) (h.token place :: rest) ([], true)
      (h.token place :: rest) := by
  unfold declarations
  refine (reads_peekNonSpace (.inl rfl) (h.kind_token_ne place (by decide))).bind ?_
  rw [if_pos (h.kind_token_ne place (by decide))]
  exact reads_pure _ _

variable {h : Hole} {o : Operand} {fuel : Nat} {place : Position} {t : Token}
variable {blanks rest : List Token}
variable (formed : h.WellFormed) (blank : IsBlank blanks) (braces : t.kind = .rightBraces)
include formed blank braces

theorem reads_command (read : h.operand? place = some o) :
    Reads (command (fuel + 5)) (h.token place :: (blanks ++ t :: rest)) (h.command place o)
      (t :: rest) := by
  unfold command
  refine (reads_peekNonSpace (.inl rfl) (h.kind_token_ne place (by decide))).bind ?_
  refine (reads_operands formed blank braces read).bind ?_
  have shown : Text.join " " ([o].map Operand.shown) = String.ofList h.spelling := by
    simp [Text.join, Hole.shown_of_operand? read]
  simp only [shown]
  exact reads_pure _ _

theorem reads_commands (read : h.operand? place = some o) (filled : rest ≠ []) (context : String) :
    Reads (commands (fuel + 6) context .rightBraces) (h.token place :: (blanks ++ t :: rest))
      [h.command place o] rest := by
  unfold commands
  refine (reads_peekNonSpace (.inl rfl) (h.kind_token_ne place (by decide))).bind ?_
  rw [if_neg (h.kind_token_ne place (by decide)), if_pos (startsCommand_token h place)]
  refine (reads_command formed blank braces read).bind ?_
  have ended : Reads (commands (fuel + 5) context .rightBraces) (t :: rest) [] rest := by
    have solid : t.kind ≠ .space := by simp [braces]
    unfold commands
    refine (reads_peekNonSpace (.inl rfl) solid).bind ?_
    rw [if_pos braces]
    exact (reads_next filled).bind (reads_pure _ _)
  exact ended.bind (reads_pure _ _)

theorem reads_pipeline (read : h.operand? place = some o) (filled : rest ≠ []) (context : String) :
    Reads (pipeline (fuel + 7) context .rightBraces) (h.token place :: (blanks ++ t :: rest))
      (h.pipeline place o) rest := by
  unfold pipeline
  refine (reads_peekNonSpace (.inl rfl) (h.kind_token_ne place (by decide))).bind ?_
  refine (reads_declarations h place _ context).bind ?_
  refine (reads_commands formed blank braces read filled context).bind ?_
  have checked (ts : List Token) : Reads (checkPipeline context [h.command place o]) ts () ts :=
    reads_pure _ _
  refine (checked _).bind ?_
  have shown : pipelineMark (h.token place) [] true [h.command place o] = h.mark place := by
    simp [pipelineMark, Text.join, Hole.command, Hole.mark, Hole.token, Command.mark]
  simp only [shown]
  exact reads_pure _ _

end Parse

namespace Parse

variable {h : Hole} {fuel : Nat} {place : Position} {rest : List Token}
variable (formed : h.WellFormed) (broken : h.operand? place = none) (filled : rest ≠ [])
include formed broken filled

theorem fails_command : Fails (command (fuel + 4)) (h.token place :: rest) := by
  have operands : Fails (operands (fuel + 3)) (h.token place :: rest) := by
    unfold Parse.operands operand
    exact (reads_peekNonSpace (.inl rfl) (h.kind_token_ne place (by decide))).fails
      (formed.fails_term broken filled).bind.bind
  unfold command
  exact (reads_peekNonSpace (.inl rfl) (h.kind_token_ne place (by decide))).fails operands.bind

theorem fails_pipeline (context : String) :
    Fails (pipeline (fuel + 6) context .rightBraces) (h.token place :: rest) := by
  have solid := h.kind_token_ne place (k := .space) (by decide)
  have commands : Fails (commands (fuel + 5) context .rightBraces) (h.token place :: rest) := by
    unfold Parse.commands
    refine (reads_peekNonSpace (.inl rfl) solid).fails ?_
    rw [if_neg (h.kind_token_ne place (by decide)), if_pos (startsCommand_token h place)]
    exact (fails_command formed broken filled).bind
  unfold pipeline
  exact (reads_peekNonSpace (.inl rfl) solid).fails
    ((reads_declarations h place rest context).fails commands.bind)

end Parse

namespace Action

variable {a : Action} {fuel : Nat} {p : Position} {rest : List Token} {n : Node}

/-- Where the hole of an action begins. -/
def place (a : Action) (p : Position) : Position := (p.after ['{', '{']).after a.before

/-- The node of an action, unless its integer cannot be read. -/
def node? (a : Action) (p : Position) : Option Node :=
  (a.hole.operand? (a.place p)).map fun o => .action (a.hole.pipeline (a.place p) o)

theorem tokens_append (a : Action) (p : Position) (rest : List Token) :
    a.tokens p ++ rest =
      ⟨.leftBraces, "\x7b\x7b", p⟩ :: (Scan.blankTokens (p.after ['{', '{']) a.before ++
        a.hole.token (a.place p) ::
          (Scan.blankTokens ((a.place p).after a.hole.spelling) a.after ++
            ⟨.rightBraces, "\x7d\x7d", ((a.place p).after a.hole.spelling).after a.after⟩ ::
              rest)) := by
  simp [tokens, place]

theorem WellFormed.reads_piece (formed : a.WellFormed) (fuel : Nat) (read : a.node? p = some n)
    (filled : rest ≠ []) :
    Parse.Reads (Parse.piece (fuel + 3)) (a.tokens p ++ rest) (.node n) rest := by
  obtain ⟨o, operand, rfl⟩ := Option.map_eq_some_iff.mp read
  have enough : 8 * (fuel + 1) = 8 * fuel + 1 + 7 := by omega
  rw [tokens_append]
  unfold Parse.piece
  refine (Parse.reads_nextNonSpace (.inl rfl) (by simp) (by simp)).bind ?_
  refine (Parse.reads_setLine _ _).bind ?_
  refine Parse.Reads.bind ?_ ((Parse.reads_setLine _ _).bind (Parse.reads_pure _ _))
  unfold Parse.action
  refine (Parse.reads_peekNonSpace (Parse.isBlank_blankTokens _ _)
    (a.hole.kind_token_ne _ (by decide))).bind ?_
  rw [if_neg (a.hole.kind_token_ne _ (by decide)), enough]
  exact (Parse.reads_pipeline formed.hole (Parse.isBlank_blankTokens _ _) rfl operand filled _).bind
    (Parse.reads_pure _ _)

theorem WellFormed.fails_piece (formed : a.WellFormed) (fuel : Nat) (broken : a.node? p = none)
    (rest : List Token) : Parse.Fails (Parse.piece (fuel + 3)) (a.tokens p ++ rest) := by
  have operand : a.hole.operand? (a.place p) = none := Option.map_eq_none_iff.mp broken
  have enough : 8 * (fuel + 1) = 8 * fuel + 2 + 6 := by omega
  rw [tokens_append]
  unfold Parse.piece
  refine (Parse.reads_nextNonSpace (.inl rfl) (by simp) (by simp)).fails ?_
  refine (Parse.reads_setLine _ _).fails ?_
  refine Parse.Fails.bind ?_
  unfold Parse.action
  refine (Parse.reads_peekNonSpace (Parse.isBlank_blankTokens _ _)
    (a.hole.kind_token_ne _ (by decide))).fails ?_
  rw [if_neg (a.hole.kind_token_ne _ (by decide)), enough]
  exact (Parse.fails_pipeline formed.hole operand (by simp) _).bind

end Action

namespace Straight

/-- The node of a piece of text, none for no text. -/
def textNodes (text : List Char) : List Node :=
  if text = [] then [] else [.text (String.ofList text)]

/-- The nodes of a template, unless one of its integers cannot be read. -/
def nodes? (p : Position) : Straight → Option (List Node)
  | last text => some (textNodes text)
  | action text a rest =>
    let here := p.after text
    (a.node? here).bind fun n =>
      (rest.nodes? (here.after a.source)).map fun more => textNodes text ++ n :: more

section Top

variable {a : Action} {fuel : Nat} {p : Position} {t : Token} {ts mid rest : List Token}
variable {n : Node} {ns : List Node}

/-- A token that neither ends a template nor defines another one. -/
structure Begins (t : Token) (ts : List Token) : Prop where
  solid : t.kind ≠ .finish
  plain : Parse.Reads Parse.definitionStarts (t :: ts) false (t :: ts)

theorem Begins.reads_top (begins : Begins t ts)
    (here : Parse.Reads (Parse.piece fuel) (t :: ts) (.node n) mid)
    (later : Parse.Reads (Parse.top fuel) mid ns rest) :
    Parse.Reads (Parse.top (fuel + 1)) (t :: ts) (n :: ns) rest := by
  unfold Parse.top
  refine Parse.reads_peek.bind ?_
  rw [if_neg begins.solid]
  exact begins.plain.bind (here.bind (later.bind (Parse.reads_pure _ _)))

theorem Begins.fails_here (begins : Begins t ts)
    (here : Parse.Fails (Parse.piece fuel) (t :: ts)) :
    Parse.Fails (Parse.top (fuel + 1)) (t :: ts) := by
  unfold Parse.top
  refine Parse.reads_peek.fails ?_
  rw [if_neg begins.solid]
  exact begins.plain.fails here.bind

theorem Begins.fails_later (begins : Begins t ts)
    (here : Parse.Reads (Parse.piece fuel) (t :: ts) (.node n) mid)
    (later : Parse.Fails (Parse.top fuel) mid) : Parse.Fails (Parse.top (fuel + 1)) (t :: ts) := by
  unfold Parse.top
  refine Parse.reads_peek.fails ?_
  rw [if_neg begins.solid]
  exact begins.plain.fails (here.fails later.bind)

theorem reads_top_finish (fuel : Nat) (p : Position) :
    Parse.Reads (Parse.top (fuel + 1)) [⟨.finish, "", p⟩] [] [⟨.finish, "", p⟩] := by
  unfold Parse.top
  refine Parse.reads_peek.bind ?_
  rw [if_pos rfl]
  exact Parse.reads_pure _ _

theorem reads_piece_text (text : List Char) (filled : ts ≠ []) :
    Parse.Reads (Parse.piece (fuel + 1)) (⟨.text, String.ofList text, p⟩ :: ts)
      (.node (.text (String.ofList text))) ts := by
  unfold Parse.piece
  exact (Parse.reads_nextNonSpace (.inl rfl) (by simp) filled).bind (Parse.reads_pure _ _)

theorem begins_text (text : List Char) (filled : ts ≠ []) :
    Begins ⟨.text, String.ofList text, p⟩ ts where
  solid := by simp
  plain := by
    unfold Parse.definitionStarts
    refine Parse.reads_get fun s here => ?_
    refine (Parse.reads_next filled).bind ?_
    rw [if_pos (by simp), here]
    exact (Parse.reads_restore _ _).bind (Parse.reads_pure _ _)

theorem reads_top_text (text : List Char) (filled : ts ≠ [])
    (later : Parse.Reads (Parse.top (fuel + 1)) ts ns rest) :
    Parse.Reads (Parse.top ((Scan.textTokens p text).length + (fuel + 1)))
      (Scan.textTokens p text ++ ts) (textNodes text ++ ns) rest := by
  by_cases empty : text = []
  · subst empty
    rw [Scan.textTokens, if_pos rfl, List.length_nil, Nat.zero_add]
    exact later
  · rw [Scan.textTokens, textNodes, if_neg empty, if_neg empty, List.length_singleton, Nat.add_comm]
    exact (begins_text text filled).reads_top (reads_piece_text text filled) later

theorem fails_top_text (text : List Char) (filled : ts ≠ [])
    (later : Parse.Fails (Parse.top (fuel + 1)) ts) :
    Parse.Fails (Parse.top ((Scan.textTokens p text).length + (fuel + 1)))
      (Scan.textTokens p text ++ ts) := by
  by_cases empty : text = []
  · subst empty
    rw [Scan.textTokens, if_pos rfl, List.length_nil, Nat.zero_add]
    exact later
  · rw [Scan.textTokens, if_neg empty, List.length_singleton, Nat.add_comm]
    exact (begins_text text filled).fails_later (reads_piece_text text filled) later

/-- No action of a hole defines a template. -/
theorem begins_action (a : Action) (p : Position) (ts : List Token) :
    ∃ t later, a.tokens p ++ ts = t :: later ∧ Begins t later := by
  refine ⟨_, _, a.tokens_append p ts, by simp, ?_⟩
  unfold Parse.definitionStarts
  refine Parse.reads_get fun s here => ?_
  refine (Parse.reads_next (by simp)).bind ?_
  rw [if_neg (by simp)]
  refine (Parse.reads_nextNonSpace (Parse.isBlank_blankTokens _ _)
    (a.hole.kind_token_ne _ (by decide)) (by simp)).bind ?_
  have other : ¬ ((a.hole.token (a.place p)).kind = .keyword ∧
      (a.hole.token (a.place p)).text = "define") :=
    fun both => a.hole.kind_token_ne _ (by decide) both.1
  rw [if_neg other, here]
  exact (Parse.reads_restore _ _).bind (Parse.reads_pure _ _)

theorem reads_top_action (formed : a.WellFormed) (read : a.node? p = some n) (filled : ts ≠ [])
    (later : Parse.Reads (Parse.top (fuel + 3)) ts ns rest) :
    Parse.Reads (Parse.top (fuel + 4)) (a.tokens p ++ ts) (n :: ns) rest := by
  have here := formed.reads_piece fuel read filled
  obtain ⟨t, tail, split, begins⟩ := begins_action a p ts
  rw [split] at here ⊢
  exact begins.reads_top here later

theorem fails_top_action (formed : a.WellFormed) (filled : ts ≠ [])
    (broken : a.node? p = none ∨ Parse.Fails (Parse.top (fuel + 3)) ts) :
    Parse.Fails (Parse.top (fuel + 4)) (a.tokens p ++ ts) := by
  obtain ⟨t, tail, split, begins⟩ := begins_action a p ts
  cases read : a.node? p with
  | none =>
    have here := formed.fails_piece fuel read ts
    rw [split] at here ⊢
    exact begins.fails_here here
  | some n =>
    have here := formed.reads_piece fuel read filled
    have later := broken.resolve_left (by simp [read])
    rw [split] at here ⊢
    exact begins.fails_later here later

end Top

theorem tokens_ne_nil (t : Straight) (p : Position) : t.tokens p ≠ [] := by
  cases t <;> simp [tokens, Action.tokens]

/-- Fuel for the first stretch of text, its action, and what comes then. -/
theorem exists_fuel {text : List Char} {a : Action} {rest : Straight} {p : Position} {fuel : Nat}
    (enough : ((action text a rest).tokens p).length + 3 ≤ fuel) :
    ∃ k, fuel = (Scan.textTokens p text).length + (k + 3 + 1) ∧
      (rest.tokens ((p.after text).after a.source)).length + 3 ≤ k + 3 := by
  have filled : 1 ≤ (a.tokens (p.after text)).length := by simp [Action.tokens]
  simp only [tokens, List.length_append] at enough
  exact ⟨fuel - (Scan.textTokens p text).length - 4, by omega, by omega⟩

theorem WellFormed.reads_top {t : Straight} (formed : t.WellFormed) {p : Position} {fuel : Nat}
    (enough : (t.tokens p).length + 3 ≤ fuel) {ns : List Node} (read : t.nodes? p = some ns) :
    ∃ rest, Parse.Reads (Parse.top fuel) (t.tokens p) ns rest := by
  induction t generalizing p fuel ns with
  | last text =>
    obtain ⟨k, rfl⟩ : ∃ k, fuel = (Scan.textTokens p text).length + (k + 1) := by
      simp only [tokens, List.length_append] at enough
      exact ⟨fuel - (Scan.textTokens p text).length - 1, by omega⟩
    cases read
    have ended := reads_top_text (p := p) text (List.cons_ne_nil _ _)
      (reads_top_finish k (p.after text))
    rw [List.append_nil] at ended
    exact ⟨_, ended⟩
  | action text a rest ih =>
    obtain ⟨k, rfl, room⟩ := exists_fuel enough
    obtain ⟨-, action, formed⟩ := formed
    obtain ⟨n, node, others⟩ := Option.bind_eq_some_iff.mp read
    obtain ⟨more, later, rfl⟩ := Option.map_eq_some_iff.mp others
    obtain ⟨left, reads⟩ := ih formed room later
    have filled := rest.tokens_ne_nil ((p.after text).after a.source)
    exact ⟨left, reads_top_text text (by simp [filled]) (reads_top_action action node filled reads)⟩

theorem WellFormed.fails_top {t : Straight} (formed : t.WellFormed) {p : Position} {fuel : Nat}
    (enough : (t.tokens p).length + 3 ≤ fuel) (broken : t.nodes? p = none) :
    Parse.Fails (Parse.top fuel) (t.tokens p) := by
  induction t generalizing p fuel with
  | last text => cases broken
  | action text a rest ih =>
    obtain ⟨k, rfl, room⟩ := exists_fuel enough
    obtain ⟨-, action, formed⟩ := formed
    have filled := rest.tokens_ne_nil ((p.after text).after a.source)
    refine fails_top_text text (by simp [filled]) (fails_top_action action filled ?_)
    cases node : a.node? (p.after text) with
    | none => exact .inl rfl
    | some n =>
      simp only [nodes?, node, Option.bind_some, Option.map_eq_none_iff] at broken
      exact .inr (ih formed room broken)

theorem WellFormed.parse_of_nodes {t : Straight} (formed : t.WellFormed) (name : String)
    {ns : List Node} (read : t.nodes? .start = some ns) :
    parse name (String.ofList t.source) = .ok ⟨Text.encode name, [(Text.encode name, ns)]⟩ := by
  have enough : (t.tokens .start).length + 3 ≤ 4 * (t.tokens .start).length + 8 := by omega
  obtain ⟨rest, reads⟩ := formed.reads_top enough read
  obtain ⟨latest, line, top⟩ := reads ⟨t.tokens .start, 1, ["$"], none, 0, []⟩ rfl
  simp only [parse, formed.scan, StateT.run', Bind.bind, StateT.bind, top]
  rfl

theorem WellFormed.parse_of_broken {t : Straight} (formed : t.WellFormed) (name : String)
    (broken : t.nodes? .start = none) : ∃ e, parse name (String.ofList t.source) = .error e := by
  have enough : (t.tokens .start).length + 3 ≤ 4 * (t.tokens .start).length + 8 := by omega
  obtain ⟨e, top⟩ := formed.fails_top enough broken ⟨t.tokens .start, 1, ["$"], none, 0, []⟩ rfl
  refine ⟨e, ?_⟩
  simp only [parse, formed.scan, StateT.run', Bind.bind, StateT.bind, top]
  rfl

end Straight

end KernelSweep.Template

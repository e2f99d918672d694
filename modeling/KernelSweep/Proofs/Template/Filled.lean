import KernelSweep.Proofs.Template.Tree
import KernelSweep.Proofs.Text.Ascii
import KernelSweep.Template.Render

set_option autoImplicit false

namespace KernelSweep.Template

open KernelSweep.Text (Bytes)

namespace Value

theorem shown_text (s : Bytes) : (Value.text s).shown = s := by
  simp [shown, Flags.plain, Flags.scalarBy?, Flags.textBy?, Flags.text, Flags.cut, Flags.pad,
    Flags.filler]

theorem shown_int (n : Int64) : (Value.int n).shown = Text.encode (Number.decimal n) := by
  have lower : Number.upperIf false = id := rfl
  have digits : (if n < 0 then "-" else "") ++ String.ofList (Nat.toDigits 10 n.toInt.natAbs) =
      Number.decimal n := by
    apply String.toList_injective
    have negative : n < 0 ↔ n.toInt < 0 := Int64.lt_iff_toInt_lt
    rw [Number.toList_decimal]
    simp only [negative]
    split_ifs <;> simp
  simp [shown, Flags.plain, Flags.scalarBy?, Flags.integerBy?, Flags.integer, Flags.padBlank,
    Flags.padText, Flags.pad, Flags.filler, Flags.leastDigits, Flags.sign, Flags.baseMark,
    Number.padLeft, lower, digits]

/-- How a value stands in the text of a template. -/
def placed : Value → Bytes
  | .absent => Text.encode "<no value>"
  | v => v.shown

end Value

namespace Hole

variable {fields : List (String × Value)} {h : Hole} {p : Position}

/-- The value of a hole, when there is one: a field the data have, or a constant that fits. -/
def value? (fields : List (String × Value)) : Hole → Option Value
  | field name => fields.lookup (String.ofList name)
  | quoted _ value => some (.text value)
  | integer spelling value =>
    if Number.IsWord value then some (Constant.integer spelling value) else none

end Hole

namespace Render

variable {type : String} {fields : List (String × Value)} {host : Host} {h : Hole} {p : Position}

/-- Which values and texts some work gives, from any state. -/
def Gives {α : Type} (work : Eval α) (answer : Option α) : Prop :=
  ∀ s : State, match answer with
    | some a => ∃ s', work s = .ok (a, s')
    | none => ∃ e, work s = .error e

theorem Gives.bind {α β : Type} {work : Eval α} {next : α → Eval β} {a : α} {b : Option β}
    (first : Gives work (some a)) (second : Gives (next a) b) : Gives (work >>= next) b := by
  intro s
  obtain ⟨s', given⟩ := first s
  have later := second s'
  simp only [Bind.bind, StateT.bind, given, Except.bind]
  exact later

theorem Gives.bind_none {α β : Type} {work : Eval α} (first : Gives work none)
    (next : α → Eval β) : Gives (work >>= next) none := by
  intro s
  obtain ⟨e, failed⟩ := first s
  exact ⟨e, by simp only [Bind.bind, StateT.bind, failed, Except.bind]⟩

theorem Gives.map {α β : Type} {work : Eval α} {next : α → Eval β} {a : Option α} {f : α → β}
    (first : Gives work a) (second : ∀ x, Gives (next x) (some (f x))) :
    Gives (work >>= next) (a.map f) := by
  cases a with
  | none => exact first.bind_none next
  | some x => exact first.bind (second x)

theorem gives_pure {α : Type} (a : α) : Gives (pure a) (some a) :=
  fun s => ⟨s, rfl⟩

theorem gives_fail {α : Type} (cause : RenderCause) : Gives (fail cause : Eval α) none :=
  fun _ => ⟨_, rfl⟩

theorem gives_visit (mark : Mark) : Gives (visit mark) (some ()) :=
  fun _ => ⟨_, rfl⟩

/-- A hole alone is a command with its value as the answer. -/
theorem gives_command (formed : h.WellFormed) {o : Operand} (read : h.operand? p = some o)
    (m : Mark) :
    Gives (command (.record type fields) none (.mk m o [])) (h.value? fields) := by
  cases formed with
  | @field name =>
    cases read
    unfold command
    refine (gives_visit _).bind ?_
    simp only [follow, fieldOf, Hole.value?]
    cases fields.lookup (String.ofList name) with
    | none => exact gives_fail _
    | some v => exact gives_pure v
  | string =>
    cases read
    unfold command
    refine (gives_visit _).bind ?_
    exact (gives_pure ()).bind (gives_pure _)
  | raw =>
    cases read
    unfold command
    refine (gives_visit _).bind ?_
    exact (gives_pure ()).bind (gives_pure _)
  | @integer spelling value means =>
    obtain ⟨v, number, rfl⟩ := Option.map_eq_some_iff.mp read
    unfold command
    refine (gives_visit _).bind ?_
    refine (gives_pure ()).bind ?_
    rw [Hole.value?]
    split_ifs with fits
    · rw [Constant.number_of_isWord means fits] at number
      cases number
      exact gives_pure _
    · rcases Constant.number_of_not_isWord means fits with unread | ⟨e, failed⟩
      · rw [unread] at number
        cases number
        exact gives_fail _
      · rw [failed] at number
        cases number

theorem gives_pipeline (formed : h.WellFormed) {o : Operand} (read : h.operand? p = some o) :
    Gives (pipeline (.record type fields) (h.pipeline p o)) (h.value? fields) := by
  have here : Gives (command (.record type fields) none (h.command p o)) (h.value? fields) :=
    gives_command formed read (h.mark p)
  have all : Gives (commandsFrom (.record type fields) none [h.command p o])
      ((h.value? fields).map id) := by
    unfold commandsFrom
    exact here.map fun v => gives_pure v
  have kept (v : Value) : Gives (keep true [] v) (some ()) := gives_pure ()
  rw [← id_eq (h.value? fields), ← Option.map_id]
  unfold pipeline Hole.pipeline
  refine (gives_visit _).bind ?_
  rw [Option.map_id] at all
  exact all.map fun v => (kept v).bind (gives_pure v)

theorem gives_node (host : Host) (type : String) (fields : List (String × Value))
    (formed : h.WellFormed) {o : Operand} (read : h.operand? p = some o) :
    Gives (node host (.record type fields) (.action (h.pipeline p o)))
      (((h.value? fields).map Value.placed).map fun t => (t, .onward)) := by
  rw [Option.map_map]
  unfold node
  refine (gives_pipeline formed read).map fun v => ?_
  cases v <;> exact gives_pure _

/-- Nodes that go on to the next one, and the text they give, if any. -/
def Shows (host : Host) (dot : Value) (ns : List Node) (text : Option Bytes) : Prop :=
  Gives (nodes host dot ns) (text.map fun t => (t, .onward))

theorem shows_nil (host : Host) (dot : Value) : Shows host dot [] (some []) := by
  unfold Shows nodes
  exact gives_pure _

theorem shows_cons {n : Node} {ns : List Node} {dot : Value} {text more : Option Bytes}
    (here : Gives (node host dot n) (text.map fun t => (t, .onward)))
    (later : Shows host dot ns more) :
    Shows host dot (n :: ns) (text.bind fun t => more.map (t ++ ·)) := by
  unfold Shows nodes
  cases text with
  | none => exact here.bind_none _
  | some t =>
    refine here.bind ?_
    cases more with
    | none => exact later.bind_none _
    | some u => exact later.bind (gives_pure (t ++ u, Flow.onward))

/-- The text that is left when the state is forgotten. -/
theorem Shows.toOption_run {ns : List Node} {dot : Value} {text : Option Bytes}
    (shows : Shows host dot ns text) (s : State) :
    (((nodes host dot ns).run' s).map Prod.fst).toOption = text := by
  have given := shows s
  cases text with
  | none =>
    obtain ⟨e, failed⟩ := given
    simp only [StateT.run', failed]
    rfl
  | some bytes =>
    obtain ⟨s', given⟩ := given
    simp only [StateT.run', given]
    rfl

theorem shows_text {ns : List Node} {dot : Value} {more : Option Bytes} (text : List Char)
    (later : Shows host dot ns more) :
    Shows host dot (Straight.textNodes text ++ ns)
      (more.map (Text.encode (String.ofList text) ++ ·)) := by
  unfold Straight.textNodes
  split_ifs with empty
  · subst empty
    have empty : Text.encode (String.ofList []) = [] := by
      rw [Text.encode_eq, String.toList_ofList]
      rfl
    simpa [empty] using later
  · have here : Gives (node host dot (.text (String.ofList text)))
        ((some (Text.encode (String.ofList text))).map fun t => (t, .onward)) := by
      unfold node
      exact gives_pure _
    exact shows_cons here later

end Render

namespace Straight

/-- The text of a template with its holes filled in, when each of them has a value. -/
def filled? (fields : List (String × Value)) : Straight → Option Bytes
  | last text => some (Text.encode (String.ofList text))
  | action text a rest =>
    ((a.hole.value? fields).map Value.placed).bind fun here =>
      (rest.filled? fields).map fun more => Text.encode (String.ofList text) ++ (here ++ more)

theorem WellFormed.shows {t : Straight} (formed : t.WellFormed) {p : Position} {ns : List Node}
    (read : t.nodes? p = some ns) (host : Render.Host) (type : String)
    (fields : List (String × Value)) :
    Render.Shows host (.record type fields) ns (t.filled? fields) := by
  induction t generalizing p ns with
  | last text =>
    cases read
    have ended := Render.shows_text text (Render.shows_nil host (.record type fields))
    simpa [filled?] using ended
  | action text a rest ih =>
    obtain ⟨-, action, formed⟩ := formed
    obtain ⟨n, node, others⟩ := Option.bind_eq_some_iff.mp read
    obtain ⟨more, later, rfl⟩ := Option.map_eq_some_iff.mp others
    obtain ⟨o, operand, rfl⟩ := Option.map_eq_some_iff.mp node
    have here := Render.gives_node host type fields action.hole operand
    have text := Render.shows_text text (Render.shows_cons here (ih formed later))
    rw [filled?]
    cases value : (a.hole.value? fields).map Value.placed with
    | none => simpa [value] using text
    | some v => simpa [value, Function.comp_def] using text

/-- Rendering a template that was read gives its text, or fails when a hole has no value. -/
theorem WellFormed.toOption_render {t : Straight} (formed : t.WellFormed) {p : Position}
    {ns : List Node} (read : t.nodes? p = some ns) (name : Bytes) (type : String)
    (fields : List (String × Value)) :
    (render ⟨name, [(name, ns)]⟩ (.record type fields)).toOption = t.filled? fields := by
  have alone (left : Nat) (outer : List Render.Frame) : ∃ enter?,
      Render.treeWithin ⟨name, [(name, ns)]⟩ left outer name (.record type fields) =
        Render.tree ⟨name, [(name, ns)]⟩ enter? name (.record type fields) := by
    cases left with
    | zero => exact ⟨none, rfl⟩
    | succ left => exact ⟨_, rfl⟩
  obtain ⟨enter?, alone⟩ := alone maxDepth []
  have found : (⟨name, [(name, ns)]⟩ : TemplateSet).tree? name = some ns := by
    simp [TemplateSet.tree?]
  rw [render, alone, Render.tree, found, Option.getD_some]
  exact (formed.shows read _ type fields).toOption_run _

end Straight

namespace Hole

theorem WellFormed.value?_of_broken {h : Hole} (formed : h.WellFormed) {p : Position}
    (broken : h.operand? p = none) (fields : List (String × Value)) : h.value? fields = none := by
  cases formed with
  | field => cases broken
  | string => cases broken
  | raw => cases broken
  | @integer spelling value means =>
    rw [value?, if_neg]
    intro fits
    have number : (Constant.number (String.ofList spelling)).toOption = none :=
      Option.map_eq_none_iff.mp broken
    rw [Constant.number_of_isWord means fits] at number
    cases number

/-- A field among the given ones; a constant refers to none. -/
def RefersTo (names : List String) : Hole → Prop
  | field name => String.ofList name ∈ names
  | _ => True

/-- An integer that some word holds. -/
def Fits : Hole → Prop
  | integer _ value => Number.IsWord value
  | _ => True

/-- What stands in the place of a hole: the text of a field, or the value of a constant. A signed
hexadecimal integer with the digit `e` is written as a number with a power. -/
def fill (texts : List (String × String)) : Hole → Bytes
  | field name => Text.encode ((texts.lookup (String.ofList name)).getD "")
  | quoted _ value => value
  | integer spelling value =>
    if Constant.hasFloatMark spelling && !Constant.isHexInteger spelling then
      (Value.float (Number.Binary64.ofInt value)).shown
    else Text.encode (toString value)

/-- The texts of some fields. -/
def Agree (fields : List (String × Value)) (texts : List (String × String)) : Prop :=
  fields.map (fun f => (f.1, f.2.placed)) = texts.map fun t => (t.1, Text.encode t.2)

theorem lookup_map {α β : Type} (f : α → β) (table : List (String × α)) (key : String) :
    (table.map fun entry => (entry.1, f entry.2)).lookup key = (table.lookup key).map f := by
  induction table with
  | nil => rfl
  | cons entry rest ih =>
    obtain ⟨name, value⟩ := entry
    rw [List.map_cons, List.lookup_cons, List.lookup_cons, ih]
    cases key == name <;> rfl

theorem Agree.lookup {fields : List (String × Value)} {texts : List (String × String)}
    (agree : Agree fields texts) (name : String) :
    (fields.lookup name).map Value.placed = (texts.lookup name).map Text.encode := by
  rw [← lookup_map, ← lookup_map, agree]

theorem isSome_lookup_iff {α : Type} (table : List (String × α)) (key : String) :
    (table.lookup key).isSome = true ↔ key ∈ table.map Prod.fst := by
  induction table with
  | nil => simp
  | cons entry rest ih =>
    obtain ⟨name, value⟩ := entry
    rw [List.lookup_cons, List.map_cons, List.mem_cons, ← ih]
    cases same : key == name with
    | true => simp [eq_of_beq same]
    | false => simp [ne_of_beq_false same]

theorem placed_integer {value : Int} (fits : Number.IsWord value) (spelling : List Char)
    (texts : List (String × String)) :
    (Constant.integer spelling value).placed = (integer spelling value).fill texts := by
  have whole : (Int64.ofInt value).toInt = value := Int64.toInt_ofInt_of_le fits.1
    (Int.lt_add_one_of_le fits.2)
  rw [Constant.integer, fill]
  split_ifs
  · rfl
  · rw [Value.placed, Value.shown_int, Number.decimal, whole]
    rintro ⟨⟩

/-- A hole has a value exactly when it refers to a field there is and fits. -/
theorem placed_value?_eq_some_iff {fields : List (String × Value)} {texts : List (String × String)}
    (agree : Agree fields texts) {h : Hole} {bytes : Bytes} :
    (h.value? fields).map Value.placed = some bytes ↔
      (h.RefersTo (texts.map Prod.fst) ∧ h.Fits) ∧ bytes = h.fill texts := by
  cases h with
  | field name =>
    rw [value?, agree.lookup, RefersTo, fill, ← isSome_lookup_iff]
    cases texts.lookup (String.ofList name) <;> simp [Fits, eq_comm]
  | quoted spelling value =>
    simp [value?, RefersTo, Fits, fill, Value.placed, Value.shown_text, eq_comm]
  | integer spelling value =>
    simp only [value?, RefersTo, Fits, true_and]
    split_ifs with fits
    · simp [fits, placed_integer fits spelling texts, eq_comm]
    · simp [fits]

end Hole

namespace Straight

def holes : Straight → List Hole
  | last _ => []
  | action _ a rest => a.hole :: rest.holes

/-- The text of a template, with every hole filled in. -/
def fill (texts : List (String × String)) : Straight → Bytes
  | last text => Text.encode (String.ofList text)
  | action text a rest =>
    Text.encode (String.ofList text) ++ (a.hole.fill texts ++ rest.fill texts)

theorem filled?_eq_some_iff {fields : List (String × Value)} {texts : List (String × String)}
    (agree : Hole.Agree fields texts) {t : Straight} {bytes : Bytes} :
    t.filled? fields = some bytes ↔
      (∀ h ∈ t.holes, h.RefersTo (texts.map Prod.fst) ∧ h.Fits) ∧ bytes = t.fill texts := by
  induction t generalizing bytes with
  | last text => simp [filled?, holes, fill, eq_comm]
  | action text a rest ih =>
    simp only [filled?, holes, fill, Option.bind_eq_some_iff, Option.map_eq_some_iff,
      List.forall_mem_cons, Hole.placed_value?_eq_some_iff agree, ih]
    constructor
    · rintro ⟨here, ⟨first, rfl⟩, more, ⟨later, rfl⟩, rfl⟩
      exact ⟨⟨first, later⟩, rfl⟩
    · rintro ⟨⟨first, later⟩, rfl⟩
      exact ⟨_, ⟨first, rfl⟩, _, ⟨later, rfl⟩, rfl⟩

/-- A template that cannot be read has an integer that no word holds. -/
theorem filled?_of_broken {t : Straight} (formed : t.WellFormed) {p : Position}
    (broken : t.nodes? p = none) (fields : List (String × Value)) : t.filled? fields = none := by
  induction t generalizing p with
  | last text => cases broken
  | action text a rest ih =>
    obtain ⟨-, action, formed⟩ := formed
    cases node : a.node? (p.after text) with
    | none =>
      have operand : a.hole.operand? (a.place (p.after text)) = none :=
        Option.map_eq_none_iff.mp node
      rw [filled?, action.hole.value?_of_broken operand]
      rfl
    | some n =>
      simp only [nodes?, node, Option.bind_some, Option.map_eq_none_iff] at broken
      rw [filled?, ih formed broken]
      cases (a.hole.value? fields).map Value.placed <;> rfl

end Straight

end KernelSweep.Template

import KernelSweep.CommandLine.Options
import KernelSweep.Duration.Reading
import KernelSweep.Log
import KernelSweep.Text.Blank

set_option autoImplicit false

namespace KernelSweep.CommandLine

namespace Flag

/-- A switch needs no value. -/
def isSwitch (f : Flag) : Bool :=
  match f.kind with
  | .switch _ => true
  | _ => false

/-- How a message calls the flag. -/
def shown (f : Flag) : String :=
  match f.short with
  | some c => "-" ++ String.singleton c ++ ", --" ++ f.name
  | none => "--" ++ f.name

end Flag

def switchValue? : String → Option Bool
  | "1" | "t" | "T" | "TRUE" | "true" | "True" => some true
  | "0" | "f" | "F" | "FALSE" | "false" | "False" => some false
  | _ => none

inductive ValueCause where
  | notABool
  | duration (e : Duration.ReadError)
  deriving DecidableEq, Repr

inductive FlagError where
  | unknown (name : String)
  | badForm (arg : String)
  | needsValue (arg : String)
  | unknownShort (byte : UInt8) (letters : String)
  | needsShortValue (byte : UInt8) (letters : String)
  | badValue (value flag : String) (cause : ValueCause)
  deriving DecidableEq, Repr

def quotedByte (b : UInt8) : String := Text.quotedChar (Char.ofNat b.toNat)

def FlagError.message : FlagError → String
  | .unknown name => "unknown flag: --" ++ name
  | .badForm arg => "bad flag syntax: " ++ arg
  | .needsValue arg => "flag needs an argument: " ++ arg
  | .unknownShort b letters => "unknown shorthand flag: " ++ quotedByte b ++ " in -" ++ letters
  | .needsShortValue b letters => "flag needs an argument: " ++ quotedByte b ++ " in -" ++ letters
  | .badValue value flag cause =>
    "invalid argument " ++ Text.quoted value ++ " for " ++ Text.quoted flag ++ " flag: " ++
    match cause with
    | .notABool => "strconv.ParseBool: parsing " ++ Text.quoted value ++ ": invalid syntax"
    | .duration e => e.message

/-- Gives a flag its value. -/
def Options.set (o : Options) (f : Flag) (value : String) : Except FlagError Options :=
  match f.kind with
  | .text set => .ok (set o value)
  | .switch set =>
    match switchValue? value with
    | some b => .ok (set o b)
    | none => .error (.badValue value f.shown .notABool)
  | .span set =>
    match Duration.parse value with
    | .ok d => .ok (set o d)
    | .error e => .error (.badValue value f.shown (.duration e))

/-- What is left of the arguments after one flag has been taken off. -/
structure Taken where
  options : Options
  rest : List String

/-- A flag by its long name; the value may stand behind an equals sign. -/
def takeLong (flags : List Flag) (o : Options) (arg : String) (rest : List String) :
    Except FlagError Taken := do
  let body := arg.toList.drop 2
  match body with
  | [] | '-' :: _ | '=' :: _ => throw (.badForm arg)
  | _ =>
    let (name, value) := Text.cut '=' (String.ofList body)
    match flags.find? (·.name == name) with
    | none => throw (.unknown name)
    | some f =>
      match value with
      | some v => return ⟨← o.set f v, rest⟩
      | none =>
        if f.isSwitch then return ⟨← o.set f "true", rest⟩
        else
          match rest with
          | [] => throw (.needsValue arg)
          | v :: rest => return ⟨← o.set f v, rest⟩

/-- One-letter flags behind a single dash: switches run together, and a flag with a value takes what
follows it or the next argument. -/
def takeShort (flags : List Flag) (o : Options) : List Char → List String → Except FlagError Taken
  | [], rest => .ok ⟨o, rest⟩
  | c :: letters, rest =>
    let text := String.ofList (c :: letters)
    let byte := (text.toUTF8.toList.head?).getD 0
    if "test.".toList.isPrefixOf (c :: letters) then .ok ⟨o, rest⟩
    else
      match flags.find? (·.short == some c) with
      | none => .error (.unknownShort byte text)
      | some f =>
        match letters with
        | '=' :: v :: vs => (o.set f (String.ofList (v :: vs))).map (⟨·, rest⟩)
        | _ =>
          if f.isSwitch then
            match o.set f "true" with
            | .error e => .error e
            | .ok o => takeShort flags o letters rest
          else if !letters.isEmpty then (o.set f (String.ofList letters)).map (⟨·, rest⟩)
          else
            match rest with
            | [] => .error (.needsShortValue byte text)
            | v :: rest => (o.set f v).map (⟨·, rest⟩)

/-- Takes all flags, which may stand between the operands, up to a double dash. The first argument
bounds the number of steps. -/
def readArgs (flags : List Flag) :
    Nat → Options → List String → Except FlagError (Options × List String)
  | _, o, [] => .ok (o, [])
  | 0, o, args => .ok (o, args)
  | fuel + 1, o, arg :: rest =>
    match arg.toList with
    | ['-', '-'] => .ok (o, rest)
    | '-' :: '-' :: _ => do
      let taken ← takeLong flags o arg rest
      readArgs flags fuel taken.options taken.rest
    | '-' :: c :: letters => do
      let taken ← takeShort flags o (c :: letters) rest
      readArgs flags fuel taken.options taken.rest
    | _ => do
      let (o, operands) ← readArgs flags fuel o rest
      return (o, arg :: operands)

/-- The options and the operands of the arguments. -/
def Options.parse (flags : List Flag) (args : List String) :
    Except FlagError (Options × List String) :=
  readArgs flags args.length {} args

/-- The command a word names below the sweep. -/
def Subcommand.named? : String → Option Subcommand
  | "validate" => some .validate
  | "matrix" => some .matrix
  | _ => none

/-- Whether the argument behind this one is its value. -/
def takesNext (flags : List Flag) (arg : String) : Bool :=
  let hasValue := arg.toList.contains '='
  let longSwitch := flags.any fun f => f.isSwitch && arg == "--" ++ f.name
  match arg.toList with
  | '-' :: '-' :: _ => !hasValue && !longSwitch
  | ['-', c] => !hasValue && c.toNat < 0x80 && !flags.any fun f => f.isSwitch && f.short == some c
  | _ => false

/-- The first argument that is neither a flag nor a flag's value. The value of a flag at the very
end ends the search. -/
def firstWord? (flags : List Flag) : List String → Option String
  | [] => none
  | arg :: rest =>
    if arg = "--" then none
    else if takesNext flags arg then
      match rest with
      | _ :: next :: more => firstWord? flags (next :: more)
      | _ => none
    else if arg ≠ "" ∧ arg.toList.head? ≠ some '-' then some arg
    else firstWord? flags rest

/-- Removes the first argument that is the word `x`. -/
def removeFirst (flags : List Flag) (x : String) : List String → List String
  | [] => []
  | arg :: rest =>
    if arg = "--" then arg :: rest
    else if takesNext flags arg then
      match rest with
      | [] => [arg]
      | value :: more => arg :: value :: removeFirst flags x more
    else if arg = x then rest
    else arg :: removeFirst flags x rest

/-- The command and its own arguments. -/
def select (flags : List Flag) (args : List String) : Subcommand × List String :=
  match firstWord? flags args with
  | none => (.sweep, args)
  | some word =>
    match Subcommand.named? word with
    | some command => (command, removeFirst flags word args)
    | none => (.sweep, args)

/-- How a message refuses operands. -/
def operandsMessage (limit : Nat) (operands : List String) : String :=
  if limit = 0 then
    "unknown command " ++ Text.quoted (operands.headD "") ++ " for \"coarsebench validate\""
  else "accepts at most " ++ toString limit ++ " arg(s), received " ++ toString operands.length

/-- A stand-in for a library that reads arguments. It knows neither help nor completion. -/
def plainParse (usage : Subcommand → Usage) (args : List String) : Invocation :=
  let (command, args) := select (usage .sweep).flags args
  match Options.parse (usage command).flags args with
  | .error e => .refused e.message
  | .ok (options, operands) =>
    if (usage command).operands < operands.length then
      .refused (operandsMessage (usage command).operands operands)
    else .run command options operands

end KernelSweep.CommandLine

import KernelSweep.Number.Integer
import KernelSweep.Text.Blank
import KernelSweep.Text.Lower
import KernelSweep.Text.Quoted

set_option autoImplicit false

namespace KernelSweep.ResultStore

inductive AddressError where
  | semicolon
  | badEscape (text : String)
  | badNumber (option value : String) (isNumeral : Bool)
  /-- `expected` ends the message. -/
  | badChoice (option value expected : String)
  | badZone (value : String) (isName : Bool)
  | saltless (method : String)
  | lacksLogin (option : String)
  | badAuthority (host : String)
  | badMode (kind value : String)
  | badFileSystem (name : String)
  deriving DecidableEq, Repr

def AddressError.message : AddressError → String
  | .semicolon => "invalid semicolon separator in query"
  | .badEscape text => "invalid URL escape " ++ Text.quoted text
  | .badNumber option value isNumeral =>
    "Invalid " ++ option ++ ": " ++ value ++ ": strconv.ParseInt: parsing " ++ Text.quoted value ++
      (if isNumeral then ": value out of range" else ": invalid syntax")
  | .badChoice option value expected => "Invalid " ++ option ++ ": " ++ value ++ expected
  | .badZone value isName =>
    "Invalid _loc: " ++ value ++
      (if isName then ": unknown time zone " ++ value else ": time: invalid location name")
  | .saltless method => "_auth_crypt=" ++ method ++ ", requires _auth_salt"
  | .lacksLogin option =>
    "Missing '" ++ option ++ "' while user authentication was requested with '_auth'"
  | .badAuthority host => "invalid uri authority: " ++ host
  | .badMode kind value => "no such " ++ kind ++ " mode: " ++ value
  | .badFileSystem name => "no such vfs: " ++ name

/-- Names and values in order. -/
abbrev Query := List (String × String)

namespace Query

/-- Decodes a name or value: a plus sign is a space, a percent sign begins a byte. -/
def unescapeFrom : List Char → Except AddressError (List UInt8)
  | [] => .ok []
  | '%' :: rest =>
    match rest with
    | high :: low :: tail =>
      match Number.readNat 16 [high, low] with
      | some n => return UInt8.ofNat n :: (← unescapeFrom tail)
      | none => .error (.badEscape (String.ofList ['%', high, low]))
    | short => .error (.badEscape (String.ofList ('%' :: short)))
  | '+' :: rest => return 0x20 :: (← unescapeFrom rest)
  | c :: rest => return Text.encode (String.singleton c) ++ (← unescapeFrom rest)

def unescape (s : String) : Except AddressError String :=
  (unescapeFrom s.toList).map Text.decodeLossy

/-- One piece between ampersands. -/
def entry (piece : String) : Except AddressError Query :=
  if piece.toList.contains ';' then .error .semicolon
  else if piece = "" then .ok []
  else do
    let (name, value) := Text.cut '=' piece
    return [(← unescape name, ← unescape (value.getD ""))]

/-- The first fault counts, but a semicolon counts before the faults in front of it. -/
def worst (found : Option AddressError) (e : AddressError) : AddressError :=
  if e = .semicolon then e else found.getD e

def parse (s : String) : Except AddressError Query :=
  let entries := (Text.split '&' s).map entry
  let fault := entries.foldl
    (fun found r => match r with
      | .error e => some (worst found e)
      | .ok _ => found) none
  match fault with
  | some e => .error e
  | none => .ok (entries.flatMap fun r => r.toOption.getD [])

def has (q : Query) (name : String) : Bool := q.any fun entry => entry.1 == name

/-- The first value under a name, empty without one. -/
def get (q : Query) (name : String) : String := (q.lookup name).getD ""

/-- The value of an option with several names: the last name present counts, and without any of
them the value that has no name. -/
def getAny (q : Query) (names : List String) : String :=
  match names with
  | [name] => q.get name
  | _ => q.get ((names.reverse.find? q.has).getD "")

end Query

/-- What an option of the connection accepts. -/
inductive OptionRule where
  | number
  /-- One of some words, in any case. -/
  | choice (words : List String) (expected : String)

structure ConnectionOption where
  names : List String
  /-- The name in messages. -/
  shown : String
  rule : OptionRule

namespace ConnectionOption

def switchWords : List String := ["0", "no", "false", "off", "1", "yes", "true", "on"]

def switchRule : OptionRule :=
  .choice switchWords ", expecting boolean value of '0 1 false true no yes off on'"

/-- In the order in which they are checked. -/
def all : List ConnectionOption :=
  [⟨["_mutex"], "_mutex", .choice ["no", "full"] ""⟩,
    ⟨["_txlock"], "_txlock", .choice ["immediate", "exclusive", "deferred"] ""⟩,
    ⟨["_auto_vacuum", "_vacuum"], "_auto_vacuum",
      .choice ["0", "none", "1", "full", "2", "incremental"]
        ", expecting value of '0 NONE 1 FULL 2 INCREMENTAL'"⟩,
    ⟨["_busy_timeout", "_timeout"], "_busy_timeout", .number⟩,
    ⟨["_case_sensitive_like", "_cslike"], "_case_sensitive_like", switchRule⟩,
    ⟨["_defer_foreign_keys", "_defer_fk"], "_defer_foreign_keys", switchRule⟩,
    ⟨["_foreign_keys", "_fk"], "_foreign_keys", switchRule⟩,
    ⟨["_ignore_check_constraints"], "_ignore_check_constraints", switchRule⟩,
    ⟨["_journal_mode", "_journal"], "_journal",
      .choice ["delete", "truncate", "persist", "memory", "off", "wal"]
        ", expecting value of 'DELETE TRUNCATE PERSIST MEMORY WAL OFF'"⟩,
    ⟨["_locking_mode", "_locking"], "_locking_mode",
      .choice ["normal", "exclusive"] ", expecting value of 'NORMAL EXCLUSIVE"⟩,
    ⟨["_query_only"], "_query_only", switchRule⟩,
    ⟨["_recursive_triggers", "_rt"], "_recursive_triggers", switchRule⟩,
    ⟨["_secure_delete"], "_secure_delete",
      .choice ("fast" :: switchWords)
        ", expecting boolean value of '0 1 false true no yes off on fast'"⟩,
    ⟨["_synchronous", "_sync"], "_synchronous",
      .choice ["0", "off", "1", "normal", "2", "full", "3", "extra"]
        ", expecting value of '0 OFF 1 NORMAL 2 FULL 3 EXTRA'"⟩,
    ⟨["_writable_schema"], "_writable_schema", switchRule⟩,
    ⟨["_cache_size"], "_cache_size", .number⟩]

def isNumeral (s : String) : Bool := (Number.readNat 10 (Number.splitSign s.toList).2).isSome

/-- An option that is empty or absent keeps its default. -/
def check (o : ConnectionOption) (q : Query) : Except AddressError Unit :=
  let value := q.getAny o.names
  if value = "" then .ok ()
  else
    match o.rule with
    | .number =>
      if (Number.readInt64 value.toList).isSome then .ok ()
      else .error (.badNumber o.shown value (isNumeral value))
    | .choice words expected =>
      if words.contains (Text.lower value) then .ok ()
      else .error (.badChoice o.shown value expected)

end ConnectionOption

/-- Parts of the world that have time zones. -/
def zoneAreas : List String :=
  ["Africa", "America", "Antarctica", "Arctic", "Asia", "Atlantic", "Australia", "Etc", "Europe",
    "Indian", "Pacific", "US"]

/-- The time zone of the connection: this machine's, a plain one, or one of an area. -/
def checkZone (q : Query) : Except AddressError Unit :=
  let value := q.get "_loc"
  let parts := Text.split '/' value
  if value = "" ∨ Text.lower value = "auto" ∨ value = "UTC" ∨ value = "Local" then .ok ()
  else if parts.contains ".." ∨ value.startsWith "/" ∨ value.startsWith "\\" then
    .error (.badZone value false)
  else if (2 ≤ parts.length ∧ zoneAreas.contains (parts.headD "")) ∨
      ["GMT", "EST", "MST", "HST", "CET", "MET", "EET", "WET"].contains value then .ok ()
  else .error (.badZone value true)

/-- A salted method of hiding passwords needs a salt, and a log-in a name and a password. -/
def checkLogin (q : Query) : Except AddressError Unit :=
  let method := Text.lower (q.get "_auth_crypt")
  if ["ssha1", "ssha256", "ssha384", "ssha512"].contains method ∧ q.get "_auth_salt" = "" then
    .error (.saltless method)
  else if !q.has "_auth" then .ok ()
  else if q.get "_auth_user" = "" then .error (.lacksLogin "_auth_user")
  else if q.get "_auth_pass" = "" then .error (.lacksLogin "_auth_pass")
  else .ok ()

/-- Where results go and what may be done there. -/
structure Address where
  /-- None for a database in memory. -/
  file : Option String
  mayCreate : Bool := true
  mayWrite : Bool := true
  deriving DecidableEq, Repr

namespace Address

def inMemory : String := ":memory:"

/-- A name after the scheme, up to its options or a fragment, each escaped byte decoded. -/
def decodeName : List Char → List UInt8
  | '%' :: high :: low :: rest =>
    match Number.readNat 16 [high, low] with
    | some n => UInt8.ofNat n :: decodeName rest
    | none => Text.encode "%" ++ decodeName (high :: low :: rest)
  | c :: rest => Text.encode (String.singleton c) ++ decodeName rest
  | [] => []

/-- The part behind the host, which has to be this machine. -/
def dropHost (cs : List Char) : Except AddressError (List Char) :=
  match cs with
  | '/' :: '/' :: rest =>
    let host := String.ofList (rest.takeWhile (· != '/'))
    if host = "" ∨ host = "localhost" then .ok (rest.dropWhile (· != '/'))
    else .error (.badAuthority host)
  | _ => .ok cs

def fileSystems : List String := ["unix", "unix-none", "unix-dotfile", "unix-excl", "memdb"]

/-- The file system an address asks for has to be known. -/
def checkFileSystem (q : Query) : Except AddressError Unit :=
  let name := q.get "vfs"
  if name = "" ∨ fileSystems.contains name then .ok () else .error (.badFileSystem name)

/-- Applies one option of a `file:` address. -/
def applyMode (a : Address) : String × String → Except AddressError Address
  | ("mode", "ro") => .ok { a with mayCreate := false, mayWrite := false }
  | ("mode", "rw") => .ok { a with mayCreate := false, mayWrite := true }
  | ("mode", "rwc") => .ok { a with mayCreate := true, mayWrite := true }
  | ("mode", "memory") => .ok { a with file := none }
  | ("mode", value) => .error (.badMode "access" value)
  | ("cache", "shared") | ("cache", "private") => .ok a
  | ("cache", value) => .error (.badMode "cache" value)
  | _ => .ok a

def ofName (name : String) : Address :=
  ⟨if name = inMemory ∨ name = "" then none else some name, true, true⟩

/-- An address with a scheme, without that scheme. -/
def ofUri (cs : List Char) (q : Query) : Except AddressError Address := do
  let cs ← dropHost cs
  let name := Text.decodeLossy (decodeName (cs.takeWhile fun c => c != '?' && c != '#'))
  q.foldlM applyMode (ofName name)

def ofParts (address name : String) (q : Query) : Except AddressError Address := do
  checkZone q
  ConnectionOption.all.forM fun o => o.check q
  let a ← if address.startsWith "file:" then ofUri (address.toList.drop 5) q
    else .ok (ofName name)
  checkFileSystem q
  checkLogin q
  let sealed := ["1", "yes", "true", "on"].contains (Text.lower (q.get "_query_only"))
  return { a with
    file := if q.get "vfs" = "memdb" then none else a.file
    mayWrite := a.mayWrite && !sealed }

/-- Reads an address. A question mark at its very beginning is part of the name. -/
def parse (address : String) : Except AddressError Address :=
  match Text.cut '?' address with
  | (name, some options) =>
    if name = "" then .ok (ofName address)
    else do ofParts address name (← Query.parse options)
  | (name, none) => ofParts address name []

end Address

end KernelSweep.ResultStore

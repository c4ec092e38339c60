import ClusterTick.Text.Split

/-!
# Command-line arguments

One level of a command line: options with or without a value, at most one bare
argument, and the name of a subcommand that ends the level.  A value is stored
when the next argument that is understood begins, so an argument that is not
understood is reported before a bad value in front of it.
-/

namespace ClusterTick.Replay

/-- Why arguments do not lead to a command. -/
inductive UsageFault where
  | helpRequested
  | versionRequested
  /-- There are no arguments at all. -/
  | nothingGiven
  | missingSubcommand
  | unknownSubcommand
  | unknownArgument
  /-- An argument that a command cannot do without is not there. -/
  | missingArgument
  /-- An option stands without its value, or with an empty one. -/
  | missingValue
  /-- A flag stands with a value. -/
  | unexpectedValue
  | malformedValue
  | repeatedArgument
  deriving DecidableEq, Repr

/-- The code that a program ends with: nothing is wrong when help or the version
is asked for. -/
def UsageFault.exitCode : UsageFault → Nat
  | helpRequested => 0
  | versionRequested => 0
  | _ => 2

/-- An argument that a level understands, and what its value does to the
settings of the level. -/
structure Parameter (σ : Type) where
  name : String
  store : String → σ → Except UsageFault σ

/-- What a level of the command line understands. -/
structure Grammar (σ : Type) where
  /-- Options that take a value. -/
  options : List (Parameter σ)
  /-- Options that take none. -/
  flags : List (String × (σ → σ)) := []
  /-- What a bare argument means. -/
  bare : Option (Parameter σ) := none
  /-- The names of the arguments that must be given. -/
  required : List String := []
  subcommands : List String := []
  hasVersion : Bool := false

/-- How an argument looks. -/
inductive ArgumentForm where
  /-- The marker behind which all arguments are bare. -/
  | separator
  /-- A name after two dashes, with the value that is attached to it. -/
  | named (name : String) (attached : Option String)
  /-- A letter after one dash. -/
  | letter (c : Char)
  | bare
  deriving DecidableEq, Repr

/-- The form of an argument.  A lone dash is bare. -/
def ArgumentForm.of (word : String) : ArgumentForm :=
  match word.toList with
  | ['-', '-'] => .separator
  | '-' :: '-' :: rest =>
    match Text.splitAtFirst? '=' rest with
    | some (name, value) =>
      .named (String.ofList name) (some (String.ofList value))
    | none => .named (String.ofList rest) none
  | '-' :: c :: _ => .letter c
  | _ => .bare

/-- How far a level has been read. -/
structure Scan (σ : Type) where
  settings : σ
  /-- The names of the arguments that have been stored. -/
  given : List String := []
  /-- An argument that is not stored yet, with its value if that has been
  read. -/
  pending : Option (Parameter σ × Option String) := none
  hasBare : Bool := false
  /-- Whether the separator has been read. -/
  bareOnly : Bool := false

/-- The subcommand that ends a level, with the arguments behind it. -/
structure Subcommand where
  name : String
  rest : List String
  deriving DecidableEq, Repr

namespace Scan

variable {σ : Type}

/-- Stores a value, once for each argument. -/
def store (scan : Scan σ) (parameter : Parameter σ) (value : String) :
    Except UsageFault (Scan σ) :=
  if parameter.name ∈ scan.given then
    .error .repeatedArgument
  else
    (parameter.store value scan.settings).map fun settings =>
      { scan with settings, given := parameter.name :: scan.given }

/-- Stores the pending argument. -/
def settle (scan : Scan σ) : Except UsageFault (Scan σ) :=
  match scan.pending with
  | none => .ok scan
  | some (_, none) => .error .missingValue
  | some (parameter, some value) =>
    { scan with pending := none }.store parameter value

/-- Whether an option waits for its value. -/
def isWaiting (scan : Scan σ) : Bool :=
  match scan.pending with
  | some (_, none) => true
  | _ => false

/-- Reads a name after two dashes. -/
def readNamed (grammar : Grammar σ) (scan : Scan σ) (name : String)
    (attached : Option String) : Except UsageFault (Scan σ) := do
  match grammar.options.find? fun option => option.name = name with
  | some option =>
    let settled ← scan.settle
    match attached with
    | some value => settled.store option value
    | none => return { settled with pending := some (option, none) }
  | none =>
    let known := (grammar.flags.map (·.1)) ++ "help" ::
      (if grammar.hasVersion then ["version"] else [])
    if name ∉ known then
      throw .unknownArgument
    if attached.isSome then
      throw .unexpectedValue
    let settled ← scan.settle
    match grammar.flags.find? fun flag => flag.1 = name with
    | some flag =>
      settled.store ⟨name, fun _ settings => .ok (flag.2 settings)⟩ ""
    | none =>
      throw (if name = "help" then .helpRequested else .versionRequested)

/-- Reads a letter after one dash. -/
def readLetter (grammar : Grammar σ) (scan : Scan σ) (c : Char) :
    Except UsageFault (Scan σ) :=
  if c = 'h' then do
    let _ ← scan.settle
    throw .helpRequested
  else if c = 'V' ∧ grammar.hasVersion then do
    let _ ← scan.settle
    throw .versionRequested
  else
    .error .unknownArgument

/-- Reads a bare argument that is no value of an option. -/
def readBare (grammar : Grammar σ) (scan : Scan σ) (word : String) :
    Except UsageFault (Scan σ) :=
  match grammar.bare, scan.hasBare with
  | some parameter, false => do
    let settled ← scan.settle
    return { settled with
             pending := some (parameter, some word), hasBare := true }
  | _, _ =>
    if grammar.subcommands.isEmpty ∨ word ∈ grammar.subcommands then
      .error .unknownArgument
    else .error .unknownSubcommand

/-- Reads one argument that names no subcommand. -/
def readArgument (grammar : Grammar σ) (scan : Scan σ) (word : String) :
    Except UsageFault (Scan σ) :=
  if scan.bareOnly then
    scan.readBare grammar word
  else
    match ArgumentForm.of word with
    | .separator => .ok { scan with bareOnly := true }
    | .named name attached => scan.readNamed grammar name attached
    | .letter c => scan.readLetter grammar c
    | .bare =>
      match scan.pending with
      | some (parameter, none) =>
        .ok { scan with pending := some (parameter, some word) }
      | _ => scan.readBare grammar word

/-- Reads a level up to its end or to the name of a subcommand. -/
def read (grammar : Grammar σ) : List String → Scan σ →
    Except UsageFault (Scan σ × Option Subcommand)
  | [], scan => .ok (scan, none)
  | word :: rest, scan =>
    if !scan.bareOnly && !scan.isWaiting && word ∈ grammar.subcommands then
      .ok (scan, some ⟨word, rest⟩)
    else do
      read grammar rest (← scan.readArgument grammar word)

end Scan

/-- Reads a level that has no subcommands. -/
def Grammar.readAll {σ : Type} (grammar : Grammar σ) (settings : σ)
    (arguments : List String) : Except UsageFault σ := do
  let (scan, _) ← Scan.read grammar arguments { settings }
  let settled ← scan.settle
  if grammar.required.all (· ∈ settled.given) then return settled.settings
  else throw .missingArgument

end ClusterTick.Replay

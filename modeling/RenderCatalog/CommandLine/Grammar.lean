import RenderCatalog.CommandLine.Basic
import RenderCatalog.Surroundings

/-!
# Reading a command line

A command line goes down levels: the program, a command of it, perhaps a command of that. Each level takes options and
operands. The value of an option or an operand is looked at when the next argument begins, so that of two mistakes the one
that is met first counts. After `--` there are only operands.
-/

namespace RenderCatalog.CommandLine

/-- What is accepted as a value. -/
inductive Accepted where
  | anything
  | path
  | oneOf (labels : List String)
  deriving Repr, DecidableEq

/-- A value is accepted: a path must not be empty. -/
def Accepted.holds : Accepted → String → Bool
  | .anything, _ => true
  | .path, value => !value.isEmpty
  | .oneOf labels, value => labels.contains value

/-- What an option does. -/
inductive Effect where
  | flag
  | value (accepted : Accepted)
  | help
  | version
  deriving Repr, DecidableEq

/-- An option: its name after `--`, its letter after `-`, and the variable that stands in when it is not given. -/
structure Flag where
  name : String
  letter? : Option Char := none
  effect : Effect := .flag
  fallback? : Option String := none
  deriving Repr, DecidableEq

/-- An operand: an argument that is told by its place. -/
structure Operand where
  name : String
  accepted : Accepted := .anything
  deriving Repr, DecidableEq

/-- Values by the names of their options and operands. -/
abbrev Given : Type := List (String × String)

/-- What a level takes. A leaf builds its command from what was given, unless something it needs is missing. -/
inductive Grammar where
  | leaf (options : List Flag) (operands : List Operand) (build : Given → Option Command)
  | branch (options : List Flag) (commands : List (String × Grammar))

/-- The options of a level's own. -/
def Grammar.options : Grammar → List Flag
  | .leaf options _ _ => options
  | .branch options _ => options

/-- The operands of a level. -/
def Grammar.operands : Grammar → List Operand
  | .leaf _ operands _ => operands
  | .branch _ _ => []

/-- The word that asks for help where a command is expected. -/
def helpWord : String := "help"

/-- What the word for help leads to, with the words after it: they have to name a command. -/
def Grammar.help : Grammar → List String → UsageFault
  | _, [] => .helpWanted
  | .leaf _ _ _, _ :: _ => .commandUnknown
  | .branch _ commands, word :: rest =>
    if word = helpWord then if rest.isEmpty then .helpWanted else .commandUnknown
    else match commands.lookup word with
      | some g => g.help rest
      | none => .commandUnknown

/-- An argument whose value has not been looked at, or has not come yet. -/
structure Pending where
  name : String
  accepted : Accepted
  value? : Option String
  deriving Repr, DecidableEq

/-- How far a level has been read. -/
structure Level where
  options : List Flag
  operands : List Operand
  given : Given := []
  pending? : Option Pending := none
  onlyOperands : Bool := false

/-- A level of which nothing has been read. -/
def Level.start (everywhere : List Flag) (g : Grammar) : Level :=
  { options := g.options ++ everywhere, operands := g.operands }

/-- What a command line has given: the command, then values, those of inner levels first. -/
structure Reading where
  command : Command
  given : Given
  surrounding : Given

/-- The value with a name: inner levels count before outer ones, and the variable of an option only without any. -/
def Reading.value? (r : Reading) (name : String) : Option String := (r.given ++ r.surrounding).lookup name

namespace Level

/-- An option is waiting for its value. -/
def awaits (l : Level) : Bool := l.pending?.any (·.value?.isNone)

/-- The level with a value looked at. -/
def give (l : Level) (name : String) (accepted : Accepted) (value : String) : Except UsageFault Level :=
  if (l.given.lookup name).isSome then .error .argumentRepeated
  else if accepted.holds value then .ok { l with given := l.given ++ [(name, value)] }
  else .error .valueInvalid

/-- The level with nothing pending. -/
def settle (l : Level) : Except UsageFault Level :=
  match l.pending? with
  | none => .ok l
  | some p =>
    match p.value? with
    | none => .error .valueInvalid
    | some value => { l with pending? := none }.give p.name p.accepted value

/-- The value under which a flag is kept. -/
def raised : String := "true"

/-- Reads an option without a value attached to it. -/
def takeOption (l : Level) (option : Flag) : Except UsageFault Level := do
  let l ← l.settle
  match option.effect with
  | .flag => l.give option.name .anything raised
  | .value accepted => .ok { l with pending? := some ⟨option.name, accepted, none⟩ }
  | .help => .error .helpWanted
  | .version => .error .versionWanted

/-- Reads an option with a value attached to it. -/
def takeAttached (l : Level) (option : Flag) (value : String) : Except UsageFault Level :=
  match option.effect with
  | .value accepted => do (← l.settle).give option.name accepted value
  | _ => .error .valueUnexpected

/-- Reads what stands after `--`: a name, perhaps with a value after `=`. -/
def takeName (l : Level) (s : List Char) : Except UsageFault Level :=
  let name := String.ofList (s.takeWhile (· != '='))
  match l.options.find? (·.name == name) with
  | none => .error .argumentUnknown
  | some option =>
    match s.drop name.length with
    | [] => l.takeOption option
    | _ :: value => l.takeAttached option (String.ofList value)

/-- Reads what stands after `-`: letters of flags, or the letter of an option with its value. -/
def takeLetters (l : Level) : List Char → Except UsageFault Level
  | [] => .ok l
  | letter :: rest =>
    match l.options.find? (·.letter? == some letter) with
    | none => .error .argumentUnknown
    | some option =>
      match option.effect, rest with
      | .value _, '=' :: value => l.takeAttached option (String.ofList value)
      | .value _, c :: value => l.takeAttached option (String.ofList (c :: value))
      | _, _ => do (← l.takeOption option).takeLetters rest

/-- Reads an operand; `fault` counts when the level takes no more of them. -/
def takeOperand (l : Level) (fault : UsageFault) (value : String) : Except UsageFault Level :=
  match l.operands with
  | [] => .error fault
  | operand :: rest => do
    let l ← l.settle
    .ok { l with operands := rest, pending? := some ⟨operand.name, operand.accepted, some value⟩ }

/-- Reads an argument that names no command. -/
def take (l : Level) (fault : UsageFault) (argument : String) : Except UsageFault Level :=
  if l.onlyOperands then l.takeOperand fault argument
  else match argument.toList with
    | ['-', '-'] => .ok { l with onlyOperands := true }
    | '-' :: '-' :: name => l.takeName name
    | '-' :: c :: letters => l.takeLetters (c :: letters)
    | _ =>
      match l.pending? with
      | some ⟨name, accepted, none⟩ => .ok { l with pending? := some ⟨name, accepted, some argument⟩ }
      | _ => l.takeOperand fault argument

/-- The values that variables give to options that were not given themselves. -/
def surrounding (surroundings : Surroundings) (given : Given) : List Flag → Except UsageFault Given
  | [] => .ok []
  | option :: rest => do
    match option.effect, option.fallback?.bind surroundings.value? with
    | .value accepted, some value =>
      if (given.lookup option.name).isSome then surrounding surroundings given rest
      else if accepted.holds value then return (option.name, value) :: (← surrounding surroundings given rest)
      else .error .valueInvalid
    | _, _ => surrounding surroundings given rest

/-- The end of a level, with what its own command has read, if it went down to one. -/
def close (l : Level) (surroundings : Surroundings) (g : Grammar) (inner? : Option Reading) :
    Except UsageFault Reading := do
  let l ← l.settle
  let around ← surrounding surroundings l.given l.options
  match inner?, g with
  | some inner, _ => .ok { inner with given := inner.given ++ l.given, surrounding := inner.surrounding ++ around }
  | none, .branch _ _ => .error (if l.given.isEmpty && around.isEmpty then .nothingGiven else .commandMissing)
  | none, .leaf _ _ build =>
    match build l.given with
    | some command => .ok ⟨command, l.given, around⟩
    | none => .error .argumentMissing

end Level

/-- The level below that an argument goes down to. -/
def Grammar.command? (g : Grammar) (argument : String) : Option Grammar :=
  match g with
  | .branch _ commands => commands.lookup argument
  | .leaf _ _ _ => none

/-- What is wrong with an operand that a level does not take: where a command is expected it is none, unless it stands
after `--`. -/
def Grammar.operandFault (g : Grammar) (onlyOperands : Bool) (argument : String) : UsageFault :=
  match g with
  | .leaf _ _ _ => .argumentUnknown
  | .branch _ _ =>
    if onlyOperands && (argument == helpWord || (g.command? argument).isSome) then .argumentUnknown else .commandUnknown

/-- The word for help in the place of a command. -/
def Grammar.asksHelp (g : Grammar) (argument : String) : Bool :=
  match g with
  | .branch _ _ => argument == helpWord
  | .leaf _ _ _ => false

/-- Reads a level from its arguments. Some options are taken on every level. -/
def Grammar.read (surroundings : Surroundings) (everywhere : List Flag) (g : Grammar) (l : Level) :
    List String → Except UsageFault Reading
  | [] => l.close surroundings g none
  | argument :: rest =>
    let mayBeCommand := !l.onlyOperands && !l.awaits
    if mayBeCommand && g.asksHelp argument then .error (g.help rest)
    else match (g.command? argument).filter (fun _ => mayBeCommand) with
      | some inner => do
        let reading ← inner.read surroundings everywhere (Level.start everywhere inner) rest
        l.close surroundings g (some reading)
      | none => do
        let l ← l.take (g.operandFault l.onlyOperands argument) argument
        g.read surroundings everywhere l rest

end RenderCatalog.CommandLine

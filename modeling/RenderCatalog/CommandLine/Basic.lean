import RenderCatalog.Settings.Basic

/-!
# Commands

What the program can be asked to do, as one value for each command with what it was given, and the ways in which a
command line can fail to ask for anything.
-/

namespace RenderCatalog

/-- A shell that words can be completed for. -/
inductive Shell where
  | bash
  | elvish
  | fish
  | powershell
  | zsh
  deriving Repr, DecidableEq

/-- All shells. -/
def Shell.all : List Shell := [.bash, .elvish, .fish, .powershell, .zsh]

/-- The name of a shell. -/
def Shell.label : Shell → String
  | .bash => "bash"
  | .elvish => "elvish"
  | .fish => "fish"
  | .powershell => "powershell"
  | .zsh => "zsh"

/-- The shell with a name. -/
def Shell.ofLabel? (s : String) : Option Shell := all.find? (·.label == s)

/-- What to do with the settings. -/
inductive SettingsAction where
  | display
  | setUp (here force : Bool)
  | locate
  deriving Repr, DecidableEq

/-- What the program can be asked to do. -/
inductive Command where
  | sync (overrides : SyncSettings.Overrides)
  | add (name category : String)
  | tools (index? category? : Option String)
  | validate (index? : Option String) (key payload : String)
  | settings (action : SettingsAction)
  | completions (shell : Shell)
  deriving Repr, DecidableEq

/-- A command with what holds for every command. -/
structure Invocation where
  command : Command
  verbose : Bool := false
  format? : Option String := none
  settingsFile? : Option String := none
  deriving Repr, DecidableEq

/-- Why a command line asks for nothing. The first two ask for information about the program instead. -/
inductive UsageFault where
  | helpWanted
  | versionWanted
  | nothingGiven
  | commandMissing
  | commandUnknown
  | argumentUnknown
  | argumentMissing
  | argumentRepeated
  | valueInvalid
  | valueUnexpected
  deriving Repr, DecidableEq

/-- The wording of a mistake in a command line. -/
def UsageFault.message : UsageFault → String
  | .helpWanted => "help was asked for"
  | .versionWanted => "the version was asked for"
  | .nothingGiven => "no command was given"
  | .commandMissing => "a command is missing"
  | .commandUnknown => "there is no such command"
  | .argumentUnknown => "there is no such argument"
  | .argumentMissing => "a required argument is missing"
  | .argumentRepeated => "an argument was given twice"
  | .valueInvalid => "an argument has no value or one that cannot be used"
  | .valueUnexpected => "an argument that takes no value was given one"

end RenderCatalog

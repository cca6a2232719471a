import RenderCatalog.Path

/-!
# What surrounds a run

The variables that a run finds, and whether it prints to a terminal. From them follow the place of the user's settings and
whether reports are coloured.
-/

namespace RenderCatalog

/-- The variables that surround a run, and whether it prints to a terminal. -/
structure Surroundings where
  values : List (String × String) := []
  terminal : Bool := false
  deriving Repr, DecidableEq

namespace Surroundings

/-- The value of a variable. -/
def value? (s : Surroundings) (name : String) : Option String := s.values.lookup name

/-- The user's home directory. -/
def home? (s : Surroundings) : Option String := (s.value? "HOME").filter (!·.isEmpty)

/-- The directory of the user's settings: the one that is set, when its path is absolute, else the one in the home. -/
def settingsDir? (s : Surroundings) : Option String :=
  match (s.value? "XDG_CONFIG_HOME").filter Path.isAbsolute with
  | some directory => some directory
  | none => s.home?.map (Path.join · ".config")

/-- A variable is set to anything but `0`, which is the word for no. -/
def affirms (s : Surroundings) (name : String) (default : Bool) : Bool := ((s.value? name).map (· != "0")).getD default

/-- Reports are coloured: when that is forced, or on a terminal when nothing speaks against it. -/
def coloured (s : Surroundings) : Bool :=
  s.affirms "CLICOLOR_FORCE" false || ((s.value? "NO_COLOR").isNone && s.affirms "CLICOLOR" true && s.terminal)

/-- The names of all variables that matter. -/
def names : List String :=
  ["HOME", "XDG_CONFIG_HOME", "SCHEMAGEN_CONFIG", "RUST_LOG", "CLICOLOR_FORCE", "NO_COLOR", "CLICOLOR"]

end Surroundings

end RenderCatalog

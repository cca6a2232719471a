import RenderCatalog.Host
import RenderCatalog.Settings.Basic
import RenderCatalog.Surroundings

/-!
# Where settings are kept

Settings are read from a file that was named, else from `schemagen.toml` in the working directory, else from the user's
own file, else they are the defaults. They are saved whole, and the directories on the way to the file are made.
-/

namespace RenderCatalog

open Json (Value)

namespace Settings

/-- The file of settings in the working directory. -/
def localFile : String := "schemagen.toml"

/-- The user's own file of settings. -/
def userFile? (s : Surroundings) : Option String :=
  s.settingsDir?.map fun directory => Path.join (Path.join directory "schemagen") "config.toml"

/-- The user's own file of settings, or a failure when there is no place for one. -/
def userFile (s : Surroundings) : Except Failure String :=
  match userFile? s with
  | some path => .ok path
  | none => .error (.ofMessage "failed to determine config directory")

/-- Settings in force, and the file that they come from. -/
structure Loaded where
  settings : Settings
  path? : Option String
  deriving Repr, DecidableEq

/-- The source of settings in words. -/
def Loaded.source (l : Loaded) : String := l.path?.getD "defaults"

/-- The value that stands for the settings in force and their source. -/
def Loaded.toValue (l : Loaded) : Value := .object [("source", .string l.source), ("config", l.settings.toValue)]

/-- What setting up a file of settings has done. -/
structure SetUp where
  path : String
  overwritten : Bool
  deriving Repr, DecidableEq

/-- The value that stands for what setting up has done. -/
def SetUp.toValue (s : SetUp) : Value := .object [("path", .string s.path), ("overwritten", .bool s.overwritten)]

variable {m : Type → Type} [Monad m] [Host m]

/-- A path that is a file, or nothing. -/
def ifFile (path? : Option String) : m (Option String) := do
  match path? with
  | none => return none
  | some path => return if ← Host.isFile path then some path else none

/-- The file of settings to use: the one that was named, whether it is there or not, else the first that is there. -/
def findFile (surroundings : Surroundings) (named? : Option String) : m (Option String) := do
  match named? with
  | some path => return some path
  | none =>
    match ← ifFile (some localFile) with
    | some path => return some path
    | none => ifFile (userFile? surroundings)

/-- The settings in a file. -/
def loadFile (path : String) : m (Except Failure Settings) := do
  match ← Host.readText path with
  | .error e => return .error ⟨[s!"failed to read config file {path}"], .os e⟩
  | .ok text =>
    match ofToml text with
    | .error f => return .error (f.during s!"invalid config file {path}")
    | .ok settings =>
      Host.note (.loadedSettings path)
      return .ok settings

/-- The settings in force. -/
def load (surroundings : Surroundings) (named? : Option String) : m (Except Failure Loaded) := do
  match ← findFile surroundings named? with
  | none =>
    Host.note .noSettings
    return .ok ⟨{}, none⟩
  | some path => return (← loadFile path).map fun settings => ⟨settings, some path⟩

/-- Makes the directories on the way to a file. -/
def makeRoom (path : String) : m (Except Failure Unit) := do
  match (Path.parent? path).filter (!·.isEmpty) with
  | none => return .ok ()
  | some directory =>
    return (← Host.makeDirs directory).mapError fun e => ⟨["failed to create config directory"], .os e⟩

/-- Saves settings that can be used. Room is made for the file before it is known whether there is a text to write into it. -/
def save {Dir : Type} [DirectoryName Dir] (s : Settings Dir) (path : String) : m (Except Failure Unit) := do
  match s.check with
  | .error f => return .error f
  | .ok () =>
    match ← makeRoom path with
    | .error f => return .error f
    | .ok () =>
      match s.print with
      | .error f => return .error f
      | .ok text =>
        match ← Host.writeText path text with
        | .error e => return .error ⟨["failed to write config file"], .os e⟩
        | .ok () =>
          Host.note (.savedSettings path)
          return .ok ()

/-- Sets up a file with the default settings. A file that is there is only replaced by `force`; otherwise nothing is
done. -/
def setUp (path : String) (force : Bool) : m (Except Failure (Option SetUp)) := do
  let overwritten := (← Host.kind? path).isSome
  if overwritten && !force then return .ok none
  else
    match ← save ({} : Settings) path with
    | .error f => return .error f
    | .ok () =>
      Host.note (.wroteSettings path)
      return .ok (some ⟨path, overwritten⟩)

end Settings

end RenderCatalog

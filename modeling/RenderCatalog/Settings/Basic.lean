import RenderCatalog.Json.Fit
import RenderCatalog.Report.Format
import RenderCatalog.Schema.Stored
import RenderCatalog.Settings.Directory
import RenderCatalog.Source.Extract
import RenderCatalog.Toml.Document
import RenderCatalog.Toml.Number
import RenderCatalog.Toml.Printer

/-!
# Settings

The settings of the program in two sections: how it shows things, and what a sync reads and writes. A setting that is not
given has its default. Settings are written as TOML and read back from it; they are checked once, when they are read or
before they are written.

Commands run on settings that name directories by texts, as all settings do that are read. Settings are checked and written
whatever their directories are named by: the check lets names pass that are no text, and then there is nothing to write.
-/

namespace RenderCatalog

open Json (Value Shape RecordField Layout Records)

/-- How the program shows things. -/
structure GeneralSettings where
  defaultFormat : String := "pretty"
  logLevel : String := "info"
  deriving Repr, DecidableEq

/-- What a sync reads and writes. -/
structure SyncSettings (Dir : Type := String) [DirectoryName Dir] where
  sourceDir : Dir := DirectoryName.ofText "src/components"
  outputDir : Dir := DirectoryName.ofText "schemas"
  extensions : List String := ["tsx"]
  exclude : List String := Source.defaultExclusions
  recursive : Bool := false
  parallel : Bool := true
  deriving Repr, DecidableEq

/-- The settings of the program. -/
structure Settings (Dir : Type := String) [DirectoryName Dir] where
  general : GeneralSettings := {}
  sync : SyncSettings Dir := {}
  deriving Repr, DecidableEq

/-- The sections of the settings. -/
inductive SettingsRecord where
  | settings
  | general
  | sync
  deriving Repr, DecidableEq

/-- The layouts of the sections: every setting has a default. -/
instance : Records SettingsRecord where
  layout
    | .settings => ⟨"Config", [⟨"general", .defaulted, .record .general⟩, ⟨"sync", .defaulted, .record .sync⟩]⟩
    | .general => ⟨"GeneralConfig", [⟨"default_format", .defaulted, .text⟩, ⟨"log_level", .defaulted, .text⟩]⟩
    | .sync => ⟨"SyncConfig", [
        ⟨"source_dir", .defaulted, .path⟩,
        ⟨"output_dir", .defaulted, .path⟩,
        ⟨"extensions", .defaulted, .list .text⟩,
        ⟨"exclude", .defaulted, .list .text⟩,
        ⟨"recursive", .defaulted, .flag⟩,
        ⟨"parallel", .defaulted, .flag⟩]⟩

/-- The value of a key taken by `take`, or the default. -/
def settingIn {α : Type} (take : Value → Option α) (key : String) (entries : List (String × Value)) (default : α) : α :=
  (fieldIn? take key entries).getD default

namespace GeneralSettings

/-- The settings that a canonical value gives, and defaults for the others. -/
def ofValue (v : Value) : GeneralSettings :=
  let es := (entriesIn? v).getD []
  let d : GeneralSettings := {}
  ⟨settingIn textIn? "default_format" es d.defaultFormat, settingIn textIn? "log_level" es d.logLevel⟩

/-- The value that stands for the section. -/
def toValue (g : GeneralSettings) : Value :=
  .object [("default_format", .string g.defaultFormat), ("log_level", .string g.logLevel)]

/-- The section as it is written. -/
def toToml (g : GeneralSettings) : List Char :=
  Toml.headerText "general" ++ Toml.lineText "default_format" (Toml.stringText g.defaultFormat) ++
    Toml.lineText "log_level" (Toml.stringText g.logLevel)

end GeneralSettings

namespace SyncSettings

/-- The settings that a canonical value gives, and defaults for the others. -/
def ofValue (v : Value) : SyncSettings :=
  let es := (entriesIn? v).getD []
  let d : SyncSettings := {}
  { sourceDir := settingIn textIn? "source_dir" es d.sourceDir
    outputDir := settingIn textIn? "output_dir" es d.outputDir
    extensions := settingIn (listIn? textIn?) "extensions" es d.extensions
    exclude := settingIn (listIn? textIn?) "exclude" es d.exclude
    recursive := settingIn flagIn? "recursive" es d.recursive
    parallel := settingIn flagIn? "parallel" es d.parallel }

/-- The value that stands for the section. -/
def toValue (s : SyncSettings) : Value :=
  .object [("source_dir", .string s.sourceDir), ("output_dir", .string s.outputDir),
    ("extensions", .ofStrings s.extensions), ("exclude", .ofStrings s.exclude),
    ("recursive", .bool s.recursive), ("parallel", .bool s.parallel)]

/-- The section as it is written. -/
def toToml (s : SyncSettings) : List Char :=
  Toml.headerText "sync" ++ Toml.lineText "source_dir" (Toml.stringText s.sourceDir) ++
    Toml.lineText "output_dir" (Toml.stringText s.outputDir) ++
    Toml.lineText "extensions" (Toml.stringsText s.extensions) ++
    Toml.lineText "exclude" (Toml.stringsText s.exclude) ++
    Toml.lineText "recursive" (Toml.flagText s.recursive) ++ Toml.lineText "parallel" (Toml.flagText s.parallel)

/-- The settings of a sync that a value gives, or the first fault in it. -/
def ofJson (v : Value) : Except Json.Fault SyncSettings :=
  (Json.fit (.record SettingsRecord.sync) v).map ofValue

/-- What one run takes in place of the settings of a sync: other directories, file by file, with the directories inside. -/
structure Overrides where
  sourceDir? : Option String := none
  outputDir? : Option String := none
  sequential : Bool := false
  recursive : Bool := false
  deriving Repr, DecidableEq

/-- The settings with what one run takes in their place. -/
def override (s : SyncSettings) (o : Overrides) : SyncSettings :=
  { s with
    sourceDir := o.sourceDir?.getD s.sourceDir
    outputDir := o.outputDir?.getD s.outputDir
    parallel := s.parallel && !o.sequential
    recursive := s.recursive || o.recursive }

end SyncSettings

namespace Settings

/-- The settings that a canonical value gives, and defaults for the others. -/
def ofValue (v : Value) : Settings :=
  let es := (entriesIn? v).getD []
  ⟨(es.lookup "general").elim {} GeneralSettings.ofValue, (es.lookup "sync").elim {} SyncSettings.ofValue⟩

/-- The value that stands for the settings. -/
def toValue (s : Settings) : Value := .object [("general", s.general.toValue), ("sync", s.sync.toValue)]

/-- The settings that a value gives, or the first fault in it. -/
def ofJson (v : Value) : Except Json.Fault Settings :=
  (Json.fit (.record SettingsRecord.settings) v).map ofValue

/-- The settings as they are written. -/
def toToml (s : Settings) : String := String.ofList (s.general.toToml ++ '\n' :: s.sync.toToml)

variable {Dir : Type} [DirectoryName Dir]

/-- The settings with the names of their directories as texts, when both are texts. -/
def texts? (s : Settings Dir) : Option Settings := do
  let source ← DirectoryName.text? s.sync.sourceDir
  let output ← DirectoryName.text? s.sync.outputDir
  return { general := s.general, sync := { s.sync with sourceDir := source, outputDir := output } }

/-- The step that writes the text of settings. -/
def printing : String := "failed to serialize config"

/-- What is wrong with the name of a directory that is no text. -/
def notText : String := "path contains invalid UTF-8 characters"

/-- The text of settings, or why there is none. -/
def print (s : Settings Dir) : Except Failure String :=
  match s.texts? with
  | some s => .ok s.toToml
  | none => .error ⟨[printing], .message notText⟩

/-- The levels that a log can be set to. -/
def levels : List String := ["trace", "debug", "info", "warn", "error"]

/-- An extension without the points before it. -/
def bareExtension (extension : String) : List Char := extension.toList.dropWhile (· == '.')

/-- What is wrong with settings, if anything: the first setting, in their order, that cannot be used. -/
def complaint? (s : Settings Dir) : Option String :=
  if (Format.parse s.general.defaultFormat).toOption.isNone then
    some s!"invalid default_format '{s.general.defaultFormat}', must be one of: json, text, pretty"
  else if !levels.contains s.general.logLevel then
    some (s!"invalid log_level '{s.general.logLevel}', must be one of: " ++ ", ".intercalate levels)
  else if DirectoryName.isEmpty s.sync.sourceDir then some "sync.source_dir cannot be empty"
  else if DirectoryName.isEmpty s.sync.outputDir then some "sync.output_dir cannot be empty"
  else if s.sync.extensions.isEmpty then some "sync.extensions must list at least one extension"
  else match s.sync.extensions.find? fun e => (bareExtension e).isEmpty with
    | some e => some s!"invalid extension '{e}' in sync.extensions"
    | none =>
      if s.sync.exclude.any (·.isEmpty) then some "sync.exclude cannot contain empty patterns" else none

/-- Settings that can be used, or why they cannot. -/
def check (s : Settings Dir) : Except Failure Unit :=
  match s.complaint? with
  | some text => .error (.ofMessage text)
  | none => .ok ()

/-- The format in which reports are shown by default. -/
def format (s : Settings) : Except Failure Format :=
  (Format.parse s.general.defaultFormat).mapError fun e => .ofMessage e.message

mutual
/-- A TOML value as a JSON value. Numbers only keep that they are numbers, and a moment is a record in which no setting is
found: no setting holds either. -/
def jsonOf : Toml.Value → Value
  | .string s => .string s
  | .number _ => .ofInt 0
  | .moment text => .object [("moment", .string text)]
  | .boolean b => .bool b
  | .array _ items => .array (jsonOfItems items)
  | .table _ entries => .object (jsonOfEntries entries)
/-- TOML items as JSON values. -/
def jsonOfItems : List Toml.Value → List Value
  | [] => []
  | v :: rest => jsonOf v :: jsonOfItems rest
/-- TOML entries as JSON entries. -/
def jsonOfEntries : List (String × Toml.Value) → List (String × Value)
  | [] => []
  | (key, v) :: rest => (key, jsonOf v) :: jsonOfEntries rest
end

/-- The step that reads the text of settings. -/
def parsing : String := "failed to parse config file"

/-- A section that is written as a list of its settings; what is left over after the last one is passed over. -/
def withoutSurplus (r : SettingsRecord) : Toml.Value → Toml.Value
  | .array grown items => .array grown (items.take (Records.layout r).fields.length)
  | v => v

/-- The entry of a document for a section or anything else. -/
def documentEntry (key : String) (v : Toml.Value) : Toml.Value :=
  if key = "general" then withoutSurplus .general v else if key = "sync" then withoutSurplus .sync v else v

/-- The settings that a document gives, when the document has the shape of settings. All numbers in it have to be of a size
that can be held, also where no setting is read from them. -/
def ofDocument? (entries : Toml.Entries) : Option Settings :=
  let entries := entries.map fun (key, v) => (key, documentEntry key v)
  if Toml.entriesHeld entries then (ofJson (.object (jsonOfEntries entries))).toOption else none

/-- The settings that a text writes, whether or not they can be used. -/
def read? (text : String) : Option Settings := (Toml.read? text.toList).bind ofDocument?

/-- The settings that a text writes, when they can be used. -/
def ofToml (text : String) : Except Failure Settings :=
  match read? text with
  | none => .error ⟨[parsing], .unsaid⟩
  | some s => do
    s.check
    .ok s

end Settings

end RenderCatalog

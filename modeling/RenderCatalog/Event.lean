import RenderCatalog.Error

/-!
# What happens along the way

Everything worth logging is an `Event` of the domain; its level, its source and its wording are functions of it. Operations hand
their events on in the order in which things happened, and only the outermost layer decides which of them to show.
-/

namespace RenderCatalog

/-- How much an event matters. -/
inductive Level where
  | error
  | warn
  | info
  | debug
  | trace
  deriving Repr, DecidableEq

/-- The severity of a level, the gravest being the least. -/
def Level.rank : Level → Nat
  | .error => 1
  | .warn => 2
  | .info => 3
  | .debug => 4
  | .trace => 5

/-- The label of a level in a log. -/
def Level.label : Level → String
  | .error => "ERROR"
  | .warn => "WARN"
  | .info => "INFO"
  | .debug => "DEBUG"
  | .trace => "TRACE"

/-- The part of the program that an event comes from. -/
inductive EventSource where
  | extractor
  | scanner
  | compiler
  | catalog
  | writer
  | pipeline
  | settings
  | syncCommand
  | addCommand
  | toolsCommand
  | validateCommand
  | settingsCommand
  | completionsCommand
  deriving Repr, DecidableEq

/-- The target of a part of the program: the name by which the directives of a log filter choose it. -/
def EventSource.target : EventSource → String
  | .extractor => "schemagen_introspector::extractor"
  | .scanner => "schemagen_introspector::scanner"
  | .compiler => "schemagen_codegen::compiler"
  | .catalog => "schemagen_codegen::catalog"
  | .writer => "schemagen_files::writer"
  | .pipeline => "schemagen_cli::pipeline"
  | .settings => "schemagen_cli::config"
  | .syncCommand => "schemagen_cli::commands::sync"
  | .addCommand => "schemagen_cli::commands::add"
  | .toolsCommand => "schemagen_cli::commands::tools"
  | .validateCommand => "schemagen_cli::commands::validate"
  | .settingsCommand => "schemagen_cli::commands::config"
  | .completionsCommand => "schemagen_cli::commands::completions"

/-- Something that happened. -/
inductive Event where
  | excluded (path pattern : String)
  | undeclared (path : String)
  | repeatedProp (name : String)
  | extracted (component : String) (props : Nat) (path : String)
  | unusualToolName (tool path : String)
  | typeProp (component : String)
  | compiled (component tool : String) (parameters : Nat)
  | found (files : Nat) (root : String)
  | processing (files : Nat) (directory : String)
  | unreadable (path : String) (cause : Error)
  | skipped (path reason : String)
  | repeatedComponent (component path existing : String)
  | wroteFile (path : String)
  | wroteAll (schemas : Nat) (directory : String)
  | leftTemporary (path : String) (cause : OsError)
  | loadedIndex (schemas : Nat) (path : String)
  | synced (components : Nat) (directory : String) (skipped failed : Nat)
  | finished (milliseconds components skipped failed : Nat)
  | unprocessed (files : Nat)
  | notCreated (component category : String)
  | foundTools (tools : Nat) (path : String)
  | validPayload (renderType : String)
  | wroteSettings (path : String)
  | settingsExist (path : String)
  | noSettings
  | loadedSettings (path : String)
  | savedSettings (path : String)
  | completions (shell : String)
  | refused (command : EventSource) (text : String)
  deriving Repr, DecidableEq

/-- How much an event matters. -/
def Event.level : Event → Level
  | .refused _ _ => .error
  | .settingsExist _ => .error
  | .unusualToolName _ _ => .warn
  | .typeProp _ => .warn
  | .unreadable _ _ => .warn
  | .repeatedComponent _ _ _ => .warn
  | .unprocessed _ => .warn
  | .notCreated _ _ => .warn
  | .processing _ _ => .info
  | .skipped _ _ => .info
  | .wroteAll _ _ => .info
  | .synced _ _ _ _ => .info
  | .foundTools _ _ => .info
  | .validPayload _ => .info
  | .wroteSettings _ => .info
  | .completions _ => .info
  | _ => .debug

/-- The part of the program that an event comes from. -/
def Event.source : Event → EventSource
  | .excluded _ _ => .extractor
  | .undeclared _ => .extractor
  | .repeatedProp _ => .extractor
  | .extracted _ _ _ => .extractor
  | .unusualToolName _ _ => .compiler
  | .typeProp _ => .compiler
  | .compiled _ _ _ => .compiler
  | .found _ _ => .scanner
  | .processing _ _ => .pipeline
  | .unreadable _ _ => .pipeline
  | .skipped _ _ => .pipeline
  | .repeatedComponent _ _ _ => .pipeline
  | .wroteFile _ => .writer
  | .wroteAll _ _ => .writer
  | .leftTemporary _ _ => .writer
  | .loadedIndex _ _ => .catalog
  | .synced _ _ _ _ => .syncCommand
  | .finished _ _ _ _ => .pipeline
  | .unprocessed _ => .syncCommand
  | .notCreated _ _ => .addCommand
  | .foundTools _ _ => .toolsCommand
  | .validPayload _ => .validateCommand
  | .wroteSettings _ => .settingsCommand
  | .settingsExist _ => .settingsCommand
  | .noSettings => .settings
  | .loadedSettings _ => .settings
  | .savedSettings _ => .settings
  | .completions _ => .completionsCommand
  | .refused command _ => command

/-- The wording of an event. -/
def Event.text : Event → String
  | .excluded path pattern => s!"Skipping {path}: matches exclusion '{pattern}'"
  | .undeclared path => s!"Skipping {path}: no component declaration"
  | .repeatedProp name => s!"Dropping repeated prop '{name}'"
  | .extracted component props path => s!"Extracted {component} with {props} props from {path}"
  | .unusualToolName tool path =>
    s!"Tool name {tool} of {path} contains characters outside [A-Za-z0-9_]; function-calling APIs may reject it"
  | .typeProp component => s!"{component} declares a 'type' prop; it cannot be set in a render payload"
  | .compiled component tool parameters => s!"Compiled {component} into tool {tool} ({parameters} parameters)"
  | .found files root => s!"Found {files} component source files in {root}"
  | .processing files directory => s!"Processing {files} source files from {directory}"
  | .unreadable path cause => s!"Failed to read {path}: {cause.message}"
  | .skipped path reason => s!"Skipping {path}: {reason}"
  | .repeatedComponent component path existing =>
    s!"Duplicate component {component} in {path} (already defined by {existing})"
  | .wroteFile path => s!"Wrote {path}"
  | .wroteAll schemas directory => s!"Wrote {schemas} schemas and index.json to {directory}"
  | .leftTemporary path cause => s!"Failed to remove temp file {path}: {cause.message}"
  | .loadedIndex schemas path => s!"Loaded {schemas} schemas from {path}"
  | .synced components directory left broken =>
    s!"Synced {components} components to {directory} ({left} skipped, {broken} failed)"
  | .finished milliseconds components left broken =>
    s!"Sync finished in {milliseconds}ms: {components} written, {left} skipped, {broken} failed"
  | .unprocessed files => s!"{files} files could not be processed"
  | .notCreated component category => s!"add is not implemented: {component} ({category}) was not created"
  | .foundTools tools path => s!"Found {tools} tools in {path}"
  | .validPayload renderType => s!"Payload is valid for {renderType}"
  | .wroteSettings path => s!"Wrote default configuration to {path}"
  | .settingsExist path => s!"{path} already exists, use --force to overwrite"
  | .noSettings => "Config file not found, using defaults"
  | .loadedSettings path => s!"Loaded config from {path}"
  | .savedSettings path => s!"Saved config to {path}"
  | .completions shell => s!"Generating {shell} completions"
  | .refused _ text => text

end RenderCatalog

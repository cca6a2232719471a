import RenderCatalog.CommandLine.Invocation
import RenderCatalog.Component.Plan
import RenderCatalog.Payload.Verdict
import RenderCatalog.Program.Outcome
import RenderCatalog.Settings.File
import RenderCatalog.Sync

/-!
# Running the program

A run reads the command line, then the settings, then opens its log and carries out one command. A command ends in an
outcome; what stops it altogether is a failure, which the outer layer shows.
-/

namespace RenderCatalog.Program

open Json (Value)

variable {m : Type → Type} [Monad m] [Host m]

/-- How reports are shown. -/
structure View where
  format : Format
  coloured : Bool := false
  deriving Repr, DecidableEq

/-- The end of a command that prints a report. -/
def report (view : View) (code : ExitCode) (v : Value) : Outcome :=
  .printing code (Report.render view.format view.coloured v)

/-- The end of a command that refuses what it was given. -/
def refuse (command : EventSource) (code : ExitCode) (text : String) : m Outcome := do
  Host.note (.refused command text)
  return { code := code }

/-- Brings the artifacts up to date. -/
def sync (view : View) (s : SyncSettings) : m (Except Failure Outcome) := do
  match ← Sync.run s with
  | .error f => return .error f
  | .ok r =>
    Host.note (.synced r.components.length r.outputDir r.skipped.length r.failed.length)
    if r.hasFailures then
      Host.note (.unprocessed r.failed.length)
      return .ok (report view .partialFailure r.toValue)
    else return .ok (report view .success r.toValue)

/-- Plans a component. Since no plan is carried out, this never succeeds. -/
def add (view : View) (name category : String) : m Outcome := do
  match Plan.make name category with
  | .error f => refuse .addCommand .invalidInput f.message
  | .ok plan =>
    Host.note (.notCreated plan.component plan.category.label)
    return report view .failure plan.toValue

/-- Lists the tools of an index. -/
def tools (view : View) (index : String) (category? : Option String) : m (Except Failure Outcome) := do
  match category?.mapM Category.parse with
  | .error e => return .ok (← refuse .toolsCommand .invalidInput e.message)
  | .ok category? =>
    match ← listTools index category? with
    | .error f => return .error f
    | .ok summaries =>
      Host.note (.foundTools summaries.length index)
      return .ok (report view .success (.array (summaries.map (·.toValue))))

/-- The text of a payload: what was typed in when it is given as `-`. -/
def payloadText (payload : String) : m (Except Failure String) := do
  if payload = "-" then
    return ((← Host.input).bind Host.decode).mapError fun e => ⟨["failed to read payload from stdin"], .os e⟩
  else return .ok payload

/-- The code for a payload that got no verdict: an unknown component is a refused argument. -/
def codeWithoutVerdict (f : Failure) : ExitCode :=
  match f.error? with
  | some (.schemaNotFound _) => .invalidInput
  | _ => .failure

/-- Checks a payload and prints its rendering. -/
def validate (view : View) (index key payload : String) : m (Except Failure Outcome) := do
  match ← payloadText payload with
  | .error f => return .error f
  | .ok text =>
    match ← Payload.check index key text with
    | .error f => return .ok (← refuse .validateCommand (codeWithoutVerdict f) f.line)
    | .ok (.accepted rendering) =>
      Host.note (.validPayload rendering.renderType)
      return .ok (report view .success (Payload.Verdict.accepted rendering).toValue)
    | .ok (.rejected component issues) =>
      Host.noteAll (issues.map fun i => .refused .validateCommand i.text)
      return .ok (report view .invalidInput (Payload.Verdict.rejected component issues).toValue)

/-- Shows, sets up or locates the settings. -/
def settings (surroundings : Surroundings) (view : View) (loaded : Settings.Loaded) :
    SettingsAction → m (Except Failure Outcome)
  | .display => return .ok (report view .success loaded.toValue)
  | .locate => return .ok (report view .success (.string loaded.source))
  | .setUp here force => do
    match if here then .ok Settings.localFile else Settings.userFile surroundings with
    | .error f => return .error f
    | .ok path =>
      match ← Settings.setUp path force with
      | .error f => return .error f
      | .ok (some done) => return .ok (report view .success done.toValue)
      | .ok none =>
        Host.note (.settingsExist path)
        return .ok { code := .failure }

/-- Announces the completions for a shell; their scripts are not made here. -/
def completions (shell : Shell) : m Outcome := do
  Host.note (.completions shell.label)
  return { code := .success }

/-- Carries out a command. An index that is not given is the one that a sync writes. -/
def execute (surroundings : Surroundings) (loaded : Settings.Loaded) (view : View) :
    Command → m (Except Failure Outcome)
  | .sync overrides => sync view (loaded.settings.sync.override overrides)
  | .add name category => return .ok (← add view name category)
  | .tools index? category? => tools view (index?.getD loaded.settings.sync.outputDir) category?
  | .validate index? key payload => validate view (index?.getD loaded.settings.sync.outputDir) key payload
  | .settings action => settings surroundings view loaded action
  | .completions shell => return .ok (← completions shell)

/-- The variable that sets the log. -/
def logVariable : String := "RUST_LOG"

/-- What the log takes: much when it was asked for, else what the variable says, else what the settings say. -/
def logFilter (surroundings : Surroundings) (verbose : Bool) (s : Settings) : LogFilter :=
  if verbose then .ofThreshold ⟨some .debug⟩
  else match (surroundings.value? logVariable).bind LogFilter.parse with
    | some filter => filter
    | none => (LogFilter.parse s.general.logLevel).getD .nothing

/-- The format of reports: the one that was asked for, else the one in the settings. -/
def chosenFormat (format? : Option String) (s : Settings) : Except Failure Format :=
  match format? with
  | some text => (Format.parse text).mapError fun e => .ofMessage e.message
  | none => s.format

/-- Runs the program with the arguments after its name. Nothing is logged before the settings are known. -/
def run (surroundings : Surroundings) (arguments : List String) : m (Except Failure Outcome) := do
  match Invocation.parse surroundings arguments with
  | .error fault => return .ok (.ofUsage fault)
  | .ok invocation =>
    Host.listen .nothing
    match ← Settings.load surroundings invocation.settingsFile? with
    | .error f => return .error f
    | .ok loaded =>
      Host.listen (logFilter surroundings invocation.verbose loaded.settings)
      match chosenFormat invocation.format? loaded.settings with
      | .error f => return .error f
      | .ok format => execute surroundings loaded ⟨format, surroundings.coloured⟩ invocation.command

end RenderCatalog.Program

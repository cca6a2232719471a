import RenderCatalog.Artifact
import RenderCatalog.Schema.Compile
import RenderCatalog.Settings.Basic
import RenderCatalog.Source.Scan

/-!
# Syncing

A sync brings the artifacts of a catalog up to date with its sources: it scans, extracts and compiles every file, and
writes what came of it. A file that gives no component is skipped or has failed, and never stops the others. Of several
files with one component name the first in the order of the scan is kept. Files are processed in that order; processing
them side by side would show in the log alone, so nothing else depends on the setting for it.
-/

namespace RenderCatalog

open Json (Value)

namespace Sync

/-- A component that was written. -/
structure Written where
  component : String
  tool : String
  category : Category
  props : Nat
  source : String
  file : String
  deriving Repr, DecidableEq

/-- A file that was left out on purpose. -/
structure Skipped where
  path : String
  reason : Source.Skip
  deriving Repr, DecidableEq

/-- A file that could not be used. -/
structure Failed where
  path : String
  error : String
  deriving Repr, DecidableEq

/-- What a sync has done. -/
structure Report where
  sourceDir : String
  outputDir : String
  indexPath : String
  components : List Written
  skipped : List Skipped
  failed : List Failed
  milliseconds : Nat
  deriving Repr, DecidableEq

/-- The value that stands for a written component. -/
def Written.toValue (w : Written) : Value :=
  .object [("component", .string w.component), ("tool", .string w.tool), ("category", .string w.category.label),
    ("props", .ofInt w.props), ("source", .string w.source), ("file", .string w.file)]

/-- The value that stands for a skipped file. -/
def Skipped.toValue (s : Skipped) : Value :=
  match s.reason with
  | .excluded pattern =>
    .object [("path", .string s.path), ("reason", .string "excluded"), ("pattern", .string pattern)]
  | .undeclared => .object [("path", .string s.path), ("reason", .string "no_declaration")]

/-- The value that stands for a failed file. -/
def Failed.toValue (f : Failed) : Value := .object [("path", .string f.path), ("error", .string f.error)]

/-- The value that stands for a report. -/
def Report.toValue (r : Report) : Value :=
  .object [("source_dir", .string r.sourceDir), ("output_dir", .string r.outputDir), ("index_path", .string r.indexPath),
    ("components", .array (r.components.map (·.toValue))), ("skipped", .array (r.skipped.map (·.toValue))),
    ("failed", .array (r.failed.map (·.toValue))), ("duration_ms", .ofInt r.milliseconds)]

/-- Some file has failed. -/
def Report.hasFailures (r : Report) : Bool := !r.failed.isEmpty

/-- The event that ends a sync. -/
def Report.finished (r : Report) : Event :=
  .finished r.milliseconds r.components.length r.skipped.length r.failed.length

/-- What came of one file. -/
inductive Outcome where
  | compiled (path : String) (schema : Schema)
  | skipped (file : Skipped)
  | failed (file : Failed)

/-- The schemas among outcomes, with their files. -/
def compiledOf (outcomes : List Outcome) : List (String × Schema) :=
  outcomes.filterMap fun
    | .compiled path schema => some (path, schema)
    | _ => none

/-- The skipped files among outcomes. -/
def skippedOf (outcomes : List Outcome) : List Skipped :=
  outcomes.filterMap fun
    | .skipped file => some file
    | _ => none

/-- The failed files among outcomes. -/
def failedOf (outcomes : List Outcome) : List Failed :=
  outcomes.filterMap fun
    | .failed file => some file
    | _ => none

/-- The schemas in the order of their component names; equal names keep the order of the scan. -/
def byName (compiled : List (String × Schema)) : List (String × Schema) :=
  compiled.mergeSort fun a b => !(b.2.component < a.2.component)

/-- A file whose component name another file has already given. -/
structure Repetition where
  path : String
  component : String
  existing : String
  deriving Repr, DecidableEq

/-- The first schema of each component name, and the files that repeat a name; `kept` holds the names so far, with the
files that gave them. -/
def keepFirst (kept : List (String × String)) : List (String × Schema) → List (String × Schema) × List Repetition
  | [] => ([], [])
  | (path, schema) :: rest =>
    match kept.lookup schema.component with
    | some existing =>
      let (schemas, repeated) := keepFirst kept rest
      (schemas, ⟨path, schema.component, existing⟩ :: repeated)
    | none =>
      let (schemas, repeated) := keepFirst ((schema.component, path) :: kept) rest
      ((path, schema) :: schemas, repeated)

/-- A repetition as a failed file. -/
def Repetition.failed (r : Repetition) : Failed :=
  ⟨r.path, s!"duplicate component name {r.component} (already defined by {r.existing})"⟩

/-- A repetition as an event. -/
def Repetition.event (r : Repetition) : Event := .repeatedComponent r.component r.path r.existing

/-- A kept schema as a written component. -/
def writtenOf (outputDir : String) (source : String) (s : Schema) : Written :=
  { component := s.component
    tool := s.tool.name
    category := s.category
    props := s.properties.length
    source := source
    file := Artifact.schemaPath outputDir s }

variable {m : Type → Type} [Monad m] [Host m]

/-- Reads, extracts and compiles one file. -/
def processFile (patterns : List String) (path : String) : m Outcome := do
  match ← Source.readSource path with
  | .error e =>
    Host.note (.unreadable path e)
    return .failed ⟨path, e.message⟩
  | .ok source =>
    Host.noteAll (Source.extractEvents patterns source path)
    match Source.extract patterns source path with
    | .error skip =>
      Host.note (.skipped path skip.text)
      return .skipped ⟨path, skip⟩
    | .ok component =>
      Host.noteAll (Schema.compileEvents component)
      return .compiled path (Schema.compile component)

/-- Runs a sync. -/
def run (s : SyncSettings) : m (Except Failure Report) := do
  let start ← Host.now
  match ← Source.Scan.run { root := s.sourceDir, extensions := s.extensions, recursive := s.recursive } with
  | .error e => return during s!"failed to scan {s.sourceDir}" (.error e)
  | .ok files =>
    Host.note (.processing files.length s.sourceDir)
    let outcomes ← files.mapM (processFile (Source.exclusions s.exclude))
    let (kept, repeated) := keepFirst [] (byName (compiledOf outcomes))
    Host.noteAll (repeated.map (·.event))
    match ← Artifact.write true s.outputDir (kept.map (·.2)) with
    | .error e => return during s!"failed to write schemas to {s.outputDir}" (.error e)
    | .ok summary =>
      let report : Report :=
        { sourceDir := s.sourceDir
          outputDir := s.outputDir
          indexPath := summary.indexPath
          components := kept.map fun (path, schema) => writtenOf s.outputDir path schema
          skipped := skippedOf outcomes
          failed := failedOf outcomes ++ repeated.map (·.failed)
          milliseconds := (← Host.now) - start }
      Host.note report.finished
      return .ok report

end Sync

end RenderCatalog

import RenderCatalog.Host
import RenderCatalog.Schema.Index

/-!
# Artifacts

The artifacts of a catalog are one file for each schema and the index of all of them. Each file is written under a
temporary name and then renamed, so that it is replaced as a whole or not at all, and the index comes last.
-/

namespace RenderCatalog.Artifact

open Json (Value)

/-- Where the artifacts of a catalog have been written. -/
structure Summary where
  outputDir : String
  schemaFiles : List String
  indexPath : String
  deriving Repr, DecidableEq

/-- How many files there are, the index included. -/
def Summary.count (s : Summary) : Nat := s.schemaFiles.length + 1

/-- The value that stands for a summary. -/
def Summary.toValue (s : Summary) : Value :=
  .object [("output_dir", .string s.outputDir), ("schema_files", .ofStrings s.schemaFiles),
    ("index_path", .string s.indexPath)]

/-- The text of an artifact: one part a line, and a line end after the last. -/
def text (v : Value) : String := v.pretty ++ "\n"

/-- The temporary path of an artifact. -/
def temporaryPath (path : String) : String := Path.withExtension path "json.tmp"

/-- The path of a schema's artifact. -/
def schemaPath (outputDir : String) (s : Schema) : String := Path.join outputDir s.fileName

/-- The path of the index. -/
def indexPath (outputDir : String) : String := Path.join outputDir Index.fileName

/-- The first component name that comes twice; `seen` holds the names before. -/
def repeatedName? (seen : List String) : List Schema → Option String
  | [] => none
  | s :: rest => if seen.contains s.component then some s.component else repeatedName? (s.component :: seen) rest

variable {m : Type → Type} [Monad m] [Host m]

/-- A text under a temporary path, then under its own. -/
def writeThenRename (temporary path content : String) : m (Except OsError Unit) := do
  match ← Host.create temporary with
  | .error e => return .error e
  | .ok () =>
    match ← Host.append temporary content.toUTF8 with
    | .error e => return .error e
    | .ok () =>
      match ← Host.flush temporary with
      | .error e => return .error e
      | .ok () => Host.rename temporary path

/-- Writes one artifact. When a step fails the temporary file is taken away again, if that is possible. -/
def writeFile (atomic : Bool) (path content : String) : m (Except Error Unit) := do
  if atomic then
    let temporary := temporaryPath path
    match ← writeThenRename temporary path content with
    | .ok () => return .ok ()
    | .error cause =>
      match ← Host.remove temporary with
      | .ok () => pure ()
      | .error e => Host.note (.leftTemporary temporary e)
      return .error (.write path cause)
  else return (← Host.writeText path content).mapError (.write path)

/-- Writes the artifacts of schemas, one after the other; the first failure ends it. -/
def writeSchemas (atomic : Bool) (outputDir : String) : List Schema → m (Except Error Unit)
  | [] => return .ok ()
  | s :: rest => do
    let path := schemaPath outputDir s
    match ← writeFile atomic path (text s.toValue) with
    | .error e => return .error e
    | .ok () =>
      Host.note (.wroteFile path)
      writeSchemas atomic outputDir rest

/-- Writes the artifacts of a catalog. Component names must differ, because they name the files. -/
def write (atomic : Bool) (outputDir : String) (schemas : List Schema) : m (Except Error Summary) := do
  match repeatedName? [] schemas with
  | some name => return .error (.duplicateComponent name)
  | none =>
    match ← Host.makeDirs outputDir with
    | .error e => return .error (.createDir outputDir e)
    | .ok () =>
      match ← writeSchemas atomic outputDir schemas with
      | .error e => return .error e
      | .ok () =>
        match ← writeFile atomic (indexPath outputDir) (text (Index.toValue ⟨schemas⟩)) with
        | .error e => return .error e
        | .ok () =>
          Host.note (.wroteAll schemas.length outputDir)
          return .ok ⟨outputDir, schemas.map (schemaPath outputDir), indexPath outputDir⟩

/-- The index in a file, or in the index file of a directory. -/
def loadIndex (path : String) : m (Except Error Index) := do
  let path ← (do return if ← Host.isDir path then indexPath path else path)
  match ← Host.readText path with
  | .error e => return .error (.io path e)
  | .ok content =>
    match Index.ofText content with
    | .error e => return .error e
    | .ok index =>
      Host.note (.loadedIndex index.schemas.length path)
      return .ok index

end RenderCatalog.Artifact

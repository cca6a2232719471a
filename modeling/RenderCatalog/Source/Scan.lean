import RenderCatalog.Host
import RenderCatalog.Text.Case

/-!
# Scanning for sources

A scan lists the regular files below a directory whose extension is among the accepted ones, in the order of their paths.
Links are not followed, except that the directory itself may be one.
-/

namespace RenderCatalog.Source

/-- What is scanned: a directory, the accepted extensions, and whether directories inside it are scanned too. -/
structure Scan where
  root : String
  extensions : List String := ["tsx"]
  recursive : Bool := false
  deriving Repr, DecidableEq

/-- An extension ready for comparison: without points before it and in small letters. -/
def normalExtension (extension : String) : List Char :=
  Text.lowercase (extension.toList.dropWhile (· == '.'))

/-- The extensions ready for comparison, the empty ones left out. -/
def Scan.accepted (s : Scan) : List (List Char) := (s.extensions.map normalExtension).filter (!·.isEmpty)

/-- The scan accepts a file name by its extension. -/
def Scan.accepts (s : Scan) (path : String) : Bool :=
  match Path.extension? path with
  | some extension => s.accepted.contains (Text.lowercase extension.toList)
  | none => false

/-- The accepted files among what lies below the root, in the order of their paths. -/
def Scan.select (s : Scan) (listing : List (List String × NodeKind)) : List String :=
  let files := listing.filterMap fun (names, kind) =>
    let path := Path.below s.root names
    if kind == .file && (s.recursive || names.length == 1) && s.accepts path then some path else none
  files.mergeSort fun a b => !Path.less b a

variable {m : Type → Type} [Monad m] [Host m]

/-- A directory that could not be listed. -/
def unlisted (path : String) (e : OsError) : Error := .io path (.other s!"IO error for operation on {path}: {e.message}")

/-- The files that a scan finds. -/
def Scan.run (s : Scan) : m (Except Error (List String)) := do
  if ← Host.isDir s.root then
    match ← Host.below s.root s.recursive with
    | .error (path, e) => return .error (unlisted path e)
    | .ok listing =>
      let files := s.select listing
      Host.note (.found files.length s.root)
      return .ok files
  else return .error (.sourceNotFound s.root)

/-- The text of a source file. -/
def readSource (path : String) : m (Except Error String) := do
  return (← Host.readText path).mapError (.io path)

end RenderCatalog.Source

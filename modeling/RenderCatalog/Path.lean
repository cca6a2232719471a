import RenderCatalog.Text.Search
import RenderCatalog.Text.Blank

/-!
# Paths

Paths are texts with slashes between names. Repeated slashes, a slash at the end and inner `.` names say nothing, so
two spellings of one path have the same `parts`; a leading `.` is kept. Names are compared part by part, which puts
`a/x` before `a-b`.
-/

namespace RenderCatalog.Path

/-- One part of a path. -/
inductive Part where
  | root
  | here
  | up
  | name (s : List Char)
  deriving Repr, DecidableEq

/-- The pieces of a path between slashes, the empty ones left out. -/
def pieces (path : List Char) : List (List Char) :=
  (Text.pieces (· == '/') path).filter (!·.isEmpty)

/-- What a piece stands for. -/
def Part.ofPiece (piece : List Char) : Part :=
  if piece = ['.'] then .here else if piece = ['.', '.'] then .up else .name piece

/-- The path starts at the root. -/
def isAbsolute (path : String) : Bool := path.toList.head? == some '/'

/-- The parts of a path: a `.` counts only at the very front. -/
def parts (path : String) : List Part :=
  let all := (pieces path.toList).map Part.ofPiece
  if isAbsolute path then .root :: all.filter (· != .here)
  else match all with
    | .here :: rest => .here :: rest.filter (· != .here)
    | _ => all.filter (· != .here)

/-- The name of the file, when the path ends in a name. -/
def fileName? (path : String) : Option (List Char) :=
  match (parts path).getLast? with
  | some (.name s) => some s
  | _ => none

/-- A name cut at its last point: a point at the front does not cut, and `..` has no point to cut at. -/
def splitAtPoint (name : List Char) : List Char × Option (List Char) :=
  if name = ['.', '.'] then (name, none)
  else match Text.afterLast? ['.'] name with
    | none => (name, none)
    | some after =>
      let before := name.take (name.length - after.length - 1)
      if before.isEmpty then (name, none) else (before, some after)

/-- The file name without its extension. -/
def stem? (path : String) : Option String := (fileName? path).map fun name => String.ofList (splitAtPoint name).1

/-- The extension of the file name, without its point. -/
def extension? (path : String) : Option String :=
  (fileName? path).bind fun name => (splitAtPoint name).2.map String.ofList

/-- The stem that names a component, or the whole path when there is none. -/
def stem (path : String) : String := (stem? path).getD path

/-- A path below a directory; an absolute path stays as it is. -/
def join (directory path : String) : String :=
  if isAbsolute path || directory.isEmpty then path
  else if directory.toList.getLast? == some '/' then directory ++ path
  else directory ++ "/" ++ path

/-- The path of what lies below a directory under the given names. -/
def below (root : String) (names : List String) : String := names.foldl join root

/-- The path with another extension in place of the one it has; a path without a file name stays as it is. -/
def withExtension (path extension : String) : String :=
  match fileName? path with
  | none => path
  | some name =>
    let (stem, old) := splitAtPoint name
    match Text.afterLast? name path.toList with
    | none => path
    | some after =>
      let front := path.toList.take (path.length - after.length - name.length)
      let stem := if old.isSome then stem else name
      String.ofList (front ++ stem ++ '.' :: extension.toList)

/-- The text of a part. -/
def Part.text : Part → List Char
  | .root => []
  | .here => ['.']
  | .up => ['.', '.']
  | .name s => s

/-- The shortest path with the given parts. -/
def ofParts : List Part → String
  | [.root] => "/"
  | ps => String.ofList (Text.joinWith ['/'] (ps.map Part.text))

/-- The path of the directory that a path lies in; the root and the empty path lie in none. -/
def parent? (path : String) : Option String :=
  match parts path with
  | [] => none
  | [.root] => none
  | ps => some (ofParts ps.dropLast)

/-- The place of a part among parts of other kinds. -/
def Part.rank : Part → Nat
  | .root => 0
  | .here => 1
  | .up => 2
  | .name _ => 3

/-- The order of two parts: the root, then `.`, then `..`, then names by their characters. -/
def Part.less : Part → Part → Bool
  | .name a, .name b => a < b
  | a, b => a.rank < b.rank

/-- One list of parts stands before another: at the first difference, or by being shorter. -/
def partsLess : List Part → List Part → Bool
  | [], [] => false
  | [], _ :: _ => true
  | _ :: _, [] => false
  | a :: as, b :: bs => if a.less b then true else if b.less a then false else partsLess as bs

/-- The order of paths, part by part. -/
def less (a b : String) : Bool := partsLess (parts a) (parts b)

end RenderCatalog.Path

import RenderCatalog.Error
import RenderCatalog.Path

/-!
# Disks

A disk is a finite map from places, lists of names from the root down, to what is there: a directory, a file with its
bytes, a symbolic link or a device. A file may have several names (hard links): the places of one file carry one number, and
what is written under one of them is read under all (`write`). A path is resolved by walking its names, symbolic links followed
within a budget; what a last link or a slash at the end means depends on what the path is for. Every operation resolves its path
first and then changes at most the place that it found and the other names of the file there.
-/

namespace RenderCatalog

/-- A place on a disk: the names from the root down. -/
abbrev Place : Type := List String

/-- What is at a place. The names of one file carry one number; a file with one name needs none. -/
inductive Node where
  | directory
  | file (content : ByteArray) (number? : Option Nat := none)
  | link (target : String)
  | device

/-- What kind of thing is at a place. -/
inductive NodeKind where
  | directory
  | file
  | link
  | other
  deriving Repr, DecidableEq

/-- The kind of a node. -/
def Node.kind : Node → NodeKind
  | .directory => .directory
  | .file _ _ => .file
  | .link _ => .link
  | .device => .other

/-- The number that the names of a file carry. -/
def Node.number? : Node → Option Nat
  | .file _ number? => number?
  | _ => none

/-- A node under one name. -/
def Node.single : Node → Node
  | .file content _ => .file content
  | n => n

/-- A disk: what is at which place. The root is always a directory. -/
structure Disk where
  nodes : List (Place × Node) := []

namespace Disk

/-- What is at a place. -/
def node? (d : Disk) (p : Place) : Option Node := if p.isEmpty then some .directory else d.nodes.lookup p

/-- The disk without what is at a place. -/
def erase (d : Disk) (p : Place) : Disk := ⟨d.nodes.filter (·.1 != p)⟩

/-- The disk with a node at a place, in place of what was there. -/
def put (d : Disk) (p : Place) (n : Node) : Disk := ⟨(p, n) :: (d.erase p).nodes⟩

/-- The number of the file at a place. -/
def number? (d : Disk) (p : Place) : Option Nat := (d.node? p).bind Node.number?

/-- The other names of the file at a place. -/
def twins (d : Disk) (p : Place) : List Place :=
  match d.number? p with
  | none => []
  | some i => (d.nodes.map (·.1)).filter fun q => q != p && d.number? q == some i

/-- A node of a place as it is put down: a file keeps its number as long as it has other names. -/
def settled (d : Disk) (p : Place) (n : Node) : Node := if (d.twins p).isEmpty then n.single else n

/-- The disk with the content of a file at a place, under all names that the file there has. -/
def write (d : Disk) (p : Place) (content : ByteArray) : Disk :=
  (p :: d.twins p).foldl (fun d' q => d'.put q (d.settled p (.file content (d.number? p)))) d

/-- The names of a path. An empty name at the end stands for a slash there. -/
def names (path : String) : List (List Char) :=
  let all := Path.pieces path.toList
  if path.toList.getLast? == some '/' then all ++ [[]] else all

/-- How many links one walk may follow. -/
def linkBudget : Nat := 40

/-- The longest name, in bytes. -/
def longestName : Nat := 255

/-- The longest path, in bytes. -/
def longestPath : Nat := 4095

/-- The path is longer than any operation takes. -/
def isTooLong (path : String) : Bool := longestPath < path.utf8ByteSize

/-- What a walk is for: the thing at a path, which may be a link, what the path leads to, or the place of a file or a
directory that is about to be made. -/
inductive Aim where
  | entry
  | target
  | newFile
  | newDirectory
  deriving Repr, DecidableEq

/-- No name is left, only a slash at the end. -/
def isSlashOnly (rest : List (List Char)) : Bool := rest == [[]]

/-- Walks down names from a directory. A link is handed to `follow` with the names that are left; one at the very end is a
place of its own where the aim is an entry or a new directory. Only the last name may lead nowhere. A slash after it asks
for a directory: a new directory may have it, a new file may not, and that is refused before the name is looked at. -/
def walk (d : Disk) (aim : Aim) (follow : Place → String → List (List Char) → Except OsError Place) :
    Place → List (List Char) → Except OsError Place
  | here, [] => .ok here
  | here, name :: rest =>
    if name = [] ∨ name = ['.'] then walk d aim follow here rest
    else if name = ['.', '.'] then walk d aim follow here.dropLast rest
    else if aim = .newFile && isSlashOnly rest then .error .isDirectory
    else if longestName < (String.ofList name).utf8ByteSize then .error .nameTooLong
    else
      let next := here ++ [String.ofList name]
      let isLast := rest.isEmpty || (aim = .newDirectory && isSlashOnly rest)
      match d.node? next with
      | some .directory => walk d aim follow next rest
      | some (.link target) => if isLast && (aim = .entry || aim = .newDirectory) then .ok next else follow here target rest
      | some _ => if isLast then .ok next else .error .notDirectory
      | none => if isLast then .ok next else .error .notFound

/-- The place that names lead to from a directory, where `budget` more links may be followed. -/
def resolveFrom (d : Disk) (aim : Aim) : Nat → Place → List (List Char) → Except OsError Place
  | 0, here, all => d.walk aim (fun _ _ _ => .error .tooManyLinks) here all
  | budget + 1, here, all =>
    d.walk aim (fun here target rest =>
      d.resolveFrom aim budget (if Path.isAbsolute target then [] else here) (names target ++ rest)) here all

/-- The place that a path leads to from a working directory. Nothing has to be there, but the directory has to. -/
def resolve (d : Disk) (aim : Aim) (workDir : Place) (path : String) : Except OsError Place :=
  if path.toList.contains '\x00' then .error .nulInPath
  else if isTooLong path then .error .nameTooLong
  else if path.isEmpty then .error .notFound
  else
    let start := if Path.isAbsolute path then [] else workDir
    match d.node? start with
    | some .directory => d.resolveFrom aim linkBudget start (names path)
    | _ => .error .notFound

variable (d : Disk) (workDir : Place)

/-- What is at a path, links followed. -/
def look? (path : String) : Option Node := (d.resolve .target workDir path).toOption.bind d.node?

/-- The bytes of a file. -/
def read (path : String) : Except OsError ByteArray := do
  match d.node? (← d.resolve .target workDir path) with
  | some (.file content _) => .ok content
  | some .directory => .error .isDirectory
  | some .device => .ok ByteArray.empty
  | _ => .error .notFound

/-- A new directory. -/
def makeDir (path : String) : Except OsError Disk := do
  let p ← d.resolve .newDirectory workDir path
  match d.node? p with
  | some _ => .error .alreadyExists
  | none => .ok (d.put p .directory)

/-- A file without content: a new one, or one that was there and is cut. -/
def create (path : String) : Except OsError Disk := do
  let p ← d.resolve .newFile workDir path
  match d.node? p with
  | some .directory => .error .isDirectory
  | some .device => .ok d
  | _ => .ok (d.write p ByteArray.empty)

/-- A file with more bytes at its end. -/
def append (path : String) (bytes : ByteArray) : Except OsError Disk := do
  let p ← d.resolve .target workDir path
  match d.node? p with
  | some (.file content _) => .ok (d.write p (content ++ bytes))
  | some .directory => .error .isDirectory
  | some .device => .ok d
  | _ => .error .notFound

/-- A file under another path; what was there before is replaced, unless it is a directory. Where the other path is one more name
of the same file, nothing is done. -/
def rename (source target : String) : Except OsError Disk := do
  let p ← d.resolve .entry workDir source
  let q ← d.resolve .entry workDir target
  match d.node? p, d.node? q with
  | none, _ => .error .notFound
  | some _, some .directory => .error .isDirectory
  | some n, _ => if q ∈ d.twins p then .ok d else .ok ((d.erase p).put q (d.settled p n))

/-- The disk without a file. -/
def remove (path : String) : Except OsError Disk := do
  let p ← d.resolve .entry workDir path
  match d.node? p with
  | none => .error .notFound
  | some .directory => .error .isDirectory
  | some _ => .ok (d.erase p)

/-- A link at a path where nothing was. -/
def makeLink (target path : String) : Except OsError Disk := do
  let p ← d.resolve .entry workDir path
  match d.node? p with
  | some _ => .error .alreadyExists
  | none => .ok (d.put p (.link target))

/-- The disk without what is at a path and everything below it. -/
def removeAll (path : String) : Except OsError Disk := do
  let p ← d.resolve .entry workDir path
  match d.node? p with
  | none => .error .notFound
  | some _ => .ok ⟨d.nodes.filter fun (q, _) => !p.isPrefixOf q⟩

/-- Everything below a place, by its names from there on. -/
def below (p : Place) : List (List String × NodeKind) :=
  d.nodes.filterMap fun (q, n) =>
    if p.isPrefixOf q && p.length < q.length then some (q.drop p.length, n.kind) else none

end Disk

end RenderCatalog

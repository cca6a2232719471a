import RenderCatalog.Disk.Basic
import RenderCatalog.Log

/-!
# What a command needs of its host

Commands run on a host that keeps files, takes events for the log and holds what was typed in. They are written for any
monad with these operations, so the same command runs on a real machine and on a disk held in memory.
-/

namespace RenderCatalog

/-- The operations of a host. `below` lists everything below a directory without following links, only its own entries
when `deep` is not set; `now` counts milliseconds; `listen` says which of the events noted from then on the log takes. -/
class Host (m : Type → Type) where
  kind? : String → m (Option NodeKind)
  below : (root : String) → (deep : Bool) → m (Except (String × OsError) (List (List String × NodeKind)))
  read : String → m (Except OsError ByteArray)
  makeDir : String → m (Except OsError Unit)
  create : String → m (Except OsError Unit)
  append : String → ByteArray → m (Except OsError Unit)
  flush : String → m (Except OsError Unit)
  rename : (source target : String) → m (Except OsError Unit)
  remove : String → m (Except OsError Unit)
  input : m (Except OsError ByteArray)
  now : m Nat
  listen : LogFilter → m Unit
  note : Event → m Unit

namespace Host

variable {m : Type → Type} [Monad m] [Host m]

/-- There is a directory at a path. -/
def isDir (path : String) : m Bool := do return (← kind? path) == some .directory

/-- There is a file at a path. -/
def isFile (path : String) : m Bool := do return (← kind? path) == some .file

/-- The events of a step, in order. -/
def noteAll (events : List Event) : m Unit := events.forM note

/-- Bytes as text. -/
def decode (bytes : ByteArray) : Except OsError String :=
  match String.fromUTF8? bytes with
  | some s => .ok s
  | none => .error .notText

/-- Bytes are decoded to the text that they are the UTF-8 of. -/
theorem decode_eq_ok_iff {bytes : ByteArray} {text : String} : decode bytes = .ok text ↔ String.fromUTF8? bytes = some text := by
  rw [decode]
  cases String.fromUTF8? bytes <;> simp

/-- The text of a file. -/
def readText (path : String) : m (Except OsError String) := do
  return (← read path).bind decode

/-- A refusal to make a directory does not matter where there is one. -/
def orIsDir (path : String) (r : Except OsError Unit) : m (Except OsError Unit) := do
  match r with
  | .ok () => return .ok ()
  | .error e => return if ← isDir path then .ok () else .error e

/-- A directory with all directories on the way to it, which is given by its parts, the last one first. The way is only made
when there is none. The path itself is taken as it is spelled, so a last `.` asks for a directory that is there. -/
def makeDirsFrom : String → List Path.Part → m (Except OsError Unit)
  | path, [] => do orIsDir path (← makeDir path)
  | path, part :: up => do
    match ← makeDir path with
    | .error .notFound =>
      match ← makeDirsFrom (Path.ofParts (part :: up).reverse) up with
      | .ok () => orIsDir path (← makeDir path)
      | .error e => return .error e
    | r => orIsDir path r

/-- A directory with all directories on the way to it; an empty path asks for nothing. -/
def makeDirs (path : String) : m (Except OsError Unit) := do
  match (Path.parts path).reverse with
  | [] => return .ok ()
  | _ :: up => makeDirsFrom path up

/-- A file with the given text, in place of what it held. -/
def writeText (path text : String) : m (Except OsError Unit) := do
  match ← create path with
  | .error e => return .error e
  | .ok () => append path text.toUTF8

end Host

end RenderCatalog

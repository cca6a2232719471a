import RenderCatalog.Program.Run

/-!
# The program on a real machine

The outer layer: it gives commands the files of the machine, shows what they log and print, and ends with their code. It
decides nothing by itself.
-/

namespace RenderCatalog.Console

/-- What runs at a console: it keeps the filter of the log. -/
abbrev Session : Type → Type := StateT LogFilter IO

/-- The number of a refusal, when the machine gives one. -/
def numberOf? : IO.Error → Option (UInt32 × String)
  | .alreadyExists _ n text => some (n, text)
  | .otherError n text => some (n, text)
  | .resourceBusy n text => some (n, text)
  | .resourceVanished n text => some (n, text)
  | .unsupportedOperation n text => some (n, text)
  | .hardwareFault n text => some (n, text)
  | .unsatisfiedConstraints n text => some (n, text)
  | .illegalOperation n text => some (n, text)
  | .protocolError n text => some (n, text)
  | .timeExpired n text => some (n, text)
  | .interrupted _ n text => some (n, text)
  | .noFileOrDirectory _ n text => some (n, text)
  | .invalidArgument _ n text => some (n, text)
  | .permissionDenied _ n text => some (n, text)
  | .resourceExhausted _ n text => some (n, text)
  | .inappropriateType _ n text => some (n, text)
  | .noSuchThing _ n text => some (n, text)
  | .unexpectedEof => none
  | .userError _ => none

/-- A refusal of the machine. -/
def refusal (e : IO.Error) : OsError :=
  match numberOf? e with
  | some (2, _) => .notFound
  | some (17, _) => .alreadyExists
  | some (20, _) => .notDirectory
  | some (21, _) => .isDirectory
  | some (36, _) => .nameTooLong
  | some (39, _) => .directoryNotEmpty
  | some (40, _) => .tooManyLinks
  | some (n, text) => .other s!"{text} (os error {n})"
  | none => .other (toString e)

/-- What an action gives, or how the machine refused it. -/
def attempt {α : Type} (act : IO α) : IO (Except OsError α) := do
  try return .ok (← act)
  catch e => return .error (refusal e)

/-- The kind of what is there. -/
def kindOf (m : IO.FS.Metadata) : NodeKind :=
  match m.type with
  | .dir => .directory
  | .file => .file
  | .symlink => .link
  | .other => .other

/-- What is at a path, links followed. -/
def kindAt? (path : String) : IO (Option NodeKind) := do
  if path.isEmpty then return none
  match ← attempt (do ((← IO.currentDir) / path).metadata) with
  | .ok m => return some (kindOf m)
  | .error _ => return none

/-- What is below a directory, by its names from there on. -/
partial def listing (root : String) (deep : Bool) (names : List String) : IO (List (List String × NodeKind)) := do
  let directory := (← IO.currentDir) / names.foldl Path.join root
  let mut found := []
  for entry in ← directory.readDir do
    let inner := names ++ [entry.fileName]
    let kind := kindOf (← (directory / entry.fileName).symlinkMetadata)
    found := found ++ [(inner, kind)]
    if deep && kind == .directory then found := found ++ (← listing root deep inner)
  return found

/-- Makes a file empty. -/
def makeEmpty (path : String) : IO Unit := do
  let _ ← IO.FS.Handle.mk path .write

/-- Puts bytes at the end of a file. -/
def append (path : String) (bytes : ByteArray) : IO Unit := do
  let handle ← IO.FS.Handle.mk path .append
  handle.write bytes
  handle.flush

/-- All bytes of a stream. -/
partial def readAll (stream : IO.FS.Stream) (sofar : ByteArray) : IO ByteArray := do
  let bytes ← stream.read 65536
  if bytes.isEmpty then return sofar else readAll stream (sofar ++ bytes)

/-- Shows an event. -/
def display (e : Event) : IO Unit := do
  (← IO.getStderr).putStr s!"{e.level.label} {e.logText}\n"

end RenderCatalog.Console

open RenderCatalog RenderCatalog.Console in
/-- The machine that the program runs on. -/
instance : Host Console.Session where
  kind? path := kindAt? path
  below root deep := do return (← attempt (listing root deep [])).mapError fun e => (root, e)
  read path := attempt (IO.FS.readBinFile path)
  makeDir path := attempt (IO.FS.createDir path)
  create path := attempt (makeEmpty path)
  append path bytes := attempt (append path bytes)
  flush _ := return .ok ()
  rename source target := attempt (IO.FS.rename source target)
  remove path := attempt (IO.FS.removeFile path)
  input := do attempt (readAll (← IO.getStdin) ByteArray.empty)
  now := IO.monoMsNow
  listen filter := set filter
  note e := do if (← get).takes e then display e

namespace RenderCatalog.Console

/-- The causes below the outermost wording, one a line; several are counted. -/
def causeLines (causes : List String) : String :=
  if causes.isEmpty then ""
  else
    let lines := match causes with
      | [cause] => [s!"    {cause}"]
      | _ => causes.zipIdx.map fun (cause, i) => s!"    {i}: {cause}"
    "\n\nCaused by:\n" ++ "\n".intercalate lines

/-- A failure as it is shown. -/
def failureText (f : Failure) : String := s!"Error: {f.message}{causeLines f.causes}\n"

/-- The surroundings of this run. -/
def surroundings : IO Surroundings := do
  let values ← Surroundings.names.filterMapM fun name => do
    return (← IO.getEnv name).map (name, ·)
  return ⟨values, ← (← IO.getStdout).isTty⟩

/-- Runs the program with the arguments after its name and gives its exit code. -/
def run (arguments : List String) : IO UInt32 := do
  let session : Session (Except Failure Outcome) := Program.run (← surroundings) arguments
  let (result, _) ← StateT.run session .nothing
  match result with
  | .ok outcome =>
    (← IO.getStdout).putStr outcome.output
    (← IO.getStderr).putStr outcome.complaint
    return outcome.code.code.toNat.toUInt32
  | .error f =>
    (← IO.getStderr).putStr (failureText f)
    return 1

end RenderCatalog.Console

/-- The program. -/
def main (arguments : List String) : IO UInt32 := RenderCatalog.Console.run arguments

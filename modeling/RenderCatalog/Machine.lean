import RenderCatalog.Host

/-!
# A machine held in memory

A machine is a disk with a working directory, a log and what was typed in. Commands run on it as they do on a real one.
Its `trouble?` says which of its steps are struck, so that a statement about every machine is also a statement about every
way in which the file system can fail.
-/

namespace RenderCatalog

/-- What strikes a step of the file system: the refusal, and how many bytes had been taken by then. -/
structure Trouble where
  cause : OsError
  written : Nat := 0
  deriving Repr, DecidableEq

/-- A machine held in memory. -/
structure Machine where
  disk : Disk := {}
  workDir : Place := []
  input : ByteArray := ByteArray.empty
  time : Nat := 0
  filter : LogFilter := .everything
  events : List Event := []
  steps : Nat := 0
  trouble? : Nat → Option Trouble := fun _ => none

/-- What runs on a machine. -/
abbrev Session : Type → Type := StateM Machine

namespace Machine

/-- The machine after one more step. -/
def next (m : Machine) : Machine := { m with steps := m.steps + 1 }

/-- A step that reads: struck, or answered from the machine. -/
def look {ε α : Type} (struck : OsError → ε) (answer : Machine → Except ε α) : Session (Except ε α) := fun m =>
  match m.trouble? m.steps with
  | some t => (.error (struck t.cause), m.next)
  | none => (answer m, m.next)

/-- A step that changes the disk. One that is struck leaves behind what `broken` says, one that is refused leaves nothing. -/
def change (broken : Nat → Machine → Disk) (act : Machine → Except OsError Disk) : Session (Except OsError Unit) :=
  fun m =>
    match m.trouble? m.steps with
    | some t => (.error t.cause, { m.next with disk := broken t.written m })
    | none =>
      match act m with
      | .ok disk => (.ok (), { m.next with disk := disk })
      | .error e => (.error e, m.next)

/-- A struck step that leaves nothing behind. -/
def unbroken (_ : Nat) (m : Machine) : Disk := m.disk

/-- The first of the listed directories, in the order of a listing, whose path is too long to list it in turn. -/
def unlistable? (root : String) (listing : List (List String × NodeKind)) : Option String :=
  let directories := (listing.filter (·.2 == .directory)).map fun (names, _) => Path.below root names
  (directories.filter Disk.isTooLong).foldl
    (fun first? path => if first?.elim true (Path.less path) then some path else first?) none

/-- What is below a directory, with its names from there on. -/
def below (root : String) (deep : Bool) (m : Machine) : Except (String × OsError) (List (List String × NodeKind)) :=
  match m.disk.resolve .target m.workDir root with
  | .error e => .error (root, e)
  | .ok p =>
    match m.disk.node? p with
    | some .directory =>
      let listing := m.disk.below p
      if deep then
        match unlistable? root listing with
        | some path => .error (path, .nameTooLong)
        | none => .ok listing
      else .ok (listing.filter (·.1.length == 1))
    | _ => .error (root, .notDirectory)

/-- The disk after bytes have been put at the end of a file, as many as were taken. -/
def appendPart (path : String) (bytes : ByteArray) (taken : Nat) (m : Machine) : Disk :=
  (m.disk.append m.workDir path (bytes.extract 0 taken)).toOption.getD m.disk

/-- The machine with an event in its log, when the log takes it. -/
def note (e : Event) (m : Machine) : Machine :=
  if m.filter.takes e then { m with events := m.events ++ [e] } else m

end Machine

/-- A machine in memory as a host. -/
instance : Host Session where
  kind? path := fun m => ((m.disk.look? m.workDir path).map Node.kind, m)
  below root deep := Machine.look (fun e => (root, e)) (Machine.below root deep)
  read path := Machine.look id fun m => m.disk.read m.workDir path
  makeDir path := Machine.change Machine.unbroken fun m => m.disk.makeDir m.workDir path
  create path := Machine.change Machine.unbroken fun m => m.disk.create m.workDir path
  append path bytes := Machine.change (Machine.appendPart path bytes) fun m => m.disk.append m.workDir path bytes
  flush _ := Machine.change Machine.unbroken fun m => .ok m.disk
  rename source target := Machine.change Machine.unbroken fun m => m.disk.rename m.workDir source target
  remove path := Machine.change Machine.unbroken fun m => m.disk.remove m.workDir path
  input := Machine.look id fun m => .ok m.input
  now := fun m => (m.time, m)
  listen filter := fun m => ((), { m with filter := filter })
  note e := fun m => ((), m.note e)

end RenderCatalog

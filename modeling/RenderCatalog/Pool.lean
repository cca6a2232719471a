import RenderCatalog.Artifact
import RenderCatalog.Machine

/-!
# Workers on one disk

Artifacts may be written by a pool of workers. A task is a command cut into its steps, so that the steps of several commands can be
mixed. The workers of a pool share a disk and nothing else: for the rest each has a machine of its own, with its log and with the
troubles that strike its steps. A run is a list of moves, each of which says whose step comes next.
-/

namespace RenderCatalog

/-- What is left of a command: its result, or a step on a machine and what is left after it. -/
inductive Task (α : Type) where
  | done (a : α)
  | step (act : Machine → Machine) (next : Machine → Task α)

namespace Task

variable {α β : Type}

/-- A single step. -/
def ofSession (x : Session α) : Task α := .step (fun m => (x m).2) fun m => .done (x m).1

/-- One task after another. -/
def bind : Task α → (α → Task β) → Task β
  | .done a, f => f a
  | .step act next, f => .step act fun m => (next m).bind f

instance : Monad Task where
  pure := done
  bind := bind

/-- Every operation is one step. -/
instance : Host Task where
  kind? path := ofSession (Host.kind? path)
  below root deep := ofSession (Host.below root deep)
  read path := ofSession (Host.read path)
  makeDir path := ofSession (Host.makeDir path)
  create path := ofSession (Host.create path)
  append path bytes := ofSession (Host.append path bytes)
  flush path := ofSession (Host.flush path)
  rename source target := ofSession (Host.rename source target)
  remove path := ofSession (Host.remove path)
  input := ofSession Host.input
  now := ofSession Host.now
  listen filter := ofSession (Host.listen filter)
  note e := ofSession (Host.note e)

/-- All steps of a task in a row. -/
def run : Task α → Session α
  | .done a => pure a
  | .step act next => fun m => (next m).run (act m)

end Task

/-- The machine with another disk. -/
def Machine.withDisk (m : Machine) (d : Disk) : Machine := { m with disk := d }

/-- A worker: what it has still to do, and the machine on which it does it. -/
structure Worker (α : Type) where
  task : Task α
  machine : Machine

namespace Worker

variable {α : Type}

/-- The worker after its next step. One that is done stays as it is. -/
def move (w : Worker α) : Worker α :=
  match w.task with
  | .done _ => w
  | .step act next => ⟨next w.machine, act w.machine⟩

/-- The worker with a disk in its machine. -/
def on (w : Worker α) (d : Disk) : Worker α := { w with machine := w.machine.withDisk d }

end Worker

/-- Workers and the disk that they share. The machines of the workers have no disk. -/
structure Pool (ι α : Type) where
  disk : Disk
  workers : ι → Worker α

namespace Pool

variable {ι α : Type}

/-- Workers that are put on a disk. -/
def start (d : Disk) (workers : ι → Worker α) : Pool ι α := ⟨d, fun i => (workers i).on {}⟩

variable [DecidableEq ι]

/-- The pool after the next step of one worker. -/
def move (pool : Pool ι α) (i : ι) : Pool ι α :=
  let moved := ((pool.workers i).on pool.disk).move
  ⟨moved.machine.disk, fun j => if j = i then moved.on {} else pool.workers j⟩

/-- The pool after moves, each by the worker that is named. -/
def run (pool : Pool ι α) (moves : List ι) : Pool ι α := moves.foldl move pool

end Pool

namespace Artifact

/-- A worker that writes the artifact of one schema. -/
def worker (outputDir : String) (s : Schema) (m : Machine) : Worker (Except Error Unit) := ⟨writeSchemas true outputDir [s], m⟩

/-- A pool that writes the artifacts of schemas, each by a worker with a machine of its own. -/
def pool (outputDir : String) (schemas : List Schema) (d : Disk) (machines : Fin schemas.length → Machine) :
    Pool (Fin schemas.length) (Except Error Unit) :=
  .start d fun i => worker outputDir (schemas.get i) (machines i)

end Artifact

end RenderCatalog

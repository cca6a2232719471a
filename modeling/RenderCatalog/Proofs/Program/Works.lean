import RenderCatalog.Program.Run
import RenderCatalog.Proofs.Artifact.Works
import RenderCatalog.Proofs.Source.Listing
import RenderCatalog.Proofs.Sync.Run

/-!
# What a run does to the disk

Two commands change the disk, the one that syncs and the one that sets up settings; every other leaves it as it is
(`keeps_execute`). Whatever a run does to the disk it does by operations, one after the other (`works_run`), also when its steps
are struck. So what every operation preserves is preserved by every run: no run makes a link or a device (`exists_node?_of_run`),
the disk of a directory tree stays one (`isTree_run`), and the names of one file hold the same (`coherent_run`). A disk that comes of
the empty one by operations and by runs, in any order, is such a disk (`Reached.isTree`, `Reached.coherent`, `Reached.run`).
-/

namespace RenderCatalog

/-! ## Disks that are reached -/

namespace Disk

variable {d d' : Disk} {workDir : Place} {P : String → Prop}

/-- The disk of a directory tree is one that is named by the names that a path can have. -/
theorem isTree_iff_namedBy : d.IsTree ↔ d.NamedBy Path.IsName := by
  constructor
  · intro h
    refine ⟨h.nodup, fun e he name hname => ?_⟩
    obtain ⟨hempty, hslash⟩ := h.names e he name hname
    obtain ⟨hdot, hdots⟩ := h.proper e he name hname
    exact ⟨hempty, hslash, hdot, hdots⟩
  · intro h
    refine ⟨⟨h.nodup, fun e he name hname => ?_⟩, fun e he name hname => ?_⟩
    · exact ⟨(h.names e he name hname).nonempty, (h.names e he name hname).no_slash⟩
    · exact ⟨(h.names e he name hname).not_dot, (h.names e he name hname).not_dots⟩

/-- A disk that comes of the empty one by operations, each from some working directory. Links are made, files get further names, and
directories are taken away, by others than a host. -/
inductive Reached : Disk → Prop
  | empty : Reached {}
  | change {d d' : Disk} {workDir : Place} (hworkDir : ∀ name ∈ workDir, Path.IsName name) (hd : Reached d)
      (h : d.Changes workDir d') : Reached d'
  | makeLink {d d' : Disk} {workDir : Place} {target path : String} (hworkDir : ∀ name ∈ workDir, Path.IsName name)
      (hd : Reached d) (h : d.makeLink workDir target path = .ok d') : Reached d'
  | addName {d : Disk} {workDir p q : Place} {path : String} {content : ByteArray} {i : Nat}
      (hworkDir : ∀ name ∈ workDir, Path.IsName name) (hd : Reached d) (hq : d.resolve .entry workDir path = .ok q)
      (hname : d.CanName p q content i) : Reached (d.addName p q content i)
  | removeAll {d d' : Disk} {workDir : Place} {path : String} (hd : Reached d) (h : d.removeAll workDir path = .ok d') :
      Reached d'

/-- Every disk that is reached is the disk of a directory tree. -/
theorem Reached.isTree (h : d.Reached) : d.IsTree := by
  rw [isTree_iff_namedBy]
  induction h with
  | empty => exact namedBy_empty
  | change hworkDir _ h ih => exact ih.changes (fun _ => id) hworkDir h
  | makeLink hworkDir _ h ih => exact ih.makeLink (fun _ => id) hworkDir h
  | addName hworkDir _ hq hname ih => exact ih.addName hname (named_resolve (fun _ => id) hworkDir hq)
  | removeAll _ h ih => exact ih.removeAll h

/-- On every disk that is reached the names of one file hold the same. -/
theorem Reached.coherent (h : d.Reached) : d.Coherent := by
  induction h with
  | empty => exact coherent_empty
  | change _ _ h ih => exact ih.changes h
  | makeLink _ _ h ih => exact ih.makeLink h
  | addName _ _ _ hname ih => exact ih.addName hname
  | removeAll _ h ih => exact ih.removeAll h

/-- Operations on a disk that is reached lead to one that is reached. -/
theorem Reached.works (hd : d.Reached) (hworkDir : ∀ name ∈ workDir, Path.IsName name) (h : d.Works workDir d') : d'.Reached := by
  induction h with
  | refl => exact hd
  | tail _ hchange ih => exact .change hworkDir ih hchange

end Disk

/-! ## Sessions that change nothing -/

open Machine

/-- Asking for a file changes nothing. -/
theorem Machine.keeps_isFile (path : String) : Keeps (Host.isFile path : Session Bool) := fun _ => ⟨rfl, rfl⟩

/-- Loading an index reads one file. -/
theorem Artifact.keeps_loadIndex (path : String) : Keeps (loadIndex path : Session (Except Error Index)) := by
  refine ((keeps_isDir path).bind fun _ => keeps_pure _).bind fun path => ?_
  refine (keeps_readText path).bind fun r => ?_
  split
  · exact keeps_pure _
  · split
    · exact keeps_pure _
    · exact (keeps_note _).bind fun _ => keeps_pure _

theorem Index.keeps_load (path : String) : Keeps (Index.load path : Session (Except Failure Index)) :=
  (Artifact.keeps_loadIndex path).bind fun _ => keeps_pure _

/-- Listing tools changes nothing beyond the loading of their index. -/
theorem keeps_listTools (path : String) (category? : Option Category) :
    Keeps (listTools path category? : Session (Except Failure (List ToolSummary))) :=
  (Index.keeps_load path).bind fun _ => keeps_pure _

/-- Checking a payload changes nothing beyond the loading of its index. -/
theorem Payload.keeps_check (index key text : String) :
    Keeps (Payload.check index key text : Session (Except Failure Payload.Verdict)) := by
  refine (Index.keeps_load index).bind fun r => ?_
  split
  · exact keeps_pure _
  · split <;> exact keeps_pure _

/-! ## Syncing -/

namespace Sync

/-- A source is read and compiled without a change to the disk. -/
theorem keeps_processFile (patterns : List String) (path : String) : Keeps (processFile patterns path : Session Outcome) := by
  refine (keeps_readSource path).bind fun r => ?_
  split
  · exact (keeps_note _).bind fun _ => keeps_pure _
  · refine (keeps_noteAll _).bind fun _ => ?_
    split
    · exact (keeps_note _).bind fun _ => keeps_pure _
    · exact (keeps_noteAll _).bind fun _ => keeps_pure _

/-- A sync scans and compiles without a change, and then writes the artifacts. -/
theorem works_run (s : SyncSettings) : Works (run s : Session (Except Failure Report)) := by
  have hnow : Keeps (Host.now : Session Nat) := fun _ => ⟨rfl, rfl⟩
  refine hnow.works.bind fun start => ?_
  refine (Source.keeps_scan _).works.bind fun r => ?_
  split
  · exact (keeps_pure _).works
  · refine (keeps_note _).works.bind fun _ => ?_
    refine (keeps_mapM _ (keeps_processFile _)).works.bind fun outcomes => ?_
    refine (keeps_noteAll _).works.bind fun _ => ?_
    refine (Artifact.works_write true s.outputDir _).bind fun r => ?_
    split
    · exact (keeps_pure _).works
    · exact (hnow.bind fun _ => (keeps_note _).bind fun _ => keeps_pure _).works

end Sync

/-! ## Settings -/

namespace Settings

/-- A path is looked at, not followed up. -/
theorem keeps_ifFile (path? : Option String) : Keeps (ifFile path? : Session (Option String)) := by
  cases path? with
  | none => exact keeps_pure _
  | some path => exact (keeps_isFile path).bind fun _ => keeps_pure _

/-- The file of settings is found by looking at places for it. -/
theorem keeps_findFile (surroundings : Surroundings) (named? : Option String) :
    Keeps (findFile surroundings named? : Session (Option String)) := by
  cases named? with
  | some path => exact keeps_pure _
  | none =>
    refine (keeps_ifFile _).bind fun r => ?_
    split
    · exact keeps_pure _
    · exact keeps_ifFile _

/-- Settings are read without a change, whether or not they can be used. -/
theorem keeps_loadFile (path : String) : Keeps (loadFile path : Session (Except Failure Settings)) := by
  refine (keeps_readText path).bind fun r => ?_
  split
  · exact keeps_pure _
  · split
    · exact keeps_pure _
    · exact (keeps_note _).bind fun _ => keeps_pure _

theorem keeps_load (surroundings : Surroundings) (named? : Option String) :
    Keeps (load surroundings named? : Session (Except Failure Loaded)) := by
  refine (keeps_findFile surroundings named?).bind fun r => ?_
  split
  · exact (keeps_note _).bind fun _ => keeps_pure _
  · exact (keeps_loadFile _).bind fun _ => keeps_pure _

/-- Room for a file is made by making directories. -/
theorem works_makeRoom (path : String) : Works (makeRoom path : Session (Except Failure Unit)) := by
  rw [makeRoom]
  split
  · exact (keeps_pure _).works
  · exact (works_makeDirs _).bind fun _ => (keeps_pure _).works

/-- Settings are saved by making room for their file and writing it. -/
theorem works_save {Dir : Type} [DirectoryName Dir] (s : Settings Dir) (path : String) :
    Works (save s path : Session (Except Failure Unit)) := by
  rw [save]
  split
  · exact (keeps_pure _).works
  · refine (works_makeRoom path).bind fun r => ?_
    split
    · exact (keeps_pure _).works
    · split
      · exact (keeps_pure _).works
      · refine (works_writeText path _).bind fun r => ?_
        split
        · exact (keeps_pure _).works
        · exact ((keeps_note _).bind fun _ => keeps_pure _).works

/-- A file of settings is set up by saving the default settings. -/
theorem works_setUp (path : String) (force : Bool) : Works (setUp path force : Session (Except Failure (Option SetUp))) := by
  have hkind : Keeps (Host.kind? path : Session (Option NodeKind)) := fun _ => ⟨rfl, rfl⟩
  refine hkind.works.bind fun kind? => ?_
  dsimp only
  split
  · exact (keeps_pure _).works
  · refine (works_save ({} : Settings) path).bind fun r => ?_
    split
    · exact (keeps_pure _).works
    · exact ((keeps_note _).bind fun _ => keeps_pure _).works

end Settings

/-! ## Commands -/

/-- The command reads and reports, and changes nothing. -/
def Command.onlyReads : Command → Bool
  | .sync _ => false
  | .settings (.setUp _ _) => false
  | _ => true

namespace Program

variable {m : Machine} {surroundings : Surroundings} {arguments : List String}

/-- A refusal is noted in the log. -/
theorem keeps_refuse (command : EventSource) (code : ExitCode) (text : String) :
    Keeps (refuse command code text : Session Outcome) :=
  (keeps_note _).bind fun _ => keeps_pure _

/-- A component is planned and not made. -/
theorem keeps_add (view : View) (name category : String) : Keeps (add view name category : Session Outcome) := by
  rw [add]
  split
  · exact keeps_refuse _ _ _
  · exact (keeps_note _).bind fun _ => keeps_pure _

/-- Tools are listed without a change. -/
theorem keeps_tools (view : View) (index : String) (category? : Option String) :
    Keeps (tools view index category? : Session (Except Failure Outcome)) := by
  rw [tools]
  split
  · exact (keeps_refuse _ _ _).bind fun _ => keeps_pure _
  · refine (keeps_listTools index _).bind fun r => ?_
    split
    · exact keeps_pure _
    · exact (keeps_note _).bind fun _ => keeps_pure _

/-- A payload that is typed in is read from the input, not from the disk. -/
theorem keeps_payloadText (payload : String) : Keeps (payloadText payload : Session (Except Failure String)) := by
  rw [payloadText]
  split
  · exact (keeps_look _ _).bind fun _ => keeps_pure _
  · exact keeps_pure _

/-- A payload is checked without a change, whatever the verdict. -/
theorem keeps_validate (view : View) (index key payload : String) :
    Keeps (validate view index key payload : Session (Except Failure Outcome)) := by
  refine (keeps_payloadText payload).bind fun r => ?_
  split
  · exact keeps_pure _
  · refine (Payload.keeps_check index key _).bind fun r => ?_
    split
    · exact (keeps_refuse _ _ _).bind fun _ => keeps_pure _
    · exact (keeps_note _).bind fun _ => keeps_pure _
    · exact (keeps_noteAll _).bind fun _ => keeps_pure _

/-- What the command does to the disk, the sync does. -/
theorem works_sync (view : View) (s : SyncSettings) : Works (sync view s : Session (Except Failure Outcome)) := by
  refine (Sync.works_run s).bind fun r => ?_
  split
  · exact (keeps_pure _).works
  · refine (keeps_note _).works.bind fun _ => ?_
    split
    · exact ((keeps_note _).bind fun _ => keeps_pure _).works
    · exact (keeps_pure _).works

/-- A file of settings is set up by saving the default settings. -/
theorem works_setUp (view : View) (loaded : Settings.Loaded) (here force : Bool) :
    Works (settings surroundings view loaded (.setUp here force) : Session (Except Failure Outcome)) := by
  rw [settings]
  split
  · exact (keeps_pure _).works
  · refine (Settings.works_setUp _ force).bind fun r => ?_
    split
    · exact (keeps_pure _).works
    · exact (keeps_pure _).works
    · exact ((keeps_note _).bind fun _ => keeps_pure _).works

/-- A command that only reads leaves the disk and the working directory as they are. -/
theorem keeps_execute (loaded : Settings.Loaded) (view : View) {command : Command} (h : command.onlyReads = true) :
    Keeps (execute surroundings loaded view command : Session (Except Failure Outcome)) := by
  cases command with
  | sync overrides => cases h
  | add name category => exact (keeps_add view name category).bind fun _ => keeps_pure _
  | tools index? category? => exact keeps_tools view _ category?
  | validate index? key payload => exact keeps_validate view _ key payload
  | settings action =>
    cases action with
    | display => exact keeps_pure _
    | locate => exact keeps_pure _
    | setUp here force => cases h
  | completions shell => exact ((keeps_note _).bind fun _ => keeps_pure _).bind fun _ => keeps_pure _

/-- Whatever a command does to the disk, it does by operations from the working directory. -/
theorem works_execute (loaded : Settings.Loaded) (view : View) (command : Command) :
    Works (execute surroundings loaded view command : Session (Except Failure Outcome)) := by
  by_cases h : command.onlyReads = true
  · exact (keeps_execute loaded view h).works
  · cases command with
    | sync overrides => exact works_sync view _
    | settings action =>
      cases action with
      | setUp here force => exact works_setUp view loaded here force
      | display => exact absurd rfl h
      | locate => exact absurd rfl h
    | _ => exact absurd rfl h

/-- What is said of every command is said of the run: before its command a run leaves the disk as it is. -/
theorem does_run {R : Place → Disk → Disk → Prop} (hR : Ways R)
    (h : ∀ invocation, Invocation.parse surroundings arguments = .ok invocation → ∀ loaded view,
      Does R (execute surroundings loaded view invocation.command : Session (Except Failure Outcome))) :
    Does R (run surroundings arguments : Session (Except Failure Outcome)) := by
  have hlisten (filter : LogFilter) : Keeps (Host.listen filter : Session Unit) := fun _ => ⟨rfl, rfl⟩
  rw [run]
  split
  · exact (keeps_pure _).does hR
  · rename_i invocation hparse
    refine ((hlisten _).does hR).bind hR fun _ => ?_
    refine ((Settings.keeps_load _ _).does hR).bind hR fun r => ?_
    split
    · exact (keeps_pure _).does hR
    · refine ((hlisten _).does hR).bind hR fun _ => ?_
      split
      · exact (keeps_pure _).does hR
      · exact h invocation hparse _ _

/-- Whatever a run does to the disk, it does by operations from the working directory, which stays. -/
theorem works_run : Works (run surroundings arguments : Session (Except Failure Outcome)) :=
  does_run Disk.ways_works fun invocation _ loaded view => works_execute loaded view invocation.command

/-- A run whose command only reads, or whose arguments are refused, leaves the disk as it is. -/
theorem keeps_run
    (h : ∀ invocation, Invocation.parse surroundings arguments = .ok invocation → invocation.command.onlyReads = true) :
    Keeps (run surroundings arguments : Session (Except Failure Outcome)) := by
  have hways : Ways fun _ d d' => d' = d := ⟨fun _ _ => rfl, fun h h' => h'.trans h⟩
  exact does_run hways fun invocation hparse loaded view => keeps_execute loaded view (h invocation hparse)

/-- A run makes no link and no device: what is on the disk after it, other than a directory or a file, was on it before. -/
theorem exists_node?_of_run {p : Place} {n : Node}
    (hn : ((run surroundings arguments : Session (Except Failure Outcome)) m).2.disk.node? p = some n)
    (hdirectory : n.kind ≠ .directory) (hfile : n.kind ≠ .file) : ∃ q, m.disk.node? q = some n :=
  (works_run m).1.exists_node? hn hdirectory hfile

/-- A run leaves a sound disk sound. -/
theorem sound_run (h : m.disk.Sound) (hworkDir : Disk.IsPlace m.workDir) :
    ((run surroundings arguments : Session (Except Failure Outcome)) m).2.disk.Sound := by
  rw [Disk.sound_iff_namedBy] at h ⊢
  exact h.works (fun _ hname => ⟨hname.nonempty, hname.no_slash⟩) hworkDir (works_run m).1

/-- A run leaves the names of one file with the same content. -/
theorem coherent_run (h : m.disk.Coherent) :
    ((run surroundings arguments : Session (Except Failure Outcome)) m).2.disk.Coherent :=
  h.works (works_run m).1

/-- A run leaves a tree of proper names a tree of proper names. -/
theorem isTree_run (h : m.disk.IsTree) (hworkDir : ∀ name ∈ m.workDir, Path.IsName name) :
    ((run surroundings arguments : Session (Except Failure Outcome)) m).2.disk.IsTree := by
  rw [Disk.isTree_iff_namedBy] at h ⊢
  exact h.works (fun _ => id) hworkDir (works_run m).1

end Program

/-- A run on a disk that is reached leaves one that is reached. -/
theorem Disk.Reached.run {m : Machine} (h : m.disk.Reached) (hworkDir : ∀ name ∈ m.workDir, Path.IsName name)
    (surroundings : Surroundings) (arguments : List String) :
    ((Program.run surroundings arguments : Session (Except Failure Outcome)) m).2.disk.Reached :=
  h.works hworkDir (Program.works_run m).1

end RenderCatalog

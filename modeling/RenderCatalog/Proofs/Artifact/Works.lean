import RenderCatalog.Artifact
import RenderCatalog.Proofs.Disk.Sound
import RenderCatalog.Proofs.Machine

/-!
# Operations one after the other

Whatever the steps of a session do to the disk, also when they are struck, they do by operations, one after the other
(`Machine.Works`). So what every operation preserves is preserved by writing artifacts, wherever it stops (`Artifact.works_write`):
the disk is named as it was, the names of one file hold the same, and no link or device comes.
-/

namespace RenderCatalog

/-! ## Disks -/

namespace Disk

variable {d d' : Disk} {workDir : Place} {P : String → Prop}

/-- Operations from a working directory, one after the other, lead from a disk to another. -/
def Works (workDir : Place) (d d' : Disk) : Prop := Relation.ReflTransGen (Changes workDir) d d'

/-- Operations one after the other are a way to change a disk. -/
theorem ways_works : Machine.Ways Works := ⟨fun _ _ => .refl, Relation.ReflTransGen.trans⟩

/-- Operations leave a disk as it is named. -/
theorem NamedBy.works (hP : ∀ name, Path.IsName name → P name) (hd : d.NamedBy P) (hworkDir : ∀ name ∈ workDir, P name)
    (h : d.Works workDir d') : d'.NamedBy P := by
  induction h with
  | refl => exact hd
  | tail _ hchange ih => exact ih.changes hP hworkDir hchange

/-- Operations leave the names of one file with the same content. -/
theorem Coherent.works (hd : d.Coherent) (h : d.Works workDir d') : d'.Coherent := by
  induction h with
  | refl => exact hd
  | tail _ hchange ih => exact ih.changes hchange

/-- No link and no device comes of operations. -/
theorem Works.exists_node? (h : d.Works workDir d') {p : Place} {n : Node} (hn : d'.node? p = some n)
    (hdirectory : n.kind ≠ .directory) (hfile : n.kind ≠ .file) : ∃ q, d.node? q = some n := by
  induction h generalizing p with
  | refl => exact ⟨p, hn⟩
  | tail _ hchange ih =>
    obtain ⟨q, hq⟩ := hchange.exists_node? hn hdirectory hfile
    exact ih hq

end Disk

/-! ## The steps of a session -/

namespace Machine

variable {α β : Type}

/-- A session that changes the disk by operations from its working directory, and stays in that. -/
def Works (x : Session α) : Prop := Does Disk.Works x

/-- What keeps the disk needs no operation. -/
theorem Keeps.works {x : Session α} (h : Keeps x) : Works x := h.does Disk.ways_works

/-- Operations of a step and of what comes after it are operations of both. -/
theorem Works.bind {x : Session α} {f : α → Session β} (hx : Works x) (hf : ∀ a, Works (f a)) : Works (x >>= f) :=
  Does.bind Disk.ways_works hx hf

/-- A change that is made whole or not at all is one operation. -/
theorem works_change_unbroken {act : Machine → Except OsError Disk}
    (h : ∀ m disk, act m = .ok disk → m.disk.Changes m.workDir disk) : Works (change unbroken act) :=
  does_change_unbroken Disk.ways_works fun m disk hact => .single (h m disk hact)

/-- A directory is made by one operation. -/
theorem works_makeDir (path : String) : Works (Host.makeDir path : Session (Except OsError Unit)) :=
  works_change_unbroken fun _ _ => .makeDir path

/-- A file is created, or emptied, by one operation. -/
theorem works_create (path : String) : Works (Host.create path : Session (Except OsError Unit)) :=
  works_change_unbroken fun _ _ => .create path

/-- A file is renamed by one operation. -/
theorem works_rename (source target : String) : Works (Host.rename source target : Session (Except OsError Unit)) :=
  works_change_unbroken fun _ _ => .rename source target

/-- A file is removed by one operation. -/
theorem works_remove (path : String) : Works (Host.remove path : Session (Except OsError Unit)) :=
  works_change_unbroken fun _ _ => .remove path

/-- Bytes that are put at the end of a file in part are an operation too. -/
theorem works_append (path : String) (bytes : ByteArray) : Works (Host.append path bytes : Session (Except OsError Unit)) := by
  refine does_change Disk.ways_works (fun _ _ h => .single (.append path bytes h)) fun n m => ?_
  rw [appendPart]
  cases happend : m.disk.append m.workDir path (bytes.extract 0 n) with
  | error e => exact .refl
  | ok disk => exact .single (.append path _ happend)

/-- Bringing a file to the disk says nothing of what the disk holds. -/
theorem keeps_flush (path : String) : Keeps (Host.flush path : Session (Except OsError Unit)) := by
  intro m
  change (change unbroken (fun m => .ok m.disk) m).2.disk = m.disk ∧ (change unbroken (fun m => .ok m.disk) m).2.workDir = _
  rw [change]
  cases m.trouble? m.steps <;> exact ⟨rfl, rfl⟩

/-- Directories are made one by one. -/
theorem works_makeDirs (path : String) : Works (Host.makeDirs path : Session (Except OsError Unit)) :=
  does_makeDirs Disk.ways_works works_makeDir path

/-- A text is written by creating its file and appending to it. -/
theorem works_writeText (path text : String) : Works (Host.writeText path text : Session (Except OsError Unit)) := by
  refine (works_create path).bind fun r => ?_
  split
  · exact (keeps_pure _).works
  · exact works_append _ _

end Machine

open Machine

/-! ## Artifacts -/

namespace Artifact

/-- A text that is written beside its file takes the name of the file, or its own file is removed again. -/
theorem works_writeThenRename (temporary path content : String) :
    Works (writeThenRename temporary path content : Session (Except OsError Unit)) := by
  refine (works_create temporary).bind fun r => ?_
  split
  · exact (keeps_pure _).works
  · refine (works_append temporary _).bind fun r => ?_
    split
    · exact (keeps_pure _).works
    · refine (keeps_flush temporary).works.bind fun r => ?_
      split
      · exact (keeps_pure _).works
      · exact works_rename temporary path

/-- An artifact is written by operations from the working directory, in place or beside its file. -/
theorem works_writeFile (atomic : Bool) (path content : String) :
    Works (writeFile atomic path content : Session (Except Error Unit)) := by
  rw [writeFile]
  split
  · refine (works_writeThenRename _ path content).bind fun r => ?_
    split
    · exact (keeps_pure _).works
    · refine (works_remove _).bind fun r => ?_
      split
      · exact (keeps_pure _).works
      · exact ((keeps_note _).bind fun _ => keeps_pure _).works
  · exact (works_writeText path content).bind fun _ => (keeps_pure _).works

theorem works_writeSchemas (atomic : Bool) (outputDir : String) (schemas : List Schema) :
    Works (writeSchemas atomic outputDir schemas : Session (Except Error Unit)) := by
  induction schemas with
  | nil => exact (keeps_pure _).works
  | cons s rest ih =>
    refine (works_writeFile atomic _ _).bind fun r => ?_
    split
    · exact (keeps_pure _).works
    · exact (keeps_note _).works.bind fun _ => ih

/-- The artifacts are written by such operations too, with their directory and their index. -/
theorem works_write (atomic : Bool) (outputDir : String) (schemas : List Schema) :
    Works (write atomic outputDir schemas : Session (Except Error Summary)) := by
  rw [write]
  split
  · exact (keeps_pure _).works
  · refine (works_makeDirs outputDir).bind fun r => ?_
    split
    · exact (keeps_pure _).works
    · refine (works_writeSchemas atomic outputDir schemas).bind fun r => ?_
      split
      · exact (keeps_pure _).works
      · refine (works_writeFile atomic _ _).bind fun r => ?_
        split
        · exact (keeps_pure _).works
        · exact ((keeps_note _).bind fun _ => keeps_pure _).works

end Artifact

end RenderCatalog

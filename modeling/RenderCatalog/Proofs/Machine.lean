import RenderCatalog.Machine
import RenderCatalog.Proofs.Disk.Nodes

/-!
# What the steps of a session do to a machine

A step that only looks changes neither the disk nor the working directory, and does not see the log. A step that changes the
disk and succeeds has done what its operation does. What a session does to the disk in all is what its steps do, one after the
other (`Does`): so making directories adds directories, whatever comes of it.
-/

namespace RenderCatalog.Machine

variable {α β : Type} {m m' : Machine}

/-! ## Steps in a row -/

/-- Two steps in a row: the second goes on from the machine that the first leaves. -/
theorem bind_eq_iff {x : Session α} {f : α → Session β} {b : β} :
    (x >>= f) m = (b, m') ↔ ∃ a m₁, x m = (a, m₁) ∧ f a m₁ = (b, m') := by
  constructor
  · intro h
    exact ⟨(x m).1, (x m).2, rfl, h⟩
  · rintro ⟨a, m₁, hx, hf⟩
    change f (x m).1 (x m).2 = _
    rw [hx]
    exact hf

/-- A value by itself leaves the machine as it is. -/
theorem pure_eq_iff {a b : α} : (pure a : Session α) m = (b, m') ↔ a = b ∧ m = m' := by
  rw [← Prod.mk.injEq]
  rfl

/-- A step that looks and is answered has the answer of the machine. -/
theorem look_eq_ok {ε : Type} {struck : OsError → ε} {answer : Machine → Except ε α} {a : α}
    (h : look struck answer m = (.ok a, m')) : answer m = .ok a := by
  rw [look] at h
  split at h
  · cases h
  · exact (Prod.mk.inj h).1

/-- The bytes of a file, unless the step is struck. -/
def bytesAt (m : Machine) (path : String) : Except OsError ByteArray :=
  match m.trouble? m.steps with
  | some t => .error t.cause
  | none => m.disk.read m.workDir path

/-- The text of a file is what its bytes decode to, or why it cannot be read. -/
theorem readText_eq_bytesAt (m : Machine) (path : String) :
    (Host.readText path : Session (Except OsError String)) m = ((m.bytesAt path).bind Host.decode, m.next) := by
  have hread : (Host.read path : Session (Except OsError ByteArray)) m = (m.bytesAt path, m.next) := by
    change look id (fun m => m.disk.read m.workDir path) m = _
    rw [look, bytesAt]
    cases m.trouble? m.steps <;> rfl
  rw [Host.readText]
  exact bind_eq_iff.2 ⟨_, _, hread, rfl⟩

/-- A step that changes the disk and succeeds has done what it does. -/
theorem change_eq_ok {broken : Nat → Machine → Disk} {act : Machine → Except OsError Disk}
    (h : change broken act m = (.ok (), m')) : act m = .ok m'.disk ∧ m'.workDir = m.workDir := by
  rw [change] at h
  split at h
  · cases h
  · cases hact : act m with
    | ok disk =>
      rw [hact] at h
      cases h
      exact ⟨rfl, rfl⟩
    | error e =>
      rw [hact] at h
      cases h

/-- A step that changes the disk and fails has changed nothing, but for what it leaves behind when it is struck. -/
theorem change_eq_error {broken : Nat → Machine → Disk} {act : Machine → Except OsError Disk} {e : OsError}
    (h : change broken act m = (.error e, m')) : (m'.disk = m.disk ∨ ∃ n, m'.disk = broken n m) ∧ m'.workDir = m.workDir := by
  rw [change] at h
  split at h
  · obtain ⟨-, rfl⟩ := Prod.mk.inj h
    exact ⟨Or.inr ⟨_, rfl⟩, rfl⟩
  · split at h
    · cases h
    · obtain ⟨-, rfl⟩ := Prod.mk.inj h
      exact ⟨Or.inl rfl, rfl⟩

/-- A step that leaves nothing behind when it is struck has changed nothing when it fails. -/
theorem change_unbroken_eq_error {act : Machine → Except OsError Disk} {e : OsError}
    (h : change unbroken act m = (.error e, m')) : m'.disk = m.disk ∧ m'.workDir = m.workDir := by
  obtain ⟨hdisk, hworkDir⟩ := change_eq_error h
  exact ⟨hdisk.elim id fun ⟨_, hbroken⟩ => hbroken, hworkDir⟩

/-- Bytes that were not put at the end of a file were put there in part, or not at all. -/
theorem append_eq_error {path : String} {bytes : ByteArray} {e : OsError}
    (h : (Host.append path bytes : Session (Except OsError Unit)) m = (.error e, m')) :
    (m'.disk = m.disk ∨ ∃ part, m.disk.append m.workDir path part = .ok m'.disk) ∧ m'.workDir = m.workDir := by
  obtain ⟨hdisk, hworkDir⟩ := change_eq_error h
  refine ⟨?_, hworkDir⟩
  rcases hdisk with hdisk | ⟨taken, hdisk⟩
  · exact Or.inl hdisk
  · rw [appendPart] at hdisk
    cases happend : m.disk.append m.workDir path (bytes.extract 0 taken) with
    | error e' =>
      rw [happend] at hdisk
      exact Or.inl hdisk
    | ok disk =>
      rw [happend] at hdisk
      obtain rfl : m'.disk = disk := hdisk
      exact Or.inr ⟨_, happend⟩

/-! ## Steps that keep the disk -/

/-- A session that leaves the disk and the working directory as they are. -/
def Keeps (x : Session α) : Prop := ∀ m, (x m).2.disk = m.disk ∧ (x m).2.workDir = m.workDir

/-- A value by itself changes nothing. -/
theorem keeps_pure (a : α) : Keeps (pure a : Session α) := fun _ => ⟨rfl, rfl⟩

/-- Steps that change nothing one by one change nothing together. -/
theorem Keeps.bind {x : Session α} {f : α → Session β} (hx : Keeps x) (hf : ∀ a, Keeps (f a)) : Keeps (x >>= f) := by
  intro m
  obtain ⟨hdisk, hworkDir⟩ := hx m
  obtain ⟨hdisk', hworkDir'⟩ := hf (x m).1 (x m).2
  exact ⟨hdisk'.trans hdisk, hworkDir'.trans hworkDir⟩

/-- A look at the machine changes nothing, whether it is struck or not. -/
theorem keeps_look {ε : Type} (struck : OsError → ε) (answer : Machine → Except ε α) : Keeps (look struck answer) := by
  intro m
  rw [look]
  split <;> exact ⟨rfl, rfl⟩

/-- An event is put into the log and changes nothing else. -/
theorem note_eq (e : Event) (m : Machine) : ∃ events, (Host.note e : Session Unit) m = ((), { m with events := events }) := by
  change ∃ events, ((), m.note e) = ((), { m with events := events })
  rw [Machine.note]
  split
  · exact ⟨_, rfl⟩
  · exact ⟨m.events, rfl⟩

/-- Events are added to the log and nothing else is touched. -/
theorem noteAll_eq (noted : List Event) (m : Machine) :
    ∃ events, (Host.noteAll noted : Session Unit) m = ((), { m with events := events }) := by
  rw [Host.noteAll]
  induction noted generalizing m with
  | nil => exact ⟨m.events, rfl⟩
  | cons e rest ih =>
    obtain ⟨events₁, h₁⟩ := note_eq e m
    obtain ⟨events₂, h₂⟩ := ih { m with events := events₁ }
    exact ⟨events₂, bind_eq_iff.2 ⟨_, _, h₁, h₂⟩⟩

/-- The log is not on the disk. -/
theorem keeps_note (e : Event) : Keeps (Host.note e : Session Unit) := by
  intro m
  obtain ⟨events, h⟩ := note_eq e m
  rw [h]
  exact ⟨rfl, rfl⟩

/-- A loop of steps that change nothing changes nothing. -/
theorem keeps_mapM (as : List α) {f : α → Session β} (hf : ∀ a, Keeps (f a)) : Keeps (as.mapM f) := by
  induction as with
  | nil => exact keeps_pure []
  | cons a rest ih =>
    rw [List.mapM_cons]
    exact (hf a).bind fun b => ih.bind fun bs => keeps_pure (b :: bs)

theorem keeps_noteAll (events : List Event) : Keeps (Host.noteAll events : Session Unit) := by
  intro m
  obtain ⟨events', h⟩ := noteAll_eq events m
  rw [h]
  exact ⟨rfl, rfl⟩

/-- Asking for a directory changes nothing. -/
theorem keeps_isDir (path : String) : Keeps (Host.isDir path : Session Bool) := fun _ => ⟨rfl, rfl⟩

/-- Looking whether a refusal matters changes nothing. -/
theorem keeps_orIsDir (path : String) (r : Except OsError Unit) :
    Keeps (Host.orIsDir path r : Session (Except OsError Unit)) := by
  cases r with
  | ok _ => exact keeps_pure _
  | error e => exact (keeps_isDir path).bind fun _ => keeps_pure _

/-- Reading a text changes nothing. -/
theorem keeps_readText (path : String) : Keeps (Host.readText path : Session (Except OsError String)) :=
  (keeps_look _ _).bind fun _ => keeps_pure _

/-! ## Steps that do not see the log -/

/-- A session that does the same on machines that differ in their logs. -/
def IgnoresLog (x : Session α) : Prop :=
  ∀ m events, ∃ events', x { m with events := events } = ((x m).1, { (x m).2 with events := events' })

theorem ignoresLog_pure (a : α) : IgnoresLog (pure a : Session α) := fun _ events => ⟨events, rfl⟩

/-- Steps that do not depend on the log one by one do not depend on it together. -/
theorem IgnoresLog.bind {x : Session α} {f : α → Session β} (hx : IgnoresLog x) (hf : ∀ a, IgnoresLog (f a)) :
    IgnoresLog (x >>= f) := by
  intro m events
  obtain ⟨events₁, h₁⟩ := hx m events
  obtain ⟨events₂, h₂⟩ := hf (x m).1 (x m).2 events₁
  exact ⟨events₂, bind_eq_iff.2 ⟨_, _, h₁, h₂⟩⟩

/-- A look does not depend on the log when its answer does not. -/
theorem ignoresLog_look {ε : Type} (struck : OsError → ε) {answer : Machine → Except ε α}
    (h : ∀ m events, answer { m with events := events } = answer m) : IgnoresLog (look struck answer) := by
  intro m events
  refine ⟨events, ?_⟩
  simp only [look, h]
  cases m.trouble? m.steps <;> rfl

/-- What is read from a file does not depend on the log. -/
theorem ignoresLog_readText (path : String) : IgnoresLog (Host.readText path : Session (Except OsError String)) :=
  (ignoresLog_look _ fun _ _ => rfl).bind fun _ => ignoresLog_pure _

/-! ## Steps that change the disk in certain ways -/

/-- A session that changes the disk in a way that is allowed from the working directory, and leaves the working directory as it
is. -/
def Does (R : Place → Disk → Disk → Prop) (x : Session α) : Prop :=
  ∀ m, R m.workDir m.disk (x m).2.disk ∧ (x m).2.workDir = m.workDir

/-- A session that adds at most directories to the disk, and leaves the working directory as it is. -/
def MakesDirectories (x : Session α) : Prop := ∀ m, m.disk.AddsDirectories (x m).2.disk ∧ (x m).2.workDir = m.workDir

/-- Ways to change a disk that allow no change, and two changes in a row. -/
structure Ways (R : Place → Disk → Disk → Prop) : Prop where
  refl : ∀ workDir d, R workDir d d
  trans : ∀ {workDir d d' d''}, R workDir d d' → R workDir d' d'' → R workDir d d''

section Ways

variable {R : Place → Disk → Disk → Prop} (hR : Ways R)

include hR

/-- What changes nothing stands in every way of changing, since each has a way that does nothing. -/
theorem Keeps.does {x : Session α} (h : Keeps x) : Does R x := by
  intro m
  rw [(h m).1]
  exact ⟨hR.refl _ _, (h m).2⟩

/-- Ways of changing may be put one after the other. -/
theorem Does.bind {x : Session α} {f : α → Session β} (hx : Does R x) (hf : ∀ a, Does R (f a)) : Does R (x >>= f) := by
  intro m
  obtain ⟨hdisk, hworkDir⟩ := hx m
  obtain ⟨hdisk', hworkDir'⟩ := hf (x m).1 (x m).2
  rw [hworkDir] at hdisk'
  exact ⟨hR.trans hdisk hdisk', hworkDir'.trans hworkDir⟩

/-- A step does what its operation does, or what it leaves behind when it is struck. -/
theorem does_change {broken : Nat → Machine → Disk} {act : Machine → Except OsError Disk}
    (hact : ∀ m disk, act m = .ok disk → R m.workDir m.disk disk) (hbroken : ∀ n m, R m.workDir m.disk (broken n m)) :
    Does R (change broken act) := by
  intro m
  rw [change]
  split
  · exact ⟨hbroken _ _, rfl⟩
  · split
    · exact ⟨hact m _ ‹_›, rfl⟩
    · exact ⟨hR.refl _ _, rfl⟩

/-- A change that is made whole or not at all changes the disk as it does on a machine that is not struck. -/
theorem does_change_unbroken {act : Machine → Except OsError Disk} (hact : ∀ m disk, act m = .ok disk → R m.workDir m.disk disk) :
    Does R (change unbroken act) :=
  does_change hR hact fun _ _ => hR.refl _ _

/-- Directories are made in whatever way one directory is. -/
theorem does_makeDirsFrom (hmake : ∀ path, Does R (Host.makeDir path : Session (Except OsError Unit))) (path : String)
    (up : List Path.Part) : Does R (Host.makeDirsFrom path up : Session (Except OsError Unit)) := by
  have horIsDir (path : String) (r : Except OsError Unit) : Does R (Host.orIsDir path r : Session (Except OsError Unit)) :=
    (keeps_orIsDir path r).does hR
  induction up generalizing path with
  | nil => exact (hmake path).bind hR (horIsDir path)
  | cons part up ih =>
    refine (hmake path).bind hR fun r => ?_
    split
    · refine (ih _).bind hR fun r => ?_
      split
      · exact (hmake path).bind hR (horIsDir path)
      · exact (keeps_pure _).does hR
    · exact horIsDir path _

/-- Making a directory with all directories on the way to it does what making directories does. -/
theorem does_makeDirs (hmake : ∀ path, Does R (Host.makeDir path : Session (Except OsError Unit))) (path : String) :
    Does R (Host.makeDirs path : Session (Except OsError Unit)) := by
  rw [Host.makeDirs]
  split
  · exact (keeps_pure _).does hR
  · exact does_makeDirsFrom hR hmake _ _

end Ways

/-- Making a directory with all directories on the way to it adds directories, and nothing else. -/
theorem makesDirectories_makeDirs (path : String) :
    MakesDirectories (Host.makeDirs path : Session (Except OsError Unit)) := by
  have hways : Ways fun _ => Disk.AddsDirectories := ⟨fun _ => Disk.AddsDirectories.refl, Disk.AddsDirectories.trans⟩
  have hmake (path : String) : Does (fun _ => Disk.AddsDirectories) (Host.makeDir path : Session (Except OsError Unit)) :=
    does_change_unbroken hways fun _ _ => Disk.addsDirectories_makeDir
  exact does_makeDirs hways hmake path

end RenderCatalog.Machine

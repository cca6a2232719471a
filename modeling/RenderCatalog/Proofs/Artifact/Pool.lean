import RenderCatalog.Proofs.Artifact.ReadBack
import RenderCatalog.Proofs.Pool

/-!
# Artifacts that are written at one time

The workers that write artifacts share a directory and no file in it, so their steps may come in any order (`run_pool_perm`). For
this no two of their paths may lead to one file: under a temporary name there may be no link, because creating a file follows it, and
no file that has other names, because it would be written under these too; and the way to the directory must not go through the name
of an artifact, because the artifact takes the place of what is there.
-/

namespace RenderCatalog

namespace Disk

variable {base : Disk} {workDir p t q : Place} {places : List Place} {out name : String}

/-- Where the paths of an artifact lead on a disk that is shared: the temporary one to a place where there is no link, and no file that
has another name, and its own to another place. -/
structure Staged (base : Disk) (places : List Place) (workDir : Place) (temporary path : String) (t q : Place) : Prop where
  create : LeadsTo base places .newFile workDir temporary t
  append : LeadsTo base places .target workDir temporary t
  entry : LeadsTo base places .entry workDir temporary t
  path : LeadsTo base places .entry workDir path q
  ne : q ≠ t
  no_link : t ∈ places → ∀ target, base.node? t ≠ some (.link target)
  sole : t ∈ places → base.IsSole t

/-- In a directory that is there, the two paths of an artifact lead to its two places. -/
theorem staged_join (hname : IsArtifactName name) (hp : (base.bare places).directory? workDir out = some p)
    (ht : p ++ [Artifact.temporaryPath name] ∈ places) (hq : p ++ [name] ∈ places)
    (hlink : ∀ target, base.node? (p ++ [Artifact.temporaryPath name]) ≠ some (.link target))
    (hsole : base.IsSole (p ++ [Artifact.temporaryPath name])) :
    Staged base places workDir (Path.join out (Artifact.temporaryPath name)) (Path.join out name)
      (p ++ [Artifact.temporaryPath name]) (p ++ [name]) := by
  have htemporary := Artifact.isName_temporaryPath hname.isName
  exact {
    create := leadsTo_join htemporary hp ht (Or.inr hlink)
    append := leadsTo_join htemporary hp ht (Or.inr hlink)
    entry := leadsTo_join htemporary hp ht (Or.inl rfl)
    path := leadsTo_join hname.isName hp hq (Or.inl rfl)
    ne := fun heq => hname.ne_temporaryPath hname.isName (by simpa using heq)
    no_link := fun _ => hlink
    sole := fun _ => hsole }

/-- Without a directory the paths of an artifact lead nowhere, and no place need be shared. -/
theorem staged_nowhere (hname : IsArtifactName name) (hnone : base.directory? workDir out = none) (p : Place) :
    Staged base [] workDir (Path.join out (Artifact.temporaryPath name)) (Path.join out name)
      (p ++ [Artifact.temporaryPath name]) (p ++ [name]) := by
  have htemporary := Artifact.isName_temporaryPath hname.isName
  exact {
    create := leadsTo_nowhere htemporary hnone _
    append := leadsTo_nowhere htemporary hnone _
    entry := leadsTo_nowhere htemporary hnone _
    path := leadsTo_nowhere hname.isName hnone _
    ne := fun heq => hname.ne_temporaryPath hname.isName (by simpa using heq)
    no_link := nofun
    sole := nofun }

end Disk

namespace Artifact

open Machine

variable {base : Disk} {workDir p t q : Place} {places S : List Place} {out temporary path content : String} {s s' : Schema}
  {schemas : List Schema}

/-! ## The steps of a task are those of a session -/

/-- The steps of a worker that writes a file, one after the other, are the write. -/
theorem run_writeThenRename (temporary path content : String) :
    (writeThenRename temporary path content : Task (Except OsError Unit)).run = writeThenRename temporary path content := by
  refine (Task.run_bind _ _).trans (bind_congr fun r => ?_)
  cases r with
  | error e => rfl
  | ok _ =>
    refine (Task.run_bind _ _).trans (bind_congr fun r => ?_)
    cases r with
    | error e => rfl
    | ok _ =>
      refine (Task.run_bind _ _).trans (bind_congr fun r => ?_)
      cases r <;> rfl

/-- The steps of a worker that writes an artifact, one after the other, are the write. -/
theorem run_writeFile (path content : String) :
    (writeFile true path content : Task (Except Error Unit)).run = writeFile true path content := by
  refine (Task.run_bind _ _).trans ?_
  rw [run_writeThenRename]
  refine bind_congr fun r => ?_
  cases r with
  | ok _ => rfl
  | error cause =>
    refine (Task.run_bind _ _).trans (bind_congr fun r => ?_)
    cases r <;> rfl

/-- Writing artifacts is the same in steps and as a session. -/
theorem run_writeSchemas (outputDir : String) (schemas : List Schema) :
    (writeSchemas true outputDir schemas : Task (Except Error Unit)).run = writeSchemas true outputDir schemas := by
  induction schemas with
  | nil => rfl
  | cons s rest ih =>
    refine (Task.run_bind _ _).trans ?_
    rw [run_writeFile]
    refine bind_congr fun r => ?_
    cases r with
    | error e => rfl
    | ok _ =>
      refine (Task.run_bind _ _).trans (bind_congr fun _ => ?_)
      exact ih

/-! ## A task that writes one artifact -/

section OneFile

variable (h : Disk.Staged base places workDir temporary path t q) (ht : t ∈ S) (hq : q ∈ S)

include h ht

/-- A file that was created has taken the place of no directory. -/
theorem keepsTo_create : (Host.create temporary : Task (Except OsError Unit)).KeepsTo workDir (Disk.RewritesAt places base) S
    fun r => r = .ok () → base.node? t ≠ some .directory := by
  refine Task.keepsTo_ofSession (keepsTo_change_unbroken (fun m hm => by rw [hm]) (Disk.keepsTo_create ht h.create h.sole)) ?_
  intro m hm hdone hdirectory
  obtain ⟨hcreate, -⟩ := change_eq_ok (Prod.ext hdone rfl)
  obtain ⟨r, hr, hresolve⟩ := h.create
  obtain ⟨t', ht', hnode⟩ := Disk.create_eq_ok hcreate
  rw [hm.workDir, hresolve _ hm.disk] at ht'
  obtain ⟨rfl, -⟩ := hr t' ht'
  rw [hm.disk.node?_directory_iff.2 hdirectory] at hnode
  rcases hnode with ⟨hdevice, -⟩ | ⟨hne, -⟩
  · cases hdevice
  · exact hne rfl

/-- Appending to the temporary file looks at its place only. -/
theorem keepsTo_append (bytes : ByteArray) : (Host.append temporary bytes : Task (Except OsError Unit)).KeepsTo workDir
    (Disk.RewritesAt places base) S fun _ => True := by
  have hpart : ∀ bytes, Disk.KeepsTo (Disk.RewritesAt places base) S fun d => d.append workDir temporary bytes :=
    Disk.keepsTo_append ht h.append h.sole
  refine Task.keepsTo_ofSession (keepsTo_change (fun n m hm => ?_) (fun m hm => by rw [hm])
    (fun n => (hpart (bytes.extract 0 n)).getD) (hpart bytes)) fun _ _ => trivial
  rw [appendPart, hm]

/-- Removing the temporary file looks at its place only. -/
theorem keepsTo_remove : (Host.remove temporary : Task (Except OsError Unit)).KeepsTo workDir (Disk.RewritesAt places base) S
    fun _ => True :=
  Task.keepsTo_ofSession (keepsTo_change_unbroken (fun m hm => by rw [hm]) (Disk.keepsTo_remove ht h.entry)) fun _ _ => trivial

include hq

/-- Giving the temporary file its name looks at the two places only. -/
theorem keepsTo_rename (hfree : base.node? t ≠ some .directory) :
    (Host.rename temporary path : Task (Except OsError Unit)).KeepsTo workDir (Disk.RewritesAt places base) S fun _ => True :=
  Task.keepsTo_ofSession (keepsTo_change_unbroken (fun m hm => by rw [hm])
    (Disk.keepsTo_rename ht hq h.ne h.entry h.path (fun _ => hfree) h.no_link h.sole)) fun _ _ => trivial

/-- Writing a file beside its place looks at the two places only. -/
theorem keepsTo_writeThenRename (content : String) :
    (writeThenRename temporary path content : Task (Except OsError Unit)).KeepsTo workDir (Disk.RewritesAt places base) S
      fun _ => True := by
  refine (keepsTo_create h ht).bind fun r hcreated => ?_
  cases r with
  | error e => trivial
  | ok _ =>
    refine (keepsTo_append h ht _).bind fun r _ => ?_
    cases r with
    | error e => trivial
    | ok _ =>
      have hflush : (Host.flush temporary : Task (Except OsError Unit)).KeepsTo workDir (Disk.RewritesAt places base) S fun _ => True :=
        Task.keepsTo_ofSession (keepsTo_change_unbroken (fun _ _ => rfl) (Disk.keepsTo_ok _ S)) fun _ _ => trivial
      refine hflush.bind fun r _ => ?_
      cases r with
      | error e => trivial
      | ok _ => exact keepsTo_rename h ht hq (hcreated rfl)

end OneFile

/-- An event of the log looks at no place. -/
theorem keepsTo_note (e : Event) (G : Disk → Prop) : (Host.note e : Task Unit).KeepsTo workDir G S fun _ => True :=
  Task.keepsTo_ofSession (Machine.keepsTo_note e) fun _ _ => trivial

/-- A worker that writes an artifact looks at its two places only, also when it fails and clears up. -/
theorem keepsTo_writeFile (h : Disk.Staged base places workDir (temporaryPath path) path t q) (ht : t ∈ S) (hq : q ∈ S) :
    (writeFile true path content : Task (Except Error Unit)).KeepsTo workDir (Disk.RewritesAt places base) S fun _ => True := by
  refine (keepsTo_writeThenRename h ht hq content).bind fun r _ => ?_
  cases r with
  | ok _ => trivial
  | error cause =>
    refine (keepsTo_remove h ht).bind fun r _ => ?_
    cases r with
    | ok _ => trivial
    | error e => exact (keepsTo_note _ _).bind fun _ _ => trivial

/-- The task that writes the artifact of one schema keeps to the two places that its paths lead to. -/
theorem keepsTo_writeSchemas
    (h : Disk.Staged base places workDir (temporaryPath (schemaPath out s)) (schemaPath out s) t q) (ht : t ∈ S) (hq : q ∈ S) :
    (writeSchemas true out [s] : Task (Except Error Unit)).KeepsTo workDir (Disk.RewritesAt places base) S fun _ => True := by
  refine (keepsTo_writeFile h ht hq).bind fun r _ => ?_
  cases r with
  | error e => trivial
  | ok _ => exact (keepsTo_note _ _).bind fun _ _ => trivial

/-! ## The pool -/

/-- The places in a directory that the artifact of a schema is written to. -/
def workPlaces (p : Place) (s : Schema) : List Place := [p ++ [s.fileName], p ++ [temporaryPath s.fileName]]

/-- Components with different names, and different temporary names, have no place in common. -/
theorem disjoint_workPlaces (hs : s.NamesFile) (hs' : s'.NamesFile) (hne : s.component ≠ s'.component)
    (hstem : temporaryStem s.component ≠ temporaryStem s'.component) : (workPlaces p s).Disjoint (workPlaces p s') := by
  have hartifact := isArtifactName_fileName hs.no_slash
  have hartifact' := isArtifactName_fileName hs'.no_slash
  have htemporary : temporaryPath s.fileName ≠ temporaryPath s'.fileName := by
    rw [temporaryPath_fileName hs.no_slash, temporaryPath_fileName hs'.no_slash]
    exact mt (String.append_left_inj _).1 hstem
  have hcancel : ∀ {a b : String}, p ++ [a] = p ++ [b] → a = b := fun hab => by simpa using hab
  intro r hr hr'
  rcases List.mem_pair.1 hr with rfl | rfl
  · rcases List.mem_pair.1 hr' with heq | heq
    · exact hne (Schema.fileName_inj.1 (hcancel heq))
    · exact hartifact.ne_temporaryPath hartifact'.isName (hcancel heq)
  · rcases List.mem_pair.1 hr' with heq | heq
    · exact hartifact'.ne_temporaryPath hartifact.isName (hcancel heq).symm
    · exact htemporary (hcancel heq)

/-- The paths of the artifacts of schemas lead straight into their directory: no link has a temporary name there, and no file has one
and other names as well, and the way to the directory goes through none of the places that are written to. -/
def IsDirect (d : Disk) (workDir : Place) (out : String) (schemas : List Schema) : Prop :=
  ∀ p, d.directory? workDir out = some p →
    (∀ s ∈ schemas, (∀ target, d.node? (p ++ [temporaryPath s.fileName]) ≠ some (.link target)) ∧
      d.IsSole (p ++ [temporaryPath s.fileName])) ∧
      (d.bare (schemas.flatMap (workPlaces p))).directory? workDir out = some p

section Workers

variable (hnames : ∀ s ∈ schemas, s.NamesFile) (hnodup : (schemas.map (·.component)).Nodup)
  (hapart : "" ∈ schemas.map (·.component) → ".json" ∉ schemas.map (·.component))

include hnames

/-- The workers keep to places, those of their artifacts in one directory. -/
theorem exists_keepsTo_worker (hdirect : IsDirect base workDir out schemas) :
    ∃ p places, ∀ s ∈ schemas, ∀ m : Machine, m.workDir = workDir →
      ((worker out s m).on base).KeepsTo workDir (Disk.RewritesAt places base) (workPlaces p s) fun _ => True := by
  have htemporary : ∀ s ∈ schemas, temporaryPath (schemaPath out s) = Path.join out (temporaryPath s.fileName) :=
    fun s hs => temporaryPath_join (hnames s hs).isName
  have hartifact : ∀ s ∈ schemas, Disk.IsArtifactName s.fileName := fun s hs => isArtifactName_fileName (hnames s hs).no_slash
  have hmem : ∀ p s, p ++ [temporaryPath s.fileName] ∈ workPlaces p s ∧ p ++ [s.fileName] ∈ workPlaces p s :=
    fun p s => ⟨List.mem_pair.2 (Or.inr rfl), List.mem_pair.2 (Or.inl rfl)⟩
  cases hp : base.directory? workDir out with
  | none =>
    refine ⟨[], [], fun s hs m hm => ⟨keepsTo_writeSchemas ?_ (hmem [] s).1 (hmem [] s).2, hm, Disk.RewritesAt.refl _ _⟩⟩
    rw [htemporary s hs]
    exact Disk.staged_nowhere (hartifact s hs) hp []
  | some p =>
    obtain ⟨htemporaries, hway⟩ := hdirect p hp
    refine ⟨p, schemas.flatMap (workPlaces p), fun s hs m hm =>
      ⟨keepsTo_writeSchemas ?_ (hmem p s).1 (hmem p s).2, hm, Disk.RewritesAt.refl _ _⟩⟩
    rw [htemporary s hs]
    exact Disk.staged_join (hartifact s hs) hway (List.mem_flatMap.2 ⟨s, hs, (hmem p s).1⟩)
      (List.mem_flatMap.2 ⟨s, hs, (hmem p s).2⟩) (htemporaries s hs).1 (htemporaries s hs).2

include hnodup hapart

/-- Different workers write to different places. -/
theorem disjoint_workPlaces_of_ne {i j : Fin schemas.length} (hij : i ≠ j) :
    (workPlaces p (schemas.get i)).Disjoint (workPlaces p (schemas.get j)) := by
  have hinj : Function.Injective ((·.component) ∘ schemas.get) := by
    rwa [← List.nodup_ofFn, ← List.map_ofFn, List.ofFn_get]
  have hmem : ∀ i, schemas.get i ∈ schemas := List.get_mem schemas
  have hne : (schemas.get i).component ≠ (schemas.get j).component := fun heq => hij (hinj heq)
  refine disjoint_workPlaces (hnames _ (hmem i)) (hnames _ (hmem j)) hne ?_
  exact mt (temporaryStem_injOn hapart (List.mem_map_of_mem (hmem i)) (List.mem_map_of_mem (hmem j))) hne

/-- A worker that has taken enough steps, whatever the others have done meanwhile, has the result of writing its artifact alone. -/
theorem exists_run_pool_done {d : Disk} {machines : Fin schemas.length → Machine} (hworkDir : ∀ i, (machines i).workDir = workDir)
    (hdirect : IsDirect d workDir out schemas) (i : Fin schemas.length) :
    ∃ n, ∀ moves : List (Fin schemas.length), n ≤ moves.count i →
      (((pool out schemas d machines).run moves).workers i).task =
        .done ((writeSchemas true out [schemas.get i] : Session (Except Error Unit)) ((machines i).withDisk d)).1 := by
  obtain ⟨p, places, hkeeps⟩ := exists_keepsTo_worker hnames hdirect
  rw [← run_writeSchemas]
  exact Pool.exists_run_done (S := fun i => workPlaces p (schemas.get i))
    (fun i j hij => disjoint_workPlaces_of_ne hnames hnodup hapart hij) (Disk.RewritesAt.refl places d)
    (fun i => hkeeps _ (List.get_mem schemas i) _ (hworkDir i)) i

end Workers

/-- The artifacts of components that are named for files can be written at one time: all their paths and temporary paths, and those
of the index, are paths of different files, and where these lead straight into the directory the workers that write them may take
their steps in any order: what each worker has done and what is on the disk is the same. A component without a name and one called
`.json` must not both be among them, because they have one temporary path. -/
theorem run_pool_perm (hnamed : ∀ s ∈ schemas, s.NamedForFile) (hnodup : (schemas.map (·.component)).Nodup)
    (hapart : "" ∈ schemas.map (·.component) → ".json" ∉ schemas.map (·.component)) (out : String) :
    ((paths out schemas ++ (paths out schemas).map temporaryPath).map Path.parts).Nodup ∧
      ∀ (d : Disk) (workDir : Place) (machines : Fin schemas.length → Machine), (∀ i, (machines i).workDir = workDir) →
        IsDirect d workDir out schemas → ∀ moves moves' : List (Fin schemas.length), moves.Perm moves' →
          ((pool out schemas d machines).run moves).workers = ((pool out schemas d machines).run moves').workers ∧
            ∀ q, ((pool out schemas d machines).run moves).disk.node? q = ((pool out schemas d machines).run moves').disk.node? q := by
  have hnames : ∀ s ∈ schemas, s.NamesFile := fun s hs => (hnamed s hs).namesFile
  have hindex : ∀ s ∈ schemas, s.component ≠ "index" := fun s hs => mt Schema.fileName_eq_index_iff.2 (hnames s hs).ne_index
  refine ⟨nodup_map_parts_paths (fun s hs => (hnames s hs).no_slash) hnodup hindex hapart, ?_⟩
  intro d workDir machines hworkDir hdirect moves moves' hperm
  obtain ⟨p, places, hkeeps⟩ := exists_keepsTo_worker hnames hdirect
  exact Pool.run_perm (S := fun i => workPlaces p (schemas.get i))
    (fun i j hij => disjoint_workPlaces_of_ne hnames hnodup hapart hij) (Disk.RewritesAt.refl places d)
    (fun i => hkeeps _ (List.get_mem schemas i) _ (hworkDir i)) hperm

/-- Moves of two workers by turns. -/
def byTurns : List (Fin 2) := [0, 1, 0, 1, 0, 1, 0, 1, 0, 1]

/-- All moves of one of two workers before those of the other. -/
def inRow (first second : Fin 2) : List (Fin 2) := List.replicate 5 first ++ List.replicate 5 second

/-- The schemas of a component without a name and of one called `Card`. -/
def namelessAndCard : List Schema := [bareSchema "", bareSchema "Card"]

/-- A disk with a link under the name of an artifact. -/
def replacedDisk : Disk := ⟨[(["out"], .directory), (["out", "Card.json"], .link "note")]⟩

/-- Two workers, one of whose artifacts takes the place of a link, leave the same disk by turns and one after the other. -/
theorem run_pool_replacedDisk :
    ((paths "out" namelessAndCard ++ (paths "out" namelessAndCard).map temporaryPath).map Path.parts).Nodup ∧
      ∀ q, ((pool "out" namelessAndCard replacedDisk fun _ => {}).run byTurns).disk.node? q =
        ((pool "out" namelessAndCard replacedDisk fun _ => {}).run (inRow 1 0)).disk.node? q := by
  have hnamed : ∀ s ∈ namelessAndCard, s.NamedForFile := by
    intro s hs
    rcases List.mem_pair.1 hs with rfl | rfl
    · exact ⟨"-.tsx", "-", by decide +kernel, by decide +kernel⟩
    · exact ⟨"card.tsx", "card", by decide +kernel, by decide +kernel⟩
  have hdirect : IsDirect replacedDisk [] "out" namelessAndCard := by
    intro p hp
    have hout : replacedDisk.directory? [] "out" = some ["out"] := by decide +kernel
    obtain rfl := Option.some.inj (hout.symm.trans hp)
    have hnone : ∀ s ∈ namelessAndCard, (replacedDisk.node? (["out"] ++ [temporaryPath s.fileName])).isNone := by decide +kernel
    refine ⟨fun s hs => ?_, by decide +kernel⟩
    have hclear := Disk.isClear_of_none (Option.isNone_iff_eq_none.1 (hnone s hs))
    exact ⟨hclear.ordinary.ne_link, hclear.sole⟩
  have hperm : byTurns.Perm (inRow 1 0) := by decide
  obtain ⟨hpaths, hrun⟩ := run_pool_perm hnamed (by decide +kernel) (by decide +kernel) "out"
  exact ⟨hpaths, (hrun replacedDisk [] (fun _ => {}) (fun _ => rfl) hdirect _ _ hperm).2⟩

/-- The schemas of components called `Card` and `Table`. -/
def cardAndTable : List Schema := [bareSchema "Card", bareSchema "Table"]

/-- A disk with a link from the temporary name of one artifact to another artifact. -/
def crossedDisk : Disk := ⟨[(["out"], .directory), (["out", "Card.json.tmp"], .link "Table.json")]⟩

/-- A disk with a link to its own directory under the name of an artifact. -/
def loopedDisk : Disk := ⟨[(["out"], .directory), (["out", "Card.json"], .link ".")]⟩

/-- A disk where one file has the temporary names of two artifacts. -/
def twinDisk : Disk :=
  ⟨[(["out"], .directory), (["out", "Card.json.tmp"], .file ByteArray.empty (some 0)),
    (["out", "Table.json.tmp"], .file ByteArray.empty (some 0))]⟩

/-- A component without a name and one called `.json` have one temporary path; and the order of steps matters where a file is created
behind a link, where an artifact takes the place of a link that the path of the directory goes through, and where one file has two
temporary names. -/
theorem run_pool_differs :
    ((bareSchema "").NamedForFile ∧ (bareSchema ".json").NamedForFile ∧ (bareSchema "").component ≠ (bareSchema ".json").component ∧
      temporaryPath (schemaPath "out" (bareSchema "")) = temporaryPath (schemaPath "out" (bareSchema ".json"))) ∧
    (∀ s ∈ cardAndTable, s.NamedForFile) ∧ (inRow 0 1).Perm (inRow 1 0) ∧
    ((pool "out" cardAndTable crossedDisk fun _ => {}).run (inRow 0 1)).disk.read [] "out/Table.json" ≠
      ((pool "out" cardAndTable crossedDisk fun _ => {}).run (inRow 1 0)).disk.read [] "out/Table.json" ∧
    ((pool "out/Card.json" cardAndTable loopedDisk fun _ => {}).run (inRow 0 1)).disk.node? ["out", "Table.json"] ≠
      ((pool "out/Card.json" cardAndTable loopedDisk fun _ => {}).run (inRow 1 0)).disk.node? ["out", "Table.json"] ∧
    ((pool "out" cardAndTable twinDisk fun _ => {}).run (inRow 0 1)).disk.read [] "out/Table.json" ≠
      ((pool "out" cardAndTable twinDisk fun _ => {}).run (inRow 1 0)).disk.read [] "out/Table.json" := by
  refine ⟨⟨?_, ?_, ?_, ?_⟩, fun s hs => ?_, by decide, fun h => ?_, fun h => ?_, fun h => ?_⟩
  · exact ⟨"-.tsx", "-", by decide +kernel, by decide +kernel⟩
  · exact ⟨".json.tsx", ".json", by decide +kernel, by decide +kernel⟩
  · decide +kernel
  · decide +kernel
  · rcases List.mem_pair.1 hs with rfl | rfl
    · exact ⟨"card.tsx", "card", by decide +kernel, by decide +kernel⟩
    · exact ⟨"table.tsx", "table", by decide +kernel, by decide +kernel⟩
  · exact absurd (congrArg (fun r => r.toOption.map ByteArray.size) h) (by decide +kernel)
  · exact absurd (congrArg Option.isSome h) (by decide +kernel)
  · exact absurd (congrArg (fun r => r.toOption.map ByteArray.size) h) (by decide +kernel)

end Artifact

end RenderCatalog

import RenderCatalog.Proofs.Artifact.Paths
import RenderCatalog.Proofs.Artifact.Works

/-!
# What was written is read back

A catalog that was written is read back as it was: the file of each schema as that schema, and the directory as the index of all
of them. Different components have different files, and none has that of the index unless it is called `index`.
-/

namespace RenderCatalog.Artifact

open Json (Value nestingLimit)
open Machine

variable {atomic : Bool} {m m' : Machine} {out path : String} {schemas : List Schema} {summary : Summary}

/-! ## Reading -/

/-- A schema is read from the file at a path. -/
def ReadsAs (m : Machine) (path : String) (s : Schema) : Prop :=
  ∃ text, (m.disk.read m.workDir path).bind Host.decode = .ok text ∧ Stored.read text = .ok s

/-- An index is loaded from a path, on every machine that has the disk and whose next step is not struck. -/
def LoadsAs (m : Machine) (path : String) (i : Index) : Prop :=
  ∀ m₁ : Machine, m₁.disk = m.disk → m₁.workDir = m.workDir → m₁.trouble? m₁.steps = none →
    ((loadIndex path : Session (Except Error Index)) m₁).1 = .ok i

/-- A schema is read from a file that holds its text. -/
theorem readsAs_of_read {s : Schema} (hordered : s.Ordered) (hdepth : s.toValue.depth ≤ nestingLimit)
    (h : m.disk.read m.workDir path = .ok (text s.toValue).toUTF8) : ReadsAs m path s := by
  have hread : Stored.read (text s.toValue) = .ok s := read_text Schema.faithful hordered hdepth
  refine ⟨text s.toValue, ?_, hread⟩
  simp only [h, Except.bind, decode_toUTF8]

/-- A machine that is not struck reads what its disk holds. -/
theorem readText_eq (htrouble : m.trouble? m.steps = none) :
    (Host.readText path : Session (Except OsError String)) m = ((m.disk.read m.workDir path).bind Host.decode, m.next) := by
  rw [readText_eq_bytesAt, bytesAt, htrouble]

/-- The index of a directory is loaded from its index file. -/
theorem loadsAs_of_read {i : Index} (hordered : i.Ordered) (hdepth : i.toValue.depth ≤ nestingLimit)
    (hdirectory : m.disk.look? m.workDir out = some .directory)
    (h : m.disk.read m.workDir (indexPath out) = .ok (text i.toValue).toUTF8) : LoadsAs m out i := by
  intro m₁ hdisk hworkDir htrouble
  have hdir : (Host.isDir out : Session Bool) m₁ = (true, m₁) := by
    rw [isDir_eq_iff, hdisk, hworkDir]
    exact ⟨⟨fun _ => hdirectory, fun _ => rfl⟩, rfl⟩
  have hpath : (do return if ← Host.isDir out then indexPath out else out : Session String) m₁ = (indexPath out, m₁) :=
    bind_eq_iff.2 ⟨_, _, hdir, rfl⟩
  have hread : (Host.readText (indexPath out) : Session (Except OsError String)) m₁ = (.ok (text i.toValue), m₁.next) := by
    simp only [readText_eq htrouble, hdisk, hworkDir, h, Except.bind, decode_toUTF8]
  have hindex : Index.ofText (text i.toValue) = .ok i := Index.ofText_eq_ok_iff.2 (read_text Index.faithful hordered hdepth)
  obtain ⟨events, hnote⟩ := note_eq (.loadedIndex i.schemas.length (indexPath out)) m₁.next
  have hload : (loadIndex out : Session (Except Error Index)) m₁ = (.ok i, { m₁.next with events := events }) := by
    rw [loadIndex]
    refine bind_eq_iff.2 ⟨_, _, hpath, bind_eq_iff.2 ⟨_, _, hread, ?_⟩⟩
    simp only [hindex]
    exact bind_eq_iff.2 ⟨_, _, hnote, rfl⟩
  rw [hload]

/-- A schema nests less deep than an index that has it. -/
theorem depth_le_of_mem {s : Schema} (h : s ∈ schemas) : s.toValue.depth ≤ (Index.toValue ⟨schemas⟩).depth := by
  have hitems : s.toValue.depth ≤ Json.depthOfItems (schemas.map (·.toValue)) :=
    Json.depthOfItems_le_iff.1 le_rfl _ (List.mem_map_of_mem h)
  simp only [Index.toValue, Value.depth, Json.depthOfEntries]
  omega

/-- A catalog that was written is read back: its paths are those of different files, each file is read as its schema, and the
directory is loaded as the index of all schemas in their order. The names of the components are names of files, and none is
`index`. The names in the directory that files are created under have to be clear: no link has one, no device, and no file that has
other names as well. And the output path must still lead to a directory afterwards, as it does when no artifact has replaced a link
either. -/
theorem write_readBack (hnames : ∀ s ∈ schemas, '/' ∉ s.component.toList ∧ s.component ≠ "index")
    (hordered : ∀ s ∈ schemas, s.Ordered) (hdepth : (Index.toValue ⟨schemas⟩).depth ≤ nestingLimit)
    (h : (write atomic out schemas : Session (Except Error Summary)) m = (.ok summary, m')) :
    (summary.schemaFiles ++ [summary.indexPath]).Nodup ∧
    ∃ made p, m.disk.AddsDirectories made ∧ made.directory? m.workDir out = some p ∧
      (∀ q, m.disk.directory? m.workDir out = some q → q = p) ∧
      ((∀ name ∈ fileNames schemas, m.disk.IsClear (p ++ [stagedName atomic name])) →
        (m'.disk.look? m'.workDir out = some .directory →
          List.Forall₂ (ReadsAs m') summary.schemaFiles schemas ∧ LoadsAs m' out ⟨schemas⟩) ∧
        ((∀ name ∈ fileNames schemas, m.disk.IsOrdinary (p ++ [name])) →
          List.Forall₂ (ReadsAs m') summary.schemaFiles schemas ∧
            (out ≠ "" → m'.disk.look? m'.workDir out = some .directory))) := by
  obtain ⟨rfl, hnodup⟩ := write_eq_ok h
  have hartifactNames : ∀ s ∈ schemas, Disk.IsArtifactName s.fileName := fun s hs => isArtifactName_fileName (hnames s hs).1
  obtain ⟨made, p, hmade, hp, hlook, hputs⟩ :=
    puts_write hartifactNames (fun s hs => mt Schema.fileName_eq_index_iff.1 (hnames s hs).2) h
  refine ⟨?_, made, p, hmade, hp, fun q hq => ?_, fun hstaged => ?_⟩
  · exact nodup_paths (fun s hs => (hnames s hs).1) hnodup fun s hs => (hnames s hs).2
  · exact Option.some.inj ((Disk.directory?_of_addsFiles hmade.addsFiles hq).symm.trans hp)
  · obtain ⟨hputs, hworkDir⟩ := hputs (forall_fileNames.1 fun name hname => hmade.isClear (hstaged name hname))
    have hall : ∀ f ∈ artifacts schemas, Disk.IsArtifactName f.1 :=
      forall_fileNames.1 (isArtifactName_of_mem_fileNames fun s hs => (hnames s hs).1)
    have hindex : (Index.fileName, text (Index.toValue ⟨schemas⟩)) ∈ artifacts schemas :=
      List.mem_append_right _ (List.mem_singleton.2 rfl)
    have hfiles : (m'.disk.directory? m'.workDir out).isSome → List.Forall₂ (ReadsAs m') (schemas.map (schemaPath out)) schemas := by
      intro hstays
      rw [List.forall₂_map_left_iff, List.forall₂_same]
      intro s hs
      have hartifact : artifact s ∈ artifacts schemas := List.mem_append_left _ (List.mem_map_of_mem hs)
      have hread := (hputs.read hall hp hartifact).2 (hworkDir ▸ hstays)
      rw [← hworkDir] at hread
      exact readsAs_of_read (hordered s hs) ((depth_le_of_mem hs).trans hdepth) hread
    refine ⟨fun hdirectory => ?_, fun hordinary => ?_⟩
    · have hlong := Disk.isTooLong_join_dot isName_index (hputs.fits _ hindex).path
      have hstays := Disk.directory?_of_look? hlong hdirectory
      have hread := (hputs.read hall hp hindex).2 (hworkDir ▸ hstays)
      rw [← hworkDir] at hread
      exact ⟨hfiles hstays, loadsAs_of_read hordered hdepth hdirectory hread⟩
    · have hplaces : ∀ name ∈ fileNames schemas, made.IsOrdinary (p ++ [name]) ∧ made.IsOrdinary (p ++ [stagedName atomic name]) :=
        fun name hname => ⟨hmade.isOrdinary (hordinary name hname), hmade.isOrdinary (hstaged name hname).ordinary⟩
      have hback : m'.disk.AddsFiles made := hputs.replacesFiles (forall_fileNames.1 hplaces)
      have hstays : m'.disk.directory? m'.workDir out = some p := by
        rw [hworkDir]
        exact Disk.directory?_of_addsFiles hback hp
      refine ⟨hfiles (by rw [hstays]; rfl), fun hne => ?_⟩
      rw [hworkDir]
      exact Disk.look?_of_addsFiles hback (hlook hne)

/-- The schema of a component without props. -/
def bareSchema (name : String) : Schema :=
  Schema.compile { name := name, sourcePath := "bare.tsx", category := .general, description := "", props := [] }

/-- A write with its result and the machine that is left. -/
def wroteOn (atomic : Bool) (out : String) (schemas : List Schema) (m : Machine) : Except Error Summary × Machine :=
  (write atomic out schemas : Session (Except Error Summary)) m

/-- A summary that was computed is what the write gives. -/
theorem exists_summary {α : Type} {f : Summary → α} {a : α} (h : (wroteOn atomic out schemas m).1.toOption.map f = some a) :
    ∃ summary, (write atomic out schemas : Session (Except Error Summary)) m = (.ok summary, (wroteOn atomic out schemas m).2) ∧
      f summary = a := by
  obtain ⟨summary, hsummary, ha⟩ := Option.map_eq_some_iff.1 h
  exact ⟨summary, Prod.ext (toOption_eq_some_iff.1 hsummary) rfl, ha⟩

/-- A machine with an artifact of an earlier write in its output directory. -/
def bareMachine : Machine := { disk := ⟨[(["out"], .directory), (["out", "Card.json"], .file ByteArray.empty)]⟩ }

/-- Two schemas are read back from the directory, one of them in place of what was there. -/
theorem write_readBack_bareMachine :
    ∃ summary m', (write true "out" [bareSchema "Card", bareSchema "List"] : Session (Except Error Summary)) bareMachine =
        (.ok summary, m') ∧
      summary.schemaFiles = ["out/Card.json", "out/List.json"] ∧ (summary.schemaFiles ++ [summary.indexPath]).Nodup ∧
      List.Forall₂ (ReadsAs m') summary.schemaFiles [bareSchema "Card", bareSchema "List"] ∧
      LoadsAs m' "out" ⟨[bareSchema "Card", bareSchema "List"]⟩ := by
  have hrun : (wroteOn true "out" [bareSchema "Card", bareSchema "List"] bareMachine).1.toOption.map (·.schemaFiles) =
      some ["out/Card.json", "out/List.json"] := by
    decide +kernel
  obtain ⟨summary, h, hfiles⟩ := exists_summary hrun
  have hnames : ∀ s ∈ [bareSchema "Card", bareSchema "List"], '/' ∉ s.component.toList ∧ s.component ≠ "index" := by
    simp [bareSchema, Schema.compile]
  have hordered : ∀ s ∈ [bareSchema "Card", bareSchema "List"], s.Ordered := by
    rintro s hs
    rcases List.mem_pair.1 hs with rfl | rfl <;> exact Schema.compile_ordered _
  have hdepth : (Index.toValue ⟨[bareSchema "Card", bareSchema "List"]⟩).depth ≤ nestingLimit := by decide
  obtain ⟨hnodup, made, p, -, -, hp, hread⟩ := write_readBack hnames hordered hdepth h
  obtain rfl : ["out"] = p := hp _ (by decide +kernel)
  have hnone : ∀ name ∈ fileNames [bareSchema "Card", bareSchema "List"],
      (bareMachine.disk.node? (["out"] ++ [stagedName true name])).isNone := by
    decide +kernel
  obtain ⟨hstays, -⟩ := hread fun name hname => Disk.isClear_of_none (Option.isNone_iff_eq_none.1 (hnone name hname))
  have hkind : ((wroteOn true "out" [bareSchema "Card", bareSchema "List"] bareMachine).2.disk.look?
      (wroteOn true "out" [bareSchema "Card", bareSchema "List"] bareMachine).2.workDir "out").map Node.kind = some .directory := by
    decide +kernel
  obtain ⟨hfilesRead, hloads⟩ := hstays (map_kind_eq_directory_iff.1 hkind)
  exact ⟨summary, _, h, hfiles, hnodup, hfilesRead, hloads⟩

/-- Where nothing can be read, no schema is. -/
theorem not_readsAs {s : Schema} (h : (m.disk.read m.workDir path).toOption.isNone) : ¬ReadsAs m path s := by
  rintro ⟨text, htext, -⟩
  cases hread : m.disk.read m.workDir path with
  | ok content =>
    rw [hread] at h
    cases h
  | error e =>
    rw [hread] at htext
    cases htext

/-- Where writing has left two paths as names of one file, different schemas are not both read from them. -/
theorem not_forall₂_readsAs {s t : Schema} (hne : s.component ≠ t.component) {path path' : String} {q q' : Place} {i : Nat}
    (hm : m.disk.Coherent) (h : (write atomic out schemas : Session (Except Error Summary)) m = (.ok summary, m'))
    (hpath : (m'.disk.resolve .target m'.workDir path).toOption = some q)
    (hpath' : (m'.disk.resolve .target m'.workDir path').toOption = some q')
    (hplace : m'.disk.number? q = some i) (hplace' : m'.disk.number? q' = some i) :
    ¬List.Forall₂ (ReadsAs m') [path, path'] [s, t] := by
  intro hboth
  obtain ⟨⟨text, hread, hs⟩, ⟨text', hread', ht⟩, -⟩ := by simpa only [List.forall₂_cons] using hboth
  have hcoherent : m'.disk.Coherent := by
    have hworks := (works_write atomic out schemas m).1
    rw [h] at hworks
    exact hm.works hworks
  have hsame : m'.disk.read m'.workDir path = m'.disk.read m'.workDir path' := by
    rw [Disk.read, Disk.read, toOption_eq_some_iff.1 hpath, toOption_eq_some_iff.1 hpath']
    simp only [bind, Except.bind, hcoherent _ _ i hplace hplace']
  rw [hsame, hread'] at hread
  rw [Except.ok.inj hread, hs] at ht
  exact hne (congrArg Schema.component (Except.ok.inj ht))

/-- A machine with a link from the temporary name of one artifact to that of another. -/
def crossedMachine : Machine :=
  { disk := ⟨[(["out"], .directory), (["out", "Card.json.tmp"], .link "index.json.tmp")]⟩ }

/-- A machine with a link to its own directory under the name of the index. -/
def loopedMachine : Machine := { disk := ⟨[(["out"], .directory), (["out", "index.json"], .link ".")]⟩ }

/-- A machine where two artifacts of an earlier write are one file, and so are two temporary ones that it left. -/
def twinMachine : Machine :=
  { disk := ⟨[(["out"], .directory), (["out", "Card.json.tmp"], .file ByteArray.empty (some 0)),
      (["out", "List.json.tmp"], .file ByteArray.empty (some 0)), (["out", "Card.json"], .file ByteArray.empty (some 1)),
      (["out", "List.json"], .file ByteArray.empty (some 1))]⟩ }

/-- What was written is not read back where a file is created behind a link, or the index takes the place of a link that the output
path goes through; nothing is loaded from the empty path; a component with the name `index` has the path of the index; and where two
names that files are created under are names of one file, one artifact is read for the other. -/
theorem write_lost :
    (∃ summary m', (write true "out" [bareSchema "Card"] : Session (Except Error Summary)) crossedMachine = (.ok summary, m') ∧
      summary.schemaFiles = ["out/Card.json"] ∧ ¬ReadsAs m' "out/Card.json" (bareSchema "Card")) ∧
    (∃ summary m', (write true "out/index.json" [bareSchema "Card"] : Session (Except Error Summary)) loopedMachine =
        (.ok summary, m') ∧
      summary.schemaFiles = ["out/index.json/Card.json"] ∧ ¬ReadsAs m' "out/index.json/Card.json" (bareSchema "Card")) ∧
    (∃ summary m', (write true "" [bareSchema "Card"] : Session (Except Error Summary)) {} = (.ok summary, m') ∧
      summary.schemaFiles = ["Card.json"] ∧ ¬LoadsAs m' "" ⟨[bareSchema "Card"]⟩) ∧
    (∃ summary m', (write true "out" [bareSchema "index"] : Session (Except Error Summary)) {} = (.ok summary, m') ∧
      summary.schemaFiles ++ [summary.indexPath] = ["out/index.json", "out/index.json"]) ∧
    ∀ atomic, ∃ summary m',
      (write atomic "out" [bareSchema "Card", bareSchema "List"] : Session (Except Error Summary)) twinMachine = (.ok summary, m') ∧
        summary.schemaFiles = ["out/Card.json", "out/List.json"] ∧
        ¬List.Forall₂ (ReadsAs m') summary.schemaFiles [bareSchema "Card", bareSchema "List"] := by
  refine ⟨?_, ?_, ?_, ?_, fun atomic => ?_⟩
  · have hrun : (wroteOn true "out" [bareSchema "Card"] crossedMachine).1.toOption.map (·.schemaFiles) = some ["out/Card.json"] := by
      decide +kernel
    obtain ⟨summary, h, hfiles⟩ := exists_summary hrun
    exact ⟨summary, _, h, hfiles, not_readsAs (by decide +kernel)⟩
  · have hrun : (wroteOn true "out/index.json" [bareSchema "Card"] loopedMachine).1.toOption.map (·.schemaFiles) =
        some ["out/index.json/Card.json"] := by
      decide +kernel
    obtain ⟨summary, h, hfiles⟩ := exists_summary hrun
    exact ⟨summary, _, h, hfiles, not_readsAs (by decide +kernel)⟩
  · have hrun : (wroteOn true "" [bareSchema "Card"] {}).1.toOption.map (·.schemaFiles) = some ["Card.json"] := by
      decide +kernel
    obtain ⟨summary, h, hfiles⟩ := exists_summary hrun
    refine ⟨summary, _, h, hfiles, fun hloads => ?_⟩
    have hnone : ((loadIndex "" : Session (Except Error Index)) (wroteOn true "" [bareSchema "Card"] {}).2).1.toOption.isNone := by
      decide +kernel
    rw [hloads _ rfl rfl (by decide +kernel)] at hnone
    cases hnone
  · have hrun : (wroteOn true "out" [bareSchema "index"] {}).1.toOption.map (fun summary => summary.schemaFiles ++ [summary.indexPath]) =
        some ["out/index.json", "out/index.json"] := by
      decide +kernel
    obtain ⟨summary, h, hpaths⟩ := exists_summary hrun
    exact ⟨summary, _, h, hpaths⟩
  · have hrun : ∀ atomic, (wroteOn atomic "out" [bareSchema "Card", bareSchema "List"] twinMachine).1.toOption.map (·.schemaFiles) =
        some ["out/Card.json", "out/List.json"] := by
      decide +kernel
    obtain ⟨summary, h, hfiles⟩ := exists_summary (hrun atomic)
    refine ⟨summary, _, h, hfiles, ?_⟩
    have hcoherent : twinMachine.disk.Coherent := Disk.coherent_of_nodes (by decide +kernel)
    have hplaces : ∀ atomic, ((wroteOn atomic "out" [bareSchema "Card", bareSchema "List"] twinMachine).2.disk.number?
          ["out", "Card.json"]) = some (if atomic then 0 else 1) ∧
        ((wroteOn atomic "out" [bareSchema "Card", bareSchema "List"] twinMachine).2.disk.number? ["out", "List.json"]) =
          some (if atomic then 0 else 1) := by
      decide +kernel
    have hpaths : ∀ atomic, ((wroteOn atomic "out" [bareSchema "Card", bareSchema "List"] twinMachine).2.disk.resolve .target
          (wroteOn atomic "out" [bareSchema "Card", bareSchema "List"] twinMachine).2.workDir "out/Card.json").toOption =
            some ["out", "Card.json"] ∧
        ((wroteOn atomic "out" [bareSchema "Card", bareSchema "List"] twinMachine).2.disk.resolve .target
          (wroteOn atomic "out" [bareSchema "Card", bareSchema "List"] twinMachine).2.workDir "out/List.json").toOption =
            some ["out", "List.json"] := by
      decide +kernel
    rw [hfiles]
    exact not_forall₂_readsAs (by decide +kernel) hcoherent h (hpaths atomic).1 (hpaths atomic).2 (hplaces atomic).1
      (hplaces atomic).2

end RenderCatalog.Artifact

import RenderCatalog.Proofs.Artifact.Write

/-!
# What a refused write leaves on the disk

Wherever writing stops, each file that was to be written holds what it held or the whole of its new text, and nothing else has
changed but temporary files (`Disk.Spares`): that is so after each step of the file system, struck or not, and it goes on from
one step to the next. The index is written last, so it is as it was when writing is refused (`Artifact.Spared`). As for writing
that is done, the temporary names have to be clear.
-/

namespace RenderCatalog

namespace Disk

variable {made d d' d'' : Disk} {place? : Option Place} {workDir p q : Place} {out name : String}
  {files more : List (String × String)} {names : List String}

/-! ## What a disk is spared -/

/-- The second disk is the first one after files were being written into a directory, whether all of them were or not: a place
holds what it held, or it is that of one of the files and holds the whole of it, or it has the temporary name of one of the names
and holds a file or nothing. -/
def Spares (place? : Option Place) (files : List (String × String)) (names : List String) (d d' : Disk) : Prop :=
  ∀ q, d'.node? q = d.node? q ∨ ∃ p, place? = some p ∧
    ((∃ f ∈ files, q = p ++ [f.1] ∧ d'.node? q = some (.file f.2.toUTF8)) ∨
      ∃ name ∈ names, q = p ++ [Artifact.temporaryPath name] ∧ ∀ n, d'.node? q = some n → ∃ content, n = .file content)

theorem Spares.refl (place? : Option Place) (files : List (String × String)) (names : List String) (d : Disk) :
    Spares place? files names d d := fun _ => Or.inl rfl

theorem Spares.trans (h : Spares place? files names d d') (h' : Spares place? files names d' d'') :
    Spares place? files names d d'' := by
  intro q
  rcases h' q with hsame | hwritten
  · rw [hsame]
    exact h q
  · exact Or.inr hwritten

/-- All that writing brings to a disk are files with one name. -/
theorem Spares.addsNewFiles (h : Spares place? files names d d') : d.AddsNewFiles d' := by
  intro q n hn
  rcases h q with hsame | ⟨p, -, ⟨f, -, -, hfile⟩ | ⟨name, -, -, hfile⟩⟩
  · exact Or.inl (hsame ▸ hn)
  · exact Or.inr ⟨_, Option.some.inj (hn.symm.trans hfile)⟩
  · exact Or.inr (hfile n hn)

/-- Only the place of a temporary file has changed. -/
theorem spares_of_temporary (hmem : name ∈ names) (hp : place? = some p)
    (hothers : ∀ q, q ≠ p ++ [Artifact.temporaryPath name] → d'.node? q = d.node? q)
    (hfile : ∀ n, d'.node? (p ++ [Artifact.temporaryPath name]) = some n → ∃ content, n = .file content) :
    Spares place? files names d d' := by
  intro q
  by_cases hq : q = p ++ [Artifact.temporaryPath name]
  · exact Or.inr ⟨p, hp, Or.inr ⟨name, hmem, hq, hq ▸ hfile⟩⟩
  · exact Or.inl (hothers q hq)

/-- A temporary name may hold a file. -/
theorem spares_put (hmem : name ∈ names) (hp : place? = some p) (content : ByteArray) :
    Spares place? files names d (d.put (p ++ [Artifact.temporaryPath name]) (.file content)) := by
  refine spares_of_temporary hmem hp (fun q hq => node?_put_of_ne _ hq) fun n hn => ?_
  rw [node?_put_self _ (by simp)] at hn
  exact ⟨content, (Option.some.inj hn).symm⟩

/-- A temporary name may hold nothing. -/
theorem spares_erase (hmem : name ∈ names) (hp : place? = some p) :
    Spares place? files names d (d.erase (p ++ [Artifact.temporaryPath name])) := by
  refine spares_of_temporary hmem hp (fun q hq => node?_erase_of_ne hq) fun n hn => ?_
  rw [node?_erase_self (by simp)] at hn
  cases hn

/-- Files that have been written are whole. -/
theorem Puts.spares (h : Puts true out p more d d') (hp : place? = some p) (hmore : ∀ f ∈ more, f ∈ files ∧ f.1 ∈ names) :
    Spares place? files names d d' := by
  intro q
  by_cases hq : ∀ f ∈ more, q ≠ p ++ [f.1] ∧ q ≠ p ++ [Artifact.temporaryPath f.1]
  · exact Or.inl (h.others q hq)
  · push Not at hq
    obtain ⟨f, hf, hne⟩ := hq
    refine Or.inr ⟨p, hp, ?_⟩
    by_cases hname : q = p ++ [f.1]
    · exact Or.inl ⟨f, (hmore f hf).1, hname, hname ▸ h.holds f hf⟩
    · refine Or.inr ⟨f.1, (hmore f hf).2, hne hname, fun n hn => ?_⟩
      rw [hne hname, h.leaves rfl f hf] at hn
      cases hn

/-! ## The steps under a temporary name -/

section Steps

variable (hd : made.AddsNewFiles d) (hname : Path.IsName name) (hmem : name ∈ names)

include hd hname hmem

/-- Removing a temporary file spares the disk. -/
theorem spares_remove (h : d.remove workDir (Path.join out (Artifact.temporaryPath name)) = .ok d') :
    Spares (made.directory? workDir out) files names d d' := by
  obtain ⟨q, hq, -, rfl⟩ := remove_eq_ok h
  obtain ⟨p, hp, rfl, -⟩ := resolve_name hd.addsFiles (Artifact.isName_temporaryPath hname) hq (Or.inl rfl)
  exact spares_erase hmem hp

variable (hclear : ∀ p, made.directory? workDir out = some p → made.IsClear (p ++ [Artifact.temporaryPath name]))

include hclear

/-- Creating a temporary file spares the disk, where its name is clear. -/
theorem spares_create (h : d.create workDir (Path.join out (Artifact.temporaryPath name)) = .ok d') :
    Spares (made.directory? workDir out) files names d d' := by
  have htemporary := Artifact.isName_temporaryPath hname
  obtain ⟨q, hq, -⟩ := create_eq_ok h
  obtain ⟨p, hp, -⟩ := directory?_of_resolve hd.addsFiles htemporary hq
  rw [(create_join hd htemporary hp (hclear p hp) h).1]
  exact spares_put hmem hp _

/-- Appending to a temporary file spares the disk, where its name is clear. -/
theorem spares_append {bytes : ByteArray} (h : d.append workDir (Path.join out (Artifact.temporaryPath name)) bytes = .ok d') :
    Spares (made.directory? workDir out) files names d d' := by
  obtain ⟨q, hq, hnode⟩ := append_eq_ok h
  obtain ⟨p, hp, rfl, -⟩ := resolve_name hd.addsFiles (Artifact.isName_temporaryPath hname) hq
    (Or.inr fun p target hp => (hd.isClear (hclear p hp)).ordinary.ne_link target)
  have hclear' := hd.isClear (hclear p hp)
  rcases hnode with ⟨hdevice, -⟩ | ⟨content, number?, -, hwrite⟩
  · exact absurd hdevice hclear'.ordinary.ne_device
  · rw [hwrite, hclear'.sole.write_eq]
    exact spares_put hmem hp _

end Steps

end Disk

namespace Artifact

open Machine

variable {m m' : Machine} {made : Disk} {p : Place} {out name content : String} {files : List (String × String)}
  {names : List String} {schemas : List Schema}

/-! ## One file -/

/-- A text that was not written came as far as putting bytes at the end of the temporary file. -/
theorem writeThenRename_eq_error {temporary path : String} {e : OsError}
    (h : (writeThenRename temporary path content : Session (Except OsError Unit)) m = (.error e, m')) :
    m'.workDir = m.workDir ∧ (m'.disk = m.disk ∨ ∃ created, m.disk.create m.workDir temporary = .ok created ∧
      (m'.disk = created ∨ ∃ bytes, created.append m.workDir temporary bytes = .ok m'.disk)) := by
  rw [writeThenRename] at h
  obtain ⟨r₁, m₁, h₁, h⟩ := bind_eq_iff.1 h
  cases r₁ with
  | error e₁ =>
    obtain ⟨-, rfl⟩ := pure_eq_iff.1 h
    obtain ⟨hdisk, hworkDir⟩ := change_unbroken_eq_error h₁
    exact ⟨hworkDir, Or.inl hdisk⟩
  | ok _ =>
    obtain ⟨hcreate, hworkDir₁⟩ := change_eq_ok h₁
    obtain ⟨r₂, m₂, h₂, h⟩ := bind_eq_iff.1 h
    cases r₂ with
    | error e₂ =>
      obtain ⟨-, rfl⟩ := pure_eq_iff.1 h
      obtain ⟨hdisk, hworkDir₂⟩ := append_eq_error h₂
      rw [hworkDir₁] at hdisk
      exact ⟨hworkDir₂.trans hworkDir₁, Or.inr ⟨m₁.disk, hcreate, hdisk⟩⟩
    | ok _ =>
      obtain ⟨happend, hworkDir₂⟩ := change_eq_ok h₂
      rw [hworkDir₁] at happend
      have hlast : m'.disk = m₂.disk ∧ m'.workDir = m₂.workDir := by
        obtain ⟨r₃, m₃, h₃, h⟩ := bind_eq_iff.1 h
        cases r₃ with
        | error e₃ =>
          obtain ⟨-, rfl⟩ := pure_eq_iff.1 h
          exact change_unbroken_eq_error h₃
        | ok _ =>
          obtain ⟨hflush, hworkDir₃⟩ := change_eq_ok h₃
          obtain ⟨hrename, hworkDir₄⟩ := change_unbroken_eq_error h
          exact ⟨hrename.trans (Except.ok.inj hflush).symm, hworkDir₄.trans hworkDir₃⟩
      refine ⟨hlast.2.trans (hworkDir₂.trans hworkDir₁), Or.inr ⟨m₁.disk, hcreate, Or.inr ⟨content.toUTF8, ?_⟩⟩⟩
      rw [hlast.1]
      exact happend

/-- Writing a file spares the disk: it is written as a whole, or it is not written. -/
theorem spares_writeFile {result : Except Error Unit} (hname : Disk.IsArtifactName name) (hd : made.AddsNewFiles m.disk)
    (hmem : name ∈ names) (hclear : ∀ p, made.directory? m.workDir out = some p → made.IsClear (p ++ [temporaryPath name]))
    (hfile : result = .ok () → (name, content) ∈ files)
    (h : (writeFile true (Path.join out name) content : Session (Except Error Unit)) m = (result, m')) :
    Disk.Spares (made.directory? m.workDir out) files names m.disk m'.disk ∧ m'.workDir = m.workDir := by
  cases result with
  | ok _ =>
    obtain ⟨p, hp⟩ := directory?_of_writeFile hname.isName h
    have hmade := Disk.directory?_of_addsFiles hd.addsFiles hp
    have hstaged : made.IsClear (p ++ [stagedName true name]) := hclear p hmade
    obtain ⟨hputs, hworkDir⟩ := puts_writeFile hname hd hmade hstaged h
    exact ⟨hputs.spares hmade (List.forall_mem_singleton.2 ⟨hfile rfl, hmem⟩), hworkDir⟩
  | error e =>
    obtain ⟨cause, m₁, -, hwrite, hlast, hworkDir'⟩ := writeFile_eq_error h
    obtain ⟨hworkDir, hdisk⟩ := writeThenRename_eq_error hwrite
    rw [temporaryPath_join hname.isName] at hdisk hlast
    have hwritten : Disk.Spares (made.directory? m.workDir out) files names m.disk m₁.disk := by
      rcases hdisk with hsame | ⟨created, hcreate, hdisk⟩
      · rw [hsame]
        exact Disk.Spares.refl _ _ _ _
      · have hcreated : Disk.Spares (made.directory? m.workDir out) files names m.disk created :=
          Disk.spares_create hd hname.isName hmem hclear hcreate
        rcases hdisk with hsame | ⟨bytes, happend⟩
        · rw [hsame]
          exact hcreated
        · exact hcreated.trans (Disk.spares_append (hd.trans hcreated.addsNewFiles) hname.isName hmem hclear happend)
    refine ⟨?_, hworkDir'.trans hworkDir⟩
    rcases hlast with hsame | hremove
    · rw [hsame]
      exact hwritten
    · rw [hworkDir] at hremove
      exact hwritten.trans (Disk.spares_remove (hd.trans hwritten.addsNewFiles) hname.isName hmem hremove)

/-! ## All artifacts -/

/-- Writing the artifacts of schemas spares the disk, wherever it stops. -/
theorem spares_writeSchemas {result : Except Error Unit} (hnames : ∀ s ∈ schemas, s.NamesFile) (hd : made.AddsNewFiles m.disk)
    (hmem : ∀ s ∈ schemas, artifact s ∈ files ∧ s.fileName ∈ names)
    (hclear : ∀ p, made.directory? m.workDir out = some p → ∀ name ∈ names, made.IsClear (p ++ [temporaryPath name]))
    (h : (writeSchemas true out schemas : Session (Except Error Unit)) m = (result, m')) :
    Disk.Spares (made.directory? m.workDir out) files names m.disk m'.disk ∧ m'.workDir = m.workDir := by
  induction schemas generalizing m with
  | nil =>
    obtain ⟨-, rfl⟩ := pure_eq_iff.1 h
    exact ⟨Disk.Spares.refl _ _ _ _, rfl⟩
  | cons s rest ih =>
    obtain ⟨hname, hrest⟩ := List.forall_mem_cons.1 hnames
    obtain ⟨⟨hartifact, hs⟩, hmemRest⟩ := List.forall_mem_cons.1 hmem
    obtain ⟨r₁, m₁, h₁, h⟩ := bind_eq_iff.1 h
    obtain ⟨hspares, hworkDir⟩ := spares_writeFile (isArtifactName_fileName hname.no_slash) hd hs (fun p hp => hclear p hp _ hs)
      (fun _ => hartifact) h₁
    cases r₁ with
    | error e =>
      obtain ⟨-, rfl⟩ := pure_eq_iff.1 h
      exact ⟨hspares, hworkDir⟩
    | ok _ =>
      obtain ⟨_, m₂, h₂, h⟩ := bind_eq_iff.1 h
      have hnote : m₂.disk = m₁.disk ∧ m₂.workDir = m₁.workDir := by
        have hkeeps := keeps_note (.wroteFile (schemaPath out s)) m₁
        rwa [h₂] at hkeeps
      rw [← hnote.1] at hspares
      rw [← hworkDir, ← hnote.2] at hclear hspares ⊢
      obtain ⟨hmore, hworkDir'⟩ := ih hrest (hd.trans hspares.addsNewFiles) hmemRest hclear h
      exact ⟨hspares.trans hmore, hworkDir'⟩

/-- Writing a catalog that is refused makes directories and then spares the disk, the index with it. -/
theorem spares_write {e : Error} (hnames : ∀ s ∈ schemas, s.NamesFile)
    (h : (write true out schemas : Session (Except Error Summary)) m = (.error e, m')) :
    ∃ made, m.disk.AddsDirectories made ∧
      ((∀ p, made.directory? m.workDir out = some p → ∀ name ∈ fileNames schemas, made.IsClear (p ++ [temporaryPath name])) →
        Disk.Spares (made.directory? m.workDir out) (schemas.map artifact) (fileNames schemas) made m'.disk ∧
          m'.workDir = m.workDir) := by
  have hmade := makesDirectories_makeDirs out m
  have hmem : ∀ s ∈ schemas, artifact s ∈ schemas.map artifact ∧ s.fileName ∈ fileNames schemas := fun s hs =>
    ⟨List.mem_map_of_mem hs, List.mem_append_left _ (List.mem_map_of_mem hs)⟩
  cases ends_write h with
  | repeated => exact ⟨m.disk, Disk.AddsDirectories.refl _, fun _ => ⟨Disk.Spares.refl _ _ _ _, rfl⟩⟩
  | undirected _ hdirs =>
    rw [hdirs] at hmade
    exact ⟨m'.disk, hmade.1, fun _ => ⟨Disk.Spares.refl _ _ _ _, hmade.2⟩⟩
  | @unwritten _ m₁ _ _ hdirs hschemas =>
    rw [hdirs] at hmade
    refine ⟨m₁.disk, hmade.1, fun hclear => ?_⟩
    rw [← hmade.2] at hclear ⊢
    exact spares_writeSchemas hnames (Disk.AddsNewFiles.refl _) hmem hclear hschemas
  | @unindexed _ m₁ m₂ _ _ hdirs hschemas hindex =>
    rw [hdirs] at hmade
    refine ⟨m₁.disk, hmade.1, fun hclear => ?_⟩
    rw [← hmade.2] at hclear ⊢
    obtain ⟨hspares, hworkDir⟩ := spares_writeSchemas hnames (Disk.AddsNewFiles.refl _) hmem hclear hschemas
    have hname : Index.fileName ∈ fileNames schemas := List.mem_append_right _ (List.mem_singleton.2 rfl)
    rw [← hworkDir] at hclear hspares ⊢
    -- the index itself would only be written by a step that does not fail
    have hlast : Disk.Spares (m₁.disk.directory? m₂.workDir out) (schemas.map artifact) (fileNames schemas) m₂.disk m'.disk ∧
        m'.workDir = m₂.workDir :=
      spares_writeFile isArtifactName_index hspares.addsNewFiles hname (fun p hp => hclear p hp _ hname) (fun hok => by cases hok)
        hindex
    exact ⟨hspares.trans hlast.1, hlast.2⟩

end Artifact

/-! ## What was there before -/

namespace Disk

variable {made d d' : Disk} {workDir p q : Place} {out name : String} {content content' : ByteArray}

/-- A place holds what it held, or a directory was made where nothing was. -/
def Stays (d d' : Disk) (q : Place) : Prop := d'.node? q = d.node? q ∨ d.node? q = none ∧ d'.node? q = some .directory

/-- A file that stays is there with the same content. -/
theorem Stays.file {number? : Option Nat} (h : d.Stays d' q) (hnode : d.node? q = some (.file content number?)) :
    d'.node? q = some (.file content number?) := by
  rcases h with hsame | ⟨hnone, -⟩
  · rw [hsame, hnode]
  · rw [hnode] at hnone
    cases hnone

/-- The path of a name below a directory is read as the file that has the name in the directory's place. -/
def Reads (d : Disk) (workDir p : Place) (out name : String) (content : ByteArray) : Prop :=
  (∃ number?, d.node? (p ++ [name]) = some (.file content number?)) ∧ d.read workDir (Path.join out name) = .ok content

/-- A path that is read so can be that of a file below the directory. -/
theorem Reads.fits (hd : made.AddsFiles d) (hp : made.directory? workDir out = some p) (hname : Path.IsName name)
    (h : d.Reads workDir p out name content) : Fits out name := by
  obtain ⟨⟨number?, hnode⟩, hread⟩ := h
  rw [Disk.read] at hread
  obtain ⟨q, hq, -⟩ := bind_eq_ok.1 hread
  obtain ⟨-, -, -, hfits⟩ := resolve_name hd hname hq (Or.inr fun r target hr => by
    rw [Option.some.inj (hr.symm.trans hp), hnode]
    simp)
  exact hfits

/-- Where a file was read, the file that stands there now is read. -/
theorem Reads.of_file (hd : made.AddsFiles d) (hd' : made.AddsFiles d') (hp : made.directory? workDir out = some p)
    (hname : Path.IsName name) (h : d.Reads workDir p out name content) (hstays : (d'.directory? workDir out).isSome)
    {number? : Option Nat} (hnode : d'.node? (p ++ [name]) = some (.file content' number?)) :
    d'.Reads workDir p out name content' :=
  ⟨⟨number?, hnode⟩, read_join hd' hname (h.fits hd hp hname) hp hstays hnode⟩

end Disk

namespace Artifact

variable {made before after : Disk} {workDir p : Place} {out : String} {schemas : List Schema}

/-- Writing the artifacts of schemas into a directory was refused, and this is what has become of the disk: the index is what it
was, the file of a schema is what it was or the whole new text of that schema, and nothing else has changed but temporary files,
and directories that were made where nothing was. As long as the path of the directory leads to a directory, files that could be
read there before are read with what they held, or with the whole new text. -/
structure Spared (outputDir : String) (workDir p : Place) (schemas : List Schema) (before after : Disk) : Prop where
  index : before.Stays after (p ++ [Index.fileName])
  schema : ∀ s ∈ schemas, before.Stays after (p ++ [s.fileName]) ∨
    after.node? (p ++ [s.fileName]) = some (.file (text s.toValue).toUTF8)
  others : ∀ q, (∀ s ∈ schemas, q ≠ p ++ [s.fileName]) → (∀ name ∈ fileNames schemas, q ≠ p ++ [temporaryPath name]) →
    before.Stays after q
  readIndex : (after.directory? workDir outputDir).isSome → ∀ content,
    before.Reads workDir p outputDir Index.fileName content → after.Reads workDir p outputDir Index.fileName content
  readSchema : (after.directory? workDir outputDir).isSome → ∀ s ∈ schemas, ∀ content,
    before.Reads workDir p outputDir s.fileName content →
      after.Reads workDir p outputDir s.fileName content ∨ after.Reads workDir p outputDir s.fileName (text s.toValue).toUTF8

/-- No schema and no temporary file has the name of the index. -/
theorem index_ne (hnames : ∀ s ∈ schemas, s.NamesFile) :
    (∀ s ∈ schemas, p ++ [Index.fileName] ≠ p ++ [s.fileName]) ∧
      ∀ name ∈ fileNames schemas, p ++ [Index.fileName] ≠ p ++ [temporaryPath name] := by
  refine ⟨fun s hs heq => (hnames s hs).ne_index (by simpa using heq.symm), fun name hname heq => ?_⟩
  have hartifact := isArtifactName_of_mem_fileNames (fun s hs => (hnames s hs).no_slash) name hname
  exact isArtifactName_index.ne_temporaryPath hartifact.isName (by simpa using heq)

section Spares

variable (hnames : ∀ s ∈ schemas, s.NamesFile) (hmade : before.AddsDirectories made)
  (h : Disk.Spares (some p) (schemas.map artifact) (fileNames schemas) made after)

include hmade h

/-- What has another name than the artifacts and the temporary files stays. -/
theorem stays_of_spares {q : Place} (hschemas : ∀ s ∈ schemas, q ≠ p ++ [s.fileName])
    (htemporaries : ∀ name ∈ fileNames schemas, q ≠ p ++ [temporaryPath name]) : before.Stays after q := by
  rcases h q with hsame | ⟨r, hr, ⟨f, hf, hq, -⟩ | ⟨name, hname, hq, -⟩⟩
  · rw [Disk.Stays, hsame]
    exact hmade q
  · obtain ⟨s, hs, rfl⟩ := List.mem_map.1 hf
    obtain rfl := Option.some.inj hr
    exact absurd hq (hschemas s hs)
  · obtain rfl := Option.some.inj hr
    exact absurd hq (htemporaries name hname)

include hnames

/-- The artifact of a schema stays or is replaced as a whole. -/
theorem stays_or_written_of_spares (hnodup : (schemas.map (·.component)).Nodup) {s : Schema} (hs : s ∈ schemas) :
    before.Stays after (p ++ [s.fileName]) ∨ after.node? (p ++ [s.fileName]) = some (.file (text s.toValue).toUTF8) := by
  rcases h (p ++ [s.fileName]) with hsame | ⟨r, hr, ⟨f, hf, hq, hfile⟩ | ⟨name, hname, hq, -⟩⟩
  · rw [Disk.Stays, hsame]
    exact Or.inl (hmade _)
  · obtain ⟨t, ht, rfl⟩ := List.mem_map.1 hf
    obtain rfl := Option.some.inj hr
    have hfileName : s.fileName = t.fileName := List.singleton_inj.1 (List.append_cancel_left hq)
    obtain rfl : s = t := List.inj_on_of_nodup_map hnodup hs ht (Schema.fileName_inj.1 hfileName)
    exact Or.inr hfile
  · obtain rfl := Option.some.inj hr
    have hartifact := isArtifactName_of_mem_fileNames (fun s hs => (hnames s hs).no_slash) name hname
    have hne := (isArtifactName_fileName (hnames s hs).no_slash).ne_temporaryPath hartifact.isName
    exact absurd (List.singleton_inj.1 (List.append_cancel_left hq)) hne

/-- Where directories were made and the disk was spared from then on, the artifacts were spared. -/
theorem Spared.of_spares (hnodup : (schemas.map (·.component)).Nodup) (hp : made.directory? workDir out = some p) :
    Spared out workDir p schemas before after := by
  have hindex := stays_of_spares hmade h (index_ne hnames).1 (index_ne hnames).2
  have hschema : ∀ s ∈ schemas, _ := fun s hs => stays_or_written_of_spares hnames hmade h hnodup hs
  refine ⟨hindex, hschema, fun q => stays_of_spares hmade h, fun hstays content hread => ?_,
    fun hstays s hs content hread => ?_⟩
  · obtain ⟨number?, hnode⟩ := hread.1
    exact hread.of_file hmade.addsFiles h.addsNewFiles.addsFiles hp isName_index hstays (hindex.file hnode)
  · have hname := (hnames s hs).isName
    obtain ⟨number?, hnode⟩ := hread.1
    rcases hschema s hs with hsame | hnew
    · exact Or.inl (hread.of_file hmade.addsFiles h.addsNewFiles.addsFiles hp hname hstays (hsame.file hnode))
    · exact Or.inr (hread.of_file hmade.addsFiles h.addsNewFiles.addsFiles hp hname hstays hnew)

end Spares

end Artifact

end RenderCatalog

import RenderCatalog.Proofs.Artifact.Names
import RenderCatalog.Proofs.Disk.Directory
import RenderCatalog.Proofs.Schema.RoundTrip
import RenderCatalog.Settings.Directory

/-!
# What writing leaves on the disk

A file that is written replaces what has its name in the directory that the output path leads to, and nothing else: `Puts`
says so of a list of files, and files under different names are written one after the other. This needs that the name there that a
file is created under (`Artifact.stagedName`) is clear (`IsClear`): creating a file follows a link, hands the bytes to a device, and
cuts a file that is there under all its names.
-/

namespace RenderCatalog

open Json (Style nestingLimit)

/-- The name that an artifact is created under: its temporary name where it is renamed afterwards, else its own. -/
def Artifact.stagedName : Bool → String → String
  | true, name => temporaryPath name
  | false, name => name

namespace Disk

variable {atomic : Bool} {d d' d'' : Disk} {p q : Place} {out : String} {files more : List (String × String)}

/-- The name of an artifact, which is never a temporary name. -/
structure IsArtifactName (name : String) : Prop where
  isName : Path.IsName name
  getLast? : name.toList.getLast? = some 'n'

/-- The name of an artifact is no temporary name. -/
theorem IsArtifactName.ne_temporaryPath {name other : String} (h : IsArtifactName name) (hother : Path.IsName other) :
    name ≠ Artifact.temporaryPath other := by
  rintro rfl
  have hlast := h.getLast?
  rw [Artifact.getLast?_temporaryPath hother] at hlast
  cases hlast

/-- The name of an artifact is no name that another file is created under. -/
theorem IsArtifactName.ne_stagedName {name other : String} (h : IsArtifactName name) (hother : Path.IsName other)
    (hne : name ≠ other) : name ≠ Artifact.stagedName atomic other := by
  cases atomic with
  | true => exact h.ne_temporaryPath hother
  | false => exact hne

/-- The second disk is the first one after files have been written into a directory: they are there under their names, which
the path of the directory can be continued with and which no directory had, no temporary file is left, and every place but those
of the files and those that they were created at holds what it held. -/
structure Puts (atomic : Bool) (out : String) (p : Place) (files : List (String × String)) (d d' : Disk) : Prop where
  holds : ∀ f ∈ files, d'.node? (p ++ [f.1]) = some (.file f.2.toUTF8)
  fits : ∀ f ∈ files, Fits out f.1
  free : ∀ f ∈ files, d.node? (p ++ [f.1]) ≠ some .directory ∧ d.node? (p ++ [Artifact.stagedName atomic f.1]) ≠ some .directory
  leaves : atomic = true → ∀ f ∈ files, d'.node? (p ++ [Artifact.temporaryPath f.1]) = none
  others : ∀ q, (∀ f ∈ files, q ≠ p ++ [f.1] ∧ q ≠ p ++ [Artifact.stagedName atomic f.1]) → d'.node? q = d.node? q

theorem Puts.nil (atomic : Bool) (out : String) (p : Place) (d : Disk) : Puts atomic out p [] d d :=
  ⟨nofun, nofun, nofun, fun _ => nofun, fun _ _ => rfl⟩

/-- What is at a place after files were written is what was there, or a file or nothing where no directory was. -/
theorem Puts.node?_cases (h : Puts atomic out p files d d') (q : Place) :
    d'.node? q = d.node? q ∨ d.node? q ≠ some .directory ∧ (∃ f ∈ files, q = p ++ [f.1] ∨ q = p ++ [Artifact.stagedName atomic f.1]) ∧
      ∀ n, d'.node? q = some n → ∃ content, n = .file content := by
  by_cases hq : ∀ f ∈ files, q ≠ p ++ [f.1] ∧ q ≠ p ++ [Artifact.stagedName atomic f.1]
  · exact Or.inl (h.others q hq)
  · push Not at hq
    obtain ⟨f, hf, hne⟩ := hq
    by_cases hname : q = p ++ [f.1]
    · rw [hname, h.holds f hf]
      exact Or.inr ⟨(h.free f hf).1, ⟨f, hf, Or.inl rfl⟩, fun n hn => ⟨_, (Option.some.inj hn).symm⟩⟩
    · have hstaged := hne hname
      refine Or.inr ⟨hstaged ▸ (h.free f hf).2, ⟨f, hf, Or.inr hstaged⟩, fun n hn => ?_⟩
      cases atomic with
      | true =>
        rw [hstaged, Artifact.stagedName, h.leaves rfl f hf] at hn
        cases hn
      | false => exact absurd hstaged hname

/-- What a disk holds that it did not hold before the files were written is one of them. -/
theorem Puts.addsNewFiles (h : Puts atomic out p files d d') : d.AddsNewFiles d' := by
  intro q n hn
  rcases h.node?_cases q with hsame | ⟨-, -, hfile⟩
  · exact Or.inl (hsame ▸ hn)
  · exact Or.inr (hfile n hn)

/-- Where no link and no device had a name that was written to, only files have been replaced. -/
theorem Puts.replacesFiles (h : Puts atomic out p files d d')
    (hordinary : ∀ f ∈ files, d.IsOrdinary (p ++ [f.1]) ∧ d.IsOrdinary (p ++ [Artifact.stagedName atomic f.1])) : d'.AddsFiles d := by
  intro q n hn
  rcases h.node?_cases q with hsame | ⟨hdirectory, ⟨f, hf, hq⟩, -⟩
  · exact Or.inl (hsame ▸ hn)
  · have hq : d.IsOrdinary q := by
      rcases hq with rfl | rfl
      · exact (hordinary f hf).1
      · exact (hordinary f hf).2
    refine Or.inr ((hq n hn).resolve_left fun hkind => hdirectory ?_)
    rw [hn, eq_directory_of_kind hkind]

/-- Files that were written before others under other names are still there. -/
theorem Puts.append (h : Puts atomic out p files d d') (h' : Puts atomic out p more d' d'')
    (hfiles : ∀ f ∈ files, IsArtifactName f.1) (hmore : ∀ g ∈ more, IsArtifactName g.1)
    (hne : ∀ f ∈ files, ∀ g ∈ more, f.1 ≠ g.1) : Puts atomic out p (files ++ more) d d'' := by
  have hcancel : ∀ a b : String, p ++ [a] = p ++ [b] → a = b := fun a b hab => by simpa using hab
  refine ⟨fun f hf => ?_, fun f hf => ?_, fun f hf => ?_, fun hatomic f hf => ?_, fun q hq => ?_⟩
  · rcases List.mem_append.1 hf with hf | hf
    · rw [h'.others, h.holds f hf]
      intro g hg
      exact ⟨fun heq => hne f hf g hg (hcancel _ _ heq),
        fun heq => (hfiles f hf).ne_stagedName (hmore g hg).isName (hne f hf g hg) (hcancel _ _ heq)⟩
    · exact h'.holds f hf
  · rcases List.mem_append.1 hf with hf | hf
    · exact h.fits f hf
    · exact h'.fits f hf
  · rcases List.mem_append.1 hf with hf | hf
    · exact h.free f hf
    · -- what was no directory in between was none before: no directory is taken away
      have hback : ∀ q, d'.node? q ≠ some .directory → d.node? q ≠ some .directory := by
        intro q hq
        rcases h.node?_cases q with hsame | ⟨hdirectory, -⟩
        · exact hsame ▸ hq
        · exact hdirectory
      exact ⟨hback _ (h'.free f hf).1, hback _ (h'.free f hf).2⟩
  · rcases List.mem_append.1 hf with hf | hf
    · by_cases hsame : ∃ g ∈ more, Artifact.temporaryPath f.1 = Artifact.temporaryPath g.1
      · obtain ⟨g, hg, heq⟩ := hsame
        rw [heq]
        exact h'.leaves hatomic g hg
      · rw [h'.others, h.leaves hatomic f hf]
        intro g hg
        rw [hatomic]
        exact ⟨fun heq => (hmore g hg).ne_temporaryPath (hfiles f hf).isName (hcancel _ _ heq).symm,
          fun heq => hsame ⟨g, hg, hcancel _ _ heq⟩⟩
    · exact h'.leaves hatomic f hf
  · rw [h'.others q fun g hg => hq g (List.mem_append_right _ hg), h.others q fun f hf => hq f (List.mem_append_left _ hf)]

/-- A file that was written stands at its place, and is read under its path as long as the path of its directory leads to a
directory. -/
theorem Puts.read {workDir : Place} {name content : String} (h : Puts atomic out p files d d')
    (hfiles : ∀ f ∈ files, IsArtifactName f.1) (hp : d.directory? workDir out = some p) (hfile : (name, content) ∈ files) :
    d'.node? (p ++ [name]) = some (.file content.toUTF8) ∧
      ((d'.directory? workDir out).isSome → d'.read workDir (Path.join out name) = .ok content.toUTF8) := by
  have hnode := h.holds _ hfile
  exact ⟨hnode, fun hstays => read_join h.addsNewFiles.addsFiles (hfiles _ hfile).isName (h.fits _ hfile) hp hstays hnode⟩

end Disk

namespace Artifact

open Machine

variable {atomic : Bool} {m m' : Machine} {made : Disk} {p : Place} {out name content : String}

/-! ## One file -/

/-- A text that was written under a temporary path and renamed went through these disks. -/
theorem writeThenRename_eq_ok {temporary path : String}
    (h : (writeThenRename temporary path content : Session (Except OsError Unit)) m = (.ok (), m')) :
    ∃ created appended, m.disk.create m.workDir temporary = .ok created ∧
      created.append m.workDir temporary content.toUTF8 = .ok appended ∧
      appended.rename m.workDir temporary path = .ok m'.disk ∧ m'.workDir = m.workDir := by
  rw [writeThenRename] at h
  obtain ⟨r₁, m₁, h₁, h⟩ := bind_eq_iff.1 h
  cases r₁ with
  | error e => cases (pure_eq_iff.1 h).1
  | ok _ =>
    obtain ⟨r₂, m₂, h₂, h⟩ := bind_eq_iff.1 h
    cases r₂ with
    | error e => cases (pure_eq_iff.1 h).1
    | ok _ =>
      obtain ⟨r₃, m₃, h₃, h⟩ := bind_eq_iff.1 h
      cases r₃ with
      | error e => cases (pure_eq_iff.1 h).1
      | ok _ =>
        obtain ⟨hcreate, hw₁⟩ := change_eq_ok h₁
        obtain ⟨happend, hw₂⟩ := change_eq_ok h₂
        obtain ⟨hflush, hw₃⟩ := change_eq_ok h₃
        obtain ⟨hrename, hw₄⟩ := change_eq_ok h
        have hdisk : m₂.disk = m₃.disk := Except.ok.inj hflush
        rw [hw₁] at happend
        rw [← hdisk, hw₃, hw₂, hw₁] at hrename
        exact ⟨m₁.disk, m₂.disk, hcreate, happend, hrename, by rw [hw₄, hw₃, hw₂, hw₁]⟩

/-- A file that was written atomically has been written under its temporary path and renamed. -/
theorem writeFile_eq_ok {path : String} (h : (writeFile true path content : Session (Except Error Unit)) m = (.ok (), m')) :
    (writeThenRename (temporaryPath path) path content : Session (Except OsError Unit)) m = (.ok (), m') := by
  rw [writeFile, if_pos rfl] at h
  obtain ⟨r₁, m₁, h₁, h⟩ := bind_eq_iff.1 h
  cases r₁ with
  | ok _ =>
    obtain ⟨-, rfl⟩ := pure_eq_iff.1 h
    exact h₁
  | error cause =>
    obtain ⟨r₂, m₂, -, h⟩ := bind_eq_iff.1 h
    cases r₂ with
    | ok _ => cases (pure_eq_iff.1 h).1
    | error e =>
      obtain ⟨-, m₃, -, h⟩ := bind_eq_iff.1 h
      cases (pure_eq_iff.1 h).1

/-- A file that was written in place has been created and got its content. -/
theorem writeFile_in_place_eq_ok {path : String}
    (h : (writeFile false path content : Session (Except Error Unit)) m = (.ok (), m')) :
    ∃ created, m.disk.create m.workDir path = .ok created ∧ created.append m.workDir path content.toUTF8 = .ok m'.disk ∧
      m'.workDir = m.workDir := by
  rw [writeFile, if_neg (by nofun)] at h
  obtain ⟨r, m₂, hwrite, h⟩ := bind_eq_iff.1 h
  obtain ⟨hr, rfl⟩ := pure_eq_iff.1 h
  obtain rfl := mapError_eq_ok.1 hr
  rw [Host.writeText] at hwrite
  obtain ⟨r₁, m₁, h₁, hwrite⟩ := bind_eq_iff.1 hwrite
  cases r₁ with
  | error e => cases (pure_eq_iff.1 hwrite).1
  | ok _ =>
    obtain ⟨hcreate, hworkDir⟩ := change_eq_ok h₁
    obtain ⟨happend, hworkDir'⟩ := change_eq_ok hwrite
    rw [hworkDir] at happend
    exact ⟨m₁.disk, hcreate, happend, hworkDir'.trans hworkDir⟩

/-- A file that was written has been created under its staged name. -/
theorem exists_create_of_writeFile (hname : Path.IsName name)
    (h : (writeFile atomic (Path.join out name) content : Session (Except Error Unit)) m = (.ok (), m')) :
    Path.IsName (stagedName atomic name) ∧
      ∃ created, m.disk.create m.workDir (Path.join out (stagedName atomic name)) = .ok created := by
  cases atomic with
  | true =>
    obtain ⟨created, -, hcreate, -⟩ := writeThenRename_eq_ok (writeFile_eq_ok h)
    rw [temporaryPath_join hname] at hcreate
    exact ⟨isName_temporaryPath hname, created, hcreate⟩
  | false =>
    obtain ⟨created, hcreate, -⟩ := writeFile_in_place_eq_ok h
    exact ⟨hname, created, hcreate⟩

/-- Where a file below a directory was written, the directory has a place. -/
theorem directory?_of_writeFile (hname : Path.IsName name)
    (h : (writeFile atomic (Path.join out name) content : Session (Except Error Unit)) m = (.ok (), m')) :
    ∃ p, m.disk.directory? m.workDir out = some p := by
  obtain ⟨hstaged, created, hcreate⟩ := exists_create_of_writeFile hname h
  obtain ⟨q, hq, -⟩ := Disk.create_eq_ok hcreate
  obtain ⟨p, hp, -⟩ := Disk.directory?_of_resolve (Disk.AddsFiles.refl _) hstaged hq
  exact ⟨p, hp⟩

section OneFile

variable (hname : Disk.IsArtifactName name) (hd : made.AddsNewFiles m.disk) (hp : made.directory? m.workDir out = some p)

include hname hd hp

/-- A file that is written under a temporary name and renamed is put into the directory. -/
theorem puts_writeThenRename (hclear : made.IsClear (p ++ [temporaryPath name]))
    (h : (writeThenRename (Path.join out (temporaryPath name)) (Path.join out name) content : Session (Except OsError Unit)) m =
      (.ok (), m')) : Disk.Puts true out p [(name, content)] m.disk m'.disk ∧ m'.workDir = m.workDir := by
  have htemporary := isName_temporaryPath hname.isName
  obtain ⟨created, appended, hcreate, happend, hrename, hworkDir⟩ := writeThenRename_eq_ok h
  have hq : p ++ [temporaryPath name] ≠ [] := by simp
  obtain ⟨hcreated, hfree⟩ := Disk.create_join hd htemporary hp hclear hcreate
  have hdcreated : made.AddsNewFiles created := hcreated ▸ hd.trans (Disk.addsNewFiles_put _ _ hq _)
  have hempty : created.node? (p ++ [temporaryPath name]) = some (.file ByteArray.empty) := by
    rw [hcreated, Disk.node?_put_self _ hq]
  have happended := Disk.append_join hdcreated htemporary hp hempty happend
  rw [ByteArray.empty_append] at happended
  have hdappended : made.AddsNewFiles appended := happended ▸ hdcreated.trans (Disk.addsNewFiles_put _ _ hq _)
  have hfull : appended.node? (p ++ [temporaryPath name]) = some (.file content.toUTF8) := by
    rw [happended, Disk.node?_put_self _ hq]
  obtain ⟨hrenamed, hfree', hfits⟩ := Disk.rename_join hdappended htemporary hname.isName hp hfull hrename
  have hne : p ++ [temporaryPath name] ≠ p ++ [name] := fun heq =>
    hname.ne_temporaryPath hname.isName (by simpa using heq.symm)
  have hothers : ∀ r, r ≠ p ++ [temporaryPath name] → appended.node? r = m.disk.node? r := by
    intro r hr
    rw [happended, Disk.node?_put_of_ne _ hr, hcreated, Disk.node?_put_of_ne _ hr]
  rw [hothers _ hne.symm] at hfree'
  refine ⟨⟨?_, ?_, ?_, fun _ => ?_, fun r hr => ?_⟩, hworkDir⟩
  · rw [List.forall_mem_singleton, hrenamed, Disk.node?_put_self _ (by simp)]
  · exact List.forall_mem_singleton.2 hfits
  · exact List.forall_mem_singleton.2 ⟨hfree', hfree⟩
  · rw [List.forall_mem_singleton, hrenamed, Disk.node?_put_of_ne _ hne, Disk.node?_erase_self hq]
  · obtain ⟨hr, hr'⟩ := List.forall_mem_singleton.1 hr
    rw [stagedName] at hr'
    rw [hrenamed, Disk.node?_put_of_ne _ hr, Disk.node?_erase_of_ne hr', hothers _ hr']

/-- A file that is written in place is put into the directory. -/
theorem puts_writeFile_in_place (hclear : made.IsClear (p ++ [name]))
    (h : (writeFile false (Path.join out name) content : Session (Except Error Unit)) m = (.ok (), m')) :
    Disk.Puts false out p [(name, content)] m.disk m'.disk ∧ m'.workDir = m.workDir := by
  obtain ⟨created, hcreate, happend, hworkDir⟩ := writeFile_in_place_eq_ok h
  have hq : p ++ [name] ≠ [] := by simp
  obtain ⟨hcreated, hfree⟩ := Disk.create_join hd hname.isName hp hclear hcreate
  have hdcreated : made.AddsNewFiles created := hcreated ▸ hd.trans (Disk.addsNewFiles_put _ _ hq _)
  have hempty : created.node? (p ++ [name]) = some (.file ByteArray.empty) := by
    rw [hcreated, Disk.node?_put_self _ hq]
  have happended := Disk.append_join hdcreated hname.isName hp hempty happend
  rw [ByteArray.empty_append] at happended
  have hfits : Disk.Fits out name := by
    obtain ⟨r, hr, -⟩ := Disk.append_eq_ok happend
    obtain ⟨-, -, -, hfits⟩ := Disk.resolve_name hdcreated.addsFiles hname.isName hr (Or.inr fun q target hq' => by
      rw [Option.some.inj (hq'.symm.trans hp), hempty]
      simp)
    exact hfits
  refine ⟨⟨?_, ?_, ?_, nofun, fun r hr => ?_⟩, hworkDir⟩
  · rw [List.forall_mem_singleton, happended, Disk.node?_put_self _ hq]
  · exact List.forall_mem_singleton.2 hfits
  · exact List.forall_mem_singleton.2 ⟨hfree, hfree⟩
  · obtain ⟨hr, -⟩ := List.forall_mem_singleton.1 hr
    rw [happended, Disk.node?_put_of_ne _ hr, hcreated, Disk.node?_put_of_ne _ hr]

/-- A file that is written into a directory is put there. -/
theorem puts_writeFile (hclear : made.IsClear (p ++ [stagedName atomic name]))
    (h : (writeFile atomic (Path.join out name) content : Session (Except Error Unit)) m = (.ok (), m')) :
    Disk.Puts atomic out p [(name, content)] m.disk m'.disk ∧ m'.workDir = m.workDir := by
  cases atomic with
  | true =>
    have hwritten := writeFile_eq_ok h
    rw [temporaryPath_join hname.isName] at hwritten
    exact puts_writeThenRename hname hd hp hclear hwritten
  | false => exact puts_writeFile_in_place hname hd hp hclear h

end OneFile

/-! ## All artifacts -/

/-- The artifact of a schema: its name and its text. -/
def artifact (s : Schema) : String × String := (s.fileName, text s.toValue)

/-- The artifacts of a catalog in the order in which they are written. -/
def artifacts (schemas : List Schema) : List (String × String) :=
  schemas.map artifact ++ [(Index.fileName, text (Index.toValue ⟨schemas⟩))]

variable {schemas : List Schema}

/-- The artifact of a component without a slash in its name has the name of an artifact. -/
theorem isArtifactName_fileName {s : Schema} (h : '/' ∉ s.component.toList) : Disk.IsArtifactName s.fileName :=
  ⟨Schema.isName_fileName h, s.getLast?_fileName⟩

theorem isArtifactName_index : Disk.IsArtifactName Index.fileName := ⟨isName_index, by decide⟩

/-- No component name comes twice exactly when the names differ from each other and from those before. -/
theorem repeatedName?_eq_none_iff {seen : List String} :
    repeatedName? seen schemas = none ↔
      (schemas.map (·.component)).Nodup ∧ ∀ s ∈ schemas, s.component ∉ seen := by
  induction schemas generalizing seen with
  | nil => simp [repeatedName?]
  | cons s rest ih =>
    rw [repeatedName?]
    split
    · rename_i hseen
      simp only [reduceCtorEq, List.forall_mem_cons, false_iff, not_and]
      exact fun _ hnot => absurd (by simpa using hseen) hnot
    · rename_i hseen
      rw [ih, List.map_cons, List.nodup_cons, List.forall_mem_cons]
      simp only [List.mem_map, List.mem_cons, not_or, not_exists, not_and]
      constructor
      · rintro ⟨hnodup, hrest⟩
        exact ⟨⟨fun t ht => (hrest t ht).1, hnodup⟩, by simpa using hseen, fun t ht => (hrest t ht).2⟩
      · rintro ⟨⟨hne, hnodup⟩, -, hrest⟩
        exact ⟨hnodup, fun t ht => ⟨hne t ht, hrest t ht⟩⟩

/-- The artifacts of schemas are put into the directory, one after the other. -/
theorem puts_writeSchemas (hnames : ∀ s ∈ schemas, Disk.IsArtifactName s.fileName) (hnodup : (schemas.map (·.component)).Nodup)
    (hd : made.AddsNewFiles m.disk) (hp : made.directory? m.workDir out = some p)
    (hclear : ∀ s ∈ schemas, made.IsClear (p ++ [stagedName atomic s.fileName]))
    (h : (writeSchemas atomic out schemas : Session (Except Error Unit)) m = (.ok (), m')) :
    Disk.Puts atomic out p (schemas.map artifact) m.disk m'.disk ∧ m'.workDir = m.workDir := by
  induction schemas generalizing m with
  | nil =>
    obtain ⟨-, rfl⟩ := pure_eq_iff.1 h
    exact ⟨Disk.Puts.nil atomic out p m.disk, rfl⟩
  | cons s rest ih =>
    obtain ⟨hname, hrest⟩ := List.forall_mem_cons.1 hnames
    obtain ⟨hclear₁, hclear₂⟩ := List.forall_mem_cons.1 hclear
    rw [List.map_cons, List.nodup_cons] at hnodup
    obtain ⟨r₁, m₁, h₁, h⟩ := bind_eq_iff.1 h
    cases r₁ with
    | error e => cases (pure_eq_iff.1 h).1
    | ok _ =>
      obtain ⟨_, m₂, h₂, h⟩ := bind_eq_iff.1 h
      obtain ⟨hputs, hworkDir⟩ := puts_writeFile hname hd hp hclear₁ h₁
      have hnote : m₂.disk = m₁.disk ∧ m₂.workDir = m₁.workDir := by
        have hkeeps := keeps_note (.wroteFile (schemaPath out s)) m₁
        rwa [h₂] at hkeeps
      rw [← hnote.1] at hputs
      rw [← hworkDir, ← hnote.2] at hp
      obtain ⟨hmore, hworkDir'⟩ := ih hrest hnodup.2 (hd.trans hputs.addsNewFiles) hp hclear₂ h
      refine ⟨?_, hworkDir'.trans (hnote.2.trans hworkDir)⟩
      refine hputs.append hmore ?_ ?_ ?_
      · exact List.forall_mem_singleton.2 hname
      · exact List.forall_mem_map.2 hrest
      · refine List.forall_mem_singleton.2 (List.forall_mem_map.2 fun t ht heq => hnodup.1 ?_)
        exact List.mem_map.2 ⟨t, ht, (Schema.fileName_inj.1 heq).symm⟩

/-- Where artifacts have been written, their directory has a place. -/
theorem directory?_of_writeSchemas (hnames : ∀ s ∈ schemas, Disk.IsArtifactName s.fileName) (hne : schemas ≠ [])
    (h : (writeSchemas atomic out schemas : Session (Except Error Unit)) m = (.ok (), m')) :
    ∃ p, m.disk.directory? m.workDir out = some p := by
  obtain ⟨s, rest, rfl⟩ := List.exists_cons_of_ne_nil hne
  obtain ⟨r₁, m₁, h₁, h⟩ := bind_eq_iff.1 h
  cases r₁ with
  | error e => cases (pure_eq_iff.1 h).1
  | ok _ => exact directory?_of_writeFile (hnames s List.mem_cons_self).isName h₁

/-- How writing a catalog ends: refused for a name that comes twice before anything is done, refused by one of its parts, or with
all of them done, the directory first and the index last. -/
inductive Ends (atomic : Bool) (out : String) (schemas : List Schema) (m : Machine) : Except Error Summary → Machine → Prop
  | repeated {name : String} (hrepeated : repeatedName? [] schemas = some name) :
      Ends atomic out schemas m (.error (.duplicateComponent name)) m
  | undirected {e : OsError} {m₁ : Machine} (hrepeated : repeatedName? [] schemas = none)
      (hdirs : (Host.makeDirs out : Session (Except OsError Unit)) m = (.error e, m₁)) :
      Ends atomic out schemas m (.error (.createDir out e)) m₁
  | unwritten {e : Error} {m₁ m₂ : Machine} (hrepeated : repeatedName? [] schemas = none)
      (hdirs : (Host.makeDirs out : Session (Except OsError Unit)) m = (.ok (), m₁))
      (hschemas : (writeSchemas atomic out schemas : Session (Except Error Unit)) m₁ = (.error e, m₂)) :
      Ends atomic out schemas m (.error e) m₂
  | unindexed {e : Error} {m₁ m₂ m₃ : Machine} (hrepeated : repeatedName? [] schemas = none)
      (hdirs : (Host.makeDirs out : Session (Except OsError Unit)) m = (.ok (), m₁))
      (hschemas : (writeSchemas atomic out schemas : Session (Except Error Unit)) m₁ = (.ok (), m₂))
      (hindex : (writeFile atomic (indexPath out) (text (Index.toValue ⟨schemas⟩)) : Session (Except Error Unit)) m₂ =
        (.error e, m₃)) :
      Ends atomic out schemas m (.error e) m₃
  | done {m₁ m₂ m₃ m' : Machine} (hrepeated : repeatedName? [] schemas = none)
      (hdirs : (Host.makeDirs out : Session (Except OsError Unit)) m = (.ok (), m₁))
      (hschemas : (writeSchemas atomic out schemas : Session (Except Error Unit)) m₁ = (.ok (), m₂))
      (hindex : (writeFile atomic (indexPath out) (text (Index.toValue ⟨schemas⟩)) : Session (Except Error Unit)) m₂ = (.ok (), m₃))
      (hdisk : m'.disk = m₃.disk) (hworkDir : m'.workDir = m₃.workDir) :
      Ends atomic out schemas m (.ok ⟨out, schemas.map (schemaPath out), indexPath out⟩) m'

/-- Writing a catalog ends in one of these ways. -/
theorem ends_write {result : Except Error Summary}
    (h : (write atomic out schemas : Session (Except Error Summary)) m = (result, m')) : Ends atomic out schemas m result m' := by
  rw [write] at h
  cases hrepeated : repeatedName? [] schemas with
  | some name =>
    rw [hrepeated] at h
    obtain ⟨rfl, rfl⟩ := pure_eq_iff.1 h
    exact .repeated hrepeated
  | none =>
    rw [hrepeated] at h
    obtain ⟨r₁, m₁, h₁, h⟩ := bind_eq_iff.1 h
    cases r₁ with
    | error e =>
      obtain ⟨rfl, rfl⟩ := pure_eq_iff.1 h
      exact .undirected hrepeated h₁
    | ok _ =>
      obtain ⟨r₂, m₂, h₂, h⟩ := bind_eq_iff.1 h
      cases r₂ with
      | error e =>
        obtain ⟨rfl, rfl⟩ := pure_eq_iff.1 h
        exact .unwritten hrepeated h₁ h₂
      | ok _ =>
        obtain ⟨r₃, m₃, h₃, h⟩ := bind_eq_iff.1 h
        cases r₃ with
        | error e =>
          obtain ⟨rfl, rfl⟩ := pure_eq_iff.1 h
          exact .unindexed hrepeated h₁ h₂ h₃
        | ok _ =>
          obtain ⟨_, m₄, h₄, h⟩ := bind_eq_iff.1 h
          obtain ⟨rfl, rfl⟩ := pure_eq_iff.1 h
          have hkeeps := keeps_note (.wroteAll schemas.length out) m₃
          rw [h₄] at hkeeps
          exact .done hrepeated h₁ h₂ h₃ hkeeps.1 hkeeps.2

/-- A catalog that was written is summed up by its paths, and its component names differ. -/
theorem write_eq_ok {summary : Summary} (h : (write atomic out schemas : Session (Except Error Summary)) m = (.ok summary, m')) :
    summary = ⟨out, schemas.map (schemaPath out), indexPath out⟩ ∧ (schemas.map (·.component)).Nodup := by
  cases ends_write h with
  | done hrepeated => exact ⟨rfl, (repeatedName?_eq_none_iff.1 hrepeated).1⟩

/-- Writing a catalog makes directories and puts the artifacts into the one that the output path then leads to, where nothing
stands in the way of the files that are created. -/
theorem puts_write {summary : Summary} (hnames : ∀ s ∈ schemas, Disk.IsArtifactName s.fileName)
    (hindex : ∀ s ∈ schemas, s.fileName ≠ Index.fileName)
    (h : (write atomic out schemas : Session (Except Error Summary)) m = (.ok summary, m')) :
    ∃ made p, m.disk.AddsDirectories made ∧ made.directory? m.workDir out = some p ∧
      (out ≠ "" → made.look? m.workDir out = some .directory) ∧
      ((∀ f ∈ artifacts schemas, made.IsClear (p ++ [stagedName atomic f.1])) →
        Disk.Puts atomic out p (artifacts schemas) made m'.disk ∧ m'.workDir = m.workDir) := by
  cases ends_write h with
  | @done m₁ m₂ m₃ _ hrepeated h₁ h₂ h₃ hdisk hworkDir =>
    have hmade := makesDirectories_makeDirs out m
    rw [h₁] at hmade
    obtain ⟨hmade, hworkDir₁⟩ := hmade
    have hdirectory : ∃ p, m₁.disk.directory? m₁.workDir out = some p := by
      cases schemas with
      | nil =>
        obtain ⟨-, rfl⟩ := pure_eq_iff.1 h₂
        exact directory?_of_writeFile isName_index h₃
      | cons s rest => exact directory?_of_writeSchemas hnames (by nofun) h₂
    obtain ⟨p, hp⟩ := hdirectory
    refine ⟨m₁.disk, p, hmade, hworkDir₁ ▸ hp, fun hne => hworkDir₁ ▸ look?_makeDirs hne h₁, fun hclear => ?_⟩
    obtain ⟨hclearSchemas, hclearIndex⟩ := List.forall_mem_append.1 hclear
    rw [List.forall_mem_map] at hclearSchemas
    rw [List.forall_mem_singleton] at hclearIndex
    obtain ⟨hschemas, hworkDir₂⟩ := puts_writeSchemas hnames (repeatedName?_eq_none_iff.1 hrepeated).1 (Disk.AddsNewFiles.refl _) hp
      hclearSchemas h₂
    rw [← hworkDir₂] at hp
    obtain ⟨hput, hworkDir₃⟩ := puts_writeFile isArtifactName_index hschemas.addsNewFiles hp hclearIndex h₃
    rw [← hdisk] at hput
    refine ⟨hschemas.append hput ?_ ?_ ?_, by rw [hworkDir, hworkDir₃, hworkDir₂, hworkDir₁]⟩
    · exact List.forall_mem_map.2 hnames
    · exact List.forall_mem_singleton.2 isArtifactName_index
    · exact List.forall_mem_map.2 fun s hs => List.forall_mem_singleton.2 (hindex s hs)

/-! ## Refusals -/

/-- A file that was not written is named in the refusal. Its writing went as far as its temporary file, which was then taken away
or left. -/
theorem writeFile_eq_error {path : String} {e : Error}
    (h : (writeFile true path content : Session (Except Error Unit)) m = (.error e, m')) :
    ∃ cause m₁, e = .write path cause ∧
      (writeThenRename (temporaryPath path) path content : Session (Except OsError Unit)) m = (.error cause, m₁) ∧
      (m'.disk = m₁.disk ∨ m₁.disk.remove m₁.workDir (temporaryPath path) = .ok m'.disk) ∧ m'.workDir = m₁.workDir := by
  rw [writeFile, if_pos rfl] at h
  obtain ⟨r₁, m₁, h₁, h⟩ := bind_eq_iff.1 h
  cases r₁ with
  | ok _ => cases (pure_eq_iff.1 h).1
  | error cause =>
    refine ⟨cause, m₁, ?_⟩
    obtain ⟨r₂, m₂, h₂, h⟩ := bind_eq_iff.1 h
    cases r₂ with
    | ok _ =>
      obtain ⟨hrefusal, rfl⟩ := pure_eq_iff.1 h
      obtain ⟨hremove, hworkDir⟩ := change_eq_ok h₂
      exact ⟨(Except.error.inj hrefusal).symm, h₁, Or.inr hremove, hworkDir⟩
    | error e₂ =>
      obtain ⟨_, m₃, hnote, h⟩ := bind_eq_iff.1 h
      obtain ⟨hrefusal, rfl⟩ := pure_eq_iff.1 h
      obtain ⟨hdisk, hworkDir⟩ := change_unbroken_eq_error h₂
      have hkeeps := keeps_note (.leftTemporary (temporaryPath path) e₂) m₂
      rw [hnote] at hkeeps
      exact ⟨(Except.error.inj hrefusal).symm, h₁, Or.inl (hkeeps.1.trans hdisk), hkeeps.2.trans hworkDir⟩

/-- Writing schemas is only refused for a file that could not be written. -/
theorem writeSchemas_eq_error {e : Error}
    (h : (writeSchemas true out schemas : Session (Except Error Unit)) m = (.error e, m')) :
    ∃ path cause, e = .write path cause := by
  induction schemas generalizing m with
  | nil => cases (pure_eq_iff.1 h).1
  | cons s rest ih =>
    obtain ⟨r₁, m₁, h₁, h⟩ := bind_eq_iff.1 h
    cases r₁ with
    | error e₁ =>
      obtain ⟨cause, -, hcause, -⟩ := writeFile_eq_error h₁
      exact ⟨_, cause, (Except.error.inj (pure_eq_iff.1 h).1).symm.trans hcause⟩
    | ok _ =>
      obtain ⟨-, m₂, -, h⟩ := bind_eq_iff.1 h
      exact ih h

/-- Writing names a component that comes twice only where there is one. -/
theorem repeatedName?_of_write {repeated : String}
    (h : (write true out schemas : Session (Except Error Summary)) m = (.error (.duplicateComponent repeated), m')) :
    repeatedName? [] schemas = some repeated := by
  generalize hresult : (.error (.duplicateComponent repeated) : Except Error Summary) = result at h
  cases ends_write h with
  | repeated hrepeated => rw [hrepeated, Error.duplicateComponent.inj (Except.error.inj hresult)]
  | undirected => cases hresult
  | unwritten _ _ hschemas =>
    obtain ⟨path, cause, rfl⟩ := writeSchemas_eq_error hschemas
    cases hresult
  | unindexed _ _ _ hindex =>
    obtain ⟨cause, -, rfl, -⟩ := writeFile_eq_error hindex
    cases hresult
  | done => cases hresult

/-! ## What is read back -/

/-- What is stored is read back from the text of its artifact. -/
theorem read_text {α : Type} [Stored α] {ordered : α → Prop}
    (h : Faithful (Stored.shape α) Stored.toValue Stored.ofValue? ordered) {a : α} (ha : ordered a)
    (hd : (Stored.toValue a).depth ≤ nestingLimit) : Stored.read (text (Stored.toValue a)) = .ok a := by
  have hread := Stored.read_render h ha hd Style.indented_blank ['\n'] (List.forall_mem_singleton.2 rfl)
  rwa [String.ofList_append] at hread

/-- The artifact of a component is read as its schema. -/
theorem read_text_compile (c : Component) : Stored.read (text (Schema.compile c).toValue) = .ok (Schema.compile c) :=
  read_text Schema.faithful (Schema.compile_ordered c) ((Schema.compile_depth_le c).trans (by decide))

/-- The index of components is read as their schemas. -/
theorem ofText_text_compile (components : List Component) :
    Index.ofText (text (Index.compile components).toValue) = .ok (Index.compile components) :=
  Index.ofText_eq_ok_iff.2
    (read_text Index.faithful (Index.compile_ordered components) (Index.compile_depth_le components))

/-- A text is decoded from its own bytes. -/
theorem decode_toUTF8 (s : String) : Host.decode s.toUTF8 = .ok s :=
  Host.decode_eq_ok_iff.2 ((SystemPath.fromUTF8?_eq_some_iff _ s).2 rfl)

/-- The names that the artifacts of schemas have in their directory. -/
def fileNames (schemas : List Schema) : List String := schemas.map (·.fileName) ++ [Index.fileName]

/-- The names are those of the components with `.json` behind, and that of the index. -/
theorem fileNames_eq (schemas : List Schema) :
    fileNames schemas = (schemas.map (·.component)).map (· ++ ".json") ++ [Index.fileName] := by
  rw [fileNames, List.map_map]
  rfl

/-- The second disk is the first one after the artifacts of schemas were written into a directory: the index file is read as the
schemas in their order, the file of each schema is read as that schema, and every place that is neither one of theirs nor that
of a temporary file holds what it held. Paths lead to the files as long as that of the directory leads to a directory. -/
structure Written (outputDir : String) (workDir p : Place) (schemas : List Schema) (before after : Disk) : Prop where
  index : ∃ content text, after.node? (p ++ [Index.fileName]) = some (.file content) ∧ Host.decode content = .ok text ∧
    Index.ofText text = .ok ⟨schemas⟩ ∧
    ((after.directory? workDir outputDir).isSome → after.read workDir (indexPath outputDir) = .ok content)
  schema : ∀ s ∈ schemas, ∃ content text, after.node? (p ++ [s.fileName]) = some (.file content) ∧
    Host.decode content = .ok text ∧ Stored.read text = .ok s ∧
    ((after.directory? workDir outputDir).isSome → after.read workDir (schemaPath outputDir s) = .ok content)
  temporary : ∀ name ∈ fileNames schemas, after.node? (p ++ [temporaryPath name]) = none
  others : ∀ q, (∀ name ∈ fileNames schemas, q ≠ p ++ [name] ∧ q ≠ p ++ [temporaryPath name]) →
    after.node? q = before.node? q

theorem artifacts_map_fst (schemas : List Schema) : (artifacts schemas).map (·.1) = fileNames schemas := by
  rw [artifacts, fileNames, List.map_append, List.map_map]
  rfl

/-- What is said of the names is said of the artifacts. -/
theorem forall_fileNames {schemas : List Schema} {P : String → Prop} :
    (∀ name ∈ fileNames schemas, P name) ↔ ∀ f ∈ artifacts schemas, P f.1 := by
  rw [← artifacts_map_fst, List.forall_mem_map]

/-- All of them are names of artifacts. -/
theorem isArtifactName_of_mem_fileNames (hnames : ∀ s ∈ schemas, '/' ∉ s.component.toList) :
    ∀ name ∈ fileNames schemas, Disk.IsArtifactName name :=
  List.forall_mem_append.2
    ⟨List.forall_mem_map.2 fun s hs => isArtifactName_fileName (hnames s hs), List.forall_mem_singleton.2 isArtifactName_index⟩

/-- The artifacts of compiled schemas that were put into a directory are written there. -/
theorem Written.of_puts {components : List Component} {workDir : Place} {d : Disk} (hschemas : schemas = components.map Schema.compile)
    (hnames : ∀ s ∈ schemas, s.NamesFile) (hp : made.directory? workDir out = some p)
    (h : Disk.Puts true out p (artifacts schemas) made d) : Written out workDir p schemas made d := by
  have hartifacts : ∀ f ∈ artifacts schemas, Disk.IsArtifactName f.1 :=
    forall_fileNames.1 (isArtifactName_of_mem_fileNames fun s hs => (hnames s hs).no_slash)
  have hindex : (Index.fileName, text (Index.toValue ⟨schemas⟩)) ∈ artifacts schemas :=
    List.mem_append_right _ (List.mem_singleton.2 rfl)
  have hschema : ∀ s ∈ schemas, artifact s ∈ artifacts schemas := fun s hs => List.mem_append_left _ (List.mem_map_of_mem hs)
  have hindexText : Index.ofText (text (Index.toValue ⟨schemas⟩)) = .ok ⟨schemas⟩ := by
    rw [hschemas]
    exact ofText_text_compile components
  have hschemaText : ∀ s ∈ schemas, Stored.read (text s.toValue) = .ok s := by
    intro s hs
    rw [hschemas] at hs
    obtain ⟨c, -, rfl⟩ := List.mem_map.1 hs
    exact read_text_compile c
  obtain ⟨hindexNode, hindexRead⟩ := h.read hartifacts hp hindex
  refine ⟨⟨_, _, hindexNode, decode_toUTF8 _, hindexText, hindexRead⟩, fun s hs => ?_, ?_, fun q hq => ?_⟩
  · obtain ⟨hnode, hread⟩ := h.read hartifacts hp (hschema s hs)
    exact ⟨_, _, hnode, decode_toUTF8 _, hschemaText s hs, hread⟩
  · exact forall_fileNames.2 (h.leaves rfl)
  · exact h.others q (forall_fileNames.1 hq)

end Artifact

end RenderCatalog

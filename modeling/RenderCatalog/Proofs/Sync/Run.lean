import RenderCatalog.Proofs.Artifact.Write
import RenderCatalog.Proofs.Source.Scan
import RenderCatalog.Proofs.Sync.Outcomes

/-!
# What a sync has done

A sync that is done accounts for every file of its scan and leaves the artifacts of the schemas that it kept in the output
directory (`run_reported`). What came of a file depends on what was read of it, and that on the machine after the scan: the
files are read one after the other, and whatever else a sync does before it writes does not touch the disk.
-/

namespace RenderCatalog.Sync

open Machine

variable {m m' : Machine}

/-! ## The files of a scan -/

/-- Reading a source changes nothing. -/
theorem keeps_readSource (path : String) : Keeps (Source.readSource path : Session (Except Error String)) :=
  (keeps_readText path).bind fun _ => keeps_pure _

/-- What is read from a source does not depend on the log. -/
theorem ignoresLog_readSource (path : String) : IgnoresLog (Source.readSource path : Session (Except Error String)) :=
  (ignoresLog_readText path).bind fun _ => ignoresLog_pure _

/-- Processing a file is reading it, but for what is put into the log. -/
theorem processFile_eq (patterns : List String) {path : String} {read : Except Error String} {m₁ : Machine}
    (h : (Source.readSource path : Session (Except Error String)) m = (read, m₁)) :
    ∃ events, (processFile patterns path : Session Outcome) m = (outcomeOf patterns path read, { m₁ with events := events }) := by
  cases read with
  | error e =>
    obtain ⟨events, hnote⟩ := note_eq (.unreadable path e) m₁
    exact ⟨events, bind_eq_iff.2 ⟨_, _, h, bind_eq_iff.2 ⟨_, _, hnote, rfl⟩⟩⟩
  | ok source =>
    obtain ⟨events₁, hnotes⟩ := noteAll_eq (Source.extractEvents patterns source path) m₁
    cases hextract : Source.extract patterns source path with
    | error skip =>
      obtain ⟨events₂, hnote⟩ := note_eq (.skipped path skip.text) { m₁ with events := events₁ }
      refine ⟨events₂, bind_eq_iff.2 ⟨_, _, h, bind_eq_iff.2 ⟨_, _, hnotes, ?_⟩⟩⟩
      simp only [outcomeOf, hextract]
      exact bind_eq_iff.2 ⟨_, _, hnote, rfl⟩
    | ok component =>
      obtain ⟨events₂, hnotes'⟩ := noteAll_eq (Schema.compileEvents component) { m₁ with events := events₁ }
      refine ⟨events₂, bind_eq_iff.2 ⟨_, _, h, bind_eq_iff.2 ⟨_, _, hnotes, ?_⟩⟩⟩
      simp only [outcomeOf, hextract]
      exact bind_eq_iff.2 ⟨_, _, hnotes', rfl⟩

/-- Files are read one after the other: what was read of each, and the machine that is left. -/
def readAll (files : List String) : Session (List (Except Error String)) := files.mapM Source.readSource

/-- Processing files one after the other is reading them one after the other, but for what is put into the log. -/
theorem processFiles_eq (patterns files : List String) (m : Machine) (events : List Event) :
    ∃ events', (files.mapM (processFile patterns) : Session (List Outcome)) { m with events := events } =
      (List.zipWith (outcomeOf patterns) files (readAll files m).1, { (readAll files m).2 with events := events' }) := by
  induction files generalizing m events with
  | nil => exact ⟨events, rfl⟩
  | cons path rest ih =>
    obtain ⟨events₁, hread⟩ := ignoresLog_readSource path m events
    obtain ⟨events₂, hfile⟩ := processFile_eq patterns hread
    obtain ⟨events₃, hrest⟩ := ih ((Source.readSource path : Session (Except Error String)) m).2 events₂
    refine ⟨events₃, ?_⟩
    have hall : readAll (path :: rest) m =
        (((Source.readSource path : Session (Except Error String)) m).1 ::
            (readAll rest ((Source.readSource path : Session (Except Error String)) m).2).1,
          (readAll rest ((Source.readSource path : Session (Except Error String)) m).2).2) := by
      rw [readAll, List.mapM_cons]
      rfl
    rw [hall, List.mapM_cons]
    exact bind_eq_iff.2 ⟨_, _, hfile, bind_eq_iff.2 ⟨_, _, hrest, rfl⟩⟩

/-- Every file is read once. -/
theorem length_readAll (files : List String) (m : Machine) : (readAll files m).1.length = files.length := by
  induction files generalizing m with
  | nil => rfl
  | cons path rest ih =>
    rw [readAll, List.mapM_cons]
    exact congrArg (· + 1) (ih _)

/-! ## The run -/

variable {s : SyncSettings} {report : Report}

/-- The scan of a sync. -/
def scanOf (s : SyncSettings) : Source.Scan := { root := s.sourceDir, extensions := s.extensions, recursive := s.recursive }

/-- The schemas that are kept of the files of a scan, read on a machine, and the files that repeat a name. -/
def partedOn (s : SyncSettings) (files : List String) (m : Machine) : List (String × Schema) × List Repetition :=
  parted (Source.exclusions s.exclude) files (readAll files m).1

/-- What is kept of files with an extension names files, and is the schema of a component. -/
theorem namesFile_of_mem_kept {patterns files : List String} {reads : List (Except Error String)}
    (hfiles : ∀ path ∈ files, (Path.extension? path).isSome) :
    ∀ e ∈ (parted patterns files reads).1, e.2.NamesFile ∧ ∃ component, e.2 = Schema.compile component := by
  intro e he
  have hmem := (byName_perm _).subset ((keepFirst_sublist [] _).subset he)
  obtain ⟨hpath, source, component, hextract, heq⟩ := exists_component_of_mem hmem
  rw [heq]
  exact ⟨Schema.namesFile_of_extract (hfiles _ hpath) hextract, component, rfl⟩

/-- The names that are kept differ, so that writing them is never refused for a name that comes twice. -/
theorem repeatedName?_kept (patterns files : List String) (reads : List (Except Error String)) :
    Artifact.repeatedName? [] ((parted patterns files reads).1.map (·.2)) = none := by
  rw [Artifact.repeatedName?_eq_none_iff, List.map_map]
  exact ⟨nodup_keepFirst _, nofun⟩

/-- A sync that is not refused by its scan comes to writing the schemas that it kept, on a disk that is as it was. -/
theorem run_eq {files : List String} {m₁ : Machine} {result : Except Failure Report}
    (hscan : ((scanOf s).run : Session (Except Error (List String))) m = (.ok files, m₁))
    (h : (run s : Session (Except Failure Report)) m = (result, m')) :
    ∃ m₂ written m₃, m₂.disk = m.disk ∧ m₂.workDir = m.workDir ∧
      (Artifact.write true s.outputDir ((partedOn s files m₁).1.map (·.2)) : Session (Except Error Artifact.Summary)) m₂ =
        (written, m₃) ∧
      match written with
      | .error e => (result, m') = (during s!"failed to write schemas to {s.outputDir}" (.error e), m₃)
      | .ok summary => m'.disk = m₃.disk ∧ m'.workDir = m₃.workDir ∧ ∃ milliseconds, result = .ok
          { sourceDir := s.sourceDir
            outputDir := s.outputDir
            indexPath := summary.indexPath
            components := (partedOn s files m₁).1.map fun (path, schema) => writtenOf s.outputDir path schema
            skipped := skippedOf (List.zipWith (outcomeOf (Source.exclusions s.exclude)) files (readAll files m₁).1)
            failed := failedOf (List.zipWith (outcomeOf (Source.exclusions s.exclude)) files (readAll files m₁).1) ++
              (partedOn s files m₁).2.map (·.failed)
            milliseconds := milliseconds } := by
  obtain ⟨start, m₀, h₀, h⟩ := bind_eq_iff.1 h
  obtain rfl : m = m₀ := congrArg Prod.snd h₀
  obtain ⟨scanned, m₁', hscanned, h⟩ := bind_eq_iff.1 h
  obtain ⟨rfl, rfl⟩ := Prod.mk.inj (hscanned.symm.trans hscan)
  obtain ⟨_, m₂, hnote, h⟩ := bind_eq_iff.1 h
  obtain ⟨events, hnoted⟩ := note_eq (.processing files.length s.sourceDir) m₁'
  obtain ⟨-, rfl⟩ := Prod.mk.inj (hnote.symm.trans hnoted)
  obtain ⟨outcomes, m₃, hfiles, h⟩ := bind_eq_iff.1 h
  obtain ⟨events', hprocessed⟩ := processFiles_eq (Source.exclusions s.exclude) files m₁' events
  obtain ⟨rfl, rfl⟩ := Prod.mk.inj (hfiles.symm.trans hprocessed)
  rw [compiledOf_zipWith] at h
  obtain ⟨_, m₄, hnotes, h⟩ := bind_eq_iff.1 h
  obtain ⟨written, m₅, hwrite, h⟩ := bind_eq_iff.1 h
  have hkept : m₄.disk = m.disk ∧ m₄.workDir = m.workDir := by
    have h₁ := Source.keeps_scan (scanOf s) m
    have h₂ := keeps_mapM files keeps_readSource m₁'
    have h₃ := keeps_noteAll ((partedOn s files m₁').2.map (·.event)) { (readAll files m₁').2 with events := events' }
    rw [hscan] at h₁
    have hm₄ : ((Host.noteAll ((partedOn s files m₁').2.map (·.event)) : Session Unit)
        { (readAll files m₁').2 with events := events' }).2 = m₄ := congrArg Prod.snd hnotes
    rw [hm₄] at h₃
    exact ⟨h₃.1.trans (h₂.1.trans h₁.1), h₃.2.trans (h₂.2.trans h₁.2)⟩
  refine ⟨m₄, written, m₅, hkept.1, hkept.2, hwrite, ?_⟩
  cases written with
  | error e => exact Eq.symm h
  | ok summary =>
    obtain ⟨stop, m₆, h₆, h⟩ := bind_eq_iff.1 h
    obtain rfl : m₅ = m₆ := congrArg Prod.snd h₆
    obtain ⟨_, m₇, h₇, h⟩ := bind_eq_iff.1 h
    obtain ⟨hresult, rfl⟩ := pure_eq_iff.1 h
    obtain ⟨events'', hnoted⟩ := note_eq _ m₅
    obtain rfl := congrArg Prod.snd (h₇.symm.trans hnoted)
    exact ⟨rfl, rfl, stop - start, hresult.symm⟩

/-- A sync whose scan was refused is refused for the same cause, and does nothing more. -/
theorem run_eq_of_scan_error {e : Error} {m₁ : Machine} {result : Except Failure Report}
    (hscan : ((scanOf s).run : Session (Except Error (List String))) m = (.error e, m₁))
    (h : (run s : Session (Except Failure Report)) m = (result, m')) :
    (result, m') = (during s!"failed to scan {s.sourceDir}" (.error e), m₁) := by
  obtain ⟨start, m₀, h₀, h⟩ := bind_eq_iff.1 h
  obtain rfl : m = m₀ := congrArg Prod.snd h₀
  obtain ⟨scanned, m₁', hscanned, h⟩ := bind_eq_iff.1 h
  obtain ⟨rfl, rfl⟩ := Prod.mk.inj (hscanned.symm.trans hscan)
  exact Eq.symm h

/-- A failure during a step goes back to the error that struck. -/
theorem error?_of_during {α : Type} {step : String} {e : Error} {f : Failure}
    (h : (.error f : Except Failure α) = during step (.error e)) : f.error? = some e := by
  cases h
  rfl

/-- A sync is never refused for a component name that comes twice. -/
theorem error?_ne_duplicate {f : Failure} (h : (run s : Session (Except Failure Report)) m = (.error f, m')) (name : String) :
    f.error? ≠ some (.duplicateComponent name) := by
  intro hf
  obtain ⟨scanned, m₁, hscan⟩ : ∃ scanned m₁, ((scanOf s).run : Session (Except Error (List String))) m = (scanned, m₁) :=
    ⟨_, _, rfl⟩
  cases scanned with
  | error e =>
    rw [error?_of_during (Prod.mk.inj (run_eq_of_scan_error hscan h)).1] at hf
    rw [Option.some.inj hf] at hscan
    exact Source.scan_ne_duplicate hscan
  | ok files =>
    obtain ⟨m₂, written, m₃, -, -, hwrite, hresult⟩ := run_eq hscan h
    cases written with
    | ok summary =>
      obtain ⟨-, -, _, hok⟩ := hresult
      cases hok
    | error e =>
      rw [error?_of_during (Prod.mk.inj hresult).1] at hf
      rw [Option.some.inj hf] at hwrite
      have hrepeated := Artifact.repeatedName?_of_write hwrite
      rw [partedOn, repeatedName?_kept] at hrepeated
      cases hrepeated

/-- The schemas that a sync keeps name their files, and each is the schema of a component. -/
theorem namesFile_of_mem_partedOn {files : List String} {m₁ : Machine}
    (hscan : ((scanOf s).run : Session (Except Error (List String))) m = (.ok files, m₁)) :
    ∀ e ∈ (partedOn s files m₁).1, e.2.NamesFile ∧ ∃ component, e.2 = Schema.compile component := by
  obtain ⟨listing, -, hfiles⟩ := Source.scan_eq_ok hscan
  exact namesFile_of_mem_kept fun path hpath => Source.isSome_extension?_of_mem_select (hfiles ▸ hpath)

/-- A sync that is done has written the schemas that it kept into the directory that the output path leads to once it is made. -/
theorem written_of_run {files : List String} {m₁ : Machine}
    (hscan : ((scanOf s).run : Session (Except Error (List String))) m = (.ok files, m₁))
    (h : (run s : Session (Except Failure Report)) m = (.ok report, m')) :
    ∃ made p, m.disk.AddsDirectories made ∧ made.directory? m.workDir s.outputDir = some p ∧
      (∀ q, m.disk.directory? m.workDir s.outputDir = some q → q = p) ∧
      ((∀ name ∈ Artifact.fileNames ((partedOn s files m₁).1.map (·.2)),
          m.disk.IsClear (p ++ [Artifact.temporaryPath name])) →
        Artifact.Written s.outputDir m'.workDir p ((partedOn s files m₁).1.map (·.2)) made m'.disk) := by
  obtain ⟨m₂, written, m₃, hdisk, hworkDir, hwrite, hresult⟩ := run_eq hscan h
  cases written with
  | error e => cases hresult
  | ok summary =>
    obtain ⟨hdisk', hworkDir', -⟩ := hresult
    have hkept := namesFile_of_mem_partedOn hscan
    have hnames : ∀ schema ∈ (partedOn s files m₁).1.map (·.2), schema.NamesFile :=
      List.forall_mem_map.2 fun e he => (hkept e he).1
    obtain ⟨made, p, hmade, hp, -, hputs⟩ := Artifact.puts_write
      (fun schema hschema => Artifact.isArtifactName_fileName (hnames schema hschema).no_slash)
      (fun schema hschema => (hnames schema hschema).ne_index) hwrite
    rw [hdisk] at hmade
    rw [hworkDir] at hp hputs
    refine ⟨made, p, hmade, hp, fun q hq => ?_, fun hclear => ?_⟩
    · exact Option.some.inj ((Disk.directory?_of_addsFiles hmade.addsFiles hq).symm.trans hp)
    · have hcompiled : (partedOn s files m₁).1.map (·.2) ∈ Set.range (List.map Schema.compile) := by
        rw [Set.range_list_map]
        refine List.forall_mem_map.2 fun e he => ?_
        obtain ⟨component, hcomponent⟩ := (hkept e he).2
        exact ⟨component, hcomponent.symm⟩
      obtain ⟨components, hcomponents⟩ := hcompiled
      obtain ⟨hputs', hworkDir₃⟩ := hputs (Artifact.forall_fileNames.1 fun name hname => hmade.isClear (hclear name hname))
      rw [hdisk', hworkDir', hworkDir₃]
      exact Artifact.Written.of_puts hcomponents.symm hnames hp hputs'

/-- What a sync that is done reports is so, on every machine and however its steps are struck: it accounts for the files that
its scan found, none of which is found twice on a sound disk, and the directories that it made apart the only places that have
changed are those of the artifacts and of their temporary names, in the directory that the output path leads to once it is
made. There every artifact is read as the schema that was kept, and the index as all of them. For this the temporary names have to be
clear, because a file would be created behind a link under one, and cut under the other names that it has. A component name that comes
twice is never what a sync is refused for. -/
theorem run_reported (s : SyncSettings) (m : Machine) :
    (∀ f m' name, (run s : Session (Except Failure Report)) m = (.error f, m') →
      f.error? ≠ some (.duplicateComponent name)) ∧
    ∀ report m', (run s : Session (Except Failure Report)) m = (.ok report, m') → ∃ files m₁ kept made p,
      ((scanOf s).run : Session (Except Error (List String))) m = (.ok files, m₁) ∧
      (m.disk.Sound → files.Nodup) ∧
      report.Accounts (Source.exclusions s.exclude) files (readAll files m₁).1 kept ∧
      report.outputDir = s.outputDir ∧ report.indexPath = Artifact.indexPath s.outputDir ∧
      m.disk.AddsDirectories made ∧ made.directory? m.workDir s.outputDir = some p ∧
      (∀ q, m.disk.directory? m.workDir s.outputDir = some q → q = p) ∧
      ((∀ name ∈ Artifact.fileNames (kept.map (·.2)), m.disk.IsClear (p ++ [Artifact.temporaryPath name])) →
        Artifact.Written s.outputDir m'.workDir p (kept.map (·.2)) made m'.disk) := by
  refine ⟨fun f m' name h => error?_ne_duplicate h name, fun report m' h => ?_⟩
  obtain ⟨scanned, m₁, hscan⟩ : ∃ scanned m₁, ((scanOf s).run : Session (Except Error (List String))) m = (scanned, m₁) :=
    ⟨_, _, rfl⟩
  cases scanned with
  | error e => cases run_eq_of_scan_error hscan h
  | ok files =>
    obtain ⟨made, p, hmade, hp, hplace, hwritten⟩ := written_of_run hscan h
    obtain ⟨m₂, written, m₃, -, -, hwrite, hresult⟩ := run_eq hscan h
    cases written with
    | error e => cases hresult
    | ok summary =>
      obtain ⟨-, -, milliseconds, hreport⟩ := hresult
      obtain rfl := Except.ok.inj hreport
      obtain ⟨listing, hlisting, hfiles⟩ := Source.scan_eq_ok hscan
      refine ⟨files, m₁, (partedOn s files m₁).1, made, p, hscan, fun hsound => ?_, ?_, rfl, ?_, hmade, hp, hplace, hwritten⟩
      · rw [hfiles]
        exact Source.nodup_select (Source.listed_of_below hsound hlisting)
      · exact Report.Accounts.of_parted (length_readAll files m₁) rfl rfl rfl
      · rw [(Artifact.write_eq_ok hwrite).1]

/-- A machine with one source, and an output directory that holds a note and the artifact of an earlier sync. -/
def cardMachine : Machine :=
  { disk := ⟨[(["src"], .directory), (["src", "card.tsx"], .file "export function Card(\x7b title \x7d) \x7b\x7d".toUTF8),
      (["out"], .directory), (["out", "note"], .file "keep".toUTF8), (["out", "Card.json"], .file ByteArray.empty)]⟩ }

/-- The settings for a sync on that machine. -/
def cardSettings : SyncSettings := { sourceDir := "src", outputDir := "out" }

/-- A sync with its result and the machine that is left. -/
def ranOn (s : SyncSettings) (m : Machine) : Except Failure Report × Machine := (run s : Session (Except Failure Report)) m

/-- A report that was computed is what the sync gives. -/
theorem exists_report {α : Type} {f : Report → α} {a : α} (h : (ranOn s m).1.toOption.map f = some a) :
    ∃ report, (run s : Session (Except Failure Report)) m = (.ok report, (ranOn s m).2) ∧ f report = a := by
  obtain ⟨report, hreport, ha⟩ := Option.map_eq_some_iff.1 h
  exact ⟨report, Prod.ext (toOption_eq_some_iff.1 hreport) rfl, ha⟩

/-- A note in the output directory is kept, the old artifact is replaced, and a sync without sources is refused for that. -/
theorem run_cardMachine :
    (∃ f m', (run {} : Session (Except Failure Report)) {} = (.error f, m') ∧
      f.error? ≠ some (.duplicateComponent "Card")) ∧
    ∃ report m' files m₁ kept made, (run cardSettings : Session (Except Failure Report)) cardMachine = (.ok report, m') ∧
      report.components.map (·.component) = ["Card"] ∧ cardMachine.disk.Sound ∧ files.Nodup ∧
      report.Accounts (Source.exclusions cardSettings.exclude) files (readAll files m₁).1 kept ∧
      (∀ name ∈ Artifact.fileNames (kept.map (·.2)), cardMachine.disk.IsClear (["out"] ++ [Artifact.temporaryPath name])) ∧
      Artifact.Written "out" m'.workDir ["out"] (kept.map (·.2)) made m'.disk := by
  refine ⟨?_, ?_⟩
  · have hrun : (ranOn {} {}).1.toOption.isNone := by decide +kernel
    cases hresult : (ranOn {} {}).1 with
    | ok report =>
      rw [hresult] at hrun
      cases hrun
    | error f =>
      have h : (run {} : Session (Except Failure Report)) {} = (.error f, (ranOn {} {}).2) := Prod.ext hresult rfl
      exact ⟨f, _, h, (run_reported {} {}).1 f _ "Card" h⟩
  · have hrun : (ranOn cardSettings cardMachine).1.toOption.map (·.components.map (·.component)) = some ["Card"] := by
      decide +kernel
    obtain ⟨report, h, hcomponents⟩ := exists_report hrun
    have hsound : cardMachine.disk.Sound := by decide +kernel
    obtain ⟨files, m₁, kept, made, p, hscan, hnodup, haccounts, -, -, -, -, hp, hwritten⟩ :=
      (run_reported cardSettings cardMachine).2 report _ h
    obtain rfl : ["out"] = p := hp _ (by decide +kernel)
    have hnames : kept.map (·.2.component) = ["Card"] := by
      rw [← hcomponents, haccounts.components, List.map_map]
      rfl
    have hfileNames : Artifact.fileNames (kept.map (·.2)) = ["Card.json", "index.json"] := by
      have hmap : (kept.map (·.2)).map (·.fileName) = (kept.map (·.2.component)).map (· ++ ".json") := by
        rw [List.map_map, List.map_map]
        rfl
      rw [Artifact.fileNames, hmap, hnames]
      rfl
    have hclear : ∀ name ∈ Artifact.fileNames (kept.map (·.2)),
        cardMachine.disk.IsClear (["out"] ++ [Artifact.temporaryPath name]) := by
      have hnone : ∀ name ∈ ["Card.json", "index.json"],
          (cardMachine.disk.node? (["out"] ++ [Artifact.temporaryPath name])).isNone := by
        decide +kernel
      rw [hfileNames]
      exact fun name hname => Disk.isClear_of_none (Option.isNone_iff_eq_none.1 (hnone name hname))
    exact ⟨report, _, files, m₁, kept, made, h, hcomponents, hsound, hnodup hsound, haccounts, hclear, hwritten hclear⟩

/-- A machine without sources, and a link to a note under the temporary name of the index. -/
def linkedMachine : Machine :=
  { disk := ⟨[(["src"], .directory), (["out"], .directory), (["out", "note"], .file "keep".toUTF8),
      (["out", "index.json.tmp"], .link "note")]⟩ }

/-- A machine without sources, where a note has the temporary name of the index as well. -/
def sharedMachine : Machine :=
  { disk := ⟨[(["src"], .directory), (["out"], .directory), (["out", "note"], .file "keep".toUTF8 (some 0)),
      (["out", "index.json.tmp"], .file "keep".toUTF8 (some 0))]⟩ }

/-- A note was overwritten by a sync that is done. -/
theorem exists_lost (hrun : (ranOn s m).1.toOption.map (fun report => (report.components.map (·.file), report.indexPath)) =
      some ([], "out/index.json"))
    (hbefore : (m.disk.read m.workDir "out/note").toOption = some "keep".toUTF8)
    (hafter : ((ranOn s m).2.disk.read (ranOn s m).2.workDir "out/note").toOption ≠ some "keep".toUTF8) :
    ∃ report m', (run s : Session (Except Failure Report)) m = (.ok report, m') ∧
      report.components.map (·.file) = [] ∧ report.indexPath = "out/index.json" ∧
      m.disk.read m.workDir "out/note" = .ok "keep".toUTF8 ∧ m'.disk.read m'.workDir "out/note" ≠ .ok "keep".toUTF8 := by
  obtain ⟨report, h, hreport⟩ := exists_report hrun
  obtain ⟨hfiles, hindex⟩ := Prod.mk.inj hreport
  exact ⟨report, _, h, hfiles, hindex, toOption_eq_some_iff.1 hbefore, fun hread => hafter (toOption_eq_some_iff.2 hread)⟩

/-- Where a temporary name is a link, what is written goes where the link leads, and where it is one more name of a file, it goes into
that file: a file is lost that no sync may touch. -/
theorem run_linkedMachine :
    ("note" ≠ Index.fileName ∧ "note" ≠ Artifact.temporaryPath Index.fileName) ∧
    (∃ report m', (run cardSettings : Session (Except Failure Report)) linkedMachine = (.ok report, m') ∧
      report.components.map (·.file) = [] ∧ report.indexPath = "out/index.json" ∧
      linkedMachine.disk.read linkedMachine.workDir "out/note" = .ok "keep".toUTF8 ∧
      m'.disk.read m'.workDir "out/note" ≠ .ok "keep".toUTF8) ∧
    ∃ report m', (run cardSettings : Session (Except Failure Report)) sharedMachine = (.ok report, m') ∧
      report.components.map (·.file) = [] ∧ report.indexPath = "out/index.json" ∧
      sharedMachine.disk.read sharedMachine.workDir "out/note" = .ok "keep".toUTF8 ∧
      m'.disk.read m'.workDir "out/note" ≠ .ok "keep".toUTF8 := by
  refine ⟨by decide +kernel, ?_, ?_⟩
  · exact exists_lost (by decide +kernel) (by decide +kernel) (by decide +kernel)
  · exact exists_lost (by decide +kernel) (by decide +kernel) (by decide +kernel)

end RenderCatalog.Sync

import RenderCatalog.Proofs.Artifact.Spared
import RenderCatalog.Proofs.Sync.Run

/-!
# What a refused sync leaves on the disk

A sync that its scan refuses has not touched the disk. Any other refusal comes from writing, and whichever step of it failed, the
artifacts that were there are spared (`run_refused`). What a temporary name leads to elsewhere is not: behind a link under one, or
in a file that has one and another name, the index itself can be overwritten (`run_aliasedMachine`).
-/

namespace RenderCatalog.Sync

variable {m m' : Machine} {s : SyncSettings}

/-- A sync that is refused by its scan leaves the disk as it is, and one that is refused by writing, on every machine and
whichever of its steps are struck, spares the artifacts in the directory that the output path leads to once it is made: its index,
the files of the schemas that it kept, and whatever else is there. If there is no such directory only directories were made. As in
a sync that is done, the temporary names have to be clear. -/
theorem run_refused {f : Failure} (h : (run s : Session (Except Failure Report)) m = (.error f, m')) :
    (∃ e m₁, ((scanOf s).run : Session (Except Error (List String))) m = (.error e, m₁) ∧ m'.disk = m.disk) ∨
    ∃ files m₁ made,
      ((scanOf s).run : Session (Except Error (List String))) m = (.ok files, m₁) ∧ m.disk.AddsDirectories made ∧
      (made.directory? m.workDir s.outputDir = none → ∀ q, m.disk.Stays m'.disk q) ∧
      ∀ p, made.directory? m.workDir s.outputDir = some p →
        (∀ q, m.disk.directory? m.workDir s.outputDir = some q → q = p) ∧
        ((∀ name ∈ Artifact.fileNames ((partedOn s files m₁).1.map (·.2)),
            m.disk.IsClear (p ++ [Artifact.temporaryPath name])) →
          Artifact.Spared s.outputDir m'.workDir p ((partedOn s files m₁).1.map (·.2)) m.disk m'.disk) := by
  obtain ⟨scanned, m₁, hscan⟩ : ∃ scanned m₁, ((scanOf s).run : Session (Except Error (List String))) m = (scanned, m₁) :=
    ⟨_, _, rfl⟩
  cases scanned with
  | error e =>
    obtain ⟨-, rfl⟩ := Prod.mk.inj (run_eq_of_scan_error hscan h)
    have hkeeps := Source.keeps_scan (scanOf s) m
    rw [hscan] at hkeeps
    exact Or.inl ⟨e, _, hscan, hkeeps.1⟩
  | ok files =>
    obtain ⟨m₂, written, m₃, hdisk, hworkDir, hwrite, hresult⟩ := run_eq hscan h
    cases written with
    | ok summary =>
      obtain ⟨-, -, _, hok⟩ := hresult
      cases hok
    | error e =>
      obtain ⟨-, rfl⟩ := Prod.mk.inj hresult
      have hnames : ∀ schema ∈ (partedOn s files m₁).1.map (·.2), schema.NamesFile :=
        List.forall_mem_map.2 fun e he => (namesFile_of_mem_partedOn hscan e he).1
      have hnodup := (Artifact.repeatedName?_eq_none_iff.1 (repeatedName?_kept (Source.exclusions s.exclude) files
        (readAll files m₁).1)).1
      obtain ⟨made, hmade, hspares⟩ := Artifact.spares_write hnames hwrite
      rw [hdisk] at hmade
      rw [hworkDir] at hspares
      refine Or.inr ⟨files, m₁, made, hscan, hmade, fun hnone q => ?_, fun p hp => ⟨fun q hq => ?_, fun hclear => ?_⟩⟩
      · obtain ⟨hspares, -⟩ := hspares fun p hp => by
          rw [hnone] at hp
          cases hp
        rcases hspares q with hsame | ⟨p, hp, -⟩
        · rw [Disk.Stays, hsame]
          exact hmade q
        · rw [hnone] at hp
          cases hp
      · exact Option.some.inj ((Disk.directory?_of_addsFiles hmade.addsFiles hq).symm.trans hp)
      · obtain ⟨hspares, hworkDir'⟩ := hspares fun r hr name hname => by
          rw [Option.some.inj (hr.symm.trans hp)]
          exact hmade.isClear (hclear name hname)
        rw [hp] at hspares
        rw [hworkDir']
        exact Artifact.Spared.of_spares hnames hmade hspares hnodup hp

/-- A sync that was computed and gave no report has failed. -/
theorem exists_failure (h : (ranOn s m).1.toOption.isNone) :
    ∃ f, (run s : Session (Except Failure Report)) m = (.error f, (ranOn s m).2) := by
  cases hresult : (ranOn s m).1 with
  | ok report =>
    rw [hresult] at h
    cases h
  | error f => exact ⟨f, Prod.ext hresult rfl⟩

/-- A machine with the artifacts of an earlier sync, whose disk is full when four bytes of the new index have been written. -/
def fullMachine : Machine :=
  { disk := ⟨[(["src"], .directory), (["src", "card.tsx"], .file "export function Card(\x7b title \x7d) \x7b\x7d".toUTF8),
      (["out"], .directory), (["out", "index.json"], .file "old".toUTF8), (["out", "Card.json"], .file "old".toUTF8)]⟩
    trouble? := fun step => if step = 8 then some ⟨.other "No space left on device (os error 28)", 4⟩ else none }

/-- The schema was replaced as a whole by then, and the index is the old one. -/
theorem run_fullMachine :
    ∃ f m' kept, (run cardSettings : Session (Except Failure Report)) fullMachine = (.error f, m') ∧
      kept.map (·.component) = ["Card"] ∧
      (∀ name ∈ Artifact.fileNames kept, fullMachine.disk.IsClear (["out"] ++ [Artifact.temporaryPath name])) ∧
      Artifact.Spared "out" m'.workDir ["out"] kept fullMachine.disk m'.disk ∧
      m'.disk.read m'.workDir "out/index.json" = .ok "old".toUTF8 ∧
      m'.disk.read m'.workDir "out/Card.json" ≠ .ok "old".toUTF8 := by
  have hrefused : (ranOn cardSettings fullMachine).1.toOption.isNone := by decide +kernel
  obtain ⟨f, h⟩ := exists_failure hrefused
  rcases run_refused h with ⟨e, m₁, hscan, -⟩ | ⟨files, m₁, made, hscan, hmade, -, hspared⟩
  · have hok : (((scanOf cardSettings).run : Session (Except Error (List String))) fullMachine).1.toOption.isSome := by
      decide +kernel
    rw [hscan] at hok
    cases hok
  · have hfiles : (((scanOf cardSettings).run : Session (Except Error (List String))) fullMachine).1.toOption =
        some ["src/card.tsx"] := by
      decide +kernel
    have hnames : ((partedOn cardSettings ["src/card.tsx"]
        (((scanOf cardSettings).run : Session (Except Error (List String))) fullMachine).2).1.map (·.2)).map (·.component) =
          ["Card"] := by
      decide +kernel
    rw [hscan] at hfiles hnames
    obtain rfl := Option.some.inj hfiles
    have hdirectory : fullMachine.disk.directory? fullMachine.workDir "out" = some ["out"] := by decide +kernel
    obtain ⟨-, hspared⟩ := hspared ["out"] (Disk.directory?_of_addsFiles hmade.addsFiles hdirectory)
    have hclear : ∀ name ∈ Artifact.fileNames ((partedOn cardSettings ["src/card.tsx"] m₁).1.map (·.2)),
        fullMachine.disk.IsClear (["out"] ++ [Artifact.temporaryPath name]) := by
      have hnone : ∀ name ∈ ["Card.json", "index.json"],
          (fullMachine.disk.node? (["out"] ++ [Artifact.temporaryPath name])).isNone := by
        decide +kernel
      rw [Artifact.fileNames_eq, hnames]
      exact fun name hname => Disk.isClear_of_none (Option.isNone_iff_eq_none.1 (hnone name hname))
    have hleft := hspared hclear
    have hstays : ((ranOn cardSettings fullMachine).2.disk.directory? (ranOn cardSettings fullMachine).2.workDir "out").isSome := by
      decide +kernel
    have hread : (fullMachine.disk.read (ranOn cardSettings fullMachine).2.workDir "out/index.json").toOption =
        some "old".toUTF8 := by
      decide +kernel
    have hcard : ((ranOn cardSettings fullMachine).2.disk.read (ranOn cardSettings fullMachine).2.workDir
        "out/Card.json").toOption.map (·.data.toList.head?) ≠ some ("old".toUTF8.data.toList.head?) := by
      decide +kernel
    exact ⟨f, _, _, h, hnames, hclear, hleft, (hleft.readIndex hstays _ ⟨⟨none, rfl⟩, toOption_eq_some_iff.1 hread⟩).2,
      fun hold => hcard (by rw [hold]; rfl)⟩

/-- A machine with a source and the index of an earlier sync, on which the temporary name of the source's schema is a link to that
index, and that of the new index is a directory. -/
def aliasedMachine : Machine :=
  { disk := ⟨[(["src"], .directory), (["src", "card.tsx"], .file "export function Card(\x7b title \x7d) \x7b\x7d".toUTF8),
      (["out"], .directory), (["out", "index.json"], .file "old".toUTF8), (["out", "Card.json.tmp"], .link "index.json"),
      (["out", "index.json.tmp"], .directory)]⟩ }

/-- A machine with a source and the index of an earlier sync, which has the temporary name of the index as well. The new index is written
there, and then the disk fails to keep it. -/
def twinMachine : Machine :=
  { disk := ⟨[(["src"], .directory), (["src", "card.tsx"], .file "export function Card(\x7b title \x7d) \x7b\x7d".toUTF8),
      (["out"], .directory), (["out", "index.json"], .file "old".toUTF8 (some 0)),
      (["out", "index.json.tmp"], .file "old".toUTF8 (some 0))]⟩
    trouble? := fun step => if step = 9 then some ⟨.other "Input/output error (os error 5)", 0⟩ else none }

/-- An index was overwritten by a sync that was refused. -/
theorem exists_overwritten (hrefused : (ranOn s m).1.toOption.isNone)
    (hbefore : (m.disk.read m.workDir "out/index.json").toOption = some "old".toUTF8)
    (hafter : ((ranOn s m).2.disk.read (ranOn s m).2.workDir "out/index.json").toOption.map (·.data.toList.head?) ≠
      some ("old".toUTF8.data.toList.head?)) :
    ∃ f m', (run s : Session (Except Failure Report)) m = (.error f, m') ∧
      m.disk.read m.workDir "out/index.json" = .ok "old".toUTF8 ∧ m'.disk.read m'.workDir "out/index.json" ≠ .ok "old".toUTF8 := by
  obtain ⟨f, h⟩ := exists_failure hrefused
  exact ⟨f, _, h, toOption_eq_some_iff.1 hbefore, fun hold => hafter (by rw [hold]; rfl)⟩

/-- A schema is written into the old index where its temporary name is a link to that, and the new index is where its temporary name is
one more name of the old one; and then the sync is refused. -/
theorem run_aliasedMachine :
    (∃ f m', (run cardSettings : Session (Except Failure Report)) aliasedMachine = (.error f, m') ∧
      aliasedMachine.disk.read aliasedMachine.workDir "out/index.json" = .ok "old".toUTF8 ∧
      m'.disk.read m'.workDir "out/index.json" ≠ .ok "old".toUTF8) ∧
    ∃ f m', (run cardSettings : Session (Except Failure Report)) twinMachine = (.error f, m') ∧
      twinMachine.disk.read twinMachine.workDir "out/index.json" = .ok "old".toUTF8 ∧
      m'.disk.read m'.workDir "out/index.json" ≠ .ok "old".toUTF8 := by
  -- comparing the first bytes spares the whole texts
  exact ⟨exists_overwritten (by decide +kernel) (by decide +kernel) (by decide +kernel),
    exists_overwritten (by decide +kernel) (by decide +kernel) (by decide +kernel)⟩

end RenderCatalog.Sync

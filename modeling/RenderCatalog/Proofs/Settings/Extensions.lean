import RenderCatalog.Proofs.Settings.Excerpt
import RenderCatalog.Proofs.Source.Listing
import RenderCatalog.Proofs.Sync.Run

/-!
# Configured extensions and the files they find

Settings are checked before a scan is made of them, and the check lets no extension through that is nothing but points. A name
that ends in an extension which has passed the check is found by the scan when there is no point inside that extension
(`Sync.scan_finds`). The scan looks at the last extension of a name only, so of an extension with points inside only the last part
counts: `d.ts` passes the check and finds nothing, unless `ts` is configured as well (`Sync.scan_innerPoint`).
-/

namespace RenderCatalog

namespace Settings

variable {text e : String} {settings : Settings} {word : List Char}

/-- The name of a file that ends in a configured extension. -/
def sourceName (word : List Char) (e : String) : String := String.ofList (word ++ '.' :: bareExtension e)

/-- Settings that are read have passed the check. -/
theorem usable_of_ofToml (h : ofToml text = .ok settings) (x : Setting) : x.Usable settings := by
  unfold ofToml at h
  cases hread : read? text with
  | none =>
    rw [hread] at h
    cases h
  | some s =>
    rw [hread] at h
    obtain ⟨_, hcheck, hs⟩ := bind_eq_ok.1 h
    obtain rfl := Except.ok.inj hs
    exact (check_eq_ok_iff s).1 hcheck x

/-- The scan of settings that were read accepts a name for the last part of the extension that the name ends in. -/
theorem accepts_sourceName_iff (h : ofToml text = .ok settings) (hword : word ≠ []) :
    (Sync.scanOf settings.sync).Accepts (sourceName word e) ↔ ∃ x ∈ settings.sync.extensions,
      Text.lowercase (bareExtension x) = Text.lowercase (Path.lastPart (bareExtension e)) := by
  unfold Source.Scan.Accepts sourceName
  simp only [String.toList_ofList, Path.hasExtension_append_iff hword, exists_eq_left]
  constructor
  · rintro ⟨-, x, hx, heq⟩
    exact ⟨x, hx, heq.symm⟩
  · rintro ⟨x, hx, heq⟩
    -- An empty last part stands for no configured extension, since none of them is empty.
    have hbare : bareExtension x ≠ [] := (usable_of_ofToml h .extensions).2 x hx
    refine ⟨fun hempty => hbare (Text.lowercase_eq_nil_iff.1 ?_), x, hx, heq.symm⟩
    rw [heq, hempty]
    rfl

end Settings

namespace Sync

open Machine

variable {text e : String} {settings : Settings} {word : List Char} {m : Machine} {p : Place} {content : ByteArray} {number? : Option Nat}

/-- A file in the source directory whose name ends in a configured extension is found when the last part of that extension is
configured, and so always when there is no point inside it. -/
theorem scan_finds (hread : Settings.ofToml text = .ok settings) (he : e ∈ settings.sync.extensions) (hword : word ≠ [])
    (htree : m.disk.IsTree) (hp : m.disk.resolve .target m.workDir settings.sync.sourceDir = .ok p)
    (hnode : m.disk.node? p = some .directory)
    (hfile : m.disk.node? (p ++ [Settings.sourceName word e]) = some (.file content number?)) :
    (∀ files m', ((scanOf settings.sync).run : Session (Except Error (List String))) m = (.ok files, m') →
      (Path.join settings.sync.sourceDir (Settings.sourceName word e) ∈ files ↔ ∃ x ∈ settings.sync.extensions,
        Text.lowercase (Settings.bareExtension x) = Text.lowercase (Path.lastPart (Settings.bareExtension e)))) ∧
    ('.' ∉ Settings.bareExtension e →
      (∀ files m', ((scanOf settings.sync).run : Session (Except Error (List String))) m = (.ok files, m') →
        Path.join settings.sync.sourceDir (Settings.sourceName word e) ∈ files) ∧
      (m.trouble? m.steps = none →
        (settings.sync.recursive = true → ∀ names, m.disk.node? (p ++ names) = some .directory →
          Disk.isTooLong (Path.below settings.sync.sourceDir names) = false) →
        ∃ files m', ((scanOf settings.sync).run : Session (Except Error (List String))) m = (.ok files, m') ∧
          Path.join settings.sync.sourceDir (Settings.sourceName word e) ∈ files)) := by
  have hfound : Path.join settings.sync.sourceDir (Settings.sourceName word e) ∈
      (scanOf settings.sync).select (m.disk.below p) ↔ ∃ x ∈ settings.sync.extensions,
        Text.lowercase (Settings.bareExtension x) = Text.lowercase (Path.lastPart (Settings.bareExtension e)) :=
    (Source.mem_select_file_iff htree hfile).trans (Settings.accepts_sourceName_iff hread hword)
  have hselected : ∀ {files m'}, ((scanOf settings.sync).run : Session (Except Error (List String))) m = (.ok files, m') →
      files = (scanOf settings.sync).select (m.disk.below p) := by
    intro files m' hrun
    obtain ⟨p', hp', -, rfl⟩ := Source.run_eq_ok hrun
    obtain rfl : p = p' := Except.ok.inj (hp.symm.trans hp')
    rfl
  refine ⟨?_, fun hpoint => ?_⟩
  · intro files m' hrun
    rw [hselected hrun]
    exact hfound
  · have hmem := hfound.2 ⟨e, he, by rw [Path.lastPart_of_not_mem hpoint]⟩
    refine ⟨fun files m' hrun => ?_, fun hstruck hshort => ?_⟩
    · rw [hselected hrun]
      exact hmem
    · obtain ⟨m', hrun⟩ := Source.exists_run (s := scanOf settings.sync) htree.toSound hp hnode hstruck hshort
      exact ⟨_, m', hrun, hmem⟩

/-- Settings for sources with capital letters in their extension. -/
def capitalText : String := "[sync]\nsource_dir = \"src\"\nextensions = [\".TSX\"]\n"

/-- A machine with such a source. -/
def capitalMachine : Machine := { disk := ⟨[(["src"], .directory), (["src", "weather.TSX"], .file ByteArray.empty)]⟩ }

set_option maxRecDepth 10000 in
theorem scan_finds_capital :
    ∃ settings, Settings.ofToml capitalText = .ok settings ∧ ".TSX" ∈ settings.sync.extensions ∧ "weather".toList ≠ [] ∧
      capitalMachine.disk.IsTree ∧ capitalMachine.disk.resolve .target capitalMachine.workDir settings.sync.sourceDir = .ok ["src"] ∧
      capitalMachine.disk.node? (["src"] ++ [Settings.sourceName "weather".toList ".TSX"]) = some (.file ByteArray.empty) ∧
      '.' ∉ Settings.bareExtension ".TSX" ∧
      ∃ files m', ((scanOf settings.sync).run : Session (Except Error (List String))) capitalMachine = (.ok files, m') ∧
        Path.join settings.sync.sourceDir (Settings.sourceName "weather".toList ".TSX") ∈ files := by
  have hread : Settings.ofToml capitalText = .ok { sync := { sourceDir := "src", extensions := [".TSX"] } } :=
    toOption_eq_some_iff.1 (by decide +kernel)
  have htree : capitalMachine.disk.IsTree := ⟨by decide, by decide⟩
  have hpoint : '.' ∉ Settings.bareExtension ".TSX" := by decide
  have hfinds := scan_finds hread (List.mem_singleton.2 rfl) (by decide : "weather".toList ≠ []) htree (p := ["src"]) rfl rfl rfl
  exact ⟨_, hread, List.mem_singleton.2 rfl, by decide, htree, rfl, rfl, hpoint, (hfinds.2 hpoint).2 rfl nofun⟩

/-- Settings with a point inside an extension. -/
def pointText : String := "[sync]\nsource_dir = \"src\"\nextensions = [\"d.ts\"]\n"

/-- A machine with a file whose name ends in that extension. -/
def pointMachine : Machine := { disk := ⟨[(["src"], .directory), (["src", "weather.d.ts"], .file ByteArray.empty)]⟩ }

set_option maxRecDepth 10000 in
/-- An extension with a point inside passes the check, and the file whose name ends in it is not found. -/
theorem scan_innerPoint :
    ∃ settings, Settings.ofToml pointText = .ok settings ∧ "d.ts" ∈ settings.sync.extensions ∧
      (∀ c ∈ Settings.bareExtension "d.ts", Text.isPlain c = true ∧ c ≠ '/') ∧
      pointMachine.disk.IsTree ∧ pointMachine.disk.resolve .target pointMachine.workDir settings.sync.sourceDir = .ok ["src"] ∧
      pointMachine.disk.node? (["src"] ++ [Settings.sourceName "weather".toList "d.ts"]) = some (.file ByteArray.empty) ∧
      ∃ files m', ((scanOf settings.sync).run : Session (Except Error (List String))) pointMachine = (.ok files, m') ∧
        Path.join settings.sync.sourceDir (Settings.sourceName "weather".toList "d.ts") ∉ files := by
  have hread : Settings.ofToml pointText = .ok { sync := { sourceDir := "src", extensions := ["d.ts"] } } :=
    toOption_eq_some_iff.1 (by decide +kernel)
  have htree : pointMachine.disk.IsTree := ⟨by decide, by decide⟩
  have hplain : ∀ c ∈ Settings.bareExtension "d.ts", Text.isPlain c = true ∧ c ≠ '/' := by
    simp [Settings.bareExtension, Text.isPlain]
  have hrun : (((scanOf { sourceDir := "src", extensions := ["d.ts"] }).run : Session (Except Error (List String)))
      pointMachine).1.toOption = some [] := by decide +kernel
  exact ⟨_, hread, List.mem_singleton.2 rfl, hplain, htree, rfl, rfl, [], _, Prod.ext (toOption_eq_some_iff.1 hrun) rfl, List.not_mem_nil⟩

end Sync

end RenderCatalog

import Mathlib
import RenderCatalog.Settings.Basic

/-!
# Some of the settings

The settings one by one (`Setting`), so that something may be said of any choice of them: what is written of settings when
only some are kept (`Settings.excerpt`), and the settings that have the values of the kept ones and defaults for the others
(`Settings.keep`). Each setting is checked by itself, so settings that can be used may be mixed (`Settings.check_keep`).
-/

namespace RenderCatalog

/-- The settings one by one. -/
inductive Setting where
  | defaultFormat
  | logLevel
  | sourceDir
  | outputDir
  | extensions
  | exclude
  | recursive
  | parallel
  deriving Repr, DecidableEq

/-- The parts that settings are written in. -/
inductive Section where
  | general
  | sync
  deriving Repr, DecidableEq

namespace Section

/-- The name in the header of a section. -/
def name : Section → String
  | .general => "general"
  | .sync => "sync"

/-- The settings of a section in the order in which they are written. -/
def settings : Section → List Setting
  | .general => [.defaultFormat, .logLevel]
  | .sync => [.sourceDir, .outputDir, .extensions, .exclude, .recursive, .parallel]

end Section

/-- The key of a setting in its section. -/
def Setting.key : Setting → String
  | .defaultFormat => "default_format"
  | .logLevel => "log_level"
  | .sourceDir => "source_dir"
  | .outputDir => "output_dir"
  | .extensions => "extensions"
  | .exclude => "exclude"
  | .recursive => "recursive"
  | .parallel => "parallel"

/-- The value of a setting as it is written. -/
def Setting.text (s : Settings) : Setting → List Char
  | .defaultFormat => Toml.stringText s.general.defaultFormat
  | .logLevel => Toml.stringText s.general.logLevel
  | .sourceDir => Toml.stringText s.sync.sourceDir
  | .outputDir => Toml.stringText s.sync.outputDir
  | .extensions => Toml.stringsText s.sync.extensions
  | .exclude => Toml.stringsText s.sync.exclude
  | .recursive => Toml.flagText s.sync.recursive
  | .parallel => Toml.flagText s.sync.parallel

/-! ## What is written of some settings -/

/-- What is left of written settings: the lines of the settings that are kept, of a section without any of them perhaps its
header, and empty lines between the sections. -/
structure Excerpt where
  kept : Setting → Bool
  headed : Section → Bool := fun _ => true
  gap : Nat := 1

namespace Excerpt

/-- Something of a section is left. -/
def shows (e : Excerpt) (part : Section) : Bool := part.settings.any e.kept || e.headed part

/-- The settings of a section that are kept. -/
def settings (e : Excerpt) (part : Section) : List Setting := part.settings.filter e.kept

/-- What is left of a section. -/
def sectionText (e : Excerpt) (s : Settings) (part : Section) : List Char :=
  if e.shows part then
    Toml.headerText part.name ++ (e.settings part).flatMap fun x => Toml.lineText x.key (x.text s)
  else []

/-- Everything is left. -/
def whole : Excerpt := { kept := fun _ => true }

end Excerpt

namespace Settings

/-- What is left of the settings as they are written. -/
def excerpt (s : Settings) (e : Excerpt) : String :=
  String.ofList (e.sectionText s .general ++ (List.replicate e.gap '\n' ++ e.sectionText s .sync))

/-- The whole of the settings is what is written of them. -/
theorem excerpt_whole (s : Settings) : s.excerpt .whole = s.toToml := by
  simp only [excerpt, toToml, Excerpt.sectionText, Excerpt.shows, Excerpt.settings, Excerpt.whole, Bool.or_true, if_true,
    List.filter_true, Section.settings, Section.name, List.flatMap_cons, List.flatMap_nil, List.append_nil, Setting.key, Setting.text,
    GeneralSettings.toToml, SyncSettings.toToml, List.append_assoc, List.replicate_one, List.singleton_append]

variable {Dir : Type} [DirectoryName Dir]

/-- Default settings, but with the values of `s` where a setting is kept. -/
def keep (s : Settings Dir) (kept : Setting → Bool) : Settings Dir :=
  let of (x : Setting) : Settings Dir := if kept x then s else {}
  { general :=
      { defaultFormat := (of .defaultFormat).general.defaultFormat
        logLevel := (of .logLevel).general.logLevel }
    sync :=
      { sourceDir := (of .sourceDir).sync.sourceDir
        outputDir := (of .outputDir).sync.outputDir
        extensions := (of .extensions).sync.extensions
        exclude := (of .exclude).sync.exclude
        recursive := (of .recursive).sync.recursive
        parallel := (of .parallel).sync.parallel } }

/-- Settings of which all are kept are the settings. -/
theorem keep_all (s : Settings Dir) : s.keep (fun _ => true) = s := rfl

end Settings

/-! ## Checks -/

variable {Dir : Type} [DirectoryName Dir]

/-- The value of a setting can be used. -/
def Setting.Usable (s : Settings Dir) : Setting → Prop
  | .defaultFormat => (Format.parse s.general.defaultFormat).toOption.isSome
  | .logLevel => s.general.logLevel ∈ Settings.levels
  | .sourceDir => DirectoryName.isEmpty s.sync.sourceDir = false
  | .outputDir => DirectoryName.isEmpty s.sync.outputDir = false
  | .extensions => s.sync.extensions ≠ [] ∧ ∀ e ∈ s.sync.extensions, Settings.bareExtension e ≠ []
  | .exclude => ∀ e ∈ s.sync.exclude, e.isEmpty = false
  | .recursive | .parallel => True

namespace Settings

/-- What is not complained about first is left to what comes after it. -/
theorem ite_some_eq_none {α : Type} {c : Prop} [Decidable c] {a : α} {o : Option α} :
    (if c then some a else o) = none ↔ ¬c ∧ o = none := by
  split <;> simp [*]

/-- Nothing is complained about when each setting can be used. -/
theorem complaint?_eq_none_iff (s : Settings Dir) : s.complaint? = none ↔ ∀ x : Setting, x.Usable s := by
  rw [complaint?]
  cases hfind : s.sync.extensions.find? fun e => (bareExtension e).isEmpty with
  | some e =>
    simp only [ite_some_eq_none, reduceCtorEq, and_false, false_iff]
    intro h
    have hempty := List.find?_some hfind
    exact (h .extensions).2 e (List.mem_of_find?_eq_some hfind) (List.isEmpty_iff.1 hempty)
  | none =>
    have hbare : ∀ e ∈ s.sync.extensions, bareExtension e ≠ [] := by simpa using hfind
    simp only [ite_some_eq_none, and_true, Bool.not_eq_true, Option.isNone_eq_false_iff, Bool.not_eq_false', List.contains_iff_mem,
      List.isEmpty_eq_false_iff, List.any_eq_false]
    constructor
    · rintro ⟨hformat, hlevel, hsource, houtput, hextensions, hexclude⟩ x
      cases x with
      | defaultFormat => exact hformat
      | logLevel => exact hlevel
      | sourceDir => exact hsource
      | outputDir => exact houtput
      | extensions => exact ⟨hextensions, hbare⟩
      | exclude => exact hexclude
      | recursive => trivial
      | parallel => trivial
    · intro h
      exact ⟨h .defaultFormat, h .logLevel, h .sourceDir, h .outputDir, (h .extensions).1, h .exclude⟩

/-- Settings can be used when each of them can. -/
theorem check_eq_ok_iff (s : Settings Dir) : s.check = .ok () ↔ ∀ x : Setting, x.Usable s := by
  rw [check, ← complaint?_eq_none_iff]
  cases s.complaint? <;> simp

/-- The same settings with directories that are named by other means. -/
def ofTexts (s : Settings) : Settings Dir where
  general := s.general
  sync := { s.sync with sourceDir := DirectoryName.ofText s.sync.sourceDir, outputDir := DirectoryName.ofText s.sync.outputDir }

/-- It does not depend on how directories are named whether a setting can be used. -/
theorem usable_ofTexts_iff (s : Settings) (x : Setting) : x.Usable (s.ofTexts : Settings Dir) ↔ x.Usable s := by
  cases x with
  | sourceDir | outputDir =>
    rw [Setting.Usable, ofTexts, DirectoryName.isEmpty_ofText]
    rfl
  | _ => rfl

/-- The default settings can be used. -/
theorem check_default : ({} : Settings Dir).check = .ok () := by
  have hdefault : ({} : Settings).check = .ok () := by decide +kernel
  rw [check_eq_ok_iff] at hdefault ⊢
  exact fun x => (usable_ofTexts_iff {} x).2 (hdefault x)

/-- Whether a setting can be used depends on its value only. -/
theorem usable_keep_iff (s : Settings Dir) (kept : Setting → Bool) (x : Setting) :
    x.Usable (s.keep kept) ↔ x.Usable (if kept x then s else {}) := by
  cases x <;> rfl

/-- Settings that can be used can also be used when some of them have their defaults instead. -/
theorem check_keep {s : Settings Dir} (hs : s.check = .ok ()) (kept : Setting → Bool) : (s.keep kept).check = .ok () := by
  rw [check_eq_ok_iff] at hs ⊢
  intro x
  rw [usable_keep_iff]
  split
  · exact hs x
  · exact (check_eq_ok_iff _).1 check_default x

/-- Settings with their directories named by other means can be used when they can. -/
theorem check_ofTexts_iff (s : Settings) : (s.ofTexts : Settings Dir).check = .ok () ↔ s.check = .ok () := by
  simp only [check_eq_ok_iff, usable_ofTexts_iff]

/-- It does not depend on how directories are named which settings are kept. -/
theorem keep_ofTexts (s : Settings) (kept : Setting → Bool) : (s.ofTexts : Settings Dir).keep kept = (s.keep kept).ofTexts := by
  have hof (b : Bool) : (if b then (s.ofTexts : Settings Dir) else {}) = (if b then s else {}).ofTexts := by
    split <;> rfl
  simp only [keep, hof]
  rfl

end Settings

end RenderCatalog

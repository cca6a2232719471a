import RenderCatalog.Proofs.Settings.RoundTrip

/-!
# Settings with directories of any name

Settings that a program puts together may name a directory by bytes that are no text. The check lets them pass, but then no text can
be written of them (`Settings.print_rawlyNamed`). All other settings that can be used are read back from the text that is written
of them, and from whatever is left of it (`Settings.readBack_print`).
-/

namespace RenderCatalog

/-- The path is a text: its bytes are UTF-8. -/
def SystemPath.IsText (p : SystemPath) : Prop := ∃ text : String, p.bytes = text.toUTF8

/-- A path is a text when it has one. -/
theorem SystemPath.isText_iff (p : SystemPath) : p.IsText ↔ (DirectoryName.text? p).isSome := by
  simp only [Option.isSome_iff_exists, DirectoryName.text?_eq_some_iff]
  obtain ⟨bytes⟩ := p
  exact exists_congr fun text => (SystemPath.mk.injEq _ _ ▸ Iff.rfl)

instance (p : SystemPath) : Decidable p.IsText := decidable_of_iff _ p.isText_iff.symm

namespace Settings

variable {Dir : Type} [DirectoryName Dir]

/-- The texts of the names are found where both directories have one. -/
theorem texts?_eq_some_iff (c : Settings Dir) (s : Settings) : c.texts? = some s ↔ c = s.ofTexts := by
  constructor
  · intro h
    obtain ⟨source, hsource, h⟩ := Option.bind_eq_some_iff.1 h
    obtain ⟨output, houtput, h⟩ := Option.bind_eq_some_iff.1 h
    obtain rfl := Option.some.inj h
    rw [ofTexts, ← (DirectoryName.text?_eq_some_iff _ _).1 hsource, ← (DirectoryName.text?_eq_some_iff _ _).1 houtput]
  · rintro rfl
    have htext (text : String) : DirectoryName.text? (DirectoryName.ofText text : Dir) = some text :=
      (DirectoryName.text?_eq_some_iff _ _).2 rfl
    simp only [texts?, ofTexts, htext]
    rfl

/-- The settings that name both directories by texts. -/
theorem exists_ofTexts_iff (c : Settings SystemPath) :
    (∃ s : Settings, s.ofTexts = c) ↔ c.sync.sourceDir.IsText ∧ c.sync.outputDir.IsText := by
  constructor
  · rintro ⟨s, rfl⟩
    exact ⟨⟨_, rfl⟩, ⟨_, rfl⟩⟩
  · obtain ⟨general, ⟨sourceDir⟩, ⟨outputDir⟩, extensions, exclude, recursive, parallel⟩ := c
    rintro ⟨⟨source, hsource⟩, ⟨output, houtput⟩⟩
    obtain rfl : sourceDir = source.toUTF8 := hsource
    obtain rfl : outputDir = output.toUTF8 := houtput
    exact ⟨⟨general, source, output, extensions, exclude, recursive, parallel⟩, rfl⟩

/-- Settings that name both directories by texts have a text. -/
theorem print_ofTexts (s : Settings) : (s.ofTexts : Settings Dir).print = .ok s.toToml := by
  rw [print, (texts?_eq_some_iff _ s).2 rfl]

/-- Whatever is left of the text is read as the settings that are kept, with defaults for the others. -/
theorem readBack_ofTexts {s : Settings} (hs : (s.ofTexts : Settings Dir).check = .ok ()) (e : Excerpt) :
    (ofToml (s.excerpt e)).map ofTexts = .ok ((s.ofTexts : Settings Dir).keep e.kept) := by
  rw [ofToml_excerpt ((check_ofTexts_iff s).1 hs) e, keep_ofTexts]
  rfl

/-- Settings that can be used and name both directories by texts are written, and are read back from what is written of them. What is
left of it when only some settings are kept is read as well, and gives these settings, with defaults for the others. When a name is
no text, nothing is written, for that reason. -/
theorem readBack_print (c : Settings SystemPath) (hc : c.check = .ok ()) :
    (c.sync.sourceDir.IsText ∧ c.sync.outputDir.IsText → ∃ s : Settings, s.ofTexts = c ∧ c.print = .ok (s.excerpt .whole) ∧
      (ofToml (s.excerpt .whole)).map ofTexts = .ok c ∧
      ∀ e : Excerpt, (ofToml (s.excerpt e)).map ofTexts = .ok (c.keep e.kept)) ∧
    (¬(c.sync.sourceDir.IsText ∧ c.sync.outputDir.IsText) →
      c.print = .error ⟨["failed to serialize config"], .message "path contains invalid UTF-8 characters"⟩) := by
  rw [← exists_ofTexts_iff]
  constructor
  · rintro ⟨s, rfl⟩
    refine ⟨s, rfl, ?_, readBack_ofTexts hc .whole, readBack_ofTexts hc⟩
    rw [print_ofTexts, excerpt_whole]
  · intro hnot
    have hnone : c.texts? = none := by
      rw [Option.eq_none_iff_forall_ne_some]
      exact fun s hs => hnot ⟨s, ((texts?_eq_some_iff c s).1 hs).symm⟩
    rw [print, hnone]
    rfl

/-- Settings with quotes, line ends, control characters and characters beyond ASCII. -/
def oddlyNamed : Settings SystemPath where
  general := { defaultFormat := "JSON", logLevel := "trace" }
  sync :=
    { sourceDir := ⟨"C:\\src\n\"üi\"".toUTF8⟩
      outputDir := ⟨"'''\"\"\"\x07\r\n".toUTF8⟩
      extensions := ["tsx", "..j\tsx'"]
      exclude := []
      recursive := true
      parallel := false }

/-- Settings with a source directory whose name is no text. -/
def rawlyNamed : Settings SystemPath where
  sync := { sourceDir := ⟨⟨#[0x73, 0x72, 0x63, 0xff]⟩⟩ }

/-- Settings with odd texts are written and read back, settings with a name that is no text are not written. -/
theorem readBack_print_oddlyNamed :
    (oddlyNamed.check = .ok () ∧ ∃ s : Settings, s.ofTexts = oddlyNamed ∧ oddlyNamed.print = .ok (s.excerpt .whole) ∧
      (ofToml (s.excerpt .whole)).map ofTexts = .ok oddlyNamed ∧
      ∀ e : Excerpt, (ofToml (s.excerpt e)).map ofTexts = .ok (oddlyNamed.keep e.kept)) ∧
    rawlyNamed.check = .ok () ∧
      rawlyNamed.print = .error ⟨["failed to serialize config"], .message "path contains invalid UTF-8 characters"⟩ := by
  have hodd : oddlyNamed.check = .ok () := by decide +kernel
  have hraw : rawlyNamed.check = .ok () := by decide +kernel
  have htexts : oddlyNamed.sync.sourceDir.IsText ∧ oddlyNamed.sync.outputDir.IsText := by decide +kernel
  have hnot : ¬rawlyNamed.sync.sourceDir.IsText := by decide +kernel
  exact ⟨⟨hodd, (readBack_print oddlyNamed hodd).1 htexts⟩, hraw, (readBack_print rawlyNamed hraw).2 fun h => hnot h.1⟩

/-- Settings that can be used need not be written. -/
theorem print_rawlyNamed : rawlyNamed.check = .ok () ∧ ¬∃ text, rawlyNamed.print = .ok text := by
  constructor
  · decide +kernel
  · rintro ⟨text, htext⟩
    have hprint : rawlyNamed.print.toOption.isNone := by decide +kernel
    rw [htext] at hprint
    cases hprint

end Settings

end RenderCatalog

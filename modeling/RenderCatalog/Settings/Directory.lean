/-!
# Names of directories

The settings name two directories. A text names a directory, and so do bytes that are no text: the system takes any. Settings that
are read from a file name their directories by texts. Settings that a program puts together may name them by any bytes, and those
that are no text cannot be written down.
-/

namespace RenderCatalog

/-- What directories are named by in settings: all texts, and perhaps more. -/
class DirectoryName (α : Type) where
  ofText : String → α
  text? : α → Option String
  isEmpty : α → Bool
  text?_eq_some_iff : ∀ name text, text? name = some text ↔ name = ofText text
  isEmpty_ofText : ∀ text, isEmpty (ofText text) = text.isEmpty

instance : DirectoryName String where
  ofText text := text
  text? := some
  isEmpty := String.isEmpty
  text?_eq_some_iff _ _ := Option.some_inj
  isEmpty_ofText _ := rfl

/-- A path as the system holds it. -/
structure SystemPath where
  bytes : ByteArray

namespace SystemPath

theorem fromUTF8?_eq_some_iff (bytes : ByteArray) (text : String) : String.fromUTF8? bytes = some text ↔ bytes = text.toUTF8 := by
  rw [String.fromUTF8?]
  constructor
  · intro h
    split at h
    · obtain rfl := Option.some.inj h
      rfl
    · cases h
  · rintro rfl
    exact dif_pos text.isValidUTF8

instance : DirectoryName SystemPath where
  ofText text := ⟨text.toUTF8⟩
  text? p := String.fromUTF8? p.bytes
  isEmpty p := p.bytes.isEmpty
  text?_eq_some_iff := by
    rintro ⟨bytes⟩ text
    rw [fromUTF8?_eq_some_iff, SystemPath.mk.injEq]
  isEmpty_ofText _ := rfl

end SystemPath

end RenderCatalog

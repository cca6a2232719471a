import RenderCatalog.Artifact
import RenderCatalog.Component.Basic
import RenderCatalog.Proofs.Component.Name
import RenderCatalog.Proofs.Path
import RenderCatalog.Schema.Compile
import RenderCatalog.Source.Extract

/-!
# The names of artifacts

A component is named for the stem of its file, and its artifact for the component. Whatever the stem is, the name of the
artifact is a name of a file, and it is not that of the index: the first character of a component name is the capital form of
some character, and no capital form has a small ASCII letter in it.
-/

namespace RenderCatalog

/-! ## File names -/

namespace Schema

/-- The component name of a schema is one that names a file, and another one than that of the index. -/
structure NamesFile (s : Schema) : Prop where
  no_slash : '/' ∉ s.component.toList
  head?_ne : s.component.toList.head? ≠ some 'i'

variable {s t : Schema}

/-- The artifact of a component is named by the component, with `.json` behind. -/
theorem toList_fileName (s : Schema) : s.fileName.toList = s.component.toList ++ ".json".toList := by
  rw [fileName, String.toList_append]

/-- A component name without a slash gives the name of a file. -/
theorem isName_fileName (h : '/' ∉ s.component.toList) : Path.IsName s.fileName := by
  refine Path.isName_of_length ?_ ?_
  · rw [toList_fileName, List.mem_append, not_or]
    exact ⟨h, by decide⟩
  · have hlength : ".json".toList.length = 5 := rfl
    rw [toList_fileName, List.length_append, hlength]
    omega

theorem NamesFile.isName (h : s.NamesFile) : Path.IsName s.fileName := isName_fileName h.no_slash

/-- Only a component of the name `index` has the file of the index. -/
theorem fileName_eq_index_iff : s.fileName = Index.fileName ↔ s.component = "index" := by
  have hindex : Index.fileName = "index" ++ ".json" := rfl
  rw [hindex, fileName, String.append_left_inj]

/-- Its artifact is not the index. -/
theorem NamesFile.ne_index (h : s.NamesFile) : s.fileName ≠ Index.fileName := by
  rw [Ne, fileName_eq_index_iff]
  intro heq
  exact h.head?_ne (by rw [heq]; rfl)

/-- Different components have different files. -/
theorem fileName_inj : s.fileName = t.fileName ↔ s.component = t.component := by
  rw [fileName, fileName, String.append_left_inj]

end Schema

/-- The component of a source is named for the stem of its file. -/
theorem Schema.component_of_extract {patterns : List String} {source path : String} {c : Component}
    (h : Source.extract patterns source path = .ok c) : (compile c).component.toList = Name.pascal (Path.stem path).toList := by
  have hname : c.name = Text.on Name.pascal (Path.stem path) := by
    rw [Source.extract] at h
    split at h
    · cases h
    · split at h
      · cases h
      · simp only at h
        split at h <;> rw [← Except.ok.inj h] <;> rfl
  change c.name.toList = _
  rw [hname, Text.on, String.toList_ofList]

/-- The component of a file with an extension names a file, and another one than that of the index. -/
theorem Schema.namesFile_of_extract {patterns : List String} {source path : String} {c : Component}
    (hpath : (Path.extension? path).isSome) (h : Source.extract patterns source path = .ok c) : (compile c).NamesFile := by
  refine ⟨?_, ?_⟩
  · rw [component_of_extract h]
    exact Name.no_slash_pascal (Path.no_slash_stem hpath)
  · rw [component_of_extract h]
    exact fun hhead => by cases Name.isLower_head_pascal hhead

namespace Artifact

variable {directory name : String}

theorem isName_index : Path.IsName Index.fileName := ⟨by decide, by decide, by decide, by decide⟩

/-- The temporary name of a file is the name of a file. -/
theorem isName_temporaryPath (h : Path.IsName name) : Path.IsName (temporaryPath name) :=
  Path.isName_withExtension h (by decide) (by decide)

/-- The temporary path of a file below a directory is below that directory. -/
theorem temporaryPath_join (h : Path.IsName name) :
    temporaryPath (Path.join directory name) = Path.join directory (temporaryPath name) :=
  Path.withExtension_join h (by decide) (by decide)

/-- A temporary name ends as no artifact does. -/
theorem getLast?_temporaryPath (h : Path.IsName name) : (temporaryPath name).toList.getLast? = some 'p' := by
  obtain ⟨stem, -, hrenamed⟩ := Path.renamed_eq name.toList "json.tmp".toList
  rw [temporaryPath, Path.toList_withExtension h, hrenamed, List.getLast?_append_of_ne_nil _ (by nofun)]
  rfl

end Artifact

/-- The artifact of a component does not end like a temporary file. -/
theorem Schema.getLast?_fileName (s : Schema) : s.fileName.toList.getLast? = some 'n' := by
  rw [toList_fileName, List.getLast?_append_of_ne_nil _ (by decide)]
  rfl

end RenderCatalog

import RenderCatalog.Proofs.Artifact.Write
import RenderCatalog.Proofs.Path.Extension

/-!
# Paths of artifacts and of their temporary files

A temporary path has the extension `json.tmp` in place of that of the artifact. But the artifact of a component without a name is
called `.json`, where the point is no sign of an extension, so its temporary path is that of a component with the name `.json`. These
two are the only components that have one temporary path (`temporaryStem_inj`).
-/

namespace RenderCatalog

/-- The component of a schema is named for the stem of a file. -/
def Schema.NamedForFile (s : Schema) : Prop :=
  ∃ path stem, Path.stem? path = some stem ∧ s.component = Text.on Name.pascal stem

/-- A schema that is named for a source file names a file. -/
theorem Schema.NamedForFile.namesFile {s : Schema} (h : s.NamedForFile) : s.NamesFile := by
  obtain ⟨path, stem, hstem, hname⟩ := h
  refine ⟨?_, ?_⟩
  · rw [hname, Text.on, String.toList_ofList]
    exact Name.no_slash_pascal (Path.no_slash_of_stem? hstem)
  · rw [hname, Text.on, String.toList_ofList]
    exact fun hhead => by cases Name.isLower_head_pascal hhead

namespace Artifact

variable {out component component' : String} {schemas : List Schema} {s : Schema}

/-! ## Temporary names -/

/-- What stands before `.json.tmp` in the temporary name of a component's artifact. -/
def temporaryStem (component : String) : String := if component = "" then ".json" else component

/-- The temporary name is the component name, or what stands in for an empty one, with `.json.tmp` behind. -/
theorem temporaryPath_fileName (h : '/' ∉ s.component.toList) :
    temporaryPath s.fileName = temporaryStem s.component ++ ".json.tmp" := by
  rw [← String.toList_inj, temporaryPath, Path.toList_withExtension (Schema.isName_fileName h), Schema.toList_fileName,
    String.toList_append, temporaryStem]
  by_cases hempty : s.component = ""
  · rw [if_pos hempty, hempty]
    decide
  · have hne : s.component.toList ≠ [] := mt String.toList_eq_nil_iff.1 hempty
    have hjson : ".json".toList = '.' :: "json".toList := rfl
    have hdots : s.component.toList ++ '.' :: "json".toList ≠ ['.', '.'] := by
      rw [← hjson, ← Schema.toList_fileName]
      exact (Schema.isName_fileName h).not_dots
    rw [if_neg hempty, hjson, Path.renamed, Path.splitAtPoint_append hdots hne (by decide)]
    rfl

/-- Components with one temporary name have one name, but for the component without a name and `.json`. -/
theorem temporaryStem_inj (h : temporaryStem component = temporaryStem component') :
    component = component' ∨ component = "" ∧ component' = ".json" ∨ component = ".json" ∧ component' = "" := by
  rw [temporaryStem, temporaryStem] at h
  split at h
  · split at h
    · rename_i hempty hempty'
      exact Or.inl (hempty.trans hempty'.symm)
    · rename_i hempty _
      exact Or.inr (Or.inl ⟨hempty, h.symm⟩)
  · split at h
    · rename_i _ hempty'
      exact Or.inr (Or.inr ⟨h, hempty'⟩)
    · exact Or.inl h

/-- Among components that are not both of these, those with one temporary name have one name. -/
theorem temporaryStem_injOn {names : List String} (hapart : "" ∈ names → ".json" ∉ names) (hmem : component ∈ names)
    (hmem' : component' ∈ names) (h : temporaryStem component = temporaryStem component') : component = component' := by
  rcases temporaryStem_inj h with hsame | ⟨rfl, rfl⟩ | ⟨rfl, rfl⟩
  · exact hsame
  · exact absurd hmem' (hapart hmem)
  · exact absurd hmem (hapart hmem')

/-- Only the index has the temporary name of the index. -/
theorem temporaryStem_ne_index (h : component ≠ "index") : temporaryStem component ≠ "index" := by
  rw [temporaryStem]
  split
  · decide
  · exact h

/-! ## All paths -/

/-- The paths of the artifacts of schemas and of their index. -/
def paths (outputDir : String) (schemas : List Schema) : List String :=
  schemas.map (schemaPath outputDir) ++ [indexPath outputDir]

/-- The paths that are written to are those of the names below the output directory. -/
theorem paths_eq (outputDir : String) (schemas : List Schema) :
    paths outputDir schemas = (fileNames schemas).map (Path.join outputDir) := by
  rw [paths, fileNames, List.map_append, List.map_map]
  rfl

/-- The names of the artifacts differ. -/
theorem nodup_fileNames (hnodup : (schemas.map (·.component)).Nodup) (hindex : ∀ s ∈ schemas, s.component ≠ "index") :
    (fileNames schemas).Nodup := by
  have hinj : Function.Injective (· ++ ".json" : String → String) := fun a b => (String.append_left_inj _).1
  rw [fileNames_eq, List.nodup_append]
  refine ⟨hnodup.map hinj, List.nodup_singleton _, ?_⟩
  simp only [List.mem_singleton, List.map_map, List.forall_mem_map, forall_eq]
  exact fun s hs => mt Schema.fileName_eq_index_iff.1 (hindex s hs)

/-- Names below a directory are told apart by their paths. -/
theorem nodup_map_parts_join {names : List String} (hnames : ∀ name ∈ names, Path.IsName name) (hnodup : names.Nodup) :
    ((names.map (Path.join out)).map Path.parts).Nodup := by
  rw [List.map_map]
  refine hnodup.map_on fun a ha b hb heq => ?_
  have hfile : Path.fileName? (Path.join out a) = Path.fileName? (Path.join out b) := by
    rw [Path.fileName?, Path.fileName?, show Path.parts (Path.join out a) = Path.parts (Path.join out b) from heq]
  rw [Path.fileName?_join (hnames a ha), Path.fileName?_join (hnames b hb), Option.some.injEq] at hfile
  exact String.toList_inj.1 hfile

section Names

variable (hnames : ∀ s ∈ schemas, '/' ∉ s.component.toList) (hnodup : (schemas.map (·.component)).Nodup)
  (hindex : ∀ s ∈ schemas, s.component ≠ "index")

include hnames hnodup hindex

/-- The paths of the artifacts differ. -/
theorem nodup_paths : (paths out schemas).Nodup := by
  have hartifact := isArtifactName_of_mem_fileNames hnames
  rw [paths_eq]
  exact (nodup_map_parts_join (fun name hname => (hartifact name hname).isName) (nodup_fileNames hnodup hindex)).of_map

variable (hapart : "" ∈ schemas.map (·.component) → ".json" ∉ schemas.map (·.component))

include hapart

/-- The temporary names of the artifacts differ, unless one of the components has no name and another one the name `.json`. -/
theorem nodup_temporaryPaths : ((fileNames schemas).map temporaryPath).Nodup := by
  have htemporary : (fileNames schemas).map temporaryPath =
      ((schemas.map (·.component)).map temporaryStem ++ ["index"]).map (· ++ ".json.tmp") := by
    have hlast : temporaryPath Index.fileName = "index" ++ ".json.tmp" := by decide
    rw [fileNames, List.map_append, List.map_append, List.map_singleton, List.map_singleton, hlast, List.map_map, List.map_map,
      List.map_map]
    congr 1
    exact List.map_congr_left fun s hs => temporaryPath_fileName (hnames s hs)
  have hinj : Function.Injective (· ++ ".json.tmp" : String → String) := fun a b => (String.append_left_inj _).1
  rw [htemporary]
  refine List.Nodup.map hinj (List.nodup_append.2 ⟨?_, List.nodup_singleton _, ?_⟩)
  · exact hnodup.map_on fun a ha b hb => temporaryStem_injOn hapart ha hb
  · simp only [List.mem_singleton, List.map_map, List.forall_mem_map, forall_eq]
    exact fun s hs => temporaryStem_ne_index (hindex s hs)

/-- The paths of the artifacts and their temporary paths are paths of different files. -/
theorem nodup_map_parts_paths : ((paths out schemas ++ (paths out schemas).map temporaryPath).map Path.parts).Nodup := by
  have hartifact := isArtifactName_of_mem_fileNames hnames
  have htemporary : (paths out schemas).map temporaryPath = ((fileNames schemas).map temporaryPath).map (Path.join out) := by
    rw [paths_eq, List.map_map, List.map_map]
    exact List.map_congr_left fun name hname => temporaryPath_join (hartifact name hname).isName
  have hisName : ∀ name ∈ fileNames schemas ++ (fileNames schemas).map temporaryPath, Path.IsName name :=
    List.forall_mem_append.2 ⟨fun name hname => (hartifact name hname).isName,
      List.forall_mem_map.2 fun name hname => isName_temporaryPath (hartifact name hname).isName⟩
  rw [htemporary, paths_eq, ← List.map_append]
  refine nodup_map_parts_join hisName (List.nodup_append.2 ⟨?_, ?_, ?_⟩)
  · exact nodup_fileNames hnodup hindex
  · exact nodup_temporaryPaths hnames hnodup hindex hapart
  · simp only [List.forall_mem_map]
    exact fun name hname other hother => (hartifact name hname).ne_temporaryPath (hartifact other hother).isName

end Names

end Artifact

end RenderCatalog

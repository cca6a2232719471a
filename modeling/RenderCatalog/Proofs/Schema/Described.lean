import RenderCatalog.Proofs.Component.Name
import RenderCatalog.Schema.Compile
import RenderCatalog.Source.Extract

/-!
# What a tool says of itself

A component without a comment is described by the title of its file stem, and its tool leaves a description out that only repeats
the title of the schema. That title is made from the component name, so the two need not be the same: they are when the segments
of the stem are told apart by their capitals, and a stem such as `chart-2d` repeats itself (`toolDescription_of_extract`).
-/

namespace RenderCatalog

open Component (plainDescription)

/-- A tool leaves out a description that is empty or only repeats the title, and no other. -/
theorem Schema.toolDescription_eq_iff (title description : String) :
    toolDescription title description = "Render " ++ plainDescription title ↔
      description = "" ∨ description = plainDescription title := by
  rw [toolDescription]
  split
  · rename_i hplain
    simpa using hplain
  · rename_i hother
    refine iff_of_false (fun heq => ?_) (by simpa using hother)
    have hlength := congrArg String.length heq
    simp only [String.length_append] at hlength
    have hpoint : ". ".length = 2 := rfl
    omega

/-- The titles of two plain descriptions can be read off them. -/
theorem Component.plainDescription_inj {title title' : String} : plainDescription title = plainDescription title' ↔ title = title' :=
  String.append_left_inj _

/-- A plain description of the title of a schema is left out, and one of another title is not. -/
theorem Schema.description_compile {c : Component} {title : String} (h : c.description = plainDescription title) :
    ((compile c).tool.description = "Render " ++ (compile c).title ++ " component" ↔ (compile c).title = title) ∧
    ((compile c).title ≠ title →
      (compile c).tool.description = "Render " ++ (compile c).title ++ " component. " ++ title ++ " component") := by
  have hdescription : (compile c).tool.description = toolDescription (compile c).title (plainDescription title) := by
    rw [← h]
    rfl
  have hne : plainDescription title ≠ "" := by
    rw [plainDescription, Ne, String.append_eq_empty_iff]
    exact fun hempty => absurd hempty.2 (by decide)
  generalize (compile c).title = own at hdescription ⊢
  refine ⟨?_, fun hother => ?_⟩
  · rw [hdescription, String.append_assoc, ← plainDescription, toolDescription_eq_iff, or_iff_right hne,
      Component.plainDescription_inj, eq_comm]
  · have hplain : plainDescription title ≠ plainDescription own := fun heq => hother (Component.plainDescription_inj.1 heq).symm
    rw [hdescription, toolDescription, if_neg (by simp [hne, hplain]), plainDescription, plainDescription]
    simp only [String.append_assoc]
    rfl

namespace Source

variable {patterns : List String} {source path : String} {c : Component}

/-- Without a comment before its declaration a component is the one that its file and its props describe. -/
theorem eq_describe_of_extract (h : extract patterns source path = .ok c)
    (hcomment : ∀ d, findDeclaration? [] (Text.flatten source.toList) = some d → leadingComment? d.before = none) :
    ∃ props, c = Component.describe path props := by
  rw [extract] at h
  split at h
  · cases h
  · split at h
    · cases h
    · rename_i d hd
      simp only [hcomment d hd] at h
      exact ⟨_, (Except.ok.inj h).symm⟩

/-- The tool of a component without a comment says no more than the title of the schema exactly when that title is the one of the
file stem, and otherwise it says both. The titles are the same when the segments of the stem are told apart by their capitals,
and only then where the stem has no space. -/
theorem toolDescription_of_extract (h : extract patterns source path = .ok c)
    (hcomment : ∀ d, findDeclaration? [] (Text.flatten source.toList) = some d → leadingComment? d.before = none) :
    ((Schema.compile c).tool.description = "Render " ++ (Schema.compile c).title ++ " component" ↔
      (Schema.compile c).title = Text.on Name.stemTitle (Path.stem path)) ∧
    ((Schema.compile c).title ≠ Text.on Name.stemTitle (Path.stem path) →
      (Schema.compile c).tool.description = "Render " ++ (Schema.compile c).title ++ " component. " ++
        Text.on Name.stemTitle (Path.stem path) ++ " component") ∧
    (Name.Worded (Name.capitalized (Path.stem path).toList) →
      (Schema.compile c).tool.description = "Render " ++ (Schema.compile c).title ++ " component") ∧
    (' ' ∉ (Path.stem path).toList →
      (Schema.compile c).tool.description = "Render " ++ (Schema.compile c).title ++ " component" →
      Name.Worded (Name.capitalized (Path.stem path).toList)) := by
  obtain ⟨props, rfl⟩ := eq_describe_of_extract h hcomment
  obtain ⟨hiff, hother⟩ := Schema.description_compile (c := Component.describe path props) rfl
  have htitle : (Schema.compile (Component.describe path props)).title = Text.on Name.stemTitle (Path.stem path) ↔
      Name.title (Name.pascal (Path.stem path).toList) = Name.stemTitle (Path.stem path).toList := by
    change Text.on Name.title (Text.on Name.pascal (Path.stem path)) = _ ↔ _
    rw [Text.on, Text.on, Text.on, String.toList_ofList, String.ofList_inj]
  refine ⟨hiff, hother, fun hworded => hiff.2 (htitle.2 (Name.title_pascal hworded)), fun hspace hplain => ?_⟩
  exact (Name.title_pascal_iff hspace).1 (htitle.1 (hiff.1 hplain))

/-- A card that its file and its prop describe. -/
def infoCardSource : String := "export function InfoCard(\x7b title \x7d) \x7b\x7d"

/-- The stem of the card is told apart by its capitals, so its tool says the title and no more. -/
theorem toolDescription_of_extract_infoCard :
    ∃ c, extract [] infoCardSource "info-card.tsx" = .ok c ∧
      (∀ d, findDeclaration? [] (Text.flatten infoCardSource.toList) = some d → leadingComment? d.before = none) ∧
      Name.Worded (Name.capitalized (Path.stem "info-card.tsx").toList) ∧
      (Schema.compile c).tool.description = "Render Info Card component" := by
  have hfind : findDeclaration? [] (Text.flatten infoCardSource.toList) = some ⟨[], " title ".toList⟩ := by cbv
  have hextract : extract [] infoCardSource "info-card.tsx" = .ok (Component.describe "info-card.tsx" (paramProps " title ".toList)) := by
    simp only [extract, show exclusionFor? [] "info-card.tsx" = none from rfl, hfind]
    rfl
  have hcomment : ∀ d, findDeclaration? [] (Text.flatten infoCardSource.toList) = some d → leadingComment? d.before = none := by
    rw [hfind]
    rintro _ ⟨⟩
    rfl
  have hworded : Name.Worded (Name.capitalized (Path.stem "info-card.tsx").toList) := by
    have hwords : Name.capitalized (Path.stem "info-card.tsx").toList = ["Info".toList, "Card".toList] := by decide +kernel
    have hsmall : ∀ c ∈ "nfo".toList ++ "ard".toList, Text.isCapital c = false := by
      simpa using (by decide : ("nfo".toList ++ "ard".toList).all (!Text.isCapital ·) = true)
    obtain ⟨hnfo, hard⟩ := List.forall_mem_append.1 hsmall
    rw [hwords]
    exact ⟨hnfo, List.forall_mem_singleton.2 ⟨'C', "ard".toList, rfl, rfl, hard⟩⟩
  obtain ⟨-, -, hsaid, -⟩ := toolDescription_of_extract hextract hcomment
  exact ⟨_, hextract, hcomment, hworded, hsaid hworded⟩

/-- A chart that its file and its prop describe, where a segment of the stem starts with a digit. -/
def chartSource : String := "export function Chart2d(\x7b data \x7d) \x7b\x7d"

/-- The digit starts no word of the component name, so the tool of the chart says its title and that of its file. -/
theorem toolDescription_of_extract_chart :
    ∃ c, extract [] chartSource "chart-2d.tsx" = .ok c ∧
      (∀ d, findDeclaration? [] (Text.flatten chartSource.toList) = some d → leadingComment? d.before = none) ∧
      (Schema.compile c).title = "Chart2d" ∧ c.description = "Chart 2d component" ∧
      (Schema.compile c).tool.description = "Render Chart2d component. Chart 2d component" ∧
      (Schema.compile c).tool.description ≠ "Render " ++ (Schema.compile c).title ++ " component" := by
  have hfind : findDeclaration? [] (Text.flatten chartSource.toList) = some ⟨[], " data ".toList⟩ := by cbv
  have hextract : extract [] chartSource "chart-2d.tsx" = .ok (Component.describe "chart-2d.tsx" (paramProps " data ".toList)) := by
    simp only [extract, show exclusionFor? [] "chart-2d.tsx" = none from rfl, hfind]
    rfl
  have hcomment : ∀ d, findDeclaration? [] (Text.flatten chartSource.toList) = some d → leadingComment? d.before = none := by
    rw [hfind]
    rintro _ ⟨⟩
    rfl
  exact ⟨_, hextract, hcomment, by decide, by decide, by decide, by decide⟩

end Source

end RenderCatalog

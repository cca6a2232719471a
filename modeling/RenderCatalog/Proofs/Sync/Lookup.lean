import RenderCatalog.Proofs.Sync.Run

/-!
# Whom a key finds

A schema answers to its component name, its tool name and its render type, and a look-up takes the first schema that answers. A
sync only sees to it that component names differ, so another schema may stand in the way. Which keys can clash is settled by how
they are made: a tool name is the word `render_` before the render type, and no component name starts with a small ASCII letter,
so that a tool name is never a component name. A key finds its schema exactly where no schema before it has one of the clashes
that are left (`Index.Finds`), and these clashes do happen (`run_namesakeMachine`).
-/

namespace RenderCatalog

/-! ## The keys of a schema -/

namespace Schema

/-- How the keys of a compiled schema are made. -/
structure NamesTool (s : Schema) : Prop where
  tool : s.tool.name = "render_" ++ s.renderType
  isLower_head : ∀ first, s.component.toList.head? = some first → first.isLower = false

variable {s t : Schema}

/-- The schema of a component that was found has a name for its tool. -/
theorem namesTool_of_extract {patterns : List String} {source path : String} {c : Component}
    (h : Source.extract patterns source path = .ok c) : (compile c).NamesTool := by
  refine ⟨?_, fun first hfirst => ?_⟩
  · rw [← String.toList_inj, String.toList_append]
    show (Text.on Name.tool c.name).toList = _ ++ (Text.on Name.snake c.name).toList
    simp only [Text.on, String.toList_ofList]
    rfl
  · rw [component_of_extract h] at hfirst
    exact Name.isLower_head_pascal hfirst

/-- No component name is the tool name of any schema. -/
theorem NamesTool.component_ne (hs : s.NamesTool) (ht : t.NamesTool) : s.component ≠ t.tool.name := by
  intro heq
  have hhead : s.component.toList.head? = some 'r' := by
    rw [heq, ht.tool, String.toList_append]
    rfl
  cases hs.isLower_head 'r' hhead

/-- Schemas have one tool name exactly when they have one render type. -/
theorem NamesTool.tool_eq_iff (hs : s.NamesTool) (ht : t.NamesTool) : s.tool.name = t.tool.name ↔ s.renderType = t.renderType := by
  rw [hs.tool, ht.tool, String.append_right_inj]

end Schema

/-! ## Looking a key up -/

namespace Index

variable {before after : List Schema} {s : Schema} {key : String}

/-- A schema does not answer to a key that is none of its three names. -/
theorem answersTo_eq_false_iff : answersTo key s = false ↔ s.component ≠ key ∧ s.tool.name ≠ key ∧ s.renderType ≠ key := by
  rw [answersTo, Bool.or_eq_false_iff, Bool.or_eq_false_iff, beq_eq_false_iff_ne, beq_eq_false_iff_ne, beq_eq_false_iff_ne,
    and_assoc]

/-- Among schemas of different components a schema that answers to a key is found exactly when none before it answers. -/
theorem find?_eq_some_iff (hdistinct : ((before ++ s :: after).map (·.component)).Nodup) (hs : answersTo key s = true) :
    find? ⟨before ++ s :: after⟩ key = some s ↔ ∀ t ∈ before, answersTo key t = false := by
  rw [find?, List.find?_append, List.find?_cons_of_pos hs]
  cases hbefore : before.find? (answersTo key) with
  | none =>
    rw [List.find?_eq_none] at hbefore
    simpa using hbefore
  | some t =>
    have hmem := List.mem_of_find?_eq_some hbefore
    have hanswers := List.find?_some hbefore
    refine ⟨fun h => ?_, fun hnone => ?_⟩
    · obtain rfl : t = s := Option.some.inj h
      rw [List.map_append, List.nodup_append] at hdistinct
      exact absurd rfl (hdistinct.2.2 t.component (List.mem_map_of_mem hmem) t.component (by simp))
    · rw [hnone t hmem] at hanswers
      cases hanswers

/-- The keys of a schema find it in an index exactly where no schema before it has a key that clashes with them. -/
structure Finds (i : Index) (before : List Schema) (s : Schema) : Prop where
  component : i.find? s.component = some s ↔ ∀ t ∈ before, t.renderType ≠ s.component
  tool : i.find? s.tool.name = some s ↔ ∀ t ∈ before, t.renderType ≠ s.renderType ∧ t.renderType ≠ s.tool.name
  renderType : i.find? s.renderType = some s ↔
    ∀ t ∈ before, t.renderType ≠ s.renderType ∧ t.tool.name ≠ s.renderType ∧ t.component ≠ s.renderType

/-- Among schemas of different components, whose keys are made as compiling makes them, no other keys clash. -/
theorem finds (hdistinct : ((before ++ s :: after).map (·.component)).Nodup)
    (hnames : ∀ t ∈ before ++ s :: after, t.NamesTool) : Finds ⟨before ++ s :: after⟩ before s := by
  have hs : s.NamesTool := hnames s (by simp)
  have hbefore : ∀ t ∈ before, t.NamesTool ∧ t.component ≠ s.component := by
    intro t ht
    rw [List.map_append, List.nodup_append] at hdistinct
    exact ⟨hnames t (List.mem_append_left _ ht), hdistinct.2.2 t.component (List.mem_map_of_mem ht) s.component (by simp)⟩
  refine ⟨?_, ?_, ?_⟩
  · rw [find?_eq_some_iff hdistinct (by simp [answersTo])]
    refine forall₂_congr fun t ht => ?_
    obtain ⟨hnamesTool, hne⟩ := hbefore t ht
    rw [answersTo_eq_false_iff]
    exact ⟨fun h => h.2.2, fun h => ⟨hne, (hs.component_ne hnamesTool).symm, h⟩⟩
  · rw [find?_eq_some_iff hdistinct (by simp [answersTo])]
    refine forall₂_congr fun t ht => ?_
    obtain ⟨hnamesTool, -⟩ := hbefore t ht
    rw [answersTo_eq_false_iff, Ne, Ne, hnamesTool.tool_eq_iff hs]
    exact ⟨fun h => h.2, fun h => ⟨hnamesTool.component_ne hs, h⟩⟩
  · rw [find?_eq_some_iff hdistinct (by simp [answersTo])]
    refine forall₂_congr fun t ht => ?_
    rw [answersTo_eq_false_iff]
    exact ⟨fun h => ⟨h.2.2, h.2.1, h.1⟩, fun h => ⟨h.2.2, h.2.1, h.1⟩⟩

end Index

namespace Sync

open Machine

variable {m m' : Machine} {s : SyncSettings} {report : Report}

/-- The schemas that a sync keeps find their keys but for the clashes that are left. -/
theorem finds_of_mem_partedOn {files : List String} {m₁ : Machine} {before after : List Schema} {t : Schema}
    (hkept : (partedOn s files m₁).1.map (·.2) = before ++ t :: after) :
    (∀ u ∈ before ++ t :: after, u.NamesTool) ∧ Index.Finds ⟨before ++ t :: after⟩ before t := by
  have hnames : ∀ u ∈ before ++ t :: after, u.NamesTool := by
    rw [← hkept]
    refine List.forall_mem_map.2 fun e he => ?_
    obtain ⟨-, source, component, hextract, heq⟩ :=
      exists_component_of_mem ((byName_perm _).subset ((keepFirst_sublist [] _).subset he))
    rw [heq]
    exact Schema.namesTool_of_extract hextract
  refine ⟨hnames, Index.finds ?_ hnames⟩
  rw [← hkept]
  exact (Artifact.repeatedName?_eq_none_iff.1 (repeatedName?_kept _ files _)).1

/-- A sync that is done reports the schemas that it kept. -/
theorem components_of_run {files : List String} {m₁ : Machine}
    (hscan : ((scanOf s).run : Session (Except Error (List String))) m = (.ok files, m₁))
    (h : (run s : Session (Except Failure Report)) m = (.ok report, m')) :
    report.components.map (·.component) = ((partedOn s files m₁).1.map (·.2)).map (·.component) := by
  obtain ⟨m₂, written, m₃, -, -, -, hresult⟩ := run_eq hscan h
  cases written with
  | error e => cases hresult
  | ok summary =>
    obtain ⟨-, -, milliseconds, hreport⟩ := hresult
    obtain rfl := Except.ok.inj hreport
    rw [List.map_map, List.map_map]
    rfl

/-- In the index that a sync has written, each key of a schema finds this schema exactly where no earlier one has a clashing key:
a component name may be the render type of another schema, a tool name may be that of one with the same render type or the render
type of one, and a render type may be any key of another schema. -/
theorem finds_of_run (h : (run s : Session (Except Failure Report)) m = (.ok report, m')) :
    ∃ files m₁ made p,
      ((scanOf s).run : Session (Except Error (List String))) m = (.ok files, m₁) ∧ m.disk.AddsDirectories made ∧
      made.directory? m.workDir s.outputDir = some p ∧
      report.components.map (·.component) = ((partedOn s files m₁).1.map (·.2)).map (·.component) ∧
      ((∀ name ∈ Artifact.fileNames ((partedOn s files m₁).1.map (·.2)),
          m.disk.IsClear (p ++ [Artifact.temporaryPath name])) →
        Artifact.Written s.outputDir m'.workDir p ((partedOn s files m₁).1.map (·.2)) made m'.disk) ∧
      ∀ before t after, (partedOn s files m₁).1.map (·.2) = before ++ t :: after →
        Index.Finds ⟨before ++ t :: after⟩ before t := by
  obtain ⟨scanned, m₁, hscan⟩ : ∃ scanned m₁, ((scanOf s).run : Session (Except Error (List String))) m = (scanned, m₁) :=
    ⟨_, _, rfl⟩
  cases scanned with
  | error e => cases run_eq_of_scan_error hscan h
  | ok files =>
    obtain ⟨made, p, hmade, hp, -, hwritten⟩ := written_of_run hscan h
    exact ⟨files, m₁, made, p, hscan, hmade, hp, components_of_run hscan h, hwritten,
      fun before t after hkept => (finds_of_mem_partedOn hkept).2⟩

/-! ### Two components with clashing keys -/

/-- A machine with two sources, the one named as the tool of the other, and an empty output directory. -/
def namesakeMachine : Machine :=
  { disk := ⟨[(["src"], .directory),
      (["src", "render-weather-card.tsx"], .file "export function RenderWeatherCard(\x7b title \x7d) \x7b\x7d".toUTF8),
      (["src", "weather-card.tsx"], .file "export function WeatherCard(\x7b title \x7d) \x7b\x7d".toUTF8),
      (["out"], .directory)]⟩ }

def namesakeFiles : List String := ["src/render-weather-card.tsx", "src/weather-card.tsx"]

/-- The scan finds the two sources, in the order of their paths. -/
theorem scan_namesakeMachine :
    ((scanOf cardSettings).run : Session (Except Error (List String))) namesakeMachine =
      (.ok namesakeFiles, (((scanOf cardSettings).run : Session (Except Error (List String))) namesakeMachine).2) := by
  have hselect : (scanOf cardSettings).select [(["render-weather-card.tsx"], .file), (["weather-card.tsx"], .file)] =
      namesakeFiles := by
    rw [Source.Scan.select, List.mergeSort_of_pairwise (by decide +kernel)]
    decide +kernel
  rw [← hselect]
  exact Prod.ext rfl rfl

/-- The sync is done and keeps both. -/
theorem run_eq_ok_namesakeMachine :
    ∃ report m', (run cardSettings : Session (Except Failure Report)) namesakeMachine = (.ok report, m') ∧
      report.components.map (·.component) = ["RenderWeatherCard", "WeatherCard"] := by
  obtain ⟨m₂, hnote⟩ : ∃ m₂, (Host.note (.processing namesakeFiles.length cardSettings.sourceDir) : Session Unit)
      (((scanOf cardSettings).run : Session (Except Error (List String))) namesakeMachine).2 = ((), m₂) := ⟨_, rfl⟩
  obtain ⟨outcomes, m₃, hfiles⟩ : ∃ outcomes m₃,
      (namesakeFiles.mapM (processFile (Source.exclusions cardSettings.exclude)) : Session (List Outcome)) m₂ = (outcomes, m₃) :=
    ⟨_, _, rfl⟩
  -- merge sort does not evaluate, but it keeps what is in order
  have hsorted : byName (compiledOf outcomes) = compiledOf outcomes := by
    refine List.mergeSort_of_pairwise ?_
    obtain rfl := congrArg Prod.snd hnote
    obtain rfl := congrArg Prod.fst hfiles
    decide +kernel
  obtain ⟨r, m', h, hr⟩ : ∃ r m', (run cardSettings : Session (Except Failure Report)) namesakeMachine = (r, m') ∧
      r.toOption.map (·.components.map (·.component)) = some ["RenderWeatherCard", "WeatherCard"] := by
    refine ⟨?result, ?left, ?ran, ?named⟩
    case ran =>
      refine bind_eq_iff.2 ⟨_, _, rfl, bind_eq_iff.2 ⟨_, _, scan_namesakeMachine, ?_⟩⟩
      refine bind_eq_iff.2 ⟨_, _, hnote, bind_eq_iff.2 ⟨_, _, hfiles, ?_⟩⟩
      rw [hsorted]
      rfl
    case named =>
      obtain rfl := congrArg Prod.snd hnote
      obtain rfl := congrArg Prod.fst hfiles
      obtain rfl := congrArg Prod.snd hfiles
      decide +kernel
  obtain ⟨report, hreport, hcomponents⟩ := Option.map_eq_some_iff.1 hr
  exact ⟨report, m', h.trans (Prod.ext (toOption_eq_some_iff.1 hreport) rfl), hcomponents⟩

/-- Nothing is under the temporary names. -/
theorem isClear_namesakeMachine {kept : List Schema} (h : kept.map (·.component) = ["RenderWeatherCard", "WeatherCard"]) :
    ∀ name ∈ Artifact.fileNames kept, namesakeMachine.disk.IsClear (["out"] ++ [Artifact.temporaryPath name]) := by
  have hnone : ∀ name ∈ ["RenderWeatherCard.json", "WeatherCard.json", "index.json"],
      (namesakeMachine.disk.node? (["out"] ++ [Artifact.temporaryPath name])).isNone := by
    decide +kernel
  rw [Artifact.fileNames_eq, h]
  exact fun name hname => Disk.isClear_of_none (Option.isNone_iff_eq_none.1 (hnone name hname))

/-- The output directory is there. -/
theorem directory?_namesakeMachine : namesakeMachine.disk.directory? namesakeMachine.workDir "out" = some ["out"] := by
  decide +kernel

/-- The two schemas are written in the order of their names. -/
theorem exists_namesakes {kept : List Schema} (h : kept.map (·.component) = ["RenderWeatherCard", "WeatherCard"]) :
    ∃ u t, kept = [u] ++ t :: [] ∧ u.component = "RenderWeatherCard" ∧ t.component = "WeatherCard" := by
  obtain ⟨u, rest, rfl, hu, hrest⟩ := List.map_eq_cons_iff.1 h
  obtain ⟨t, none, rfl, ht, hnone⟩ := List.map_eq_cons_iff.1 hrest
  obtain rfl := List.map_eq_nil_iff.1 hnone
  exact ⟨u, t, rfl, hu, ht⟩

/-- The later of the two is found under its component name, which no other schema has for its render type. -/
theorem finds_of_run_namesakeMachine :
    ∃ report m' made u t, (run cardSettings : Session (Except Failure Report)) namesakeMachine = (.ok report, m') ∧
      Artifact.Written "out" m'.workDir ["out"] [u, t] made m'.disk ∧ t.component = "WeatherCard" ∧
      Index.find? ⟨[u, t]⟩ "WeatherCard" = some t := by
  obtain ⟨report, m', h, hcomponents⟩ := run_eq_ok_namesakeMachine
  obtain ⟨files, m₁, made, p, hscan, hmade, hp, hkept, hwritten, hfinds⟩ := finds_of_run h
  obtain rfl : p = ["out"] :=
    Option.some.inj (hp.symm.trans (Disk.directory?_of_addsFiles hmade.addsFiles directory?_namesakeMachine))
  have hnames := hkept.symm.trans hcomponents
  obtain ⟨u, t, hpair, hu, ht⟩ := exists_namesakes hnames
  have hleft := hwritten (isClear_namesakeMachine hnames)
  rw [hpair] at hleft
  refine ⟨report, m', made, u, t, h, hleft, ht, ?_⟩
  have hfind := (hfinds [u] t [] hpair).component.2 (List.forall_mem_singleton.2 ?_)
  · rwa [ht] at hfind
  · rw [Schema.renderType, hu, ht]
    decide +kernel

/-- Its tool name finds the other one: `render_weather_card` is the render type of the component `RenderWeatherCard`. -/
theorem run_namesakeMachine :
    ∃ report m' content text index t, (run cardSettings : Session (Except Failure Report)) namesakeMachine = (.ok report, m') ∧
      m'.disk.node? ["out", "index.json"] = some (.file content) ∧ Host.decode content = .ok text ∧
      Index.ofText text = .ok index ∧ t ∈ index.schemas ∧ t.component = "WeatherCard" ∧ index.find? t.tool.name ≠ some t := by
  obtain ⟨report, m', h, hcomponents⟩ := run_eq_ok_namesakeMachine
  obtain ⟨made, p, hmade, hp, hplace, hwritten⟩ := written_of_run scan_namesakeMachine h
  obtain rfl := hplace _ directory?_namesakeMachine
  have hnames := (components_of_run scan_namesakeMachine h).symm.trans hcomponents
  obtain ⟨u, t, hpair, hu, ht⟩ := exists_namesakes hnames
  obtain ⟨content, text, hnode, hdecode, htext, -⟩ := (hwritten (isClear_namesakeMachine hnames)).index
  rw [hpair] at htext
  refine ⟨report, m', content, text, _, t, h, hnode, hdecode, htext, by simp, ht, fun hfind => ?_⟩
  obtain ⟨hnamesTool, hfinds⟩ := finds_of_mem_partedOn hpair
  have hclash := (List.forall_mem_singleton.1 (hfinds.tool.1 hfind)).2
  rw [(hnamesTool t (by simp)).tool, Schema.renderType, Schema.renderType, hu, ht] at hclash
  exact hclash (by decide +kernel)

end Sync

end RenderCatalog

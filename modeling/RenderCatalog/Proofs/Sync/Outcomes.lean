import Mathlib
import RenderCatalog.Sync

/-!
# What comes of the files of a sync

Every file has one outcome, which depends on what was read of it alone (`outcomeOf`). The outcomes are parted into compiled,
skipped and failed ones, and of the compiled ones the first of each component name is kept while the others fail, so that no
file is lost and none comes twice.
-/

namespace RenderCatalog.Sync

/-- What comes of a file, from what was read of it. -/
def outcomeOf (patterns : List String) (path : String) (read : Except Error String) : Outcome :=
  match read with
  | .error e => .failed ⟨path, e.message⟩
  | .ok source =>
    match Source.extract patterns source path with
    | .error skip => .skipped ⟨path, skip⟩
    | .ok component => .compiled path (Schema.compile component)

/-- The schema that a file compiles to, from what was read of it. -/
def schemaOf? (patterns : List String) (path : String) (read : Except Error String) : Option Schema :=
  read.toOption.bind fun source => (Source.extract patterns source path).toOption.map Schema.compile

/-- The files that compile to a schema, in their order. -/
def compiledFiles (patterns files : List String) (reads : List (Except Error String)) : List (String × Schema) :=
  (files.zip reads).filterMap fun (path, read) => (schemaOf? patterns path read).map (path, ·)

/-- What was compiled is the schema of a component in one of the files. -/
theorem exists_component_of_mem {patterns files : List String} {reads : List (Except Error String)} {path : String}
    {schema : Schema} (h : (path, schema) ∈ compiledFiles patterns files reads) :
    path ∈ files ∧ ∃ source component, Source.extract patterns source path = .ok component ∧ schema = Schema.compile component := by
  obtain ⟨⟨file, read⟩, hmem, hschema⟩ := List.mem_filterMap.1 h
  obtain ⟨schema', hschema', heq⟩ := Option.map_eq_some_iff.1 hschema
  obtain ⟨rfl, rfl⟩ := Prod.mk.inj heq
  refine ⟨(List.of_mem_zip hmem).1, ?_⟩
  obtain ⟨source, -, hsource⟩ := Option.bind_eq_some_iff.1 hschema'
  obtain ⟨component, hcomponent, rfl⟩ := Option.map_eq_some_iff.1 hsource
  refine ⟨source, component, ?_, rfl⟩
  cases hextract : Source.extract patterns source file with
  | error skip =>
    rw [hextract] at hcomponent
    cases hcomponent
  | ok c =>
    rw [hextract] at hcomponent
    rw [Option.some.inj hcomponent]

/-- The compiled outcomes are those of the files that compile to a schema. -/
theorem compiledOf_zipWith (patterns files : List String) (reads : List (Except Error String)) :
    compiledOf (List.zipWith (outcomeOf patterns) files reads) = compiledFiles patterns files reads := by
  induction files generalizing reads with
  | nil => rfl
  | cons path rest ih =>
    cases reads with
    | nil => rfl
    | cons read reads =>
      rw [List.zipWith_cons_cons, compiledFiles, List.zip_cons_cons, List.filterMap_cons, ← compiledFiles, ← ih reads]
      cases read with
      | error e => rfl
      | ok source =>
        simp only [outcomeOf, schemaOf?, Except.toOption, Option.bind_some]
        cases Source.extract patterns source path <;> rfl

/-- The file that an outcome is about. -/
def Outcome.path : Outcome → String
  | .compiled path _ => path
  | .skipped file => file.path
  | .failed file => file.path

/-- An outcome is about its own file. -/
theorem path_outcomeOf (patterns : List String) (path : String) (read : Except Error String) :
    (outcomeOf patterns path read).path = path := by
  cases read with
  | error e => rfl
  | ok source =>
    simp only [outcomeOf]
    cases Source.extract patterns source path <;> rfl

/-- Every outcome is a compiled, a skipped or a failed one. -/
theorem parted_perm (outcomes : List Outcome) :
    ((compiledOf outcomes).map (·.1) ++ (skippedOf outcomes).map (·.path) ++ (failedOf outcomes).map (·.path)).Perm
      (outcomes.map (·.path)) := by
  induction outcomes with
  | nil => exact List.Perm.refl _
  | cons o rest ih =>
    rw [List.map_cons]
    cases o with
    | compiled path schema => exact ih.cons path
    | skipped file =>
      refine List.Perm.trans ?_ (ih.cons file.path)
      change (_ ++ file.path :: _ ++ _).Perm _
      rw [List.append_assoc, List.cons_append]
      refine List.perm_middle.trans ?_
      rw [← List.append_assoc]
      rfl
    | failed file =>
      refine List.Perm.trans ?_ (ih.cons file.path)
      exact List.perm_middle

/-! ## One schema for each component name -/

/-- The schemas of a list that have a component name. -/
def named (name : String) (compiled : List (String × Schema)) : List (String × Schema) :=
  compiled.filter (·.2.component == name)

/-- A schema with the name counts. -/
theorem named_cons_of_eq {name path : String} {schema : Schema} (h : schema.component = name)
    (rest : List (String × Schema)) : named name ((path, schema) :: rest) = (path, schema) :: named name rest :=
  List.filter_cons_of_pos (by simpa using h)

/-- A schema with another name does not. -/
theorem named_cons_of_ne {name path : String} {schema : Schema} (h : schema.component ≠ name)
    (rest : List (String × Schema)) : named name ((path, schema) :: rest) = named name rest :=
  List.filter_cons_of_neg (by simpa using h)

/-- Of the schemas with one component name the first is kept, unless the name was kept before, and all others are repetitions. -/
theorem named_keepFirst (kept : List (String × String)) (compiled : List (String × Schema)) (name : String) :
    named name (keepFirst kept compiled).1 = (named name compiled).take (if (kept.lookup name).isSome then 0 else 1) ∧
      ((keepFirst kept compiled).2.filter (·.component == name)).map (·.path) =
        ((named name compiled).drop (if (kept.lookup name).isSome then 0 else 1)).map (·.1) := by
  induction compiled generalizing kept with
  | nil => simp [keepFirst, named]
  | cons e rest ih =>
    obtain ⟨path, schema⟩ := e
    rw [keepFirst]
    by_cases hname : schema.component = name
    · rw [named_cons_of_eq hname]
      subst hname
      cases hkept : kept.lookup schema.component with
      | some existing => simp [ih, hkept]
      | none => simp [named_cons_of_eq rfl, ih]
    · rw [named_cons_of_ne hname]
      cases hkept : kept.lookup schema.component with
      | some existing => simp [hname, ih]
      | none =>
        have hlookup : ((schema.component, path) :: kept).lookup name = kept.lookup name := by
          rw [List.lookup_cons, beq_false_of_ne (Ne.symm hname)]
        simp only [named_cons_of_ne hname, ih, hlookup, and_self]

/-- Every schema is kept or is a repetition. -/
theorem keepFirst_perm (kept : List (String × String)) (compiled : List (String × Schema)) :
    ((keepFirst kept compiled).1.map (·.1) ++ (keepFirst kept compiled).2.map (·.path)).Perm (compiled.map (·.1)) := by
  induction compiled generalizing kept with
  | nil => exact List.Perm.refl _
  | cons e rest ih =>
    obtain ⟨path, schema⟩ := e
    rw [keepFirst]
    split
    · exact List.perm_middle.trans ((ih kept).cons path)
    · exact (ih _).cons path

/-- The schemas that are kept stay in their order. -/
theorem keepFirst_sublist (kept : List (String × String)) (compiled : List (String × Schema)) :
    (keepFirst kept compiled).1.Sublist compiled := by
  induction compiled generalizing kept with
  | nil => exact List.Sublist.slnil
  | cons e rest ih =>
    obtain ⟨path, schema⟩ := e
    rw [keepFirst]
    split
    · exact (ih kept).cons _
    · exact (ih _).cons_cons _

/-! ## The order of the names -/

/-- Sorting by name loses nothing. -/
theorem byName_perm (compiled : List (String × Schema)) : (byName compiled).Perm compiled := List.mergeSort_perm _ _

/-- The order by name is transitive. -/
theorem le_trans_byName (a b c : String × Schema) (hab : (!decide (b.2.component < a.2.component)) = true)
    (hbc : (!decide (c.2.component < b.2.component)) = true) : (!decide (c.2.component < a.2.component)) = true := by
  simp only [Bool.not_eq_true', decide_eq_false_iff_not, String.not_lt] at hab hbc ⊢
  exact String.le_trans hab hbc

/-- The order by name is total. -/
theorem le_total_byName (a b : String × Schema) :
    (!decide (b.2.component < a.2.component) || !decide (a.2.component < b.2.component)) = true := by
  simp only [Bool.or_eq_true, Bool.not_eq_true', decide_eq_false_iff_not, String.not_lt]
  exact String.le_total _ _

/-- The schemas with one component name keep their order. -/
theorem named_byName (name : String) (compiled : List (String × Schema)) : named name (byName compiled) = named name compiled := by
  have hsorted : (named name compiled).Pairwise fun a b => (!decide (b.2.component < a.2.component)) = true := by
    refine List.pairwise_of_forall_mem_list fun a ha b hb => ?_
    have hname : ∀ e ∈ named name compiled, e.2.component = name := fun e he => by simpa using (List.mem_filter.1 he).2
    rw [hname a ha, hname b hb]
    simp
  have hsublist : (named name compiled).Sublist (byName compiled) :=
    List.sublist_mergeSort le_trans_byName le_total_byName hsorted List.filter_sublist
  have hnamed : (named name compiled).Sublist (named name (byName compiled)) := by
    have hfiltered := hsublist.filter (·.2.component == name)
    have hsame : (named name compiled).filter (·.2.component == name) = named name compiled :=
      List.filter_eq_self.2 fun e he => (List.mem_filter.1 he).2
    rwa [hsame] at hfiltered
  exact (hnamed.eq_of_length ((byName_perm compiled).filter _).length_eq.symm).symm

/-- No name is kept twice. -/
theorem nodup_keepFirst (compiled : List (String × Schema)) : ((keepFirst [] compiled).1.map (·.2.component)).Nodup := by
  rw [List.nodup_iff_count_le_one]
  intro name
  have hcount : ((keepFirst [] compiled).1.map (·.2.component)).count name = (named name (keepFirst [] compiled).1).length := by
    rw [List.count, List.countP_map, List.countP_eq_length_filter]
    rfl
  rw [hcount, (named_keepFirst [] compiled name).1]
  exact List.length_take_le _ _

/-- The names of the schemas that are kept rise strictly. -/
theorem keepFirst_rising (compiled : List (String × Schema)) :
    ((keepFirst [] (byName compiled)).1.map (·.2.component)).Pairwise (· < ·) := by
  have hsorted := (List.pairwise_mergeSort le_trans_byName le_total_byName compiled).sublist
    (keepFirst_sublist [] (byName compiled))
  have hle : ((keepFirst [] (byName compiled)).1.map (·.2.component)).Pairwise (· ≤ ·) := by
    refine List.pairwise_map.2 (hsorted.imp fun {a b} hab => ?_)
    simpa only [Bool.not_eq_true', decide_eq_false_iff_not, String.not_lt] using hab
  exact (hle.and (nodup_keepFirst (byName compiled))).imp fun hab => lt_of_le_of_ne hab.1 hab.2

/-! ## The account of a report -/

/-- There is one outcome for each file, in their order. -/
theorem paths_zipWith (patterns : List String) {files : List String} {reads : List (Except Error String)}
    (h : reads.length = files.length) : (List.zipWith (outcomeOf patterns) files reads).map (·.path) = files := by
  induction files generalizing reads with
  | nil => rfl
  | cons path rest ih =>
    cases reads with
    | nil => cases h
    | cons read reads => rw [List.zipWith_cons_cons, List.map_cons, path_outcomeOf, ih (Nat.succ.inj h)]

/-- The schemas that are kept, in the order of their names, and the files that repeat a name. -/
def parted (patterns files : List String) (reads : List (Except Error String)) : List (String × Schema) × List Repetition :=
  keepFirst [] (byName (compiledFiles patterns files reads))

/-- A report accounts for the files of a scan, from what was read of them: every file is once among the sources of the
components, the skipped and the failed ones; the components are those of the kept schemas and rise strictly by name; and of the
files that compile to one name the first is kept and every later one has failed. -/
structure Report.Accounts (patterns files : List String) (reads : List (Except Error String)) (kept : List (String × Schema))
    (report : Report) : Prop where
  once : (report.components.map (·.source) ++ report.skipped.map (·.path) ++ report.failed.map (·.path)).Perm files
  components : report.components = kept.map fun (path, schema) => writtenOf report.outputDir path schema
  rising : (report.components.map (·.component)).Pairwise (· < ·)
  first : ∀ name, named name kept = (named name (compiledFiles patterns files reads)).take 1
  later : ∀ name, ∀ e ∈ (named name (compiledFiles patterns files reads)).drop 1, e.1 ∈ report.failed.map (·.path)

/-- A report that lists the kept schemas, the skipped outcomes, and the failed outcomes with the repetitions, accounts for all
files. -/
theorem Report.Accounts.of_parted {patterns files : List String} {reads : List (Except Error String)} {report : Report}
    (hlength : reads.length = files.length)
    (hcomponents : report.components =
      (parted patterns files reads).1.map fun (path, schema) => writtenOf report.outputDir path schema)
    (hskipped : report.skipped = skippedOf (List.zipWith (outcomeOf patterns) files reads))
    (hfailed : report.failed = failedOf (List.zipWith (outcomeOf patterns) files reads) ++
      (parted patterns files reads).2.map (·.failed)) :
    report.Accounts patterns files reads (parted patterns files reads).1 := by
  have hsources : report.components.map (·.source) = (parted patterns files reads).1.map (·.1) := by
    rw [hcomponents, List.map_map]
    rfl
  have hnames : report.components.map (·.component) = (parted patterns files reads).1.map (·.2.component) := by
    rw [hcomponents, List.map_map]
    rfl
  have hrepeated : ((parted patterns files reads).2.map (·.failed)).map (·.path) = (parted patterns files reads).2.map (·.path) := by
    rw [List.map_map]
    rfl
  refine ⟨?_, hcomponents, ?_, fun name => ?_, fun name e he => ?_⟩
  · have houtcomes := parted_perm (List.zipWith (outcomeOf patterns) files reads)
    rw [paths_zipWith patterns hlength, compiledOf_zipWith] at houtcomes
    have hkept := (keepFirst_perm [] (byName (compiledFiles patterns files reads))).trans ((byName_perm _).map _)
    rw [hsources, hskipped, hfailed, List.map_append, hrepeated]
    rw [List.perm_iff_count] at houtcomes hkept ⊢
    intro path
    have hcount := houtcomes path
    have hcount' := hkept path
    simp only [List.count_append] at hcount hcount' ⊢
    rw [← hcount, ← hcount', parted]
    omega
  · rw [hnames]
    exact keepFirst_rising _
  · rw [parted, (named_keepFirst [] _ name).1, named_byName]
    rfl
  · have hlater := (named_keepFirst [] (byName (compiledFiles patterns files reads)) name).2
    have hmem : e.1 ∈ ((parted patterns files reads).2.filter (·.component == name)).map (·.path) := by
      rw [parted, hlater, named_byName]
      exact List.mem_map_of_mem he
    rw [hfailed, List.map_append, hrepeated]
    exact List.mem_append_right _ ((List.filter_sublist.map _).subset hmem)

end RenderCatalog.Sync

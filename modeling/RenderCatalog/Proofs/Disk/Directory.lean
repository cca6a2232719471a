import RenderCatalog.Proofs.Disk.Resolve
import RenderCatalog.Proofs.Machine

/-!
# Paths that lead to a directory

A path is one of a directory when a directory is found at it. Then the directory has a place below which its files are, and
adding files does not change that: only directories and links are passed on the way. Where directories were made, their path is
one of a directory.
-/

namespace RenderCatalog

namespace Disk

variable {d d' : Disk} {aim : Aim} {workDir p q : Place} {path name : String}

/-- There is a directory at a path when the path leads to one. -/
theorem look?_eq_directory_iff :
    d.look? workDir path = some .directory ↔
      ∃ q, d.resolve .target workDir path = .ok q ∧ d.node? q = some .directory := by
  simp only [look?, Option.bind_eq_some_iff, toOption_eq_some_iff]

/-! ## The way to a directory -/

/-- Names that go nowhere: empty ones, as behind a slash at the end, and points. -/
def AllSkipped (names : List (List Char)) : Prop := ∀ name ∈ names, name = [] ∨ name = ['.']

/-- Names that go nowhere are walked through. -/
theorem walk_skipped {tail : List (List Char)} (htail : AllSkipped tail)
    (follow : Place → String → List (List Char) → Except OsError Place) (here : Place) :
    d.walk aim follow here tail = .ok here := by
  induction tail with
  | nil => rfl
  | cons name rest ih =>
    obtain ⟨hname, hrest⟩ := List.forall_mem_cons.1 htail
    rw [walk, if_pos hname]
    exact ih hrest

/-- A walk that ended in a directory passed nothing but directories and links. It ends there where more of these are, and
whatever names that go nowhere stand at its end. -/
theorem walk_directory (hd : d.AddsFiles d') (hq : d'.node? q = some .directory) {tail tail' : List (List Char)}
    (htail : AllSkipped tail) (htail' : AllSkipped tail')
    {follow follow' : Place → String → List (List Char) → Except OsError Place}
    (hfollow : ∀ here target rest, follow here target (rest ++ tail) = .ok q → follow' here target (rest ++ tail') = .ok q)
    (names : List (List Char)) (here : Place) (h : d'.walk .target follow here (names ++ tail) = .ok q) :
    d.walk .target follow' here (names ++ tail') = .ok q := by
  induction names generalizing here with
  | nil =>
    rw [List.nil_append, walk_skipped htail] at h
    rw [List.nil_append, walk_skipped htail', h]
  | cons first rest ih =>
    rw [List.cons_append, walk_cons_eq_ok_iff] at h ⊢
    cases h with
    | stay hstay h => exact .stay hstay (ih here h)
    | up hup h => exact .up hup (ih here.dropLast h)
    | down hstep hnode h => exact .down hstep.toTarget (hd.node? hnode (by nofun)) (ih _ h)
    | link hstep target hnode _ h =>
      exact .link hstep.toTarget target (hd.node? hnode (by nofun)) (by simp) (hfollow here target rest h)
    -- anything else is only passed at the very end, which would be no directory
    | stop _ hnode _ _ hend => exact absurd hq (hend ▸ hnode)

/-- A directory that is found on the disk with more files was found before, since no file is on the way to it. -/
theorem resolveFrom_directory (hd : d.AddsFiles d') (hq : d'.node? q = some .directory) {tail tail' : List (List Char)}
    (htail : AllSkipped tail) (htail' : AllSkipped tail') (budget : Nat) (names : List (List Char)) (here : Place)
    (h : d'.resolveFrom .target budget here (names ++ tail) = .ok q) :
    d.resolveFrom .target budget here (names ++ tail') = .ok q := by
  induction budget generalizing names here with
  | zero => exact walk_directory hd hq htail htail' (fun _ _ _ hf => by cases hf) names here h
  | succ budget ih =>
    refine walk_directory hd hq htail htail' (fun here target rest hf => ?_) names here h
    rw [← List.append_assoc] at hf ⊢
    exact ih _ _ hf

/-- A directory that is found at a path is found there on a disk with the same directories and links. -/
theorem look?_of_addsFiles (hd : d.AddsFiles d') (h : d'.look? workDir path = some .directory) :
    d.look? workDir path = some .directory := by
  obtain ⟨q, hq, hnode⟩ := look?_eq_directory_iff.1 h
  obtain ⟨hnul, hlong, hne, hstart, hfrom⟩ := resolve_eq_ok_iff.1 hq
  have hnil : AllSkipped [] := List.forall_mem_nil _
  rw [← List.append_nil (names path)] at hfrom
  have hsame := resolveFrom_directory hd hnode hnil hnil linkBudget (names path) _ hfrom
  rw [List.append_nil] at hsame
  have hq' : d.resolve .target workDir path = .ok q :=
    resolve_eq_ok_iff.2 ⟨hnul, hlong, hne, hd.node? hstart (by nofun), hsame⟩
  exact look?_eq_directory_iff.2 ⟨q, hq', hd.node? hnode (by nofun)⟩

/-- The names of a path are its pieces, and what goes nowhere behind them. -/
theorem exists_names_eq (path : String) : ∃ tail, AllSkipped tail ∧ names path = Path.pieces path.toList ++ tail := by
  rw [names]
  split
  · exact ⟨[[]], List.forall_mem_singleton.2 (Or.inl rfl), rfl⟩
  · exact ⟨[], List.forall_mem_nil _, (List.append_nil _).symm⟩

/-- A directory that is found at a path has a place, when the path is short enough to be continued. -/
theorem directory?_of_look? (hlong : isTooLong (Path.join path ".") = false) (h : d.look? workDir path = some .directory) :
    (d.directory? workDir path).isSome := by
  obtain ⟨q, hq, hnode⟩ := look?_eq_directory_iff.1 h
  obtain ⟨hnul, -, -, hstart, hfrom⟩ := resolve_eq_ok_iff.1 hq
  obtain ⟨tail, htail, hnames⟩ := exists_names_eq path
  rw [hnames] at hfrom
  have hdot : '/' ∉ ".".toList := by decide
  have hnul' : '\x00' ∉ (Path.join path ".").toList := by
    rw [Path.toList_join hdot, List.mem_append, not_or]
    exact ⟨fun hmem => hnul (Path.mem_of_mem_front hmem (by decide)), by decide⟩
  have hne' : Path.join path "." ≠ "" := by
    rw [← String.toList_inj.ne, Path.toList_join hdot]
    simp
  have hq' : d.resolve .target workDir (Path.join path ".") = .ok q := by
    rw [resolve_eq_ok_iff, Path.isAbsolute_join hdot, names_join (by decide) hdot]
    exact ⟨hnul', hlong, hne', hstart, resolveFrom_directory (AddsFiles.refl d) hnode htail
      (List.forall_mem_singleton.2 (Or.inr rfl)) linkBudget _ _ hfrom⟩
  rw [directory?_eq_some_iff.2 hq']
  rfl

/-! ## A directory that was made -/

/-- Behind the last name of a path nothing goes anywhere. -/
theorem allSkipped_of_last {rest : List (List Char)} (h : (rest.isEmpty || isSlashOnly rest) = true) : AllSkipped rest := by
  rcases Bool.or_eq_true_iff.1 h with hempty | hslash
  · rw [List.isEmpty_iff.1 hempty]
    exact List.forall_mem_nil _
  · rw [beq_iff_eq.1 hslash]
    exact List.forall_mem_singleton.2 (Or.inl rfl)

/-- The place where a directory is made is the one that its path leads to afterwards. -/
theorem walk_made (hp : d.node? p = none) {follow follow' : Place → String → List (List Char) → Except OsError Place}
    (hfollow : ∀ here target rest, follow here target rest = .ok p → follow' here target rest = .ok p)
    (names : List (List Char)) (here : Place) (h : d.walk .newDirectory follow here names = .ok p) :
    (d.put p .directory).walk .target follow' here names = .ok p := by
  have hself : (d.put p .directory).node? p = some .directory := node?_put_self _ (ne_nil_of_node?_ne (by rw [hp]; simp))
  induction names generalizing here with
  | nil =>
    rw [walk] at h ⊢
    exact h
  | cons first rest ih =>
    have hother : ∀ {q n}, d.node? q = some n → (d.put p .directory).node? q = some n := by
      intro q n hnode
      rw [node?_put_of_ne _ fun heq => by rw [heq, hp] at hnode; cases hnode]
      exact hnode
    rw [walk_cons_eq_ok_iff] at h ⊢
    cases h with
    | stay hstay h => exact .stay hstay (ih here h)
    | up hup h => exact .up hup (ih here.dropLast h)
    | down hstep hnode h => exact .down hstep.toTarget (hother hnode) (ih _ h)
    | link hstep target hnode _ h => exact .link hstep.toTarget target (hother hnode) (by simp) (hfollow here target rest h)
    -- the walk ended where nothing was, so what is left of the names goes nowhere
    | stop hstep _ _ hlast hend =>
      refine .down hstep.toTarget (hend ▸ hself) ?_
      rw [hend]
      exact walk_skipped (allSkipped_of_last hlast) _ _

/-- The way to a directory that is made leads to it afterwards. -/
theorem resolveFrom_made (hp : d.node? p = none) (budget : Nat) (names : List (List Char)) (here : Place)
    (h : d.resolveFrom .newDirectory budget here names = .ok p) :
    (d.put p .directory).resolveFrom .target budget here names = .ok p := by
  induction budget generalizing names here with
  | zero => exact walk_made hp (fun _ _ _ hf => by cases hf) names here h
  | succ budget ih => exact walk_made hp (fun _ _ _ hf => ih _ _ hf) names here h

/-- A directory that was made is found at its path. -/
theorem look?_makeDir (h : d.makeDir workDir path = .ok d') : d'.look? workDir path = some .directory := by
  obtain ⟨p, hp, hnone, rfl⟩ := makeDir_eq_ok h
  have hne : p ≠ [] := ne_nil_of_node?_ne (by rw [hnone]; simp)
  obtain ⟨hnul, hlong, hempty, hstart, hfrom⟩ := resolve_eq_ok_iff.1 hp
  refine look?_eq_directory_iff.2 ⟨p, ?_, node?_put_self _ hne⟩
  exact resolve_eq_ok_iff.2 ⟨hnul, hlong, hempty, (addsDirectories_makeDir h).node? hstart, resolveFrom_made hnone linkBudget _ _ hfrom⟩

end Disk

namespace Machine

variable {m m' : Machine} {path : String}

/-- What is of the kind of a directory is one. -/
theorem map_kind_eq_directory_iff {n? : Option Node} : n?.map Node.kind = some .directory ↔ n? = some .directory := by
  cases n? with
  | none => simp
  | some n => cases n <;> simp [Node.kind]

/-- Asking for a directory tells whether one is there. -/
theorem isDir_eq_iff {b : Bool} :
    (Host.isDir path : Session Bool) m = (b, m') ↔ (b = true ↔ m.disk.look? m.workDir path = some .directory) ∧ m = m' := by
  change ((m.disk.look? m.workDir path).map Node.kind == some .directory, m) = (b, m') ↔ _
  rw [Prod.mk.injEq, ← map_kind_eq_directory_iff, Bool.eq_iff_iff, beq_iff_eq]
  exact and_congr_left' iff_comm

/-- A directory is found where making it is no refusal, or one that does not matter. -/
theorem look?_orIsDir {r : Except OsError Unit} (hr : r = .ok () → m.disk.look? m.workDir path = some .directory)
    (h : (Host.orIsDir path r : Session (Except OsError Unit)) m = (.ok (), m')) :
    m'.disk.look? m'.workDir path = some .directory := by
  cases r with
  | ok _ =>
    obtain ⟨-, rfl⟩ := pure_eq_iff.1 h
    exact hr rfl
  | error e =>
    obtain ⟨b, m₁, hdir, h⟩ := bind_eq_iff.1 h
    obtain ⟨hb, rfl⟩ := isDir_eq_iff.1 hdir
    cases b with
    | true =>
      obtain ⟨-, rfl⟩ := pure_eq_iff.1 h
      exact hb.1 rfl
    | false => cases (pure_eq_iff.1 h).1

/-- A directory that was made is there. -/
theorem look?_of_makeDir {r : Except OsError Unit} (h : (Host.makeDir path : Session (Except OsError Unit)) m = (r, m')) :
    r = .ok () → m'.disk.look? m'.workDir path = some .directory := by
  rintro rfl
  obtain ⟨hdisk, hworkDir⟩ := change_eq_ok h
  rw [hworkDir]
  exact Disk.look?_makeDir hdisk

/-- Where directories were made, one is found at their path. -/
theorem look?_makeDirsFrom {up : List Path.Part}
    (h : (Host.makeDirsFrom path up : Session (Except OsError Unit)) m = (.ok (), m')) :
    m'.disk.look? m'.workDir path = some .directory := by
  cases up with
  | nil =>
    obtain ⟨r, m₁, hmake, h⟩ := bind_eq_iff.1 h
    exact look?_orIsDir (look?_of_makeDir hmake) h
  | cons part up =>
    obtain ⟨r, m₁, hmake, h⟩ := bind_eq_iff.1 h
    split at h
    · obtain ⟨r', m₂, -, h⟩ := bind_eq_iff.1 h
      split at h
      · obtain ⟨r'', m₃, hmake', h⟩ := bind_eq_iff.1 h
        exact look?_orIsDir (look?_of_makeDir hmake') h
      · cases (pure_eq_iff.1 h).1
    · exact look?_orIsDir (look?_of_makeDir hmake) h

/-- A directory is there after it was made with all on the way to it. -/
theorem look?_makeDirs (hne : path ≠ "") (h : (Host.makeDirs path : Session (Except OsError Unit)) m = (.ok (), m')) :
    m'.disk.look? m'.workDir path = some .directory := by
  rw [Host.makeDirs] at h
  cases hparts : (Path.parts path).reverse with
  | nil => exact absurd (List.reverse_eq_nil_iff.1 hparts) (Path.parts_ne_nil hne)
  | cons last up =>
    rw [hparts] at h
    exact look?_makeDirsFrom h

end Machine

end RenderCatalog

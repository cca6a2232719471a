import RenderCatalog.Proofs.Component.Spelling
import RenderCatalog.Proofs.Json.Entries
import RenderCatalog.Proofs.Path.Extension
import RenderCatalog.Proofs.Path.Order
import RenderCatalog.Proofs.Source.Scan

/-!
# What a scan lists

A scan of a directory tree lists the files that it is to find (`Scan.Seeks`), all of them and nothing else, each once and in the
order of their paths (`run_lists`). In whatever order the disk lists the tree, the files are the same; a scan that stays in the
directory gives the part of the deep one that is at depth one; and of the extensions it matters only which texts they are without
their points and in small letters.

An extension that is nothing but points is left out, so a file whose name ends in a point is never found, though its extension is
then the same empty text (`run_emptyExtension`).
-/

namespace RenderCatalog

/-! ## Small letters -/

namespace Text

/-- The small form of a character is no empty text. -/
theorem small_ne_nil (c : Char) : small c ≠ [] := by
  unfold small
  split
  · simp
  · split <;> simp

/-- Only an empty text has an empty small form. -/
theorem lowercase_eq_nil_iff {cs : List Char} : lowercase cs = [] ↔ cs = [] := by
  cases cs with
  | nil => exact ⟨fun _ => rfl, fun _ => rfl⟩
  | cons c rest =>
    simp only [lowercase, lowercaseAfter, List.append_eq_nil_iff, reduceCtorEq, iff_false, not_and]
    intro hnil
    split at hnil
    · cases hnil
    · exact absurd hnil (small_ne_nil c)

end Text

/-! ## Directory trees -/

namespace Disk

/-- The disk of a directory tree: every place is listed once, in whatever order, by names that a file can have. -/
structure IsTree (d : Disk) : Prop extends d.Sound where
  proper : ∀ e ∈ d.nodes, ∀ name ∈ e.1, name.toList ≠ ['.'] ∧ name.toList ≠ ['.', '.']

variable {d : Disk} {p q : Place} {names : List String}

/-- On a sound disk is at a place what is listed for it. -/
theorem Sound.node?_eq_some_iff (h : d.Sound) (hne : q ≠ []) {n : Node} : d.node? q = some n ↔ (q, n) ∈ d.nodes := by
  rw [node?_of_ne_nil hne]
  exact ⟨Json.mem_of_lookup_eq_some, Json.lookup_of_mem h.nodup⟩

/-- What is listed below a place is what is at the places below it. -/
theorem Sound.mem_below (h : d.Sound) {kind : NodeKind} :
    (names, kind) ∈ d.below p ↔ names ≠ [] ∧ ∃ n, d.node? (p ++ names) = some n ∧ n.kind = kind := by
  unfold below
  rw [List.mem_filterMap]
  constructor
  · rintro ⟨⟨q, n⟩, hmem, heq⟩
    dsimp only at heq
    split at heq
    · rename_i hbelow
      simp only [Bool.and_eq_true, List.isPrefixOf_iff_prefix, decide_eq_true_eq] at hbelow
      obtain ⟨⟨rest, rfl⟩, hlength⟩ := hbelow
      obtain ⟨rfl, rfl⟩ := Prod.mk.inj (Option.some.inj heq)
      have hrest : rest ≠ [] := by
        rintro rfl
        exact absurd hlength (by rw [List.append_nil]; exact lt_irrefl _)
      rw [List.drop_left]
      exact ⟨hrest, n, (h.node?_eq_some_iff (by simp [hrest])).2 hmem, rfl⟩
    · cases heq
  · rintro ⟨hne, n, hnode, rfl⟩
    refine ⟨(p ++ names, n), (h.node?_eq_some_iff (by simp [hne])).1 hnode, ?_⟩
    have hlength : p.length < (p ++ names).length := by
      have := List.length_pos_of_ne_nil hne
      rw [List.length_append]
      omega
    have hbelow : p.isPrefixOf (p ++ names) = true := List.isPrefixOf_iff_prefix.2 (List.prefix_append p names)
    simp only [hbelow, hlength, decide_true, Bool.and_true, if_true, List.drop_left]

/-- In a tree every name that something has is one that a path can lead to. -/
theorem IsTree.isName (h : d.IsTree) {n : Node} (hne : names ≠ []) (hnode : d.node? (p ++ names) = some n) :
    ∀ name ∈ names, Path.IsName name := by
  intro name hname
  have hmem := (h.toSound.node?_eq_some_iff (by simp [hne])).1 hnode
  obtain ⟨hempty, hslash⟩ := h.names _ hmem name (List.mem_append_right p hname)
  obtain ⟨hdot, hdots⟩ := h.proper _ hmem name (List.mem_append_right p hname)
  exact ⟨hempty, hslash, hdot, hdots⟩

/-- What lies below a place of a tree has names that a place is made of. -/
theorem IsTree.isPlace (h : d.IsTree) {n : Node} (hne : names ≠ []) (hnode : d.node? (p ++ names) = some n) : IsPlace names := by
  intro name hname
  have hproper := h.isName hne hnode name hname
  exact ⟨hproper.nonempty, hproper.no_slash⟩

end Disk

namespace Source

open Machine

variable {s : Scan} {m m' : Machine} {files : List String} {listing : List (List String × NodeKind)} {p : Place}
  {names : List String}

/-! ## What is selected -/

/-- A name is accepted for its last extension: one that is not empty and, in small letters, one of the extensions of the scan
without the points before it. -/
def Scan.Accepts (s : Scan) (name : String) : Prop :=
  ∃ extension, Path.HasExtension name.toList extension ∧ extension ≠ [] ∧
    ∃ e ∈ s.extensions, Text.lowercase extension = Text.lowercase (e.toList.dropWhile (· == '.'))

/-- The files that a scan is to find in a tree: regular ones below the place of the root, at depth one unless the scan is
recursive, under a name that is accepted. -/
structure Scan.Seeks (s : Scan) (d : Disk) (p : Place) (names : List String) : Prop where
  below : names ≠ []
  shallow : s.recursive = true ∨ names.length = 1
  regular : ∃ content number?, d.node? (p ++ names) = some (.file content number?)
  accepted : ∃ name, names.getLast? = some name ∧ s.Accepts name

/-- Whether a file is accepted depends on its name, not on its directory. -/
theorem accepts_join_iff {name : String} (h : Path.IsName name) (directory : String) :
    s.accepts (Path.join directory name) = true ↔ s.Accepts name := by
  have hextension : Path.extension? (Path.join directory name) = (Path.splitAtPoint name.toList).2.map String.ofList := by
    rw [Path.extension?, Path.fileName?_join h]
    rfl
  unfold Scan.accepts Scan.Accepts
  rw [hextension]
  simp only [← Path.splitAtPoint_eq_some_iff h.not_dots]
  cases (Path.splitAtPoint name.toList).2 with
  | none => simp
  | some extension =>
    simp only [Option.map_some, String.toList_ofList, Scan.accepted, List.contains_iff_mem, List.mem_filter, List.mem_map,
      normalExtension, Option.some.injEq, exists_eq_left', Bool.not_eq_true', List.isEmpty_eq_false_iff, ne_eq,
      Text.lowercase_eq_nil_iff]
    constructor
    · rintro ⟨⟨e, he, heq⟩, hne⟩
      exact ⟨hne, e, he, heq.symm⟩
    · rintro ⟨hne, e, he, heq⟩
      exact ⟨⟨e, he, heq.symm⟩, hne⟩

/-- The path of what lies below a directory ends in its last name. -/
theorem below_eq_join {name : String} (h : names.getLast? = some name) (root : String) :
    ∃ directory, Path.below root names = Path.join directory name := by
  obtain ⟨init, rfl⟩ := List.getLast?_eq_some_iff.1 h
  exact ⟨Path.below root init, by rw [Path.below, Path.below, List.foldl_append]; rfl⟩

/-- The paths that are selected are those of accepted files, flat ones only without recursion. -/
theorem mem_select {path : String} : path ∈ s.select listing ↔
    ∃ names, (names, .file) ∈ listing ∧ (s.recursive = true ∨ names.length = 1) ∧ s.accepts (Path.below s.root names) = true ∧
      path = Path.below s.root names := by
  unfold Scan.select
  rw [List.mem_mergeSort, List.mem_filterMap]
  constructor
  · rintro ⟨⟨names, kind⟩, hmem, heq⟩
    simp only at heq
    split at heq
    · rename_i hselected
      simp only [Bool.and_eq_true, Bool.or_eq_true, beq_iff_eq] at hselected
      obtain ⟨⟨rfl, hdepth⟩, haccepts⟩ := hselected
      exact ⟨names, hmem, hdepth, haccepts, (Option.some.inj heq).symm⟩
    · cases heq
  · rintro ⟨names, hmem, hdepth, haccepts, rfl⟩
    refine ⟨(names, .file), hmem, if_pos ?_⟩
    simp only [Bool.and_eq_true, Bool.or_eq_true, beq_iff_eq]
    exact ⟨⟨trivial, hdepth⟩, haccepts⟩

/-- Of a tree the files are selected that the scan seeks. -/
theorem mem_select_below_iff (h : m.disk.IsTree) {path : String} :
    path ∈ s.select (m.disk.below p) ↔ ∃ names, s.Seeks m.disk p names ∧ path = Path.below s.root names := by
  rw [mem_select]
  refine exists_congr fun names => ?_
  rw [h.toSound.mem_below]
  constructor
  · rintro ⟨⟨hne, n, hnode, hkind⟩, hdepth, haccepts, hpath⟩
    have hlast := List.getLast?_eq_getLast_of_ne_nil hne
    generalize names.getLast hne = name at hlast
    obtain ⟨directory, hjoin⟩ := below_eq_join hlast s.root
    have hname := h.isName hne hnode name (List.mem_of_getLast? hlast)
    rw [hjoin, accepts_join_iff hname] at haccepts
    cases n with
    | file content number? => exact ⟨⟨hne, hdepth, ⟨content, number?, hnode⟩, name, hlast, haccepts⟩, hpath⟩
    | directory => cases hkind
    | link target => cases hkind
    | device => cases hkind
  · rintro ⟨⟨hne, hdepth, ⟨content, number?, hnode⟩, name, hlast, haccepts⟩, hpath⟩
    obtain ⟨directory, hjoin⟩ := below_eq_join hlast s.root
    have hname := h.isName hne hnode name (List.mem_of_getLast? hlast)
    refine ⟨⟨hne, _, hnode, rfl⟩, hdepth, ?_, hpath⟩
    rw [hjoin, accepts_join_iff hname]
    exact haccepts

/-- A file directly in the directory of a scan is selected when its name is accepted. -/
theorem mem_select_file_iff (h : m.disk.IsTree) {name : String} {content : ByteArray} {number? : Option Nat}
    (hfile : m.disk.node? (p ++ [name]) = some (.file content number?)) :
    Path.join s.root name ∈ s.select (m.disk.below p) ↔ s.Accepts name := by
  rw [mem_select_below_iff h]
  constructor
  · rintro ⟨names, ⟨hne, -, ⟨content', number?', hnode⟩, last, hlast, haccepts⟩, hpath⟩
    obtain rfl := Disk.below_inj (h.isPlace (by simp) hfile) (h.isPlace hne hnode) hpath
    obtain rfl : name = last := Option.some.inj hlast
    exact haccepts
  · intro haccepts
    exact ⟨[name], ⟨by simp, Or.inr rfl, ⟨content, number?, hfile⟩, name, rfl, haccepts⟩, rfl⟩

/-- The files of a tree are selected in strict order. -/
theorem pairwise_select (h : m.disk.IsTree) :
    (s.select (m.disk.below p)).Pairwise fun a b => Path.less a b = true := by
  unfold Scan.select
  apply Path.pairwise_mergeSort
  rw [List.Nodup, List.pairwise_map, List.pairwise_filterMap]
  have hnodup := (listed_below h.toSound p).nodup
  rw [List.Nodup, List.pairwise_map] at hnodup
  refine hnodup.imp_of_mem fun {e e'} he he' hne path hpath path' hpath' heq => hne ?_
  have hnames : ∀ {e : List String × NodeKind}, e ∈ m.disk.below p → ∀ name ∈ e.1, Path.IsName name := by
    intro e hmem
    obtain ⟨hne, n, hnode, -⟩ := h.toSound.mem_below.1 hmem
    exact h.isName hne hnode
  obtain ⟨rfl, -⟩ := of_select hpath
  obtain ⟨rfl, -⟩ := of_select hpath'
  rw [Path.parts_below (hnames he), Path.parts_below (hnames he'), List.append_cancel_left_eq] at heq
  have hinj : Function.Injective fun name : String => Path.Part.name name.toList := by
    intro a b hab
    exact String.toList_inj.1 (Path.Part.name.inj hab)
  exact List.map_injective_iff.2 hinj heq

/-! ## Runs -/

/-- A listing is what is below the place of the root, or what is directly in it. -/
theorem below_eq_ok {root : String} {deep : Bool} (h : Machine.below root deep m = .ok listing) :
    ∃ p, m.disk.resolve .target m.workDir root = .ok p ∧ m.disk.node? p = some .directory ∧
      listing = if deep then m.disk.below p else (m.disk.below p).filter (·.1.length == 1) := by
  unfold Machine.below at h
  split at h
  · cases h
  · rename_i p hp
    split at h
    · rename_i hnode
      refine ⟨p, hp, hnode, ?_⟩
      cases deep with
      | true =>
        simp only [if_true] at h
        split at h
        · cases h
        · exact (Except.ok.inj h).symm
      | false => exact (Except.ok.inj h).symm
    · cases h

/-- A scan that stays in the directory selects nothing deeper. -/
theorem select_filter (h : s.recursive = false) (listing : List (List String × NodeKind)) :
    s.select (listing.filter (·.1.length == 1)) = s.select listing := by
  unfold Scan.select
  rw [List.filterMap_filter]
  refine congrArg (fun files => List.mergeSort files _) (List.filterMap_congr fun e _ => ?_)
  by_cases hone : e.1.length = 1 <;> simp [hone, h]

/-- The files that a scan finds are selected from what is below the place of its root. -/
theorem run_eq_ok (h : (s.run : Session (Except Error (List String))) m = (.ok files, m')) :
    ∃ p, m.disk.resolve .target m.workDir s.root = .ok p ∧ m.disk.node? p = some .directory ∧
      files = s.select (m.disk.below p) := by
  obtain ⟨listing, hlisting, rfl⟩ := scan_eq_ok h
  obtain ⟨p, hp, hnode, rfl⟩ := below_eq_ok hlisting
  refine ⟨p, hp, hnode, ?_⟩
  cases hrecursive : s.recursive with
  | true => rfl
  | false => exact select_filter hrecursive _

/-- A listing without paths that are too long is read to its end. -/
theorem unlistable?_eq_none {root : String}
    (h : ∀ names, (names, .directory) ∈ listing → Disk.isTooLong (Path.below root names) = false) :
    unlistable? root listing = none := by
  unfold unlistable?
  have hnone : ((listing.filter (·.2 == .directory)).map fun e => Path.below root e.1).filter Disk.isTooLong = [] := by
    rw [List.filter_eq_nil_iff]
    intro path hpath
    obtain ⟨⟨names, kind⟩, hmem, rfl⟩ := List.mem_map.1 hpath
    obtain ⟨hlisted, hkind⟩ := List.mem_filter.1 hmem
    obtain rfl : kind = .directory := by simpa using hkind
    rw [h names hlisted]
    exact Bool.false_ne_true
  simp only [hnone, List.foldl_nil]

/-- A scan of a directory finds files unless it is struck, or has to go into a directory whose path is too long. -/
theorem exists_run (h : m.disk.Sound) (hp : m.disk.resolve .target m.workDir s.root = .ok p)
    (hnode : m.disk.node? p = some .directory) (hstruck : m.trouble? m.steps = none)
    (hlong : s.recursive = true → ∀ names, m.disk.node? (p ++ names) = some .directory →
      Disk.isTooLong (Path.below s.root names) = false) :
    ∃ m', (s.run : Session (Except Error (List String))) m = (.ok (s.select (m.disk.below p)), m') := by
  have hisDir : (Host.isDir s.root : Session Bool) m = (true, m) := by
    refine bind_eq_iff.2 ⟨some .directory, m, ?_, rfl⟩
    change ((m.disk.look? m.workDir s.root).map Node.kind, m) = _
    simp [Disk.look?, hp, hnode, Except.toOption, Node.kind]
  have hlisting : ∃ listing, Machine.below s.root s.recursive m = .ok listing ∧ s.select listing = s.select (m.disk.below p) := by
    unfold Machine.below
    simp only [hp, hnode]
    cases hrecursive : s.recursive with
    | false => exact ⟨_, rfl, select_filter hrecursive _⟩
    | true =>
      have hlistable : unlistable? s.root (m.disk.below p) = none := by
        refine unlistable?_eq_none fun names hmem => ?_
        obtain ⟨-, n, hbelow, hkind⟩ := h.mem_below.1 hmem
        cases n with
        | directory => exact hlong hrecursive names hbelow
        | file content => cases hkind
        | link target => cases hkind
        | device => cases hkind
      simp only [hlistable, if_true]
      exact ⟨_, rfl, rfl⟩
  obtain ⟨listing, hbelow, hselect⟩ := hlisting
  have hlook : (Host.below s.root s.recursive : Session _) m = (.ok listing, m.next) := by
    change Machine.look _ _ m = _
    simp only [Machine.look, hstruck, hbelow]
  obtain ⟨events, hnote⟩ := note_eq (.found (s.select listing).length s.root) m.next
  rw [← hselect]
  exact ⟨_, bind_eq_iff.2 ⟨true, m, hisDir, bind_eq_iff.2 ⟨_, _, hlook, bind_eq_iff.2 ⟨_, _, hnote, rfl⟩⟩⟩⟩

/-- An extension as it is configured, without the points before it and in small ASCII letters. -/
def plainSpelling (e : String) : List Char := (e.toList.dropWhile (· == '.')).map Char.toLower

/-- Two lists of extensions differ in nothing but the order, repetitions, letter case and points before an extension. -/
def SameExtensions (extensions extensions' : List String) : Prop :=
  ∀ spelling, spelling ∈ extensions.map plainSpelling ↔ spelling ∈ extensions'.map plainSpelling

/-- The path is one of something directly in the directory: it has one part more. -/
def isDirectlyIn (root path : String) : Bool := (Path.parts path).length == (Path.parts root).length + 1

/-- What is directly in a directory is one name below it. -/
theorem isDirectlyIn_below_iff (h : ∀ name ∈ names, Path.IsName name) (root : String) :
    isDirectlyIn root (Path.below root names) = true ↔ names.length = 1 := by
  unfold isDirectlyIn
  rw [Path.parts_below h, List.length_append, List.length_map, beq_iff_eq, Nat.add_left_cancel_iff]

/-- A scan that stays in the directory seeks what a deep scan seeks at depth one. -/
theorem seeks_shallow_iff (d : Disk) : ({ s with recursive := false } : Scan).Seeks d p names ↔
    ({ s with recursive := true } : Scan).Seeks d p names ∧ names.length = 1 := by
  constructor
  · rintro ⟨hbelow, hshallow, hregular, haccepted⟩
    exact ⟨⟨hbelow, Or.inl rfl, hregular, haccepted⟩, hshallow.resolve_left (by simp)⟩
  · rintro ⟨⟨hbelow, -, hregular, haccepted⟩, hone⟩
    exact ⟨hbelow, Or.inr hone, hregular, haccepted⟩

/-- A plain extension is compared in its plain spelling. -/
theorem normalExtension_of_plain {e : String} (h : ∀ c ∈ e.toList, Text.isPlain c = true) :
    normalExtension e = plainSpelling e := by
  unfold normalExtension plainSpelling
  exact Text.lowercase_of_plain fun c hc => h c ((List.dropWhile_suffix _).subset hc)

/-- Scans whose plain extensions are the same select the same. -/
theorem select_eq_of_sameExtensions {extensions : List String} (hplain : ∀ e ∈ s.extensions, ∀ c ∈ e.toList, Text.isPlain c = true)
    (hplain' : ∀ e ∈ extensions, ∀ c ∈ e.toList, Text.isPlain c = true) (h : SameExtensions s.extensions extensions) :
    ({ s with extensions := extensions } : Scan).select = s.select := by
  have hmap : ∀ {l : List String}, (∀ e ∈ l, ∀ c ∈ e.toList, Text.isPlain c = true) →
      l.map normalExtension = l.map plainSpelling := by
    intro l hl
    exact List.map_congr_left fun e he => normalExtension_of_plain (hl e he)
  have haccepts : ({ s with extensions := extensions } : Scan).accepts = s.accepts := by
    funext path
    unfold Scan.accepts
    cases Path.extension? path with
    | none => rfl
    | some extension =>
      simp only [Scan.accepted, hmap hplain, hmap hplain', List.contains_eq_mem, List.mem_filter, h _]
  funext listing
  unfold Scan.select
  rw [haccepts]

/-- A scan of a tree lists the files that it seeks in strict order, and nothing else. The files that a scan finds in the directory
are those of the deep scan that are directly in it, and plain extensions may be given in any order, more than once, in any case
and with any points before them. -/
theorem run_lists (h : m.disk.IsTree) (s : Scan) :
    (∀ files m', (s.run : Session (Except Error (List String))) m = (.ok files, m') →
      files.Pairwise (fun a b => Path.less a b = true) ∧
      ∃ p, m.disk.resolve .target m.workDir s.root = .ok p ∧
        ∀ path, path ∈ files ↔ ∃ names, s.Seeks m.disk p names ∧ path = Path.below s.root names) ∧
    (∀ flat deep m₁ m₂, (({ s with recursive := false } : Scan).run : Session (Except Error (List String))) m = (.ok flat, m₁) →
      (({ s with recursive := true } : Scan).run : Session (Except Error (List String))) m = (.ok deep, m₂) →
      flat = deep.filter (isDirectlyIn s.root)) ∧
    ∀ extensions, (∀ e ∈ s.extensions ++ extensions, ∀ c ∈ e.toList, Text.isPlain c = true) →
      SameExtensions s.extensions extensions →
      (({ s with extensions := extensions } : Scan).run : Session (Except Error (List String))) m =
        (s.run : Session (Except Error (List String))) m := by
  refine ⟨?_, ?_, ?_⟩
  · intro files m' hrun
    obtain ⟨p, hp, -, rfl⟩ := run_eq_ok hrun
    exact ⟨pairwise_select h, p, hp, fun path => mem_select_below_iff h⟩
  · intro flat deep m₁ m₂ hflat hdeep
    obtain ⟨p, hp, -, rfl⟩ := run_eq_ok hflat
    obtain ⟨p', hp', -, rfl⟩ := run_eq_ok hdeep
    obtain rfl : p = p' := Except.ok.inj (hp.symm.trans hp')
    -- two lists in strict order are the same when they have the same members
    have : Std.Antisymm fun a b => Path.less a b = true := ⟨fun a b hab hba => absurd hba (Path.less_asymm hab)⟩
    have : Std.Irrefl fun a b => Path.less a b = true := ⟨Path.less_irrefl⟩
    refine (pairwise_select h).eq_of_mem_iff ((pairwise_select h).filter _) fun path => ?_
    rw [List.mem_filter, mem_select_below_iff h, mem_select_below_iff h]
    constructor
    · rintro ⟨names, hseeks, rfl⟩
      obtain ⟨hseeks', hone⟩ := (seeks_shallow_iff m.disk).1 hseeks
      obtain ⟨content, number?, hnode⟩ := hseeks.regular
      exact ⟨⟨names, hseeks', rfl⟩, (isDirectlyIn_below_iff (h.isName hseeks.below hnode) s.root).2 hone⟩
    · rintro ⟨⟨names, hseeks, rfl⟩, hdirectly⟩
      obtain ⟨content, number?, hnode⟩ := hseeks.regular
      have hone := (isDirectlyIn_below_iff (h.isName hseeks.below hnode) s.root).1 hdirectly
      exact ⟨names, (seeks_shallow_iff m.disk).2 ⟨hseeks, hone⟩, rfl⟩
  · intro extensions hplain hsame
    obtain ⟨hs, hextensions⟩ := List.forall_mem_append.1 hplain
    unfold Scan.run
    simp only [select_eq_of_sameExtensions hs hextensions hsame]

/-- A machine with a tree of sources that is listed in no order: a source below a directory, one beside it, and a hidden file. -/
def treeMachine : Machine :=
  { disk := ⟨[(["src", "a-b.tsx"], .file ByteArray.empty), (["src"], .directory), (["src", "a", "x.TSX"], .file ByteArray.empty),
      (["src", ".tsx"], .file ByteArray.empty), (["src", "a"], .directory)]⟩ }

/-- A deep scan of that tree. -/
def treeScan : Scan := { root := "src", extensions := [".Tsx"], recursive := true }

theorem run_lists_treeMachine :
    treeMachine.disk.IsTree ∧ ∃ flat deep m₁ m₂,
      (({ treeScan with recursive := false } : Scan).run : Session (Except Error (List String))) treeMachine = (.ok flat, m₁) ∧
      (treeScan.run : Session (Except Error (List String))) treeMachine = (.ok deep, m₂) ∧
      deep.Pairwise (fun a b => Path.less a b = true) ∧ "src/a/x.TSX" ∈ deep ∧ "src/a-b.tsx" ∈ deep ∧
      flat = deep.filter (isDirectlyIn "src") ∧
      (({ treeScan with extensions := ["tsx", "..TSX"] } : Scan).run : Session (Except Error (List String))) treeMachine =
        (.ok deep, m₂) := by
  have htree : treeMachine.disk.IsTree := ⟨by decide, by decide⟩
  have hp : treeMachine.disk.resolve .target treeMachine.workDir "src" = .ok ["src"] := by rfl
  have hshort : ∀ names, treeMachine.disk.node? (["src"] ++ names) = some .directory →
      Disk.isTooLong (Path.below "src" names) = false := by
    intro names hnode
    have hmem := (htree.toSound.node?_eq_some_iff (by simp)).1 hnode
    obtain rfl | rfl : names = [] ∨ names = ["a"] := by simpa [treeMachine] using hmem
    · decide +kernel
    · decide +kernel
  obtain ⟨m₁, hflat⟩ := exists_run (s := { treeScan with recursive := false }) htree.toSound hp rfl rfl nofun
  obtain ⟨m₂, hdeep⟩ := exists_run (s := treeScan) htree.toSound hp rfl rfl fun _ => hshort
  obtain ⟨hlists, hparts, hsame⟩ := run_lists htree treeScan
  obtain ⟨hordered, p, hp', hmem⟩ := hlists _ _ hdeep
  obtain rfl : ["src"] = p := Except.ok.inj (hp.symm.trans hp')
  refine ⟨htree, _, _, m₁, m₂, hflat, hdeep, hordered, (hmem _).2 ⟨["a", "x.TSX"], ?_, by decide⟩,
    (hmem _).2 ⟨["a-b.tsx"], ?_, by decide⟩, hparts _ _ _ _ hflat hdeep, ?_⟩
  · exact ⟨by decide, Or.inl rfl, ⟨_, _, rfl⟩, "x.TSX", rfl, "TSX".toList, ⟨['x'], by decide, rfl, by decide⟩, by decide,
      ".Tsx", by decide, by decide +kernel⟩
  · exact ⟨by decide, Or.inl rfl, ⟨_, _, rfl⟩, "a-b.tsx", rfl, "tsx".toList, ⟨"a-b".toList, by decide, rfl, by decide⟩, by decide,
      ".Tsx", by decide, by decide +kernel⟩
  · have hspellings : SameExtensions treeScan.extensions ["tsx", "..TSX"] := by
      have honce : treeScan.extensions.map plainSpelling = ["tsx".toList] := by decide +kernel
      have htwice : ["tsx", "..TSX"].map plainSpelling = ["tsx".toList, "tsx".toList] := by decide +kernel
      intro spelling
      simp only [honce, htwice, List.mem_cons, List.not_mem_nil, or_false, or_self]
    have hplain : ∀ e ∈ treeScan.extensions ++ ["tsx", "..TSX"], ∀ c ∈ e.toList, Text.isPlain c = true := by
      simp [treeScan, Text.isPlain]
    rw [hsame _ hplain hspellings, hdeep]

/-- A machine with a source whose name ends in a point. -/
def pointMachine : Machine := { disk := ⟨[(["src"], .directory), (["src", "card."], .file ByteArray.empty)]⟩ }

/-- A scan for an extension that is nothing but a point. -/
def pointScan : Scan := { root := "src", extensions := ["."] }

/-- An extension that is nothing but points is left out: a name that ends in a point has the same empty extension, and is not
found. -/
theorem run_emptyExtension :
    pointMachine.disk.IsTree ∧ pointMachine.disk.resolve .target pointMachine.workDir "src" = .ok ["src"] ∧
    pointMachine.disk.node? (["src"] ++ ["card."]) = some (.file ByteArray.empty) ∧ Path.HasExtension "card.".toList [] ∧
    (∃ e ∈ pointScan.extensions, Text.lowercase [] = Text.lowercase (e.toList.dropWhile (· == '.'))) ∧
    ∃ files m', (pointScan.run : Session (Except Error (List String))) pointMachine = (.ok files, m') ∧
      Path.below "src" ["card."] ∉ files := by
  have hrun : ((pointScan.run : Session (Except Error (List String))) pointMachine).1.toOption = some [] := by decide +kernel
  exact ⟨⟨by decide, by decide⟩, rfl, rfl, ⟨"card".toList, by decide, rfl, by decide⟩, ⟨".", by decide, by decide⟩,
    [], _, Prod.ext (toOption_eq_some_iff.1 hrun) rfl, List.not_mem_nil⟩

end Source

end RenderCatalog

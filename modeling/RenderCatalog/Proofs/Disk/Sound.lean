import RenderCatalog.Proofs.Disk.Walk

/-!
# Sound disks

A disk is sound when it lists every place once and every place by names that are names (`Sound`). What names have to be may be
asked for more strictly (`NamedBy`). As long as it lets every name through that a path can have, the empty disk is named so, and
no operation leads out (`NamedBy.changes`): the place that a path leads to has only names that come from paths, or from the
targets of links, which are paths too. Nor does an operation of a host make links or devices (`Changes.exists_node?`), and on a
disk whose names of one file all hold the same they still do afterwards (`Coherent.changes`).
-/

namespace RenderCatalog.Disk

variable {d d' : Disk} {aim : Aim} {workDir p q : Place} {path : String} {P : String → Prop}

/-- The names of a place: none is empty, and none has a slash in it. -/
def IsPlace (p : Place) : Prop := ∀ name ∈ p, name.toList ≠ [] ∧ '/' ∉ name.toList

instance (p : Place) : Decidable (IsPlace p) := inferInstanceAs (Decidable (∀ name ∈ p, name.toList ≠ [] ∧ '/' ∉ name.toList))

/-- A disk that lists every place once, and by its names. -/
structure Sound (d : Disk) : Prop where
  nodup : (d.nodes.map (·.1)).Nodup
  names : ∀ e ∈ d.nodes, IsPlace e.1

instance (d : Disk) : Decidable d.Sound :=
  decidable_of_iff ((d.nodes.map (·.1)).Nodup ∧ ∀ e ∈ d.nodes, IsPlace e.1) ⟨fun h => ⟨h.1, h.2⟩, fun h => ⟨h.nodup, h.names⟩⟩

/-! ## Names of one sort -/

/-- A disk that lists every place once, and by names of one sort. -/
structure NamedBy (P : String → Prop) (d : Disk) : Prop where
  nodup : (d.nodes.map (·.1)).Nodup
  names : ∀ e ∈ d.nodes, ∀ name ∈ e.1, P name

/-- A sound disk lists its places by names that are not empty and have no slash. -/
theorem sound_iff_namedBy : d.Sound ↔ d.NamedBy fun name => name.toList ≠ [] ∧ '/' ∉ name.toList :=
  ⟨fun h => ⟨h.nodup, h.names⟩, fun h => ⟨h.nodup, h.names⟩⟩

theorem namedBy_empty : ({} : Disk).NamedBy P := ⟨List.nodup_nil, nofun⟩

/-- Listing fewer places does no harm. -/
theorem NamedBy.filter (h : d.NamedBy P) (keep : Place × Node → Bool) : NamedBy P ⟨d.nodes.filter keep⟩ :=
  ⟨h.nodup.sublist (List.filter_sublist.map _), fun e he => h.names e (List.mem_filter.1 he).1⟩

/-- A place of the right names may be listed. -/
theorem NamedBy.put (h : d.NamedBy P) (hp : ∀ name ∈ p, P name) (n : Node) : (d.put p n).NamedBy P := by
  have hrest : (d.erase p).NamedBy P := h.filter _
  refine ⟨?_, List.forall_mem_cons.2 ⟨hp, hrest.names⟩⟩
  rw [Disk.put, List.map_cons, List.nodup_cons]
  refine ⟨fun hmem => ?_, hrest.nodup⟩
  obtain ⟨e, he, heq⟩ := List.mem_map.1 hmem
  have hne : e.1 ≠ p := by simpa using (List.mem_filter.1 he).2
  exact hne heq

/-- So may several places, one after the other. -/
theorem NamedBy.foldl_put (h : d.NamedBy P) (n : Node) {places : List Place} (hplaces : ∀ p ∈ places, ∀ name ∈ p, P name) :
    (places.foldl (fun d' p => d'.put p n) d).NamedBy P := by
  induction places generalizing d with
  | nil => exact h
  | cons p rest ih =>
    obtain ⟨hp, hrest⟩ := List.forall_mem_cons.1 hplaces
    exact ih (h.put hp n) hrest

/-- A place with something at it has names of the sort. -/
theorem NamedBy.of_node? (h : d.NamedBy P) {n : Node} (hn : d.node? p = some n) : ∀ name ∈ p, P name := by
  by_cases hp : p = []
  · rw [hp]
    nofun
  · exact h.names _ (mem_nodes_of_node? hp hn)

/-- The other names of a file are on the disk already. -/
theorem NamedBy.write (h : d.NamedBy P) (hp : ∀ name ∈ p, P name) (content : ByteArray) : (d.write p content).NamedBy P := by
  refine h.foldl_put _ (List.forall_mem_cons.2 ⟨hp, fun q hq => ?_⟩)
  obtain ⟨-, i, -, hi⟩ := mem_twins_iff.1 hq
  obtain ⟨content, hnode⟩ := number?_eq_some_iff.1 hi
  exact h.of_node? hnode

/-! ## The places of paths -/

/-- A path is cut at its slashes. -/
theorem no_slash_names (path : String) : ∀ name ∈ names path, '/' ∉ name := by
  have hpieces : ∀ name ∈ Path.pieces path.toList, '/' ∉ name := fun name hname => (Path.of_mem_pieces hname).2
  rw [names]
  split
  · exact List.forall_mem_append.2 ⟨hpieces, by simp⟩
  · exact hpieces

/-- A name without a slash that is looked for is a name that a file can have. -/
theorem IsStep.isName {name : List Char} {rest : List (List Char)} (h : IsStep aim name rest) (hname : '/' ∉ name) :
    Path.IsName (String.ofList name) := by
  constructor
  all_goals rw [String.toList_ofList]
  · exact fun hempty => h.not_stay (Or.inl hempty)
  · exact hname
  · exact fun hdot => h.not_stay (Or.inr hdot)
  · exact h.not_up

section Places

variable (hP : ∀ name, Path.IsName name → P name)

include hP

/-- A walk of names without slashes has only names on its way that a path can have, when what it follows does. -/
theorem named_walk {follow : Place → String → List (List Char) → Except OsError Place}
    (hfollow : ∀ here target rest q, (∀ name ∈ here, P name) → (∀ name ∈ rest, '/' ∉ name) → follow here target rest = .ok q →
      ∀ name ∈ q, P name)
    {here : Place} (hhere : ∀ name ∈ here, P name) {rest : List (List Char)} (hrest : ∀ name ∈ rest, '/' ∉ name)
    (h : d.walk aim follow here rest = .ok q) : ∀ name ∈ q, P name := by
  induction rest generalizing here with
  | nil =>
    cases h
    exact hhere
  | cons name rest ih =>
    obtain ⟨hname, hrest⟩ := List.forall_mem_cons.1 hrest
    have hnext (hstep : IsStep aim name rest) : ∀ n ∈ here ++ [String.ofList name], P n :=
      List.forall_mem_append.2 ⟨hhere, List.forall_mem_singleton.2 (hP _ (hstep.isName hname))⟩
    rw [walk_cons_eq_ok_iff] at h
    cases h with
    | stay _ h => exact ih hhere hrest h
    | up _ h => exact ih (fun n hn => hhere n (List.mem_of_mem_dropLast hn)) hrest h
    | down hstep _ h => exact ih (hnext hstep) hrest h
    | link _ target _ _ h => exact hfollow here target rest q hhere hrest h
    | stop hstep _ _ _ hq => exact hq ▸ hnext hstep

/-- A path leads to a place of the right names when it starts from one. -/
theorem named_resolveFrom {budget : Nat} {here : Place} (hhere : ∀ name ∈ here, P name) {rest : List (List Char)}
    (hrest : ∀ name ∈ rest, '/' ∉ name) (h : d.resolveFrom aim budget here rest = .ok q) : ∀ name ∈ q, P name := by
  induction budget generalizing here rest q with
  | zero => exact named_walk hP (fun _ _ _ _ _ _ hf => by cases hf) hhere hrest h
  | succ budget ih =>
    refine named_walk hP (fun here target rest q hhere hrest hf => ?_) hhere hrest h
    refine ih ?_ (List.forall_mem_append.2 ⟨no_slash_names target, hrest⟩) hf
    split
    · nofun
    · exact hhere

/-- A path leads to a place with names that a path can have, from such a place. -/
theorem named_resolve (hworkDir : ∀ name ∈ workDir, P name) (h : d.resolve aim workDir path = .ok q) : ∀ name ∈ q, P name := by
  obtain ⟨-, -, -, -, hfrom⟩ := resolve_eq_ok_iff.1 h
  refine named_resolveFrom hP ?_ (no_slash_names path) hfrom
  split
  · nofun
  · exact hworkDir

end Places

/-! ## The operations -/

/-- One operation of a host, from a working directory, leads from a disk to another. -/
inductive Changes (workDir : Place) (d d' : Disk) : Prop
  | makeDir (path : String) (h : d.makeDir workDir path = .ok d')
  | create (path : String) (h : d.create workDir path = .ok d')
  | append (path : String) (bytes : ByteArray) (h : d.append workDir path bytes = .ok d')
  | rename (source target : String) (h : d.rename workDir source target = .ok d')
  | remove (path : String) (h : d.remove workDir path = .ok d')

/-- An operation does nothing, takes something away, or puts something at the place that a path leads to: a directory, a file, or what
was at another place. -/
theorem Changes.cases (h : d.Changes workDir d') :
    d' = d ∨ (∃ p, d' = d.erase p) ∨ ∃ aim path p, d.resolve aim workDir path = .ok p ∧
      (d' = d.put p .directory ∨ (∃ content, p ≠ [] ∧ d' = d.write p content) ∨
        ∃ q n, p ≠ [] ∧ d.node? q = some n ∧ d' = (d.erase q).put p (d.settled q n)) := by
  cases h with
  | makeDir path h =>
    obtain ⟨p, hp, -, rfl⟩ := makeDir_eq_ok h
    exact Or.inr (Or.inr ⟨_, path, p, hp, Or.inl rfl⟩)
  | create path h =>
    obtain ⟨p, hp, ⟨-, rfl⟩ | ⟨hdirectory, rfl⟩⟩ := create_eq_ok h
    · exact Or.inl rfl
    · exact Or.inr (Or.inr ⟨_, path, p, hp, Or.inr (Or.inl ⟨_, ne_nil_of_node?_ne hdirectory, rfl⟩)⟩)
  | append path bytes h =>
    obtain ⟨p, hp, ⟨-, rfl⟩ | ⟨content, number?, hfile, rfl⟩⟩ := append_eq_ok h
    · exact Or.inl rfl
    · have hne : p ≠ [] := ne_nil_of_node?_ne (by rw [hfile]; nofun)
      exact Or.inr (Or.inr ⟨_, path, p, hp, Or.inr (Or.inl ⟨_, hne, rfl⟩)⟩)
  | rename source target h =>
    obtain ⟨q, p, n, -, hp, hn, hdirectory, ⟨-, rfl⟩ | ⟨-, rfl⟩⟩ := rename_eq_ok h
    · exact Or.inl rfl
    · exact Or.inr (Or.inr ⟨_, target, p, hp, Or.inr (Or.inr ⟨q, n, ne_nil_of_node?_ne hdirectory, hn, rfl⟩)⟩)
  | remove path h =>
    obtain ⟨p, -, -, rfl⟩ := remove_eq_ok h
    exact Or.inr (Or.inl ⟨p, rfl⟩)

/-- An operation leaves a disk as it is named. -/
theorem NamedBy.changes (hP : ∀ name, Path.IsName name → P name) (hd : d.NamedBy P) (hworkDir : ∀ name ∈ workDir, P name)
    (h : d.Changes workDir d') : d'.NamedBy P := by
  obtain rfl | ⟨p, rfl⟩ | ⟨aim, path, p, hp, hput⟩ := h.cases
  · exact hd
  · exact hd.filter _
  · have hnamed := named_resolve hP hworkDir hp
    obtain rfl | ⟨content, -, rfl⟩ | ⟨q, n, -, -, rfl⟩ := hput
    · exact hd.put hnamed _
    · exact hd.write hnamed content
    · exact (hd.filter _).put hnamed _

/-- A link is made at a place of the right names. -/
theorem NamedBy.makeLink (hP : ∀ name, Path.IsName name → P name) (hd : d.NamedBy P) (hworkDir : ∀ name ∈ workDir, P name)
    {target : String} (h : d.makeLink workDir target path = .ok d') : d'.NamedBy P := by
  obtain ⟨p, hp, -, rfl⟩ := makeLink_eq_ok h
  exact hd.put (named_resolve hP hworkDir hp) _

/-- Removing a directory with all below it lists fewer places. -/
theorem NamedBy.removeAll (hd : d.NamedBy P) (h : d.removeAll workDir path = .ok d') : d'.NamedBy P := by
  obtain ⟨p, -, -, rfl⟩ := removeAll_eq_ok h
  exact hd.filter _

/-- What is on a disk after an operation, other than a directory or a file, was on it before, perhaps at another place. -/
theorem Changes.exists_node? (h : d.Changes workDir d') {n : Node} (hn : d'.node? q = some n) (hdirectory : n.kind ≠ .directory)
    (hfile : n.kind ≠ .file) : ∃ q, d.node? q = some n := by
  obtain rfl | ⟨p, rfl⟩ | ⟨aim, path, p, -, rfl | ⟨content, hp, rfl⟩ | ⟨p', n', -, hn', rfl⟩⟩ := h.cases
  · exact ⟨q, hn⟩
  · exact ⟨q, node?_of_erase hn⟩
  · obtain rfl | hn := node?_of_put hn
    · exact absurd rfl hdirectory
    · exact ⟨q, hn⟩
  · exact ⟨q, (node?_of_write hp hn).resolve_left hfile⟩
  · obtain rfl | hn := node?_of_put hn
    · rw [kind_settled] at hfile
      exact ⟨p', by rw [settled_of_kind_ne hfile, hn']⟩
    · exact ⟨q, node?_of_erase hn⟩

/-! ## Names of one file -/

deriving instance DecidableEq for Node

/-- The names of one file hold the same. -/
def Coherent (d : Disk) : Prop := ∀ p q i, d.number? p = some i → d.number? q = some i → d.node? p = d.node? q

/-- The names of one file hold the same when this is so of all that is listed. -/
theorem coherent_of_nodes
    (h : ∀ e ∈ d.nodes, ∀ e' ∈ d.nodes, e.2.number?.isSome → e.2.number? = e'.2.number? → e.2 = e'.2) : d.Coherent := by
  intro p q i hp hq
  obtain ⟨content, hnode⟩ := number?_eq_some_iff.1 hp
  obtain ⟨content', hnode'⟩ := number?_eq_some_iff.1 hq
  rw [hnode, hnode']
  exact congrArg some (h _ (mem_nodes_of_node? (ne_nil_of_number? hp) hnode) _
    (mem_nodes_of_node? (ne_nil_of_number? hq) hnode') rfl rfl)

theorem coherent_empty : ({} : Disk).Coherent := by
  intro p q i hp
  obtain ⟨content, hnode⟩ := number?_eq_some_iff.1 hp
  rw [node?_of_ne_nil (ne_nil_of_number? hp)] at hnode
  cases hnode

/-- A disk whose files with a number were there before is coherent, as it was. -/
theorem Coherent.of_number? (hd : d.Coherent) (h : ∀ p i, d'.number? p = some i → d'.node? p = d.node? p) : d'.Coherent := by
  intro p q i hp hq
  have hp' := h p i hp
  have hq' := h q i hq
  rw [hp', hq']
  refine hd p q i ?_ ?_
  · rwa [number?, ← hp']
  · rwa [number?, ← hq']

/-- Taking one name away leaves the others as they are. -/
theorem Coherent.erase (hd : d.Coherent) (p : Place) : (d.erase p).Coherent := by
  refine hd.of_number? fun q i hq => ?_
  obtain ⟨content, hnode⟩ := number?_eq_some_iff.1 hq
  rw [hnode, node?_of_erase hnode]

/-- What is put at a place is no file with a number, or is what all names of that file hold. -/
theorem Coherent.put (hd : d.Coherent) (hp : p ≠ []) {n : Node}
    (hn : ∀ i, n.number? = some i → ∀ q ≠ p, d.number? q = some i → d.node? q = some n) : (d.put p n).Coherent := by
  have hother : ∀ q i, q ≠ p → (d.put p n).number? q = some i → d.number? q = some i := by
    intro q i hq hi
    rwa [number?, node?_put_of_ne n hq] at hi
  have hself : ∀ i, (d.put p n).number? p = some i → n.number? = some i := by
    intro i hi
    rwa [number?, node?_put_self n hp] at hi
  intro q r i hq hr
  by_cases hqp : q = p
  · subst hqp
    by_cases hrq : r = q
    · rw [hrq]
    · rw [node?_put_self n hp, node?_put_of_ne n hrq, hn i (hself i hq) r hrq (hother r i hrq hr)]
  · by_cases hrp : r = p
    · subst hrp
      rw [node?_put_self n hp, node?_put_of_ne n hqp, hn i (hself i hr) q hqp (hother q i hqp hq)]
    · rw [node?_put_of_ne n hqp, node?_put_of_ne n hrp]
      exact hd q r i (hother q i hqp hq) (hother r i hrp hr)

/-- What is written under one name of a file is there under all of them. -/
theorem Coherent.write (hd : d.Coherent) (hp : p ≠ []) (content : ByteArray) : (d.write p content).Coherent := by
  -- a place with a number is one of the file's exactly when the number is the file's
  have hnumber : ∀ q i, (d.write p content).number? q = some i → q ∈ p :: d.twins p ∧ d.number? p = some i ∨
      q ∉ p :: d.twins p ∧ d.number? p ≠ some i ∧ d.number? q = some i := by
    intro q i hq
    rw [number?, node?_write hp] at hq
    split at hq
    · rename_i hmem
      rw [Option.bind_some] at hq
      rw [settled_of_number? hq] at hq
      exact Or.inl ⟨hmem, hq⟩
    · rename_i hmem
      refine Or.inr ⟨hmem, fun hi => hmem ?_, hq⟩
      by_cases hqp : q = p
      · exact hqp ▸ List.mem_cons_self
      · exact List.mem_cons_of_mem _ (mem_twins_iff.2 ⟨hqp, i, hi, hq⟩)
  intro q r i hq hr
  rw [node?_write hp, node?_write hp]
  rcases hnumber q i hq with ⟨hq, hi⟩ | ⟨hq, hi, hqi⟩
  · rcases hnumber r i hr with ⟨hr, -⟩ | ⟨-, hne, -⟩
    · rw [if_pos hq, if_pos hr]
    · exact absurd hi hne
  · rcases hnumber r i hr with ⟨-, hi'⟩ | ⟨hr, -, hri⟩
    · exact absurd hi' hi
    · rw [if_neg hq, if_neg hr]
      exact hd q r i hqi hri

/-- An operation leaves the names of one file with the same content. -/
theorem Coherent.changes (hd : d.Coherent) (h : d.Changes workDir d') : d'.Coherent := by
  obtain rfl | ⟨p, rfl⟩ | ⟨aim, path, p, -, rfl | ⟨content, hp, rfl⟩ | ⟨q, n, hp, hn, rfl⟩⟩ := h.cases
  · exact hd
  · exact hd.erase p
  · by_cases hp : p = []
    · refine hd.of_number? fun q i hq => ?_
      rw [hp]
      exact node?_put_of_ne _ (hp ▸ ne_nil_of_number? hq)
    · exact hd.put hp nofun
  · exact hd.write hp content
  · refine (hd.erase q).put hp fun i hi r _ hr => ?_
    have hsettled := settled_of_number? hi
    obtain ⟨content, hnode⟩ := number?_eq_some_iff.1 hr
    have hr' : d.number? r = some i := number?_eq_some_iff.2 ⟨content, node?_of_erase hnode⟩
    rw [hsettled] at hi ⊢
    have hq : d.number? q = some i := by rw [number?, hn, Option.bind_some, hi]
    rw [hnode, ← node?_of_erase hnode, hd r q i hr' hq, hn]

/-- A link is no name of a file. -/
theorem Coherent.makeLink (hd : d.Coherent) {target : String} (h : d.makeLink workDir target path = .ok d') : d'.Coherent := by
  obtain ⟨p, -, hnone, rfl⟩ := makeLink_eq_ok h
  exact hd.put (ne_nil_of_node?_ne (by rw [hnone]; nofun)) nofun

/-- A file can get another name: nothing is at the new place, and the file has a number or gets one that no other has. -/
structure CanName (d : Disk) (p q : Place) (content : ByteArray) (i : Nat) : Prop where
  file : d.node? p = some (.file content (some i)) ∨ d.node? p = some (.file content) ∧ ∀ r, d.number? r ≠ some i
  free : d.node? q = none

/-- The disk on which the file at a place has another name. -/
def addName (d : Disk) (p q : Place) (content : ByteArray) (i : Nat) : Disk :=
  (d.put p (.file content (some i))).put q (.file content (some i))

/-- What gets another name is a file. -/
theorem CanName.exists_node? {content : ByteArray} {i : Nat} (h : d.CanName p q content i) :
    ∃ number?, d.node? p = some (.file content number?) :=
  h.file.elim (fun hnode => ⟨_, hnode⟩) fun hnode => ⟨_, hnode.1⟩

/-- Another name of the right sort does no harm. -/
theorem NamedBy.addName (hd : d.NamedBy P) {content : ByteArray} {i : Nat} (h : d.CanName p q content i)
    (hq : ∀ name ∈ q, P name) : (d.addName p q content i).NamedBy P := by
  obtain ⟨number?, hnode⟩ := h.exists_node?
  exact (hd.put (hd.of_node? hnode) _).put hq _

/-- Another name of a file holds what its names hold. -/
theorem Coherent.addName (hd : d.Coherent) {content : ByteArray} {i : Nat} (h : d.CanName p q content i) :
    (d.addName p q content i).Coherent := by
  have hp : p ≠ [] := by
    obtain ⟨number?, hnode⟩ := h.exists_node?
    exact ne_nil_of_node?_ne (by rw [hnode]; nofun)
  have hall : ∀ j, (Node.file content (some i)).number? = some j → ∀ r ≠ p, d.number? r = some j →
      d.node? r = some (.file content (some i)) := by
    rintro _ ⟨⟩ r _ hr
    rcases h.file with hnode | ⟨-, hfresh⟩
    · rw [hd r p i hr (number?_eq_some_iff.2 ⟨content, hnode⟩), hnode]
    · exact absurd hr (hfresh r)
  refine (hd.put hp hall).put (ne_nil_of_node?_ne (by rw [h.free]; nofun)) fun j hj r _ hr => ?_
  by_cases hrp : r = p
  · rw [hrp, node?_put_self _ hp]
  · rw [node?_put_of_ne _ hrp]
    refine hall j hj r hrp ?_
    rwa [number?, node?_put_of_ne _ hrp] at hr

/-- Removing a directory with all below it takes names away. -/
theorem Coherent.removeAll (hd : d.Coherent) (h : d.removeAll workDir path = .ok d') : d'.Coherent := by
  obtain ⟨p, -, -, rfl⟩ := removeAll_eq_ok h
  refine hd.of_number? fun q i hq => ?_
  obtain ⟨content, hnode⟩ := number?_eq_some_iff.1 hq
  have hne : q ≠ [] := ne_nil_of_number? hq
  rw [node?_of_ne_nil hne] at hnode ⊢
  rw [node?_of_ne_nil hne]
  rw [lookup_filter d.nodes fun r => !p.isPrefixOf r] at hnode ⊢
  split at hnode
  · rw [if_pos ‹_›]
  · cases hnode

end RenderCatalog.Disk

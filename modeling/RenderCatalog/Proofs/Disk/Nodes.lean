import Mathlib
import RenderCatalog.Disk.Basic
import RenderCatalog.Proofs.Result

/-!
# What is at a place

What putting a node, taking one away and writing a file under all its names change, what each operation has done when it is not
refused, and the relations between disks that a command goes through: directories are added first, and from then on only files.
A file that is created at a clear place (`IsClear`) is nowhere else: no link and no device is there, and no other name of a file.
-/

namespace RenderCatalog.Disk

variable {d d' d'' : Disk} {p q : Place}

@[simp] theorem node?_nil (d : Disk) : d.node? [] = some .directory := rfl

/-- Where there is no directory is not the root. -/
theorem ne_nil_of_node?_ne (h : d.node? p ≠ some .directory) : p ≠ [] := by
  rintro rfl
  exact h rfl

/-- At every other place is what is listed for it first. -/
theorem node?_of_ne_nil (h : p ≠ []) : d.node? p = d.nodes.lookup p := by
  rw [node?, if_neg (by simpa using h)]

/-- What is listed for a place is left by a choice of places exactly when the place is chosen. -/
theorem lookup_filter (nodes : List (Place × Node)) (f : Place → Bool) (q : Place) :
    (nodes.filter fun e => f e.1).lookup q = if f q then nodes.lookup q else none := by
  induction nodes with
  | nil => simp
  | cons e rest ih =>
    obtain ⟨place, n⟩ := e
    by_cases hq : q = place
    · subst hq
      cases hf : f q <;> simp [hf, ih]
    · cases hf : f place <;> simp [List.lookup_cons, hf, ih, beq_false_of_ne hq]

/-- Nothing is at a place after it was taken away. -/
theorem node?_erase_self (hp : p ≠ []) : (d.erase p).node? p = none := by
  rw [node?_of_ne_nil hp, erase, lookup_filter d.nodes (· != p)]
  simp

/-- What is taken away at one place stays at the others. -/
theorem node?_erase_of_ne (h : q ≠ p) : (d.erase p).node? q = d.node? q := by
  by_cases hq : q = []
  · rw [hq, node?_nil, node?_nil]
  · rw [node?_of_ne_nil hq, node?_of_ne_nil hq, erase, lookup_filter d.nodes (· != p)]
    simp [h]

/-- A node is at the place where it was put. -/
theorem node?_put_self (n : Node) (hp : p ≠ []) : (d.put p n).node? p = some n := by
  rw [node?_of_ne_nil hp, put, List.lookup_cons, beq_self_eq_true]

/-- What is put at one place changes no other. -/
theorem node?_put_of_ne (n : Node) (h : q ≠ p) : (d.put p n).node? q = d.node? q := by
  rw [← node?_erase_of_ne (d := d) h]
  by_cases hq : q = []
  · rw [hq, node?_nil, node?_nil]
  · rw [node?_of_ne_nil hq, node?_of_ne_nil hq, put, List.lookup_cons, beq_false_of_ne h]

/-- What is there after something was taken away was there before. -/
theorem node?_of_erase {n : Node} (h : (d.erase p).node? q = some n) : d.node? q = some n := by
  by_cases hq : q = p
  · subst hq
    by_cases hroot : q = []
    · rw [hroot] at h ⊢
      exact h
    · rw [node?_erase_self hroot] at h
      cases h
  · rwa [node?_erase_of_ne hq] at h

/-- What is there after something was put was put, or was there before. -/
theorem node?_of_put {n n' : Node} (h : (d.put p n').node? q = some n) : n = n' ∨ d.node? q = some n := by
  by_cases hq : q = p
  · subst hq
    by_cases hroot : q = []
    · rw [hroot] at h ⊢
      exact Or.inr h
    · rw [node?_put_self n' hroot] at h
      exact Or.inl (Option.some.inj h).symm
  · rw [node?_put_of_ne n' hq] at h
    exact Or.inr h

/-! ## Names of one file -/

/-- No other place has the file that is at this one. -/
def IsSole (d : Disk) (p : Place) : Prop := ∀ i, d.number? p = some i → ∀ q, d.number? q = some i → q = p

/-- Only a file has a number. -/
theorem number?_eq_some_iff {i : Nat} : d.number? p = some i ↔ ∃ content, d.node? p = some (.file content (some i)) := by
  rw [number?, Option.bind_eq_some_iff]
  constructor
  · rintro ⟨n, hn, hi⟩
    cases n with
    | file content number? =>
      obtain rfl : number? = some i := hi
      exact ⟨content, hn⟩
    | directory => cases hi
    | link target => cases hi
    | device => cases hi
  · rintro ⟨content, hn⟩
    exact ⟨_, hn, rfl⟩

/-- A place with something other than the root at it is listed. -/
theorem mem_nodes_of_node? {n : Node} (hp : p ≠ []) (h : d.node? p = some n) : (p, n) ∈ d.nodes := by
  rw [node?_of_ne_nil hp, List.lookup_eq_some_iff] at h
  obtain ⟨before, after, heq, -⟩ := h
  rw [heq]
  exact List.mem_append_right _ List.mem_cons_self

/-- The root is no file. -/
theorem ne_nil_of_number? {i : Nat} (h : d.number? p = some i) : p ≠ [] := by
  rintro rfl
  cases h

/-- The other names of a file carry its number. -/
theorem mem_twins_iff : q ∈ d.twins p ↔ q ≠ p ∧ ∃ i, d.number? p = some i ∧ d.number? q = some i := by
  rw [twins]
  cases hp : d.number? p with
  | none => simp
  | some i =>
    simp only [List.mem_filter, Bool.and_eq_true, bne_iff_ne, beq_iff_eq, Option.some.injEq, exists_eq_left']
    refine ⟨fun h => h.2, fun h => ⟨?_, h⟩⟩
    obtain ⟨content, hnode⟩ := number?_eq_some_iff.1 h.2
    exact List.mem_map.2 ⟨_, mem_nodes_of_node? (ne_nil_of_number? h.2) hnode, rfl⟩

/-- A file has no other names when its place is the only one. -/
theorem twins_eq_nil_iff : d.twins p = [] ↔ d.IsSole p := by
  rw [List.eq_nil_iff_forall_not_mem]
  constructor
  · intro h i hp q hq
    by_contra hne
    exact h q (mem_twins_iff.2 ⟨hne, i, hp, hq⟩)
  · intro h q hq
    obtain ⟨hne, i, hp, hq⟩ := mem_twins_iff.1 hq
    exact hne (h i hp q hq)

/-- A place stays the only one of its file where no other place gets a number. -/
theorem IsSole.mono (hsole : d.IsSole p) (h : ∀ q i, d'.number? q = some i → d.number? q = some i) : d'.IsSole p :=
  fun i hp q hq => hsole i (h p i hp) q (h q i hq)

/-- A file without a number has one name. -/
theorem isSole_of_file {content : ByteArray} (h : d.node? p = some (.file content)) : d.IsSole p := by
  intro i hi
  rw [number?, h] at hi
  cases hi

/-- What stays at one place loses its number. -/
theorem IsSole.settled_eq (h : d.IsSole p) (n : Node) : d.settled p n = n.single := by
  rw [settled, twins_eq_nil_iff.2 h, List.isEmpty_nil, if_pos rfl]

/-- What is no file is put down as it is. -/
theorem settled_of_kind_ne {n : Node} (h : n.kind ≠ .file) : d.settled p n = n := by
  rw [settled]
  cases n with
  | file content number? => exact absurd rfl h
  | directory => exact ite_self _
  | link target => exact ite_self _
  | device => exact ite_self _

/-- Whether it keeps its number or not, a file stays a file. -/
theorem kind_settled (n : Node) : (d.settled p n).kind = n.kind := by
  rw [settled]
  split
  · cases n <;> rfl
  · rfl

/-- A file that keeps a number is put down as it is. -/
theorem settled_of_number? {n : Node} {i : Nat} (h : (d.settled p n).number? = some i) : d.settled p n = n := by
  rw [settled] at h ⊢
  split at h
  · cases n <;> cases h
  · rename_i hne
    rw [if_neg hne]

/-- A file with one name is written at its place. -/
theorem IsSole.write_eq (h : d.IsSole p) (content : ByteArray) : d.write p content = d.put p (.file content) := by
  rw [write, twins_eq_nil_iff.2 h, h.settled_eq]
  rfl

/-- After a node was put at several places it is at each of them, and nothing else has changed. -/
theorem node?_foldl_put (n : Node) {places : List Place} (hplaces : ∀ place ∈ places, place ≠ []) :
    (places.foldl (fun d' r => d'.put r n) d).node? q = if q ∈ places then some n else d.node? q := by
  induction places generalizing d with
  | nil => rfl
  | cons place rest ih =>
    obtain ⟨hplace, hrest⟩ := List.forall_mem_cons.1 hplaces
    rw [List.foldl_cons, ih hrest]
    by_cases hq : q = place
    · rw [hq, node?_put_self n hplace]
      simp
    · rw [node?_put_of_ne n hq]
      simp [hq]

/-- What is written is at the place of the file and at its other places, and nothing else has changed. -/
theorem node?_write (hp : p ≠ []) (content : ByteArray) :
    (d.write p content).node? q =
      if q ∈ p :: d.twins p then some (d.settled p (.file content (d.number? p))) else d.node? q := by
  refine node?_foldl_put _ (List.forall_mem_cons.2 ⟨hp, fun r hr => ?_⟩)
  obtain ⟨-, i, -, hi⟩ := mem_twins_iff.1 hr
  exact ne_nil_of_number? hi

/-- What is there after a file was written is that file, or was there before. -/
theorem node?_of_write {n : Node} {content : ByteArray} (hp : p ≠ []) (h : (d.write p content).node? q = some n) :
    n.kind = .file ∨ d.node? q = some n := by
  rw [node?_write hp] at h
  split at h
  · rw [← Option.some.inj h, kind_settled]
    exact Or.inl rfl
  · exact Or.inr h

/-! ## What an operation has done -/

/-- A directory that was made stands at a place where nothing was. -/
theorem makeDir_eq_ok {workDir : Place} {path : String} (h : d.makeDir workDir path = .ok d') :
    ∃ p, d.resolve .newDirectory workDir path = .ok p ∧ d.node? p = none ∧ d' = d.put p .directory := by
  rw [makeDir] at h
  obtain ⟨p, hp, h⟩ := bind_eq_ok.1 h
  cases hn : d.node? p with
  | none =>
    rw [hn] at h
    exact ⟨p, hp, hn, (Except.ok.inj h).symm⟩
  | some n =>
    rw [hn] at h
    cases h

/-- A file that was created is empty, unless a device takes its place. -/
theorem create_eq_ok {workDir : Place} {path : String} (h : d.create workDir path = .ok d') :
    ∃ p, d.resolve .newFile workDir path = .ok p ∧
      (d.node? p = some .device ∧ d' = d ∨ d.node? p ≠ some .directory ∧ d' = d.write p ByteArray.empty) := by
  rw [create] at h
  obtain ⟨p, hp, h⟩ := bind_eq_ok.1 h
  refine ⟨p, hp, ?_⟩
  split at h
  · cases h
  · rename_i hn
    exact Or.inl ⟨hn, (Except.ok.inj h).symm⟩
  · rename_i hn _
    exact Or.inr ⟨hn, (Except.ok.inj h).symm⟩

/-- Bytes are put at the end of a file, unless a device takes them. -/
theorem append_eq_ok {workDir : Place} {path : String} {bytes : ByteArray} (h : d.append workDir path bytes = .ok d') :
    ∃ p, d.resolve .target workDir path = .ok p ∧
      (d.node? p = some .device ∧ d' = d ∨
        ∃ content number?, d.node? p = some (.file content number?) ∧ d' = d.write p (content ++ bytes)) := by
  rw [append] at h
  obtain ⟨p, hp, h⟩ := bind_eq_ok.1 h
  refine ⟨p, hp, ?_⟩
  split at h
  · rename_i content number? hn
    exact Or.inr ⟨content, number?, hn, (Except.ok.inj h).symm⟩
  · cases h
  · rename_i hn
    exact Or.inl ⟨hn, (Except.ok.inj h).symm⟩
  · cases h

/-- What is renamed leaves its place and takes the other one, where no directory is, unless both are names of one file. -/
theorem rename_eq_ok {workDir : Place} {source target : String} (h : d.rename workDir source target = .ok d') :
    ∃ p q n, d.resolve .entry workDir source = .ok p ∧ d.resolve .entry workDir target = .ok q ∧ d.node? p = some n ∧
      d.node? q ≠ some .directory ∧ (q ∈ d.twins p ∧ d' = d ∨ q ∉ d.twins p ∧ d' = (d.erase p).put q (d.settled p n)) := by
  rw [rename] at h
  obtain ⟨p, hp, h⟩ := bind_eq_ok.1 h
  obtain ⟨q, hq, h⟩ := bind_eq_ok.1 h
  refine ⟨p, q, ?_⟩
  split at h
  · cases h
  · cases h
  · rename_i n hn hne
    refine ⟨n, hp, hq, hn, hne, ?_⟩
    split at h
    · exact Or.inl ⟨‹_›, (Except.ok.inj h).symm⟩
    · exact Or.inr ⟨‹_›, (Except.ok.inj h).symm⟩

/-- What is removed was there, and no directory. -/
theorem remove_eq_ok {workDir : Place} {path : String} (h : d.remove workDir path = .ok d') :
    ∃ p, d.resolve .entry workDir path = .ok p ∧ d.node? p ≠ some .directory ∧ d' = d.erase p := by
  rw [remove] at h
  obtain ⟨p, hp, h⟩ := bind_eq_ok.1 h
  refine ⟨p, hp, ?_⟩
  split at h
  · cases h
  · cases h
  · rename_i n hne hn
    exact ⟨fun hdirectory => hne (Option.some.inj (hn.symm.trans hdirectory)), (Except.ok.inj h).symm⟩

/-- A link that was made stands at a place where nothing was. -/
theorem makeLink_eq_ok {workDir : Place} {target path : String} (h : d.makeLink workDir target path = .ok d') :
    ∃ p, d.resolve .entry workDir path = .ok p ∧ d.node? p = none ∧ d' = d.put p (.link target) := by
  rw [makeLink] at h
  obtain ⟨p, hp, h⟩ := bind_eq_ok.1 h
  split at h
  · cases h
  · rename_i hn
    exact ⟨p, hp, hn, (Except.ok.inj h).symm⟩

/-- What is removed with everything below it was there. -/
theorem removeAll_eq_ok {workDir : Place} {path : String} (h : d.removeAll workDir path = .ok d') :
    ∃ p, d.resolve .entry workDir path = .ok p ∧ d.node? p ≠ none ∧
      d' = ⟨d.nodes.filter fun (q, _) => !p.isPrefixOf q⟩ := by
  rw [removeAll] at h
  obtain ⟨p, hp, h⟩ := bind_eq_ok.1 h
  split at h
  · cases h
  · rename_i n hn
    exact ⟨p, hp, by simp [hn], (Except.ok.inj h).symm⟩

/-! ## Added directories -/

/-- The second disk is the first one with directories where nothing was. -/
def AddsDirectories (d d' : Disk) : Prop :=
  ∀ q, d'.node? q = d.node? q ∨ d.node? q = none ∧ d'.node? q = some .directory

theorem AddsDirectories.refl (d : Disk) : d.AddsDirectories d := fun _ => Or.inl rfl

theorem AddsDirectories.trans (h : d.AddsDirectories d') (h' : d'.AddsDirectories d'') : d.AddsDirectories d'' := by
  intro q
  rcases h' q with hq' | ⟨hnone, hdir⟩
  · rw [hq']
    exact h q
  · rcases h q with hq | ⟨_, hdir'⟩
    · exact Or.inr ⟨hq ▸ hnone, hdir⟩
    · rw [hdir'] at hnone
      cases hnone

/-- What was there stays. -/
theorem AddsDirectories.node? {n : Node} (h : d.AddsDirectories d') (hn : d.node? q = some n) : d'.node? q = some n := by
  rcases h q with hq | ⟨hnone, _⟩
  · rw [hq, hn]
  · rw [hn] at hnone
    cases hnone

/-- A directory is only made where nothing was. -/
theorem addsDirectories_makeDir {workDir : Place} {path : String} (h : d.makeDir workDir path = .ok d') :
    d.AddsDirectories d' := by
  obtain ⟨p, -, hp, rfl⟩ := makeDir_eq_ok h
  intro q
  by_cases hq : q = p
  · subst hq
    exact Or.inr ⟨hp, node?_put_self _ (ne_nil_of_node?_ne (by rw [hp]; nofun))⟩
  · exact Or.inl (node?_put_of_ne _ hq)

/-- No number comes with added directories. -/
theorem AddsDirectories.number?_eq {i : Nat} (h : d.AddsDirectories d') (hi : d'.number? q = some i) : d.number? q = some i := by
  obtain ⟨content, hnode⟩ := number?_eq_some_iff.1 hi
  rcases h q with hq | ⟨-, hdirectory⟩
  · exact number?_eq_some_iff.2 ⟨content, hq ▸ hnode⟩
  · rw [hdirectory] at hnode
    cases hnode

/-! ## Added files -/

/-- Whatever the second disk holds that the first one does not is a file. -/
def AddsFiles (d d' : Disk) : Prop := ∀ q n, d'.node? q = some n → d.node? q = some n ∨ n.kind = .file

theorem AddsFiles.refl (d : Disk) : d.AddsFiles d := fun _ _ h => Or.inl h

/-- What had been there before directories were added is there after. -/
theorem AddsDirectories.addsFiles (h : d.AddsDirectories d') : d'.AddsFiles d := fun _ _ hn => Or.inl (h.node? hn)

/-- What is no file was there before. -/
theorem AddsFiles.node? {n : Node} (h : d.AddsFiles d') (hn : d'.node? q = some n) (hfile : n.kind ≠ .file) :
    d.node? q = some n :=
  (h q n hn).resolve_right hfile

/-- Whatever the second disk holds that the first one does not is a file with one name. -/
def AddsNewFiles (d d' : Disk) : Prop := ∀ q n, d'.node? q = some n → d.node? q = some n ∨ ∃ content, n = .file content

theorem AddsNewFiles.refl (d : Disk) : d.AddsNewFiles d := fun _ _ h => Or.inl h

theorem AddsNewFiles.trans (h : d.AddsNewFiles d') (h' : d'.AddsNewFiles d'') : d.AddsNewFiles d'' := by
  intro q n hn
  rcases h' q n hn with hn' | hfile
  · exact h q n hn'
  · exact Or.inr hfile

/-- A file with one name is a file. -/
theorem AddsNewFiles.addsFiles (h : d.AddsNewFiles d') : d.AddsFiles d' := by
  intro q n hn
  rcases h q n hn with hn' | ⟨content, rfl⟩
  · exact Or.inl hn'
  · exact Or.inr rfl

/-- No number comes with new files. -/
theorem AddsNewFiles.number?_eq {i : Nat} (h : d.AddsNewFiles d') (hi : d'.number? q = some i) : d.number? q = some i := by
  obtain ⟨content, hnode⟩ := number?_eq_some_iff.1 hi
  rcases h q _ hnode with hnode' | ⟨content', hfile⟩
  · exact number?_eq_some_iff.2 ⟨content, hnode'⟩
  · cases hfile

/-- A file that is put somewhere is new. -/
theorem addsNewFiles_put (d : Disk) (p : Place) (hp : p ≠ []) (content : ByteArray) :
    d.AddsNewFiles (d.put p (.file content)) := by
  intro q n hn
  by_cases hq : q = p
  · rw [hq, node?_put_self _ hp] at hn
    exact Or.inr ⟨content, (Option.some.inj hn).symm⟩
  · rw [node?_put_of_ne _ hq] at hn
    exact Or.inl hn

/-! ## Clear places -/

/-- What is at a place, if anything, is a directory or a file. -/
def IsOrdinary (d : Disk) (q : Place) : Prop := ∀ n, d.node? q = some n → n.kind = .directory ∨ n.kind = .file

/-- All directories are alike: what is in one is listed for other places. -/
theorem eq_directory_of_kind {n : Node} (h : n.kind = .directory) : n = .directory := by
  cases n with
  | directory => rfl
  | file content number? => cases h
  | link target => cases h
  | device => cases h

/-- No link is at an ordinary place. -/
theorem IsOrdinary.ne_link (h : d.IsOrdinary q) (target : String) : d.node? q ≠ some (.link target) := by
  intro hn
  rcases h _ hn with hlink | hlink <;> cases hlink

/-- No device is at an ordinary place. -/
theorem IsOrdinary.ne_device (h : d.IsOrdinary q) : d.node? q ≠ some .device := by
  intro hn
  rcases h _ hn with hdevice | hdevice <;> cases hdevice

/-- An ordinary place stays one when directories are added. -/
theorem AddsDirectories.isOrdinary (h : d.AddsDirectories d') (hq : d.IsOrdinary q) : d'.IsOrdinary q := by
  intro n hn
  rcases h q with hsame | ⟨-, hdirectory⟩
  · exact hq n (hsame ▸ hn)
  · rw [hdirectory] at hn
    exact Or.inl (Option.some.inj hn ▸ rfl)

/-- A file can be created at a place without going anywhere else: what is there, if anything, is a directory, or a file that has no
other name. -/
structure IsClear (d : Disk) (q : Place) : Prop where
  ordinary : d.IsOrdinary q
  sole : d.IsSole q

/-- A place with nothing at it is clear. -/
theorem isClear_of_none (h : d.node? q = none) : d.IsClear q := by
  refine ⟨fun n hn => ?_, fun i hi => ?_⟩
  · rw [h] at hn
    cases hn
  · rw [number?, h] at hi
    cases hi

/-- A clear place stays clear when new files are added. -/
theorem AddsNewFiles.isClear (h : d.AddsNewFiles d') (hclear : d.IsClear q) : d'.IsClear q := by
  refine ⟨fun n hn => ?_, hclear.sole.mono fun _ _ => h.number?_eq⟩
  rcases h.addsFiles q n hn with hn' | hfile
  · exact hclear.ordinary n hn'
  · exact Or.inr hfile

/-- A clear place stays clear when directories are added. -/
theorem AddsDirectories.isClear (h : d.AddsDirectories d') (hclear : d.IsClear q) : d'.IsClear q :=
  ⟨h.isOrdinary hclear.ordinary, hclear.sole.mono fun _ _ => h.number?_eq⟩

end RenderCatalog.Disk

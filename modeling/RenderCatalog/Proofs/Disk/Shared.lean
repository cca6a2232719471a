import RenderCatalog.Proofs.Disk.Resolve

/-!
# A disk that is shared

While several write on a disk, each into places of its own, the places of all of them change and nothing else does: there files come
and go, but no directories, no links and no other names of files (`RewritesAt`). On all these disks a path of such a place leads there, or is refused in the
same way (`LeadsTo`), so what an operation on it does depends on the places of its own alone, and changes no other (`KeepsTo`).
-/

namespace RenderCatalog.Disk

variable {d d' d'' base : Disk} {aim : Aim} {workDir p q : Place} {path directory name : String} {places S : List Place}

/-! ## Disks that differ at some places -/

/-- What may come at a place that is written: nothing, a device, or a file with one name. -/
def IsPlain (n? : Option Node) : Prop := ∀ n, n? = some n → n.kind ≠ .directory ∧ n.kind ≠ .link ∧ n.number? = none

theorem isPlain_none : IsPlain none := nofun

/-- A file with one name is plain. -/
theorem isPlain_file (content : ByteArray) : IsPlain (some (.file content)) := by
  rintro n ⟨⟩
  exact ⟨nofun, nofun, rfl⟩

/-- A node that is neither a directory nor a link is plain under one name. -/
theorem isPlain_single {n : Node} (hdirectory : n ≠ .directory) (hlink : ∀ target, n ≠ .link target) : IsPlain (some n.single) := by
  rintro _ ⟨⟩
  cases n with
  | directory => exact absurd rfl hdirectory
  | file content number? => exact ⟨nofun, nofun, rfl⟩
  | link target => exact absurd rfl (hlink target)
  | device => exact ⟨nofun, nofun, rfl⟩

/-- The second disk is the first one after some places have been written anew: no directory was there before, and what is there now
is plain. -/
def RewritesAt (places : List Place) (d d' : Disk) : Prop :=
  ∀ q, d'.node? q = d.node? q ∨ q ∈ places ∧ d.node? q ≠ some .directory ∧ IsPlain (d'.node? q)

theorem RewritesAt.refl (places : List Place) (d : Disk) : RewritesAt places d d := fun _ => Or.inl rfl

theorem RewritesAt.trans (h : RewritesAt places d d') (h' : RewritesAt places d' d'') : RewritesAt places d d'' := by
  intro q
  rcases h' q with hsame | ⟨hq, hdirectory, hplain⟩
  · rw [hsame]
    exact h q
  · refine Or.inr ⟨hq, ?_, hplain⟩
    rcases h q with hsame | ⟨-, hdirectory', -⟩
    · rwa [← hsame]
    · exact hdirectory'

/-- No directory comes or goes. -/
theorem RewritesAt.node?_directory_iff (h : RewritesAt places d d') : d'.node? q = some .directory ↔ d.node? q = some .directory := by
  rcases h q with hsame | ⟨-, hdirectory, hplain⟩
  · rw [hsame]
  · exact ⟨fun heq => absurd rfl (hplain _ heq).1, fun heq => absurd heq hdirectory⟩

/-- No link comes. -/
theorem RewritesAt.ne_link (h : RewritesAt places d d') {target : String} (hlink : d.node? q ≠ some (.link target)) :
    d'.node? q ≠ some (.link target) := by
  rcases h q with hsame | ⟨-, -, hplain⟩
  · rwa [hsame]
  · exact fun heq => (hplain _ heq).2.1 rfl

/-- No file gets another name. -/
theorem RewritesAt.isSole (h : RewritesAt places d d') (hsole : d.IsSole q) : d'.IsSole q := by
  refine hsole.mono fun r i hi => ?_
  obtain ⟨content, hnode⟩ := number?_eq_some_iff.1 hi
  rcases h r with hsame | ⟨-, -, hplain⟩
  · exact number?_eq_some_iff.2 ⟨content, hsame ▸ hnode⟩
  · cases (hplain _ hnode).2.2

/-- Writing one place anew writes places anew among which it is. -/
theorem rewritesAt_of_place (hq : q ∈ places) (hothers : ∀ r ≠ q, d'.node? r = d.node? r)
    (h : d'.node? q = d.node? q ∨ d.node? q ≠ some .directory ∧ IsPlain (d'.node? q)) : RewritesAt places d d' := by
  intro r
  by_cases hr : r = q
  · subst hr
    exact h.imp_right fun hplain => ⟨hq, hplain⟩
  · exact Or.inl (hothers r hr)

/-! ## What does not depend on some places -/

/-- The disk with nothing but directories at some places. -/
def bare (d : Disk) (places : List Place) : Disk :=
  ⟨d.nodes.filter fun e => !places.contains e.1 || (d.node? e.1).map Node.kind == some .directory⟩

/-- What is on the bare disk is on the disk, and is a directory at the places. -/
theorem node?_of_bare {n : Node} (h : (d.bare places).node? q = some n) : d.node? q = some n ∧ (q ∈ places → n = .directory) := by
  by_cases hq : q = []
  · subst hq
    rw [node?_nil, Option.some.injEq] at h
    exact ⟨h ▸ node?_nil d, fun _ => h.symm⟩
  · rw [node?_of_ne_nil hq, bare, lookup_filter d.nodes fun r => !places.contains r || (d.node? r).map Node.kind == some .directory,
      ← node?_of_ne_nil hq] at h
    split at h
    · rename_i hkept
      refine ⟨h, fun hmem => ?_⟩
      rw [List.contains_iff_mem.2 hmem, Bool.not_true, Bool.false_or, h, beq_iff_eq] at hkept
      cases n <;> first | rfl | cases hkept
    · cases h

/-- Whatever has been written at some places, what the disk without them holds is there. -/
theorem RewritesAt.addsFiles (h : RewritesAt places d d') : d'.AddsFiles (d.bare places) := by
  intro q n hn
  obtain ⟨hnode, hdirectory⟩ := node?_of_bare hn
  refine Or.inl ?_
  rcases h q with hsame | ⟨hq, hne, -⟩
  · rw [hsame, hnode]
  · rw [hdirectory hq] at hnode
    exact absurd hnode hne

/-! ## Where paths lead -/

/-- What comes of the path of a name below a directory that has a place, when no link is followed there. -/
def spot (directory name : String) (p : Place) : Except OsError Place :=
  if (Path.join directory name).toList.contains '\x00' then .error .nulInPath
  else if isTooLong (Path.join directory name) then .error .nameTooLong
  else if longestName < name.utf8ByteSize then .error .nameTooLong
  else .ok (p ++ [name])

/-- The path of a name leads to the name below its directory, or nowhere. -/
theorem spot_eq_ok (h : spot directory name p = .ok q) : q = p ++ [name] := by
  rw [spot] at h
  split at h
  · cases h
  · split at h
    · cases h
    · split at h
      · cases h
      · exact (Except.ok.inj h).symm

/-- A path to a name below a directory is resolved there when no link is followed. -/
theorem resolve_eq_spot (hname : Path.IsName name) (hp : d.directory? workDir directory = some p)
    (hlink : aim = .entry ∨ ∀ target, d.node? (p ++ [name]) ≠ some (.link target)) :
    d.resolve aim workDir (Path.join directory name) = spot directory name p := by
  have hdot : '/' ∉ ".".toList := by decide
  obtain ⟨-, -, -, hstart, hfrom⟩ := resolve_eq_ok_iff.1 (directory?_eq_some_iff.1 hp)
  rw [Path.isAbsolute_join hdot] at hstart hfrom
  rw [names_join (by decide) hdot] at hfrom
  have hempty : (Path.join directory name).isEmpty = false := by
    rw [Bool.eq_false_iff, Ne, String.isEmpty_iff, ← String.toList_inj, Path.toList_join hname.no_slash]
    simp [hname.nonempty]
  have hlast : ∀ budget r, d.resolveFrom .target budget r [".".toList] = .ok p →
      d.resolveFrom aim budget r [name.toList] =
        if longestName < name.utf8ByteSize then .error .nameTooLong else .ok (p ++ [name]) := by
    intro budget r hr
    obtain rfl : r = p := Except.ok.inj ((resolveFrom_here d .target budget r).symm.trans hr)
    exact resolveFrom_step hname budget hlink
  have hstep := resolveFrom_swap (R := (· = if longestName < name.utf8ByteSize then .error .nameTooLong else .ok (p ++ [name])))
    (AddsFiles.refl d) (by decide) hname.nonempty hlast linkBudget _ _ hfrom
  rw [resolve, spot, hempty, Path.isAbsolute_join hname.no_slash, names_join hname.nonempty hname.no_slash]
  simp only [hstart, hstep, Bool.false_eq_true, if_false]

/-- Walking depends on what is at places, and on nothing else about the disk. -/
theorem walk_congr (h : ∀ q, d.node? q = d'.node? q) {follow follow' : Place → String → List (List Char) → Except OsError Place}
    (hfollow : ∀ here target rest, follow here target rest = follow' here target rest) (names : List (List Char)) (here : Place) :
    d.walk aim follow here names = d'.walk aim follow' here names := by
  induction names generalizing here with
  | nil => rw [walk, walk]
  | cons first rest ih =>
    rw [walk, walk]
    simp only [h, hfollow, ih]

/-- A path leads to the same place, or is refused in the same way, where disks hold the same. -/
theorem resolve_congr (h : ∀ q, d.node? q = d'.node? q) : d.resolve aim workDir path = d'.resolve aim workDir path := by
  have hfrom : ∀ budget here names, d.resolveFrom aim budget here names = d'.resolveFrom aim budget here names := by
    intro budget
    induction budget with
    | zero => exact fun here names => walk_congr h (fun _ _ _ => rfl) names here
    | succ budget ih => exact fun here names => walk_congr h (fun _ _ _ => ih _ _) names here
  rw [resolve, resolve]
  simp only [h, hfrom]

/-- Whatever has been written at some places of a disk, a path is refused in one way, or leads to a place which is one of them. -/
def LeadsTo (base : Disk) (places : List Place) (aim : Aim) (workDir : Place) (path : String) (q : Place) : Prop :=
  ∃ r : Except OsError Place, (∀ q', r = .ok q' → q' = q ∧ q ∈ places) ∧
    ∀ d, RewritesAt places base d → d.resolve aim workDir path = r

/-- The path of a name below a directory leads to it where the way to the directory does not go through the places. -/
theorem leadsTo_join (hname : Path.IsName name) (hp : (base.bare places).directory? workDir directory = some p)
    (hq : p ++ [name] ∈ places) (hlink : aim = .entry ∨ ∀ target, base.node? (p ++ [name]) ≠ some (.link target)) :
    LeadsTo base places aim workDir (Path.join directory name) (p ++ [name]) := by
  refine ⟨spot directory name p, fun q' hq' => ⟨spot_eq_ok hq', hq⟩, fun d hd => ?_⟩
  exact resolve_eq_spot hname (directory?_of_addsFiles hd.addsFiles hp) (hlink.imp_right fun hlink target => hd.ne_link (hlink target))

/-- Below a path that leads to no directory nothing is found. -/
theorem leadsTo_nowhere (hname : Path.IsName name) (hnone : base.directory? workDir directory = none) (q : Place) :
    LeadsTo base [] aim workDir (Path.join directory name) q := by
  refine ⟨base.resolve aim workDir (Path.join directory name), fun q' hq' => ?_, fun d hd => resolve_congr fun r => ?_⟩
  · obtain ⟨p, hp, -⟩ := directory?_of_resolve (AddsFiles.refl base) hname hq'
    rw [hnone] at hp
    cases hp
  · exact (hd r).resolve_right fun h => List.not_mem_nil h.1

/-! ## Operations that keep to places -/

/-- Two refusals of one kind, or two disks that hold the same at places. -/
inductive AgreeAt (S : List Place) : Except OsError Disk → Except OsError Disk → Prop
  | refused (e : OsError) : AgreeAt S (.error e) (.error e)
  | done {d d' : Disk} (h : ∀ q ∈ S, d.node? q = d'.node? q) : AgreeAt S (.ok d) (.ok d')

/-- An operation that, on disks of a kind, changes nothing but places and depends on them alone, and leaves a disk of that kind. -/
structure KeepsTo (G : Disk → Prop) (S : List Place) (act : Disk → Except OsError Disk) : Prop where
  keeps : ∀ {d d'}, G d → act d = .ok d' → G d' ∧ ∀ q ∉ S, d'.node? q = d.node? q
  agree : ∀ {d d'}, G d → G d' → (∀ q ∈ S, d.node? q = d'.node? q) → AgreeAt S (act d) (act d')

/-- Doing nothing keeps to any places. -/
theorem keepsTo_ok (G : Disk → Prop) (S : List Place) : KeepsTo G S .ok where
  keeps hd h := by
    cases h
    exact ⟨hd, fun _ _ => rfl⟩
  agree _ _ hagree := .done hagree

/-- An operation that is passed over when it is refused. -/
theorem KeepsTo.getD {G : Disk → Prop} {act : Disk → Except OsError Disk} (h : KeepsTo G S act) :
    KeepsTo G S fun d => .ok ((act d).toOption.getD d) where
  keeps {d d'} hd hact := by
    cases hact
    cases hdone : act d with
    | error e => exact ⟨hd, fun _ _ => rfl⟩
    | ok d' => exact h.keeps hd hdone
  agree {d d'} hd hd' hagree := by
    have hboth := h.agree hd hd' hagree
    refine .done ?_
    generalize act d = r, act d' = r' at hboth
    cases hboth with
    | refused e => exact hagree
    | done hdone => exact hdone

/-- Disks that hold the same at a place still do after the same was put on both. -/
theorem node?_put_congr (hsame : d.node? p = d'.node? p) (n : Node) : (d.put q n).node? p = (d'.put q n).node? p := by
  by_cases hp : p = q
  · subst hp
    by_cases hnil : p = []
    · rw [hnil, node?_nil, node?_nil]
    · rw [node?_put_self _ hnil, node?_put_self _ hnil]
  · rw [node?_put_of_ne _ hp, node?_put_of_ne _ hp, hsame]

/-- Disks that hold the same at a place still do after the same was taken away from both. -/
theorem node?_erase_congr (hsame : d.node? p = d'.node? p) : (d.erase q).node? p = (d'.erase q).node? p := by
  by_cases hp : p = q
  · subst hp
    by_cases hnil : p = []
    · rw [hnil, node?_nil, node?_nil]
    · rw [node?_erase_self hnil, node?_erase_self hnil]
  · rw [node?_erase_of_ne hp, node?_erase_of_ne hp, hsame]

/-! ### One place -/

/-- What an operation comes to that looks at one place only: a refusal, or the disk with something else, or nothing, at that place.
-/
inductive AltersAt (d : Disk) (q : Place) : Except OsError (Option Node) → Except OsError Disk → Prop
  | refused (e : OsError) : AltersAt d q (.error e) (.error e)
  | done {d' : Disk} (h : ∀ r ≠ q, d'.node? r = d.node? r) : AltersAt d q (.ok (d'.node? q)) (.ok d')

/-- An operation that resolves a path of a place and then alters at most that place, in a way that depends on what is there, keeps to
it. -/
theorem keepsTo_of_altersAt {act : Disk → Except OsError Disk} {f : Option Node → Except OsError (Option Node)} (hq : q ∈ S)
    (h : LeadsTo base places aim workDir path q) (hrefused : ∀ {d e}, d.resolve aim workDir path = .error e → act d = .error e)
    (halters : ∀ {d}, RewritesAt places base d → q ∈ places → d.resolve aim workDir path = .ok q → AltersAt d q (f (d.node? q)) (act d))
    (hplain : ∀ {n? n?'}, f n? = .ok n?' → n?' = n? ∨ n? ≠ some .directory ∧ IsPlain n?') :
    KeepsTo (RewritesAt places base) S act := by
  obtain ⟨r, hr, hresolve⟩ := h
  cases r with
  | error e =>
    refine ⟨fun {d d'} hd hact => ?_, fun {d d'} hd hd' _ => ?_⟩
    · rw [hrefused (hresolve d hd)] at hact
      cases hact
    · rw [hrefused (hresolve d hd), hrefused (hresolve d' hd')]
      exact .refused e
  | ok q' =>
    obtain ⟨rfl, hplace⟩ := hr q' rfl
    refine ⟨fun {d d'} hd hact => ?_, fun {d d'} hd hd' hagree => ?_⟩
    · have hdone := halters hd hplace (hresolve d hd)
      generalize hf : f (d.node? q') = n? at hdone
      rw [hact] at hdone
      cases hdone with
      | done hothers =>
        exact ⟨hd.trans (rewritesAt_of_place hplace hothers (hplain hf)), fun s hs => hothers s fun heq => hs (heq ▸ hq)⟩
    · have hdone := halters hd hplace (hresolve d hd)
      have hdone' := halters hd' hplace (hresolve d' hd')
      rw [← hagree q' hq] at hdone'
      generalize hr : act d = r, hr' : act d' = r', f (d.node? q') = n? at hdone hdone'
      cases hdone with
      | refused e =>
        cases hdone'
        exact .refused e
      | @done d₁ hothers =>
        generalize hn : (.ok (d₁.node? q') : Except OsError (Option Node)) = n? at hdone'
        cases hdone' with
        | refused e => cases hn
        | @done d₂ hothers' =>
          refine .done fun s hs => ?_
          by_cases hsq : s = q'
          · subst hsq
            exact Except.ok.inj hn
          · rw [hothers s hsq, hothers' s hsq, hagree s hs]

/-- What leaves its place as it is leaves the disk as it is. -/
theorem altersAt_self (d : Disk) {n? : Option Node} (h : d.node? q = n?) : AltersAt d q (.ok n?) (.ok d) :=
  h ▸ .done fun _ _ => rfl

/-- Writing a file with one name changes its place only. -/
theorem altersAt_write (hq : d.node? q ≠ some .directory) (hsole : d.IsSole q) (content : ByteArray) :
    AltersAt d q (.ok (some (.file content))) (.ok (d.write q content)) := by
  rw [hsole.write_eq, ← node?_put_self (d := d) (.file content) (ne_nil_of_node?_ne hq)]
  exact .done fun r hr => node?_put_of_ne _ hr

/-- What creating a file makes of what is at its place. -/
def createdAt : Option Node → Except OsError (Option Node)
  | some .directory => .error .isDirectory
  | some .device => .ok (some .device)
  | _ => .ok (some (.file ByteArray.empty))

/-- What putting bytes at the end of a file makes of what is at its place. -/
def appendedAt (bytes : ByteArray) : Option Node → Except OsError (Option Node)
  | some (.file content _) => .ok (some (.file (content ++ bytes)))
  | some .directory => .error .isDirectory
  | some .device => .ok (some .device)
  | _ => .error .notFound

/-- What removing a file makes of what is at its place. -/
def removedAt : Option Node → Except OsError (Option Node)
  | none => .error .notFound
  | some .directory => .error .isDirectory
  | some _ => .ok none

section Operations

variable (hq : q ∈ S)

include hq

/-- Creating a file keeps to the place of its path where a file there has no other name. -/
theorem keepsTo_create (h : LeadsTo base places .newFile workDir path q) (hsole : q ∈ places → base.IsSole q) :
    KeepsTo (RewritesAt places base) S fun d => d.create workDir path := by
  refine keepsTo_of_altersAt (f := createdAt) hq h (fun he => ?_) (fun {d} hd hplace hresolve => ?_) fun {n? n?'} hf => ?_
  · rw [create, he]
    rfl
  · have hsole' := hd.isSole (hsole hplace)
    simp only [create, hresolve, bind, Except.bind]
    split
    · rw [‹d.node? q = _›]
      exact .refused _
    · exact ‹d.node? q = _› ▸ altersAt_self d ‹_›
    · rename_i hdirectory hdevice
      have hcreated : createdAt (d.node? q) = .ok (some (.file ByteArray.empty)) := by
        rw [createdAt.eq_def]
        split
        · exact absurd ‹_› hdirectory
        · exact absurd ‹_› hdevice
        · rfl
      rw [hcreated]
      exact altersAt_write hdirectory hsole' _
  · rw [createdAt.eq_def] at hf
    split at hf
    · cases hf
    · exact Or.inl (Except.ok.inj hf).symm
    · exact Or.inr ⟨‹_›, Except.ok.inj hf ▸ isPlain_file _⟩

/-- Putting bytes at the end of a file keeps to its place where the file has no other name. -/
theorem keepsTo_append (h : LeadsTo base places .target workDir path q) (hsole : q ∈ places → base.IsSole q) (bytes : ByteArray) :
    KeepsTo (RewritesAt places base) S fun d => d.append workDir path bytes := by
  refine keepsTo_of_altersAt (f := appendedAt bytes) hq h (fun he => ?_) (fun {d} hd hplace hresolve => ?_) fun {n? n?'} hf => ?_
  · rw [append, he]
    rfl
  · have hsole' := hd.isSole (hsole hplace)
    simp only [append, hresolve, bind, Except.bind]
    cases hn : d.node? q with
    | none => exact .refused _
    | some n =>
      cases n with
      | directory => exact .refused _
      | file content number? => exact altersAt_write (by simp [hn]) hsole' _
      | link target => exact .refused _
      | device => exact altersAt_self d hn
  · cases n? with
    | none => cases hf
    | some n =>
      cases n with
      | directory => cases hf
      | file content number? => exact Or.inr ⟨by simp, Except.ok.inj hf ▸ isPlain_file _⟩
      | link target => cases hf
      | device => exact Or.inl (Except.ok.inj hf).symm

/-- Removing a file keeps to its place. -/
theorem keepsTo_remove (h : LeadsTo base places .entry workDir path q) :
    KeepsTo (RewritesAt places base) S fun d => d.remove workDir path := by
  refine keepsTo_of_altersAt (f := removedAt) hq h (fun he => ?_) (fun {d} hd hplace hresolve => ?_) fun {n? n?'} hf => ?_
  · rw [remove, he]
    rfl
  · simp only [remove, hresolve, bind, Except.bind]
    cases hn : d.node? q with
    | none => exact .refused _
    | some n =>
      have herase (hne : d.node? q ≠ some .directory) : AltersAt d q (.ok none) (.ok (d.erase q)) := by
        rw [← node?_erase_self (d := d) (ne_nil_of_node?_ne hne)]
        exact .done fun r hr => node?_erase_of_ne hr
      cases n with
      | directory => exact .refused _
      | file content number? => exact herase (by simp [hn])
      | link target => exact herase (by simp [hn])
      | device => exact herase (by simp [hn])
  · cases n? with
    | none => cases hf
    | some n =>
      cases n with
      | directory => cases hf
      | file content number? => exact Or.inr ⟨by simp, Except.ok.inj hf ▸ isPlain_none⟩
      | link target => exact Or.inr ⟨by simp, Except.ok.inj hf ▸ isPlain_none⟩
      | device => exact Or.inr ⟨by simp, Except.ok.inj hf ▸ isPlain_none⟩

/-! ### Two places -/

/-- What is renamed must be neither a directory nor a link before, or one would come under the other path, and no file with another
name. -/
theorem keepsTo_rename {target : String} {q' : Place} (hq' : q' ∈ S) (hne : q' ≠ q)
    (h : LeadsTo base places .entry workDir path q) (h' : LeadsTo base places .entry workDir target q')
    (hfree : q ∈ places → base.node? q ≠ some .directory) (hlink : q ∈ places → ∀ target, base.node? q ≠ some (.link target))
    (hsole : q ∈ places → base.IsSole q) : KeepsTo (RewritesAt places base) S fun d => d.rename workDir path target := by
  obtain ⟨r, hr, hresolve⟩ := h
  obtain ⟨r', hr', hresolve'⟩ := h'
  refine ⟨fun {d d'} hd hact => ?_, fun {d d'} hd hd' hagree => ?_⟩
  · obtain ⟨s, s', n, hs, hs', hn, hdirectory, hrenamed⟩ := rename_eq_ok hact
    obtain ⟨rfl, hplace⟩ := hr s ((hresolve d hd).symm.trans hs)
    obtain ⟨rfl, hplace'⟩ := hr' s' ((hresolve' d hd).symm.trans hs')
    rcases hrenamed with ⟨-, rfl⟩ | ⟨-, rfl⟩
    · exact ⟨hd, fun _ _ => rfl⟩
    · have hfrom : d.node? s ≠ some .directory := fun heq => hfree hplace (hd.node?_directory_iff.1 heq)
      have hplain : IsPlain (some (d.settled s n)) := by
        rw [(hd.isSole (hsole hplace)).settled_eq]
        exact isPlain_single (fun heq => hfrom (heq ▸ hn)) fun target heq => hd.ne_link (hlink hplace target) (heq ▸ hn)
      have herase : RewritesAt places d (d.erase s) := by
        refine rewritesAt_of_place hplace (fun r hr => node?_erase_of_ne hr) (Or.inr ⟨hfrom, ?_⟩)
        rw [node?_erase_self (ne_nil_of_node?_ne hfrom)]
        exact isPlain_none
      have hput : RewritesAt places (d.erase s) ((d.erase s).put s' (d.settled s n)) := by
        refine rewritesAt_of_place hplace' (fun r hr => node?_put_of_ne _ hr) (Or.inr ⟨?_, ?_⟩)
        · rwa [node?_erase_of_ne hne]
        · rwa [node?_put_self _ (ne_nil_of_node?_ne hdirectory)]
      refine ⟨hd.trans (herase.trans hput), fun t ht => ?_⟩
      have hts : t ≠ s := fun heq => ht (heq ▸ hq)
      have hts' : t ≠ s' := fun heq => ht (heq ▸ hq')
      rw [node?_put_of_ne _ hts', node?_erase_of_ne hts]
  · simp only [rename, hresolve d hd, hresolve d' hd', hresolve' d hd, hresolve' d' hd']
    cases r with
    | error e => exact .refused e
    | ok s =>
      obtain ⟨rfl, hplace⟩ := hr s rfl
      cases r' with
      | error e => exact .refused e
      | ok s' =>
        obtain ⟨rfl, -⟩ := hr' s' rfl
        have hsole' := hd.isSole (hsole hplace)
        have hsole'' := hd'.isSole (hsole hplace)
        simp only [bind, Except.bind, hagree s hq, hagree s' hq', twins_eq_nil_iff.2 hsole', twins_eq_nil_iff.2 hsole'',
          hsole'.settled_eq, hsole''.settled_eq, List.not_mem_nil, if_false]
        split
        · exact .refused _
        · exact .refused _
        · exact .done fun t ht => node?_put_congr (node?_erase_congr (hagree t ht)) _

end Operations

end RenderCatalog.Disk

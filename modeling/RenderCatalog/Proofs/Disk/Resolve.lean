import RenderCatalog.Proofs.Disk.Walk

/-!
# What lies below a directory

The path of a name below a directory leads to that name in the place of the directory (`directory?`). As long as only files
are added, a directory that can still be reached is in the same place as before.
-/

namespace RenderCatalog.Disk

variable {d d' : Disk} {aim : Aim} {workDir p q : Place} {directory path name name' : String} {P : Place → Prop}

/-- The place of the directory that a path leads to, the working directory for the empty path. -/
def directory? (d : Disk) (workDir : Place) (path : String) : Option Place :=
  (d.resolve .target workDir (Path.join path ".")).toOption

theorem directory?_eq_some_iff :
    d.directory? workDir directory = some p ↔ d.resolve .target workDir (Path.join directory ".") = .ok p := by
  rw [directory?]
  exact toOption_eq_some_iff

/-- A path that leads somewhere is one that every operation takes. -/
theorem of_resolve (h : d.resolve aim workDir path = .ok p) : '\x00' ∉ path.toList ∧ isTooLong path = false := by
  obtain ⟨hnul, hlong, -⟩ := resolve_eq_ok_iff.1 h
  exact ⟨hnul, hlong⟩

/-- A name that the path of what lies below a directory may end in. -/
structure Fits (directory name : String) : Prop where
  no_nul : '\x00' ∉ (Path.join directory name).toList
  path : isTooLong (Path.join directory name) = false
  name : name.utf8ByteSize ≤ longestName

/-- The path of one name below a directory goes the same way as that of another. -/
theorem resolve_swap (aim' : Aim) {name' : String} (hd : d.AddsFiles d') (hne : name.toList ≠ [])
    (hslash : '/' ∉ name.toList) (hne' : name'.toList ≠ []) (hslash' : '/' ∉ name'.toList) (hnul : '\x00' ∉ (Path.join directory name').toList)
    (hlong : isTooLong (Path.join directory name') = false)
    (hlast : ∀ budget p, d'.resolveFrom aim budget p [name.toList] = .ok q →
      ∃ q', d.resolveFrom aim' budget p [name'.toList] = .ok q' ∧ P q')
    (h : d'.resolve aim workDir (Path.join directory name) = .ok q) :
    ∃ q', d.resolve aim' workDir (Path.join directory name') = .ok q' ∧ P q' := by
  obtain ⟨-, -, -, hstart, hfrom⟩ := resolve_eq_ok_iff.1 h
  have hempty : Path.join directory name' ≠ "" := by
    rw [← String.toList_inj.ne, Path.toList_join hslash']
    simp [hne']
  rw [names_join hne hslash, Path.isAbsolute_join hslash] at hfrom
  rw [Path.isAbsolute_join hslash] at hstart
  obtain ⟨q', hq', hP⟩ := resolveFrom_swap (R := fun r => ∃ q', r = .ok q' ∧ P q') hd hne hne' hlast linkBudget _ _ hfrom
  refine ⟨q', resolve_eq_ok_iff.2 ⟨hnul, hlong, hempty, ?_, ?_⟩, hP⟩
  · rw [Path.isAbsolute_join hslash']
    exact hd.node? hstart (by nofun)
  · rwa [names_join hne' hslash', Path.isAbsolute_join hslash']

/-- A directory whose path can be continued with a name can be continued with a point, which is no longer. -/
theorem isTooLong_join_dot (hname : Path.IsName name) (h : isTooLong (Path.join directory name) = false) :
    isTooLong (Path.join directory ".") = false := by
  have hdot : '/' ∉ ".".toList := by decide
  have hpos : name.utf8ByteSize ≠ 0 := by
    rw [Ne, String.utf8ByteSize_eq_zero_iff]
    rintro rfl
    exact hname.nonempty rfl
  have hone : ".".utf8ByteSize = 1 := rfl
  rw [isTooLong, decide_eq_false_iff_not, Path.join_eq hname.no_slash, String.utf8ByteSize_append] at h
  rw [isTooLong, decide_eq_false_iff_not, Path.join_eq hdot, String.utf8ByteSize_append]
  omega

/-- Where the path of a name below a directory leads, the directory has a place, and the name is one step from there. -/
theorem directory?_of_resolve (hd : d.AddsFiles d') (hname : Path.IsName name)
    (h : d'.resolve aim workDir (Path.join directory name) = .ok q) :
    ∃ p, d.directory? workDir directory = some p ∧ ∃ budget, d'.resolveFrom aim budget p [name.toList] = .ok q := by
  obtain ⟨hnul, hlong⟩ := of_resolve h
  have hdot : '/' ∉ ".".toList := by decide
  rw [Path.toList_join hname.no_slash, List.mem_append, not_or] at hnul
  have hnul' : '\x00' ∉ (Path.join directory ".").toList := by
    rw [Path.toList_join hdot, List.mem_append, not_or]
    exact ⟨hnul.1, by decide⟩
  have hlong' := isTooLong_join_dot hname hlong
  have hstep : ∀ budget p, d'.resolveFrom aim budget p [name.toList] = .ok q →
      ∃ r, d.resolveFrom .target budget p [".".toList] = .ok r ∧ ∃ budget, d'.resolveFrom aim budget r [name.toList] = .ok q :=
    fun budget p hp => ⟨p, resolveFrom_here d .target budget p, budget, hp⟩
  obtain ⟨p, hp, hlast⟩ := resolve_swap .target hd hname.nonempty hname.no_slash (by decide) hdot hnul' hlong' hstep h
  exact ⟨p, directory?_eq_some_iff.2 hp, hlast⟩

/-- The path of a name below a directory leads to that name in the place of the directory, unless it follows a link there. -/
theorem resolve_name (hd : d.AddsFiles d') (hname : Path.IsName name)
    (h : d'.resolve aim workDir (Path.join directory name) = .ok q)
    (hlink : aim = .entry ∨ ∀ p target, d.directory? workDir directory = some p → d'.node? (p ++ [name]) ≠ some (.link target)) :
    ∃ p, d.directory? workDir directory = some p ∧ q = p ++ [name] ∧ Fits directory name := by
  obtain ⟨hnul, hpath⟩ := of_resolve h
  obtain ⟨p, hp, budget, hstep⟩ := directory?_of_resolve hd hname h
  obtain ⟨rfl, hlong⟩ := resolveFrom_last hname hstep (hlink.imp_right fun hlink target => hlink p target hp)
  exact ⟨p, hp, rfl, hnul, hpath, hlong⟩

/-- The path of a file below a directory leads to it. -/
theorem resolve_file (hname : Path.IsName name) (hfits : Fits directory name) (hp : d.directory? workDir directory = some p)
    {content : ByteArray} {number? : Option Nat} (hnode : d.node? (p ++ [name]) = some (.file content number?)) :
    d.resolve .target workDir (Path.join directory name) = .ok (p ++ [name]) := by
  have hstep : ∀ budget r, d.resolveFrom .target budget r [".".toList] = .ok p →
      ∃ q, d.resolveFrom .target budget r [name.toList] = .ok q ∧ q = p ++ [name] := by
    intro budget r hr
    obtain rfl : r = p := Except.ok.inj ((resolveFrom_here d .target budget r).symm.trans hr)
    exact ⟨_, resolveFrom_file hname hfits.name budget hnode, rfl⟩
  obtain ⟨q, hq, rfl⟩ := resolve_swap .target (AddsFiles.refl d) (by decide) (by decide) hname.nonempty hname.no_slash
    hfits.no_nul hfits.path hstep (directory?_eq_some_iff.1 hp)
  exact hq

/-- A directory that can be reached after files were added was in the same place before. -/
theorem directory?_of_addsFiles (hd : d.AddsFiles d') (h : d'.directory? workDir directory = some p) :
    d.directory? workDir directory = some p := by
  rw [directory?_eq_some_iff] at h ⊢
  obtain ⟨hnul, hlong⟩ := of_resolve h
  have hstep : ∀ budget r, d'.resolveFrom .target budget r [".".toList] = .ok p →
      ∃ q, d.resolveFrom .target budget r [".".toList] = .ok q ∧ q = p := by
    intro budget r hr
    obtain rfl : r = p := Except.ok.inj ((resolveFrom_here d' .target budget r).symm.trans hr)
    exact ⟨r, resolveFrom_here d .target budget r, rfl⟩
  obtain ⟨q, hq, rfl⟩ := resolve_swap .target hd (by decide) (by decide) (by decide) (by decide) hnul hlong hstep h
  exact hq

/-- A file in the place of a directory is read under its path, as long as the path of the directory leads to a directory. -/
theorem read_join (hd : d.AddsFiles d') (hname : Path.IsName name) (hfits : Fits directory name)
    (hp : d.directory? workDir directory = some p) (hstays : (d'.directory? workDir directory).isSome) {content : ByteArray}
    {number? : Option Nat} (hnode : d'.node? (p ++ [name]) = some (.file content number?)) : d'.read workDir (Path.join directory name) = .ok content := by
  obtain ⟨r, hr⟩ := Option.isSome_iff_exists.1 hstays
  obtain rfl : r = p := Option.some.inj ((directory?_of_addsFiles hd hr).symm.trans hp)
  rw [Disk.read, resolve_file hname hfits hr hnode]
  simp only [bind, Except.bind, hnode]

/-! ## Operations below a directory -/

variable {made : Disk}

/-- A file that is created below a directory, at a clear place, is put there where no directory is. -/
theorem create_join (hd : made.AddsNewFiles d) (hname : Path.IsName name) (hp : made.directory? workDir directory = some p)
    (hclear : made.IsClear (p ++ [name])) (h : d.create workDir (Path.join directory name) = .ok d') :
    d' = d.put (p ++ [name]) (.file ByteArray.empty) ∧ d.node? (p ++ [name]) ≠ some .directory := by
  have hclear' := hd.isClear hclear
  obtain ⟨q, hq, hnode⟩ := create_eq_ok h
  obtain ⟨r, hr, rfl, -⟩ := resolve_name hd.addsFiles hname hq (Or.inr fun r target hr => by
    rw [Option.some.inj (hr.symm.trans hp)]
    exact hclear'.ordinary.ne_link target)
  rw [Option.some.inj (hr.symm.trans hp), hclear'.sole.write_eq] at hnode
  rcases hnode with ⟨hdevice, -⟩ | ⟨hfree, hput⟩
  · exact absurd hdevice hclear'.ordinary.ne_device
  · exact ⟨hput, hfree⟩

/-- Bytes that are put at the end of a file below a directory are put at the end of that file. -/
theorem append_join (hd : made.AddsNewFiles d) (hname : Path.IsName name) (hp : made.directory? workDir directory = some p)
    {content bytes : ByteArray} (hnode : d.node? (p ++ [name]) = some (.file content))
    (h : d.append workDir (Path.join directory name) bytes = .ok d') : d' = d.put (p ++ [name]) (.file (content ++ bytes)) := by
  obtain ⟨q, hq, hfile⟩ := append_eq_ok h
  obtain ⟨r, hr, rfl, -⟩ := resolve_name hd.addsFiles hname hq (Or.inr fun r target hr => by
    rw [Option.some.inj (hr.symm.trans hp), hnode]
    nofun)
  rw [Option.some.inj (hr.symm.trans hp), hnode] at hfile
  rcases hfile with ⟨hdevice, -⟩ | ⟨before, number?, hbefore, hwrite⟩
  · cases hdevice
  · cases hbefore
    rwa [(isSole_of_file hnode).write_eq] at hwrite

/-- A file that is renamed below a directory goes from the one name to the other, which no directory has. -/
theorem rename_join (hd : made.AddsNewFiles d) (hname : Path.IsName name) (hname' : Path.IsName name')
    (hp : made.directory? workDir directory = some p) {content : ByteArray} (hnode : d.node? (p ++ [name]) = some (.file content))
    (h : d.rename workDir (Path.join directory name) (Path.join directory name') = .ok d') :
    d' = (d.erase (p ++ [name])).put (p ++ [name']) (.file content) ∧ d.node? (p ++ [name']) ≠ some .directory ∧
      Fits directory name' := by
  obtain ⟨q, q', n, hq, hq', hn, hfree, hrenamed⟩ := rename_eq_ok h
  obtain ⟨r, hr, rfl, -⟩ := resolve_name hd.addsFiles hname hq (Or.inl rfl)
  obtain ⟨r', hr', rfl, hfits⟩ := resolve_name hd.addsFiles hname' hq' (Or.inl rfl)
  have hsole : d.IsSole (p ++ [name]) := isSole_of_file hnode
  rw [Option.some.inj (hr.symm.trans hp)] at hn hrenamed
  rw [Option.some.inj (hr'.symm.trans hp)] at hfree hrenamed
  obtain rfl := Option.some.inj (hn.symm.trans hnode)
  rw [twins_eq_nil_iff.2 hsole, hsole.settled_eq] at hrenamed
  rcases hrenamed with ⟨hmem, -⟩ | ⟨-, hrenamed⟩
  · exact absurd hmem List.not_mem_nil
  · exact ⟨hrenamed, hfree, hfits⟩

end RenderCatalog.Disk

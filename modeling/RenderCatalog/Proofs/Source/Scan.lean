import RenderCatalog.Proofs.Disk.Sound
import RenderCatalog.Proofs.Machine
import RenderCatalog.Source.Scan

/-!
# What a scan finds

A scan looks at the disk and changes nothing. The files that it finds have an extension, and on a sound disk, where no place
is listed twice, none of them is found twice.
-/

namespace RenderCatalog

/-- The pieces of the path of what lies below a directory. -/
theorem Disk.pieces_below (root : String) {names : List String} (h : IsPlace names) :
    Path.pieces (Path.below root names).toList = Path.pieces root.toList ++ names.map (·.toList) := by
  rw [Path.below]
  induction names generalizing root with
  | nil => simp
  | cons name rest ih =>
    obtain ⟨⟨hne, hslash⟩, hrest⟩ := List.forall_mem_cons.1 h
    rw [List.foldl_cons, ih _ hrest, Path.pieces_join hne hslash, List.append_assoc, List.map_cons]
    rfl

/-- What lies below a directory in different places has different paths. -/
theorem Disk.below_inj {root : String} {names names' : List String}
    (h : IsPlace names) (h' : IsPlace names') (heq : Path.below root names = Path.below root names') : names = names' := by
  have hpieces := pieces_below root h
  rw [heq, pieces_below root h', List.append_cancel_left_eq] at hpieces
  exact (List.map_injective_iff.2 fun a b hab => String.toList_inj.1 hab) hpieces.symm

namespace Source

open Machine

variable {s : Scan} {m m' : Machine} {files : List String} {listing : List (List String × NodeKind)}

/-- What is listed below a directory of a sound disk is listed once, by names that are names. -/
structure Listed (listing : List (List String × NodeKind)) : Prop where
  nodup : (listing.map (·.1)).Nodup
  names : ∀ e ∈ listing, Disk.IsPlace e.1

theorem Listed.filter (h : Listed listing) (keep : List String × NodeKind → Bool) : Listed (listing.filter keep) :=
  ⟨h.nodup.sublist (List.filter_sublist.map _), fun e he => h.names e (List.mem_filter.1 he).1⟩

/-- Below a place of a sound disk every other place is listed once. -/
theorem listed_below {d : Disk} (h : d.Sound) (p : Place) : Listed (d.below p) := by
  have hentry : ∀ {e : Place × Node} {l : List String × NodeKind},
      (if p.isPrefixOf e.1 && p.length < e.1.length then some (e.1.drop p.length, e.2.kind) else none) = some l →
        e.1 = p ++ l.1 := by
    intro e l hl
    split at hl
    · rename_i hprefix
      cases hl
      rw [Bool.and_eq_true, List.isPrefixOf_iff_prefix] at hprefix
      exact List.prefix_iff_eq_append.1 hprefix.1 |>.symm
    · cases hl
  refine ⟨?_, fun l hl name hname => ?_⟩
  · rw [List.Nodup, List.pairwise_map, Disk.below, List.pairwise_filterMap]
    refine (List.pairwise_map.1 h.nodup).imp fun {e e'} hne l hl l' hl' heq => hne ?_
    rw [hentry hl, hentry hl', heq]
  · obtain ⟨e, he, hl⟩ := List.mem_filterMap.1 hl
    refine h.names e he name ?_
    rw [hentry hl]
    exact List.mem_append_right _ hname

/-- The listing of a machine with a sound disk. -/
theorem listed_of_below {root : String} {deep : Bool} (h : m.disk.Sound) (hlisting : Machine.below root deep m = .ok listing) :
    Listed listing := by
  rw [Machine.below] at hlisting
  split at hlisting
  · cases hlisting
  · rename_i p hp
    split at hlisting
    · simp only at hlisting
      split at hlisting
      · split at hlisting
        · cases hlisting
        · cases hlisting
          exact listed_below h p
      · cases hlisting
        exact (listed_below h p).filter _
    · cases hlisting

/-- A file that is selected is one of the listing, under its path, and is accepted. -/
theorem of_select {names : List String} {kind : NodeKind} {path : String}
    (h : (if kind == .file && (s.recursive || names.length == 1) && s.accepts (Path.below s.root names) then
      some (Path.below s.root names) else none) = some path) : path = Path.below s.root names ∧ s.accepts path := by
  split at h
  · rename_i haccepts
    cases h
    exact ⟨rfl, (Bool.and_eq_true_iff.1 haccepts).2⟩
  · cases h

/-- A file that is selected has an extension. -/
theorem isSome_extension?_of_mem_select {path : String} (h : path ∈ s.select listing) : (Path.extension? path).isSome := by
  obtain ⟨⟨names, kind⟩, -, hpath⟩ := List.mem_filterMap.1 (List.mem_mergeSort.1 h)
  have haccepts := (of_select hpath).2
  rw [Scan.accepts] at haccepts
  cases hextension : Path.extension? path with
  | some extension => rfl
  | none =>
    rw [hextension] at haccepts
    cases haccepts

/-- No file is selected twice. -/
theorem nodup_select (h : Listed listing) : (s.select listing).Nodup := by
  rw [Scan.select, (List.mergeSort_perm _ _).nodup_iff, List.Nodup, List.pairwise_filterMap]
  refine (List.pairwise_map.1 h.nodup).imp_of_mem fun {e e'} he he' hne path hpath path' hpath' heq => hne ?_
  refine Disk.below_inj (h.names e he) (h.names e' he') (?_ : Path.below s.root e.1 = Path.below s.root e'.1)
  rw [← (of_select hpath).1, ← (of_select hpath').1, heq]

/-- The files that a scan finds are selected from a listing of the directory. -/
theorem scan_eq_ok (h : (s.run : Session (Except Error (List String))) m = (.ok files, m')) :
    ∃ listing, Machine.below s.root s.recursive m = .ok listing ∧ files = s.select listing := by
  obtain ⟨isDir, m₁, h₁, h⟩ := bind_eq_iff.1 h
  obtain rfl : m = m₁ := congrArg Prod.snd h₁
  cases isDir with
  | false => cases (pure_eq_iff.1 h).1
  | true =>
    obtain ⟨r₂, m₂, h₂, h⟩ := bind_eq_iff.1 h
    cases r₂ with
    | error e => cases (pure_eq_iff.1 h).1
    | ok listing =>
      obtain ⟨-, m₃, -, h⟩ := bind_eq_iff.1 h
      exact ⟨listing, look_eq_ok h₂, (Except.ok.inj (pure_eq_iff.1 h).1).symm⟩

theorem keeps_scan (s : Scan) : Keeps (s.run : Session (Except Error (List String))) := by
  refine (keeps_isDir s.root).bind fun isDir => ?_
  cases isDir with
  | false => exact keeps_pure _
  | true =>
    refine (keeps_look _ _).bind fun r => ?_
    cases r with
    | error e => exact keeps_pure _
    | ok listing => exact (keeps_note _).bind fun _ => keeps_pure _

/-- A scan is only refused for what it scans. -/
theorem scan_ne_duplicate {component : String}
    (h : (s.run : Session (Except Error (List String))) m = (.error (.duplicateComponent component), m')) : False := by
  obtain ⟨isDir, m₁, -, h⟩ := bind_eq_iff.1 h
  cases isDir with
  | false => cases (pure_eq_iff.1 h).1
  | true =>
    obtain ⟨r₂, m₂, -, h⟩ := bind_eq_iff.1 h
    cases r₂ with
    | error e => cases (pure_eq_iff.1 h).1
    | ok listing =>
      obtain ⟨-, m₃, -, h⟩ := bind_eq_iff.1 h
      cases (pure_eq_iff.1 h).1

end Source

end RenderCatalog

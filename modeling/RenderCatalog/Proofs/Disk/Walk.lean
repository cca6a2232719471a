import RenderCatalog.Proofs.Disk.Nodes
import RenderCatalog.Proofs.Path

/-!
# Where a path leads

A walk that leads somewhere starts in one of five ways (`walk_cons_eq_ok_iff`), and what a walk preserves follows case by case.
A walk to the last name of a path depends on the directories and links on the way alone. So the last name of a path may be
another one, the walk may be for something else, and files may have been added: the way is the same (`resolveFrom_swap`).
What the last name leads to is then a matter of one step from the directory that the way ends in.
-/

namespace RenderCatalog.Disk

variable {d d' : Disk} {aim aim' : Aim} {name name' : List Char} {q : Place}

/-- Names before the last one are no slash at the end. -/
theorem isSlashOnly_append (names : List (List Char)) (h : name ≠ []) : isSlashOnly (names ++ [name]) = false := by
  cases names with
  | nil => simpa [isSlashOnly] using h
  | cons n rest => simp [isSlashOnly]

/-! ## The first step of a walk -/

/-- A name that is looked for on the disk: it neither stays in a directory nor leads up from it, and it is not refused before. -/
structure IsStep (aim : Aim) (name : List Char) (rest : List (List Char)) : Prop where
  not_stay : ¬(name = [] ∨ name = ['.'])
  not_up : name ≠ ['.', '.']
  not_closed : (aim = .newFile && isSlashOnly rest) = false
  short : (String.ofList name).utf8ByteSize ≤ longestName

/-- A name that is looked for is looked for whatever names are left, unless a new file is asked for. -/
theorem IsStep.toTarget {rest rest' : List (List Char)} (h : IsStep aim name rest) : IsStep .target name rest' :=
  ⟨h.not_stay, h.not_up, rfl, h.short⟩

/-- A walk may end where these names are left: none, or for a new directory a slash. -/
def isLast (aim : Aim) (rest : List (List Char)) : Bool := rest.isEmpty || (aim = .newDirectory && isSlashOnly rest)

theorem isLast_append (names : List (List Char)) (h : name ≠ []) : isLast aim (names ++ [name]) = false := by
  rw [isLast, isSlashOnly_append names h, Bool.and_false, Bool.or_false]
  simp

/-- How a walk to `q` starts: it stays in the directory, goes up, goes down to a directory, goes on behind a link, or ends. -/
inductive Starts (d : Disk) (aim : Aim) (follow : Place → String → List (List Char) → Except OsError Place) (q here : Place)
    (name : List Char) (rest : List (List Char)) : Prop
  | stay (hstay : name = [] ∨ name = ['.']) (h : d.walk aim follow here rest = .ok q)
  | up (hup : name = ['.', '.']) (h : d.walk aim follow here.dropLast rest = .ok q)
  | down (hstep : IsStep aim name rest) (hnode : d.node? (here ++ [String.ofList name]) = some .directory)
      (h : d.walk aim follow (here ++ [String.ofList name]) rest = .ok q)
  | link (hstep : IsStep aim name rest) (target : String) (hnode : d.node? (here ++ [String.ofList name]) = some (.link target))
      (hgoes : (isLast aim rest && (aim = .entry || aim = .newDirectory)) = false) (h : follow here target rest = .ok q)
  | stop (hstep : IsStep aim name rest) (hnode : d.node? (here ++ [String.ofList name]) ≠ some .directory)
      (hlink : ∀ target, d.node? (here ++ [String.ofList name]) = some (.link target) → (aim = .entry || aim = .newDirectory) = true)
      (hlast : isLast aim rest = true) (hq : here ++ [String.ofList name] = q)

section Steps

variable {follow : Place → String → List (List Char) → Except OsError Place} {here : Place} {rest : List (List Char)}

theorem IsStep.walk_eq (h : IsStep aim name rest) :
    d.walk aim follow here (name :: rest) =
      match d.node? (here ++ [String.ofList name]) with
      | some .directory => d.walk aim follow (here ++ [String.ofList name]) rest
      | some (.link target) =>
        if isLast aim rest && (aim = .entry || aim = .newDirectory) then .ok (here ++ [String.ofList name])
        else follow here target rest
      | some _ => if isLast aim rest then .ok (here ++ [String.ofList name]) else .error .notDirectory
      | none => if isLast aim rest then .ok (here ++ [String.ofList name]) else .error .notFound := by
  rw [walk, if_neg h.not_stay, if_neg h.not_up, if_neg (by simp [h.not_closed]), if_neg (not_lt.2 h.short)]
  rfl

/-- A walk leads somewhere when it starts in one of these ways. -/
theorem walk_cons_eq_ok_iff : d.walk aim follow here (name :: rest) = .ok q ↔ d.Starts aim follow q here name rest := by
  constructor
  · intro h
    rw [walk] at h
    split at h
    · exact .stay ‹_› h
    · split at h
      · exact .up ‹_› h
      · split at h
        · cases h
        · rename_i hstay hup hclosed
          split at h
          · cases h
          · rename_i hshort
            have hstep : IsStep aim name rest := ⟨hstay, hup, Bool.eq_false_of_not_eq_true hclosed, not_lt.1 hshort⟩
            simp only at h
            split at h
            · exact .down hstep ‹_› h
            · rename_i target hnode
              split at h
              · rename_i hends
                obtain ⟨hlast, haim⟩ := Bool.and_eq_true_iff.1 hends
                exact .stop hstep (by simp [hnode]) (fun _ _ => haim) hlast (Except.ok.inj h)
              · exact .link hstep target hnode (Bool.eq_false_of_not_eq_true ‹_›) h
            · rename_i n hdirectory hlink hnode
              split at h
              · have hnone : ∀ target, d.node? (here ++ [String.ofList name]) ≠ some (.link target) := fun target heq =>
                  hlink target (Option.some.inj (hnode.symm.trans heq))
                exact .stop hstep (by simpa [hnode] using hdirectory) (fun target heq => absurd heq (hnone target)) ‹_› (Except.ok.inj h)
              · cases h
            · rename_i hnode
              split at h
              · exact .stop hstep (by simp [hnode]) (by simp [hnode]) ‹_› (Except.ok.inj h)
              · cases h
  · intro h
    cases h with
    | stay hstay h => rw [walk, if_pos hstay, h]
    | up hup h => rw [walk, if_neg (by rw [hup]; decide), if_pos hup, h]
    | down hstep hnode h =>
      rw [hstep.walk_eq]
      simp only [hnode, h]
    | link hstep target hnode hgoes h =>
      rw [hstep.walk_eq]
      simp only [hnode, hgoes, Bool.false_eq_true, if_false, h]
    | stop hstep hnode hlink hlast hq =>
      rw [hstep.walk_eq]
      subst hq
      simp only [hlast, if_true]
      split
      · exact absurd ‹_› hnode
      · rw [hlink _ ‹_›, Bool.and_self, if_pos rfl]
      · rfl
      · rfl

end Steps

/-! ## The way to the last name -/

/-- Where a walk went to one name after others, a walk to another name after them comes to what it comes to behind links and in
the step from the last directory. -/
theorem walk_swap (hd : d.AddsFiles d') (hname : name ≠ []) (hname' : name' ≠ [])
    {follow follow' : Place → String → List (List Char) → Except OsError Place} {R : Except OsError Place → Prop}
    (hfollow : ∀ here target rest, follow here target (rest ++ [name]) = .ok q → R (follow' here target (rest ++ [name'])))
    (hlast : ∀ p, d'.walk aim follow p [name] = .ok q → R (d.walk aim' follow' p [name']))
    (names : List (List Char)) (here : Place) (h : d'.walk aim follow here (names ++ [name]) = .ok q) :
    R (d.walk aim' follow' here (names ++ [name'])) := by
  induction names generalizing here with
  | nil => exact hlast here h
  | cons first rest ih =>
    have hswap : IsStep aim first (rest ++ [name]) → IsStep aim' first (rest ++ [name']) := fun hstep =>
      ⟨hstep.not_stay, hstep.not_up, by rw [isSlashOnly_append rest hname', Bool.and_false], hstep.short⟩
    rw [List.cons_append, walk_cons_eq_ok_iff] at h
    rw [List.cons_append]
    -- only directories and links let the walk go on, and those are on both disks
    cases h with
    | stay hstay h =>
      rw [walk, if_pos hstay]
      exact ih here h
    | up hup h =>
      rw [walk, if_neg (by rw [hup]; decide), if_pos hup]
      exact ih here.dropLast h
    | down hstep hnode h =>
      rw [(hswap hstep).walk_eq, hd.node? hnode (by nofun)]
      exact ih _ h
    | link hstep target hnode _ h =>
      rw [(hswap hstep).walk_eq, hd.node? hnode (by nofun), isLast_append rest hname']
      exact hfollow here target rest h
    | stop _ _ _ hends _ =>
      rw [isLast_append rest hname] at hends
      cases hends

/-- The same of walks that follow links within a budget: what is left of it does not matter to the step from the last
directory. -/
theorem resolveFrom_swap (hd : d.AddsFiles d') (hname : name ≠ []) (hname' : name' ≠ []) {R : Except OsError Place → Prop}
    (hlast : ∀ budget p, d'.resolveFrom aim budget p [name] = .ok q → R (d.resolveFrom aim' budget p [name']))
    (budget : Nat) (names : List (List Char)) (here : Place)
    (h : d'.resolveFrom aim budget here (names ++ [name]) = .ok q) : R (d.resolveFrom aim' budget here (names ++ [name'])) := by
  induction budget generalizing names here with
  | zero => exact walk_swap hd hname hname' (fun _ _ _ hf => by cases hf) (hlast 0) names here h
  | succ budget ih =>
    refine walk_swap hd hname hname' (fun here target rest hf => ?_) (hlast (budget + 1)) names here h
    rw [← List.append_assoc] at hf ⊢
    exact ih _ _ hf

/-! ## The step to the last name -/

/-- The walk of the names of a path on its own: the one that follows links as far as its budget goes. -/
theorem resolveFrom_walk (d : Disk) (aim : Aim) (budget : Nat) :
    ∃ follow, ∀ here names, d.resolveFrom aim budget here names = d.walk aim follow here names := by
  cases budget with
  | zero => exact ⟨_, fun _ _ => rfl⟩
  | succ budget => exact ⟨_, fun _ _ => rfl⟩

/-- A step that is asked for the directory itself stays where it is. -/
theorem resolveFrom_here (d : Disk) (aim : Aim) (budget : Nat) (p : Place) :
    d.resolveFrom aim budget p [['.']] = .ok p := by
  obtain ⟨follow, hwalk⟩ := resolveFrom_walk d aim budget
  rw [hwalk, walk, if_pos (Or.inr rfl), walk]

variable {last : String}

/-- One step to a name goes to the place of that name in the directory, unless a link stands there that is followed, or the name is
too long. -/
theorem resolveFrom_step (hlast : Path.IsName last) (budget : Nat) {p : Place}
    (hlink : aim = .entry ∨ ∀ target, d.node? (p ++ [last]) ≠ some (.link target)) :
    d.resolveFrom aim budget p [last.toList] =
      if longestName < last.utf8ByteSize then .error .nameTooLong else .ok (p ++ [last]) := by
  obtain ⟨follow, hwalk⟩ := resolveFrom_walk d aim budget
  rw [hwalk]
  split
  · rename_i hlong
    have hclosed : (aim = .newFile && isSlashOnly []) = false := Bool.and_false _
    rw [walk, if_neg (not_or.2 ⟨hlast.nonempty, hlast.not_dot⟩), if_neg hlast.not_dots, hclosed, if_neg (by nofun),
      String.ofList_toList, if_pos hlong]
  · rename_i hshort
    have hstep : IsStep aim last.toList [] :=
      ⟨not_or.2 ⟨hlast.nonempty, hlast.not_dot⟩, hlast.not_dots, Bool.and_false _, by rwa [String.ofList_toList, ← not_lt]⟩
    rw [hstep.walk_eq, String.ofList_toList]
    split
    · rw [walk]
    · rename_i target hnode
      rcases hlink with rfl | hlink
      · rfl
      · exact absurd hnode (hlink target)
    · rfl
    · rfl

/-- A step that goes somewhere goes to the place of the name, which is not too long. -/
theorem resolveFrom_last (hlast : Path.IsName last) {budget : Nat} {p : Place}
    (h : d.resolveFrom aim budget p [last.toList] = .ok q)
    (hlink : aim = .entry ∨ ∀ target, d.node? (p ++ [last]) ≠ some (.link target)) :
    q = p ++ [last] ∧ last.utf8ByteSize ≤ longestName := by
  rw [resolveFrom_step hlast budget hlink] at h
  split at h
  · cases h
  · exact ⟨(Except.ok.inj h).symm, not_lt.1 ‹_›⟩

/-- One step to a name where there is a file. -/
theorem resolveFrom_file (hlast : Path.IsName last) (hlong : last.utf8ByteSize ≤ longestName) (budget : Nat) {p : Place}
    {content : ByteArray} {number? : Option Nat} (hnode : d.node? (p ++ [last]) = some (.file content number?)) :
    d.resolveFrom .target budget p [last.toList] = .ok (p ++ [last]) := by
  rw [resolveFrom_step hlast budget (Or.inr fun target hlink => by rw [hnode] at hlink; cases hlink), if_neg (not_lt.2 hlong)]

/-! ## A path -/

/-- A path leads somewhere when every operation takes it and its names do, from the root or the working directory. -/
theorem resolve_eq_ok_iff {workDir : Place} {path : String} :
    d.resolve aim workDir path = .ok q ↔ '\x00' ∉ path.toList ∧ isTooLong path = false ∧ path ≠ "" ∧
      d.node? (if Path.isAbsolute path then [] else workDir) = some .directory ∧
      d.resolveFrom aim linkBudget (if Path.isAbsolute path then [] else workDir) (names path) = .ok q := by
  rw [resolve]
  split
  · rename_i hnul
    simp [show '\x00' ∈ path.toList by simpa using hnul]
  · rename_i hnul
    split
    · rename_i hlong
      simp [hlong]
    · rename_i hlong
      split
      · rename_i hempty
        simp [String.isEmpty_iff.1 hempty]
      · rename_i hempty
        have hne : path ≠ "" := fun heq => hempty (String.isEmpty_iff.2 heq)
        simp only
        split
        · rename_i hstart
          simp [hstart, hne, show '\x00' ∉ path.toList by simpa using hnul, show isTooLong path = false by simpa using hlong]
        · rename_i hstart
          exact ⟨nofun, fun ⟨_, _, _, hdirectory, _⟩ => absurd hdirectory hstart⟩

end RenderCatalog.Disk

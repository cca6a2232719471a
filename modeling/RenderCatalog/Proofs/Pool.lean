import RenderCatalog.Pool
import RenderCatalog.Proofs.Disk.Shared
import RenderCatalog.Proofs.Machine

/-!
# Workers that keep to places of their own

Workers on one disk that keep to places of their own do not see each other. One move of a worker changes what it would change on a
disk of its own (`Worker.KeepsTo.move_on`), so after any moves each worker is where its own moves alone have brought it
(`Pool.separate_run`). In which order the workers have moved does not matter then (`Pool.run_perm`).
-/

namespace RenderCatalog

variable {α β ι : Type} {workDir : Place} {G : Disk → Prop} {S : List Place} {d : Disk}

/-! ## Sessions -/

namespace Machine

variable {m m' : Machine}

/-- A machine in a working directory, with a disk of a kind. -/
structure InPlay (workDir : Place) (G : Disk → Prop) (m : Machine) : Prop where
  workDir : m.workDir = workDir
  disk : G m.disk

/-- Machines that differ in nothing but what their disks hold elsewhere than at places. -/
structure AlikeAt (S : List Place) (m m' : Machine) : Prop where
  apart : m.withDisk {} = m'.withDisk {}
  disk : ∀ q ∈ S, m.disk.node? q = m'.disk.node? q

/-- A session that, on machines in play, changes nothing but places on the disk and depends on them alone. -/
structure KeepsTo (workDir : Place) (G : Disk → Prop) (S : List Place) (x : Session α) : Prop where
  inPlay : ∀ {m}, m.InPlay workDir G → (x m).2.InPlay workDir G
  others : ∀ {m}, m.InPlay workDir G → ∀ q ∉ S, (x m).2.disk.node? q = m.disk.node? q
  alike : ∀ {m m'}, m.InPlay workDir G → m'.InPlay workDir G → m.AlikeAt S m' → (x m).1 = (x m').1 ∧ (x m).2.AlikeAt S (x m').2

/-- A step that changes the disk keeps to places when its operation does, and what it leaves behind when it is struck. -/
theorem keepsTo_change {broken : Nat → Machine → Disk} {act : Machine → Except OsError Disk} {left : Nat → Disk → Disk}
    {op : Disk → Except OsError Disk} (hbroken : ∀ n m, m.workDir = workDir → broken n m = left n m.disk)
    (hact : ∀ m, m.workDir = workDir → act m = op m.disk) (hleft : ∀ n, Disk.KeepsTo G S fun d => .ok (left n d))
    (hop : Disk.KeepsTo G S op) : KeepsTo workDir G S (change broken act) := by
  have hone : ∀ m, m.InPlay workDir G → (change broken act m).2.InPlay workDir G ∧
      ∀ q ∉ S, (change broken act m).2.disk.node? q = m.disk.node? q := by
    intro m hm
    rw [change, hact m hm.workDir]
    cases m.trouble? m.steps with
    | some t =>
      obtain ⟨hdisk, hothers⟩ := (hleft t.written).keeps hm.disk rfl
      rw [← hbroken _ m hm.workDir] at hdisk hothers
      exact ⟨⟨hm.workDir, hdisk⟩, hothers⟩
    | none =>
      cases hdone : op m.disk with
      | ok d =>
        obtain ⟨hdisk, hothers⟩ := hop.keeps hm.disk hdone
        exact ⟨⟨hm.workDir, hdisk⟩, hothers⟩
      | error e => exact ⟨⟨hm.workDir, hm.disk⟩, fun _ _ => rfl⟩
  refine ⟨fun hm => (hone _ hm).1, fun hm => (hone _ hm).2, fun {m m'} hm hm' halike => ?_⟩
  have htrouble : m.trouble? m.steps = m'.trouble? m'.steps := congrArg (fun m => m.trouble? m.steps) halike.apart
  have hnext : m.next.withDisk {} = m'.next.withDisk {} := congrArg next halike.apart
  rw [change, change, htrouble, hact m hm.workDir, hact m' hm'.workDir]
  cases m'.trouble? m'.steps with
  | some t =>
    refine ⟨rfl, hnext, fun q hq => ?_⟩
    change (broken t.written m).node? q = (broken t.written m').node? q
    rw [hbroken _ m hm.workDir, hbroken _ m' hm'.workDir]
    cases (hleft t.written).agree hm.disk hm'.disk halike.disk with
    | done h => exact h q hq
  | none =>
    have hagree := hop.agree hm.disk hm'.disk halike.disk
    generalize op m.disk = r, op m'.disk = r' at hagree
    cases hagree with
    | refused e => exact ⟨rfl, hnext, halike.disk⟩
    | done h => exact ⟨rfl, hnext, h⟩

/-- A step that leaves nothing behind when it is struck. -/
theorem keepsTo_change_unbroken {act : Machine → Except OsError Disk} {op : Disk → Except OsError Disk}
    (hact : ∀ m, m.workDir = workDir → act m = op m.disk) (hop : Disk.KeepsTo G S op) :
    KeepsTo workDir G S (change unbroken act) :=
  keepsTo_change (fun _ _ _ => rfl) hact (fun _ => Disk.keepsTo_ok G S) hop

/-- An event of the log looks at no place. -/
theorem keepsTo_note (e : Event) : KeepsTo workDir G S (Host.note e : Session Unit) := by
  have hdisk : ∀ m, (Machine.note e m).disk = m.disk ∧ (Machine.note e m).workDir = m.workDir := by
    intro m
    rw [Machine.note]
    split <;> exact ⟨rfl, rfl⟩
  have hapart : ∀ m, (Machine.note e m).withDisk {} = Machine.note e (m.withDisk {}) := by
    intro m
    rw [Machine.note, apply_ite (withDisk · {})]
    rfl
  refine ⟨fun {m} hm => ⟨(hdisk m).2.trans hm.workDir, ?_⟩, fun {m} _ q _ => ?_, fun {m m'} _ _ halike => ⟨rfl, ?_, fun q hq => ?_⟩⟩
  · exact (hdisk m).1 ▸ hm.disk
  · exact congrArg (Disk.node? · q) (hdisk m).1
  · exact (hapart m).trans ((congrArg (Machine.note e) halike.apart).trans (hapart m').symm)
  · change (Machine.note e m).disk.node? q = (Machine.note e m').disk.node? q
    rw [(hdisk m).1, (hdisk m').1, halike.disk q hq]

end Machine

/-! ## Tasks -/

namespace Task

variable {P : α → Prop} {Q : β → Prop}

/-- A task each of whose steps keeps to places, and that comes to a result of a kind. -/
def KeepsTo (workDir : Place) (G : Disk → Prop) (S : List Place) (P : α → Prop) : Task α → Prop
  | .done a => P a
  | .step act next =>
    Machine.KeepsTo workDir G S (fun m => (next m, act m)) ∧ ∀ m, m.InPlay workDir G → (next m).KeepsTo workDir G S P

/-- A single step keeps to places when its session does. -/
theorem keepsTo_ofSession {x : Session α} (hx : Machine.KeepsTo workDir G S x)
    (hP : ∀ m, m.InPlay workDir G → P (x m).1) : (ofSession x).KeepsTo workDir G S P := by
  refine ⟨⟨hx.inPlay, hx.others, fun hm hm' halike => ?_⟩, hP⟩
  obtain ⟨hresult, halike'⟩ := hx.alike hm hm' halike
  exact ⟨congrArg done hresult, halike'⟩

/-- Tasks in a row keep to places when each of them does. -/
theorem KeepsTo.bind {t : Task α} {f : α → Task β} (ht : t.KeepsTo workDir G S P)
    (hf : ∀ a, P a → (f a).KeepsTo workDir G S Q) : (t >>= f).KeepsTo workDir G S Q := by
  change (t.bind f).KeepsTo workDir G S Q
  induction t with
  | done a => exact hf a ht
  | step act next ih =>
    obtain ⟨hstep, hnext⟩ := ht
    refine ⟨⟨hstep.inPlay, hstep.others, fun hm hm' halike => ?_⟩, fun m hm => ih m (hnext m hm)⟩
    obtain ⟨hsame, halike'⟩ := hstep.alike hm hm' halike
    exact ⟨congrArg (Task.bind · f) hsame, halike'⟩

/-! ## All steps in a row -/

/-- Tasks in a row run one after the other. -/
theorem run_bind (t : Task α) (f : α → Task β) : (t >>= f).run = t.run >>= fun a => (f a).run := by
  change (t.bind f).run = _
  induction t with
  | done a => rfl
  | step act next ih =>
    funext m
    exact congrFun (ih m) (act m)

end Task

/-! ## One worker -/

namespace Worker

variable {P : α → Prop} {w : Worker α}

/-- A worker that keeps to places, on a machine in play. -/
structure KeepsTo (workDir : Place) (G : Disk → Prop) (S : List Place) (P : α → Prop) (w : Worker α) : Prop where
  task : w.task.KeepsTo workDir G S P
  machine : w.machine.InPlay workDir G

/-- A worker that keeps to places still does after a move. -/
theorem KeepsTo.move (h : w.KeepsTo workDir G S P) : w.move.KeepsTo workDir G S P := by
  obtain ⟨task, m⟩ := w
  obtain ⟨htask, hm⟩ := h
  cases task with
  | done a => exact ⟨htask, hm⟩
  | step act next => exact ⟨htask.2 m hm, htask.1.inPlay hm⟩

/-- A worker that keeps to places still does after any number of moves. -/
theorem KeepsTo.iterate (h : w.KeepsTo workDir G S P) (n : Nat) : (Worker.move^[n] w).KeepsTo workDir G S P := by
  induction n with
  | zero => exact h
  | succ n ih =>
    rw [Function.iterate_succ_apply']
    exact ih.move

/-- A worker that moves on a disk which agrees with its own at its places does there what it would do on its own disk. -/
theorem KeepsTo.move_on (h : w.KeepsTo workDir G S P) (hd : G d) (hagree : ∀ q ∈ S, d.node? q = w.machine.disk.node? q) :
    G (w.on d).move.machine.disk ∧ (w.on d).move.on {} = w.move.on {} ∧
      (∀ q ∈ S, (w.on d).move.machine.disk.node? q = w.move.machine.disk.node? q) ∧
      ∀ q ∉ S, (w.on d).move.machine.disk.node? q = d.node? q := by
  obtain ⟨task, m⟩ := w
  obtain ⟨htask, hm⟩ := h
  cases task with
  | done a => exact ⟨hd, rfl, hagree, fun _ _ => rfl⟩
  | step act next =>
    have hm' : (m.withDisk d).InPlay workDir G := ⟨hm.workDir, hd⟩
    obtain ⟨hnext, halike⟩ := htask.1.alike hm' hm ⟨rfl, hagree⟩
    exact ⟨(htask.1.inPlay hm').disk, congrArg₂ Worker.mk hnext halike.apart, halike.disk, htask.1.others hm'⟩

/-- A worker that moves often enough has done its task. -/
theorem exists_iterate_move (t : Task α) (m : Machine) :
    ∃ n, ∀ k, n ≤ k → Worker.move^[k] ⟨t, m⟩ = ⟨.done (t.run m).1, (t.run m).2⟩ := by
  induction t generalizing m with
  | done a => exact ⟨0, fun k _ => Function.iterate_fixed rfl k⟩
  | step act next ih =>
    obtain ⟨n, hn⟩ := ih m (act m)
    refine ⟨n + 1, fun k hk => ?_⟩
    obtain ⟨k, rfl⟩ : ∃ k', k = k' + 1 := ⟨k - 1, by omega⟩
    rw [Function.iterate_succ_apply]
    exact hn k (by omega)

end Worker

/-! ## Pools -/

namespace Pool

variable {P : α → Prop} {S : ι → List Place} {base : Disk} {alone workers : ι → Worker α} {pool : Pool ι α}

/-- A pool whose workers are where they are on disks of their own: there is at the places of each what is on its own disk, and
elsewhere what was there before. -/
structure Separate (G : Disk → Prop) (S : ι → List Place) (base : Disk) (alone : ι → Worker α) (pool : Pool ι α) : Prop where
  disk : G pool.disk
  workers : ∀ i, pool.workers i = (alone i).on {}
  places : ∀ i, ∀ q ∈ S i, pool.disk.node? q = (alone i).machine.disk.node? q
  others : ∀ q, (∀ i, q ∉ S i) → pool.disk.node? q = base.node? q

variable [DecidableEq ι]

/-- A move of one worker in the pool is its move on its own. -/
theorem Separate.move (hdisjoint : ∀ i j, i ≠ j → (S i).Disjoint (S j)) (h : Separate G S base alone pool) {i : ι}
    (hkeeps : (alone i).KeepsTo workDir G (S i) P) :
    Separate G S base (fun j => if j = i then (alone j).move else alone j) (pool.move i) := by
  obtain ⟨hdisk, hworker, hplaces, hothers⟩ := hkeeps.move_on h.disk (h.places i)
  have hon : (pool.workers i).on pool.disk = (alone i).on pool.disk := by
    rw [h.workers i]
    rfl
  rw [Pool.move, hon]
  refine ⟨hdisk, fun j => ?_, fun j q hq => ?_, fun q hq => ?_⟩
  · by_cases hj : j = i
    · subst hj
      simp only [if_true]
      exact hworker
    · simp only [if_neg hj]
      exact h.workers j
  · by_cases hj : j = i
    · subst hj
      simp only [if_true]
      exact hplaces q hq
    · simp only [if_neg hj]
      rw [hothers q (hdisjoint j i hj hq)]
      exact h.places j q hq
  · exact (hothers q (hq i)).trans (h.others q hq)

variable {moves moves' : List ι} (hdisjoint : ∀ i j, i ≠ j → (S i).Disjoint (S j)) (hbase : G base)
  (hkeeps : ∀ i, ((workers i).on base).KeepsTo workDir G (S i) P)

include hdisjoint hbase hkeeps

/-- After moves in any order each worker is where its own moves alone have brought it. -/
theorem separate_run (moves : List ι) :
    Separate G S base (fun i => Worker.move^[moves.count i] ((workers i).on base)) ((start base workers).run moves) := by
  induction moves using List.reverseRecOn with
  | nil => exact ⟨hbase, fun _ => rfl, fun _ _ _ => rfl, fun _ _ => rfl⟩
  | append_singleton moves i ih =>
    have halone : (fun j => Worker.move^[(moves ++ [i]).count j] ((workers j).on base)) =
        fun j => if j = i then (Worker.move^[moves.count j] ((workers j).on base)).move
          else Worker.move^[moves.count j] ((workers j).on base) := by
      funext j
      rw [List.count_append, List.count_singleton']
      by_cases hj : j = i
      · rw [if_pos hj, if_pos hj.symm, Function.iterate_succ_apply']
      · rw [if_neg hj, if_neg (Ne.symm hj), Nat.add_zero]
    rw [run, List.foldl_append, halone]
    exact ih.move hdisjoint ((hkeeps i).iterate _)

/-- Workers that keep to places of their own may move in any order. -/
theorem run_perm (h : moves.Perm moves') :
    ((start base workers).run moves).workers = ((start base workers).run moves').workers ∧
      ∀ q, ((start base workers).run moves).disk.node? q = ((start base workers).run moves').disk.node? q := by
  have hrun := separate_run hdisjoint hbase hkeeps moves
  have hrun' := separate_run hdisjoint hbase hkeeps moves'
  simp only [← h.count_eq] at hrun'
  refine ⟨funext fun i => (hrun.workers i).trans (hrun'.workers i).symm, fun q => ?_⟩
  by_cases hq : ∃ i, q ∈ S i
  · obtain ⟨i, hq⟩ := hq
    rw [hrun.places i q hq, hrun'.places i q hq]
  · push Not at hq
    rw [hrun.others q hq, hrun'.others q hq]

/-- A worker that has moved often enough has the result that its task has on its own. -/
theorem exists_run_done (i : ι) :
    ∃ n, ∀ moves : List ι, n ≤ moves.count i →
      (((start base workers).run moves).workers i).task = .done ((workers i).task.run ((workers i).machine.withDisk base)).1 := by
  obtain ⟨n, hn⟩ := Worker.exists_iterate_move (workers i).task ((workers i).machine.withDisk base)
  refine ⟨n, fun moves hmoves => ?_⟩
  have hworker := (separate_run hdisjoint hbase hkeeps moves).workers i
  rw [hworker]
  exact congrArg Worker.task (hn _ hmoves)

end Pool

end RenderCatalog

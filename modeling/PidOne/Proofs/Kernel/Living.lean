import Mathlib.Data.List.Nodup
import PidOne.Proofs.Kernel.Pipes

/-!
# The lives of processes

A process runs, is a zombie once it has exited, and is gone once it has been reaped; it never goes
back. Births are counted on, so a birth stands for one process for good, while the number of a
process that is gone may be given to another one. A process that is there and whose birth had been
counted at some earlier time was there at that time, and if it runs now it has run ever since.
-/

namespace PidOne

/-- Where no two elements have the same key, looking for a key finds the element that has it. -/
theorem find?_key_eq_some_iff {α β : Type} [DecidableEq β] {list : List α} {key : α → β}
    (hnodup : (list.map key).Nodup) {wanted : β} {found : α} :
    list.find? (fun element => key element == wanted) = some found
      ↔ found ∈ list ∧ key found = wanted := by
  constructor
  · intro hfind
    exact ⟨List.mem_of_find?_eq_some hfind, by simpa using List.find?_some hfind⟩
  · rintro ⟨hmem, rfl⟩
    have hsome : (list.find? fun element => key element == key found).isSome = true := by
      rw [List.find?_isSome]
      exact ⟨found, hmem, beq_self_eq_true _⟩
    obtain ⟨other, hother⟩ := Option.isSome_iff_exists.mp hsome
    have hsame : key other = key found := by simpa using List.find?_some hother
    obtain rfl : other = found :=
      List.inj_on_of_nodup_map hnodup (List.mem_of_find?_eq_some hother) hmem hsame
    exact hother

namespace Kernel

variable {kernel after : Kernel} {request? : Option Request} {taken given : Nat → List UInt8}
  {pid : Pid} {birth : Nat} {table : FdTable} {process : Process}

/-- The births of all processes that have not been reaped. -/
def there (kernel : Kernel) : List Nat := kernel.birth :: kernel.others.map Process.birth

/-- The numbers of all processes that have not been reaped. -/
def pids (kernel : Kernel) : List Pid := kernel.pid :: kernel.others.map Process.pid

/-- A process goes by a number. -/
inductive Bears (kernel : Kernel) : Nat → Pid → Prop where
  | own : Bears kernel kernel.birth kernel.pid
  | other {process : Process} (hmem : process ∈ kernel.others) :
      Bears kernel process.birth process.pid

/-- A process that has not exited, with its descriptors. -/
inductive Runs (kernel : Kernel) : Nat → FdTable → Prop where
  | own : Runs kernel kernel.birth kernel.table
  | other {process : Process} (hmem : process ∈ kernel.others)
      (hrunning : process.isRunning = true) : Runs kernel process.birth process.table

/-- No birth stands for two processes, and those still to come stand for none; nor does any number
stand for two at a time. -/
structure Numbered (kernel : Kernel) : Prop where
  distinct : kernel.there.Nodup
  below : ∀ birth ∈ kernel.there, birth < kernel.births
  pids : kernel.pids.Nodup

theorem mem_there_iff :
    birth ∈ kernel.there
      ↔ birth = kernel.birth ∨ ∃ process ∈ kernel.others, process.birth = birth := by
  rw [there, List.mem_cons, List.mem_map]

theorem mem_pids_iff :
    pid ∈ kernel.pids ↔ pid = kernel.pid ∨ ∃ process ∈ kernel.others, process.pid = pid := by
  rw [pids, List.mem_cons, List.mem_map]

theorem hasProcess_iff : kernel.hasProcess pid = true ↔ pid ∈ kernel.pids := by
  rw [hasProcess, birth?, mem_pids_iff]
  by_cases hown : pid = kernel.pid
  · simp [hown]
  · rw [if_neg hown, Option.isSome_map, List.find?_isSome, or_iff_right hown]
    simp only [beq_iff_eq]

theorem birth?_eq_none_iff : kernel.birth? pid = none ↔ pid ∉ kernel.pids := by
  rw [← hasProcess_iff, hasProcess, Bool.not_eq_true, Option.isSome_eq_false_iff,
    Option.isNone_iff_eq_none]

theorem mem_pids_of_birth? (h : kernel.birth? pid = some birth) : pid ∈ kernel.pids := by
  rw [← hasProcess_iff, hasProcess, h, Option.isSome_some]

theorem bears_of_birth? (h : kernel.birth? pid = some birth) : kernel.Bears birth pid := by
  rw [birth?] at h
  split at h
  · next hown =>
    cases h
    rw [hown]
    exact .own
  · obtain ⟨process, hfind, rfl⟩ := Option.map_eq_some_iff.mp h
    have hpid : process.pid = pid := by simpa using List.find?_some hfind
    rw [← hpid]
    exact .other (List.mem_of_find?_eq_some hfind)

theorem bears_iff :
    kernel.Bears birth pid ↔ birth = kernel.birth ∧ pid = kernel.pid
      ∨ ∃ process ∈ kernel.others, process.birth = birth ∧ process.pid = pid := by
  constructor
  · rintro (_ | hmem)
    · exact .inl ⟨rfl, rfl⟩
    · exact .inr ⟨_, hmem, rfl, rfl⟩
  · rintro (⟨rfl, rfl⟩ | ⟨process, hmem, rfl, rfl⟩)
    · exact .own
    · exact .other hmem

theorem Bears.mem_there (h : kernel.Bears birth pid) : birth ∈ kernel.there := by
  cases h with
  | own => exact List.mem_cons_self
  | other hmem => exact mem_there_iff.mpr (.inr ⟨_, hmem, rfl⟩)

theorem exists_bears_of_mem_there (h : birth ∈ kernel.there) : ∃ pid, kernel.Bears birth pid := by
  rcases mem_there_iff.mp h with rfl | ⟨process, hmem, rfl⟩
  · exact ⟨_, .own⟩
  · exact ⟨_, .other hmem⟩

theorem Runs.mem_there (h : kernel.Runs birth table) : birth ∈ kernel.there := by
  cases h with
  | own => exact List.mem_cons_self
  | other hmem => exact mem_there_iff.mpr (.inr ⟨_, hmem, rfl⟩)

/-! ## Looking a process up -/

namespace Numbered

theorem birth_ne_own (h : kernel.Numbered) (hmem : process ∈ kernel.others) :
    process.birth ≠ kernel.birth := by
  intro hown
  have hnot := (List.nodup_cons.mp h.distinct).1
  rw [← hown] at hnot
  exact hnot (List.mem_map_of_mem hmem)

theorem pid_ne_own (h : kernel.Numbered) (hmem : process ∈ kernel.others) :
    process.pid ≠ kernel.pid := by
  intro hown
  have hnot := (List.nodup_cons.mp h.pids).1
  rw [← hown] at hnot
  exact hnot (List.mem_map_of_mem hmem)

theorem other?_eq_some_iff (h : kernel.Numbered) :
    kernel.other? birth = some process ↔ process ∈ kernel.others ∧ process.birth = birth :=
  find?_key_eq_some_iff (List.nodup_cons.mp h.distinct).2

theorem birth?_eq_some_iff (h : kernel.Numbered) :
    kernel.birth? pid = some birth ↔ kernel.Bears birth pid := by
  constructor
  · exact bears_of_birth?
  · intro hbears
    rw [birth?]
    cases hbears with
    | own => rw [if_pos rfl]
    | @other process hmem =>
        rw [if_neg (h.pid_ne_own hmem),
          (find?_key_eq_some_iff (List.nodup_cons.mp h.pids).2).mpr ⟨hmem, rfl⟩, Option.map_some]

/-- A process has one number. -/
theorem pid_unique (h : kernel.Numbered) {other : Pid} (hbears : kernel.Bears birth pid)
    (hother : kernel.Bears birth other) : pid = other := by
  rcases bears_iff.mp hbears with ⟨rfl, rfl⟩ | ⟨process, hmem, rfl, rfl⟩
  · rcases bears_iff.mp hother with ⟨-, rfl⟩ | ⟨process, hmem, hbirth, -⟩
    · rfl
    · exact absurd hbirth (h.birth_ne_own hmem)
  · rcases bears_iff.mp hother with ⟨hbirth, -⟩ | ⟨another, hanother, hbirth, rfl⟩
    · exact absurd hbirth (h.birth_ne_own hmem)
    · rw [List.inj_on_of_nodup_map (List.nodup_cons.mp h.distinct).2 hanother hmem hbirth]

theorem bears_unique (h : kernel.Numbered) {other : Nat} (hbears : kernel.Bears birth pid)
    (hother : kernel.Bears other pid) : birth = other := by
  rw [← h.birth?_eq_some_iff] at hbears hother
  exact Option.some.inj (hbears.symm.trans hother)

/-- The descriptors of a process are found if and only if it runs. -/
theorem tableOf?_eq_some_iff (h : kernel.Numbered) :
    kernel.tableOf? birth = some table ↔ kernel.Runs birth table := by
  constructor
  · intro htable
    rw [tableOf?] at htable
    split at htable
    · next hown =>
      cases htable
      rw [hown]
      exact .own
    split at htable
    · next process hfind =>
      obtain ⟨hmem, rfl⟩ := h.other?_eq_some_iff.mp hfind
      split at htable
      · next hrunning =>
        cases htable
        exact .other hmem hrunning
      · cases htable
    · cases htable
  · intro hruns
    rw [tableOf?]
    cases hruns with
    | own => rw [if_pos rfl]
    | @other process hmem hrunning =>
        rw [if_neg (h.birth_ne_own hmem), h.other?_eq_some_iff.mpr ⟨hmem, rfl⟩]
        exact if_pos hrunning

theorem tableOf?_eq_none_iff (h : kernel.Numbered) :
    kernel.tableOf? birth = none ↔ ∀ table, ¬ kernel.Runs birth table := by
  rw [Option.eq_none_iff_forall_ne_some]
  exact forall_congr' fun table => not_congr h.tableOf?_eq_some_iff

theorem unique (h : kernel.Numbered) {other : FdTable} (hruns : kernel.Runs birth table)
    (hother : kernel.Runs birth other) : table = other := by
  rw [← h.tableOf?_eq_some_iff] at hruns hother
  exact Option.some.inj (hruns.symm.trans hother)

end Numbered

/-! ## Starting, killing and reaping -/

/-- The processes are the same ones, though some may have exited and descriptors have changed. -/
structure SameProcesses (kernel after : Kernel) : Prop where
  pid : after.pid = kernel.pid
  birth : after.birth = kernel.birth
  births : kernel.births ≤ after.births
  others : ∃ change : Process → Process, after.others = kernel.others.map change
    ∧ ∀ process, (change process).birth = process.birth ∧ (change process).pid = process.pid
      ∧ ((change process).isRunning = true → process.isRunning = true)

theorem SameProcesses.of_others (hpid : after.pid = kernel.pid)
    (hbirth : after.birth = kernel.birth) (hbirths : kernel.births ≤ after.births)
    (hothers : after.others = kernel.others) : SameProcesses kernel after :=
  ⟨hpid, hbirth, hbirths, id, hothers.trans (List.map_id _).symm, fun _ => ⟨rfl, rfl, id⟩⟩

theorem sameProcesses_change (kernel : Kernel) (birth : Nat) {change : Process → Process}
    (h : ∀ process, (change process).birth = process.birth ∧ (change process).pid = process.pid
      ∧ ((change process).isRunning = true → process.isRunning = true)) :
    SameProcesses kernel (kernel.change birth change) := by
  refine ⟨rfl, rfl, Nat.le_refl _, _, rfl, fun process => ?_⟩
  split
  · exact h process
  · exact ⟨rfl, rfl, id⟩

theorem sameProcesses_kill (kernel : Kernel) (birth : Nat) :
    SameProcesses kernel (kernel.kill birth) :=
  kernel.sameProcesses_change birth fun _ => ⟨rfl, rfl, fun h => by cases h⟩

theorem sameProcesses_alter (kernel : Kernel) (birth : Nat) (change : FdTable → FdTable) :
    SameProcesses kernel (kernel.change birth fun process => process.alter change) := by
  refine kernel.sameProcesses_change birth fun process => ⟨process.birth_alter change,
    process.pid_alter change, fun hrunning => ?_⟩
  rwa [Process.isRunning_alter] at hrunning

/-- What a step of the kernel can do to processes. -/
theorem Turn.processes (h : Turn kernel request? taken given after) :
    SameProcesses kernel after ∨ (∃ child, kernel.Forks child after)
      ∨ ∃ between birth, SameProcesses kernel between ∧ after = between.reap birth := by
  cases h with
  | kept => exact .inl (.of_others rfl rfl (Nat.le_refl _) rfl)
  | served h =>
      cases grants_of_serve h with
      | _ => exact .inl (.of_others rfl rfl (Nat.le_refl _) rfl)
  | wrote h =>
      obtain ⟨pipes, rfl⟩ := pipes_of_write h
      exact .inl (.of_others rfl rfl (Nat.le_refl _) rfl)
  | readOff h =>
      obtain ⟨pipes, rfl⟩ := pipes_of_read h
      exact .inl (.of_others rfl rfl (Nat.le_refl _) rfl)
  | @forked child _ h => exact .inr (.inl ⟨child, forks_of_fork h⟩)
  | killed birth => exact .inl (kernel.sameProcesses_kill birth)
  | reaped birth => exact .inr (.inr ⟨_, birth, kernel.sameProcesses_kill birth, rfl⟩)
  | closedIn birth fd => exact .inl (kernel.sameProcesses_alter birth _)
  | openedIn birth =>
      obtain ⟨hpid, hbirth, hbirths, hothers⟩ := sameProcesses_alter
        { kernel with files := kernel.files ++ [⟨.stream, false⟩] } birth
        fun table => table.insert ⟨kernel.files.length, true⟩
      exact .inl ⟨hpid, hbirth, hbirths, hothers⟩
  | orphaned => exact .inl (.of_others rfl rfl (Nat.le_add_right _ 2) rfl)
  | piped => exact .inl (.of_others rfl rfl (Nat.le_refl _) rfl)

namespace SameProcesses

theorem there (h : SameProcesses kernel after) : after.there = kernel.there := by
  obtain ⟨change, hothers, hchange⟩ := h.others
  rw [Kernel.there, h.birth, hothers, List.map_map, Kernel.there]
  congr 1
  exact List.map_congr_left fun process _ => (hchange process).1

theorem pids (h : SameProcesses kernel after) : after.pids = kernel.pids := by
  obtain ⟨change, hothers, hchange⟩ := h.others
  rw [Kernel.pids, h.pid, hothers, List.map_map, Kernel.pids]
  congr 1
  exact List.map_congr_left fun process _ => (hchange process).2.1

theorem bears (h : SameProcesses kernel after) (hbears : after.Bears birth pid) :
    kernel.Bears birth pid := by
  cases hbears with
  | own =>
      rw [h.birth, h.pid]
      exact .own
  | other hmem =>
      obtain ⟨change, hothers, hchange⟩ := h.others
      rw [hothers] at hmem
      obtain ⟨process, hprocess, rfl⟩ := List.mem_map.mp hmem
      rw [(hchange process).1, (hchange process).2.1]
      exact .other hprocess

theorem runs (h : SameProcesses kernel after) (hruns : after.Runs birth table) :
    ∃ earlier, kernel.Runs birth earlier := by
  cases hruns with
  | own =>
      rw [h.birth]
      exact ⟨_, .own⟩
  | other hmem hrunning =>
      obtain ⟨change, hothers, hchange⟩ := h.others
      rw [hothers] at hmem
      obtain ⟨process, hprocess, rfl⟩ := List.mem_map.mp hmem
      rw [(hchange process).1]
      exact ⟨_, .other hprocess ((hchange process).2.2 hrunning)⟩

theorem numbered (h : SameProcesses kernel after) (hnumbered : kernel.Numbered) :
    after.Numbered where
  distinct := h.there ▸ hnumbered.distinct
  below := by
    rw [h.there]
    intro birth hmem
    exact Nat.lt_of_lt_of_le (hnumbered.below birth hmem) h.births
  pids := h.pids ▸ hnumbered.pids

end SameProcesses

theorem Forks.there {child : Child} (h : kernel.Forks child after) :
    after.there = kernel.there ++ [kernel.births] := by
  rw [h.after, Kernel.there, Kernel.there, List.cons_append, List.map_append, ← h.birth]
  rfl

theorem Forks.pids {child : Child} (h : kernel.Forks child after) :
    after.pids = kernel.pids ++ [child.pid] := by
  rw [h.after, Kernel.pids, Kernel.pids, List.cons_append, List.map_append]
  rfl

theorem there_reap (kernel : Kernel) (birth : Nat) :
    (kernel.reap birth).there.Sublist kernel.there :=
  (List.filter_sublist.map _).cons_cons _

theorem pids_reap (kernel : Kernel) (birth : Nat) :
    (kernel.reap birth).pids.Sublist kernel.pids :=
  (List.filter_sublist.map _).cons_cons _

theorem Turn.numbered (h : Turn kernel request? taken given after) (hnumbered : kernel.Numbered) :
    after.Numbered := by
  rcases h.processes with hsame | ⟨child, hforks⟩ | ⟨between, birth, hsame, rfl⟩
  · exact hsame.numbered hnumbered
  · refine ⟨?_, ?_, ?_⟩
    · rw [hforks.there]
      refine List.nodup_append.mpr ⟨hnumbered.distinct, List.nodup_singleton _, ?_⟩
      intro birth hmem new hnew
      rw [List.mem_singleton.mp hnew]
      exact Nat.ne_of_lt (hnumbered.below birth hmem)
    · have hbirths : after.births = kernel.births + 1 := by rw [hforks.after]
      rw [hforks.there, hbirths]
      intro birth hmem
      rcases List.mem_append.mp hmem with hearlier | hnew
      · exact Nat.lt_succ_of_lt (hnumbered.below birth hearlier)
      · exact Nat.lt_succ_of_le (Nat.le_of_eq (List.mem_singleton.mp hnew))
    · rw [hforks.pids]
      refine List.nodup_append.mpr ⟨hnumbered.pids, List.nodup_singleton _, ?_⟩
      -- a number is given only where no process has it
      rintro pid hmem new hnew rfl
      obtain rfl := List.mem_singleton.mp hnew
      have hfree := hforks.free
      rw [hasProcess_iff.mpr hmem] at hfree
      cases hfree
  · have hbetween := hsame.numbered hnumbered
    have hsublist := there_reap between birth
    exact ⟨hbetween.distinct.sublist hsublist,
      fun other hmem => hbetween.below other (hsublist.subset hmem),
      hbetween.pids.sublist (pids_reap between birth)⟩

theorem numbered_boot (pid : Pid) (mayMount : Bool) : (boot pid mayMount).Numbered := by
  have hbirths : (boot pid mayMount).births = 2 := rfl
  by_cases hfirst : pid = 1
  · have hthere : (boot pid mayMount).there = [1] := by simp [there, boot, hfirst]
    have hpids : (boot pid mayMount).pids = [pid] := by simp [pids, boot, hfirst]
    refine ⟨?_, ?_, ?_⟩
    · rw [hthere]
      exact List.nodup_singleton _
    · rw [hthere, hbirths]
      decide
    · rw [hpids]
      exact List.nodup_singleton _
  · have hthere : (boot pid mayMount).there = [1, 0] := by simp [there, boot, hfirst]
    have hpids : (boot pid mayMount).pids = [pid, 1] := by simp [pids, boot, hfirst]
    refine ⟨?_, ?_, ?_⟩
    · rw [hthere]
      decide
    · rw [hthere, hbirths]
      decide
    · rw [hpids]
      simpa using hfirst

/-! ## No way back -/

/-- Of the processes born by then, all that are there later were there, by the numbers they have,
and all that run later ran. -/
structure Precedes (kernel after : Kernel) : Prop where
  births : kernel.births ≤ after.births
  bears : ∀ birth < kernel.births, ∀ pid, after.Bears birth pid → kernel.Bears birth pid
  running : ∀ birth < kernel.births, ∀ table, after.Runs birth table →
    ∃ earlier, kernel.Runs birth earlier

namespace Precedes

theorem refl (kernel : Kernel) : kernel.Precedes kernel :=
  ⟨Nat.le_refl _, fun _ _ _ hbears => hbears, fun _ _ table hruns => ⟨table, hruns⟩⟩

theorem trans {between : Kernel} (h : kernel.Precedes between) (hafter : between.Precedes after) :
    kernel.Precedes after where
  births := Nat.le_trans h.births hafter.births
  bears := by
    intro birth hlt pid hbears
    exact h.bears birth hlt pid (hafter.bears birth (Nat.lt_of_lt_of_le hlt h.births) pid hbears)
  running := by
    intro birth hlt table hruns
    obtain ⟨middle, hmiddle⟩ :=
      hafter.running birth (Nat.lt_of_lt_of_le hlt h.births) table hruns
    exact h.running birth hlt middle hmiddle

theorem of_same (h : SameProcesses kernel after) : kernel.Precedes after where
  births := h.births
  bears := fun _ _ _ hbears => h.bears hbears
  running := fun _ _ _ hruns => h.runs hruns

theorem of_forks {child : Child} (h : kernel.Forks child after) : kernel.Precedes after where
  births := by
    rw [h.after]
    exact Nat.le_succ _
  bears := by
    intro birth hlt pid hbears
    rw [h.after] at hbears
    cases hbears with
    | own => exact .own
    | other hmem =>
        rcases List.mem_append.mp hmem with hmem | hchild
        · exact .other hmem
        · -- the child has only just been born
          rw [List.mem_singleton.mp hchild] at hlt
          exact absurd h.birth (Nat.ne_of_lt hlt)
  running := by
    intro birth hlt table hruns
    rw [h.after] at hruns
    cases hruns with
    | own => exact ⟨_, .own⟩
    | other hmem hrunning =>
        rcases List.mem_append.mp hmem with hmem | hchild
        · exact ⟨_, .other hmem hrunning⟩
        · rw [List.mem_singleton.mp hchild] at hlt
          exact absurd h.birth (Nat.ne_of_lt hlt)

theorem of_reap (kernel : Kernel) (birth : Nat) : kernel.Precedes (kernel.reap birth) where
  births := Nat.le_refl _
  bears := by
    intro other _ pid hbears
    cases hbears with
    | own => exact .own
    | other hmem => exact .other (List.mem_of_mem_filter hmem)
  running := by
    intro other _ table hruns
    cases hruns with
    | own => exact ⟨_, .own⟩
    | other hmem hrunning => exact ⟨_, .other (List.mem_of_mem_filter hmem) hrunning⟩

end Precedes

/-- **A step of the kernel brings no process back.** -/
theorem Turn.precedes (h : Turn kernel request? taken given after) : kernel.Precedes after := by
  rcases h.processes with hsame | ⟨child, hforks⟩ | ⟨between, birth, hsame, rfl⟩
  · exact .of_same hsame
  · exact .of_forks hforks
  · exact (Precedes.of_same hsame).trans (.of_reap between birth)

/-- The calling process keeps its number. -/
theorem Turn.pid_eq (h : Turn kernel request? taken given after) : after.pid = kernel.pid := by
  rcases h.processes with hsame | ⟨child, hforks⟩ | ⟨between, birth, hsame, rfl⟩
  · exact hsame.pid
  · rw [hforks.after]
  · exact hsame.pid

end Kernel

end PidOne

import PidOne.Proofs.Kernel.Pipes

/-!
# Orderly kernels

What can be relied upon in a kernel whatever it has gone through: process numbers are positive, and
every descriptor of every process refers to a file that has been opened. Files are only ever added,
so a descriptor that refers to a file does so for good, and a new file is one that no descriptor
referred to before.
-/

namespace PidOne

namespace FdTable

variable {table : FdTable} {count more : Nat}

/-- All descriptors refer to the first `count` files. -/
def RefersBelow (table : FdTable) (count : Nat) : Prop :=
  ∀ fd descriptor, table.get? fd = some descriptor → descriptor.file < count

theorem refersBelow_empty (count : Nat) : empty.RefersBelow count := by
  intro fd descriptor h
  rw [get?_empty] at h
  cases h

theorem RefersBelow.mono (h : table.RefersBelow count) (hle : count ≤ more) :
    table.RefersBelow more := by
  intro fd descriptor hget
  exact Nat.lt_of_lt_of_le (h fd descriptor hget) hle

theorem RefersBelow.insert (h : table.RefersBelow count) {descriptor : Descriptor}
    (hnew : descriptor.file < count) : (table.insert descriptor).RefersBelow count := by
  intro fd found hget
  rw [get?_insert] at hget
  by_cases hfd : fd = table.lowestFree
  · rw [if_pos hfd] at hget
    cases hget
    exact hnew
  · rw [if_neg hfd] at hget
    exact h fd found hget

theorem RefersBelow.erase (h : table.RefersBelow count) (erased : Nat) :
    (table.erase erased).RefersBelow count := by
  intro fd found hget
  rw [get?_erase] at hget
  by_cases hfd : fd = erased
  · rw [if_pos hfd] at hget
    cases hget
  · rw [if_neg hfd] at hget
    exact h fd found hget

end FdTable

namespace Kernel

variable {kernel after : Kernel} {request : Request} {request? : Option Request} {returned : Nat}
  {taken given : Nat → List UInt8} {pid : Pid} {birth : Nat}

structure Orderly (kernel : Kernel) : Prop where
  pid : 0 < kernel.pid
  others : ∀ process ∈ kernel.others, 0 < process.pid
  table : kernel.table.RefersBelow kernel.files.length
  tables : ∀ process ∈ kernel.others, process.table.RefersBelow kernel.files.length

namespace Orderly

theorem pos_of_birth? (h : kernel.Orderly) (hbirth : kernel.birth? pid = some birth) :
    0 < pid := by
  rw [birth?] at hbirth
  split at hbirth
  · next hown =>
    rw [hown]
    exact h.pid
  · obtain ⟨process, hfind, -⟩ := Option.map_eq_some_iff.mp hbirth
    have hpid : process.pid = pid := by simpa using List.find?_some hfind
    rw [← hpid]
    exact h.others process (List.mem_of_find?_eq_some hfind)

theorem refersBelow_of_tableOf? (h : kernel.Orderly) {table : FdTable}
    (htable : kernel.tableOf? birth = some table) : table.RefersBelow kernel.files.length := by
  rw [tableOf?] at htable
  split at htable
  · cases htable
    exact h.table
  split at htable
  · next process hfind =>
    split at htable
    · cases htable
      exact h.tables process (List.mem_of_find?_eq_some hfind)
    · cases htable
  · cases htable

theorem openFile (h : kernel.Orderly) (file : OpenFile) : (kernel.openFile file).2.Orderly := by
  have hlength : (kernel.openFile file).2.files.length = kernel.files.length + 1 :=
    List.length_append
  refine ⟨h.pid, h.others, ?_, ?_⟩
  · rw [hlength]
    exact (h.table.mono (Nat.le_succ _)).insert (Nat.lt_succ_self _)
  · intro process hmem
    rw [hlength]
    exact (h.tables process hmem).mono (Nat.le_succ _)

theorem grants (horderly : kernel.Orderly) (h : kernel.Grants request returned after) :
    after.Orderly := by
  obtain ⟨hpid, hothers, htable, htables⟩ := id horderly
  cases h with
  | pidfdOpen => exact horderly.openFile _
  | pidfdGetfd _ hsource hfind =>
      refine ⟨hpid, hothers, htable.insert ?_, htables⟩
      rw [FdTable.find?] at hfind
      split at hfind
      · cases hfind
      · have hbelow := horderly.refersBelow_of_tableOf? hsource _ _ hfind
        exact hbelow
  | close => exact ⟨hpid, hothers, htable.erase _, htables⟩
  | _ => exact ⟨hpid, hothers, htable, htables⟩

theorem fork (h : kernel.Orderly) {child : Child} (hfork : kernel.fork = .ok (child, after)) :
    after.Orderly := by
  have hforks := forks_of_fork hfork
  rw [hforks.after]
  refine ⟨h.pid, ?_, h.table, ?_⟩
  · intro process hmem
    rcases List.mem_append.mp hmem with hmem | hchild
    · exact h.others process hmem
    · rw [List.mem_singleton.mp hchild]
      exact hforks.pid
  · intro process hmem
    rcases List.mem_append.mp hmem with hmem | hchild
    · exact h.tables process hmem
    · rw [List.mem_singleton.mp hchild]
      exact h.table

/-- What is done to a process has to leave its number alone, and its descriptors in order. -/
theorem change (h : kernel.Orderly) (birth : Nat) {change : Process → Process}
    (hpid : ∀ process, (change process).pid = process.pid)
    (htable : ∀ process, process.table.RefersBelow kernel.files.length →
      (change process).table.RefersBelow kernel.files.length) :
    (kernel.change birth change).Orderly := by
  refine ⟨h.pid, ?_, h.table, ?_⟩
  · intro process hmem
    obtain ⟨earlier, hearlier, rfl⟩ := List.mem_map.mp hmem
    split
    · rw [hpid]
      exact h.others earlier hearlier
    · exact h.others earlier hearlier
  · intro process hmem
    obtain ⟨earlier, hearlier, rfl⟩ := List.mem_map.mp hmem
    split
    · exact htable earlier (h.tables earlier hearlier)
    · exact h.tables earlier hearlier

theorem kill (h : kernel.Orderly) (birth : Nat) : (kernel.kill birth).Orderly :=
  h.change birth (fun _ => rfl) fun _ _ => FdTable.refersBelow_empty _

theorem alter (h : kernel.Orderly) (birth : Nat) {change : FdTable → FdTable}
    (htable : ∀ table : FdTable, table.RefersBelow kernel.files.length →
      (change table).RefersBelow kernel.files.length) :
    (kernel.change birth fun process => process.alter change).Orderly := by
  refine h.change birth (fun process => process.pid_alter change) fun process hprocess => ?_
  rw [Process.alter]
  split
  · exact htable _ hprocess
  · exact hprocess

theorem closeIn (h : kernel.Orderly) (birth fd : Nat) : (kernel.closeIn birth fd).Orderly :=
  h.alter birth fun _ htable => htable.erase fd

theorem openIn (h : kernel.Orderly) (birth : Nat) : (kernel.openIn birth).Orderly := by
  let opened : Kernel := { kernel with files := kernel.files ++ [⟨.stream, false⟩] }
  have hlength : opened.files.length = kernel.files.length + 1 := List.length_append
  have hopened : opened.Orderly := by
    refine ⟨h.pid, h.others, ?_, ?_⟩
    · rw [hlength]
      exact h.table.mono (Nat.le_succ _)
    · intro process hmem
      rw [hlength]
      exact (h.tables process hmem).mono (Nat.le_succ _)
  refine hopened.alter birth fun table htable => htable.insert ?_
  rw [hlength]
  exact Nat.lt_succ_self _

theorem reap (h : kernel.Orderly) (birth : Nat) : (kernel.reap birth).Orderly :=
  ⟨h.pid, fun process hmem => h.others process (List.mem_of_mem_filter hmem), h.table,
    fun process hmem => h.tables process (List.mem_of_mem_filter hmem)⟩

end Orderly

/-- **Every step of the kernel keeps it orderly.** -/
theorem Turn.orderly (h : Turn kernel request? taken given after) (horderly : kernel.Orderly) :
    after.Orderly := by
  obtain ⟨hpid, hothers, htable, htables⟩ := id horderly
  cases h with
  | kept => exact horderly
  | served h => exact horderly.grants (grants_of_serve h)
  | wrote h =>
      obtain ⟨pipes, rfl⟩ := pipes_of_write h
      exact ⟨hpid, hothers, htable, htables⟩
  | readOff h =>
      obtain ⟨pipes, rfl⟩ := pipes_of_read h
      exact ⟨hpid, hothers, htable, htables⟩
  | forked h => exact horderly.fork h
  | killed birth => exact horderly.kill birth
  | reaped birth => exact (horderly.kill birth).reap birth
  | closedIn birth fd => exact horderly.closeIn birth fd
  | openedIn birth => exact horderly.openIn birth
  | orphaned code => exact ⟨hpid, hothers, htable, htables⟩
  | piped =>
      have hpipes : ({ kernel with pipes := kernel.pipes ++ [Pipe.empty] } : Kernel).Orderly :=
        ⟨hpid, hothers, htable, htables⟩
      exact (hpipes.openFile _).openFile _

theorem orderly_boot (hpid : 0 < pid) (mayMount : Bool) : (boot pid mayMount).Orderly := by
  have hstreams : standardStreams.RefersBelow 3 := by
    have hall : ∀ descriptor ∈ standardStreams.descriptors, descriptor.file < 3 := by decide
    intro fd descriptor h
    exact hall descriptor (FdTable.mem_descriptors_iff.mpr ⟨fd, h⟩)
  have hother : ∀ process ∈ (boot pid mayMount).others,
      process = ⟨0, 1, .running, standardStreams⟩ := by
    intro process hmem
    rw [boot] at hmem
    split at hmem
    · cases hmem
    · exact List.mem_singleton.mp hmem
  refine ⟨hpid, ?_, hstreams, ?_⟩
  · intro process hmem
    rw [hother process hmem]
    decide
  · intro process hmem
    rw [hother process hmem]
    exact hstreams

end Kernel

end PidOne

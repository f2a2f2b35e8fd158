import Mathlib.Data.List.Infix
import PidOne.Proofs.Kernel.Granting

/-!
# Pipes and who holds their ends

A read takes from the front of a pipe what it returns, a write appends what it accepts, and nothing
else touches the bytes in a pipe. A reader is told of the end when the pipe is empty and no running
process has a descriptor for the writing end. Descriptors are what they are until their number is
closed: files are only ever added, and only `close` takes a number out of the table.

`Turn` is one step of the kernel, with the request it has served and the bytes that have been taken
out of each pipe and given to it.
-/

namespace PidOne

namespace Pipe

theorem readPages_fst (count : Nat) (pages : List Page) :
    (readPages count pages).1 = (pages.flatMap Page.bytes).take count := by
  fun_induction readPages count pages with
  | case1 => simp
  | case2 count page rest h =>
      rw [List.flatMap_cons, List.take_append_of_le_length (by omega)]
  | case3 count page rest h bytes left hread ih =>
      rw [hread] at ih
      rw [List.flatMap_cons, List.take_append, List.take_of_length_le (by omega), ← ih]

theorem bytes_read (pipe : Pipe) (count : Nat) : (pipe.read count).1 = pipe.contents.take count :=
  readPages_fst count pipe.pages

end Pipe

namespace FdTable

theorem mem_descriptors_iff {table : FdTable} {descriptor : Descriptor} :
    descriptor ∈ table.descriptors ↔ ∃ fd, table.get? fd = some descriptor := by
  have hslot : descriptor ∈ table.descriptors ↔ some descriptor ∈ table.slots := by
    simp [descriptors, List.mem_filterMap]
  rw [hslot, List.mem_iff_getElem?]
  constructor
  · rintro ⟨fd, hfd⟩
    refine ⟨fd, ?_⟩
    rw [get?, hfd, Option.join_some]
  · rintro ⟨fd, hfd⟩
    exact ⟨fd, Option.join_eq_some_iff.mp hfd⟩

end FdTable

namespace Kernel

/-- The descriptor tables of all processes that are running. -/
def liveTables (kernel : Kernel) : List FdTable :=
  kernel.table :: (kernel.others.filter Process.isRunning).map Process.table

/-- What a number in a table stands for. -/
def resourceIn? (kernel : Kernel) (table : FdTable) (fd : Nat) : Option Resource :=
  ((table.get? fd).bind fun descriptor => kernel.files[descriptor.file]?).map OpenFile.resource

/-- A running process has a descriptor for the end of a pipe. -/
def EndOpen (kernel : Kernel) (index : Nat) (side : Side) : Prop :=
  ∃ table ∈ kernel.liveTables, ∃ fd, kernel.resourceIn? table fd = some (.pipe index side)

/-- Processes that have exited have no descriptors left. -/
def ZombiesBare (kernel : Kernel) : Prop :=
  ∀ process ∈ kernel.others, process.isRunning = false → process.table = .empty

/-- The bytes that have been written into a pipe and not been read. -/
def buffered (kernel : Kernel) (index : Nat) : List UInt8 :=
  (kernel.pipes[index]?).elim [] Pipe.contents

def resource? (kernel : Kernel) (fd : Int) : Option Resource :=
  (kernel.file? fd).map OpenFile.resource

variable {kernel after : Kernel} {fd : Int} {index : Nat} {side : Side} {table : FdTable}

/-! ## Ends of pipes -/

theorem anyFile_iff : (table.anyFile fun file =>
      (kernel.files[file]?.map OpenFile.resource) == some (.pipe index side)) = true
    ↔ ∃ fd, kernel.resourceIn? table fd = some (.pipe index side) := by
  rw [FdTable.anyFile, List.any_eq_true]
  constructor
  · rintro ⟨descriptor, hmem, hfile⟩
    obtain ⟨fd, hfd⟩ := FdTable.mem_descriptors_iff.mp hmem
    refine ⟨fd, ?_⟩
    rw [resourceIn?, hfd]
    exact beq_iff_eq.mp hfile
  · rintro ⟨fd, hfd⟩
    cases hget : table.get? fd with
    | none =>
        rw [resourceIn?, hget] at hfd
        cases hfd
    | some descriptor =>
        rw [resourceIn?, hget] at hfd
        exact ⟨descriptor, FdTable.mem_descriptors_iff.mpr ⟨fd, hget⟩, beq_iff_eq.mpr hfd⟩

theorem hasEnd_iff (h : kernel.ZombiesBare) :
    kernel.hasEnd index side = true ↔ kernel.EndOpen index side := by
  simp only [hasEnd, Bool.or_eq_true, List.any_eq_true, anyFile_iff, EndOpen, liveTables,
    List.exists_mem_cons_iff, List.mem_map, List.mem_filter]
  refine or_congr_right ?_
  constructor
  · rintro ⟨process, hmem, fd, hfd⟩
    refine ⟨process.table, ⟨process, ⟨hmem, ?_⟩, rfl⟩, fd, hfd⟩
    by_contra hzombie
    rw [h process hmem (by simpa using hzombie), resourceIn?, FdTable.get?_empty] at hfd
    cases hfd
  · rintro ⟨_, ⟨process, ⟨hmem, -⟩, rfl⟩, fd, hfd⟩
    exact ⟨process, hmem, fd, hfd⟩

/-! ## Bytes -/

theorem buffered_of_getElem? {pipe : Pipe} (h : kernel.pipes[index]? = some pipe) :
    kernel.buffered index = pipe.contents := by
  rw [buffered, h, Option.elim_some]

theorem buffered_set (kernel : Kernel) (written : Pipe) (other : Nat) {pipe : Pipe}
    (h : kernel.pipes[index]? = some pipe) :
    ({ kernel with pipes := kernel.pipes.set index written } : Kernel).buffered other
      = if other = index then written.contents else kernel.buffered other := by
  have hlt : index < kernel.pipes.length := (List.getElem?_eq_some_iff.mp h).1
  rw [buffered, buffered, List.getElem?_set]
  by_cases hother : index = other
  · subst hother
    rw [if_pos rfl, if_pos hlt, if_pos rfl, Option.elim_some]
  · rw [if_neg hother, if_neg (Ne.symm hother)]

/-- What a write of some data through a number adds to a pipe. -/
def givenBy (kernel : Kernel) (fd : Int) (accepted : List UInt8) (index : Nat) : List UInt8 :=
  if kernel.resource? fd = some (.pipe index .writing) then accepted else []

def takenBy (kernel : Kernel) (fd : Int) (bytes : List UInt8) (index : Nat) : List UInt8 :=
  if kernel.resource? fd = some (.pipe index .reading) then bytes else []

/-- A write appends what it accepts to the pipe that the number stands for. -/
theorem buffered_write {data : List UInt8} {count : Nat}
    (h : kernel.write fd data = .ok (count, after)) (index : Nat) :
    after.buffered index = kernel.buffered index ++ kernel.givenBy fd (data.take count) index := by
  unfold write at h
  split at h
  · next written hresource =>
    split at h
    · cases h
      rw [List.take_zero, givenBy, ite_self, List.append_nil]
    split at h
    · cases h
    split at h
    · cases h
    next pipe hpipe =>
    split at h
    · cases h
    next count' changed _ hwrite =>
    cases h
    have hcontents := pipe.contents_write data
    rw [hwrite] at hcontents
    rw [buffered_set kernel changed index hpipe, givenBy, resource?, hresource]
    by_cases hindex : index = written
    · subst hindex
      rw [if_pos rfl, if_pos rfl, hcontents, buffered_of_getElem? hpipe]
    · have hne : some (Resource.pipe written .writing) ≠ some (.pipe index .writing) := by
        simpa using Ne.symm hindex
      rw [if_neg hindex, if_neg hne, List.append_nil]
  · cases h

/-- A read takes what it returns off the front of the pipe that the number stands for. -/
theorem buffered_read {count : Nat} {bytes : List UInt8}
    (h : kernel.read fd count = .ok (bytes, after)) (index : Nat) :
    kernel.takenBy fd bytes index ++ after.buffered index = kernel.buffered index := by
  unfold read at h
  split at h
  · next readFrom hresource =>
    split at h
    · cases h
    next pipe hpipe =>
    split at h
    · cases h
      rw [takenBy, ite_self, List.nil_append]
    split at h
    · split at h
      · cases h
      · cases h
        rw [takenBy, ite_self, List.nil_append]
    · cases h
      have hcontents := pipe.contents_read count
      rw [buffered_set kernel _ index hpipe, takenBy, resource?, hresource]
      by_cases hindex : index = readFrom
      · subst hindex
        rw [if_pos rfl, if_pos rfl, buffered_of_getElem? hpipe]
        exact hcontents
      · have hne : some (Resource.pipe readFrom .reading) ≠ some (.pipe index .reading) := by
          simpa using Ne.symm hindex
        rw [if_neg hindex, if_neg hne, List.nil_append]
  · cases h

/-- A read that asks for anything is told of the end if and only if nothing is left and nobody can
write any more. -/
theorem read_eq_nil_iff {count : Nat} {pipe : Pipe}
    (hresource : kernel.resource? fd = some (.pipe index .reading))
    (hpipe : kernel.pipes[index]? = some pipe) (hcount : count ≠ 0)
    (hzombies : kernel.ZombiesBare) :
    (∃ after, kernel.read fd count = .ok ([], after))
      ↔ kernel.buffered index = [] ∧ ¬ kernel.EndOpen index .writing := by
  rw [← hasEnd_iff hzombies, buffered_of_getElem? hpipe, read]
  rw [resource?] at hresource
  simp only [hresource, hpipe, if_neg hcount]
  by_cases hempty : pipe.contents = []
  · have hisEmpty : pipe.isEmpty = true := by rw [Pipe.isEmpty, hempty, List.isEmpty_nil]
    rw [if_pos hisEmpty]
    cases kernel.hasEnd index .writing <;> simp [hempty]
  · have hisEmpty : pipe.isEmpty = false := by
      rw [Pipe.isEmpty]
      simpa using hempty
    have hbytes : (pipe.read count).1 ≠ [] := by
      rw [Pipe.bytes_read]
      simpa [hcount] using hempty
    simp [hisEmpty, hempty, hbytes]

/-! ## One step of the kernel -/

/-- No pipe is concerned. -/
def nothing : Nat → List UInt8 := fun _ => []

/-- What becomes of the kernel in one step: the request that was served, if there was one, and the
bytes taken out of each pipe and given to it. -/
inductive Turn (kernel : Kernel) :
    Option Request → (Nat → List UInt8) → (Nat → List UInt8) → Kernel → Prop where
  /-- A request that is rejected leaves the kernel as it was. -/
  | kept (request? : Option Request) : Turn kernel request? nothing nothing kernel
  | served {request : Request} {returned : Nat} {after : Kernel}
      (h : kernel.serve request = .ok (returned, after)) :
      Turn kernel (some request) nothing nothing after
  | wrote {fd : Int} {data : List UInt8} {count : Nat} {after : Kernel}
      (h : kernel.write fd data = .ok (count, after)) :
      Turn kernel none nothing (kernel.givenBy fd (data.take count)) after
  | readOff {fd : Int} {count : Nat} {bytes : List UInt8} {after : Kernel}
      (h : kernel.read fd count = .ok (bytes, after)) :
      Turn kernel none (kernel.takenBy fd bytes) nothing after
  | forked {child : Child} {after : Kernel} (h : kernel.fork = .ok (child, after)) :
      Turn kernel none nothing nothing after
  | killed (birth : Nat) : Turn kernel none nothing nothing (kernel.kill birth)
  | reaped (birth : Nat) : Turn kernel none nothing nothing ((kernel.kill birth).reap birth)
  | closedIn (birth fd : Nat) : Turn kernel none nothing nothing (kernel.closeIn birth fd)
  | openedIn (birth : Nat) : Turn kernel none nothing nothing (kernel.openIn birth)
  | orphaned (code : Int) : Turn kernel none nothing nothing (kernel.orphan code).2
  | piped : Turn kernel none nothing nothing kernel.pipe.2.2

variable {request? : Option Request} {request : Request} {taken given : Nat → List UInt8}
  {returned : Nat}

/-- What a request leaves alone. -/
structure Framed (kernel after : Kernel) : Prop where
  files : kernel.files <+: after.files
  others : after.others = kernel.others
  pipes : after.pipes = kernel.pipes

theorem framed_serve (h : kernel.serve request = .ok (returned, after)) :
    Framed kernel after := by
  cases grants_of_serve h with
  | pidfdOpen => exact ⟨List.prefix_append _ _, rfl, rfl⟩
  | _ => exact ⟨List.prefix_refl _, rfl, rfl⟩

theorem framed_write {data : List UInt8} {count : Nat}
    (h : kernel.write fd data = .ok (count, after)) :
    after.files = kernel.files ∧ after.others = kernel.others := by
  obtain ⟨pipes, rfl⟩ := pipes_of_write h
  exact ⟨rfl, rfl⟩

theorem framed_read {count : Nat} {bytes : List UInt8}
    (h : kernel.read fd count = .ok (bytes, after)) :
    after.files = kernel.files ∧ after.others = kernel.others := by
  obtain ⟨pipes, rfl⟩ := pipes_of_read h
  exact ⟨rfl, rfl⟩

/-- What is done to a process leaves it bare if it leaves it a zombie. -/
theorem ZombiesBare.change (hbare : kernel.ZombiesBare) (birth : Nat) {change : Process → Process}
    (hchange : ∀ process, (process.isRunning = false → process.table = .empty) →
      (change process).isRunning = false → (change process).table = .empty) :
    (kernel.change birth change).ZombiesBare := by
  intro process hmem hzombie
  obtain ⟨earlier, hearlier, rfl⟩ := List.mem_map.mp hmem
  by_cases hbirth : earlier.birth = birth
  · rw [if_pos hbirth] at hzombie ⊢
    exact hchange earlier (hbare earlier hearlier) hzombie
  · rw [if_neg hbirth] at hzombie ⊢
    exact hbare earlier hearlier hzombie

theorem ZombiesBare.kill (hbare : kernel.ZombiesBare) (birth : Nat) :
    (kernel.kill birth).ZombiesBare :=
  hbare.change birth fun _ _ _ => rfl

theorem ZombiesBare.alter (hbare : kernel.ZombiesBare) (birth : Nat)
    (change : FdTable → FdTable) :
    (kernel.change birth fun process => process.alter change).ZombiesBare := by
  apply hbare.change
  intro process hprocess hzombie
  rw [Process.isRunning_alter] at hzombie
  rw [Process.alter_of_zombie change hzombie]
  exact hprocess hzombie

namespace Turn

theorem files (h : Turn kernel request? taken given after) : kernel.files <+: after.files := by
  cases h with
  | kept => exact List.prefix_refl _
  | served h => exact (framed_serve h).files
  | wrote h => rw [(framed_write h).1]
  | readOff h => rw [(framed_read h).1]
  | forked h => rw [(forks_of_fork h).after]
  | openedIn => exact List.prefix_append _ _
  | piped => exact (List.prefix_append _ _).trans (List.prefix_append _ _)
  | _ => exact List.prefix_refl _

theorem zombiesBare (h : Turn kernel request? taken given after) (hbare : kernel.ZombiesBare) :
    after.ZombiesBare := by
  cases h with
  | kept => exact hbare
  | served h =>
      rw [ZombiesBare, (framed_serve h).others]
      exact hbare
  | wrote h =>
      rw [ZombiesBare, (framed_write h).2]
      exact hbare
  | readOff h =>
      rw [ZombiesBare, (framed_read h).2]
      exact hbare
  | forked h =>
      rw [(forks_of_fork h).after]
      intro process hmem hzombie
      rcases List.mem_append.mp hmem with hmem | hchild
      · exact hbare process hmem hzombie
      · obtain rfl := List.mem_singleton.mp hchild
        cases hzombie
  | killed birth => exact hbare.kill birth
  | reaped birth =>
      intro process hmem hzombie
      exact hbare.kill birth process (List.mem_of_mem_filter hmem) hzombie
  | closedIn birth fd => exact hbare.alter birth _
  | openedIn birth =>
      have hopened : ({ kernel with files := kernel.files ++ [⟨.stream, false⟩] } :
        Kernel).ZombiesBare := hbare
      exact hopened.alter birth _
  | orphaned code => exact hbare
  | piped => exact hbare

theorem buffered (h : Turn kernel request? taken given after) (index : Nat) :
    taken index ++ after.buffered index = kernel.buffered index ++ given index := by
  cases h with
  | wrote h => exact buffered_write h index
  | readOff h => rw [buffered_read h index]; exact (List.append_nil _).symm
  | served h =>
      rw [Kernel.buffered, (framed_serve h).pipes]
      exact (List.append_nil _).symm
  | piped =>
      have hpipes : kernel.pipe.2.2.pipes = kernel.pipes ++ [Pipe.empty] := rfl
      rw [nothing, List.nil_append, List.append_nil, Kernel.buffered, hpipes, Kernel.buffered,
        List.getElem?_append]
      split
      · rfl
      · next hge =>
        rw [List.getElem?_eq_none (Nat.le_of_not_lt hge)]
        cases index - kernel.pipes.length with
        | zero => rfl
        | succ more => rfl
  | forked h =>
      rw [(forks_of_fork h).after]
      exact (List.append_nil _).symm
  | _ => exact (List.append_nil _).symm

theorem get?_of_installs {fd : Nat} {descriptor : Descriptor} (h : kernel.Installs returned after)
    (hopen : kernel.table.get? fd = some descriptor) : after.table.get? fd = some descriptor := by
  obtain ⟨-, made, htable⟩ := h
  have hne : fd ≠ kernel.table.lowestFree := by
    rintro rfl
    rw [FdTable.get?_lowestFree] at hopen
    cases hopen
  rw [htable, FdTable.get?_insert, if_neg hne, hopen]

theorem stays {fd : Nat} {descriptor : Descriptor} (h : Turn kernel request? taken given after)
    (hopen : kernel.table.get? fd = some descriptor) (hclose : request? ≠ some (.close fd)) :
    after.table.get? fd = some descriptor := by
  cases h with
  | kept => exact hopen
  | served h =>
      cases grants_of_serve h with
      | pidfdOpen => exact get?_of_installs (installs_openFile _ _) hopen
      | pidfdGetfd => exact get?_of_installs (installs_install _ _) hopen
      | @close number _ =>
          have hne : fd ≠ number := by
            rintro rfl
            exact hclose rfl
          exact (FdTable.get?_erase _ _ _).trans (by rw [if_neg hne, hopen])
      | _ => exact hopen
  | wrote h => rwa [table_write h]
  | readOff h => rwa [table_read h]
  | forked h => rwa [(forks_of_fork h).after]
  | piped =>
      obtain ⟨between, hreader, hwriter⟩ := kernel.installs_pipe
      exact get?_of_installs hwriter (get?_of_installs hreader hopen)
  | _ => exact hopen

end Turn

/-- A copy is a descriptor for the file that the source process has under the number. -/
theorem copied_pidfdGetfd {pidfd target : Int} {flags : UInt32}
    (h : kernel.serve (.pidfdGetfd pidfd target flags) = .ok (returned, after)) :
    ∃ birth table source, kernel.resource? pidfd = some (.pidfd birth)
      ∧ kernel.tableOf? birth = some table ∧ table.find? target = some source
      ∧ kernel.table.get? returned = none
      ∧ after.table.get? returned = some ⟨source.file, true⟩ := by
  cases grants_of_serve h with
  | @pidfdGetfd _ _ birth table source hresource htable hsource =>
      exact ⟨birth, table, source, hresource, htable, hsource, FdTable.get?_lowestFree _,
        FdTable.get?_insert_self _ _⟩

end Kernel

end PidOne

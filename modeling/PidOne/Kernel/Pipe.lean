/-!
# Pipes

A pipe is a queue of bytes in at most sixteen pages of 4096. A write first goes on where the last
page ends, if what it has beyond whole pages fits there, and takes new pages for the rest; it may
take in only a beginning of the data. A read takes bytes from the front, and a page is free again
when its last byte has been read. The view of a pipe is `contents`: a write appends the bytes it
accepts, a read removes the bytes it returns.
-/

namespace PidOne

/-- A page of a pipe: how many of its bytes have been written, and those not read so far. -/
structure Page where
  filled : Nat
  bytes : List UInt8
  deriving DecidableEq, Repr

/-- The pages in use, the oldest first. -/
structure Pipe where
  pages : List Page
  deriving DecidableEq, Repr

namespace Pipe

def empty : Pipe := ⟨[]⟩

def pageSize : Nat := 4096

def maxPages : Nat := 16

/-- The bytes written and not read so far, the oldest first. -/
def contents (pipe : Pipe) : List UInt8 := pipe.pages.flatMap Page.bytes

def isEmpty (pipe : Pipe) : Bool := pipe.contents.isEmpty

def paginate (data : List UInt8) : List Page :=
  if data = [] then []
  else ⟨min pageSize data.length, data.take pageSize⟩ :: paginate (data.drop pageSize)
termination_by data.length
decreasing_by
  have hpos : 0 < data.length := List.length_pos_iff.2 (by assumption)
  simp only [List.length_drop, pageSize]
  omega

/-- Takes new pages for the data while there are any; gives the number of bytes taken in. -/
def extend (pipe : Pipe) (data : List UInt8) : Nat × Pipe :=
  let room := (maxPages - pipe.pages.length) * pageSize
  (min room data.length, ⟨pipe.pages ++ paginate (data.take room)⟩)

/-- Goes on in the last page with what the data has beyond whole pages, if there is a last page and
that fits into it. -/
def continue? (pipe : Pipe) (data : List UInt8) : Option Pipe :=
  let odd := data.length % pageSize
  match pipe.pages.getLast? with
  | none => none
  | some page =>
    if odd = 0 ∨ pageSize < page.filled + odd then none
    else some ⟨pipe.pages.dropLast ++ [⟨page.filled + odd, page.bytes ++ data.take odd⟩]⟩

/-- Writes data; gives the number of bytes taken in. -/
def write (pipe : Pipe) (data : List UInt8) : Nat × Pipe :=
  match pipe.continue? data with
  | none => pipe.extend data
  | some continued =>
    let odd := data.length % pageSize
    let (more, extended) := continued.extend (data.drop odd)
    (odd + more, extended)

/-- Reads at most `count` bytes off the pages. -/
def readPages (count : Nat) : List Page → List UInt8 × List Page
  | [] => ([], [])
  | page :: rest =>
    if count < page.bytes.length then
      (page.bytes.take count, ⟨page.filled, page.bytes.drop count⟩ :: rest)
    else
      let (bytes, left) := readPages (count - page.bytes.length) rest
      (page.bytes ++ bytes, left)

def read (pipe : Pipe) (count : Nat) : List UInt8 × Pipe :=
  let (bytes, pages) := readPages count pipe.pages
  (bytes, ⟨pages⟩)

theorem flatMap_bytes_paginate (data : List UInt8) :
    (paginate data).flatMap Page.bytes = data := by
  fun_induction paginate data with
  | case1 => rfl
  | case2 data _ ih => simp [ih]

theorem contents_extend (pipe : Pipe) (data : List UInt8) :
    (pipe.extend data).2.contents = pipe.contents ++ data.take (pipe.extend data).1 := by
  simp only [extend, contents, List.flatMap_append, flatMap_bytes_paginate]
  rw [List.take_eq_take_iff.2]
  omega

theorem contents_continue? {pipe continued : Pipe} {data : List UInt8}
    (h : pipe.continue? data = some continued) :
    continued.contents = pipe.contents ++ data.take (data.length % pageSize) := by
  unfold continue? at h
  simp only at h
  split at h
  · cases h
  · next page hlast =>
    split at h
    · cases h
    · obtain ⟨before, hpages⟩ := List.getLast?_eq_some_iff.1 hlast
      cases h
      simp [contents, hpages]

/-- A write appends what it accepts, a beginning of the data. -/
theorem contents_write (pipe : Pipe) (data : List UInt8) :
    (pipe.write data).2.contents = pipe.contents ++ data.take (pipe.write data).1 := by
  unfold write
  split
  · exact contents_extend pipe data
  · next continued hcontinued =>
    simp only [contents_extend, contents_continue? hcontinued, List.append_assoc]
    rw [← List.take_add]

theorem flatMap_bytes_readPages (count : Nat) (pages : List Page) :
    (readPages count pages).1 ++ (readPages count pages).2.flatMap Page.bytes =
      pages.flatMap Page.bytes := by
  fun_induction readPages count pages with
  | case1 => rfl
  | case2 count page rest h => simp [← List.append_assoc]
  | case3 count page rest h bytes left hread ih =>
    rw [hread] at ih
    simp [ih]

/-- A read takes what it returns off the front. -/
theorem contents_read (pipe : Pipe) (count : Nat) :
    (pipe.read count).1 ++ (pipe.read count).2.contents = pipe.contents :=
  flatMap_bytes_readPages count pipe.pages

end Pipe

end PidOne

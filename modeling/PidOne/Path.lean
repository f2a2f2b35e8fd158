import PidOne.Text.Utf8

/-!
# Paths

A path is a byte string, of any encoding. The kernel takes it as a C string: bytes up to a NUL. So a
path can be handed over exactly when it has no NUL byte, and the kernel then reads it back
unchanged.
-/

namespace PidOne

abbrev Path := List UInt8

namespace Path

/-- The path for people: its text, with U+FFFD for each part that is not UTF-8. -/
def display (path : Path) : String := Utf8.lossy path

def slash : UInt8 := 0x2f

/-- Puts a byte in front of the first component. -/
def prepend (b : UInt8) : List (List UInt8) → List (List UInt8)
  | [] => [[b]]
  | component :: rest => (b :: component) :: rest

def pieces (path : Path) : List (List UInt8) :=
  path.foldr (fun b found => if b == slash then [] :: found else prepend b found) [[]]

def components (path : Path) : List (List UInt8) :=
  path.pieces.filter fun piece => !piece.isEmpty

def isAbsolute (path : Path) : Bool := path.head? == some slash

theorem pieces_cons (b : UInt8) (path : Path) :
    pieces (b :: path) = if b == slash then [] :: path.pieces else prepend b path.pieces := rfl

theorem pieces_ne_nil (path : Path) : path.pieces ≠ [] := by
  induction path with
  | nil => exact List.cons_ne_nil _ _
  | cons b rest ih =>
      rw [pieces_cons]
      split
      · exact List.cons_ne_nil _ _
      · unfold prepend
        split
        · exact List.cons_ne_nil _ _
        · exact List.cons_ne_nil _ _

theorem prepend_append {found : List (List UInt8)} (b : UInt8) (more : List (List UInt8))
    (h : found ≠ []) : prepend b (found ++ more) = prepend b found ++ more := by
  cases found with
  | nil => exact absurd rfl h
  | cons component rest => rfl

theorem pieces_append_slash (path rest : Path) :
    pieces (path ++ slash :: rest) = path.pieces ++ pieces rest := by
  induction path with
  | nil => rfl
  | cons b path ih =>
      rw [List.cons_append, pieces_cons, pieces_cons, ih, prepend_append b _ (pieces_ne_nil path)]
      split
      · rfl
      · rfl

/-- A path that begins with a slash goes on where another one ends. -/
theorem components_append {path inner : Path} (h : inner.isAbsolute = true) :
    components (path ++ inner) = path.components ++ inner.components := by
  cases inner with
  | nil => cases h
  | cons b rest =>
      obtain rfl : b = slash := by simpa [isAbsolute] using h
      rw [components, pieces_append_slash, List.filter_append, components, components, pieces_cons]
      rfl

theorem isAbsolute_append {path inner : Path} (h : path.isAbsolute = true) :
    isAbsolute (path ++ inner) = true := by
  cases path with
  | nil => cases h
  | cons b rest => exact h

end Path

/-- Bytes without NUL, ready to be handed to the kernel. -/
structure CString where
  bytes : List UInt8
  no_nul : (0 : UInt8) ∉ bytes

namespace CString

/-- The bytes as a C string, unless there is a NUL among them. -/
def ofBytes? (bytes : List UInt8) : Option CString :=
  if h : (0 : UInt8) ∈ bytes then none else some ⟨bytes, h⟩

/-- The string in memory, with the NUL at its end. -/
def memory (string : CString) : List UInt8 := string.bytes ++ [0]

/-- What is read from memory up to the first NUL. -/
def readBack (memory : List UInt8) : List UInt8 := memory.takeWhile (· != 0)

theorem ofBytes?_eq_none_iff {bytes : List UInt8} :
    ofBytes? bytes = none ↔ (0 : UInt8) ∈ bytes := by
  unfold ofBytes?
  split <;> simp_all

theorem ofBytes?_bytes (string : CString) : ofBytes? string.bytes = some string := by
  rw [ofBytes?, dif_neg string.no_nul]

theorem bytes_of_ofBytes? {bytes : List UInt8} {string : CString}
    (h : ofBytes? bytes = some string) : string.bytes = bytes := by
  unfold ofBytes? at h
  split at h
  · cases h
  · cases h
    rfl

theorem readBack_memory (string : CString) : readBack string.memory = string.bytes := by
  have hall : ∀ b ∈ string.bytes, (b != 0) = true := by
    intro b hb
    have hne : b ≠ 0 := fun h => string.no_nul (h ▸ hb)
    simp [hne]
  simp [readBack, memory, List.takeWhile_append_of_pos hall]

end CString

end PidOne

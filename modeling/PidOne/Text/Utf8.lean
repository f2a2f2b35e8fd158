/-!
# UTF-8

A byte string falls apart into parts: characters, and ill-formed parts, each as long as it can be
while it still begins some character. A byte string is UTF-8 when every part is a character; its
lossy text shows U+FFFD for each part that is none.
-/

namespace PidOne.Utf8

def encode (text : String) : List UInt8 := text.toList.flatMap String.utf8EncodeChar

/-- What a first byte says about its character: the bits it carries, and the range each of the bytes
to come has to be in. The ranges leave out what has a shorter form, surrogates and everything beyond
the last code point. -/
def lead (b : UInt8) : Option (Nat × List (UInt8 × UInt8)) :=
  if b < 0x80 then some (b.toNat, [])
  else if b < 0xc2 then none
  else if b < 0xe0 then some (b.toNat - 0xc0, [(0x80, 0xbf)])
  else if b == 0xe0 then some (0, [(0xa0, 0xbf), (0x80, 0xbf)])
  else if b == 0xed then some (13, [(0x80, 0x9f), (0x80, 0xbf)])
  else if b < 0xf0 then some (b.toNat - 0xe0, [(0x80, 0xbf), (0x80, 0xbf)])
  else if b == 0xf0 then some (0, [(0x90, 0xbf), (0x80, 0xbf), (0x80, 0xbf)])
  else if b < 0xf4 then some (b.toNat - 0xf0, [(0x80, 0xbf), (0x80, 0xbf), (0x80, 0xbf)])
  else if b == 0xf4 then some (4, [(0x80, 0x8f), (0x80, 0xbf), (0x80, 0xbf)])
  else none

/-- Whether the byte can only go on with a character. -/
def isContinuation (b : UInt8) : Bool := 0x80 ≤ b && b ≤ 0xbf

/-- Reads the bytes that have to follow and gives the character, or none at the first byte that
does not fit, which is left to the next part. -/
def follow (bits : Nat) : List (UInt8 × UInt8) → List UInt8 → Option Char × List UInt8
  | [], rest => (some (Char.ofNat bits), rest)
  | _ :: _, [] => (none, [])
  | (low, high) :: ranges, b :: rest =>
    if low ≤ b && b ≤ high then follow (bits * 64 + (b.toNat - 0x80)) ranges rest
    else (none, b :: rest)

/-- The first part of a byte string that is not empty, and the bytes after it. -/
def first (b : UInt8) (rest : List UInt8) : Option Char × List UInt8 :=
  match lead b with
  | none => (none, rest)
  | some (bits, ranges) => follow bits ranges rest

theorem length_follow_le (bits : Nat) (ranges : List (UInt8 × UInt8)) (bytes : List UInt8) :
    (follow bits ranges bytes).2.length ≤ bytes.length := by
  fun_induction follow bits ranges bytes with
  | case1 => simp
  | case2 => simp
  | case3 _ _ _ _ _ _ _ ih => simp; omega
  | case4 => simp

theorem length_first_le (b : UInt8) (rest : List UInt8) :
    (first b rest).2.length ≤ rest.length := by
  unfold first
  split
  · exact Nat.le_refl _
  · exact length_follow_le ..

/-- The parts of a byte string; none stands for an ill-formed one. -/
def parts : List UInt8 → List (Option Char)
  | [] => []
  | b :: rest => (first b rest).1 :: parts (first b rest).2
termination_by bytes => bytes.length
decreasing_by
  have := length_first_le b rest
  simp only [List.length_cons]
  omega

/-- The text of a byte string, if it is UTF-8. -/
def decode? (bytes : List UInt8) : Option String := (parts bytes).mapM id |>.map String.ofList

/-- How many bytes stand before the first ill-formed part. -/
def wellFormedLength (bytes : List UInt8) : Nat :=
  ((parts bytes).takeWhile Option.isSome).foldl
    (fun length part => length + (part.getD '\ufffd').utf8Size) 0

/-- The text of a byte string, with U+FFFD for each ill-formed part. -/
def lossy (bytes : List UInt8) : String :=
  String.ofList ((parts bytes).map fun part => part.getD '\ufffd')

end PidOne.Utf8

/-!
# Flags of process descriptors

A set of flags is a word of 32 bits, known or not: what a caller asks for reaches the kernel
unchanged. Union is bitwise or, and a set contains another when it has all its bits.
-/

namespace PidOne

structure PidFdFlags where
  bits : UInt32
  deriving DecidableEq, Repr

namespace PidFdFlags

/-- The bit for descriptors that do not block. -/
def nonblockBits : UInt32 := 2048

def nonblock : PidFdFlags := ⟨nonblockBits⟩

def empty : PidFdFlags := ⟨0⟩

instance : EmptyCollection PidFdFlags := ⟨empty⟩

instance : Inhabited PidFdFlags := ⟨empty⟩

instance : OrOp PidFdFlags := ⟨fun a b => ⟨a.bits ||| b.bits⟩⟩

def contains (flags other : PidFdFlags) : Bool := flags.bits &&& other.bits == other.bits

def debug (flags : PidFdFlags) : String := "PidFdFlags(" ++ toString flags.bits ++ ")"

end PidFdFlags

end PidOne

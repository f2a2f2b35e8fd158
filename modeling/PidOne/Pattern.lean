import PidOne.Pattern.Program
import PidOne.Pattern.Reader

/-!
# Patterns

A pattern says which texts are wanted. It is a text itself, with a shape; two patterns are the same
if they are written in the same way. A text is accepted when the preferred match in it reaches to
its end: what stands before the match does not matter, what stands behind it does.
-/

namespace PidOne

structure Pattern where
  text : String
  shape : Pattern.Shape
  deriving DecidableEq, Repr

namespace Pattern

def read (text : String) : Except Error Pattern :=
  (Shape.read text).map fun shape => ⟨text, shape⟩

def accepts (pattern : Pattern) (text : String) : Bool :=
  (Program.ofShape pattern.shape).accepts text.toList

end Pattern

end PidOne

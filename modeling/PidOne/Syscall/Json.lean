import PidOne.Syscall
import PidOne.Json.Value

/-!
# System calls as JSON

A call is written as its key, a JSON string. It is read from such a string, in any spelling of its
characters, or from an object whose one member has the key and the value `null`.
-/

namespace PidOne.Syscall

open Json

def write (call : Syscall) : String := Quoted.write call.key

/-- The call with a key that has just been read. -/
def ofKey (key : String) (rest : List UInt8) : Except Fault Syscall :=
  match ofKey? key with
  | some call => .ok call
  | none => .error ⟨.unknownVariant key (all.map Syscall.key), rest⟩

/-- Reads the one member of an object after its brace. -/
def readMember (text : List UInt8) : Except Fault (Syscall × List UInt8) :=
  match skipBlank text with
  | [] => .error ⟨.endInObject, []⟩
  | b :: rest =>
    if b == 0x22 then do
      let (key, rest) ← Quoted.read rest
      let call ← ofKey key rest
      let rest ← colon rest
      let rest ← readNull rest
      match skipBlank rest with
      | [] => .error ⟨.endInObject, []⟩
      | b :: after =>
        if b == 0x7d then .ok (call, after) else .error ⟨.expectedValue, b :: after⟩
    else if b == 0x7d then .error ⟨.expectedValue, rest⟩
    else .error ⟨.keyNotString, rest⟩

def readValue (text : List UInt8) : Except Fault (Syscall × List UInt8) :=
  match skipBlank text with
  | [] => .error ⟨.endInValue, []⟩
  | b :: rest =>
    if b == 0x22 then do
      let (key, rest) ← Quoted.read rest
      let call ← ofKey key rest
      return (call, rest)
    else if b == 0x7b then readMember rest
    else .error ⟨.expectedValue, rest⟩

def read (text : List UInt8) : Except ReadError Syscall := readWhole readValue text

end PidOne.Syscall

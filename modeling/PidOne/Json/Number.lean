import PidOne.Json.Fault

/-!
# JSON numbers

`skip` checks the form of a number and passes over it, however large. `read` gives its value as
well: an integer stays whole while it fits into 64 bits, signed when it has a minus. All else
becomes a floating point number made from the first digits that fit into 64 bits and the power of
ten that is left, so a number with many digits may be off in the last bit, and `-0` is a float.
-/

namespace PidOne.Json

namespace Number

def isDigit (b : UInt8) : Bool := 0x30 ≤ b && b ≤ 0x39

def isExponentMark (b : UInt8) : Bool := b == 0x65 || b == 0x45

def skipDigits (text : List UInt8) : List UInt8 := text.dropWhile isDigit

/-- The text after one sign, if it begins with one. -/
def skipSign : List UInt8 → List UInt8
  | [] => []
  | b :: rest => if b == 0x2b || b == 0x2d then rest else b :: rest

def skipExponent (text : List UInt8) : Except Fault (List UInt8) :=
  match skipSign text with
  | [] => .error ⟨.invalidNumber, []⟩
  | b :: rest => if isDigit b then .ok (skipDigits rest) else .error ⟨.invalidNumber, rest⟩

/-- Passes over an exponent, if one begins here. -/
def skipExponent? (text : List UInt8) : Except Fault (List UInt8) :=
  match text with
  | [] => .ok []
  | b :: rest => if isExponentMark b then skipExponent rest else .ok (b :: rest)

/-- Passes over a fraction and an exponent, each only if it begins here. -/
def skipFraction? (text : List UInt8) : Except Fault (List UInt8) :=
  match text with
  | [] => .ok []
  | b :: rest =>
    if b == 0x2e then
      match rest with
      | [] => .error ⟨.invalidNumber, []⟩
      | d :: rest =>
        if isDigit d then skipExponent? (skipDigits rest) else .error ⟨.invalidNumber, rest⟩
    else skipExponent? (b :: rest)

/-- Passes over a number without its minus. A zero in front of another digit is no number. -/
def skip (text : List UInt8) : Except Fault (List UInt8) :=
  match text with
  | [] => .error ⟨.invalidNumber, []⟩
  | b :: rest =>
    if b == 0x30 then
      match rest with
      | [] => .ok []
      | d :: after =>
        if isDigit d then .error ⟨.invalidNumber, after⟩ else skipFraction? (d :: after)
    else if isDigit b then skipFraction? (skipDigits rest)
    else .error ⟨.invalidNumber, rest⟩

theorem length_skipDigits_le (text : List UInt8) : (skipDigits text).length ≤ text.length :=
  (List.dropWhile_sublist isDigit).length_le

theorem length_skipSign_le (text : List UInt8) : (skipSign text).length ≤ text.length := by
  unfold skipSign
  split
  · simp
  · split <;> simp

theorem length_skipExponent_le {text rest : List UInt8} (h : skipExponent text = .ok rest) :
    rest.length ≤ text.length := by
  unfold skipExponent at h
  have hsign := length_skipSign_le text
  split at h
  · cases h
  · next b tail heq =>
    rw [heq] at hsign
    split at h
    · cases h
      have := length_skipDigits_le tail
      simp only [List.length_cons] at hsign
      omega
    · cases h

theorem length_skipExponent?_le {text rest : List UInt8} (h : skipExponent? text = .ok rest) :
    rest.length ≤ text.length := by
  unfold skipExponent? at h
  split at h
  · cases h
    simp
  · split at h
    · have := length_skipExponent_le h
      simp only [List.length_cons]
      omega
    · cases h
      simp

theorem length_skipFraction?_le {text rest : List UInt8} (h : skipFraction? text = .ok rest) :
    rest.length ≤ text.length := by
  unfold skipFraction? at h
  split at h
  · cases h
    simp
  · split at h
    · split at h
      · cases h
      · next d tail =>
        split at h
        · have := length_skipExponent?_le h
          have := length_skipDigits_le tail
          simp only [List.length_cons]
          omega
        · cases h
    · exact length_skipExponent?_le h

theorem length_skip_lt {text rest : List UInt8} (h : skip text = .ok rest) :
    rest.length < text.length := by
  unfold skip at h
  split at h
  · cases h
  · next b tail =>
    split at h
    · split at h
      · cases h
        simp
      · split at h
        · cases h
        · have := length_skipFraction?_le h
          simp only [List.length_cons] at this ⊢
          omega
    · split at h
      · have := length_skipFraction?_le h
        have := length_skipDigits_le tail
        simp only [List.length_cons]
        omega
      · cases h

/-- The greatest significand, 64 bits of ones. -/
def greatest : Nat := Nat.pow 2 64 - 1

/-- Takes digits into the significand while it stays within 64 bits, and counts them. -/
def takeDigits (significand count : Nat) : List UInt8 → Nat × Nat × List UInt8
  | [] => (significand, count, [])
  | b :: rest =>
    if isDigit b && significand * 10 + (b.toNat - 0x30) ≤ greatest then
      takeDigits (significand * 10 + (b.toNat - 0x30)) (count + 1) rest
    else (significand, count, b :: rest)

/-- Divides by the power of ten, in steps of the greatest power there is. -/
def shrink : Nat → Float → Nat → Float
  | 0, value, _ => value
  | fuel + 1, value, power =>
    if power ≤ 308 then value / Float.ofScientific 1 false power
    else if value == 0 then value
    else shrink fuel (value / Float.ofScientific 1 false 308) (power - 308)

/-- The significand times a power of ten, or none when that is beyond the greatest float. -/
def scale? (significand : Nat) (exponent : Int) : Option Float :=
  let value := significand.toUInt64.toFloat
  if exponent < 0 then some (shrink 4 value exponent.natAbs)
  else if exponent ≤ 308 then
    let scaled := value * Float.ofScientific 1 false exponent.toNat
    if scaled.isInf then none else some scaled
  else if significand == 0 then some value
  else none

def signed (positive : Bool) (value : Float) : Number := .float (if positive then value else -value)

/-- Closes a float whose digits have all been read. -/
def finish (positive : Bool) (significand : Nat) (exponent : Int) (rest : List UInt8) :
    Except Fault (Number × List UInt8) :=
  match scale? significand exponent with
  | some value => .ok (signed positive value, rest)
  | none => .error ⟨.numberOutOfRange, rest⟩

def greatestExponent : Nat := Nat.pow 2 31 - 1

/-- Reads the digits of an exponent up to the first one that makes it too large to count, which the
second answer tells. -/
def exponentDigits (exponent : Nat) : List UInt8 → Nat × Bool × List UInt8
  | [] => (exponent, false, [])
  | b :: rest =>
    if isDigit b then
      if greatestExponent < exponent * 10 + (b.toNat - 0x30) then (exponent, true, rest)
      else exponentDigits (exponent * 10 + (b.toNat - 0x30)) rest
    else (exponent, false, b :: rest)

/-- Reads the exponent after its mark and closes the float. -/
def readExponent (positive : Bool) (significand : Nat) (start : Int) (text : List UInt8) :
    Except Fault (Number × List UInt8) :=
  let up := match text with
    | b :: _ => b != 0x2d
    | [] => true
  match skipSign text with
  | [] => .error ⟨.endInValue, []⟩
  | b :: rest =>
    if isDigit b then
      match exponentDigits (b.toNat - 0x30) rest with
      | (exponent, false, rest) =>
        finish positive significand (if up then start + exponent else start - exponent) rest
      | (_, true, rest) =>
        if significand != 0 && up then .error ⟨.numberOutOfRange, rest⟩
        else .ok (signed positive 0, skipDigits rest)
    else .error ⟨.invalidNumber, rest⟩

/-- Reads an exponent, if one begins here, and closes the float. -/
def readExponent? (positive : Bool) (significand : Nat) (start : Int) (text : List UInt8) :
    Except Fault (Number × List UInt8) :=
  match text with
  | [] => finish positive significand start []
  | b :: rest =>
    if isExponentMark b then readExponent positive significand start rest
    else finish positive significand start (b :: rest)

/-- Reads the digits after the point. Those that no longer fit into the significand are dropped. -/
def readFraction (positive : Bool) (significand : Nat) (start : Int) (text : List UInt8) :
    Except Fault (Number × List UInt8) :=
  let (longer, count, rest) := takeDigits significand 0 text
  match count, rest with
  | 0, [] => .error ⟨.endInValue, []⟩
  | 0, b :: after =>
    if isDigit b then readExponent? positive longer start (skipDigits rest)
    else .error ⟨.invalidNumber, after⟩
  | _, _ => readExponent? positive longer (start - count) (skipDigits rest)

/-- Closes a whole number that fits into 64 bits, or a float when its negative does not. -/
def ofInteger (positive : Bool) (significand : Nat) : Number :=
  if positive then .whole significand
  else if significand == 0 || Nat.pow 2 63 < significand then signed false significand.toUInt64.toFloat
  else .whole (-significand)

def read (positive : Bool) (text : List UInt8) : Except Fault (Number × List UInt8) :=
  match text with
  | [] => .error ⟨.endInValue, []⟩
  | b :: rest =>
    if !isDigit b then .error ⟨.invalidNumber, rest⟩
    else
      let zero := b == 0x30
      match zero, rest with
      | true, d :: after =>
        if isDigit d then .error ⟨.invalidNumber, after⟩ else tail positive 0 false (d :: after)
      | true, [] => tail positive 0 false []
      | false, _ =>
        let (significand, _, after) := takeDigits (b.toNat - 0x30) 0 rest
        let long := match after with
          | d :: _ => isDigit d
          | [] => false
        tail positive significand long after
where
  /-- Reads what follows the digits that fit; `long` tells that there are digits that do not. -/
  tail (positive : Bool) (significand : Nat) (long : Bool) (text : List UInt8) :
      Except Fault (Number × List UInt8) :=
    let rest := skipDigits text
    let dropped : Int := text.length - rest.length
    match rest with
    | [] =>
      if long then finish positive significand dropped []
      else .ok (ofInteger positive significand, [])
    | b :: after =>
      if b == 0x2e then readFraction positive significand dropped after
      else if isExponentMark b then readExponent positive significand dropped after
      else if long then finish positive significand dropped rest
      else .ok (ofInteger positive significand, rest)

end Number

end PidOne.Json

import PidOne.Json.Fault
import PidOne.Text.Utf8

/-!
# JSON strings

A string stands between double quotes. `write` escapes the quote, the backslash and the control
characters and leaves all else as it is. `read` takes any escape, wants UTF-8 and whole surrogate
pairs, and refuses bare control characters. `skip` passes over a string that nobody asked for: it
looks at no code point, so it takes bytes that are not UTF-8 and halves of surrogate pairs, and it
does not read the control character that it refuses.
-/

namespace PidOne.Json.Quoted

/-- The character a one letter escape stands for. -/
def short? (b : UInt8) : Option Char :=
  if b == 0x22 then some '"'
  else if b == 0x5c then some '\\'
  else if b == 0x2f then some '/'
  else if b == 0x62 then some '\x08'
  else if b == 0x66 then some '\x0c'
  else if b == 0x6e then some '\n'
  else if b == 0x72 then some '\r'
  else if b == 0x74 then some '\t'
  else none

def hexDigit? (b : UInt8) : Option Nat :=
  if 0x30 ≤ b && b ≤ 0x39 then some (b.toNat - 0x30)
  else if 0x61 ≤ b && b ≤ 0x66 then some (b.toNat - 0x57)
  else if 0x41 ≤ b && b ≤ 0x46 then some (b.toNat - 0x37)
  else none

def hex? (a b c d : UInt8) : Option Nat :=
  match hexDigit? a, hexDigit? b, hexDigit? c, hexDigit? d with
  | some a, some b, some c, some d => some (((a * 16 + b) * 16 + c) * 16 + d)
  | _, _, _, _ => none

def unit : List UInt8 → Except Fault (Nat × List UInt8)
  | a :: b :: c :: d :: rest =>
    match hex? a b c d with
    | some n => .ok (n, rest)
    | none => .error ⟨.invalidEscape, rest⟩
  | _ => .error ⟨.endInString, []⟩

/-- Reads the second half of a surrogate pair, escape and all, and gives the character. -/
def secondHalf (high : Nat) : List UInt8 → Except Fault (Char × List UInt8)
  | [] => .error ⟨.endInString, []⟩
  | b :: rest =>
    if b != 0x5c then .error ⟨.unfinishedPair, rest⟩
    else match rest with
      | [] => .error ⟨.endInString, []⟩
      | u :: rest =>
        if u != 0x75 then .error ⟨.unfinishedPair, rest⟩
        else match unit rest with
          | .error fault => .error fault
          | .ok (low, rest) =>
            if 0xdc00 ≤ low && low ≤ 0xdfff then
              .ok (Char.ofNat ((high - 0xd800) * 0x400 + (low - 0xdc00) + 0x10000), rest)
            else .error ⟨.loneSurrogate, rest⟩

def escape : List UInt8 → Except Fault (Char × List UInt8)
  | [] => .error ⟨.endInString, []⟩
  | b :: rest =>
    match short? b with
    | some c => .ok (c, rest)
    | none =>
      if b != 0x75 then .error ⟨.invalidEscape, rest⟩
      else match unit rest with
        | .error fault => .error fault
        | .ok (n, rest) =>
          if 0xdc00 ≤ n && n ≤ 0xdfff then .error ⟨.loneSurrogate, rest⟩
          else if 0xd800 ≤ n && n ≤ 0xdbff then secondHalf n rest
          else .ok (Char.ofNat n, rest)

theorem length_unit {text : List UInt8} {n : Nat} {rest : List UInt8}
    (h : unit text = .ok (n, rest)) : rest.length < text.length := by
  unfold unit at h
  split at h
  · split at h
    · cases h
      simp only [List.length_cons]
      omega
    · cases h
  · cases h

theorem length_secondHalf {high : Nat} {text : List UInt8} {c : Char} {rest : List UInt8}
    (h : secondHalf high text = .ok (c, rest)) : rest.length < text.length := by
  unfold secondHalf at h
  split at h
  · cases h
  · split at h
    · cases h
    · split at h
      · cases h
      · split at h
        · cases h
        · split at h
          · cases h
          · next hunit =>
            split at h
            · obtain ⟨_, rfl⟩ := Prod.mk.inj (Except.ok.inj h)
              have := length_unit hunit
              simp only [List.length_cons]
              omega
            · cases h

theorem length_escape {text : List UInt8} {c : Char} {rest : List UInt8}
    (h : escape text = .ok (c, rest)) : rest.length < text.length := by
  unfold escape at h
  split at h
  · cases h
  · split at h
    · cases h
      simp
    · split at h
      · cases h
      · split at h
        · cases h
        · next hunit =>
          have := length_unit hunit
          split at h
          · cases h
          · split at h
            · have := length_secondHalf h
              simp only [List.length_cons]
              omega
            · obtain ⟨_, rfl⟩ := Prod.mk.inj (Except.ok.inj h)
              simp only [List.length_cons]
              omega

/-- The bytes that a string denotes, read up to its closing quote, after those of `before`, the last
one first. -/
def readBody (before : List UInt8) (text : List UInt8) : Except Fault (List UInt8 × List UInt8) :=
  match text with
  | [] => .error ⟨.endInString, []⟩
  | b :: rest =>
    if b == 0x22 then .ok (before.reverse, rest)
    else if b == 0x5c then
      match h : escape rest with
      | .error fault => .error fault
      | .ok (c, after) =>
        have := length_escape h
        readBody ((String.utf8EncodeChar c).reverse ++ before) after
    else if b < 0x20 then .error ⟨.controlCharacter, rest⟩
    else readBody (b :: before) rest
termination_by text.length
decreasing_by all_goals simp_wf; try omega

/-- Reads a string after its opening quote. That it is UTF-8 is checked once it is closed. A fault
found then is placed from the end: as many bytes before it as the ill-formed part and what the
string denotes after it take. -/
def read (text : List UInt8) : Except Fault (String × List UInt8) :=
  match readBody [] text with
  | .error fault => .error fault
  | .ok (bytes, rest) =>
    match Utf8.decode? bytes with
    | some s => .ok (s, rest)
    | none =>
      let amiss := bytes.length - Utf8.wellFormedLength bytes
      .error ⟨.invalidCodePoint, text.drop (text.length - rest.length - amiss)⟩

theorem length_readBody (before text : List UInt8) {bytes rest : List UInt8}
    (h : readBody before text = .ok (bytes, rest)) : rest.length < text.length := by
  fun_induction readBody before text with
  | case1 => cases h
  | case2 => cases h; simp
  | case3 => cases h
  | case4 before b tail _ _ c after hescape hlength ih =>
    have := ih h
    simp only [List.length_cons]
    omega
  | case5 => cases h
  | case6 before b tail _ _ _ ih =>
    have := ih h
    simp only [List.length_cons]
    omega

theorem length_read {text : List UInt8} {s : String} {rest : List UInt8}
    (h : read text = .ok (s, rest)) : rest.length < text.length := by
  unfold read at h
  split at h
  · cases h
  · next hbody =>
    split at h
    · cases h
      exact length_readBody [] text hbody
    · cases h

def skipEscape : List UInt8 → Except Fault (List UInt8)
  | [] => .error ⟨.endInString, []⟩
  | b :: rest =>
    if (short? b).isSome then .ok rest
    else if b != 0x75 then .error ⟨.invalidEscape, rest⟩
    else (unit rest).map Prod.snd

theorem length_skipEscape {text rest : List UInt8} (h : skipEscape text = .ok rest) :
    rest.length < text.length := by
  unfold skipEscape at h
  split at h
  · cases h
  · split at h
    · cases h
      simp
    · split at h
      · cases h
      · next b tail _ _ =>
        cases hunit : unit tail with
        | error fault => rw [hunit] at h; cases h
        | ok found =>
          rw [hunit] at h
          cases h
          have := length_unit hunit
          simp only [List.length_cons]
          omega

/-- Passes over a string after its opening quote. -/
def skip (text : List UInt8) : Except Fault (List UInt8) :=
  match text with
  | [] => .error ⟨.endInString, []⟩
  | b :: rest =>
    if b == 0x22 then .ok rest
    else if b == 0x5c then
      match h : skipEscape rest with
      | .error fault => .error fault
      | .ok after =>
        have := length_skipEscape h
        skip after
    else if b < 0x20 then .error ⟨.controlCharacter, b :: rest⟩
    else skip rest
termination_by text.length
decreasing_by
  · simp_wf
    omega
  · simp_wf

theorem length_skip {text rest : List UInt8} (h : skip text = .ok rest) :
    rest.length < text.length := by
  fun_induction skip text with
  | case1 => cases h
  | case2 => cases h; simp
  | case3 => cases h
  | case4 b tail _ _ after hescape hlength ih =>
    have := ih h
    simp only [List.length_cons]
    omega
  | case5 => cases h
  | case6 b tail _ _ _ ih =>
    have := ih h
    simp only [List.length_cons]
    omega

def digit (n : Nat) : Char := if n < 10 then Char.ofNat (0x30 + n) else Char.ofNat (0x57 + n)

def writeChar (c : Char) : List Char :=
  match c with
  | '"' => ['\\', '"']
  | '\\' => ['\\', '\\']
  | '\x08' => ['\\', 'b']
  | '\t' => ['\\', 't']
  | '\n' => ['\\', 'n']
  | '\x0c' => ['\\', 'f']
  | '\r' => ['\\', 'r']
  | c =>
    if c.toNat < 0x20 then ['\\', 'u', '0', '0', digit (c.toNat / 16), digit (c.toNat % 16)]
    else [c]

def write (text : String) : String :=
  String.ofList ('"' :: text.toList.flatMap writeChar ++ ['"'])

end PidOne.Json.Quoted

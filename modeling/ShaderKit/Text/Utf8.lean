/-!
# Decoding UTF-8

`Text.decodeUtf8` reads a byte sequence as UTF-8 text.  A malformed sequence is described by the index
at which the well-formed part ends and by the number of bytes that are certainly wrong there; the
number is missing where the bytes end inside a character.
-/

namespace ShaderKit.Text

/-- Where and how a byte sequence stops being UTF-8. -/
structure Utf8Error where
  /-- Length of the well-formed part. -/
  validUpTo : Nat
  /-- Bytes of the wrong sequence, or none if more bytes could have completed it. -/
  wrongBytes : Option Nat
  deriving DecidableEq

/-- The text of a failure. -/
def Utf8Error.message (e : Utf8Error) : String :=
  match e.wrongBytes with
  | some n => s!"invalid utf-8 sequence of {n} bytes from index {e.validUpTo}"
  | none => s!"incomplete utf-8 byte sequence from index {e.validUpTo}"

/-- One character with the number of its bytes, or the number of wrong bytes if it is known. -/
abbrev Utf8Step := Except (Option Nat) (Nat × Nat)

/-- The byte goes on with a character. -/
private def isContinuation (b : UInt8) : Bool := 0x80 ≤ b && b ≤ 0xbf

/-- What a continuation byte adds to its character. -/
private def low6 (b : UInt8) : Nat := b.toNat % 64

/-- Reads the remaining bytes of a character whose first byte is `first`.  The second byte of the
longer forms has a range of its own, which excludes overlong forms, surrogates and values over the
last code point. -/
def utf8Tail (first : UInt8) (rest : List UInt8) : Utf8Step :=
  if first < 0x80 then .ok (first.toNat, 1)
  else if first < 0xc2 then .error (some 1)
  else if first ≤ 0xdf then
    match rest with
    | [] => .error none
    | b :: _ =>
      if isContinuation b then .ok ((first.toNat - 0xc0) * 64 + low6 b, 2) else .error (some 1)
  else if first ≤ 0xef then
    let lowest : UInt8 := if first = 0xe0 then 0xa0 else 0x80
    let highest : UInt8 := if first = 0xed then 0x9f else 0xbf
    match rest with
    | [] => .error none
    | b :: rest =>
      if b < lowest || highest < b then .error (some 1)
      else match rest with
        | [] => .error none
        | c :: _ =>
          if isContinuation c then
            .ok ((first.toNat - 0xe0) * 4096 + low6 b * 64 + low6 c, 3)
          else .error (some 2)
  else if first ≤ 0xf4 then
    let lowest : UInt8 := if first = 0xf0 then 0x90 else 0x80
    let highest : UInt8 := if first = 0xf4 then 0x8f else 0xbf
    match rest with
    | [] => .error none
    | b :: rest =>
      if b < lowest || highest < b then .error (some 1)
      else match rest with
        | [] => .error none
        | c :: rest =>
          if !isContinuation c then .error (some 2)
          else match rest with
            | [] => .error none
            | d :: _ =>
              if isContinuation d then
                .ok ((first.toNat - 0xf0) * 262144 + low6 b * 4096 + low6 c * 64 + low6 d, 4)
              else .error (some 3)
  else .error (some 1)

/-- Decodes character by character; `skip` bytes belong to a character already read, and `index` is
the number of bytes seen. -/
def decodeUtf8From (index skip : Nat) : List UInt8 → Except Utf8Error (List Char)
  | [] => .ok []
  | b :: rest =>
    match skip with
    | skip + 1 => decodeUtf8From (index + 1) skip rest
    | 0 =>
      match utf8Tail b rest with
      | .error wrongBytes => .error ⟨index, wrongBytes⟩
      | .ok (code, size) => do
        return Char.ofNat code :: (← decodeUtf8From (index + 1) (size - 1) rest)

/-- The text with this UTF-8 encoding. -/
def decodeUtf8 (bytes : List UInt8) : Except Utf8Error String :=
  String.ofList <$> decodeUtf8From 0 0 bytes

end ShaderKit.Text

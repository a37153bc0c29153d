import ShaderKit.Spirv.Reader
import ShaderKit.Validation.Report

/-!
# Checking the header

The five words before the instructions.  A header that cannot be recognised ends the check; otherwise
each word is looked at by itself.
-/

namespace ShaderKit.Validation

open Spirv (Word)

/-- Highest minor version, of major version 1, that is accepted. -/
def maxMinorVersion : Nat := 3

/-- Hexadecimal digits after `0x`, at least `width` of them. -/
def hexText (width : Nat) (w : Word) : String :=
  let digits := Nat.toDigits 16 w.toNat
  "0x" ++ String.ofList (List.replicate (width - digits.length) '0' ++ digits)

/-- The first part of a version number. -/
def majorVersion (version : Word) : Nat := version.toNat / 65536 % 256

/-- The second part of a version number. -/
def minorVersion (version : Word) : Nat := version.toNat / 256 % 256

/-- The version is one of those that the target knows. -/
def versionIsAccepted (version : Word) : Bool :=
  majorVersion version == 1 && minorVersion version ≤ maxMinorVersion

/-- The text for a version that is not accepted. -/
def versionMessage (version : Word) : String :=
  let found := s!"{majorVersion version}.{minorVersion version}"
  s!"SPIR-V version {found} is not valid for the Vulkan 1.1 target (maximum 1.{maxMinorVersion})"

/-- What is wrong or odd about the header. -/
def headerReport (words : List Word) : Report :=
  match words with
  | magic :: version :: generator :: bound :: schema :: _ =>
    if magic = Spirv.swappedMagicNumber then
      .error (some 0) "module has the wrong endianness"
    else if magic ≠ Spirv.magicNumber then
      .error (some 0) s!"invalid magic number {hexText 8 magic}"
    else
      .when (!versionIsAccepted version) (.error (some 1) (versionMessage version))
        ++ .when (generator == 0)
          (.info (some 2) "generator magic number is unregistered (0)")
        ++ .when (bound == 0) (.error (some 3) "id bound must be non-zero")
        ++ .when (schema != 0)
          (.warning (some 4) s!"reserved schema word is {hexText 0 schema}, expected 0")
  | short =>
    .error none s!"module of {short.length} words is too short to hold a SPIR-V header"

end ShaderKit.Validation

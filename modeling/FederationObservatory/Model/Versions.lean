import FederationObservatory.Foundation.Bounds

/-!
# Versions

`parse_version` (`capability.cpp`): the components of a dotted version.
-/

namespace FederationObservatory

namespace Version

/-- The loop over the characters of a component. -/
def parseDigits (piece : Text) (value : UInt64) : Text → Result UInt64
  | [] => .ok value
  | c :: rest => do
    failIf (c < 48 || 57 < c) .invalidArgument "non-numeric version component" piece
    let value := value * 10 + (c - 48).toUInt64
    failIf (decide (0xFFFFFFFF < value)) .boundExceeded "version component out of range" piece
    parseDigits piece value rest

/-- The loop over the pieces between the dots: `parts` were read before. -/
def parseParts (text : Text) (parts : List UInt32) : List Text → Result (List UInt32)
  | [] => .ok parts
  | piece :: pieces => do
    failIf piece.isEmpty .invalidArgument "empty version component" text
    let value ← parseDigits piece 0 piece
    let parts := parts ++ [value.toUInt32]
    failIf (decide (8 < parts.length)) .boundExceeded "version has too many components" text
    parseParts text parts pieces

/-- `parse_version`. -/
def parse (text : Text) : Result (List UInt32) := do
  failIf text.isEmpty .invalidArgument "empty version string"
  parseParts text [] (text.splitOn 46)

end Version

end FederationObservatory

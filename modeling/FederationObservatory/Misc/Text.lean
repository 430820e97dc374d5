import Mathlib

/-!
# Byte strings

`std::string` is a sequence of bytes with no encoding attached: it may hold NUL bytes and
bytes above 127, it is compared byte by byte as unsigned values, and its size is its number of
bytes. `Text` is that sequence. Literals go through their UTF-8 bytes.
-/

/-- A byte string. -/
abbrev Text := List UInt8

namespace Text

instance : LawfulBEq Text := inferInstance

/-- The bytes of a literal. -/
def ofString (s : String) : Text := s.toUTF8.data.toList

/-- Decimal digits of a natural number, as `std::to_string` writes them. -/
def ofNat (n : Nat) : Text := ofString (toString n)

/-- `truncate_with_marker`: keep at most `maxBytes` bytes, and say so with three dots when
    there is room for them. -/
def truncateWithMarker (text : Text) (maxBytes : Nat) : Text :=
  if text.length ≤ maxBytes then text
  else if maxBytes ≤ 3 then text.take maxBytes
  else text.take (maxBytes - 3) ++ ofString "..."

theorem length_truncateWithMarker_le (text : Text) (maxBytes : Nat) :
    (truncateWithMarker text maxBytes).length ≤ maxBytes := by
  have hdots : (ofString "...").length = 3 := by decide
  unfold truncateWithMarker
  split
  · assumption
  · split
    · simp
    · simp only [List.length_append, List.length_take, hdots]
      omega

theorem truncateWithMarker_of_le {text : Text} {maxBytes : Nat} (h : text.length ≤ maxBytes) :
    truncateWithMarker text maxBytes = text := if_pos h

theorem truncateWithMarker_idem (text : Text) (maxBytes : Nat) :
    truncateWithMarker (truncateWithMarker text maxBytes) maxBytes =
      truncateWithMarker text maxBytes :=
  truncateWithMarker_of_le (length_truncateWithMarker_le text maxBytes)

/-- FNV-1a over the bytes, in 64-bit wrapping arithmetic. -/
def fnv1a64 (text : Text) : UInt64 :=
  text.foldl (fun hash c => (hash ^^^ c.toUInt64) * 1099511628211) 14695981039346656037

/-- One lower-case hexadecimal digit. -/
def hexDigit (n : UInt64) : UInt8 :=
  if n < 10 then 48 + n.toUInt8 else 87 + n.toUInt8

/-- Sixteen hexadecimal digits, most significant first. -/
def hexDigest64 (value : UInt64) : Text :=
  (List.range 16).map fun i => hexDigit ((value >>> (4 * (15 - i)).toUInt64) &&& 0xF)

/-- `digest_text`: the fingerprint of a rendering. -/
def digest (text : Text) : Text := hexDigest64 (fnv1a64 text)

/-- `count` copies of one byte. -/
def repeated (count : Nat) (c : UInt8) : Text := List.replicate count c

/-- Drop the trailing blanks of a line. -/
def trimRight (line : Text) : Text := (line.reverse.dropWhile (· == 32)).reverse

/-! ## Tables -/

/-- Column widths of a table: the widest of the header and the cells. -/
def columnWidths (headers : List Text) (rows : List (List Text)) : List Nat :=
  rows.foldl
    (fun widths row => widths.zipIdx.map fun (w, i) => max w ((row[i]?.map List.length).getD 0))
    (headers.map List.length)

/-- One line of a table: every cell but the last column is padded to its width plus two, and
    trailing blanks are removed. -/
def emitRow (indent : Text) (widths : List Nat) (row : List Text) : Text :=
  trimRight <| indent ++ (widths.zipIdx.flatMap fun (w, i) =>
    let cell := row[i]?.getD []
    if i + 1 < widths.length then cell ++ repeated (w - cell.length + 2) 32 else cell)

/-- The line of dashes under the header. -/
def emitSeparator (indent : Text) (widths : List Nat) : Text :=
  indent ++ (widths.zipIdx.flatMap fun (w, i) =>
    if i + 1 < widths.length then repeated w 45 ++ repeated 2 32 else repeated w 45)

/-- `render_table`: header, separator, rows. -/
def renderTable (headers : List Text) (rows : List (List Text)) (indent : Text) : Text :=
  let widths := columnWidths headers rows
  emitRow indent widths headers ++ [10] ++ emitSeparator indent widths ++
    rows.flatMap fun row => 10 :: emitRow indent widths row

end Text

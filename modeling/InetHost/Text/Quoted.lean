import InetHost.Text.Digits
import InetHost.Text.Printable

/-!
# Quoted text

Text and byte strings as they stand between double quotes in a message. A quote and a backslash are
escaped by a backslash and the usual blanks have a letter of their own.

* `quoted`: text, characters that are not printable by their code point;
* `quotedBytes`: bytes, those outside printable ASCII as two hexadecimal digits.
-/

namespace InetHost.Text

/-- The escapes that text and bytes share. -/
def shortEscape? (n : Nat) : Option String :=
  match n with
  | 0 => some "\\0"
  | 9 => some "\\t"
  | 10 => some "\\n"
  | 13 => some "\\r"
  | 34 => some "\\\""
  | 92 => some "\\\\"
  | _ => none

/-- A character between the quotes. -/
def escapeChar (c : Char) : String :=
  match shortEscape? c.toNat with
  | some e => e
  | none => if printable c then c.toString else "\\u\x7b" ++ hex 1 c.toNat ++ "\x7d"

/-- Text between quotes. -/
def quoted (s : String) : String := "\"" ++ String.join (s.toList.map escapeChar) ++ "\""

/-- A byte between the quotes. -/
def escapeByte (x : UInt8) : String :=
  match shortEscape? x.toNat with
  | some e => e
  | none =>
    if x.toNat < 32 ∨ 127 ≤ x.toNat then "\\x" ++ hex 2 x.toNat
    else (Char.ofNat x.toNat).toString

/-- Bytes between quotes, marked as bytes. -/
def quotedBytes (b : Bytes) : String := "b\"" ++ String.join (b.map escapeByte) ++ "\""

end InetHost.Text

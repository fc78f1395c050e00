/-
**Bytes as characters.**

File names, shell scripts and everything a shell computes with are bytes.  They are held here as
characters, each byte as the character of its number, so that they can be compared with letters and
signs; what is written out is turned into bytes again.
-/
import AssemblyGate.Text.Utf8

set_option autoImplicit false

namespace AssemblyGate

/-- Bytes, each written as the character of its number. -/
abbrev ByteText := List Char

namespace ByteText

/-- The characters of bytes. -/
def ofBytes (bytes : Bytes) : ByteText := bytes.map fun b => Char.ofNat b.toNat

/-- The bytes of characters. -/
def toBytes (text : ByteText) : Bytes := text.map fun c => UInt8.ofNat c.toNat

/-- The bytes of a text. -/
def ofString (s : String) : ByteText := ofBytes (Utf8.encode s.toList)

/-- The text of bytes, as far as it is text. -/
def toString (text : ByteText) : String := String.ofList (Utf8.decodeLossy text.toBytes)

/-- The texts between the occurrences of a character. -/
def split (mark : Char) (text : ByteText) : List ByteText :=
  let (last, done) := text.reverse.foldl
    (fun (current, done) c => if c = mark then ([], current :: done) else (c :: current, done))
    (([] : ByteText), ([] : List ByteText))
  last :: done

/-- The lines of a text; a line feed at the end begins no further line. -/
def lines (text : ByteText) : List ByteText :=
  match (split '\n' text).reverse with
  | [] :: rest => rest.reverse
  | all => all.reverse

end ByteText

end AssemblyGate

/-!
# Reading and writing character by character

Most charsets read a text piece by piece: some bytes stand for some characters, whatever came
before.  `decodeWith` repeats such a step to the end of the bytes and fails where the step fails;
`encodeWith` writes every character on its own.
-/

set_option autoImplicit false

namespace JavaFormat.Charset

/-- One step of reading: from the first byte and those after it, the characters that they begin
with, and how many bytes after the first belong to them. -/
abbrev Reader := UInt8 → List UInt8 → Option (List Char × Nat)

/-- One step of writing: the bytes of a character. -/
abbrev Writer := Char → Option (List UInt8)

/-- The characters of some bytes, after those of `read`, which are in reverse. -/
def decodeInto (reader : Reader) (read : List Char) : List UInt8 → Option (List Char)
  | [] => some read.reverse
  | b :: rest =>
    match reader b rest with
    | none => none
    | some (cs, used) => decodeInto reader (cs.reverse ++ read) (rest.drop used)
termination_by bytes => bytes.length
decreasing_by simp only [List.length_drop, List.length_cons]; omega

/-- The characters of some bytes. -/
def decodeWith (reader : Reader) (bytes : List UInt8) : Option (List Char) :=
  decodeInto reader [] bytes

/-- The bytes of some characters. -/
def encodeWith (writer : Writer) (cs : List Char) : Option (List UInt8) :=
  (cs.mapM writer).map List.flatten

/-- The character with a code below 0x80, or any other as a byte stands for it. -/
def charOfByte (b : UInt8) : Char := Char.ofNat b.toNat

end JavaFormat.Charset

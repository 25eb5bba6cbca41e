import Foundry.Text.Encoding

/-!
Codecs: what files hold of texts, and the texts of files. Which names codecs have and what they do
is a table from outside; the encodings of this library are one such table.
-/

namespace Foundry.Text

/-- A codec by what it does to whole files: the bytes of a file a text is written to, and the text
of a file with some bytes. -/
structure Codec where
  encode : String → Except CodecError (List UInt8)
  decode : List UInt8 → Except CodecError String

/-- What is raised for a name that no codec has. -/
structure NoCodec where
  kind : String
  message : String
deriving DecidableEq, Repr

/-- Codecs by their names. -/
abbrev Codecs := String → Except NoCodec Codec

def Encoding.toCodec (e : Encoding) : Codec :=
  ⟨e.encode, e.decode⟩

/-- The encodings of this library, in all their spellings. -/
def Encoding.codecs : Codecs := fun name =>
  match ofName? name with
  | some e => .ok e.toCodec
  | none => .error ⟨"LookupError", unknownMessage name⟩

end Foundry.Text

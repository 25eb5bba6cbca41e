import Foundry.Coercion
import Foundry.Source.Loading
import Foundry.Text.Codec

/-!
The platform of a run: the codecs there are, the words of its parser, and the library that reads
settings.
-/

namespace Foundry

structure Platform where
  coercions : Coercions
  codecs : Text.Codecs
  wording : Source.Wording

/-- The usual coercions and the encodings of this library, with a parser's words. -/
def Platform.usual (wording : Source.Wording) : Platform :=
  ⟨.lax, Text.Encoding.codecs, wording⟩

end Foundry

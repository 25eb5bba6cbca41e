import Foundry.Discovery.Sources
import Foundry.Source.Description
import Foundry.Source.Reading
import Foundry.Text.Codec

/-!
Loading source modules from files. A file that does not parse is set aside with what the parser
says about it; a file that cannot be read or decoded stops the loading.
-/

namespace Foundry.Source

open Foundry.Text

/-- What the parser says about a text it refuses, and the line it says it about, if there is one. -/
structure SyntaxFault where
  message : String
  line : Option Nat
deriving DecidableEq, Repr

/-- The words of the parser for texts that are no modules. They are its own. -/
abbrev Wording := List Char → String

/-- The statements of a text. One with a null character is refused before it is looked at. -/
def parseText (wording : Wording) (cs : List Char) : Except SyntaxFault (List Stmt) :=
  if cs.contains (Char.ofNat 0) then
    .error ⟨"source code string cannot contain null bytes", none⟩
  else (parse cs).mapError fun line => ⟨wording cs, some line⟩

/-- An index with the files that were set aside. -/
structure Loaded where
  index : Index
  errors : List (Path × SyntaxFault)

/-- The text of a source file with its line ends made equal. -/
def readSource (t : FileTree) (codec : Except NoCodec Codec) (p : Path) :
    Except Fault (List Char) :=
  match t.read p with
  | .error f => .error (.file f)
  | .ok bytes =>
    match codec with
    | .error missing => .error (.noCodec missing)
    | .ok k =>
      match k.decode bytes with
      | .error c => .error (.codec c)
      | .ok s => .ok (unifyLineEnds s.toList)

/-- Reads and parses one file after the other. -/
def loadFiles (wording : Wording) (t : FileTree) (codec : Except NoCodec Codec) :
    List (String × Path) → List Module → List (Path × SyntaxFault) →
      Except Fault (List Module × List (Path × SyntaxFault))
  | [], modules, errors => .ok (modules, errors)
  | (name, p) :: rest, modules, errors =>
    match readSource t codec p with
    | .error f => .error f
    | .ok cs =>
      match parseText wording cs with
      | .error e => loadFiles wording t codec rest modules (errors ++ [(p, e)])
      | .ok body => loadFiles wording t codec rest (modules ++ [Module.make name p body]) errors

/-- The index of the sources under a list of roots. -/
def load (wording : Wording) (t : FileTree) (roots : List Path) (annotationNames : List String)
    (codec : Except NoCodec Codec) : Except Fault Loaded :=
  match loadFiles wording t codec (Discovery.findSources t roots).modules [] [] with
  | .error f => .error f
  | .ok (modules, errors) =>
    (Index.make modules annotationNames).map fun x => ⟨x, errors⟩

end Foundry.Source

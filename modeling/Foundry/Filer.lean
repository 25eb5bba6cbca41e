import Foundry.FileTree
import Foundry.Name.Dotted
import Foundry.Ordered

/-!
Writing generated modules: each at most once in a pass, and either whole or not at all. The text
goes to a temporary file beside the final one, which is then replaced.
-/

namespace Foundry

open Foundry.Text

/-- Where modules are written, by which codec, if there is one, and which were written since the
last reset. -/
structure Filer where
  outputDir : Path
  codec : Except NoCodec Codec
  written : Ordered String Path

namespace Filer

def make (outputDir : Path) (codec : Except NoCodec Codec) : Filer :=
  ⟨outputDir, codec, Ordered.empty⟩

/-- The path of a module: a directory for each package, and a file with the extension `.py`. -/
def pathFor (f : Filer) (module : String) : Except Rejection Path :=
  if Name.isDotted module then
    let parts := segments module
    .ok (f.outputDir.append ⟨"", parts.dropLast ++ [parts.getLastD "" ++ ".py"]⟩)
  else .error (.invalidModule module)

/-- The name of the temporary file beside a module file. -/
def temporaryName (p : Path) : String :=
  let stem := String.ofList (p.name.toList.take (p.name.toList.length - 3))
  "." ++ stem ++ ".<tmp>.tmp"

/-- Bytes the unspoken part of a temporary name has more than its stand-in. -/
def temporarySlack : Nat := 3

/-- Bytes of a text by a codec, if there is one. -/
def encodeAs (codec : Except NoCodec Codec) (text : String) : Except Fault Bytes :=
  match codec with
  | .error p => .error (.noCodec p)
  | .ok k => (k.encode text).mapError .codec

/-- Puts a text at a path: directories, temporary file, encoding, replacement. A failure leaves at
most new directories behind. -/
def place (codec : Except NoCodec Codec) (p : Path) (text : String) (t : FileTree) :
    Except Fault Unit × FileTree :=
  let refuse := fun (f : FileFault) => Except.error (Fault.rejected (.notWritten p f.message))
  match t.makeDirs (p.parts.length + 1) p.parent with
  | .error (f, t) => (refuse f, t)
  | .ok t =>
    let temporary := p.parent.child (temporaryName p)
    if temporary.name.utf8ByteSize + temporarySlack > FileTree.maxNameBytes then
      (refuse ⟨.nameTooLong, temporary.text, none⟩, t)
    else
      match encodeAs codec text with
      | .error e => (.error e, t)
      | .ok bytes =>
        match t.writeFile p bytes with
        | .ok t => (.ok (), t)
        | .error problem => (refuse ⟨problem, temporary.text, some p.text⟩, t)

/-- Writes a module. -/
def write (f : Filer) (module text : String) (t : FileTree) :
    Except Fault Path × Filer × FileTree :=
  match f.pathFor module with
  | .error r => (.error (.rejected r), f, t)
  | .ok p =>
    if f.written.contains module then (.error (.rejected (.alreadyWritten module p)), f, t)
    else
      match place f.codec p text t with
      | (.error e, t) => (.error e, f, t)
      | (.ok (), t) => (.ok p, { f with written := f.written.insert module p }, t)

def reset (f : Filer) : Filer :=
  { f with written := Ordered.empty }

end Filer

end Foundry

import Foundry.Filer

/-!
Writing a module step by step while the operating system may refuse any of the steps: directories
are made, a temporary file is created, opened, filled and closed, and the final file is replaced by
it. When a step fails after the temporary file was created, that file is removed.
-/

namespace Foundry

open Foundry.Text

namespace FileTree

def remove (t : FileTree) (place : List String) : FileTree :=
  ⟨t.nodes.erase place⟩

/-- Moves what lies at a place to a path, where it takes the place of a file. -/
def replace (t : FileTree) (source : List String) (p : Path) : Except FileProblem FileTree :=
  match t.at? source, t.locate p with
  | none, _ => .error .missing
  | _, .error problem => .error problem
  | some n, .ok place =>
    match t.at? place with
    | some none => .error .isDirectory
    | _ => .ok ((t.remove source).put place n)

end FileTree

/-- Why a directory cannot be made: the one above it is missing, or there is another reason. -/
inductive Refusal
  | missing
  | other (reason : String)

/-- What the outside does to one write: the names it draws for the temporary file, and the
operations it refuses, each with the text of its error. Operations on directories are told apart by
their path and by whether they come after the directories above were made. The temporary file may
have some bytes already when the rest of them is refused. -/
structure Outside where
  draws : List String
  mkdir : Path → Bool → Option Refusal
  stat : Path → Bool → Option String
  create : Option String
  opening : Option String
  fill : Option (Nat × String)
  close : Option String
  replace : Option String
  removal : Option String

/-- Nothing is refused, and the first name that is drawn has to do. -/
def Outside.calm (drawn : String) : Outside :=
  ⟨[drawn], fun _ _ => none, fun _ _ => none, none, none, none, none, none, none⟩

namespace Filer

/-- The name of the temporary file beside a module file, when its unspoken part is drawn. -/
def drawnName (p : Path) (drawn : String) : String :=
  let stem := String.ofList (p.name.toList.take (p.name.toList.length - 3))
  "." ++ stem ++ "." ++ drawn ++ ".tmp"

end Filer

namespace Outside

def missingMessage (p : Path) : String :=
  FileFault.message ⟨.missing, p.text, none⟩

def makeDir (o : Outside) (again : Bool) (t : FileTree) (p : Path) : Except Refusal FileTree :=
  match o.mkdir p again with
  | some r => .error r
  | none =>
    match t.makeDir p with
    | .ok t => .ok t
    | .error .missing => .error .missing
    | .error problem => .error (.other (FileFault.message ⟨problem, p.text, none⟩))

/-- A directory that could not be made may be there already. -/
def settle (o : Outside) (again : Bool) (t : FileTree) (p : Path) (reason : String) :
    Except (String × FileTree) FileTree :=
  match o.stat p again with
  | some reason => .error (reason, t)
  | none => if t.isDir p then .ok t else .error (reason, t)

def makeDirs (o : Outside) (t : FileTree) : Nat → Path → Except (String × FileTree) FileTree
  | 0, p => .error (missingMessage p, t)
  | fuel + 1, p =>
    match o.makeDir false t p with
    | .ok t => .ok t
    | .error (.other reason) => o.settle false t p reason
    | .error .missing =>
      if p.parts.isEmpty then .error (missingMessage p, t)
      else
        match o.makeDirs t fuel p.parent with
        | .error e => .error e
        | .ok t =>
          match o.makeDir true t p with
          | .ok t => .ok t
          | .error (.other reason) => o.settle true t p reason
          | .error .missing => .error (missingMessage p, t)

/-- The place of a new temporary file, under the first name that is not taken. -/
def createTemporary (o : Outside) (p : Path) (t : FileTree) :
    List String → Except String (List String)
  | [] => .error "[Errno 17] No usable temporary file name found"
  | drawn :: rest =>
    match t.locate (p.parent.child (Filer.drawnName p drawn)) with
    | .error problem =>
      .error (FileFault.message ⟨problem, (p.parent.child (Filer.temporaryName p)).text, none⟩)
    | .ok place =>
      match t.at? place, o.create with
      | some _, _ => createTemporary o p t rest
      | none, some reason => .error reason
      | none, none => .ok place

/-- Fills the temporary file and lets it replace the final one. An error comes with the files as
they are then, the temporary one among them. -/
def fillTemporary (o : Outside) (codec : Except NoCodec Codec) (p : Path) (text : String)
    (temporary : List String) (t : FileTree) : Except (Fault × FileTree) FileTree :=
  let refuse := fun (reason : String) (t : FileTree) =>
    Except.error (Fault.rejected (.notWritten p reason), t)
  match o.opening, codec with
  | some reason, _ => refuse reason t
  | none, .error missing => .error (.noCodec missing, t)
  | none, .ok k =>
    match k.encode text with
    | .error c =>
      match o.close with
      | some reason => refuse reason t
      | none => .error (.codec c, t)
    | .ok bytes =>
      match o.fill with
      | some (n, reason) =>
        refuse (o.close.getD reason) (t.put temporary (some (bytes.take n)))
      | none =>
        let t := t.put temporary (some bytes)
        match o.close.or o.replace with
        | some reason => refuse reason t
        | none =>
          match t.replace temporary p with
          | .ok t => .ok t
          | .error problem =>
            let fault : FileFault :=
              ⟨problem, (p.parent.child (Filer.temporaryName p)).text, some p.text⟩
            refuse fault.message t

/-- Puts a text at a path, or removes the temporary file. -/
def place (o : Outside) (codec : Except NoCodec Codec) (p : Path) (text : String) (t : FileTree) :
    Except Fault Unit × FileTree :=
  match o.makeDirs t (p.parts.length + 1) p.parent with
  | .error (reason, t) => (.error (.rejected (.notWritten p reason)), t)
  | .ok t =>
    match o.createTemporary p t o.draws with
    | .error reason => (.error (.rejected (.notWritten p reason)), t)
    | .ok temporary =>
      match o.fillTemporary codec p text temporary (t.put temporary (some [])) with
      | .ok t => (.ok (), t)
      | .error (e, t) =>
        match o.removal with
        | some reason => (.error (.rejected (.notWritten p reason)), t)
        | none => (.error e, t.remove temporary)

end Outside

namespace Filer

/-- Writes a module under outside conditions. -/
def writeUnder (f : Filer) (o : Outside) (module text : String) (t : FileTree) :
    Except Fault Path × Filer × FileTree :=
  match f.pathFor module with
  | .error r => (.error (.rejected r), f, t)
  | .ok p =>
    if f.written.contains module then (.error (.rejected (.alreadyWritten module p)), f, t)
    else
      match o.place f.codec p text t with
      | (.error e, t) => (.error e, f, t)
      | (.ok (), t) => (.ok p, { f with written := f.written.insert module p }, t)

/-- A call to a filer. The files it finds are those of its moment: anything may have happened to
them since the call before it. -/
inductive Call
  | write (o : Outside) (module text : String) (t : FileTree)
  | reset

/-- The filer after a call, with the modules that were written since the last reset. -/
def Call.perform : Filer × List String → Call → Filer × List String
  | (f, modules), .write o module text t =>
    match f.writeUnder o module text t with
    | (.ok _, f, _) => (f, modules ++ [module])
    | (.error _, f, _) => (f, modules)
  | (f, _), .reset => (f.reset, [])

def performAll (f : Filer) (calls : List Call) : Filer × List String :=
  calls.foldl Call.perform (f, [])

end Filer

end Foundry

import Foundry.Factory.Render
import Foundry.Fault
import Foundry.Text.Identifier

/-!
Generated modules at work. The text of a module is read line by line, its names are bound, and its
factory is asked for members by identifier. Of the classes a module imports nothing is known but
which classes stand in them, and names are compared as they are written.
-/

namespace Foundry.Factory

open Foundry.Text

/-! ### Lines -/

/-- A line of a generated module. -/
inductive Line
  | silent
  | imports (module : List String) (name : String) (alias? : Option String)
  | classHead (name : String)
  | group (name : String)
  | identifiers (items : List String)
  | createHead (result : List String)
  | test (identifier : String)
  | construct (name : List String)
  | refuse (group : String)
  | exports (name : String)
deriving DecidableEq, Repr

/-- Blanks within a line. -/
def isGap (c : Char) : Bool :=
  c == ' ' || c == '\t' || c == Char.ofNat 12

/-- Takes a fixed text off the front. -/
def expect (text : String) (cs : List Char) : Option (List Char) :=
  if startsWithList text.toList cs then some (cs.drop text.length) else none

/-- A name with the blanks around it. -/
def readName (cs : List Char) : Option (String × List Char) :=
  let cs := cs.dropWhile isGap
  let word := cs.takeWhile isIdentifierContinue
  let name := String.ofList word
  if isIdentifier name && !isKeyword name then
    some (name, (cs.drop word.length).dropWhile isGap)
  else none

/-- Names joined by dots; `fuel` bounds their number. -/
def readPath : Nat → List Char → Option (List String × List Char)
  | 0, _ => none
  | fuel + 1, cs => do
    let (name, cs) ← readName cs
    match cs with
    | '.' :: cs =>
      let (names, cs) ← readPath fuel cs
      return (name :: names, cs)
    | cs => return ([name], cs)

def readDotted (cs : List Char) : Option (List String × List Char) :=
  readPath (cs.length + 1) cs

/-- Quoted texts up to a closing bracket, each but a last one followed by a comma. -/
def readItems : Nat → List Char → Option (List String)
  | 0, _ => none
  | _ + 1, [')'] => some []
  | fuel + 1, cs => do
    let (item, cs) ← readQuoted cs
    match cs with
    | [')'] => return [item]
    | ',' :: cs =>
      let items ← readItems fuel (cs.dropWhile isGap)
      return item :: items
    | _ => none

/-- Nothing but blanks. -/
def atEnd (cs : List Char) : Option Unit :=
  if cs.all isGap then some () else none

/-- Every name but that of a constant of the language can be bound. -/
def bindable (name : String) : Option Unit :=
  if name = "__debug__" then none else some ()

/-- The module whose imports are directives to the compiler; none may stand where generated modules
have theirs. -/
def directives : List String := ["__future__"]

def readImport (cs : List Char) : Option Line := do
  let (module, cs) ← readDotted (← expect "from " cs)
  if module = directives then none
  let (name, cs) ← readName (← expect "import " cs)
  match expect "as " cs with
  | none =>
    atEnd cs
    bindable name
    return .imports module name none
  | some cs =>
    let (alias?, cs) ← readName cs
    atEnd cs
    bindable alias?
    return .imports module name (some alias?)

def readClass (cs : List Char) : Option Line := do
  let (name, cs) ← readName (← expect "class " cs)
  atEnd (← expect ":" cs)
  bindable name
  return .classHead name

def readGroup (cs : List Char) : Option Line := do
  let (name, cs) ← readQuoted (← expect "    group = " cs)
  atEnd cs
  return .group name

def readIdentifiers (cs : List Char) : Option Line := do
  let cs ← expect "    identifiers = (" cs
  let items ← readItems (cs.length + 1) cs
  return .identifiers items

def readCreate (cs : List Char) : Option Line := do
  let (result, cs) ← readDotted (← expect "    def create(self, identifier: str) -> " cs)
  atEnd (← expect ":" cs)
  return .createHead result

def readTest (cs : List Char) : Option Line := do
  let (identifier, cs) ← readQuoted (← expect "        if identifier == " cs)
  atEnd (← expect ":" cs)
  return .test identifier

def readConstruct (cs : List Char) : Option Line := do
  let (name, cs) ← readDotted (← expect "            return " cs)
  atEnd (← expect "()" cs)
  return .construct name

def readRefuse (cs : List Char) : Option Line := do
  let (group, cs) ← readQuoted (← expect s!"        raise {errorName}(identifier, " cs)
  atEnd (← expect ")" cs)
  return .refuse group

def readExports (cs : List Char) : Option Line := do
  let (name, cs) ← readQuoted (← expect "__all__ = [" cs)
  atEnd (← expect "]" cs)
  return .exports name

/-- Blank lines, comments, and texts between three double quotes. -/
def readSilent (cs : List Char) : Option Line :=
  let cs := cs.dropWhile isGap
  let quotes := ['"', '"', '"']
  if cs.isEmpty || cs.head? == some '#' then some .silent
  else if 6 ≤ cs.length && startsWithList quotes cs && startsWithList quotes cs.reverse then
    some .silent
  else none

/-- The line that a text holds; `none` if it is none of those that are generated. -/
def readLine (cs : List Char) : Option Line :=
  [readSilent, readImport, readClass, readGroup, readIdentifiers, readCreate, readTest,
    readConstruct, readRefuse, readExports].findSome? fun read => read cs

/-! ### Names -/

/-- What a name stands for in a generated module. -/
inductive Bound
  /-- A class known by its name only. -/
  | imported (name : QualifiedName)
  /-- The error for identifiers without a member. -/
  | unknownIdentifier
  | factory (name : String)
  | member (factory : String)
  | value (v : Value)
deriving Repr

/-- The name of the type of what is bound. -/
def Bound.typeName : Bound → String
  | .imported _ => "type"
  | .unknownIdentifier => "type"
  | .factory _ => "type"
  | .member f => f
  | .value v => v.typeName

/-- What is bound, in the words of a message about an attribute it lacks. -/
def Bound.owner : Bound → String
  | .imported n => s!"type object {quoted n.simple}"
  | .unknownIdentifier => s!"type object {quoted errorName}"
  | .factory f => s!"type object {quoted f}"
  | b => s!"{quoted b.typeName} object"

abbrev Scope := Ordered String Bound

/-- The classes there are, by their qualified names. -/
abbrev Classes := QualifiedName → Bool

def absent (b : Bound) (name : String) : Fault :=
  .raised "AttributeError" s!"{b.owner} has no attribute {quoted name}"

/-- Follows attributes from what is bound. Only classes have any here, the classes that stand in
them. -/
def follow (classes : Classes) : Bound → List String → Except Fault Bound
  | b, [] => .ok b
  | .imported n, name :: rest =>
    let inner : QualifiedName := ⟨n.module, n.qualname ++ "." ++ name⟩
    if classes inner then follow classes (.imported inner) rest
    else .error (absent (.imported n) name)
  | b, name :: _ => .error (absent b name)

/-- What a dotted name stands for; scopes are looked at in order. -/
def lookUp (classes : Classes) (scopes : List Scope) : List String → Except Fault Bound
  | [] => .error (.raised "NameError" "name '' is not defined")
  | head :: rest =>
    match scopes.findSome? fun s => s.get? head with
    | none => .error (.raised "NameError" s!"name {quoted head} is not defined")
    | some b => follow classes b rest

/-- How a name is read inside a class: a private one is bound to the class. -/
def privateName (owner name : String) : String :=
  let stem := owner.toList.dropWhile (· == '_')
  if startsWith name "__" && !endsWith name "__" && !stem.isEmpty then
    "_" ++ String.ofList stem ++ name
  else name

/-! ### Modules -/

/-- A generated module: the classes there are, its names, the attributes of its factory, and what
the factory does. -/
structure Generated where
  classes : Classes
  globals : Scope
  attributes : Scope
  factoryName : String
  branches : List (String × List String)
  pending : String
  refusal : String

namespace Generated

def empty (classes : Classes) : Generated :=
  ⟨classes, Ordered.empty, Ordered.empty, "", [], "", ""⟩

/-- What a line does to a module. The error comes from the module of the runtime, which is
imported first. The type of the result is looked at when the factory is defined. -/
def add (g : Generated) : Line → Except Fault Generated
  | .silent => .ok g
  | .imports module name alias? =>
    let b := if g.globals.isEmpty && name == errorName then .unknownIdentifier
      else Bound.imported ⟨dotted module, name⟩
    .ok { g with globals := g.globals.insert (alias?.getD name) b }
  | .classHead name => .ok { g with factoryName := name }
  | .group name => .ok { g with attributes := g.attributes.insert "group" (.value (.text name)) }
  | .identifiers items =>
    .ok { g with attributes :=
      g.attributes.insert "identifiers" (.value (.tuple (items.map .text))) }
  | .createHead result =>
    match lookUp g.classes [g.attributes, g.globals] (result.map (privateName g.factoryName)) with
    | .ok _ => .ok g
    | .error f => .error f
  | .test identifier => .ok { g with pending := identifier }
  | .construct name => .ok { g with branches := g.branches ++ [(g.pending, name)] }
  | .refuse group =>
    .ok { g with
      refusal := group
      globals := g.globals.insert g.factoryName (.factory g.factoryName) }
  | .exports name =>
    .ok { g with globals := g.globals.insert "__all__" (.value (.list [.text name])) }

/-- The lines of a text, or the number of the first that is not one. -/
def readLines : Nat → List (List Char) → Except Nat (List Line)
  | _, [] => .ok []
  | n, cs :: rest =>
    match readLine cs with
    | none => .error n
    | some line => (readLines (n + 1) rest).map (line :: ·)

/-- The module a text holds, where its imports lead to the classes there are. -/
def ofText (classes : Classes) (text : String) : Except Fault Generated :=
  match readLines 1 (splitList '\n' text.toList) with
  | .error n => .error (.malformedSource n)
  | .ok lines => lines.foldlM add (empty classes)

/-- A value kept under a name. -/
def valueOf (scope : Scope) (name : String) : Value :=
  match scope.get? name with
  | some (.value v) => v
  | _ => .none

def group (g : Generated) : Value :=
  valueOf g.attributes "group"

def identifiers (g : Generated) : Value :=
  valueOf g.attributes "identifiers"

def exports (g : Generated) : Value :=
  valueOf g.globals "__all__"

/-! ### Members -/

/-- What a factory does for an identifier. -/
inductive Answer
  /-- It constructs a class. -/
  | made (name : QualifiedName)
  /-- It raises the error for identifiers without a member. -/
  | unknown (identifier : Value) (group : String)
  /-- It raises another error. -/
  | failed (f : Fault)
deriving Repr

/-- The message about an identifier without a member, if the identifier has a text. -/
def unknownMessage (identifier : Value) (group : String) : Except Unshown String :=
  identifier.repr.map fun shown =>
    s!"Unknown identifier {shown} for factory group {quoted group}"

/-- The fault of an identifier without a member. -/
def unknownFault (identifier : Value) (group : String) : Fault :=
  match unknownMessage identifier group with
  | .ok message => .raised errorName message
  | .error u => .unshown u

/-- The name of the class that was constructed, or what was raised. -/
def Answer.result : Answer → Except Fault String
  | .made n => .ok n.text
  | .unknown identifier group => .error (unknownFault identifier group)
  | .failed f => .error f

/-- The names within the factory's function. -/
def locals (g : Generated) (identifier : Value) : Scope :=
  Ordered.ofList [("self", .member g.factoryName), ("identifier", .value identifier)]

/-- Constructs what a name stands for. -/
def construct (g : Generated) (identifier : Value) (name : List String) : Answer :=
  match lookUp g.classes [g.locals identifier, g.globals]
    (name.map (privateName g.factoryName)) with
  | .ok (.imported n) => .made n
  | .ok b => .failed (.raised "TypeError" s!"{quoted b.typeName} object is not callable")
  | .error f => .failed f

/-- What is raised for an identifier without a member. -/
def refuse (g : Generated) (identifier : Value) : Answer :=
  match lookUp g.classes [g.locals identifier, g.globals] [errorName] with
  | .ok .unknownIdentifier =>
    match identifier.repr with
    | .ok _ => .unknown identifier g.refusal
    | .error u => .failed (.unshown u)
  | .ok (.factory n) => .failed (.raised "TypeError" s!"{n}() takes no arguments")
  | .ok b => .failed (.raised "TypeError" s!"{quoted b.typeName} object is not callable")
  | .error f => .failed f

/-- The first test that an identifier passes decides. -/
def answer (g : Generated) (identifier : Value) : Answer :=
  match g.branches.find? fun b => identifier.same (.text b.1) with
  | some b => g.construct identifier b.2
  | none => g.refuse identifier

/-- The name of the class whose member has an identifier. -/
def create (g : Generated) (identifier : Value) : Except Fault String :=
  (g.answer identifier).result

end Generated

end Foundry.Factory

import Foundry.Live.Machine

/-!
Running code: the statements of modules, the bodies of classes, and the functions that are called
on the way. What is not needed to know the classes of a module is not worked out: loops are passed
over, and instances are things of a type.
-/

namespace Foundry.Live

open Foundry.Source Foundry.Text

/-- Code that runs too deep. -/
def tooDeep : Fault :=
  .raised "RecursionError" "maximum recursion depth exceeded"

/-! ### Values -/

/-- What counts as true. -/
def isTruthy : Object → Bool
  | .value .none => false
  | .value (.bool b) => b
  | .value (.int n) => n != 0
  | .value (.text s) => s != ""
  | .value (.list vs) => !vs.isEmpty
  | .value (.dict fs) => !fs.isEmpty
  | .tuple items => !items.isEmpty
  | _ => true

/-- Two objects are equal, as far as that is known. -/
def sameObject (h : Heap) (a b : Object) : Bool :=
  match a, b with
  | .class p, .class q => p == q
  | .function p, .function q => p == q
  | .module m, .module n => m == n
  | a, b => (h.toValue a).same (h.toValue b)

/-- The outcome of a comparison. -/
def compareObjects (h : Heap) (op : CompareOp) (a b : Object) : Bool :=
  match op with
  | .eq => sameObject h a b
  | .is => sameObject h a b
  | .notEq => !sameObject h a b
  | .isNot => !sameObject h a b
  | _ => true

/-- The outcome of an operation on two values. -/
def combine (op : BinaryOp) (a b : Object) : Object :=
  match op, a, b with
  | .add, .value (.text s), .value (.text t) => .value (.text (s ++ t))
  | .add, .value (.int m), .value (.int n) => .value (.int (m + n))
  | .sub, .value (.int m), .value (.int n) => .value (.int (m - n))
  | .mul, .value (.int m), .value (.int n) => .value (.int (m * n))
  | .add, .tuple xs, .tuple ys => .tuple (xs ++ ys)
  | _, _, _ => .thing "object"

/-- The text of a value within a text. -/
def display (h : Heap) (o : Object) (conversion : Option Char) : Except Unshown String :=
  match h.toValue o, conversion with
  | .text s, none => .ok s
  | .text s, some 's' => .ok s
  | v, _ => v.repr

/-- The elements of an object that can be taken apart. -/
def elements? (o : Object) : Option (List Object) :=
  match o with
  | .tuple items => some items
  | .value (.tuple vs) => some (vs.map Object.value)
  | .value (.list vs) => some (vs.map Object.value)
  | _ => none

/-! ### Calls -/

/-- The signature of a function, with what its parameters default to. -/
def signatureOf (qualname : String) : Params → Signature
  | .mk posOnly args vararg kwOnly kwarg =>
    let parameter := fun (p : Param) => match p with
      | .mk n _ d => (⟨n, d.isSome⟩ : Parameter)
    ⟨qualname, (posOnly ++ args).map parameter, vararg.isSome, kwOnly.map parameter, kwarg.isSome⟩

def paramName : Param → String
  | .mk n _ _ => n

/-- The names a call of a function starts with. -/
def startingNames (f : Function) (b : Binding Object) : Names :=
  match f.params with
  | .mk _ _ vararg _ kwarg =>
    let rest := (vararg.map fun p => (paramName p, Object.tuple b.more)).toList
    let others := (kwarg.map fun p => (paramName p, Object.thing "dict")).toList
    Ordered.ofList (f.defaults ++ b.bound ++ rest ++ others)

/-- Where the body of a function runs. -/
def Function.inside (f : Function) (names : Nat) : Surroundings :=
  { f.around with
    locals := names
    enclosing := names :: f.around.enclosing
    start := f.qualname ++ ".<locals>." }

/-- What constructing an instance of a class refuses. -/
def checkInstance (h : Heap) (p : Nat) (c : Class) (args : List Object)
    (named : List (String × Object)) : Except Fault Unit :=
  let name := h.className p
  if !c.abstracts.isEmpty then
    let names := c.abstracts.mergeSort fun a b => !(b < a)
    let plural := if names.length = 1 then "" else "s"
    .error (typeFault
      (s!"Can't instantiate abstract class {name} with abstract method{plural} " ++
        join ", " names))
  else if c.isProtocol then .error (typeFault "Protocols cannot be instantiated")
  else match h.constructing? c with
    | some f =>
      ((signatureOf f.qualname f.params).bind (.thing name :: args) named).map fun _ => ()
    | none =>
      if h.isPlainlyConstructed c && !(args.isEmpty && named.isEmpty) then
        .error (typeFault s!"{name}() takes no arguments")
      else .ok ()

/-- An instance of a class. Exceptions keep their messages. -/
def instantiate (p : Nat) (args : List Object) (named : List (String × Object)) : Run Object := do
  let h := (← get).heap
  let name := h.className p
  match h.class? p with
  | none => return .thing name
  | some c =>
    if h.derives p Place.baseException then return .fault name (faultMessage h name args)
    else if c.isFixed then
      match name, args with
      | "property", o :: _ => return .wrapped name o
      | "staticmethod", [o] => return .wrapped name o
      | "classmethod", [o] => return .wrapped name o
      | _, _ => return .thing name
    else if h.derives c.metaclass Place.enumMeta then return .thing name
    else
      attempt (checkInstance h p c args named)
      return .thing name

/-- Marks a method as abstract. -/
def makeAbstract (o : Object) : Run Object := do
  match o with
  | .function p => onHeap fun h => h.updateFunction p fun f => { f with isAbstract := true }
  | _ => pure ()
  return o

/-- Calls of tools that do no more than make or change an object. -/
def useTool (t : Tool) (args : List Object) (named : List (String × Object)) : Run Object := do
  let h := (← get).heap
  match t with
  | .factory =>
    let k ← attempt (Marker.ofArguments (args.map h.toValue)
      (named.map fun (n, o) => (n, h.toValue o)))
    return .tool (.marker k)
  | .marker k =>
    let signature : Signature :=
      ⟨Marker.signature.function ++ ".<locals>._apply", [⟨"obj", false⟩], false, [], false⟩
    let b ← attempt (signature.bind args named)
    applyMarker k ((b.bound.lookup "obj").getD (.value .none))
  | .dataclass o =>
    match args with
    | c :: _ => applyDataClass o c
    | [] => return .tool (.dataclass ⟨option named "init" true, option named "kw_only" false⟩)
  | .field =>
    if (named.lookup "default").isSome && (named.lookup "default_factory").isSome then
      throw (.raised "ValueError" "cannot specify both default and default_factory")
    return .field (fieldOfArguments named)
  | .abstractMethod => makeAbstract (args.headD (.value .none))
  | .wrapper kind => return .wrapped kind (args.headD (.value .none))
  | .identity => return args.headD (.thing "object")
  | .importer => return .thing "object"
  | .other _ => return .thing "object"

/-- What a subscript makes of an object. -/
def subscribe (o : Object) : Run Object := do
  let m ← get
  match o with
  | .class p =>
    if (m.heap.member? p "__class_getitem__").isSome then return .subscripted o
    else if m.heap.derives (((m.heap.class? p).map Class.metaclass).getD 0) Place.enumMeta then
      return .thing (m.heap.className p)
    else if m.heap.derives p Place.type || p == Place.initVar then return .subscripted o
    else typeError s!"type {quoted (m.heap.className p)} is not subscriptable"
  | .tool _ => return .subscripted o
  | .subscripted _ => return o
  | _ => return .thing "object"

/-! ### Bases -/

/-- Built-in classes under their names for types. -/
def aliasedClass? (name : String) : Option String :=
  match lastSegment name with
  | "List" => some "list"
  | "Dict" => some "dict"
  | "Set" => some "set"
  | "FrozenSet" => some "frozenset"
  | "Tuple" => some "tuple"
  | "Type" => some "type"
  | "NamedTuple" => some "tuple"
  | "TypedDict" => some "dict"
  | _ => none

/-- What is said about a base that is no class. -/
def baseProblem (h : Heap) (o : Object) : String :=
  match o with
  | .function _ => "function() argument 'code' must be code, not str"
  | .value (.text _) => "str() argument 'encoding' must be str, not tuple"
  | .value .none => "NoneType takes no arguments"
  | o => s!"{h.typeName o}() takes at most 2 arguments (3 given)"

/-- The classes that something written as a base stands for. -/
def basesOf (h : Heap) (o : Object) : Except Fault (List Nat) :=
  match o with
  | .class p => .ok [p]
  | .subscripted (.class p) => .ok [p]
  | .subscripted (.tool (.other n)) =>
    match aliasedClass? n with
    | some c => .ok [placeOf c, Place.generic]
    | none => .ok []
  | .tool (.other n) => .ok ((aliasedClass? n).map placeOf).toList
  | .thing _ => .ok []
  | .tool _ => .ok []
  | .subscripted _ => .ok []
  | o => .error (typeFault (baseProblem h o))

/-! ### Modules -/

/-- The package that relative imports of a module start from. -/
def packageOf (m : Machine) (module : String) : String :=
  if ((m.modules.get? module).bind Imported.parts).isSome then module
  else beforeLastSegment module

/-- The name an import statement asks for. -/
def importName (m : Machine) (module : String) (source : Option String) (level : Nat) :
    Except Fault String :=
  if level = 0 then .ok (source.getD "")
  else
    let package := packageOf m module
    let parts := segments package
    if package == "" then
      .error (.raised "ImportError" "attempted relative import with no known parent package")
    else if parts.length < level then
      .error (.raised "ImportError" "attempted relative import beyond top-level package")
    else
      let base := dotted (parts.take (parts.length - (level - 1)))
      .ok (match source with
        | some s => base ++ "." ++ s
        | none => base)

def notFound (name : String) : Fault :=
  .moduleNotFound name s!"No module named {quoted name}"

/-- The directories a module is looked for in, once its package is imported. -/
def searchDirs (m : Machine) (name : String) : Except Fault (List Path) :=
  let parent := beforeLastSegment name
  if parent == "" then .ok m.roots
  else match (m.modules.get? parent).bind Imported.parts with
    | some dirs => .ok dirs
    | none =>
      .error (.moduleNotFound name
        s!"No module named {quoted name}; {quoted parent} is not a package")

/-- The statements of a source file. -/
def readBody (files : FileTree) (p : Path) : Except Fault (List Stmt) :=
  match files.read p with
  | .error f => .error (.file f)
  | .ok bytes =>
    let bytes := match bytes with
      | 0xEF :: 0xBB :: 0xBF :: rest => rest
      | bytes => bytes
    match Encoding.decode .utf8 bytes with
    | .error _ => .error (.malformedSource 1)
    | .ok s => (parse (unifyLineEnds s.toList)).mapError .malformedSource

/-- Code of a module that leaves what is written behind names unevaluated. -/
def isLazyBody (body : List Stmt) : Bool :=
  body.any fun s => match s with
    | .importFrom (some "__future__") aliases _ => aliases.any fun a => a.name == "annotations"
    | _ => false

/-- A module before its code runs. -/
def enterModule (name : String) (place : Discovery.Place) : Run (Option Path × Nat) := do
  let (file, parts) := match place with
    | .package dir => (some (dir.child Discovery.packageFile), some [dir])
    | .file p => (some p, none)
    | .shared dirs => (none, some dirs)
  let shown := (file.map fun p => ("__file__", Object.value (.text p.text))).toList
  let names ← newNames (Ordered.ofList (("__name__", .value (.text name)) :: shown))
  modify fun m => { m with modules := m.modules.insert name ⟨names, parts, file, [], false, true⟩ }
  return (file, names)

/-- A module whose code has run; its package knows it by its last name. -/
def leaveModule (name : String) : Run Unit := do
  modify fun m => match m.modules.get? name with
    | some i => { m with modules := m.modules.insert name { i with isLoading := false } }
    | none => m
  let m ← get
  match m.modules.get? (beforeLastSegment name) with
  | some i => onHeap fun h => h.bind i.names (lastSegment name) (.module name)
  | none => pure ()

/-- The names that a star import takes. -/
def starNames (m : Machine) (module : String) : List String :=
  match m.modules.get? module with
  | none => []
  | some i =>
    let names := m.heap.namesAt i.names
    match (names.get? "__all__").bind elements? with
    | some os => os.filterMap fun o => (m.heap.toValue o).text?
    | none => names.keys.filter fun n => !startsWith n "_"

/-- What is said about a name that a module does not have. -/
def cannotImport (m : Machine) (module name : String) : Fault :=
  let place := match (m.modules.get? module).bind Imported.file with
    | some p => p.text
    | none => "unknown location"
  if ((m.modules.get? module).map Imported.isLoading).getD false then
    .raised "ImportError" (s!"cannot import name {quoted name} from partially initialized " ++
      s!"module {quoted module} (most likely due to a circular import) ({place})")
  else .raised "ImportError" s!"cannot import name {quoted name} from {quoted module} ({place})"

/-! ### Evaluation -/

/-- Runs statements until one returns something. -/
def runAll (step : Stmt → Run (Option Object)) : List Stmt → Run (Option Object)
  | [] => return none
  | s :: rest => do
    match ← step s with
    | some o => return some o
    | none => runAll step rest

/-- The first operand that decides, or the last one. -/
def firstDeciding (step : Expr → Run Object) (isAnd : Bool) : List Expr → Run Object
  | [] => return .value (.bool isAnd)
  | [e] => step e
  | e :: rest => do
    let o ← step e
    if isTruthy o == isAnd then firstDeciding step isAnd rest else return o

/-- The exception that is raised. -/
def faultOf (h : Heap) (o : Object) : Fault :=
  match o with
  | .fault kind message => .raised kind message
  | .class p =>
    if h.derives p Place.baseException then .raised (h.className p) ""
    else typeFault "exceptions must derive from BaseException"
  | _ => typeFault "exceptions must derive from BaseException"

/-- Adds an annotated name to a module or a class. -/
def addHint (s : Surroundings) (name : String) (hint : Object) : Run Unit :=
  onHeap fun h =>
    let old := Heap.hintsOf (h.namesAt s.locals)
    h.bind s.locals "__annotations__"
      (.hints ((old.filter fun e => e.1 != name) ++ [(name, hint)]))

/-- Code inside a function. -/
def Surroundings.isInFunction (s : Surroundings) : Bool :=
  s.enclosing.head? == some s.locals

/-- A value of a class body that gives the class its module or name. -/
def textOf (own : Names) (name default : String) : String :=
  match own.get? name with
  | some (.value (.text s)) => s
  | _ => default

/-- A result without what it was about to fail with. -/
def quietly (r : Run Object) : Run Object :=
  tryCatch r fun _ => return .thing "str"

mutual

/-- The object an expression stands for; `fuel` bounds the depth of the evaluation. -/
def eval : Nat → Surroundings → Expr → Run Object
  | 0, _, _ => throw tooDeep
  | fuel + 1, s, e => do
    match e with
    | .constant c => return .value (Index.constantValue c)
    | .name id =>
      match (← get).lookUp s id with
      | some o => return o
      | none => throw (.raised "NameError" s!"name {quoted id} is not defined")
    | .member e name =>
      let o ← eval fuel s e
      let m ← get
      match m.member? o name with
      | some o => return o
      | none => throw (m.missingAttribute o name)
    | .call f args keywords =>
      let f ← eval fuel s f
      let args ← args.mapM fun a => do
        match a with
        | .starred a => return (elements? (← eval fuel s a)).getD []
        | a => return [← eval fuel s a]
      let named ← keywords.mapM fun k => do
        let o ← eval fuel s k.value
        return (k.name.map fun n => (n, o)).toList
      call fuel f args.flatten named.flatten
    | .subscript e i =>
      let o ← eval fuel s e
      discard (eval fuel s i)
      subscribe o
    | .tuple es => return .tuple (← es.mapM (eval fuel s))
    | .list es =>
      let items ← es.mapM (eval fuel s)
      return .value (.list (items.map (← get).heap.toValue))
    | .set es =>
      discard (es.mapM (eval fuel s))
      return .thing "set"
    | .dict items =>
      let fields ← items.mapM fun i => do
        match i with
        | .entry k v =>
          let k ← eval fuel s k
          let v ← eval fuel s v
          let h := (← get).heap
          return ((h.toValue k).text?.map fun n => (n, h.toValue v)).toList
        | .spread v =>
          discard (eval fuel s v)
          return []
      return .value (.dict fields.flatten)
    | .lambda params body => makeFunction fuel s "<lambda>" params [.returns (some body)] none
    | .conditional test body orelse =>
      if isTruthy (← eval fuel s test) then eval fuel s body else eval fuel s orelse
    | .boolean isAnd es => firstDeciding (eval fuel s) isAnd es
    | .compare left [.mk op right] =>
      let a ← eval fuel s left
      let b ← eval fuel s right
      return .value (.bool (compareObjects (← get).heap op a b))
    | .unary op e =>
      let o ← eval fuel s e
      match op, o with
      | .not, o => return .value (.bool (!isTruthy o))
      | .minus, .value (.int n) => return .value (.int (-n))
      | .plus, o => return o
      | _, _ => return .thing "object"
    | .binary op l r =>
      let a ← eval fuel s l
      let b ← eval fuel s r
      return combine op a b
    | .joined pieces =>
      let texts ← pieces.mapM fun p => do
        match p with
        | .literal t => return t
        | .field e conversion _ =>
          let o ← eval fuel s e
          match display (← get).heap o conversion with
          | .ok t => return t
          | .error u => throw (.unshown u)
      return .value (.text (join "" texts))
    | .named target e =>
      let o ← eval fuel s e
      bindLocal s target o
      return o
    | .starred e => eval fuel s e
    | _ => return .thing "object"

/-- The result of a call. -/
def call : Nat → Object → List Object → List (String × Object) → Run Object
  | 0, _, _, _ => throw tooDeep
  | fuel + 1, f, args, named => do
    match f with
    | .tool .importer =>
      let name := (((← get).heap.toValue (args.headD (.value .none))).text?).getD ""
      importModule fuel name
      return .module (firstSegment name)
    | .tool t => useTool t args named
    | .class p => instantiate p args named
    | .function p =>
      match (← get).heap.function? p with
      | none => return .value .none
      | some f =>
        let b ← attempt ((signatureOf f.qualname f.params).bind args named)
        let names ← newNames (startingNames f b)
        return (← runAll (exec fuel (f.inside names)) f.body).getD (.value .none)
    | .subscripted o => call fuel o args named
    | .thing _ => return .thing "object"
    | o => typeError s!"{quoted ((← get).heap.typeName o)} object is not callable"

/-- Binds what is on the left of an assignment. -/
def assign : Nat → Surroundings → Expr → Object → Run Unit
  | 0, _, _, _ => throw tooDeep
  | fuel + 1, s, target, o => do
    match target with
    | .name n => bindLocal s n o
    | .member e n =>
      let holder ← eval fuel s e
      set (← attempt ((← get).setAttribute holder n o))
    | .tuple targets => assignAll fuel s targets o
    | .list targets => assignAll fuel s targets o
    | _ => return ()

/-- Binds several targets to the elements of an object. -/
def assignAll : Nat → Surroundings → List Expr → Object → Run Unit
  | 0, _, _, _ => throw tooDeep
  | fuel + 1, s, targets, o => do
    match elements? o with
    | none =>
      match o with
      | .thing _ => targets.forM fun t => assign fuel s t (.thing "object")
      | o => typeError s!"cannot unpack non-iterable {(← get).heap.typeName o} object"
    | some items =>
      if items.length < targets.length then
        throw (.raised "ValueError" (s!"not enough values to unpack (expected {targets.length}" ++
          s!", got {items.length})"))
      else if targets.length < items.length then
        throw (.raised "ValueError" s!"too many values to unpack (expected {targets.length})")
      else (targets.zip items).forM fun e => assign fuel s e.1 e.2

/-- Makes a function; its defaults and what is written behind its parameters are evaluated. -/
def makeFunction : Nat → Surroundings → String → Params → List Stmt → Option Location →
    Run Object
  | 0, _, _, _, _, _ => throw tooDeep
  | fuel + 1, s, name, params, body, location => do
    match params with
    | .mk posOnly args vararg kwOnly kwarg =>
      let defaults ← (posOnly ++ args ++ kwOnly).mapM fun p => do
        match p with
        | .mk n _ (some d) => return [(n, ← eval fuel s d)]
        | _ => return []
      if !s.isLazy then
        (posOnly ++ args ++ vararg.toList ++ kwOnly ++ kwarg.toList).forM fun p => do
          match p with
          | .mk _ (some hint) _ => discard (eval fuel s hint)
          | _ => return ()
      newFunction
        { module := textOf ((← get).heap.namesAt s.globals) "__name__" s.module
          qualname := s.start ++ name
          params, body, location
          defaults := defaults.flatten
          around := s
          attributes := Ordered.empty
          isAbstract := false }

/-- Applies decorators, the last one first. -/
def decorate : Nat → List Object → Object → Run Object
  | 0, _, _ => throw tooDeep
  | fuel + 1, decorators, o => decorators.reverse.foldlM (fun o d => call fuel d [o] []) o

/-- Runs the body of a class and makes it. -/
def makeClass : Nat → Surroundings → String → List Expr → List Keyword → List Stmt → Run Object
  | 0, _, _, _, _, _ => throw tooDeep
  | fuel + 1, s, name, bases, keywords, body => do
    let written ← bases.mapM (eval fuel s)
    let named ← keywords.mapM fun k => do return (k.name, ← eval fuel s k.value)
    let h := (← get).heap
    let places ← attempt (written.mapM (basesOf h))
    let explicit := match named.lookup (some "metaclass") with
      | some (.class p) => some p
      | _ => none
    let metaclass ← attempt (h.prepareClass name places.flatten explicit)
    let module := textOf (h.namesAt s.globals) "__name__" s.module
    let names ← newNames (Ordered.ofList
      [("__module__", .value (.text module)), ("__qualname__", .value (.text (s.start ++ name)))])
    discard (runAll (exec fuel { s with locals := names, start := s.start ++ name ++ "." }) body)
    let h := (← get).heap
    let own := h.namesAt names
    let plainGeneric := written.any fun o => match o with
      | .class p => p == Place.generic
      | _ => false
    let (place, h) ← attempt (h.makeClass (textOf own "__module__" module)
      (textOf own "__qualname__" (s.start ++ name)) places.flatten metaclass
      (own.erase "__qualname__") plainGeneric)
    modify fun m => { m with heap := h }
    return .class place

/-- Runs a statement; what a function returns ends it. -/
def exec : Nat → Surroundings → Stmt → Run (Option Object)
  | 0, _, _ => throw tooDeep
  | fuel + 1, s, st => do
    match st with
    | .expression e =>
      discard (eval fuel s e)
      return none
    | .assign targets e =>
      let o ← eval fuel s e
      targets.forM fun t => assign fuel s t o
      return none
    | .annotated target hint value =>
      if let some e := value then
        let o ← eval fuel s e
        assign fuel s target o
      match target with
      | .name n =>
        if !s.isInFunction then
          let o ← if s.isLazy then quietly (eval fuel s hint) else eval fuel s hint
          addHint s n o
      | _ => pure ()
      return none
    | .returns value =>
      match value with
      | some e => return some (← eval fuel s e)
      | none => return some (.value .none)
    | .raises value =>
      match value with
      | some e =>
        let o ← eval fuel s e
        throw (faultOf (← get).heap o)
      | none => throw (.raised "RuntimeError" "No active exception to reraise")
    | .ifElse test body orelse =>
      if isTruthy (← eval fuel s test) then runAll (exec fuel s) body
      else runAll (exec fuel s) orelse
    | .tryBlock body handlers orelse final =>
      let outcome ← tryCatch (do return Except.ok (← runAll (exec fuel s) body))
        fun f => return Except.error f
      let result ← match outcome, handlers with
        | .ok (some o), _ => pure (some o)
        | .ok none, _ => runAll (exec fuel s) orelse
        | .error _, .mk handler :: _ => runAll (exec fuel s) handler
        | .error f, [] => do
          discard (runAll (exec fuel s) final)
          throw f
      match ← runAll (exec fuel s) final with
      | some o => return some o
      | none => return result
    | .withBlock body => runAll (exec fuel s) body
    | .importNames aliases =>
      aliases.forM fun a => do
        importModule fuel a.name
        match a.asName with
        | some n => bindLocal s n (.module a.name)
        | none => bindLocal s (firstSegment a.name) (.module (firstSegment a.name))
      return none
    | .importFrom source aliases level =>
      let name ← attempt (importName (← get) s.module source level)
      importModule fuel name
      aliases.forM fun a => do
        if a.name == "*" then
          (starNames (← get) name).forM fun n => do
            let m ← get
            match ← importPart fuel name n with
            | some o => bindLocal s n o
            | none => throw (m.missingAttribute (.module name) n)
        else
          match ← importPart fuel name a.name with
          | some o => bindLocal s (a.asName.getD a.name) o
          | none => throw (cannotImport (← get) name a.name)
      return none
    | .classDef _ _ name bases keywords decorators body =>
      let ds ← decorators.mapM (eval fuel s)
      let o ← makeClass fuel s name bases keywords body
      bindLocal s name (← decorate fuel ds o)
      return none
    | .functionDef _ start name params decorators body =>
      let ds ← decorators.mapM (eval fuel s)
      let o ← makeFunction fuel s name params body (s.path.map fun p => ⟨some p, some start⟩)
      bindLocal s name (← decorate fuel ds o)
      return none
    | .pass => return none
    | .inert => return none

/-- A name of a module, or the module below it that has this name. -/
def importPart : Nat → String → String → Run (Option Object)
  | 0, _, _ => throw tooDeep
  | fuel + 1, module, name => do
    let m ← get
    match m.moduleName? module name with
    | some o => return some o
    | none =>
      let inner := module ++ "." ++ name
      if ((m.modules.get? module).bind Imported.parts).isSome then
        tryCatch (importModule fuel inner) fun f => match f with
          | .moduleNotFound missing reason =>
            if missing == inner then return () else throw (.moduleNotFound missing reason)
          | f => throw f
      let m ← get
      match m.moduleName? module name with
      | some o => return some o
      | none => return if m.has inner then some (.module inner) else none

/-- Imports a module and the packages above it, unless that is done. A module whose code fails is
forgotten. -/
def importModule : Nat → String → Run Unit
  | 0, _ => throw tooDeep
  | fuel + 1, name => do
    if (← get).has name then return
    let parent := beforeLastSegment name
    if parent != "" then importModule fuel parent
    let m ← get
    if m.has name then return
    let dirs ← attempt (searchDirs m name)
    match Discovery.find m.files dirs (lastSegment name) with
    | none => throw (notFound name)
    | some place =>
      let (file, names) ← enterModule name place
      tryCatch
        (match file with
        | none => return ()
        | some p => do
          let body ← attempt (readBody (← get).files p)
          modify fun m => match m.modules.get? name with
            | some i => { m with modules := m.modules.insert name { i with body := body } }
            | none => m
          let s : Surroundings := ⟨name, names, names, [], "", some p, isLazyBody body⟩
          discard (runAll (exec fuel s) body))
        fun f => do
          modify fun m => { m with modules := m.modules.erase name }
          throw f
      leaveModule name

end

/-- How deep code may run. -/
def maxDepth : Nat := 3000

/-- Imports a module by its absolute name. -/
def importAbsolute (name : String) : Run Unit :=
  if startsWith name "." then
    typeError ("the 'package' argument is required to perform a relative import for " ++
      quoted name)
  else if name == "" then throw (.raised "ValueError" "Empty module name")
  else importModule maxDepth name

end Foundry.Live

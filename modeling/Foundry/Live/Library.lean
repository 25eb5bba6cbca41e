import Foundry.Live.Heap
import Foundry.Source.Builtins

/-!
What running code finds without a file of its own: the built-in classes and names, and the modules
for types, abstract classes, enumerations, data classes and the factory marker.
-/

namespace Foundry.Live

open Foundry.Source Foundry.Text

/-- A class of a library: its bases and its metaclass by name, the special methods it has of its
own, whether it can be derived from, and whether it lays out its instances in its own way. -/
structure KnownClass where
  module : String
  name : String
  bases : List String
  metaclass : String
  methods : List String
  isFinal : Bool
  hasLayout : Bool
deriving Repr

namespace KnownClass

/-- A built-in class below one base. -/
def builtin (name base : String) (methods : List String) : KnownClass :=
  ⟨"builtins", name, [base], "type", methods, false, true⟩

/-- A built-in class that nothing derives from. -/
def final (name base : String) : KnownClass :=
  ⟨"builtins", name, [base], "type", ["__new__"], true, true⟩

/-- Exceptions that differ from their base in name only. -/
def errors (base : String) (names : List String) : List KnownClass :=
  names.map fun n => ⟨"builtins", n, [base], "type", ["__init__", "__new__"], false, false⟩

/-- Exceptions that carry more than their base. -/
def richErrors (base : String) (names : List String) : List KnownClass :=
  names.map fun n => ⟨"builtins", n, [base], "type", ["__init__"], false, true⟩

/-- A class written in the language itself. -/
def plain (module name : String) (bases : List String) (metaclass : String) : KnownClass :=
  ⟨module, name, bases, metaclass, [], false, false⟩

end KnownClass

open KnownClass in
/-- The classes of the library; bases stand before what derives from them. -/
def knownClasses : List KnownClass :=
  [⟨"builtins", "object", [], "type", ["__init__", "__new__"], false, true⟩,
   builtin "type" "object" ["__init__", "__new__"],
   builtin "int" "object" ["__new__"],
   final "bool" "int",
   builtin "float" "object" ["__new__"],
   builtin "complex" "object" ["__new__"],
   builtin "str" "object" ["__new__"],
   builtin "bytes" "object" ["__new__"],
   builtin "bytearray" "object" ["__init__", "__new__"],
   builtin "tuple" "object" ["__new__", "__class_getitem__"],
   builtin "list" "object" ["__init__", "__new__", "__class_getitem__"],
   builtin "dict" "object" ["__init__", "__new__", "__class_getitem__"],
   builtin "set" "object" ["__init__", "__new__", "__class_getitem__"],
   builtin "frozenset" "object" ["__new__", "__class_getitem__"],
   builtin "enumerate" "object" ["__new__", "__class_getitem__"],
   builtin "filter" "object" ["__new__"],
   builtin "map" "object" ["__new__"],
   builtin "reversed" "object" ["__new__"],
   builtin "zip" "object" ["__new__"],
   builtin "super" "object" ["__init__", "__new__"],
   builtin "property" "object" ["__init__", "__new__"],
   builtin "staticmethod" "object" ["__init__", "__new__"],
   builtin "classmethod" "object" ["__init__", "__new__"],
   final "memoryview" "object",
   final "range" "object",
   final "slice" "object",
   builtin "BaseException" "object" ["__init__", "__new__"]] ++
  errors "BaseException" ["Exception", "GeneratorExit", "KeyboardInterrupt"] ++
  richErrors "BaseException" ["BaseExceptionGroup", "SystemExit"] ++
  errors "Exception" ["ArithmeticError", "AssertionError", "BufferError", "EOFError",
    "LookupError", "MemoryError", "ReferenceError", "RuntimeError", "StopAsyncIteration",
    "SystemError", "TypeError", "ValueError", "Warning"] ++
  richErrors "Exception" ["AttributeError", "ImportError", "NameError", "OSError",
    "StopIteration", "SyntaxError"] ++
  [⟨"builtins", "ExceptionGroup", ["BaseExceptionGroup", "Exception"], "type", [], false, false⟩] ++
  errors "ArithmeticError" ["FloatingPointError", "OverflowError", "ZeroDivisionError"] ++
  errors "LookupError" ["IndexError", "KeyError"] ++
  errors "RuntimeError" ["NotImplementedError", "RecursionError"] ++
  errors "ValueError" ["UnicodeError"] ++
  richErrors "UnicodeError" ["UnicodeDecodeError", "UnicodeEncodeError",
    "UnicodeTranslateError"] ++
  errors "Warning" ["BytesWarning", "DeprecationWarning", "EncodingWarning", "FutureWarning",
    "ImportWarning", "PendingDeprecationWarning", "ResourceWarning", "RuntimeWarning",
    "SyntaxWarning", "UnicodeWarning", "UserWarning"] ++
  errors "ImportError" ["ModuleNotFoundError"] ++
  errors "NameError" ["UnboundLocalError"] ++
  errors "OSError" ["BlockingIOError", "ChildProcessError", "ConnectionError",
    "FileExistsError", "FileNotFoundError", "InterruptedError", "IsADirectoryError",
    "NotADirectoryError", "PermissionError", "ProcessLookupError", "TimeoutError"] ++
  errors "ConnectionError" ["BrokenPipeError", "ConnectionAbortedError",
    "ConnectionRefusedError", "ConnectionResetError"] ++
  errors "SyntaxError" ["IndentationError"] ++
  errors "IndentationError" ["TabError"] ++
  [plain "abc" "ABCMeta" ["type"] "type",
   plain "abc" "ABC" ["object"] "ABCMeta",
   plain "typing" "_ProtocolMeta" ["ABCMeta"] "type",
   ⟨"typing", "Generic", ["object"], "type", ["__class_getitem__"], false, false⟩,
   plain "typing" "Protocol" ["Generic"] "_ProtocolMeta",
   plain "typing" "Any" ["object"] "type",
   plain "typing" "TypeVar" ["object"] "type",
   plain "typing_extensions" "Protocol" ["Generic"] "_ProtocolMeta",
   plain "enum" "EnumType" ["type"] "type",
   ⟨"enum", "Enum", ["object"], "EnumType", ["__init__", "__new__"], false, false⟩,
   plain "enum" "ReprEnum" ["Enum"] "EnumType",
   plain "enum" "IntEnum" ["int", "ReprEnum"] "EnumType",
   plain "enum" "StrEnum" ["str", "ReprEnum"] "EnumType",
   plain "enum" "Flag" ["Enum"] "EnumType",
   plain "enum" "IntFlag" ["int", "ReprEnum", "Flag"] "EnumType",
   plain "enum" "auto" ["object"] "type",
   plain "dataclasses" "InitVar" ["object"] "type",
   plain "dataclasses" "Field" ["object"] "type",
   plain "dataclasses" "FrozenInstanceError" ["AttributeError"] "type",
   plain "factorygen.decorators.base" "FactoryDecorator" ["object"] "type"]

/-- The place of the first known class with a name. -/
def placeOf (name : String) : Nat :=
  knownClasses.findIdx fun k => k.name == name

/-- The place of a class of a certain module. -/
def placeIn (module name : String) : Option Nat :=
  knownClasses.findIdx? fun k => k.module == module && k.name == name

namespace Place

def object : Nat := placeOf "object"
def type : Nat := placeOf "type"
def baseException : Nat := placeOf "BaseException"
def abstractMeta : Nat := placeOf "ABCMeta"
def generic : Nat := placeOf "Generic"
def protocol : Nat := placeOf "Protocol"
def otherProtocol : Nat := (placeIn "typing_extensions" "Protocol").getD 0
def enumMeta : Nat := placeOf "EnumType"
def enum : Nat := placeOf "Enum"
def initVar : Nat := placeOf "InitVar"

end Place

/-- Classes that mark interfaces as their bases. -/
def protocols : List Nat := [Place.protocol, Place.otherProtocol]

/-- The parameters of a call of an enumeration: a value, and names that may be left out. -/
def enumCallParams : Params :=
  let param := fun (n : String) (d : Option Expr) => Param.mk n none d
  let none' := some (Expr.constant .none)
  .mk [] [param "cls" none, param "value" none, param "names" none'] none
    (["module", "qualname", "type", "start", "boundary"].map fun n => param n none') none

/-- A function of a library. -/
def libraryFunction (module qualname : String) (params : Params) : Function where
  module := module
  qualname := qualname
  params := params
  defaults := []
  body := []
  around := ⟨module, 0, 0, [], "", none, false⟩
  location := none
  attributes := Ordered.empty
  isAbstract := false

/-- Adds a known class to a heap that holds its bases. -/
def addKnown (h : Heap) (k : KnownClass) : Heap :=
  let place := h.classes.size
  let bases := k.bases.map placeOf
  let order := match linearize place bases h.order with
    | .ok o => o
    | .error _ => [place]
  let inherited := (bases.head?.bind fun b => h.class? b).map Class.layout
  let methods := k.methods.map fun m => (m, Object.thing "wrapper_descriptor")
  (h.addClass
    { module := k.module
      qualname := k.name
      bases := bases
      order := order
      metaclass := placeOf k.metaclass
      attributes := Ordered.ofList methods
      abstracts := []
      isProtocol := k.name == "Protocol"
      fields := none
      members := []
      isFixed := true
      isFinal := k.isFinal
      layout := if k.hasLayout then place else inherited.getD 0 }).2

/-- The function that makes members of an enumeration. -/
def withEnumCall (h : Heap) : Heap :=
  let (f, h) := h.addFunction (libraryFunction "enum" "EnumType.__call__" enumCallParams)
  h.updateClass Place.enumMeta fun c =>
    { c with attributes := c.attributes.insert "__call__" (.function f) }

/-- Built-in classes whose instances are made of an argument, with its name. -/
def argumentTakers : List (String × String) :=
  [("enumerate", "iterable"), ("memoryview", "object"), ("reversed", "sequence")]

/-- The constructor of a class that needs one argument. -/
def withArgument (h : Heap) (name argument : String) : Heap :=
  let params := Params.mk [] [.mk "cls" none none, .mk argument none none] none [] none
  let (f, h) := h.addFunction (libraryFunction "builtins" (name ++ ".__new__") params)
  h.updateClass (placeOf name) fun c =>
    { c with attributes := c.attributes.insert "__new__" (.function f) }

/-- A heap with the classes of the library. -/
def libraryHeap : Heap :=
  argumentTakers.foldl (fun h e => withArgument h e.1 e.2)
    (withEnumCall (knownClasses.foldl addKnown Heap.empty))

/-! ### Modules of the library -/

/-- Names of a library module besides its classes. -/
def knownNames : List (String × List (String × Object)) :=
  let tool := fun (n : String) (t : Tool) => (n, Object.tool t)
  let identity := fun (n : String) => (n, Object.tool .identity)
  let marker := [tool "factory" .factory,
    ("FactoryDecorator", Object.class (placeOf "FactoryDecorator"))]
  let types := ["final", "runtime_checkable", "no_type_check", "overload", "override"].map identity
  [("builtins",
      [("None", .value .none), ("True", .value (.bool true)), ("False", .value (.bool false)),
       ("Ellipsis", .value .ellipsis), ("NotImplemented", .thing "NotImplementedType"),
       ("IOError", .class (placeOf "OSError")), ("EnvironmentError", .class (placeOf "OSError")),
       tool "__import__" .importer]),
   ("typing", ("TYPE_CHECKING", .value (.bool false)) :: types),
   ("typing_extensions",
      [("TYPE_CHECKING", .value (.bool false)), ("Generic", .class Place.generic)] ++ types),
   ("abc",
      [tool "abstractmethod" .abstractMethod,
       tool "abstractproperty" (.wrapper "abstractproperty"),
       tool "abstractclassmethod" (.wrapper "abstractclassmethod"),
       tool "abstractstaticmethod" (.wrapper "abstractstaticmethod")]),
   ("enum", [("EnumMeta", .class Place.enumMeta), identity "unique"]),
   ("dataclasses",
      [tool "dataclass" (.dataclass ⟨true, false⟩), tool "field" .field,
       ("KW_ONLY", .thing "KW_ONLY")]),
   ("factorygen", marker),
   ("factorygen.decorators", marker),
   ("factorygen.decorators.base", []),
   ("factorygen.runtime", []),
   ("factorygen.metadata", []),
   ("__future__", [])]

/-- Modules of the library that hold other modules. -/
def knownPackages : List String :=
  ["factorygen", "factorygen.decorators", "factorygen.metadata"]

/-- The names of a module of the library. -/
def namesOfKnown (module : String) (more : List (String × Object)) : Names :=
  let classes := (knownClasses.filter fun k => k.module == module).filterMap fun k =>
    (placeIn module k.name).map fun p => (k.name, Object.class p)
  let parts := (knownNames.map (·.1)).filterMap fun m =>
    if beforeLastSegment m == module then some (lastSegment m, Object.module m) else none
  Ordered.ofList ([("__name__", .value (.text module))] ++ classes ++ more ++ parts)

/-- What a module of the library gives for a name that is not listed: a tool, where there may be
such a name. -/
def unlisted (module name : String) : Option Object :=
  if module == "builtins" then
    if isBuiltin name then some (.tool (.other name)) else none
  else if startsWith name "__" then none
  else some (.tool (.other (module ++ "." ++ name)))

end Foundry.Live

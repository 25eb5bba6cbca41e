import Foundry.Proofs.Ordered
import Foundry.Proofs.Source.Links

/-!
The symbol table of a module read off its statements: the names that its imports bind, the modules
it imports all names of, and its classes, wherever they stand at its top level.
-/

namespace Foundry

namespace Source

open Text

variable {module : String} {isPackage : Bool} {m : Module} {s : Stmt} {body : List Stmt}

/-! ### What one statement binds -/

/-- The names that a statement imports, with what they stand for. -/
def importsIn (module : String) (isPackage : Bool) : Stmt → List (String × String)
  | .importNames aliases => aliases.map fun a => match a.asName with
    | some n => (n, a.name)
    | none => (firstSegment a.name, firstSegment a.name)
  | .importFrom source aliases level =>
    match importSource module isPackage source level with
    | none => []
    | some base => (aliases.filter fun a => a.name != "*").map fun a =>
      (a.asName.getD a.name, base ++ "." ++ a.name)
  | _ => []

/-- The modules that a statement imports all names of. -/
def starsIn (module : String) (isPackage : Bool) : Stmt → List String
  | .importFrom source aliases level =>
    match importSource module isPackage source level with
    | none => []
    | some base => (aliases.filter fun a => a.name == "*").map fun _ => base
  | _ => []

/-- The class that a statement makes at the top level of a module. -/
def classOf? (module : String) : Stmt → Option Definition
  | .classDef line _ name bases keywords decorators body =>
    some ⟨module, name, line, decorators, some ⟨bases, keywords, body⟩⟩
  | _ => none

theorem addSymbols_importNames (aliases : List Alias) (m : Module) :
    m.addSymbols (.importNames aliases) =
      { m with
        imports := m.imports.insertAll
          (importsIn m.name m.isPackage (.importNames aliases)) } := by
  induction aliases generalizing m with
  | nil => rfl
  | cons a rest ih =>
    change (m.addSymbols (.importNames [a])).addSymbols (.importNames rest) = _
    rw [ih]
    cases h : a.asName <;> simp [Module.addSymbols, importsIn, Ordered.insertAll, h]

theorem foldl_importFrom (base : String) (aliases : List Alias) (m : Module) :
    aliases.foldl (fun m a =>
      if a.name == "*" then { m with stars := m.stars ++ [base] }
      else
        let name := a.asName.getD a.name
        { m with imports := m.imports.insert name (base ++ "." ++ a.name) }) m =
      { m with
        imports := m.imports.insertAll ((aliases.filter fun a => a.name != "*").map fun a =>
          (a.asName.getD a.name, base ++ "." ++ a.name))
        stars := m.stars ++ (aliases.filter fun a => a.name == "*").map fun _ => base } := by
  induction aliases generalizing m with
  | nil => simp [Ordered.insertAll]
  | cons a rest ih =>
    rw [List.foldl_cons, ih]
    cases h : a.name == "*" with
    | true => simp [bne, h]
    | false => simp [bne, h, Ordered.insertAll]

/-- A statement adds what it binds and changes nothing else. -/
theorem addSymbols_eq (m : Module) (s : Stmt) :
    m.addSymbols s =
      { m with
        imports := m.imports.insertAll (importsIn m.name m.isPackage s)
        stars := m.stars ++ starsIn m.name m.isPackage s
        classes := m.classes.insertAll
          ((classOf? m.name s).toList.map fun d => (d.qualname, d.qualifiedName)) } := by
  cases s with
  | importNames aliases =>
    rw [addSymbols_importNames]
    simp [starsIn, classOf?, Ordered.insertAll]
  | importFrom source aliases level =>
    rw [Module.addSymbols]
    cases h : importSource m.name m.isPackage source level with
    | none => simp [importsIn, starsIn, classOf?, Ordered.insertAll, h]
    | some base =>
      simp only [foldl_importFrom]
      simp [importsIn, starsIn, classOf?, Ordered.insertAll, h]
  | classDef line first name bases keywords decorators body =>
    simp [Module.addSymbols, importsIn, starsIn, classOf?, Ordered.insertAll,
      Definition.qualifiedName]
  | _ => simp [Module.addSymbols, importsIn, starsIn, classOf?, Ordered.insertAll]

/-! ### What a module binds -/

theorem foldl_addSymbols (body : List Stmt) (m : Module) :
    body.foldl Module.addSymbols m =
      { m with
        imports := m.imports.insertAll (body.flatMap (importsIn m.name m.isPackage))
        stars := m.stars ++ body.flatMap (starsIn m.name m.isPackage)
        classes := m.classes.insertAll
          ((body.filterMap (classOf? m.name)).map fun d => (d.qualname, d.qualifiedName)) } := by
  induction body generalizing m with
  | nil => simp [Ordered.insertAll]
  | cons s rest ih =>
    rw [List.foldl_cons, ih, addSymbols_eq]
    cases h : classOf? m.name s <;> simp [Ordered.insertAll, h]

namespace Module

/-- The names that the top level of a module imports, with what they stand for. -/
def importedNames (m : Module) : List (String × String) :=
  (topLevel m.body).flatMap (importsIn m.name m.isPackage)

/-- The classes that the top level of a module makes, also those in blocks. -/
def recorded (m : Module) : List Definition :=
  (topLevel m.body).filterMap (classOf? m.name)

theorem IsRead.imports_eq (h : m.IsRead) : m.imports = Ordered.ofList m.importedNames := by
  obtain ⟨name, path, body, rfl⟩ := h
  simp [make, foldl_addSymbols, importedNames, Ordered.ofList]

theorem IsRead.classes_eq (h : m.IsRead) :
    m.classes = Ordered.ofList (m.recorded.map fun d => (d.qualname, d.qualifiedName)) := by
  obtain ⟨name, path, body, rfl⟩ := h
  simp [make, foldl_addSymbols, recorded, Ordered.ofList]

end Module

end Source

end Foundry

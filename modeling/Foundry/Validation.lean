import Foundry.Provider

/-!
Validation of records: the rules a member of a group obeys, checked in a fixed order.

A group that is an interface has to be among the direct interfaces of the class. Any other group
has to be an ancestor: the bases are searched depth first, leftmost first, down to a limit.
-/

namespace Foundry

variable {σ : Type}

inductive Rule
  | kind
  | visibility
  | concreteness
  | subtype
  | constructor
deriving DecidableEq, Repr

namespace Rule

/-- The rules in the order in which they are checked. -/
def all : List Rule := [.kind, .visibility, .concreteness, .subtype, .constructor]

def name : Rule → String
  | .kind => "check_kind"
  | .visibility => "check_public"
  | .concreteness => "check_not_abstract"
  | .subtype => "check_subtype"
  | .constructor => "check_default_constructor"

end Rule

/-- What a search for an ancestor has met: names already looked at, and whether it was cut short
by a cycle or by the limit. -/
structure Search where
  visited : List String
  truncated : Bool
deriving DecidableEq, Repr

/-- Goes on with each name until the group is found, which `none` says. -/
def searchEach (step : String → Search → Query σ (Option Search)) :
    List String → Search → Query σ (Option Search)
  | [], s => pure (some s)
  | n :: ns, s => do
    match ← step n s with
    | none => pure none
    | some s => searchEach step ns s

/-- Looks for the group at a name and, `depth` levels further, at its ancestors. `path` holds the
names on the way from the class itself. -/
def searchFrom (p : Provider σ) (group : String) :
    Nat → List String → String → Search → Query σ (Option Search)
  | 0, _, n, s => pure (if n = group then none else some { s with truncated := true })
  | depth + 1, path, n, s =>
    if n = group then pure none
    else if path.contains n then pure (some { s with truncated := true })
    else if s.visited.contains n then pure (some s)
    else do
      let s := { s with visited := n :: s.visited }
      match ← p.get n with
      | none => pure (some s)
      | some parent =>
        searchEach (searchFrom p group depth (n :: path)) parent.superclasses s

/-- The class reaches the group through at least one base. -/
def checkAncestor (p : Provider σ) (limit : Nat) (r : Record) : Query σ Unit := do
  let d := r.declaration
  match ← searchEach (searchFrom p r.group limit [d.qualifiedName]) d.superclasses ⟨[], false⟩ with
  | none => pure ()
  | some s =>
    throw (.rejected (.doesNotExtend d r.group (if s.truncated then some limit else none)))

def checkSubtype (p : Provider σ) (limit : Nat) (r : Record) : Query σ Unit := do
  match ← p.get r.group with
  | none => throw (.rejected (.groupUnknown r.declaration r.group))
  | some group =>
    if group.kind = .interface then
      if r.declaration.interfaces.contains r.group then pure ()
      else throw (.rejected (.doesNotImplement r.declaration r.group))
    else checkAncestor p limit r

/-- One rule on its own. -/
def Rule.check (p : Provider σ) (limit : Nat) (r : Record) : Rule → Query σ Unit
  | .kind =>
    if r.declaration.kind = .ordinary then pure ()
    else throw (.rejected (.notAClass r.declaration))
  | .visibility =>
    if r.declaration.isPublic then pure () else throw (.rejected (.notPublic r.declaration))
  | .concreteness =>
    if r.declaration.isAbstract then throw (.rejected (.isAbstract r.declaration)) else pure ()
  | .subtype => checkSubtype p limit r
  | .constructor =>
    if r.declaration.constructors.any Constructor.isDefault then pure ()
    else throw (.rejected (.missingDefaultConstructor r.declaration))

/-- Every rule in order; the first violation counts. -/
def validate (p : Provider σ) (limit : Nat) (r : Record) : Query σ Unit :=
  Rule.all.forM (Rule.check p limit r)

/-- The limit on the depth of the search, unless set otherwise. -/
def defaultDepth : Nat := 64

/-- A limit has to be positive. -/
def depthLimit (n : Int) : Except Fault Nat :=
  if n < 1 then .error .depthTooSmall else .ok n.toNat

end Foundry

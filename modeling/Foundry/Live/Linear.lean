/-!
Linear orders of ancestors. A class stands before its bases, the bases keep their order, and so
does every order of a base. There may be no such order.
-/

namespace Foundry.Live

variable {α : Type} [DecidableEq α]

/-- The first head of a list that stands behind no head. -/
def nextHead (lists : List (List α)) : Option α :=
  lists.findSome? fun l => match l with
    | [] => none
    | a :: _ => if lists.any fun m => m.tail.contains a then none else some a

/-- Takes an element off the front of every list it heads. -/
def dropHead (a : α) (lists : List (List α)) : List (List α) :=
  lists.map fun l => if l.head? = some a then l.tail else l

/-- The heads of lists, each once. -/
def heads (lists : List (List α)) : List α :=
  (lists.filterMap List.head?).foldl (fun acc a => if acc.contains a then acc else acc ++ [a]) []

/-- Merges lists into one that keeps the order of each, or gives the heads that stand in each
other's way; `fuel` bounds the length. -/
def merge : Nat → List (List α) → Except (List α) (List α)
  | 0, _ => .ok []
  | fuel + 1, lists =>
    let rest := lists.filter fun l => !l.isEmpty
    if rest.isEmpty then .ok []
    else match nextHead rest with
      | none => .error (heads rest)
      | some a => (merge fuel (dropHead a rest)).map (a :: ·)

/-- The order of a class with bases whose orders are known. -/
def linearize (a : α) (bases : List α) (order : α → List α) : Except (List α) (List α) :=
  let lists := bases.map order ++ [bases]
  (merge (lists.flatten.length + 1) lists).map (a :: ·)

end Foundry.Live

import DocumentStore.Path
import DocumentStore.Value.Number

/-!
# Sorting

Documents are sorted by the keys of a sort document, the first key deciding first. A missing
value sorts like null. Documents that the keys do not tell apart keep their order.
-/
namespace DocumentStore.Sort

/-! ## Insertion -/

/-- Puts an element behind the last one that it does not precede. The list holds the elements
so far from last to first. -/
def insertBehind {α : Type} (before : α → α → Bool) (x : α) : List α → List α
  | [] => [x]
  | y :: rest => if before x y then y :: insertBehind before x rest else x :: y :: rest

/-- Sorts by inserting the elements in order. Elements of which neither precedes the other keep
their order. -/
def stable {α : Type} (before : α → α → Bool) (xs : List α) : List α :=
  (xs.foldl (fun sorted x => insertBehind before x sorted) []).reverse

/-! ## Sort documents -/

def keyValue (d : Document) (path : String) : Value := (Path.lookup d path).getD .null

/-- Whether the direction of a key is ascending. Zero and negative numbers are not, nor are
false and null. -/
def isAscending (direction : Value) : Bool := direction.truthy && !direction.isNegative

/-- The order of two documents by the keys of a sort document. -/
def compareBy : List (String × Value) → Document → Document → Ordering
  | [], _, _ => .eq
  | (path, direction) :: rest, a, b =>
    let order :=
      if isAscending direction then (keyValue a path).sortCompare (keyValue b path)
      else (keyValue b path).sortCompare (keyValue a path)
    order.then (compareBy rest a b)

def documents (sort : Document) (ds : List Document) : List Document :=
  stable (fun a b => compareBy sort a b == .lt) ds

end DocumentStore.Sort

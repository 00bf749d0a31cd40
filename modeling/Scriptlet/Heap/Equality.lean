import Scriptlet.Heap.Basic

/-!
# Equality of values

Numbers, strings, truth values and null are equal if they are the same, where
what is no number equals nothing.  Functions are equal only to themselves.  Two
containers are equal if they are the same container or have equal contents.

The comparison stops at the first difference.  Containers that hold themselves
may have none to find, and then the comparison does not end.  It ends at the
latest when no pair of containers is left that was not compared before, so the
depth is bounded by the number of such pairs.
-/

namespace Scriptlet

/-- Compares lists from the front and stops at the first difference. -/
def equalLists {α : Type} (eq : α → α → Option Bool) : List α → List α → Option Bool
  | [], [] => some true
  | a :: as, b :: bs =>
    match eq a b with
    | some true => equalLists eq as bs
    | r => r
  | _, _ => some false

namespace Heap

/-- Whether two values are equal, as far as the comparison does not go deeper
than a number of containers. -/
def equalWithin (h : Heap) : Nat → Value → Value → Option Bool
  | _, .number a, .number b => some (a.eq b)
  | _, .string a, .string b => some (decide (a = b))
  | _, .boolean a, .boolean b => some (decide (a = b))
  | _, .null, .null => some true
  | _, .function a, .function b => some (decide (a = b))
  | depth, .array a, .array b =>
    if a = b then some true
    else if (h.elements a).size ≠ (h.elements b).size then some false
    else
      match depth with
      | 0 => none
      | depth + 1 =>
        equalLists (equalWithin h depth) (h.elements a).toList (h.elements b).toList
  | depth, .object a, .object b =>
    if a = b then some true
    else if (h.properties a).length ≠ (h.properties b).length then some false
    else
      match depth with
      | 0 => none
      | depth + 1 =>
        equalLists
          (fun (p q : String × Value) =>
            if p.1 = q.1 then equalWithin h depth p.2 q.2 else some false)
          (h.properties a) (h.properties b)
  | _, _, _ => some false

/-- Whether two values are equal, unless the comparison does not end. -/
def equal (h : Heap) (a b : Value) : Option Bool :=
  h.equalWithin (h.containers * h.containers + 1) a b

end Heap

end Scriptlet

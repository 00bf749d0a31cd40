import Scriptlet.Heap.Display
import Scriptlet.Heap.Equality
import Scriptlet.Heap.Fault

/-!
# Binary operators

The operators on two values that are both known.  Addition joins texts as soon
as one operand is a string.  Numbers are ordered as numbers and strings by
their characters, and nothing else is ordered.  `&&` and `||` choose one of
their operands; the evaluator does not come here for them, since it need not
know the right one.
-/

namespace Scriptlet

/-- The order that an operator asks for between two numbers. -/
def compareNumbers (op : BinaryOp) (a b : Number) : Bool :=
  match op with
  | .lt => a.lt b
  | .le => a.le b
  | .gt => b.lt a
  | .ge => b.le a
  | _ => false

/-- The order that an operator asks for between two strings. -/
def compareStrings (op : BinaryOp) (a b : String) : Bool :=
  match op with
  | .lt => decide (a < b)
  | .le => !decide (b < a)
  | .gt => decide (b < a)
  | .ge => !decide (a < b)
  | _ => false

/-- The arithmetic of an operator. -/
def arithmetic (op : BinaryOp) (a b : Number) : Number :=
  match op with
  | .add => a.add b
  | .sub => a.sub b
  | .mul => a.mul b
  | .div => a.div b
  | _ => a.rem b

namespace Heap

/-- Applies an operator to two values. -/
def applyBinary (h : Heap) (op : BinaryOp) (left right : Value) (span : Span) :
    Except Halt Value :=
  let refuse (fault : TypeFault) : Except Halt Value := .error (.fault (.type fault span))
  match op with
  | .add =>
    match left, right with
    | .number a, .number b => .ok (.number (arithmetic op a b))
    | .string _, _ | _, .string _ =>
      match h.display left, h.display right with
      | some a, some b => .ok (.string (a ++ b))
      | _, _ => .error .endless
    | _, _ => refuse (.addition left.tag right.tag)
  | .sub | .mul | .div | .rem =>
    match left, right with
    | .number a, .number b => .ok (.number (arithmetic op a b))
    | _, _ => refuse (.arithmetic op left.tag right.tag)
  | .eq =>
    match h.equal left right with
    | some b => .ok (.boolean b)
    | none => .error .endless
  | .ne =>
    match h.equal left right with
    | some b => .ok (.boolean !b)
    | none => .error .endless
  | .lt | .le | .gt | .ge =>
    match left, right with
    | .number a, .number b => .ok (.boolean (compareNumbers op a b))
    | .string a, .string b => .ok (.boolean (compareStrings op a b))
    | _, _ => refuse (.comparison op left.tag right.tag)
  | .and => .ok (if left.isTruthy then right else left)
  | .or => .ok (if left.isTruthy then left else right)

end Heap

end Scriptlet

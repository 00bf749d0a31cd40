import Scriptlet.Heap.Basic
import Scriptlet.Text.Escape

/-!
# Text of values

A string is its own text.  Inside a container it is quoted, with escapes.  An
array lists its elements and an object its properties in the order of their
names.  The names are not quoted.

A container that holds itself has no text.  The display therefore goes down at
most as many levels as there are containers, and one more for a reference without
a cell, which counts as empty.  If no container on the way occurs twice, it never
gets deeper.
-/

namespace Scriptlet

/-- A truth value as text. -/
def boolText (b : Bool) : String := if b then "true" else "false"

/-- The text of a function. -/
def Callable.text (c : Callable) : String :=
  match c.name with
  | some name => "<function " ++ name ++ ">"
  | none => "<function>"

/-- The text of a value inside a container, where a string is quoted. -/
def quoted (text : Value → Option String) : Value → Option String
  | .string s => some (String.ofList (Text.Style.element.quote s.toList))
  | v => text v

namespace Heap

/-- The text of a value, as far as it does not go deeper than a number of
containers. -/
def displayWithin (h : Heap) : Nat → Value → Option String
  | _, .number n => some n.text
  | _, .string s => some s
  | _, .boolean b => some (boolText b)
  | _, .null => some "null"
  | _, .function ref => some (h.functions.getD ref default).text
  | 0, .array _ => none
  | 0, .object _ => none
  | depth + 1, .array ref => do
    let texts ← (h.elements ref).toList.mapM (quoted (displayWithin h depth))
    return "[" ++ ", ".intercalate texts ++ "]"
  | depth + 1, .object ref => do
    let texts ← (h.properties ref).mapM fun (key, v) => do
      let text ← quoted (displayWithin h depth) v
      return key ++ ": " ++ text
    return "\x7b" ++ ", ".intercalate texts ++ "\x7d"

/-- The text of a value.  A container that holds itself has none. -/
def display (h : Heap) (v : Value) : Option String := h.displayWithin (h.containers + 1) v

/-- Whether a display comes to an object, as far as it does not go deeper than a number of
containers.  It goes through what a container holds from the front and stops at the object. -/
def comesToWithin (h : Heap) (ref : Nat) : Nat → Value → Option Bool
  | 0, _ => none
  | depth + 1, v =>
    if v = .object ref then some true else (h.inside v).anyM (comesToWithin h ref depth)

/-- Whether the display of a value comes to an object, unless it comes to no end before that. -/
def comesTo (h : Heap) (ref : Nat) (v : Value) : Option Bool :=
  h.comesToWithin ref (h.containers + 1) v

end Heap

end Scriptlet

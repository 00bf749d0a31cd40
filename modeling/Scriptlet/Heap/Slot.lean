import Scriptlet.Heap.Display
import Scriptlet.Heap.Fault

/-!
# Slots of containers

A slot is a place in a container, named by a key.  In an array the key is an
index: a number that is a natural number, where minus zero is zero.  In an object
any value is a key, by its text.  Of a string the characters and the length can
be read.

A slot that is not there reads as null.  Writing behind the end of an array
fills the gap with null.  What cannot be written to is refused and left alone.

Two writes are not refused but break the machine down (`Crash`).  A length is
counted in 64 bits, so no array gets an element at `2 ^ 64` or beyond.  And an
object is taken hold of before the text of the key is made, so the key must not
hold that object.  Otherwise memory is taken to be large enough.
-/

namespace Scriptlet

/-- How many indexes there are. -/
def indexBound : Nat := 0x10000000000000000

/-- A slot that can be written to. -/
inductive Slot where
  /-- An element of an array, maybe behind its end. -/
  | element (ref index : Nat)
  /-- A property of an object. -/
  | property (ref : Nat) (name : String)
deriving DecidableEq, Repr, Inhabited

/-- Sets an element of an array, which grows if it has to. -/
def setElement (a : Array Value) (i : Nat) (v : Value) : Array Value :=
  if i < a.size then a.setIfInBounds i v
  else (a ++ Array.replicate (i - a.size) Value.null).push v

@[simp] theorem size_setElement (a : Array Value) (i : Nat) (v : Value) :
    (setElement a i v).size = max a.size (i + 1) := by
  unfold setElement
  split <;> simp <;> omega

/-- The elements after one is set: that one, those before, and null in a gap. -/
theorem getElem?_setElement (a : Array Value) (i j : Nat) (v : Value) :
    (setElement a i v)[j]? =
      if j = i then some v
      else if j < a.size then a[j]?
      else if j < i then some .null
      else none := by
  unfold setElement
  split
  · rw [Array.getElem?_setIfInBounds]
    grind
  · rw [Array.getElem?_push, Array.getElem?_append, Array.getElem?_replicate]
    grind

namespace Heap

/-- Reads a slot.  There is no result for a key without a text. -/
def readSlot (h : Heap) (container key : Value) : Option Value :=
  match container, key with
  | .array ref, .number n => some ((n.toNat?.bind fun i => (h.elements ref)[i]?).getD .null)
  | .array ref, .string k =>
    some (if k = "length" then .number (Number.ofNat (h.elements ref).size) else .null)
  | .string s, .string k =>
    some (if k = "length" then .number (Number.ofNat s.length) else .null)
  | .string s, .number n =>
    some (((n.toNat?.bind fun i => s.toList[i]?).map fun c => .string (String.ofList [c])).getD
      .null)
  | .object ref, key =>
    (h.display key).map fun k => (Properties.get? k (h.properties ref)).getD .null
  | _, _ => some .null

/-- The slot that a container has for a key to write to. -/
def slot (h : Heap) (container key : Value) (span : Span) : Except Halt Slot :=
  let refuse (fault : String → TypeFault) : Except Halt Slot :=
    match h.display key with
    | some k => .error (.fault (.type (fault k) span))
    | none => .error .endless
  match container with
  | .array ref =>
    let index := match key with
      | .number n => n.toNat?
      | _ => none
    match index with
    | some i => if i < indexBound then .ok (.element ref i) else .error (.crash .capacity)
    | none => refuse .arrayIndex
  | .object ref =>
    if h.comesTo ref key = some true then .error (.crash .borrowed)
    else
      match h.display key with
      | some k => .ok (.property ref k)
      | none => .error .endless
  | other => refuse fun k => .container k other.tag

/-- Puts a value into a slot. -/
@[inline] def setSlot (h : Heap) (s : Slot) (v : Value) : Heap :=
  match s with
  | .element ref i => { h with arrays := h.arrays.modify ref fun a => setElement a i v }
  | .property ref k => { h with objects := h.objects.modify ref fun ps => Properties.insert k v ps }

end Heap

end Scriptlet

import Mathlib.Data.List.Forall2
import Scriptlet.Heap.Scope

/-!
# Cells that stand for each other

A heap has cells of four sorts.  A *pairing* says which cells of one heap stand
for which cells of another one.  Two values are *alike* under a pairing if they
are the same number, text or truth value, or refer to cells that stand for each
other.  Bindings, scopes and functions are alike if their parts are.  Heaps are
alike if cells that stand for each other hold what is alike, and if the cells
that are made next will stand for each other too.

A cell *refers* to the cells that its contents mention, and a list of values
*reaches* whatever can be come to from it along such references.
-/

namespace Scriptlet

/-! ## Cells -/

/-- The sorts of cells. -/
inductive CellSort where
  | frame | array | object | function
deriving DecidableEq, Repr, Inhabited

/-- A cell, by its sort and its reference. -/
structure Cell where
  /-- What it holds. -/
  sort : CellSort
  /-- Where it lies. -/
  ref : Nat
deriving DecidableEq, Repr, Inhabited

namespace Heap

/-- The number of cells of a sort. -/
def size (h : Heap) : CellSort → Nat
  | .frame => h.frames.size
  | .array => h.arrays.size
  | .object => h.objects.size
  | .function => h.functions.size

/-- Whether a cell is on a heap. -/
def Has (h : Heap) (c : Cell) : Prop := c.ref < h.size c.sort

/-- What a function cell holds. -/
def callable (h : Heap) (ref : Nat) : Callable := h.functions.getD ref default

end Heap

/-- What a cell holds.  A frame counts as what it binds names to. -/
inductive Contents where
  | frame (binding? : String → Option Binding)
  | array (elements : List Value)
  | object (properties : Properties)
  | function (callable : Callable)

/-- What counts as the contents of a cell that is not on the heap. -/
def Contents.empty : CellSort → Contents
  | .frame => .frame fun _ => none
  | .array => .array []
  | .object => .object []
  | .function => .function default

/-- The sort of cell that holds it. -/
def Contents.sort : Contents → CellSort
  | .frame _ => .frame
  | .array _ => .array
  | .object _ => .object
  | .function _ => .function

namespace Heap

/-- What is in a cell.  A cell that is not on the heap counts as empty. -/
def contents (h : Heap) (c : Cell) : Contents :=
  match c.sort with
  | .frame => .frame (h.bindingIn? c.ref)
  | .array => .array (h.elements c.ref).toList
  | .object => .object (h.properties c.ref)
  | .function => .function (h.callable c.ref)

/-- What is in a cell is of the sort of the cell. -/
theorem sort_contents (h : Heap) (c : Cell) : (h.contents c).sort = c.sort := by
  obtain ⟨s, i⟩ := c
  cases s <;> rfl

/-- A cell that is not there yet is empty. -/
theorem contents_fresh (h : Heap) (s : CellSort) (k : Nat) :
    h.contents ⟨s, h.size s + k⟩ = Contents.empty s := by
  cases s with
  | frame =>
    refine congrArg Contents.frame (funext fun name => ?_)
    simp [bindingIn?, bindings, size]
  | array => simp [contents, elements, size, Contents.empty]
  | object => simp [contents, properties, size, Contents.empty]
  | function => simp [contents, callable, size, Contents.empty]

/-- Whether two heaps hold the same in a cell. -/
def SameAt (h h' : Heap) (c : Cell) : Prop :=
  (h.Has c ↔ h'.Has c) ∧ h.contents c = h'.contents c

theorem SameAt.refl (h : Heap) (c : Cell) : h.SameAt h c := ⟨.rfl, rfl⟩

theorem SameAt.trans {h₁ h₂ h₃ : Heap} {c : Cell} (first : h₁.SameAt h₂ c)
    (second : h₂.SameAt h₃ c) : h₁.SameAt h₃ c :=
  ⟨first.1.trans second.1, first.2.trans second.2⟩

end Heap

/-! ## References -/

/-- The cell that a value refers to. -/
def Value.cell? : Value → Option Cell
  | .array ref => some ⟨.array, ref⟩
  | .object ref => some ⟨.object, ref⟩
  | .function ref => some ⟨.function, ref⟩
  | .number _ | .string _ | .boolean _ | .null => none

/-- The cells that are mentioned in what a cell holds. -/
def Contents.Mentions : Contents → Cell → Prop
  | .frame binding?, d => ∃ name b, binding? name = some b ∧ b.value.cell? = some d
  | .array elements, d => ∃ v ∈ elements, v.cell? = some d
  | .object properties, d => ∃ p ∈ properties, p.2.cell? = some d
  | .function callable, d =>
    ∃ f s, callable = .closure f s ∧ ∃ frame ∈ s.frames, d = ⟨.frame, frame⟩

namespace Heap

/-- The cells that can be come to from some values. -/
inductive Reaches (h : Heap) (vs : List Value) : Cell → Prop
  /-- A value refers to the cell. -/
  | root {v : Value} {c : Cell} : v ∈ vs → v.cell? = some c → Reaches h vs c
  /-- A cell that is reached refers to the cell. -/
  | step {c d : Cell} : Reaches h vs c → (h.contents c).Mentions d → Reaches h vs d

end Heap

/-! ## Pairings -/

/-- Which cells stand for which. -/
abbrev Pairing := Cell → Cell → Prop

/-- No cell stands for two cells, and none is stood for by two. -/
structure Pairing.OneToOne (ρ : Pairing) : Prop where
  right : ∀ {c d d' : Cell}, ρ c d → ρ c d' → d = d'
  left : ∀ {c c' d : Cell}, ρ c d → ρ c' d → c = c'

/-- A reference stands for another one exactly if the reference it is compared with does. -/
theorem Pairing.OneToOne.ref_eq_iff {ρ : Pairing} (one : ρ.OneToOne) {s : CellSort}
    {i i' j j' : Nat} (h : ρ ⟨s, i⟩ ⟨s, j⟩) (h' : ρ ⟨s, i'⟩ ⟨s, j'⟩) : i = i' ↔ j = j' := by
  constructor
  · rintro rfl
    exact congrArg Cell.ref (one.right h h')
  · rintro rfl
    exact congrArg Cell.ref (one.left h h')

/-- Each cell is paired with itself alone. -/
theorem Pairing.oneToOne_eq : Pairing.OneToOne Eq where
  right same same' := same.symm.trans same'
  left same same' := same.trans same'.symm

/-! ## What is alike -/

/-- The same, up to the cells referred to. -/
inductive Value.Alike (ρ : Pairing) : Value → Value → Prop
  | number (n : Number) : Alike ρ (.number n) (.number n)
  | string (s : String) : Alike ρ (.string s) (.string s)
  | boolean (b : Bool) : Alike ρ (.boolean b) (.boolean b)
  | null : Alike ρ .null .null
  | array {i j : Nat} : ρ ⟨.array, i⟩ ⟨.array, j⟩ → Alike ρ (.array i) (.array j)
  | object {i j : Nat} : ρ ⟨.object, i⟩ ⟨.object, j⟩ → Alike ρ (.object i) (.object j)
  | function {i j : Nat} : ρ ⟨.function, i⟩ ⟨.function, j⟩ → Alike ρ (.function i) (.function j)

namespace Value.Alike

variable {ρ : Pairing} {v w : Value}

/-- Values that are alike are of the same kind. -/
theorem tag_eq (h : Alike ρ v w) : v.tag = w.tag := by
  cases h <;> rfl

/-- Values that are alike are both true or both false. -/
theorem isTruthy_eq (h : Alike ρ v w) : v.isTruthy = w.isTruthy := by
  cases h <;> rfl

theorem satisfies_eq (h : Alike ρ v w) (type : TypeName) :
    v.satisfies type = w.satisfies type := by
  cases h <;> cases type <;> rfl

/-- A value is like itself if the cell that it refers to stands for itself. -/
theorem self (v : Value) (h : ∀ c, v.cell? = some c → ρ c c) : v.Alike ρ v := by
  cases v with
  | number n => exact .number n
  | string s => exact .string s
  | boolean b => exact .boolean b
  | null => exact .null
  | array => exact .array (h _ rfl)
  | object => exact .object (h _ rfl)
  | function => exact .function (h _ rfl)

theorem refl (v : Value) : v.Alike Eq v := self v fun _ _ => rfl

/-- More cells may be paired. -/
theorem mono {ρ' : Pairing} (more : ∀ {c d}, ρ c d → ρ' c d) (h : Alike ρ v w) :
    Alike ρ' v w := by
  cases h with
  | number n => exact .number n
  | string s => exact .string s
  | boolean b => exact .boolean b
  | null => exact .null
  | array related => exact .array (more related)
  | object related => exact .object (more related)
  | function related => exact .function (more related)

/-- Null is like nothing else. -/
theorem eq_null_iff (h : Alike ρ v w) : v = .null ↔ w = .null := by
  cases h <;> simp

/-- Values that refer to the same cells are the same. -/
protected theorem eq (h : Alike Eq v w) : v = w := by
  cases h with
  | null => rfl
  | boolean => rfl
  | number => rfl
  | string => rfl
  | array same | object same | function same => cases same; rfl

end Value.Alike

/-- The same name with values that are alike. -/
def Property.Alike (ρ : Pairing) (p q : String × Value) : Prop := p.1 = q.1 ∧ p.2.Alike ρ q.2

theorem Property.Alike.eq {p q : String × Value} (h : Property.Alike Eq p q) : p = q :=
  Prod.ext h.1 h.2.eq

/-- Lists that are related by equality are equal. -/
theorem forall₂_eq {α : Type} {R : α → α → Prop} (same : ∀ {a b}, R a b → a = b) {as bs : List α}
    (h : List.Forall₂ R as bs) : as = bs :=
  List.forall₂_eq_eq_eq ▸ h.imp fun _ _ => same

/-- Setting a property keeps objects alike. -/
theorem insert_alike {ρ : Pairing} {before before' : Properties} {key : String} {v v' : Value}
    (hb : List.Forall₂ (Property.Alike ρ) before before') (hv : v.Alike ρ v') :
    List.Forall₂ (Property.Alike ρ) (before.insert key v) (before'.insert key v') := by
  induction hb with
  | nil => exact .cons ⟨rfl, hv⟩ .nil
  | @cons entry entry' rest rest' same tail ih =>
    obtain ⟨k, w⟩ := entry
    obtain ⟨k', w'⟩ := entry'
    obtain ⟨rfl, hw⟩ := same
    simp only [Properties.insert]
    split
    next => exact .cons ⟨rfl, hv⟩ (.cons ⟨rfl, hw⟩ tail)
    next =>
      split
      next => exact .cons ⟨rfl, hv⟩ tail
      next => exact .cons ⟨rfl, hw⟩ ih

/-- The same, but for values that are alike. -/
structure Binding.Alike (ρ : Pairing) (b b' : Binding) : Prop where
  value : b.value.Alike ρ b'.value
  isConstant : b.isConstant = b'.isConstant
  type : b.type = b'.type

theorem Binding.Alike.eq {b b' : Binding} (h : b.Alike Eq b') : b = b' := by
  obtain ⟨value, isConstant, type⟩ := b
  obtain ⟨values, same, same'⟩ := h
  obtain rfl := values.eq
  obtain rfl : isConstant = b'.isConstant := same
  obtain rfl : type = b'.type := same'
  rfl

/-- Values that are alike make bindings that are. -/
theorem Value.Alike.binding {ρ : Pairing} {v w : Value} (h : v.Alike ρ w) (isConstant : Bool)
    (type : Option TypeName) : Binding.Alike ρ ⟨v, isConstant, type⟩ ⟨w, isConstant, type⟩ :=
  ⟨h, rfl, rfl⟩

/-- Frame by frame, the scopes stand for each other. -/
def Scope.Alike (ρ : Pairing) (s s' : Scope) : Prop :=
  List.Forall₂ (fun i j => ρ ⟨.frame, i⟩ ⟨.frame, j⟩) s.frames s'.frames

theorem Scope.Alike.refl (s : Scope) : s.Alike Eq s := List.forall₂_same.mpr fun _ _ => rfl

/-- The frames that scopes declare in are paired. -/
theorem Scope.Alike.own {ρ : Pairing} {s s' : Scope} (h : s.Alike ρ s') :
    ρ ⟨.frame, s.own⟩ ⟨.frame, s'.own⟩ := by
  cases h with
  | cons own _ => exact own

/-- The same function of the language, or functions of a program that are related and were
made in scopes that are alike. -/
inductive Callable.Alike (F : Function → Function → Prop) (ρ : Pairing) :
    Callable → Callable → Prop
  | closure {f f' : Function} {s s' : Scope} :
    F f f' → s.Alike ρ s' → Alike F ρ (.closure f s) (.closure f' s')
  | builtin (b : Builtin) : Alike F ρ (.builtin b) (.builtin b)

/-- The same function of the language, or functions of a program that are related and were
made in scopes that are related. -/
inductive Callable.Related (F : Function → Function → Prop) (Z : Scope → Scope → Prop) :
    Callable → Callable → Prop
  | closure {f f' : Function} {s s' : Scope} :
    F f f' → Z s s' → Related F Z (.closure f s) (.closure f' s')
  | builtin (b : Builtin) : Related F Z (.builtin b) (.builtin b)

/-- Functions that are related have the same name. -/
theorem Callable.Related.name_eq {F : Function → Function → Prop} {Z : Scope → Scope → Prop}
    {c c' : Callable} (names : ∀ {f f'}, F f f' → f.name = f'.name) (h : c.Related F Z c') :
    c.name = c'.name := by
  cases h with
  | closure related _ => exact names related
  | builtin => rfl

theorem Callable.Alike.related {F : Function → Function → Prop} {ρ : Pairing} {c c' : Callable}
    (h : c.Alike F ρ c') : c.Related F (Scope.Alike ρ) c' := by
  cases h with
  | closure functions scopes => exact .closure functions scopes
  | builtin b => exact .builtin b

/-- Contents of the same sort with parts that are alike. -/
inductive Contents.Alike (F : Function → Function → Prop) (ρ : Pairing) :
    Contents → Contents → Prop
  | frame {f f' : String → Option Binding} :
    (∀ name, Option.Rel (Binding.Alike ρ) (f name) (f' name)) → Alike F ρ (.frame f) (.frame f')
  | array {vs vs' : List Value} :
    List.Forall₂ (Value.Alike ρ) vs vs' → Alike F ρ (.array vs) (.array vs')
  | object {ps ps' : Properties} :
    List.Forall₂ (Property.Alike ρ) ps ps' → Alike F ρ (.object ps) (.object ps')
  | function {c c' : Callable} : c.Alike F ρ c' → Alike F ρ (.function c) (.function c')

theorem Contents.Alike.sort_eq {F : Function → Function → Prop} {ρ : Pairing} {x y : Contents}
    (h : x.Alike F ρ y) : x.sort = y.sort := by
  cases h <;> rfl

/-- Cells that stand for each other are both on their heaps or both not, and hold what is
alike. -/
structure Heap.Paired (F : Function → Function → Prop) (ρ : Pairing) (h h' : Heap) : Prop where
  has : ∀ {c d : Cell}, ρ c d → (h.Has c ↔ h'.Has d)
  contents : ∀ {c d : Cell}, ρ c d → (h.contents c).Alike F ρ (h'.contents d)

/-- The cells that are made next stand for each other too. -/
structure Heap.Alike (F : Function → Function → Prop) (ρ : Pairing) (h h' : Heap) : Prop
    extends Heap.Paired F ρ h h' where
  fresh : ∀ (s : CellSort) (k : Nat), ρ ⟨s, h.size s + k⟩ ⟨s, h'.size s + k⟩

namespace Heap.Paired

variable {F : Function → Function → Prop} {ρ : Pairing} {h h' : Heap} {i j : Nat}

/-- Cells that are paired are of the same sort. -/
theorem sort_eq (paired : h.Paired F ρ h') {c d : Cell} (related : ρ c d) : c.sort = d.sort := by
  rw [← h.sort_contents c, ← h'.sort_contents d]
  exact (paired.contents related).sort_eq

theorem frames (paired : h.Paired F ρ h') (related : ρ ⟨.frame, i⟩ ⟨.frame, j⟩) (name : String) :
    Option.Rel (Binding.Alike ρ) (h.bindingIn? i name) (h'.bindingIn? j name) := by
  cases paired.contents related with
  | frame alike => exact alike name

theorem arrays (paired : h.Paired F ρ h') (related : ρ ⟨.array, i⟩ ⟨.array, j⟩) :
    List.Forall₂ (Value.Alike ρ) (h.elements i).toList (h'.elements j).toList := by
  cases paired.contents related with
  | array alike => exact alike

theorem objects (paired : h.Paired F ρ h') (related : ρ ⟨.object, i⟩ ⟨.object, j⟩) :
    List.Forall₂ (Property.Alike ρ) (h.properties i) (h'.properties j) := by
  cases paired.contents related with
  | object alike => exact alike

/-- Functions that are paired have bodies that are related and scopes that are alike. -/
theorem functions (paired : h.Paired F ρ h') (related : ρ ⟨.function, i⟩ ⟨.function, j⟩) :
    (h.callable i).Alike F ρ (h'.callable j) := by
  cases paired.contents related with
  | function alike => exact alike

end Heap.Paired

theorem rel_mono {α β : Type} {R R' : α → β → Prop} (more : ∀ {a b}, R a b → R' a b)
    {o : Option α} {o' : Option β} (h : Option.Rel R o o') : Option.Rel R' o o' := by
  cases h with
  | none => exact .none
  | some related => exact .some (more related)

namespace Contents.Alike

variable {F : Function → Function → Prop} {ρ ρ' : Pairing} {x y : Contents}

theorem mono (more : ∀ {c d}, ρ c d → ρ' c d) (h : x.Alike F ρ y) : x.Alike F ρ' y := by
  cases h with
  | frame bindings =>
    refine .frame fun name => rel_mono (fun h => ?_) (bindings name)
    exact ⟨h.value.mono more, h.isConstant, h.type⟩
  | array elements => exact .array (elements.imp fun _ _ h => h.mono more)
  | object properties =>
    exact .object (properties.imp fun _ _ h => ⟨h.1, h.2.mono more⟩)
  | function callable =>
    cases callable with
    | closure related scopes =>
      exact .function (.closure related (scopes.imp fun _ _ h => more h))
    | builtin b => exact .function (.builtin b)

theorem empty (s : CellSort) : (Contents.empty s).Alike F ρ (Contents.empty s) := by
  cases s with
  | frame => exact .frame fun _ => .none
  | array => exact .array .nil
  | object => exact .object .nil
  | function => exact .function (.builtin .print)

/-- Contents are like themselves if the cells in it stand for themselves, and if a function
is like itself. -/
theorem self (x : Contents) (cells : ∀ c, x.Mentions c → ρ c c)
    (functions : ∀ f s, x = .function (.closure f s) → F f f) : x.Alike F ρ x := by
  cases x with
  | frame binding? =>
    refine .frame fun name => ?_
    cases found : binding? name with
    | none => exact .none
    | some b =>
      exact .some ⟨.self b.value fun c refers => cells c ⟨name, b, found, refers⟩, rfl, rfl⟩
  | array vs =>
    refine .array (List.forall₂_same.mpr fun v inside => ?_)
    exact .self v fun c refers => cells c ⟨v, inside, refers⟩
  | object ps =>
    refine .object (List.forall₂_same.mpr fun p inside => ⟨rfl, ?_⟩)
    exact .self p.2 fun c refers => cells c ⟨p, inside, refers⟩
  | function callable =>
    cases callable with
    | closure f s =>
      refine .function (.closure (functions f s rfl) ?_)
      exact List.forall₂_same.mpr fun i inside => cells _ ⟨f, s, rfl, i, inside, rfl⟩
    | builtin b => exact .function (.builtin b)

end Contents.Alike

/-- A heap is alike to itself if its functions are like themselves. -/
theorem Heap.alike_self {F : Function → Function → Prop} (h : Heap)
    (functions : ∀ ref f s, h.callable ref = .closure f s → F f f) : h.Alike F Eq h where
  has {c d} same := by
    subst same
    rfl
  contents {c d} same := by
    subst same
    refine .self _ (fun _ _ => rfl) fun f s found => ?_
    obtain ⟨sort, ref⟩ := c
    cases sort with
    | function => exact functions ref f s (Contents.function.inj found)
    | frame | array | object => cases found
  fresh s k := rfl

end Scriptlet

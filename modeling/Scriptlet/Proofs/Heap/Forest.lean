import Scriptlet.Eval.Machine
import Scriptlet.Heap.Forest
import Scriptlet.Proofs.Heap.Evolution

/-!
# Names follow the scopes around

A scope carries the frames of all scopes around it.  In a forest these are the
frames that one comes to by going outwards from scope to scope, since a scope is
made with those of the scope around it and keeps them (`Forest.Formed`).  So a name
is resolved to the nearest scope that binds it (`Forest.Formed.resolve_eq`), and
looking up, assigning and listing names agree.

Each scope has a frame of its own, so a declaration and an assignment change one
binding of one scope, and only look-ups that come to it see a change
(`Forest.Formed.changes`).
-/

namespace Scriptlet

namespace Forest

/-! ## Formed forests -/

/-- Each scope has its own frame and the frames of the scope around it, which is older. -/
structure Formed (F : Forest) : Prop where
  /-- There are as many frames as scopes. -/
  size : F.nodes.length = F.heap.frames.size
  /-- Each scope has the frame of its number. -/
  own : ∀ {i : Nat} {node : Node}, F.nodes[i]? = some node → node.scope.own = i
  /-- A scope of its own has no other frames. -/
  root : ∀ {i : Nat} {node : Node}, F.nodes[i]? = some node → node.parent = none →
    node.scope.outer = []
  /-- A scope inside another one has its frames. -/
  inside : ∀ {i j : Nat} {node : Node}, F.nodes[i]? = some node → node.parent = some j →
    j < i ∧ ∃ around, F.nodes[j]? = some around ∧ node.scope.outer = around.scope.frames

theorem formed_empty : Formed empty where
  size := rfl
  own found := nomatch found
  root found := nomatch found
  inside found := nomatch found

namespace Formed

variable {F : Forest}

/-- Other cells and other bindings leave a forest formed. -/
theorem withHeap (formed : F.Formed) {h : Heap} (size : h.frames.size = F.heap.frames.size) :
    Formed { F with heap := h } where
  size := formed.size.trans size.symm
  own := formed.own
  root := formed.root
  inside := formed.inside

/-- A scope with a new frame may be added, on its own or inside another one. -/
theorem add (formed : F.Formed) {parent : Option Nat} {made : Scope × Heap}
    (size : made.2.frames.size = F.heap.frames.size + 1)
    (own : made.1.own = F.heap.frames.size)
    (root : parent = none → made.1.outer = [])
    (inside : ∀ j, parent = some j →
      ∃ around, F.nodes[j]? = some around ∧ made.1.outer = around.scope.frames) :
    (F.add parent made).Formed := by
  have older : ∀ {i : Nat} {node : Node}, (F.add parent made).nodes[i]? = some node →
      F.nodes[i]? = some node ∨ (i = F.nodes.length ∧ node = ⟨made.1, parent⟩) := by
    intro i node found
    simp only [Forest.add, List.getElem?_append, List.getElem?_singleton] at found
    grind
  have stays : ∀ {j : Nat} {node : Node}, F.nodes[j]? = some node →
      j < F.nodes.length ∧ (F.add parent made).nodes[j]? = some node := by
    intro j node found
    obtain ⟨below, _⟩ := List.getElem?_eq_some_iff.mp found
    exact ⟨below, (List.getElem?_append_left below).trans found⟩
  constructor
  case size =>
    simp [Forest.add, formed.size, size]
  case own =>
    intro i node found
    obtain old | ⟨rfl, rfl⟩ := older found
    · exact formed.own old
    · exact own.trans formed.size.symm
  case root =>
    intro i node found alone
    obtain old | ⟨rfl, rfl⟩ := older found
    · exact formed.root old alone
    · exact root alone
  case inside =>
    intro i j node found enclosed
    obtain old | ⟨rfl, rfl⟩ := older found
    · obtain ⟨below, around, there, frames⟩ := formed.inside old enclosed
      exact ⟨below, around, (stays there).2, frames⟩
    · obtain ⟨around, there, frames⟩ := inside j enclosed
      exact ⟨(stays there).1, around, (stays there).2, frames⟩

end Formed

/-! ## Operations -/

theorem Formed.change {F : Forest} (formed : F.Formed) (i : Nat) (op : Scope → Except Fault Heap)
    (size : ∀ s h, op s = .ok h → h.frames.size = F.heap.frames.size) :
    (F.change i op).Formed := by
  unfold Forest.change
  split
  next => exact formed
  next node _ =>
    split
    next h ok => exact formed.withHeap (size node.scope h ok)
    next => exact formed

end Forest

namespace Heap

variable {h h' : Heap} {s : Scope} {name : String} {span : Span}

theorem size_bind (h : Heap) (frame : Nat) (name : String) (b : Binding) :
    (h.bind frame name b).frames.size = h.frames.size := by
  simp [bind]

theorem size_rebind (h : Heap) (frame : Nat) (name : String) (v : Value) :
    (h.rebind frame name v).frames.size = h.frames.size := by
  simp [rebind]

theorem size_of_declare {b : Binding} (ok : h.declare s name b span = .ok h') :
    h'.frames.size = h.frames.size := by
  unfold declare at ok
  split at ok
  next => cases ok
  next =>
    cases ok
    exact size_bind h s.own name b

theorem size_of_assign {v : Value} (ok : h.assign s name v span = .ok h') :
    h'.frames.size = h.frames.size := by
  unfold assign at ok
  split at ok
  next => cases ok
  next frame _ =>
    cases ok
    exact size_rebind h frame name v

end Heap

namespace Forest

theorem Formed.operate {F : Forest} (formed : F.Formed) (op : Operation) :
    (F.operate op).Formed := by
  cases op with
  | newRoot =>
    refine formed.add ?_ rfl (fun _ => rfl) fun j same => absurd same.symm (Option.some_ne_none j)
    simp [Heap.newRoot, Heap.newFrame]
  | newGlobal =>
    refine formed.add ?_ rfl (fun _ => rfl) fun j same => absurd same.symm (Option.some_ne_none j)
    simp [Heap.newGlobal, Heap.newRoot, Heap.newFrame, Heap.newFunction]
  | newEnclosed outer =>
    simp only [Forest.operate]
    split
    next => exact formed
    next node found =>
      refine formed.add ?_ rfl (fun same => absurd same (Option.some_ne_none outer)) ?_
      · simp [Heap.newEnclosed, Heap.newFrame]
      · intro j same
        obtain rfl : outer = j := Option.some.inj same
        exact ⟨node, found, rfl⟩
  | declare i name b span =>
    exact formed.change i (fun s => F.heap.declare s name b span)
      fun _ _ ok => Heap.size_of_declare ok
  | assign i name v span =>
    exact formed.change i (fun s => F.heap.assign s name v span)
      fun _ _ ok => Heap.size_of_assign ok
  | newArray | newObject | newFunction => exact formed.withHeap rfl

/-- An operation that fails changes nothing. -/
theorem change_of_error (F : Forest) {i : Nat} {node : Node} (found : F.nodes[i]? = some node)
    (op : Scope → Except Fault Heap) {e : Fault} (failed : op node.scope = .error e) :
    F.change i op = F := by
  simp only [Forest.change, found, failed]

/-- Whatever a host does, the forest is formed. -/
theorem formed_grown (ops : List Operation) : (grown ops).Formed := by
  suffices from_any : ∀ F : Forest, F.Formed → (ops.foldl operate F).Formed from
    from_any empty formed_empty
  induction ops with
  | nil => exact fun _ formed => formed
  | cons op ops ih => exact fun F formed => ih _ (formed.operate op)

/-! ## Resolving names -/

namespace Formed

variable {F : Forest} (formed : F.Formed) {i : Nat} {node : Node} (found : F.nodes[i]? = some node)

include formed found

theorem binding?_eq (name : String) : F.binding? i name = F.heap.bindingIn? i name := by
  simp only [binding?, found, Option.bind_some, formed.own found]

theorem parent?_eq : F.parent? i = node.parent := by
  simp only [parent?, found, Option.bind_some]
  cases enclosed : node.parent with
  | none => rfl
  | some j =>
    rw [Option.filter_some, decide_eq_true (formed.inside found enclosed).1]
    rfl

/-- A name is resolved to the nearest scope that binds it. -/
theorem resolve_eq (name : String) : F.heap.resolve node.scope name = F.nearest name i := by
  induction i using Nat.strongRecOn generalizing node with
  | ind i ih =>
    rw [nearest_eq, binding?_eq formed found, parent?_eq formed found, Heap.resolve, Scope.frames,
      formed.own found, Heap.resolveIn]
    cases F.heap.bindingIn? i name with
    | some b => rfl
    | none =>
      cases enclosed : node.parent with
      | none =>
        rw [formed.root found enclosed]
        rfl
      | some j =>
        obtain ⟨below, around, there, frames⟩ := formed.inside found enclosed
        rw [frames]
        exact ih j below there

/-- Looking a name up gives the value bound by the nearest scope that binds it. -/
theorem lookup_eq (name : String) (span : Span) :
    F.heap.lookup node.scope name span =
      match F.nearest name i with
      | some (_, b) => .ok b.value
      | none => .error (.undeclared name span) := by
  cases nearest : F.nearest name i with
  | some target => simp only [Heap.lookup, resolve_eq formed found, nearest]
  | none => simp only [Heap.lookup, resolve_eq formed found, nearest]

end Formed

/-! ## Listing names -/

end Forest

namespace Heap

theorem mem_names_iff {h : Heap} {s : Scope} {name : String} :
    name ∈ h.names s ↔ ∃ frame ∈ s.frames, (h.bindingIn? frame name).isSome := by
  simp only [names, List.mem_flatMap, List.mem_map, bindingIn?, List.lookup_isSome_iff, beq_iff_eq,
    eq_comm (a := name)]

theorem isSome_resolveIn_iff {h : Heap} {name : String} {frames : List Nat} :
    (h.resolveIn name frames).isSome ↔ ∃ frame ∈ frames, (h.bindingIn? frame name).isSome := by
  induction frames with
  | nil => simp [resolveIn]
  | cons frame rest ih =>
    rw [resolveIn]
    cases bound : h.bindingIn? frame name with
    | some b => simp [bound]
    | none => simp [bound, ih]

/-- The names listed are those that can be looked up. -/
theorem mem_names_iff_lookup {h : Heap} {s : Scope} {name : String} (span : Span) :
    name ∈ h.names s ↔ ∃ v, h.lookup s name span = .ok v := by
  rw [mem_names_iff, ← isSome_resolveIn_iff, lookup, resolve]
  cases h.resolveIn name s.frames with
  | some found => simp
  | none => simp

end Heap

namespace Forest

/-! ## Changing one binding -/

namespace Formed

variable {F : Forest} (formed : F.Formed) {i : Nat} {node : Node} (found : F.nodes[i]? = some node)

/-- If one binding differs, only names that come to it are resolved in another way. -/
theorem nearest_withHeap {h : Heap} {name : String} {b : Binding}
    (binding : ∀ j n, binding? { F with heap := h } j n =
      if j = i ∧ n = name then some b else F.binding? j n) (n : String) (j : Nat) :
    nearest { F with heap := h } n j =
      if n = name ∧ (nearest { F with heap := h } n j).map Prod.fst = some i then some (i, b)
      else F.nearest n j := by
  induction j using Nat.strongRecOn with
  | ind j ih =>
    rw [nearest_eq, nearest_eq F, binding]
    by_cases here : j = i ∧ n = name
    · simp [here]
    · rw [if_neg here]
      cases F.binding? j n with
      | some other =>
        refine (if_neg fun same => here ⟨?_, same.1⟩).symm
        simpa using same.2
      | none =>
        -- The way goes on outwards, and the links do not depend on the heap.
        rw [show parent? { F with heap := h } j = F.parent? j from rfl]
        dsimp only
        cases around : F.parent? j with
        | none => simp
        | some k => exact ih k (lt_of_parent? around)

include formed found

/-- A heap with the same scopes that differs in one binding differs in nothing else. -/
theorem changes {h : Heap} {name : String} {b : Binding}
    (size : h.frames.size = F.heap.frames.size)
    (binding : ∀ frame n, h.bindingIn? frame n =
      if frame = i ∧ n = name then some b else F.heap.bindingIn? frame n)
    (rest : h.arrays = F.heap.arrays ∧ h.objects = F.heap.objects ∧
      h.functions = F.heap.functions) : F.Changes h i name b := by
  have formed' : Formed { F with heap := h } := formed.withHeap size
  have bound : ∀ j n, binding? { F with heap := h } j n =
      if j = i ∧ n = name then some b else F.binding? j n := by
    intro j n
    cases there : F.nodes[j]? with
    | some other => rw [formed'.binding?_eq there, formed.binding?_eq there, binding]
    | none =>
      have elsewhere : ¬ (j = i ∧ n = name) := fun same => by simp [same.1, found] at there
      rw [if_neg elsewhere]
      simp [binding?, there]
  refine ⟨bound, fun j other there n span => ?_, rest⟩
  have nearest := nearest_withHeap bound n j
  rw [formed'.lookup_eq there, formed.lookup_eq there]
  by_cases comes : n = name ∧ (Forest.nearest { F with heap := h } n j).map Prod.fst = some i
  · rw [if_pos comes] at nearest ⊢
    rw [nearest]
  · rw [if_neg comes] at nearest ⊢
    rw [nearest]

/-- A declaration adds one binding. -/
theorem changes_bind (name : String) (b : Binding) :
    F.Changes (F.heap.bind node.scope.own name b) i name b := by
  have inside : i < F.heap.frames.size := by
    rw [← formed.size]
    exact (List.getElem?_eq_some_iff.mp found).1
  refine formed.changes found (Heap.size_bind ..) (fun frame n => ?_) ⟨rfl, rfl, rfl⟩
  rw [Heap.bindingIn?_bind, formed.own found]
  simp only [inside, and_true]

/-- An assignment replaces one value. -/
theorem changes_rebind {name : String} {b : Binding} (v : Value)
    (bound : F.heap.bindingIn? i name = some b) :
    F.Changes (F.heap.rebind i name v) i name { b with value := v } := by
  refine formed.changes found (Heap.size_rebind ..) (fun frame n => ?_) ⟨rfl, rfl, rfl⟩
  rw [Heap.bindingIn?_rebind]
  split
  next here => rw [here.1, here.2, bound, Option.map_some]
  next => rfl

end Formed

/-! ## Declaring and assigning -/

/-- The nearest scope that binds a name is one of the forest, and binds it. -/
theorem binding?_of_nearest {F : Forest} {name : String} {j : Nat} {b : Binding} {i : Nat}
    (nearest : F.nearest name i = some (j, b)) : F.binding? j name = some b := by
  induction i using Nat.strongRecOn with
  | ind i ih =>
    rw [nearest_eq] at nearest
    cases bound : F.binding? i name with
    | some _ =>
      rw [bound] at nearest
      cases nearest
      exact bound
    | none =>
      rw [bound] at nearest
      cases around : F.parent? i with
      | none =>
        rw [around] at nearest
        cases nearest
      | some k =>
        rw [around] at nearest
        exact ih k (lt_of_parent? around) nearest

end Forest

/-- A check fails only for a declared type that the value does not have. -/
theorem checkType_eq (name : String) (type : Option TypeName) (v : Value) (span : Span) :
    checkType name type v span =
      match type.filter (fun expected => v.satisfies expected = false) with
      | some expected => .error (.mismatch name expected v.tag span)
      | none => .ok () := by
  cases type with
  | none => rfl
  | some expected =>
    cases satisfied : v.satisfies expected with
    | true => simp [checkType, Option.filter_some, satisfied]
    | false => simp [checkType, Option.filter_some, satisfied]

namespace Forest

namespace Formed

variable {F : Forest} (formed : F.Formed) {i : Nat} {node : Node} (found : F.nodes[i]? = some node)

include formed found

/-- Assigning replaces the value of the nearest binding, unless that binding forbids it. -/
theorem assign_spec (name : String) (v : Value) (span : Span) :
    match F.nearest name i with
    | none => F.heap.assign node.scope name v span = .error (.undeclared name span)
    | some (j, b) =>
      if b.isConstant then F.heap.assign node.scope name v span = .error (.constant name span)
      else match b.type.filter (fun expected => v.satisfies expected = false) with
        | some expected =>
          F.heap.assign node.scope name v span = .error (.mismatch name expected v.tag span)
        | none =>
          ∃ h, F.heap.assign node.scope name v span = .ok h ∧
            F.Changes h j name { b with value := v } := by
  simp only [Heap.assign, Heap.assignFrame, resolve_eq formed found]
  cases nearest : F.nearest name i with
  | none => rfl
  | some target =>
    obtain ⟨j, b⟩ := target
    dsimp only
    split
    next => rfl
    next =>
      rw [checkType_eq]
      cases b.type.filter (fun expected => v.satisfies expected = false) with
      | some expected => rfl
      | none =>
        have bound := binding?_of_nearest nearest
        obtain ⟨target, there, -⟩ := Option.bind_eq_some_iff.mp bound
        rw [formed.binding?_eq there] at bound
        exact ⟨_, rfl, formed.changes_rebind there v bound⟩

/-- Declaring adds a binding to a scope, unless the name is reserved or bound there. -/
theorem declare_spec (name : String) (b : Binding) (span : Span) :
    if Keyword.isReserved name then
      F.heap.declare node.scope name b span = .error (.reserved name span)
    else if (F.binding? i name).isSome then
      F.heap.declare node.scope name b span = .error (.duplicate name span)
    else
      ∃ h, F.heap.declare node.scope name b span = .ok h ∧ F.Changes h i name b := by
  simp only [Heap.declare, Heap.declareFault?, binding?_eq formed found, formed.own found]
  split
  next => rfl
  next =>
    split
    next => rfl
    next =>
      have changes := formed.changes_bind found name b
      rw [formed.own found] at changes
      exact ⟨_, rfl, changes⟩

end Formed

end Forest

namespace Action

/-- A declaration of a program is one in its scope, and one that fails changes nothing. -/
theorem declare_eq (name : String) (b : Binding) (span : Span) (m : Machine) :
    declare name b span m =
      match m.heap.declare m.scope name b span with
      | .ok h => .ok () { m with heap := h }
      | .error e => .error (.fault e) m := by
  simp only [declare, Heap.declare]
  cases m.heap.declareFault? m.scope name span <;> rfl

/-- An assignment of a program is one in its scope, and one that fails changes nothing. -/
theorem assign_eq (name : String) (v : Value) (span : Span) (m : Machine) :
    assign name v span m =
      match m.heap.assign m.scope name v span with
      | .ok h => .ok () { m with heap := h }
      | .error e => .error (.fault e) m := by
  simp only [assign, Heap.assign]
  cases m.heap.assignFrame m.scope name v span <;> rfl

end Action

/-! ## What scopes do -/

/-- In every scope that a host can make, names are looked up, listed and assigned in the
nearest scope that binds them, and declared in the scope itself.  An operation that
succeeds changes one binding, and with it the look-ups that come to this binding and no
others.  One that fails says why and changes nothing, in a program too. -/
theorem scopes_follow_links (ops : List Operation) {i : Nat} {node : Node}
    (made : (Forest.grown ops).nodes[i]? = some node) (name : String) (span : Span) :
    let F := Forest.grown ops
    (F.heap.lookup node.scope name span =
      match F.nearest name i with
      | some (_, b) => .ok b.value
      | none => .error (.undeclared name span)) ∧
    (name ∈ F.heap.names node.scope ↔ ∃ v, F.heap.lookup node.scope name span = .ok v) ∧
    (∀ v, match F.nearest name i with
      | none => F.heap.assign node.scope name v span = .error (.undeclared name span)
      | some (j, b) =>
        if b.isConstant then F.heap.assign node.scope name v span = .error (.constant name span)
        else match b.type.filter (fun expected => v.satisfies expected = false) with
          | some expected =>
            F.heap.assign node.scope name v span = .error (.mismatch name expected v.tag span)
          | none =>
            ∃ h, F.heap.assign node.scope name v span = .ok h ∧
              F.Changes h j name { b with value := v }) ∧
    (∀ b, if Keyword.isReserved name then
        F.heap.declare node.scope name b span = .error (.reserved name span)
      else if (F.binding? i name).isSome then
        F.heap.declare node.scope name b span = .error (.duplicate name span)
      else
        ∃ h, F.heap.declare node.scope name b span = .ok h ∧ F.Changes h i name b) ∧
    (∀ v e, F.heap.assign node.scope name v span = .error e →
      F.operate (.assign i name v span) = F) ∧
    (∀ b e, F.heap.declare node.scope name b span = .error e →
      F.operate (.declare i name b span) = F) ∧
    (∀ m v, Action.assign name v span m =
      match m.heap.assign m.scope name v span with
      | .ok h => .ok () { m with heap := h }
      | .error e => .error (.fault e) m) ∧
    ∀ m b, Action.declare name b span m =
      match m.heap.declare m.scope name b span with
      | .ok h => .ok () { m with heap := h }
      | .error e => .error (.fault e) m := by
  intro F
  have formed : F.Formed := Forest.formed_grown ops
  refine ⟨formed.lookup_eq made name span, Heap.mem_names_iff_lookup span,
    fun v => formed.assign_spec made name v span, fun b => formed.declare_spec made name b span,
    fun v e failed => ?_, fun b e failed => ?_, fun m v => Action.assign_eq name v span m,
    fun m b => Action.declare_eq name b span m⟩
  · exact F.change_of_error made (fun s => F.heap.assign s name v span) failed
  · exact F.change_of_error made (fun s => F.heap.declare s name b span) failed

/-- An inner scope sees a variable that is declared around it, and cannot give it a value
of another type. -/
theorem scopes_follow_links_outwards :
    let F := Forest.grown [.newGlobal, .newEnclosed 0,
      .declare 0 "x" ⟨.boolean true, false, some .boolean⟩ ⟨0, 1⟩]
    F.nodes[1]? = some ⟨⟨1, [0]⟩, some 0⟩ ∧
    (∃ v, F.heap.lookup ⟨1, [0]⟩ "x" ⟨5, 6⟩ = .ok v) ∧
    F.operate (.assign 1 "x" .null ⟨5, 6⟩) = F := by
  intro F
  have made : F.nodes[1]? = some ⟨⟨1, [0]⟩, some 0⟩ := rfl
  obtain ⟨-, listed, -, -, failing, -⟩ := scopes_follow_links _ made "x" ⟨5, 6⟩
  refine ⟨made, listed.mp (by decide +kernel), ?_⟩
  exact failing .null (.mismatch "x" .boolean .null ⟨5, 6⟩) rfl

end Scriptlet

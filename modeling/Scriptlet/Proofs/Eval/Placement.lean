import Scriptlet.Proofs.Eval.Twin
import Scriptlet.Tree.Placement

/-!
# Signals stay where they are received

A signal that comes out of a statement is written in that statement, outside of
all functions in it, and no loop around it receives it (`confines_perform`).
So a loop never ends in `break` or `continue`, and what is called from a loop
never breaks it off.

If all code of a session is well placed then so is every function on the heap
(`Heap.Placed`), and no signal is left without a receiver.  Well-placed code is
compared with itself here: placement is a likeness, and a machine whose functions
are well placed is a twin of itself.
-/

open Scriptlet.Action Scriptlet.Evaluate

namespace Scriptlet

/-! ## Results of actions -/

/-- All results of an action have a property. -/
def Gives {α : Type} (Q : α → Prop) (a : Action α) : Prop :=
  ∀ (m m' : Machine) (v : α), a m = .ok v m' → Q v

namespace Gives

variable {α β : Type} {Q : β → Prop}

theorem pure {v : β} (h : Q v) : Gives Q (Pure.pure v) := by
  intro m m' w ok
  cases ok
  exact h

theorem bind {P : α → Prop} {a : Action α} {f : α → Action β} (first : Gives P a)
    (second : ∀ v, P v → Gives Q (f v)) : Gives Q (a >>= f) := by
  intro m m' w ok
  obtain ⟨v, m₁, ok₁, ok₂⟩ := ok_of_bind ok
  exact second v (first m m₁ v ok₁) m₁ m' w ok₂

/-- Only the last action decides about the result. -/
theorem after {a : Action α} {f : α → Action β} (h : ∀ v, Gives Q (f v)) : Gives Q (a >>= f) :=
  bind (P := fun _ => True) (fun _ _ _ _ => trivial) fun v _ => h v

theorem enclosed {s : Scope} {a : Action β} (h : Gives Q a) : Gives Q (Action.enclosed s a) := by
  refine after fun inner => ?_
  intro m m' w ok
  unfold within at ok
  cases outcome : a { m with scope := inner } with
  | ok v n =>
    rw [outcome] at ok
    cases ok
    exact h _ n w outcome
  | error e n =>
    rw [outcome] at ok
    cases ok

end Gives

/-! ## Signals of statements -/

/-- The signal that an ending is, with its span. -/
def Flow.signal? : Flow → Option (Signal × Span)
  | .normal _ => none
  | .break_ s => some (.break_, s)
  | .continue_ s => some (.continue_, s)
  | .return_ _ s => some (.return_, s)

/-- An ending whose signal, if it is one, is among some. -/
def Flow.Within (gs : List (Signal × Span)) (flow : Flow) : Prop :=
  ∀ g, flow.signal? = some g → g ∈ gs

theorem Flow.Within.normal (gs : List (Signal × Span)) (v : Value) : (Flow.normal v).Within gs :=
  fun _ none_ => nomatch none_

theorem Flow.Within.mono {gs gs' : List (Signal × Span)} {flow : Flow} (h : flow.Within gs)
    (more : ∀ g ∈ gs, g ∈ gs') : flow.Within gs' :=
  fun g is_signal => more g (h g is_signal)

/-- Whether all endings that a performer gives have signals of the statement only. -/
structure Performer.Confines (p : Performer) : Prop where
  execute : ∀ s : Stmt, Gives (Flow.Within s.signals) (p.execute s)
  rounds : ∀ (c update : Option Expr) (b : Stmt),
    Gives (Flow.Within (b.signals.filter fun g => g.1 = .return_)) (p.rounds c update b)

namespace Performer.Confines

variable {p : Performer} (confines : p.Confines)

include confines

theorem sequence : ∀ ss : List Stmt,
    Gives (Flow.Within (allSignals ss)) (Evaluate.sequence p ss)
  | [] => .pure (.normal _ _)
  | s :: rest => by
    refine .bind (confines.execute s) fun flow inside => ?_
    have widened : flow.Within (allSignals (s :: rest)) :=
      inside.mono fun g => List.mem_append_left _
    cases flow with
    | normal =>
      intro m m' v ok
      exact (sequence rest m m' v ok).mono fun g => List.mem_append_right _
    | break_ => exact .pure widened
    | continue_ => exact .pure widened
    | return_ => exact .pure widened

theorem statement (s : Stmt) : Gives (Flow.Within s.signals) (Evaluate.statement p s) := by
  have done : ∀ {gs v}, Gives (Flow.Within gs) (Pure.pure (.normal v)) :=
    .pure (.normal _ _)
  cases s with
  | block body => exact .after fun _ => .enclosed (confines.sequence body)
  | declare => exact .after fun _ => .after fun _ => done
  | constant => exact .after fun _ => .after fun _ => done
  | expr => exact .after fun _ => done
  | print => exact .after fun _ => .after fun _ => .after fun _ => done
  | if_ c a b =>
    refine .after fun v => ?_
    split
    next =>
      intro m m' flow ok
      exact (confines.execute a m m' flow ok).mono fun g => List.mem_append_left _
    next =>
      cases b with
      | none => exact done
      | some b =>
        intro m m' flow ok
        exact (confines.execute b m m' flow ok).mono fun g => List.mem_append_right _
  | while_ c b => exact confines.rounds (some c) none b
  | for_ init c update b =>
    exact .after fun _ => .enclosed (.after fun _ => confines.rounds c update b)
  | break_ s => exact .pure fun g is_signal => by cases is_signal; exact .head _
  | continue_ s => exact .pure fun g is_signal => by cases is_signal; exact .head _
  | return_ value s =>
    refine .after fun v => .pure fun g is_signal => ?_
    cases is_signal
    exact .head _
  | function => exact .after fun _ => .after fun _ => done

theorem loop (c update : Option Expr) (b : Stmt) :
    Gives (Flow.Within (b.signals.filter fun g => g.1 = .return_))
      (Evaluate.loop p c update b) := by
  refine .after fun v => ?_
  split
  next =>
    refine .bind (confines.execute b) fun flow inside => ?_
    cases flow with
    | normal => exact .after fun _ => confines.rounds c update b
    | continue_ => exact .after fun _ => confines.rounds c update b
    | break_ => exact .pure (.normal _ _)
    | return_ v s =>
      refine .pure fun g is_signal => ?_
      cases is_signal
      exact List.mem_filter.mpr ⟨inside _ rfl, rfl⟩
  next => exact .pure (.normal _ _)

end Performer.Confines

/-- Evaluation gives endings with signals of the statement only. -/
theorem confines_perform : ∀ fuel : Nat, (perform fuel).Confines
  | 0 => ⟨fun _ _ _ _ ok => (nomatch ok), fun _ _ _ _ _ _ ok => nomatch ok⟩
  | fuel + 1 => ⟨(confines_perform fuel).statement, (confines_perform fuel).loop⟩

/-! ## Placement as a likeness -/

theorem mem_of_arePlaced : ∀ {es : List Expr}, arePlaced es = true → ∀ e ∈ es, e.isPlaced = true
  | [], _ => fun _ inside => nomatch inside
  | e :: es, placed => by
    simp only [arePlaced, Bool.and_eq_true] at placed
    exact List.forall_mem_cons.mpr ⟨placed.1, mem_of_arePlaced placed.2⟩

theorem mem_of_propertiesPlaced : ∀ {ps : List (String × Expr)}, propertiesPlaced ps = true →
    ∀ p ∈ ps, p.2.isPlaced = true
  | [], _ => fun _ inside => nomatch inside
  | (_, e) :: ps, placed => by
    simp only [propertiesPlaced, Bool.and_eq_true] at placed
    exact List.forall_mem_cons.mpr ⟨placed.1, mem_of_propertiesPlaced placed.2⟩

theorem mem_of_allPlaced {inLoop inFunction : Bool} : ∀ {ss : List Stmt},
    allPlaced inLoop inFunction ss = true → ∀ s ∈ ss, s.isPlaced inLoop inFunction = true
  | [], _ => fun _ inside => nomatch inside
  | s :: ss, placed => by
    simp only [allPlaced, Bool.and_eq_true] at placed
    exact List.forall_mem_cons.mpr ⟨placed.1, mem_of_allPlaced placed.2⟩

/-- Where a statement stands: inside of a loop or not, and inside of a function or not. -/
structure Standing where
  inLoop : Bool
  inFunction : Bool

/-- The signals that something around a statement receives. -/
def Standing.receives (p : Standing) : Signal → Bool
  | .break_ | .continue_ => p.inLoop
  | .return_ => p.inFunction

section

variable {p : Standing}

/-- Two things that are the same and have a property. -/
def Both {α : Type} (P : α → Bool) (a b : α) : Prop := a = b ∧ P a = true

theorem forall₂_both {α : Type} {P : α → Bool} {as : List α} (h : ∀ a ∈ as, P a = true) :
    List.Forall₂ (Both P) as as :=
  List.forall₂_same.mpr fun a inside => ⟨rfl, h a inside⟩

theorem rel_both_optional {e : Option Expr} (h : optionalPlaced e = true) :
    Option.Rel (Both Expr.isPlaced) e e := by
  refine rel_self ?_
  rintro x rfl
  exact ⟨rfl, h⟩

theorem rel_both_statement {inLoop inFunction : Bool} {s : Option Stmt}
    (h : statementPlaced inLoop inFunction s = true) :
    Option.Rel (Both (Stmt.isPlaced inLoop inFunction)) s s := by
  refine rel_self ?_
  rintro x rfl
  exact ⟨rfl, h⟩

end

theorem Expr.parts_of_isPlaced {e : Expr} (h : e.isPlaced = true) :
    e.Parts (fun x => Both Expr.isPlaced x x) fun f => Both Function.isPlaced f f := by
  cases e with
  | number | string | boolean | null | identifier => trivial
  | group | member | unary | stepAfter | function => exact ⟨rfl, h⟩
  | array => exact fun e inside => ⟨rfl, mem_of_arePlaced h e inside⟩
  | object => exact fun p inside => ⟨rfl, mem_of_propertiesPlaced h p inside⟩
  | index | binary | assign =>
    simp only [isPlaced, Bool.and_eq_true] at h
    exact ⟨⟨rfl, h.1⟩, rfl, h.2⟩
  | call =>
    simp only [isPlaced, Bool.and_eq_true] at h
    exact ⟨⟨rfl, h.1⟩, fun e inside => ⟨rfl, mem_of_arePlaced h.2 e inside⟩⟩
  | conditional =>
    simp only [isPlaced, Bool.and_eq_true] at h
    exact ⟨⟨rfl, h.1.1⟩, ⟨rfl, h.1.2⟩, rfl, h.2⟩

theorem Stmt.parallel_of_isPlaced {p : Standing} {s : Stmt}
    (h : s.isPlaced p.inLoop p.inFunction = true) :
    Stmt.Parallel (Both Expr.isPlaced) (Both Function.isPlaced) Eq
      (Both (Stmt.isPlaced p.inLoop p.inFunction)) (Both (Stmt.isPlaced true p.inFunction))
      (fun g => p.receives g = true) s s := by
  cases s with
  | block => exact .block (forall₂_both (mem_of_allPlaced h)) rfl
  | declare => exact .declare (rel_both_optional h) rfl
  | constant => exact .constant ⟨rfl, h⟩ rfl
  | expr => exact .expr ⟨rfl, h⟩ rfl
  | print => exact .print ⟨rfl, h⟩ rfl
  | if_ =>
    simp only [isPlaced, Bool.and_eq_true] at h
    exact .if_ ⟨rfl, h.1.1⟩ ⟨rfl, h.1.2⟩ (rel_both_statement h.2) rfl
  | while_ =>
    simp only [isPlaced, Bool.and_eq_true] at h
    exact .while_ ⟨rfl, h.1⟩ ⟨rfl, h.2⟩ rfl
  | for_ =>
    simp only [isPlaced, Bool.and_eq_true] at h
    exact .for_ (rel_both_statement h.1.1.1) (rel_both_optional h.1.1.2)
      (rel_both_optional h.1.2) ⟨rfl, h.2⟩ rfl
  | break_ => exact .break_ h rfl
  | continue_ => exact .continue_ h rfl
  | return_ =>
    simp only [isPlaced, Bool.and_eq_true] at h
    exact .return_ h.1 (rel_both_optional h.2) rfl
  | function => exact .function ⟨rfl, h⟩ rfl

theorem Function.parallel_of_isPlaced {f : Function} (h : f.isPlaced = true) :
    Function.Parallel Eq (Both (Stmt.isPlaced false true)) f f := by
  obtain ⟨name, params, returns, body, span⟩ := f
  exact ⟨rfl, List.forall₂_same.mpr fun p _ => ⟨rfl, rfl, rfl⟩, rfl,
    forall₂_both (mem_of_allPlaced h), rfl⟩

/-- Code that is well placed is like itself. -/
def placement : Likeness where
  span := Eq
  Place := Standing
  top := ⟨false, false⟩
  body := ⟨false, true⟩
  loop p := ⟨true, p.inFunction⟩
  allowed p g := p.receives g = true
  fails f := f.isEscape = false
  expr := Both Expr.isPlaced
  stmt p := Both (Stmt.isPlaced p.inLoop p.inFunction)
  function := Both Function.isPlaced
  expr_parallel := by
    rintro e _ ⟨rfl, placed⟩
    exact Expr.parallel_of_parts (Expr.parts_of_isPlaced placed) rfl
  stmt_parallel := by
    rintro p s _ ⟨rfl, placed⟩
    exact Stmt.parallel_of_isPlaced placed
  function_parallel := by
    rintro f _ ⟨rfl, placed⟩
    exact Function.parallel_of_isPlaced placed
  return_of_loop h := h
  fails_of_not_isEscape h := h
  fails_of_top {g _} h := by cases g <;> cases h
  fails_of_body {g _} h other := by
    cases g with
    | break_ | continue_ => cases h
    | return_ => exact absurd rfl other

/-! ## Well-placed machines -/

/-- Whether what can be called is well placed. -/
def Callable.isPlaced : Callable → Bool
  | .closure f _ => f.isPlaced
  | .builtin _ => true

/-- All functions on the heap are well placed. -/
def Heap.Placed (h : Heap) : Prop := ∀ c ∈ h.functions, c.isPlaced = true

/-- A function cell, also one that is not there, holds what is well placed. -/
theorem Heap.Placed.callable {h : Heap} (placed : h.Placed) (ref : Nat) :
    (h.callable ref).isPlaced = true := by
  by_cases inside : ref < h.functions.size
  · simp only [Heap.callable, Array.getD_eq_getD_getElem?, Array.getElem?_eq_getElem inside]
    exact placed _ (Array.getElem_mem inside)
  · have missing : h.functions[ref]? = none := Array.getElem?_eq_none (Nat.le_of_not_lt inside)
    simp only [Heap.callable, Array.getD_eq_getD_getElem?, missing]
    rfl

theorem Heap.Placed.alike {h : Heap} (placed : h.Placed) : h.Alike placement.function Eq h := by
  refine h.alike_self fun ref f s found => ⟨rfl, ?_⟩
  have placed_ref := placed.callable ref
  rwa [found] at placed_ref

theorem Heap.placed_of_alike {h : Heap} (alike : h.Alike placement.function Eq h) : h.Placed := by
  intro c inside
  obtain ⟨ref, within, rfl⟩ := Array.mem_iff_getElem.mp inside
  have found : h.callable ref = h.functions[ref] := by
    simp [callable, within]
  have same := alike.functions (rfl : (⟨.function, ref⟩ : Cell) = ⟨.function, ref⟩)
  rw [found] at same
  revert same
  generalize h.functions[ref] = c
  intro same
  cases same with
  | closure both _ => exact both.2
  | builtin => rfl

/-! ## Sessions -/

/-- Whether the code of a request is well placed. -/
def Request.isPlaced : Request → Bool
  | .run program => program.isPlaced
  | .evaluate e => e.isPlaced
  | .call _ _ _ => true

/-- The machines that a session may come to in which all code is well placed. -/
def Machine.ReachedPlaced (m : Machine) : Prop :=
  Machine.initial.LaterBy (fun r => r.isPlaced = true) (fun c => c.isPlaced = true) m

theorem Request.alike_of_isPlaced {r : Request} (h : r.isPlaced = true) :
    r.Alike placement Eq r := by
  cases r with
  | run program => exact .run (forall₂_both (mem_of_allPlaced h))
  | evaluate e => exact .evaluate ⟨rfl, h⟩
  | call callee args s =>
    exact .call (.refl callee) (List.forall₂_same.mpr fun v _ => .refl v) rfl

/-- What a request for well-placed code comes to on a well-placed machine. -/
theorem ends_of_isPlaced (fuel : Nat) {r : Request} (h : r.isPlaced = true) {m : Machine}
    (placed : m.heap.Placed) (prints : m.heap.Prints) :
    Ends placement (Machine.Twin placement Eq (Scope.Alike Eq) m m) (Value.Alike Eq)
      (r.serve (perform fuel) m) (r.serve (perform fuel) m) :=
  (simulation_twin Pairing.oneToOne_eq m m rfl).serve fuel (Request.alike_of_isPlaced h) m m
    (Machine.twin_self placed.alike prints)

theorem Machine.ReachedPlaced.placed {m : Machine} (reached : m.ReachedPlaced) :
    m.heap.Placed ∧ m.heap.Prints := by
  induction reached with
  | refl =>
    refine ⟨fun c inside => ?_, Heap.prints_initial⟩
    have only : c ∈ #[Callable.builtin .print] := inside
    cases Array.mem_singleton.mp only
    rfl
  | @serve m' fuel r _ asked ih =>
    have ends := ends_of_isPlaced fuel asked ih.1 ih.2
    unfold after
    cases outcome : r.serve (perform fuel) m' with
    | ok v n =>
      rw [outcome] at ends
      cases ends with
      | ok _ twin => exact ⟨Heap.placed_of_alike twin.heap.alike, twin.heap.prints⟩
    | error e n =>
      rw [outcome] at ends
      cases ends with
      | error _ twin => exact ⟨Heap.placed_of_alike twin.heap.alike, twin.heap.prints⟩
  | supply _ supplies made ih =>
    exact ⟨fun c inside => (made c inside).elim (ih.1 c) id, ih.2.supplies supplies⟩

/-- In a session of well-placed code no request fails because of a signal that nobody
receives.  Whatever the code, a loop does not end in `break` or `continue`, and a signal
that comes out of a statement is written in it, outside of all functions and of all loops
that receive it.  So a call lets no signal through. -/
theorem signals_are_received :
    (∀ m : Machine, m.ReachedPlaced → ∀ (fuel : Nat) (r : Request), r.isPlaced = true →
      ∀ (g : Signal) (s : Span) (m' : Machine),
        r.serve (perform fuel) m ≠ .error (.fault (.escape g s)) m') ∧
    (∀ (fuel : Nat) (s : Stmt) (m m' : Machine) (flow : Flow), s.isLoop = true →
      (perform fuel).execute s m = .ok flow m' →
      (∃ v, flow = .normal v) ∨ ∃ v span, flow = .return_ v span) ∧
    ∀ (fuel : Nat) (s : Stmt) (m m' : Machine) (flow : Flow),
      (perform fuel).execute s m = .ok flow m' →
      ∀ g span, flow.signal? = some (g, span) → (g, span) ∈ s.signals := by
  refine ⟨?_, ?_, ?_⟩
  · intro m reached fuel r asked g s m' escaped
    have ends := ends_of_isPlaced fuel asked reached.placed.1 reached.placed.2
    rw [escaped] at ends
    cases ends with
    | error alike _ => cases alike.fails
  · intro fuel s m m' flow is_loop ok
    have inside := (confines_perform fuel).execute s m m' flow ok
    have kept : ∀ g ∈ s.signals, g.1 = .return_ := by
      cases s with
      | while_ | for_ =>
        intro g received
        simpa using (List.mem_filter.mp received).2
      | block | declare | constant | expr | print | if_ | break_ | continue_ | return_
      | function => cases is_loop
    cases flow with
    | normal v => exact .inl ⟨v, rfl⟩
    | return_ v span => exact .inr ⟨v, span, rfl⟩
    | break_ span => cases kept _ (inside _ rfl)
    | continue_ span => cases kept _ (inside _ rfl)
  · intro fuel s m m' flow ok g span is_signal
    exact (confines_perform fuel).execute s m m' flow ok (g, span) is_signal

/-- A loop in a function receives `break`, and the call receives the `return` after it. -/
theorem signals_are_received_in_call :
    ∃ (loop result : Stmt) (r : Request),
      loop = .while_ (.boolean true default) (.break_ default) default ∧
      result = .block [.return_ none default] default ∧
      r = .run ⟨[.expr (.call (.function (.mk none [] none [loop, result] default)) []
        default) default]⟩ ∧
      (∃ m, r.serve (perform 9) Machine.initial = .ok .null m) ∧
      (∀ g s m, r.serve (perform 9) Machine.initial ≠ .error (.fault (.escape g s)) m) ∧
      (∃ m flow, (perform 3).execute loop Machine.initial = .ok flow m ∧
        ((∃ v, flow = .normal v) ∨ ∃ v span, flow = .return_ v span)) ∧
      ∃ m flow, (perform 3).execute result Machine.initial = .ok flow m ∧
        flow.signal? = some (.return_, default) ∧ (.return_, default) ∈ result.signals := by
  obtain ⟨sessions, loops, statements⟩ := signals_are_received
  refine ⟨.while_ (.boolean true default) (.break_ default) default,
    .block [.return_ none default] default, _, rfl, rfl, rfl, ⟨_, rfl⟩, ?_, ?_, ?_⟩
  · exact sessions _ .refl 9 _ rfl
  · exact ⟨_, _, rfl, loops 3 (.while_ (.boolean true default) (.break_ default) default)
      Machine.initial _ _ rfl rfl⟩
  · exact ⟨_, _, rfl, rfl, statements 3 (.block [.return_ none default] default)
      Machine.initial _ _ rfl _ _ rfl⟩

end Scriptlet

import Scriptlet.Proofs.Eval.Twin
import Scriptlet.Tree.Spans

/-!
# What errors are blamed on

An error of a running program has the span of a node of its tree or of a parameter, be it
in the program itself or in a function that is called.  So if all spans in a request and
in the functions on the heap have some property, then the span of an error has it
(`Request.blames`).

Code is compared with itself here.  If all spans in a node have the property then so do those
in its parts (`Expr.parts_within`), so having it is a likeness.
-/

open Scriptlet.Action Scriptlet.Evaluate

namespace Scriptlet

/-! ## Spans of parts -/

/-- Two things that are the same, whose spans all have a property. -/
def SameWithin {α : Type} (spans : α → List Span) (G : Span → Prop) (a b : α) : Prop :=
  a = b ∧ ∀ s ∈ spans a, G s

section

variable {G : Span → Prop}

theorem within_items {es : List Expr} (h : ∀ s ∈ itemSpans es, G s) :
    ∀ e ∈ es, SameWithin Expr.spans G e e :=
  fun e inside => ⟨rfl, fun s part => h s (mem_itemSpans.mpr ⟨e, inside, part⟩)⟩

theorem within_body {ss : List Stmt} (h : ∀ s ∈ bodySpans ss, G s) :
    ∀ t ∈ ss, SameWithin Stmt.spans G t t :=
  fun t inside => ⟨rfl, fun s part => h s (mem_bodySpans.mpr ⟨t, inside, part⟩)⟩

theorem within_optional {e : Option Expr} (h : ∀ s ∈ optionalSpans e, G s) :
    ∀ x ∈ e, SameWithin Expr.spans G x x := by
  rintro x rfl
  exact ⟨rfl, h⟩

theorem within_statement {t : Option Stmt} (h : ∀ s ∈ statementSpans t, G s) :
    ∀ x ∈ t, SameWithin Stmt.spans G x x := by
  rintro x rfl
  exact ⟨rfl, h⟩

/-- The spans of an expression are those of its parts, besides its own. -/
theorem Expr.parts_within {e : Expr} (h : ∀ s ∈ e.spans, G s) :
    e.Parts (fun x => SameWithin Expr.spans G x x) fun f => SameWithin Function.spans G f f := by
  cases e with
  | number | string | boolean | null | identifier => trivial
  | function => exact ⟨rfl, h⟩
  | group | member | unary | stepAfter =>
    simp only [spans, List.forall_mem_cons] at h
    exact ⟨rfl, h.2⟩
  | array =>
    simp only [spans, List.forall_mem_cons] at h
    exact within_items h.2
  | object =>
    simp only [spans, List.forall_mem_cons] at h
    exact fun p inside => ⟨rfl, fun s part => h.2 s (mem_propertySpans.mpr ⟨p, inside, part⟩)⟩
  | index | binary | assign =>
    simp only [spans, List.forall_mem_cons, List.forall_mem_append] at h
    exact ⟨⟨rfl, h.2.1⟩, rfl, h.2.2⟩
  | call =>
    simp only [spans, List.forall_mem_cons, List.forall_mem_append] at h
    exact ⟨⟨rfl, h.2.1⟩, within_items h.2.2⟩
  | conditional =>
    simp only [spans, List.forall_mem_cons, List.forall_mem_append] at h
    exact ⟨⟨rfl, h.2.1⟩, ⟨rfl, h.2.2.1⟩, rfl, h.2.2.2⟩

theorem Stmt.parts_within {t : Stmt} (h : ∀ s ∈ t.spans, G s) :
    t.Parts (fun x => SameWithin Expr.spans G x x) (fun f => SameWithin Function.spans G f f)
      fun x => SameWithin Stmt.spans G x x := by
  cases t with
  | break_ | continue_ => trivial
  | function => exact ⟨rfl, h⟩
  | block =>
    simp only [spans, List.forall_mem_cons] at h
    exact within_body h.2
  | declare | return_ =>
    simp only [spans, List.forall_mem_cons] at h
    exact within_optional h.2
  | constant | expr | print =>
    simp only [spans, List.forall_mem_cons] at h
    exact ⟨rfl, h.2⟩
  | if_ =>
    simp only [spans, List.forall_mem_cons, List.forall_mem_append] at h
    exact ⟨⟨rfl, h.2.1⟩, ⟨rfl, h.2.2.1⟩, within_statement h.2.2.2⟩
  | while_ =>
    simp only [spans, List.forall_mem_cons, List.forall_mem_append] at h
    exact ⟨⟨rfl, h.2.1⟩, rfl, h.2.2⟩
  | for_ =>
    simp only [spans, List.forall_mem_cons, List.forall_mem_append] at h
    obtain ⟨-, init, condition, update, body⟩ := h
    exact ⟨within_statement init, within_optional condition, within_optional update, rfl, body⟩

theorem Function.parallel_within {f : Function} (h : ∀ s ∈ f.spans, G s) :
    Function.Parallel (fun s s' => s = s' ∧ G s) (SameWithin Stmt.spans G) f f := by
  obtain ⟨name, params, returns, body, span⟩ := f
  simp only [spans, List.forall_mem_cons, List.forall_mem_append, List.forall_mem_map] at h
  obtain ⟨here, param_spans, body_spans⟩ := h
  exact ⟨rfl, List.forall₂_same.mpr fun p inside => ⟨rfl, rfl, rfl, param_spans p inside⟩, rfl,
    List.forall₂_same.mpr (within_body body_spans), rfl, here⟩

end

/-- Code whose spans have a property is like itself. -/
def spanned (G : Span → Prop) : Likeness where
  span s s' := s = s' ∧ G s
  Place := Unit
  top := ()
  body := ()
  loop p := p
  allowed _ _ := True
  fails _ := True
  expr := SameWithin Expr.spans G
  stmt _ := SameWithin Stmt.spans G
  function := SameWithin Function.spans G
  expr_parallel := by
    rintro e _ ⟨rfl, inside⟩
    exact Expr.parallel_of_parts (Expr.parts_within inside) ⟨rfl, inside _ e.span_mem_spans⟩
  stmt_parallel := by
    rintro _ s _ ⟨rfl, inside⟩
    exact Stmt.parallel_of_parts (Stmt.parts_within inside) ⟨rfl, inside _ s.span_mem_spans⟩
  function_parallel := by
    rintro f _ ⟨rfl, inside⟩
    exact Function.parallel_within inside
  return_of_loop h := h
  fails_of_not_isEscape _ := trivial
  fails_of_top _ := trivial
  fails_of_body _ _ := trivial

/-! ## Errors -/

/-- All functions on the heap have spans with a property. -/
def Heap.Spanned (G : Span → Prop) (h : Heap) : Prop :=
  ∀ ref f s, h.callable ref = .closure f s → ∀ t ∈ f.spans, G t

/-- The spans in what is asked for. -/
def Request.spans : Request → List Span
  | .run program => program.spans
  | .evaluate e => e.spans
  | .call _ _ s => [s]

theorem Request.alike_within {G : Span → Prop} {r : Request} (h : ∀ s ∈ r.spans, G s) :
    r.Alike (spanned G) Eq r := by
  cases r with
  | run program => exact .run (List.forall₂_same.mpr (within_body h))
  | evaluate e => exact .evaluate ⟨rfl, h⟩
  | call callee args s =>
    exact .call (.refl callee) (List.forall₂_same.mpr fun v _ => .refl v) ⟨rfl, h s (.head _)⟩

section

variable {G : Span → Prop} (fuel : Nat) {r : Request} (spans : ∀ s ∈ r.spans, G s) {m : Machine}
  (functions : m.heap.Spanned G) (prints : m.heap.Prints)

include spans functions prints

/-- Serving a request compares with itself. -/
theorem Request.ends_within :
    Ends (spanned G) (Machine.Twin (spanned G) Eq (Scope.Alike Eq) m m) (Value.Alike Eq)
      (r.serve (perform fuel) m) (r.serve (perform fuel) m) := by
  have alike : m.heap.Alike (spanned G).function Eq m.heap :=
    m.heap.alike_self fun ref f s found => ⟨rfl, functions ref f s found⟩
  exact (simulation_twin Pairing.oneToOne_eq m m rfl).serve fuel (Request.alike_within spans) m m
    (Machine.twin_self alike prints)

/-- If the spans of a request and of all functions have a property then that of an error has
it. -/
theorem Request.blames {m' : Machine} {f : Fault}
    (failed : r.serve (perform fuel) m = .error (.fault f) m') : G f.span := by
  have ends := Request.ends_within fuel spans functions prints
  rw [failed] at ends
  cases ends with
  | error halts =>
    obtain ⟨_, -, inside⟩ := halts.span
    exact inside

omit spans functions prints in
theorem Heap.spanned_of_alike {h : Heap} (alike : h.Alike (spanned G).function Eq h) :
    h.Spanned G := by
  intro ref f s found
  have same := alike.functions (rfl : (⟨.function, ref⟩ : Cell) = ⟨.function, ref⟩)
  rw [found] at same
  cases same with
  | closure both _ => exact both.2

/-- Then all functions have spans with the property afterwards, however the request ends. -/
theorem Request.spanned_after :
    ((r.serve (perform fuel)).after m).heap.Spanned G ∧
      ((r.serve (perform fuel)).after m).heap.Prints := by
  have ends := Request.ends_within fuel spans functions prints
  unfold after
  rcases outcome : r.serve (perform fuel) m with ⟨v, m'⟩ | ⟨e, m'⟩
  · rw [outcome] at ends
    cases ends with
    | ok _ twin => exact ⟨Heap.spanned_of_alike twin.heap.alike, twin.heap.prints⟩
  · rw [outcome] at ends
    cases ends with
    | error _ twin => exact ⟨Heap.spanned_of_alike twin.heap.alike, twin.heap.prints⟩

end

theorem Heap.spanned_initial (G : Span → Prop) : Machine.initial.heap.Spanned G := by
  intro ref f s found
  match ref with
  | 0 | _ + 1 => cases found

end Scriptlet

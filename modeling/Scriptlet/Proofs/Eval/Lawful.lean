import Scriptlet.Eval.Run
import Scriptlet.Proofs.Eval.Discipline
import Scriptlet.Proofs.Token.Reserved
import Scriptlet.Proofs.Tree.Lawful

/-!
# Errors that no source can cause

A program may fail with many errors, but not with all that there are.  No reserved
word is declared, since names come from identifiers.  Nothing is assigned to but what
can be assigned to, since the parser refuses other targets.  And a function is only
ever declared under a name.  These errors are for programs that a host puts together
by itself.

Lawful programs are a discipline (`Discipline.lawful`).  Sources that can be read are
lawful, so a session of sources keeps to it, whatever fails on the way.
-/

open Scriptlet.Action Scriptlet.Evaluate

namespace Scriptlet

/-- Whether a name may be declared. -/
def mayDeclare (name : String) : Bool := !Keyword.isReserved name

/-! ## The discipline -/

theorem Expr.parts_of_isLawful {may : String → Bool} {e : Expr} (h : e.isLawful may = true) :
    e.Parts (fun e => e.isLawful may = true) (fun f => f.isLawful may = true) := by
  cases e with
  | number | string | boolean | null | identifier => trivial
  | group | member | unary | stepAfter | function => exact h
  | array => simpa [isLawful, areLawful_eq_all, Parts] using h
  | object => simpa [isLawful, propertiesLawful_eq_all, Parts] using h
  | index | binary => simpa [isLawful, Parts] using h
  | call => simpa [isLawful, areLawful_eq_all, Parts] using h
  | conditional => simpa [isLawful, Parts, and_assoc] using h
  | assign =>
    simp only [isLawful, Bool.and_eq_true] at h
    exact ⟨h.1.2, h.2⟩

theorem forall_of_optionalLawful {may : String → Bool} {e : Option Expr}
    (h : optionalLawful may e = true) : ∀ x ∈ e, x.isLawful may = true := by
  rintro x rfl
  exact h

theorem forall_of_statementLawful {may : String → Bool} {s : Option Stmt}
    (h : statementLawful may s = true) : ∀ x ∈ s, x.isLawful may = true := by
  rintro x rfl
  exact h

theorem Stmt.parts_of_isLawful {may : String → Bool} {s : Stmt} (h : s.isLawful may = true) :
    s.Parts (fun e => e.isLawful may = true) (fun f => f.isLawful may = true)
      (fun s => s.isLawful may = true) := by
  cases s with
  | block => simpa [isLawful, allLawful_eq_all, Parts] using h
  | declare =>
    simp only [isLawful, Bool.and_eq_true] at h
    exact forall_of_optionalLawful h.2
  | constant =>
    simp only [isLawful, Bool.and_eq_true] at h
    exact h.2
  | expr | print => exact h
  | if_ =>
    simp only [isLawful, Bool.and_eq_true] at h
    exact ⟨h.1.1, h.1.2, forall_of_statementLawful h.2⟩
  | while_ => simpa [isLawful, Parts] using h
  | for_ =>
    simp only [isLawful, Bool.and_eq_true] at h
    obtain ⟨⟨⟨init, c⟩, update⟩, body⟩ := h
    exact ⟨forall_of_statementLawful init, forall_of_optionalLawful c,
      forall_of_optionalLawful update, body⟩
  | break_ | continue_ => trivial
  | return_ => exact forall_of_optionalLawful h
  | function =>
    simp only [isLawful, Bool.and_eq_true] at h
    exact h.2

theorem Function.parts_of_isLawful {may : String → Bool} {f : Function}
    (h : f.isLawful may = true) :
    (∀ p ∈ f.params, may p.name = true) ∧ ∀ s ∈ f.body, s.isLawful may = true := by
  obtain ⟨name, params, returns, body, span⟩ := f
  simp only [isLawful, allLawful_eq_all, Bool.and_eq_true, List.all_eq_true] at h
  exact ⟨h.1.2, h.2⟩

/-- The discipline of lawful programs.  They fail with plain errors only. -/
def Discipline.lawful : Discipline where
  expr e := e.isLawful mayDeclare = true
  stmt s := s.isLawful mayDeclare = true
  function f := f.isLawful mayDeclare = true
  name n := mayDeclare n = true
  fails f := f.isPlain = true
  expr_parts := Expr.parts_of_isLawful
  stmt_parts := Stmt.parts_of_isLawful
  body h := (Function.parts_of_isLawful h).2
  declares := Stmt.may_of_declares
  params h := (Function.parts_of_isLawful h).1
  plain h := h
  reserved _ may reserved := by
    rw [mayDeclare, reserved] at may
    cases may
  target lawful refused := by
    rw [Expr.isLawful, refused] at lawful
    cases lawful

/-! ## Sources -/

/-- The names of the identifiers of a source may be declared. -/
theorem all_may_of_tokenize {source : String} {tokens : List Token}
    (read : tokenize source = .ok tokens) : Named.All mayDeclare tokens := by
  obtain ⟨last, ended, rfl⟩ := tokenize_eq_ok.mp read
  intro t inside is_identifier
  cases List.mem_append.mp inside with
  | inl before => simp [mayDeclare, identifier_not_reserved before is_identifier]
  | inr here =>
    obtain rfl : t = last := List.mem_singleton.mp here
    unfold stream TokenStream.ending at ended
    dsimp only at ended
    split at ended
    next =>
      cases ended
      cases is_identifier
    next => cases ended

theorem isLawful_of_readProgram {source : String} {p : Program}
    (read : readProgram source = .ok p) : p.isLawful mayDeclare = true := by
  unfold readProgram at read
  split at read
  next => cases read
  next tokens tokenized =>
    split at read
    next => cases read
    next p' parsed =>
      cases read
      exact parseProgram_isLawful parsed (all_may_of_tokenize tokenized)

theorem isLawful_of_readExpression {source : String} {e : Expr}
    (read : readExpression source = .ok e) : e.isLawful mayDeclare = true := by
  unfold readExpression at read
  split at read
  next => cases read
  next tokens tokenized =>
    split at read
    next => cases read
    next e' parsed =>
      cases read
      exact parseExpression_isLawful parsed (all_may_of_tokenize tokenized)

/-! ## Sessions -/

/-- Whether the code of a request was read from a source. -/
def Request.IsRead : Request → Prop
  | .run program => ∃ source, readProgram source = .ok program
  | .evaluate e => ∃ source, readExpression source = .ok e
  | .call _ _ _ => True

/-- The machines that a session may come to in which all code was read from sources. -/
def Machine.ReachedByReading (m : Machine) : Prop :=
  Machine.initial.LaterBy Request.IsRead (fun c => ∃ b, c = .builtin b) m

theorem Request.IsRead.lawful {r : Request} (h : r.IsRead) : Discipline.lawful.request r := by
  cases r with
  | run program =>
    obtain ⟨source, read⟩ := h
    have lawful := isLawful_of_readProgram read
    rw [Program.isLawful, allLawful_eq_all, List.all_eq_true] at lawful
    exact lawful
  | evaluate e =>
    obtain ⟨source, read⟩ := h
    exact isLawful_of_readExpression read
  | call => trivial

theorem Machine.ReachedByReading.lawful {m : Machine} (reached : m.ReachedByReading) :
    Discipline.lawful.Holds m.heap := by
  refine Discipline.holds_of_laterBy (fun r => Request.IsRead.lawful) ?_ ?_ reached
  · rintro f s ⟨b, same⟩
    cases same
  · intro f s inside
    have only : Callable.closure f s ∈ #[Callable.builtin .print] := inside
    cases Array.mem_singleton.mp only

/-- No identifier of a source has a reserved spelling, and what parses is lawful for the
names of its identifiers.  In a session of sources, whatever failed before, all functions on
the heap are lawful at all times.  No source declares a reserved word, assigns to something
that cannot be assigned to or ends a call in an unknown way, and no function is declared
without a name. -/
theorem sources_keep_the_law :
    (∀ source : String, ∀ t ∈ (stream source).tokens, t.kind = .identifier →
      Keyword.isReserved t.lexeme = false) ∧
    (∀ (may : String → Bool) (tokens : List Token) (p : Program),
      parseProgram tokens = .ok p →
      (∀ t ∈ tokens, t.kind = .identifier → may t.lexeme = true) → p.isLawful may = true) ∧
    ∀ m : Machine, m.ReachedByReading →
      (∀ f s, .closure f s ∈ m.heap.functions → f.isLawful mayDeclare = true) ∧
      ∀ (fuel : Nat) (r : Request), r.IsRead →
        (∀ f m', r.serve (perform fuel) m = .error (.fault f) m' →
          (∀ name span, f ≠ .reserved name span) ∧ (∀ span, f ≠ .type .target span) ∧
            ∀ span, f ≠ .type .control span) ∧
        ∀ t m', r.Meets fuel m t m' →
          (∀ f s, .closure f s ∈ m'.heap.functions → f.isLawful mayDeclare = true) ∧
          ∀ f, t = .execute (.function f) → f.name.isSome = true := by
  refine ⟨fun source t => identifier_not_reserved,
    fun may tokens p parsed names => parseProgram_isLawful parsed names, ?_⟩
  intro m reached
  refine ⟨reached.lawful, fun fuel r read => ⟨fun f m' failed => ?_, fun t m' met => ?_⟩⟩
  · have allows := Discipline.lawful.serves fuel read.lawful reached.lawful
    rw [failed] at allows
    have plain : f.isPlain = true := allows.fails
    refine ⟨?_, ?_, ?_⟩
    · rintro name span rfl
      cases plain
    · rintro span rfl
      cases plain
    · rintro span rfl
      cases plain
  · obtain ⟨lawful_task, lawful_heap⟩ := Discipline.meets met read.lawful reached.lawful
    refine ⟨lawful_heap, ?_⟩
    rintro f rfl
    have lawful : (Stmt.function f).isLawful mayDeclare = true := lawful_task
    simp only [Stmt.isLawful, Bool.and_eq_true] at lawful
    exact lawful.1

/-- A program meets its first statement on the machine that it starts on. -/
theorem Request.meets_first (fuel : Nat) (s : Stmt) (rest : List Stmt) (m : Machine) :
    (Request.run ⟨s :: rest⟩).Meets fuel m (.execute s) m := by
  obtain ⟨halt, unlike⟩ := exists_other_halt ((Request.run ⟨s :: rest⟩).serve (perform fuel) m)
  refine ⟨fun _ => throw halt, fun same => unlike m (same.symm.trans ?_)⟩
  exact bind_of_error (detour_self (.execute s) m (fun _ => throw halt) fuel) _

/-- A declared function, and a call of it with too few arguments. -/
def calling : String := "function f(a) \x7b\x7d f();"

/-- The call fails for its arguments.  No function on the heap breaks the law, and no name in the
source is a reserved word. -/
theorem sources_keep_the_law_calling :
    ∃ (p : Program) (g : Function) (m : Machine), readProgram calling = .ok p ∧
      (Request.run p).serve (perform 9) Machine.initial =
        .error (.fault (.arity "f" 1 0 ⟨17, 20⟩)) m ∧
      (∀ name span, Fault.arity "f" 1 0 ⟨17, 20⟩ ≠ .reserved name span) ∧
      (Request.run p).Meets 9 Machine.initial (.execute (.function g)) Machine.initial ∧
      g.name.isSome = true ∧ m.ReachedByReading ∧
      (∀ h s, .closure h s ∈ m.heap.functions → h.isLawful mayDeclare = true) ∧
      (∃ t ∈ (stream calling).tokens, t.kind = .identifier ∧
        Keyword.isReserved t.lexeme = false) ∧
      ∃ q, parseProgram printing = .ok q ∧ q.isLawful (· = "a") = true := by
  let g : Function := .mk (some "f") [⟨"a", none, ⟨11, 12⟩⟩] none [] ⟨0, 16⟩
  let call : Stmt := .expr (.call (.identifier "f" ⟨17, 18⟩) [] ⟨17, 20⟩) ⟨17, 21⟩
  have read : readProgram calling = .ok ⟨[.function g, call]⟩ := by with_unfolding_all rfl
  have is_read : (Request.run ⟨[.function g, call]⟩).IsRead := ⟨calling, read⟩
  have meets := Request.meets_first 9 (.function g) [call] Machine.initial
  have start : Machine.initial.ReachedByReading := .refl
  have later : Machine.ReachedByReading _ := .serve 9 start is_read
  obtain ⟨lexed, parsed, sessions⟩ := sources_keep_the_law
  obtain ⟨runs, met⟩ := (sessions _ start).2 9 _ is_read
  obtain ⟨t, inside, is_identifier⟩ :
      ∃ t ∈ (stream calling).tokens, t.kind = .identifier := by decide +kernel
  have printed : (parseProgram printing).isOk = true := by decide +kernel
  cases prints : parseProgram printing with
  | error e =>
    rw [prints] at printed
    cases printed
  | ok q =>
    exact ⟨_, g, _, read, rfl, (runs _ _ rfl).1, meets, (met _ _ meets).2 g rfl, later,
      (sessions _ later).1, ⟨t, inside, is_identifier, lexed _ t inside is_identifier⟩,
      q, rfl, parsed _ printing q prints (by decide +kernel)⟩

end Scriptlet

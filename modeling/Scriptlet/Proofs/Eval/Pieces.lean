import Scriptlet.Eval.Run
import Scriptlet.Proofs.Eval.Detour
import Scriptlet.Proofs.Tree.Completeness
import Scriptlet.Proofs.Tree.Soundness

/-!
# Programs in pieces

A program can be fed to a session in pieces.  If two texts parse, then one after the
other they parse as the statements of the first and those of the second: a complete
statement does not depend on what follows it.  That needs no argument about the parser.
The tokens of the two spell the statements in a row, and a well-shaped program that is
spelled by some tokens is what they parse as.

Running the statements in a row is running the first program and then, if it gives a
value, the second one on the machine that is left.  The value is that of the second
program if an expression stands among its statements, and that of the first otherwise
(`pieces_make_whole`).
-/

open Scriptlet.Action Scriptlet.Evaluate

namespace Scriptlet

/-! ## Programs in a row -/

/-- The statements of a program, and after them those of another. -/
def Program.followedBy (p q : Program) : Program := ⟨p.body ++ q.body⟩

/-- Whether a statement is an expression, which gives the value of a program. -/
def Stmt.givesValue : Stmt → Bool
  | .expr _ _ => true
  | .block _ _ | .declare _ _ _ _ _ | .constant _ _ _ _ | .print _ _ | .if_ _ _ _ _
  | .while_ _ _ _ | .for_ _ _ _ _ _ | .break_ _ | .continue_ _ | .return_ _ _
  | .function _ => false

/-- Whether an expression stands among the statements of a program. -/
def Program.givesValue (p : Program) : Bool := p.body.any Stmt.givesValue

/-! ## Reading -/

theorem bodySpelled_append {ss : List Stmt} {ts : List Token} (first : BodySpelled ss ts)
    {ss' : List Stmt} {ts' : List Token} (second : BodySpelled ss' ts') :
    BodySpelled (ss ++ ss') (ts ++ ts') := by
  induction ss generalizing ts with
  | nil =>
    cases first
    exact second
  | cons s ss ih =>
    cases first with
    | cons spelled others =>
      rw [List.append_assoc]
      exact .cons spelled (ih others)

theorem allShaped_append (ss ss' : List Stmt) :
    allShaped (ss ++ ss') = (allShaped ss && allShaped ss') := by
  induction ss with
  | nil => rfl
  | cons s ss ih => rw [List.cons_append, allShaped, allShaped, ih, Bool.and_assoc]

/-- Two programs that parse do so in a row. -/
theorem parseProgram_append {ts₁ ts₂ : List Token} {e₁ e₂ e : Token} {p₁ p₂ : Program}
    (inside₁ : ∀ t ∈ ts₁, t.kind ≠ .eof) (inside₂ : ∀ t ∈ ts₂, t.kind ≠ .eof)
    (eof₁ : e₁.kind = .eof) (eof₂ : e₂.kind = .eof) (eof : e.kind = .eof)
    (first : parseProgram (ts₁ ++ [e₁]) = .ok p₁)
    (second : parseProgram (ts₂ ++ [e₂]) = .ok p₂) :
    parseProgram (ts₁ ++ ts₂ ++ [e]) = .ok (p₁.followedBy p₂) := by
  obtain ⟨spelled₁, shaped₁⟩ := Parser.of_statements (statements_of_parseProgram first)
  obtain ⟨spelled₂, shaped₂⟩ := Parser.of_statements (statements_of_parseProgram second)
  have inside : ∀ t ∈ ts₁ ++ ts₂, t.kind ≠ .eof := List.forall_mem_append.mpr ⟨inside₁, inside₂⟩
  have tokens : Parser.body (ts₁ ++ ts₂ ++ [e]) =
      Parser.body (ts₁ ++ [e₁]) ++ Parser.body (ts₂ ++ [e₂]) := by
    rw [Parser.body_append_eof inside eof, Parser.body_append_eof inside₁ eof₁,
      Parser.body_append_eof inside₂ eof₂]
    exact List.filter_append ..
  refine parseProgram_of_spelled ?_ (tokens ▸ bodySpelled_append spelled₁ spelled₂)
  exact (allShaped_append _ _).trans (Bool.and_eq_true_iff.mpr ⟨shaped₁, shaped₂⟩)

/-! ## Running -/

/-- Statements in a row: the second ones start with the value of the first ones. -/
theorem runStatements_append (p : Performer) (ss' : List Stmt) : ∀ (last : Value) (ss : List Stmt),
    runStatements p last (ss ++ ss') =
      runStatements p last ss >>= fun v => runStatements p v ss'
  | last, [] => (pure_bind last fun v => runStatements p v ss').symm
  | last, s :: ss => by
    rw [List.cons_append, runStatements, runStatements, bind_assoc]
    refine bind_congr fun flow => ?_
    cases flow with
    | normal v =>
      cases s with
      | expr => exact runStatements_append p ss' v ss
      | block | declare | constant | print | if_ | while_ | for_ | break_ | continue_
      | return_ | function => exact runStatements_append p ss' last ss
    | break_ | continue_ | return_ => rfl

/-- The value so far counts only if no expression follows. -/
theorem runStatements_last (p : Performer) (start : Value) : ∀ (last : Value) (ss : List Stmt),
    runStatements p last ss =
      runStatements p start ss >>= fun w => pure (if ss.any Stmt.givesValue then w else last)
  | last, [] => (pure_bind start fun _ => (pure last : Action Value)).symm
  | last, s :: ss => by
    rw [runStatements, runStatements, bind_assoc]
    refine bind_congr fun flow => ?_
    cases flow with
    | normal v =>
      cases s with
      | expr => exact (bind_pure (runStatements p v ss)).symm
      | block | declare | constant | print | if_ | while_ | for_ | break_ | continue_
      | return_ | function => exact runStatements_last p start last ss
    | break_ | continue_ | return_ => rfl

/-- Programs in a row run in turn. -/
theorem Program.run_followedBy (fuel : Nat) (p q : Program) :
    (p.followedBy q).run fuel = do
      let v ← p.run fuel
      let w ← q.run fuel
      return if q.givesValue then w else v := by
  refine (runStatements_append (perform fuel) q.body .null p.body).trans ?_
  exact bind_congr fun v => runStatements_last (perform fuel) .null v q.body

/-- Two texts that parse do so one after the other, as their statements in a row.  Running
these is running the first program and then, if that does not halt with an error, the second
one on the machine that is left.  The value is that of the second program if it has a
statement that is an expression, and that of the first one otherwise. -/
theorem pieces_make_whole :
    (∀ (ts₁ ts₂ : List Token) (e₁ e₂ e : Token) (p₁ p₂ : Program),
      (∀ t ∈ ts₁, t.kind ≠ .eof) → (∀ t ∈ ts₂, t.kind ≠ .eof) →
      e₁.kind = .eof → e₂.kind = .eof → e.kind = .eof →
      parseProgram (ts₁ ++ [e₁]) = .ok p₁ → parseProgram (ts₂ ++ [e₂]) = .ok p₂ →
      parseProgram (ts₁ ++ ts₂ ++ [e]) = .ok (p₁.followedBy p₂)) ∧
    ∀ (fuel : Nat) (p₁ p₂ : Program) (m : Machine),
      (p₁.followedBy p₂).run fuel m =
        match p₁.run fuel m with
        | .error halt m₁ => .error halt m₁
        | .ok v m₁ =>
          match p₂.run fuel m₁ with
          | .error halt m₂ => .error halt m₂
          | .ok w m₂ => .ok (if p₂.givesValue then w else v) m₂ := by
  refine ⟨fun ts₁ ts₂ e₁ e₂ e p₁ p₂ => parseProgram_append, fun fuel p₁ p₂ m => ?_⟩
  rw [Program.run_followedBy]
  cases first : p₁.run fuel m with
  | error halt m₁ => exact bind_of_error first _
  | ok v m₁ =>
    rw [bind_of_ok first]
    simp only
    cases second : p₂.run fuel m₁ with
    | error halt m₂ => exact bind_of_error second _
    | ok w m₂ => exact bind_of_ok second _

/-- The pieces `if (a) b;` and `c;`.  The parser looks for an `else` after the first one. -/
theorem pieces_make_whole_branching :
    ∃ p₁ p₂ : Program, ∃ ts₁ ts₂ : List Token, ∃ e : Token,
      parseProgram (ts₁ ++ [e]) = .ok p₁ ∧ parseProgram (ts₂ ++ [e]) = .ok p₂ ∧
      p₁.body.length = 1 ∧ p₂.body.length = 1 ∧
      parseProgram (ts₁ ++ ts₂ ++ [e]) = .ok (p₁.followedBy p₂) := by
  let token (k : Kind) (lexeme : String) : Token := ⟨k, lexeme, none, default, 1, 1⟩
  let name (lexeme : String) : Expr := .identifier lexeme default
  let ts₁ : List Token := [token (.word .if_) "if", token (.symbol .leftParen) "(",
    token .identifier "a", token (.symbol .rightParen) ")", token .identifier "b",
    token (.symbol .semicolon) ";"]
  let ts₂ : List Token := [token .identifier "c", token (.symbol .semicolon) ";"]
  let e : Token := token .eof ""
  let p₁ : Program := ⟨[.if_ (name "a") (.expr (name "b") default) none default]⟩
  let p₂ : Program := ⟨[.expr (name "c") default]⟩
  have parsed₁ : parseProgram (ts₁ ++ [e]) = .ok p₁ := by with_unfolding_all rfl
  have parsed₂ : parseProgram (ts₂ ++ [e]) = .ok p₂ := by with_unfolding_all rfl
  refine ⟨p₁, p₂, ts₁, ts₂, e, parsed₁, parsed₂, rfl, rfl, ?_⟩
  exact pieces_make_whole.1 ts₁ ts₂ e e e p₁ p₂ (by decide) (by decide) rfl rfl rfl parsed₁ parsed₂

end Scriptlet

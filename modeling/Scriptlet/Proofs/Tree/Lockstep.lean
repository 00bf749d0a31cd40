import Scriptlet.Proofs.Tree.Abreast

/-!
# Parsing in lockstep

On two lists of tokens that are like one by one the parser does the same (`Lockstep`).  Either
it gives trees that are the same without their spans and leaves the same number of tokens, or
it refuses the tokens at the same place and for the same cause.
-/

namespace Scriptlet.Parser

/-- What is left of two lists of tokens after as many tokens of each. -/
structure Along (ts ts' us us' : List Token) : Prop where
  like : List.Forall₂ Token.Like us us'
  place : ∃ i, us = ts.drop i ∧ us' = ts'.drop i

/-- Two parsers give values that are related and leave what lies along each other, or both
refuse what lies along each other, for the same cause. -/
inductive Lockstep {α β : Type} (R : α → β → Prop) (ts ts' : List Token) {n n' : Nat} :
    ParseResult α n → ParseResult β n' → Prop
  | ok {a : α} {b : β} {us us' : List Token} {shorter : us.length < n}
    {shorter' : us'.length < n'} : R a b → Along ts ts' us us' →
    Lockstep R ts ts' (.ok ⟨a, us, shorter⟩) (.ok ⟨b, us', shorter'⟩)
  | refused {r r' : Refusal} : r.cause.bare = r'.cause.bare → Along ts ts' r.rest r'.rest →
    Lockstep R ts ts' (.error r) (.error r')

section

variable {α β γ δ : Type} {R : α → β → Prop} {S : γ → δ → Prop} {ts ts' us us' : List Token}

theorem Along.refl (like : List.Forall₂ Token.Like ts ts') : Along ts ts' ts ts' :=
  ⟨like, 0, rfl, rfl⟩

theorem Along.trans {vs vs' : List Token} (first : Along ts ts' us us')
    (second : Along us us' vs vs') : Along ts ts' vs vs' := by
  obtain ⟨i, rfl, rfl⟩ := first.place
  obtain ⟨j, rfl, rfl⟩ := second.place
  exact ⟨second.like, i + j, by rw [List.drop_drop], by rw [List.drop_drop]⟩

theorem Along.tail {t t' : Token} (like : List.Forall₂ Token.Like us us') :
    Along (t :: us) (t' :: us') us us' :=
  ⟨like, 1, rfl, rfl⟩

theorem Along.heads (along : Along ts ts' us us') : Heads (Along ts ts') us us' := by
  obtain ⟨like, place⟩ := along
  cases like with
  | nil => exact .nil
  | cons first rest => exact .cons first (.trans ⟨.cons first rest, place⟩ (.tail rest))

/-- One parser after another. -/
theorem Lockstep.bind {n n' k k' : Nat} {x : ParseResult α n} {y : ParseResult β n'}
    {f : Parsed α n → ParseResult γ k} {g : Parsed β n' → ParseResult δ k'}
    (first : Lockstep R ts ts' x y)
    (second : ∀ {a b us us' shorter shorter'}, R a b → Along ts ts' us us' →
      Lockstep S ts ts' (f ⟨a, us, shorter⟩) (g ⟨b, us', shorter'⟩)) :
    Lockstep S ts ts' (x >>= f) (y >>= g) := by
  cases first with
  | ok related along => exact second related along
  | refused cause along => exact .refused cause along

end

/-- The pace of lists of tokens that are like.  The index holds the lists at the start. -/
def lockstep : Pace (List Token × List Token) where
  At i := Along i.1 i.2
  Left i := Along i.1 i.2
  Res i _ _ R _ _ := Lockstep R i.1 i.2
  le along := Nat.le_of_eq along.like.length_eq
  heads along := along.heads
  left along := along
  ok related along := .ok related along
  refuse cause along := .refused cause along
  bind _ first second := first.bind second

/-! ## Programs -/

/-- Two lists of statements are the same without their spans, or what lies along each other
is refused for the same cause. -/
inductive SameStatements (ts ts' : List Token) :
    Except Refusal (List Stmt) → Except Refusal (List Stmt) → Prop
  | ok {ss ss' : List Stmt} : Same bareStatements ss ss' → SameStatements ts ts' (.ok ss) (.ok ss')
  | refused {r r' : Refusal} : r.cause.bare = r'.cause.bare → Along ts ts' r.rest r'.rest →
    SameStatements ts ts' (.error r) (.error r')

theorem sameStatements {ts ts' : List Token} (like : List.Forall₂ Token.Like ts ts') :
    SameStatements ts ts' (statements ts) (statements ts') := by
  have here : lockstep.At (ts, ts') ts ts' := .refl like
  have first : Lockstep (Same Stmt.bare) ts ts' (declaration ts) (declaration ts') :=
    (lockstep.keepsBelow _).declaration (Nat.lt_succ_self _) here
  cases like with
  | nil =>
    rw [statements]
    exact .ok rfl
  | @cons t t' us us' tok rest =>
    rw [statements, statements]
    generalize declaration (t :: us) = left at first ⊢
    generalize declaration (t' :: us') = right at first ⊢
    cases first with
    | refused cause along => exact .refused cause along
    | @ok s s' vs vs' shorter shorter' same along =>
      have second := sameStatements along.like
      simp only [bind, Except.bind]
      generalize statements vs = left at second ⊢
      generalize statements vs' = right at second ⊢
      cases second with
      | refused cause along₂ => exact .refused cause (along.trans along₂)
      | ok sames => exact .ok (by simp only [Same, bareStatements, same, sames])
termination_by ts.length
decreasing_by exact shorter

end Scriptlet.Parser

import Scriptlet.Proofs.Tree.Abreast

/-!
# No more is read than needed

What the parser does up to a token does not depend on the tokens after it.  Two lists of tokens
that start in the same way are parsed in the same way, as long as tokens of the common front are
left (`Together`).

A parser goes on with other parsers at the tokens that are left.  Once the first list is past its
front, the second list does not matter any more.  There the first list is compared with itself,
and what is shown is only that the parser stays past the front (`Beside.past`).  So the first list
must not be the longer one.
-/

namespace Scriptlet

theorem Token.Like.refl (t : Token) : t.Like t :=
  ⟨rfl, fun _ => rfl, fun _ => rfl, fun _ => rfl, fun _ => rfl⟩

/-- How two lists of tokens go on behind the same front. -/
structure Parser.Tails where
  /-- The end of the first list. -/
  one : List Token
  /-- The end of the second list. -/
  other : List Token
  fewer : one.length ≤ other.length

namespace Parser

section

variable (w : Tails)

/-- Two lists of tokens with the same front, or a list past its front twice. -/
inductive Beside : List Token → List Token → List Token → Prop
  | front {same : List Token} : same ≠ [] → Beside same (same ++ w.one) (same ++ w.other)
  | past {ts : List Token} : ts <:+ w.one → Beside [] ts ts

/-- What is left of two lists with the same front: some of the front, or the first list is past
it. -/
inductive Left (same : List Token) : List Token → List Token → Prop
  | front {d : List Token} : d ≠ [] → d <:+ same → Left same (d ++ w.one) (d ++ w.other)
  | past {us us' : List Token} : us <:+ w.one → Left same us us'

/-- Two parsers do the same and leave some of the same front, or the first one is past it. -/
inductive Together {α β : Type} (R : α → β → Prop) (same : List Token) {n n' : Nat} :
    ParseResult α n → ParseResult β n' → Prop
  | ok {a : α} {b : β} {d : List Token} {shorter : (d ++ w.one).length < n}
    {shorter' : (d ++ w.other).length < n'} : R a b → d ≠ [] → d <:+ same →
    Together R same (.ok ⟨a, d ++ w.one, shorter⟩) (.ok ⟨b, d ++ w.other, shorter'⟩)
  | refused {d : List Token} {cause cause' : Refusal.Cause} : cause.bare = cause'.bare →
    d ≠ [] → d <:+ same →
    Together R same (.error ⟨d ++ w.one, cause⟩) (.error ⟨d ++ w.other, cause'⟩)
  | past {a : α} {b : β} {us : List Token} {shorter : us.length < n} {r' : ParseResult β n'} :
    R a b → us <:+ w.one → Together R same (.ok ⟨a, us, shorter⟩) r'
  | refusedPast {r : Refusal} {r' : ParseResult β n'} :
    r.rest <:+ w.one → Together R same (.error r) r'

end

section

variable {w : Tails} {same d ts ts' us us' : List Token} {α β γ δ : Type} {R : α → β → Prop}
  {S : γ → δ → Prop} {n n' k k' : Nat}

theorem Beside.le (beside : Beside w same ts ts') : ts.length ≤ ts'.length := by
  cases beside with
  | front => simpa using w.fewer
  | past => exact Nat.le_refl _

theorem Beside.left (beside : Beside w same ts ts') : Left w same ts ts' := by
  cases beside with
  | front some_ => exact .front some_ (List.suffix_refl same)
  | past within => exact .past within

theorem Beside.heads (beside : Beside w same ts ts') : Heads (Left w same) ts ts' := by
  cases beside with
  | past within =>
    cases ts with
    | nil => exact .nil
    | cons t us => exact .cons (.refl t) (.past ((List.suffix_cons t us).trans within))
  | front some_ =>
    cases same with
    | nil => exact absurd rfl some_
    | cons t d =>
      refine .cons (.refl t) ?_
      by_cases last : d = []
      · subst last
        exact .past (List.suffix_refl _)
      · exact .front last (List.suffix_cons t d)

theorem Left.done {a : α} {b : β} {shorter : us.length < n} {shorter' : us'.length < n'}
    (left : Left w same us us') (related : R a b) :
    Together w R same (.ok ⟨a, us, shorter⟩) (.ok ⟨b, us', shorter'⟩) := by
  cases left with
  | front some_ left => exact .ok related some_ left
  | past within => exact .past related within

theorem Beside.refuse {cause cause' : Refusal.Cause} (same_cause : cause.bare = cause'.bare)
    (beside : Beside w same ts ts') :
    Together w R same (refuse ts cause : ParseResult α n)
      (refuse ts' cause' : ParseResult β n') := by
  cases beside with
  | front some_ => exact .refused same_cause some_ (List.suffix_refl same)
  | past within => exact .refusedPast within

theorem Together.mono {r : ParseResult α n} {r' : ParseResult β n'} (h : Together w R d r r')
    (fewer : d <:+ same) : Together w R same r r' := by
  cases h with
  | ok related some_ left => exact .ok related some_ (left.trans fewer)
  | refused cause some_ left => exact .refused cause some_ (left.trans fewer)
  | past related within => exact .past related within
  | refusedPast within => exact .refusedPast within

/-- Past the front the second list does not matter. -/
theorem Together.of_past {r : ParseResult α n} {r' : ParseResult β k} {r'' : ParseResult β n'}
    (h : Together w R [] r r') : Together w R same r r'' := by
  cases h with
  | ok _ some_ left | refused _ some_ left => exact absurd (List.suffix_nil.mp left) some_
  | past related within => exact .past related within
  | refusedPast within => exact .refusedPast within

/-- One parser after another. -/
theorem Together.bind {r : ParseResult α n} {r' : ParseResult β n'}
    {f : Parsed α n → ParseResult γ k} {g : Parsed β n' → ParseResult δ k'}
    (room : n ≤ n') (first : Together w R same r r')
    (second : ∀ {d a b us us' shorter shorter'}, R a b → Beside w d us us' →
      Together w S d (f ⟨a, us, shorter⟩) (g ⟨b, us', shorter'⟩)) :
    Together w S same (r >>= f) (r' >>= g) := by
  cases first with
  | ok related some_ left => exact (second related (.front some_)).mono left
  | refused cause some_ left => exact .refused cause some_ left
  | @past a b us shorter _ related within =>
    have shorter' : us.length < n' := Nat.lt_of_lt_of_le shorter room
    have next : Together w S [] (f ⟨a, us, shorter⟩) (g ⟨b, us, shorter'⟩) :=
      second related (.past within)
    exact next.of_past
  | refusedPast within => exact .refusedPast within

end

/-- The pace of lists of tokens with the same front.  The index holds the front. -/
def together (w : Tails) : Pace (List Token) where
  At := Beside w
  Left := Left w
  Res same _ _ R _ _ := Together w R same
  le := Beside.le
  heads := Beside.heads
  left := Beside.left
  ok related left := left.done related
  refuse := Beside.refuse
  bind := Together.bind

/-! ## Programs -/

/-- Statements that are refused at a token of the front are refused there for the same cause,
whatever the tokens after the front. -/
theorem refused_beside {w : Tails} {same ts ts' : List Token} {r : Refusal}
    (beside : Beside w same ts ts') (h : statements ts = .error r) :
    r.rest <:+ w.one ∨ ∃ d cause, d ≠ [] ∧ d <:+ same ∧ r.rest = d ++ w.one ∧
      r.cause.bare = cause.bare ∧ statements ts' = .error ⟨d ++ w.other, cause⟩ := by
  have first : Together w (Same Stmt.bare) same (declaration ts) (declaration ts') :=
    ((together w).keepsBelow _).declaration (Nat.lt_succ_self ts.length) beside
  have heads := beside.heads
  match ts, ts', heads with
  | [], [], _ =>
    rw [statements] at h
    cases h
  | t :: us, t' :: us', _ =>
    rw [statements] at h ⊢
    generalize declaration (t :: us) = left at first h
    generalize declaration (t' :: us') = right at first ⊢
    cases first with
    | refused cause some_ left =>
      cases h
      exact .inr ⟨_, _, some_, left, rfl, cause, rfl⟩
    | refusedPast within =>
      cases h
      exact .inl within
    | @ok _ _ d shorter _ _ some_ left =>
      cases second : statements (d ++ w.one) with
      | ok =>
        simp only [bind, Except.bind, second] at h
        cases h
      | error r' =>
        simp only [bind, Except.bind, second] at h
        cases h
        refine (refused_beside (.front some_) second).imp_right ?_
        rintro ⟨c, cause, some_', left', same_rest, same_cause, refused⟩
        refine ⟨c, cause, some_', left'.trans left, same_rest, same_cause, ?_⟩
        simp only [bind, Except.bind, refused]
    | @past s _ vs shorter _ _ within =>
      cases second : statements vs with
      | ok =>
        simp only [bind, Except.bind, second] at h
        cases h
      | error r' =>
        simp only [bind, Except.bind, second] at h
        cases h
        obtain within' | ⟨c, _, some_, left, -⟩ := refused_beside (.past within) second
        · exact .inl within'
        · exact absurd (List.suffix_nil.mp left) some_
termination_by ts.length
decreasing_by all_goals exact shorter

end Parser

end Scriptlet

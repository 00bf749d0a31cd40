import Scriptlet.Proofs.Eval.Interposition
import Scriptlet.Proofs.Eval.Rounds
import Scriptlet.Tree.Shape

/-!
# For loops as while loops

A for statement does what its while statement does (`for_loops_are_while_loops`).  The two print
the same lines and end in the same way.  The while statement makes one scope more in each round,
between that of the loop and that of the body.  No name is declared in it, but functions that
are made in the body remember it, and it stays on the heap.  So the two heaps differ in
interposed frames that bind nothing.

The for statement is compared with the loop that lies between the two, round by round.  Each
round puts one more frame in between, so the numbers of the frames change from round to round
(`Interposes`).  Within a round they stay the same, and the two act alike because all evaluation
does.

A `continue` skips the update in the while statement, and does not in the for statement.
-/

open Scriptlet.Action Scriptlet.Evaluate

namespace Scriptlet

/-! ## Acting alike -/

theorem Acts.mono {K : Likeness} {M : Machine → Machine → Prop} {α β : Type}
    {Q R : α → β → Prop} {a : Action α} {b : Action β} (more : ∀ {v w}, Q v w → R v w)
    (h : Acts K M Q a b) : Acts K M R a b := by
  intro m m' related
  have ends := h m m' related
  generalize a m = left at ends ⊢
  generalize b m' = right at ends ⊢
  cases ends with
  | ok alike related' => exact .ok (more alike) related'
  | error alike related' => exact .error alike related'

theorem Flow.Alike.eq {flow flow' : Flow} (h : flow.Alike equality Eq () flow') : flow = flow' := by
  cases h with
  | normal values => rw [values.eq]
  | break_ _ same | continue_ _ same => exact congrArg _ same
  | return_ _ values same => rw [values.eq, (same : _ = _)]

/-- A turn acts alike if its parts do. -/
theorem Acts.turn {M : Machine → Machine → Prop} {body body' : Action Flow}
    {update update' : Action Value} (bodies : Acts equality M Eq body body')
    (updates : Acts equality M Eq update update') :
    Acts equality M Eq (Scriptlet.turn body update) (Scriptlet.turn body' update') := by
  refine .bind bodies fun {flow flow'} same => ?_
  subst same
  cases flow with
  | normal => exact .bind updates fun _ => .pure rfl
  | break_ | continue_ | return_ => exact .pure rfl

/-! ## One more frame in each round -/

/-- An action leaves grounded machines grounded. -/
def Action.Grounds {α : Type} (a : Action α) : Prop :=
  ∀ m : Machine, m.Grounded → m.StaysGrounded (a.after m)

theorem Action.Grounds.of_alike {α : Type} {a : Action α} (h : ∀ w, GroundedAlike w a a) :
    a.Grounds :=
  fun m grounded => (h ⟨m.depth, m.heap.frames.size⟩ m rfl (Nat.le_refl _) grounded).2

/-- Machines that differ in interposed frames only, with the same frame of their own. -/
abbrev Machine.Aligned (φ : Nat → Nat) : Machine → Machine → Prop :=
  Machine.Interposed φ (Scope.Aligned φ)

/-- On such machines two actions have the same outcome, and they leave such machines.  More frames
may be put in between.  Frames that were there keep their numbers. -/
def Interposes {α : Type} (a b : Action α) : Prop :=
  ∀ (φ : Nat → Nat) (m m' : Machine), Machine.Aligned φ m m' → m.Grounded →
    m.StaysGrounded (a.after m) ∧
      ∃ φ', GoesOn φ φ' m.heap.frames.size m'.heap.frames.size ∧
        Ends equality (Machine.Aligned φ') Eq (a m) (b m')

theorem GoesOn.refl {φ : Nat → Nat} {h h' : Heap} (interposed : h.Interposed φ h') :
    GoesOn φ φ h.frames.size h'.frames.size where
  below _ _ := rfl
  beyond i outside := by
    have numbered := interposed.lt_iff i
    omega

/-- Scopes that are there have the same frame of their own as before. -/
theorem Scope.Aligned.goesOn {φ φ' : Nat → Nat} {h h' : Heap} {s s' : Scope}
    (aligned : s.Aligned φ s') (onward : GoesOn φ φ' h.frames.size h'.frames.size)
    (heaps : h.Interposed φ h') (below : s.Below h.frames.size) : s.Aligned φ' s' :=
  ⟨aligned.1.trans (onward.below s.own (below _ (.head _))).symm,
    onward.interposed heaps aligned.2 fun i inside => below i (.tail _ inside)⟩

namespace Interposes

variable {α β : Type}

theorem of_acts {a b : Action α} (acts : ∀ φ, Acts equality (Machine.Aligned φ) Eq a b)
    (grounds : a.Grounds) : Interposes a b :=
  fun φ m m' related grounded =>
    ⟨grounds m grounded, φ, .refl related.heap, acts φ m m' related⟩

theorem pure (v : α) : Interposes (Pure.pure v) (Pure.pure v) :=
  .of_acts (fun _ => .pure rfl) (.of_alike fun w => congruence_grounded.pure w v)

theorem bind {a b : Action α} {f g : α → Action β} (first : Interposes a b)
    (second : ∀ v, Interposes (f v) (g v)) : Interposes (a >>= f) (b >>= g) := by
  intro φ m m' related grounded
  obtain ⟨stays, φ', onward, ends⟩ := first φ m m' related grounded
  rcases left : a m with ⟨v, n⟩ | ⟨e, n⟩
  · rw [after_of_ok left] at stays
    rw [left] at ends
    rcases right : b m' with ⟨w, n'⟩ | ⟨e', n'⟩
    · rw [right] at ends
      cases ends with
      | ok same related' =>
        subst same
        obtain ⟨stays', φ'', onward', ends'⟩ := second v φ' n n' related' stays.grounded
        rw [after_bind_of_ok left, bind_of_ok left, bind_of_ok right]
        exact ⟨stays.trans stays', φ'', onward.trans onward' related'.heap stays.size, ends'⟩
    · rw [right] at ends
      nomatch ends
  · rw [after_of_error left] at stays
    rw [left] at ends
    rcases right : b m' with ⟨w, n'⟩ | ⟨e', n'⟩
    · rw [right] at ends
      nomatch ends
    · rw [right] at ends
      cases ends with
      | error alike related' =>
        rw [after_bind_of_error left, bind_of_error left, bind_of_error right]
        exact ⟨stays, φ', onward, .error alike related'⟩

theorem round {test test' : Action Value} {body body' again again' : Action Flow}
    (tests : Interposes test test') (bodies : Interposes body body')
    (rests : Interposes again again') :
    Interposes (Scriptlet.round test body again) (Scriptlet.round test' body' again') := by
  refine tests.bind fun v => ?_
  split
  next =>
    refine bodies.bind fun flow => ?_
    cases flow with
    | normal | continue_ => exact rests
    | break_ | return_ => exact .pure _
  next => exact .pure _

/-- Acting in new scopes. -/
theorem inScope {a b : Action α} (h : Interposes a b) :
    Interposes (Scriptlet.inScope a) (Scriptlet.inScope b) := by
  intro φ m m' related grounded
  have inside : Machine.Aligned φ (m.opened m.scope) (m'.opened m'.scope) :=
    ⟨related.heap.newEnclosed m.scope m'.scope,
      related.scope.interposed.newEnclosed related.heap, related.depth, related.output⟩
  obtain ⟨stays, φ', onward, ends⟩ :=
    h φ (m.opened m.scope) (m'.opened m'.scope) inside (grounded.opened grounded.scope)
  have larger : m.heap.frames.size ≤ (m.opened m.scope).heap.frames.size :=
    (Heap.Extends.newEnclosed m.scope).size
  have onward' := (GoesOn.refl related.heap).trans onward inside.heap larger
  have scopes := related.scope.goesOn onward' related.heap grounded.scope
  change m.StaysGrounded ((enclosed m.scope a).after m) ∧ ∃ φ', _ ∧
    Ends _ _ _ (enclosed m.scope a m) (enclosed m'.scope b m')
  rw [after_enclosed, enclosed_eq, enclosed_eq]
  refine ⟨grounded.back stays, φ', onward', ?_⟩
  generalize a (m.opened m.scope) = left at ends ⊢
  generalize b (m'.opened m'.scope) = right at ends ⊢
  cases ends with
  | ok same related' => exact .ok same ⟨related'.heap, scopes, related'.depth, related'.output⟩
  | error alike related' =>
    exact .error alike ⟨related'.heap, scopes, related'.depth, related'.output⟩

/-- Acting in the same scope, and in a new one that no name is declared in. -/
theorem between {a b : Action α}
    (acts : ∀ φ, Acts equality (Machine.Interposed φ (Scope.Interposed φ)) Eq a b)
    (grounds : a.Grounds) : Interposes a (Scriptlet.inScope b) := by
  intro φ m m' related grounded
  have onward := related.heap.goesOn_leaveOut
  have some_ : 0 < m.heap.frames.size := Nat.zero_lt_of_lt (grounded.scope _ (.head _))
  have scopes := onward.interposed related.heap related.scope.interposed grounded.scope
  have inside : Machine.Interposed (leaveOut φ m.heap.frames.size)
      (Scope.Interposed (leaveOut φ m.heap.frames.size)) m (m'.opened m'.scope) :=
    ⟨related.heap.interpose some_ grounded.heap m'.scope,
      .skip related.heap.ne_leaveOut scopes, related.depth, related.output⟩
  have stays := grounds m grounded
  have ends := acts _ m (m'.opened m'.scope) inside
  have back := related.scope.goesOn onward related.heap grounded.scope
  refine ⟨stays, _, onward, ?_⟩
  change Ends _ _ _ (a m) (enclosed m'.scope b m')
  rw [enclosed_eq]
  unfold after at stays
  generalize a m = left at ends stays ⊢
  generalize b (m'.opened m'.scope) = right at ends ⊢
  cases ends with
  | ok same related' =>
    exact .ok same ⟨related'.heap, stays.scope.symm ▸ back, related'.depth, related'.output⟩
  | error alike related' =>
    exact .error alike
      ⟨related'.heap, stays.scope.symm ▸ back, related'.depth, related'.output⟩

end Interposes

/-! ## Round by round -/

section

variable (fuel : Nat)

theorem interposes_optional (missing : Value) (e : Option Expr) :
    Interposes (optional (perform fuel) missing e) (optional (perform fuel) missing e) := by
  refine .of_acts (fun φ => ?_) (.of_alike fun w =>
    congruence_grounded.optional (congruence_grounded.perform fuel) w missing e)
  have same : Option.Rel equality.expr e e := rel_self fun _ _ => rfl
  exact (((simulation_interposed φ).performs fuel).optional (.refl missing) same).mono
    Value.Alike.eq

theorem interposes_prepare (init : Option Stmt) :
    Interposes (prepare (perform fuel) init) (prepare (perform fuel) init) := by
  cases init with
  | none => exact .pure ()
  | some s =>
    refine .bind (.of_acts (fun φ => ?_) (.of_alike fun w =>
      congruence_grounded.perform fuel (.execute s) w trivial)) fun _ => .pure ()
    have same : equality.stmt () s s := rfl
    exact (((simulation_interposed φ).performs fuel).execute same).mono Flow.Alike.eq

/-- A turn with a block as its body does the same in a scope in between. -/
theorem interposes_turn (update : Option Expr) (body : List Stmt) (span : Span) :
    Interposes
      (turn ((perform fuel).execute (.block body span)) (optional (perform fuel) .null update))
      (inScope
        (turn ((perform fuel).execute (.block body span))
          (optional (perform fuel) .null update))) := by
  have G := congruence_grounded
  refine .between (fun φ => ?_) (.of_alike fun w => G.turn
    (G.perform fuel (.execute (.block body span)) w trivial)
    (G.optional (G.perform fuel) w .null update))
  have E := evaluators_interposed φ (S := Scope.Interposed φ) id
  have S := simulation_interposed φ
  have same : List.Forall₂ (equality.stmt ()) body body := List.forall₂_same.mpr fun _ _ => rfl
  have same' : Option.Rel equality.expr update update := rel_self fun _ _ => rfl
  exact .turn ((E.executes S fuel same span span).mono Flow.Alike.eq)
    (((E.evaluates S fuel).optional .null same').mono Value.Alike.eq)

theorem interposes_endless {α : Type} :
    Interposes (throw .endless : Action α) (throw .endless) :=
  .of_acts (fun _ => Simulation.endless) (.of_alike congruence_grounded.endless)

end

section

variable (condition update : Option Expr) {body : List Stmt} {span : Span}
  (unskipped : ∀ s, (.continue_, s) ∉ (Stmt.block body span).signals)

include unskipped

/-- The rounds of the for statement, with one more frame in each round. -/
theorem interposes_rounds : ∀ fuel : Nat,
    Interposes ((perform fuel).rounds condition update (.block body span))
      (inlinedRounds condition update (.block body span) fuel)
  | 0 => interposes_endless
  | fuel + 1 => by
    have passes : Gives (fun flow => ∀ s, flow ≠ .continue_ s)
        ((perform fuel).execute (.block body span)) := by
      rintro m m' flow ok s rfl
      exact unskipped s ((confines_perform fuel).execute _ m m' _ ok _ rfl)
    rw [rounds_eq_round fuel condition update passes]
    exact .round (interposes_optional fuel _ condition) (interposes_turn fuel update body span)
      (interposes_rounds fuel)

/-- The for statement, with one more frame in each round. -/
theorem interposes_for (init : Option Stmt) (span' : Span) : ∀ fuel : Nat,
    Interposes ((perform fuel).execute (.for_ init condition update (.block body span) span'))
      (inlined condition update (.block body span) init fuel)
  | 0 => interposes_endless
  | fuel + 1 => by
    have inner := (interposes_prepare fuel init).bind fun _ =>
      interposes_rounds condition update unskipped fuel
    exact inner.inScope

end

/-! ## Both statements -/

/-- Two machines come from one and the same.  They are in the same scope and have printed the
same lines, and their heaps differ in frames only that bind nothing and are put in between.
The frames that were there keep their numbers. -/
structure Machine.Corresponds (m n n' : Machine) : Prop where
  scope : n'.scope = n.scope
  depth : n'.depth = n.depth
  output : n'.output = n.output
  heap : ∃ φ, (∀ i < m.heap.frames.size, φ i = i) ∧ n.heap.Interposed φ n'.heap

/-- Where the first action comes to an end on a machine, the second one ends in the same way, on
machines that are related.  In any case the second one prints the lines that the first one
prints. -/
structure FollowedBy {α : Type} (Q : Machine → Machine → Prop) (a b : Action α) (m : Machine) :
    Prop where
  ok : ∀ v n, a m = .ok v n → ∃ n', b m = .ok v n' ∧ Q n n'
  fault : ∀ f n, a m = .error (.fault f) n → ∃ n', b m = .error (.fault f) n' ∧ Q n n'
  output : Grown (a.after m).output (b.after m).output

section

variable {α : Type} {a b c : Action α} {m : Machine}

/-- Two runs from one machine that differ in interposed frames have printed the same lines. -/
theorem output_eq_of_ends {φ : Nat → Nat}
    (ends : Ends equality (Machine.Aligned φ) Eq (a m) (c m)) :
    (a.after m).output = (c.after m).output := by
  unfold after
  generalize a m = left at ends ⊢
  generalize c m = right at ends ⊢
  cases ends with
  | ok _ related | error _ related => exact related.output

theorem corresponds_of_aligned {φ : Nat → Nat} {n n' : Machine}
    (onward : GoesOn id φ m.heap.frames.size m.heap.frames.size)
    (related : Machine.Aligned φ n n') (scope : n.scope = m.scope) (scope' : n'.scope = m.scope) :
    m.Corresponds n n' :=
  ⟨scope'.trans scope.symm, related.depth.symm, related.output.symm, φ, onward.below, related.heap⟩

variable (grounded : m.Grounded) (interposes : Interposes a c)
  (restores : (b.after m).scope = m.scope)

include grounded interposes restores

/-- An action is followed by one that goes at least as far as the one that it is compared
with. -/
theorem followedBy_of_approximates (approximates : Approximates m.depth c b) :
    FollowedBy m.Corresponds a b m := by
  obtain ⟨stays, φ, onward, ends⟩ :=
    interposes id m m ⟨.refl m.heap, .refl m.scope, rfl, rfl⟩ grounded
  have same := (approximates.endsAs m rfl).2
  have output := output_eq_of_ends ends
  unfold after at stays restores
  refine ⟨fun v n ok => ?_, fun f n error => ?_, output ▸ approximates.prints m rfl⟩
  · rw [ok] at ends stays
    generalize c m = middle at ends same
    cases ends with
    | ok values related =>
      subst values
      have ended := same (settled_ok _ _)
      rw [ended] at restores
      exact ⟨_, ended, corresponds_of_aligned onward related stays.scope restores⟩
  · rw [error] at ends stays
    generalize c m = middle at ends same
    cases ends with
    | error alike related =>
      cases alike.eq
      have ended := same fun _ endless => nomatch endless
      rw [ended] at restores
      exact ⟨_, ended, corresponds_of_aligned onward related stays.scope restores⟩

/-- An action that goes at most as far as the one that another one is compared with is followed
by the other one. -/
theorem followedBy_of_approximated (approximates : Approximates m.depth b c) :
    FollowedBy (fun n' n => m.Corresponds n n') b a m := by
  obtain ⟨stays, φ, onward, ends⟩ :=
    interposes id m m ⟨.refl m.heap, .refl m.scope, rfl, rfl⟩ grounded
  have same := (approximates.endsAs m rfl).2
  have output := output_eq_of_ends ends
  unfold after at stays restores
  refine ⟨fun v n ok => ?_, fun f n error => ?_, output ▸ approximates.prints m rfl⟩
  · rw [ok] at restores same
    rw [same (settled_ok v n)] at ends
    generalize a m = left at ends stays ⊢
    cases ends with
    | ok values related =>
      subst values
      exact ⟨_, rfl, corresponds_of_aligned onward related stays.scope restores⟩
  · rw [error] at restores same
    rw [same fun _ endless => nomatch endless] at ends
    generalize a m = left at ends stays ⊢
    cases ends with
    | error alike related =>
      cases alike.eq
      exact ⟨_, rfl, corresponds_of_aligned onward related stays.scope restores⟩

end

/-- The first clause of a for statement is a declaration or an expression, if it is one that
texts are read as.  So no signal comes out of it. -/
theorem signals_of_initShaped {init : Option Stmt} (shaped : initShaped init = true) :
    ∀ s ∈ init, s.signals = [] := by
  rintro s rfl
  cases s with
  | declare | constant | expr => rfl
  | block | print | if_ | while_ | for_ | break_ | continue_ | return_ | function => cases shaped

/-- A for statement and its while statement print the same lines and end in the same way:
normally, with the same `return` or with the same error.  The heaps that they leave differ in
frames only that bind nothing and are put in between.  That holds on all machines that a session
comes to, as long as no `continue` in the body belongs to the loop, for a body that is a block.
No signal comes out of the first clause of a for statement that a text is read as.  After a
`continue` the for statement evaluates the update and then goes on with the next test. -/
theorem for_loops_are_while_loops :
    (∀ m : Machine, m.VisitedGrounded →
      ∀ (init : Option Stmt) (condition update : Option Expr) (body : List Stmt)
        (bodySpan span span' : Span), (∀ s ∈ init, s.signals = []) →
        (∀ s, (.continue_, s) ∉ (Stmt.block body bodySpan).signals) →
        ∀ loop looped : Stmt,
          loop = .for_ init condition update (.block body bodySpan) span →
          looped = .asWhile init condition update (.block body bodySpan) span' →
          ∀ fuel : Nat,
            FollowedBy m.Corresponds ((perform fuel).execute loop)
              ((perform (fuel + 3)).execute looped) m ∧
            FollowedBy (fun n' n => m.Corresponds n n') ((perform fuel).execute looped)
              ((perform fuel).execute loop) m ∧
            ∀ flow n, (perform fuel).execute loop m = .ok flow n →
              flow = .normal .null ∨ ∃ v s, flow = .return_ v s) ∧
    (∀ (init : Option Stmt) (condition update : Option Expr) (body : Stmt) (span : Span),
      (Stmt.for_ init condition update body span).isShaped = true → ∀ s ∈ init, s.signals = []) ∧
    ∀ (fuel : Nat) (condition : Option Expr) (update : Expr) (body : Stmt) (m m₁ m₂ : Machine)
      (v : Value) (s : Span),
      optional (perform fuel) (.boolean true) condition m = .ok v m₁ → v.isTruthy = true →
      (perform fuel).execute body m₁ = .ok (.continue_ s) m₂ →
      (perform (fuel + 1)).rounds condition (some update) body m =
        ((perform fuel).evaluate update >>= fun _ =>
          (perform fuel).rounds condition (some update) body) m₂ := by
  refine ⟨?_, ?_, ?_⟩
  · rintro m visited init condition update body bodySpan span span' plain unskipped _ _ rfl rfl fuel
    have interposes := interposes_for condition update unskipped init span fuel
    obtain ⟨before, after⟩ :=
      approximates_inlined condition update (.block body bodySpan) plain span' fuel m.depth
    refine ⟨?_, ?_, ?_⟩
    · exact followedBy_of_approximates visited.grounded interposes
        (perform_restores (fuel + 3) (t := .execute _) trivial).1 after
    · exact followedBy_of_approximated visited.grounded interposes
        (perform_restores fuel (t := .execute _) trivial).1 before
    · exact fun flow n ok => for_ofLoop fuel init condition update _ span m n flow ok
  · intro init condition update body span shaped
    simp only [Stmt.isShaped, Bool.and_eq_true] at shaped
    exact signals_of_initShaped shaped.1.1.1.1
  · intro fuel condition update body m m₁ m₂ v s tested truthy skipped
    refine (bind_of_ok tested _).trans ?_
    simp only [truthy, if_true]
    exact bind_of_ok skipped _

/-- A loop that makes a function in its only round, in scopes of which one is in between in the
while statement.  Another loop evaluates its update after a `continue`. -/
theorem for_loops_are_while_loops_capturing :
    let m := Machine.initial
    let init : Stmt :=
      .declare .let_ "go" (some .boolean) (some (.boolean true default)) default
    let test : Expr := .identifier "go" default
    let stop : Expr := .assign .set (.identifier "go" default) (.boolean false default) default
    let body : List Stmt :=
      [.function (.mk (some "f") [] none [] default), .print (.string "in" default) default]
    let loop : Stmt := .for_ init test stop (.block body default) default
    let looped : Stmt := .asWhile init test stop (.block body default) default
    loop.isShaped = true ∧
      (∃ n n' : Machine, (perform 9).execute loop m = .ok (.normal .null) n ∧
        (perform 12).execute looped m = .ok (.normal .null) n' ∧ m.Corresponds n n' ∧
        n.output = #["in"] ∧ n.heap.frames.size = 3 ∧ n'.heap.frames.size = 4) ∧
      (perform 2).rounds none (some stop) (.continue_ default) m =
        ((perform 1).evaluate stop >>= fun _ =>
          (perform 1).rounds none (some stop) (.continue_ default)) m := by
  intro m init test stop body loop looped
  obtain ⟨same, shaped, continued⟩ := for_loops_are_while_loops
  have well_shaped : loop.isShaped = true := by decide
  have ran : (match (perform 9).execute loop m with
      | .ok flow n =>
        decide (flow = .normal .null ∧ n.output = #["in"] ∧ n.heap.frames.size = 3)
      | .error _ _ => false) = true := by decide +kernel
  have size : (((perform 12).execute looped).after m).heap.frames.size = 4 := by decide +kernel
  have plain := shaped init test stop (.block body default) default well_shaped
  refine ⟨well_shaped, ?_, continued 1 none stop (.continue_ default) m m m (.boolean true)
    default rfl rfl rfl⟩
  split at ran
  next flow n outcome =>
    obtain ⟨rfl, output, frames⟩ := of_decide_eq_true ran
    obtain ⟨there, -⟩ := same m (.reached .initial) init test stop body default default default
      plain (fun s inside => nomatch inside) loop looped rfl rfl 9
    obtain ⟨n', ended, corresponds⟩ := there.ok _ _ outcome
    have ended' : (perform 12).execute looped m = .ok (.normal .null) n' := ended
    have left := after_of_ok ended'
    rw [left] at size
    exact ⟨n, n', outcome, ended, corresponds, output, frames, size⟩
  next => cases ran

end Scriptlet

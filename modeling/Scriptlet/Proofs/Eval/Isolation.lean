import Scriptlet.Proofs.Eval.Twin

/-!
# What a call depends on

A call depends on what its callee and its arguments reach, and on nothing else:
not on the scope that it is made in, and not on the rest of the heap
(`calls_see_what_they_reach`).  Two machines may lay out their cells in different
ways, so they *agree* up to a pairing of what is reached.  The cells that the call
makes are paired in the order in which they are made.

The proof runs the two machines as twins, for the pairing of what is reached, of
the cells that are made next, and of the function that prints.  That is the one
function that a statement finds in the root scope without reaching it.  It never
changes.
-/

open Scriptlet.Action Scriptlet.Evaluate

namespace Scriptlet

/-! ## Equality as a likeness -/

theorem Expr.parallel_self (e : Expr) : Expr.Parallel Eq Eq Eq e e :=
  Expr.parallel_of_parts (by cases e <;> simp [Expr.Parts]) rfl

theorem Stmt.parallel_self (s : Stmt) : Stmt.Parallel Eq Eq Eq Eq Eq (fun _ => True) s s :=
  Stmt.parallel_of_parts (by cases s <;> simp [Stmt.Parts]) rfl

/-- All code is like itself. -/
def equality : Likeness where
  span := Eq
  Place := Unit
  top := ()
  body := ()
  loop p := p
  allowed _ _ := True
  fails _ := True
  expr := Eq
  stmt _ := Eq
  function := Eq
  expr_parallel := by
    rintro e _ rfl
    exact e.parallel_self
  stmt_parallel := by
    rintro _ s _ rfl
    exact s.parallel_self
  function_parallel := by
    rintro f _ rfl
    exact ⟨rfl, List.forall₂_same.mpr fun _ _ => ⟨rfl, rfl, rfl⟩, rfl,
      List.forall₂_same.mpr fun _ _ => rfl, rfl⟩
  return_of_loop h := h
  fails_of_not_isEscape _ := trivial
  fails_of_top _ := trivial
  fails_of_body _ _ := trivial

/-! ## Machines on the way -/

/-- The machines that a session comes to, between two requests or in the middle of one. -/
inductive Machine.Visited : Machine → Prop
  /-- Between two requests. -/
  | reached {m : Machine} : m.Reached → Visited m
  /-- In the middle of a request, where a task starts. -/
  | met {m m' : Machine} {r : Request} {fuel : Nat} {t : Task} :
    m.Reached → r.Meets fuel m t m' → Visited m'

theorem Machine.Visited.prints {m : Machine} (visited : m.Visited) : m.heap.Prints := by
  cases visited with
  | reached reached => exact reached.prints
  | met reached meets =>
    obtain ⟨-, depth⟩ := reached.restores
    have outside : _ = 0 := depth
    have room := outside ▸ Nat.zero_le maxDepth
    exact (meets.holds Heap.lasting_prints room reached.prints).2.2

/-! ## Agreement -/

/-- The function that prints. -/
def Cell.print : Cell := ⟨.function, 0⟩

/-- What some values reach on a heap is what other values reach on another one, up to a
pairing of the cells.  The function that prints is paired with itself, if it is reached. -/
structure Heap.Agree (ρ : Pairing) (vs vs' : List Value) (h h' : Heap) : Prop where
  oneToOne : ρ.OneToOne
  values : List.Forall₂ (Value.Alike ρ) vs vs'
  reached : ∀ {c d}, ρ c d → h.Reaches vs c ∧ h'.Reaches vs' d
  has : ∀ {c d}, ρ c d → h.Has c ∧ h'.Has d
  contents : ∀ {c d}, ρ c d → (h.contents c).Alike Eq ρ (h'.contents d)
  print : ∀ {c d}, ρ c d → (c = .print ↔ d = .print)

/-- The cells that some values reach, each paired with itself. -/
def Heap.reachedFrom (h : Heap) (vs : List Value) : Pairing := fun c d => c = d ∧ h.Reaches vs c

/-- Two heaps that hold the same in every cell that is reached agree. -/
theorem Heap.agree_of_same {vs : List Value} {h h' : Heap}
    (same : ∀ c, h.Reaches vs c → h.Has c ∧ h'.Has c ∧ h.contents c = h'.contents c) :
    Heap.Agree (h.reachedFrom vs) vs vs h h' where
  oneToOne := ⟨fun r r' => r.1.symm.trans r'.1, fun r r' => r.1.trans r'.1.symm⟩
  values := List.forall₂_same.mpr fun v inside =>
    .self v fun c refers => ⟨rfl, .root inside refers⟩
  reached := by
    rintro c _ ⟨rfl, reached⟩
    refine ⟨reached, ?_⟩
    induction reached with
    | root inside refers => exact .root inside refers
    | step before mentions ih =>
      rw [(same _ before).2.2] at mentions
      exact .step ih mentions
  has := by
    rintro c _ ⟨rfl, reached⟩
    exact ⟨(same c reached).1, (same c reached).2.1⟩
  contents := by
    rintro c _ ⟨rfl, reached⟩
    rw [← (same c reached).2.2]
    exact .self _ (fun d mentions => ⟨rfl, .step reached mentions⟩) fun _ _ _ => rfl
  print := by
    rintro c _ ⟨rfl, -⟩
    rfl

/-- A pairing of cells of two heaps, with the function that prints and with the cells that are
made next, in the order in which they are made. -/
def Pairing.onward (ρ : Pairing) (h h' : Heap) : Pairing := fun c d =>
  ρ c d ∨ (c = .print ∧ d = .print) ∨
    ∃ s k, c = ⟨s, h.size s + k⟩ ∧ d = ⟨s, h'.size s + k⟩

namespace Pairing

variable {ρ : Pairing} {h h' : Heap}

theorem onward.flip {c d : Cell} (related : ρ.onward h h' c d) :
    (Pairing.onward (fun d c => ρ c d) h' h) d c := by
  obtain related | ⟨left, right⟩ | ⟨s, k, left, right⟩ := related
  · exact .inl related
  · exact .inr (.inl ⟨right, left⟩)
  · exact .inr (.inr ⟨s, k, right, left⟩)

theorem not_has_fresh (h : Heap) (s : CellSort) (k : Nat) : ¬ h.Has ⟨s, h.size s + k⟩ :=
  Nat.not_lt.mpr (Nat.le_add_right _ _)

/-- A pairing of cells that are there goes on as one that pairs no cell twice. -/
theorem onward_right (right : ∀ {c d d'}, ρ c d → ρ c d' → d = d')
    (has : ∀ {c d}, ρ c d → h.Has c) (print : ∀ {d}, ρ .print d → d = .print)
    (has_print : h.Has .print) {c d d' : Cell} (first : ρ.onward h h' c d)
    (second : ρ.onward h h' c d') : d = d' := by
  obtain first | ⟨rfl, rfl⟩ | ⟨s, k, rfl, rfl⟩ := first
  · obtain second | ⟨rfl, rfl⟩ | ⟨s, k, rfl, rfl⟩ := second
    · exact right first second
    · exact print first
    · exact absurd (has first) (not_has_fresh h s k)
  · obtain second | ⟨-, rfl⟩ | ⟨s, k, same, -⟩ := second
    · exact (print second).symm
    · rfl
    · exact absurd (same ▸ has_print) (not_has_fresh h s k)
  · obtain second | ⟨same, -⟩ | ⟨t, l, same, rfl⟩ := second
    · exact absurd (has second) (not_has_fresh h s k)
    · exact absurd (same ▸ has_print) (not_has_fresh h s k)
    · obtain ⟨rfl, same⟩ := Cell.mk.inj same
      rw [Nat.add_left_cancel same]

end Pairing

namespace Heap.Agree

variable {ρ : Pairing} {vs vs' : List Value} {h h' : Heap} (agree : Heap.Agree ρ vs vs' h h')

include agree

theorem oneToOne_onward (prints : h.Prints) (prints' : h'.Prints) :
    (ρ.onward h h').OneToOne where
  right := Pairing.onward_right (ρ := ρ) agree.oneToOne.right (fun r => (agree.has r).1)
    (fun r => (agree.print r).mp rfl) prints.has
  left first second :=
    Pairing.onward_right (ρ := fun d c => ρ c d) agree.oneToOne.left (fun r => (agree.has r).2)
      (fun r => (agree.print r).mpr rfl) prints'.has first.flip second.flip

/-- Heaps that agree are alike for all cells that a call can come to. -/
theorem alike (prints : h.Prints) (prints' : h'.Prints) :
    h.Alike Eq (ρ.onward h h') h' where
  has {c d} related := by
    obtain related | ⟨rfl, rfl⟩ | ⟨s, k, rfl, rfl⟩ := related
    · exact iff_of_true (agree.has related).1 (agree.has related).2
    · exact iff_of_true prints.has prints'.has
    · exact iff_of_false (Pairing.not_has_fresh h s k) (Pairing.not_has_fresh h' s k)
  contents {c d} related := by
    obtain related | ⟨rfl, rfl⟩ | ⟨s, k, rfl, rfl⟩ := related
    · exact (agree.contents related).mono .inl
    · rw [Cell.print, prints.contents, prints'.contents]
      exact .function (.builtin .print)
    · rw [h.contents_fresh, h'.contents_fresh]
      exact .empty s
  fresh s k := .inr (.inr ⟨s, k, rfl, rfl⟩)

end Heap.Agree

/-! ## Calls -/

/-- Two machines have changed in the same way, as far as some values reach, and in no other
way. -/
structure Machine.ChangedAlike (ρ : Pairing) (vs vs' : List Value) (m m' n n' : Machine) :
    Prop where
  /-- The same lines are printed. -/
  output : ∃ lines, n.output = m.output ++ lines ∧ n'.output = m'.output ++ lines
  /-- What is paired, and what is new, holds what is alike. -/
  heap : n.heap.Alike Eq (ρ.onward m.heap m'.heap) n'.heap
  /-- What was not reached stays as it was. -/
  unreached : ∀ c, m.heap.Has c → ¬ m.heap.Reaches vs c → m.heap.SameAt n.heap c
  unreached' : ∀ c, m'.heap.Has c → ¬ m'.heap.Reaches vs' c → m'.heap.SameAt n'.heap c

theorem Halt.Alike.eq {e e' : Halt} (h : e.Alike equality e') : e = e' := by
  cases h with
  | crash | endless => rfl
  | @fault f s _ same =>
    obtain rfl : f.span = s := same
    rw [Fault.at_span]

section

variable {ρ : Pairing} {callee callee' : Value} {args args' : List Value} {m m' n n' : Machine}

/-- Twins for what is reached change in the same way and in no other way. -/
theorem changedAlike_of_twin {vs vs' : List Value} {S : Scope → Scope → Prop}
    (agree : Heap.Agree ρ vs vs' m.heap m'.heap) (prints : m.heap.Prints)
    (prints' : m'.heap.Prints)
    (twin : Machine.Twin equality (ρ.onward m.heap m'.heap) S m m' n n') :
    Machine.ChangedAlike ρ vs vs' m m' n n' where
  output := twin.output
  heap := twin.heap.alike
  unreached c has unreached := by
    by_cases is_print : c = .print
    · subst is_print
      exact ⟨iff_of_true has twin.heap.prints.has,
        prints.contents.trans twin.heap.prints.contents.symm⟩
    · refine twin.heap.kept c ?_
      rintro d (related | ⟨same, -⟩ | ⟨s, k, same, -⟩)
      · exact unreached (agree.reached related).1
      · exact is_print same
      · exact absurd (same ▸ has) (Pairing.not_has_fresh m.heap s k)
  unreached' c has unreached := by
    by_cases is_print : c = .print
    · subst is_print
      exact ⟨iff_of_true has twin.heap.prints'.has,
        prints'.contents.trans twin.heap.prints'.contents.symm⟩
    · refine twin.heap.kept' c ?_
      rintro d (related | ⟨-, same⟩ | ⟨s, k, -, same⟩)
      · exact unreached (agree.reached related).2
      · exact is_print same
      · exact absurd (same ▸ has) (Pairing.not_has_fresh m'.heap s k)

/-- Calls of values that agree end alike on machines that agree. -/
theorem ends_of_agree (agree : Heap.Agree ρ (callee :: args) (callee' :: args') m.heap m'.heap)
    (prints : m.heap.Prints) (prints' : m'.heap.Prints) (depth : m.depth = m'.depth)
    (fuel : Nat) (span : Span) :
    Ends equality
      (Machine.ChangedAlike ρ (callee :: args) (callee' :: args') m m')
      (Value.Alike (ρ.onward m.heap m'.heap))
      ((perform fuel).call callee args span m) ((perform fuel).call callee' args' span m') := by
  have one := agree.oneToOne_onward prints prints'
  have simulation := simulation_twin (K := equality) one m m' (.inr (.inl ⟨rfl, rfl⟩))
  have start : Machine.Twin equality (ρ.onward m.heap m'.heap) (fun _ _ => True) m m' m m' :=
    ⟨⟨agree.alike prints prints', fun c _ => .refl _ c, fun c _ => .refl _ c, prints, prints'⟩,
      trivial, depth, #[], by simp, by simp⟩
  have values : List.Forall₂ (Value.Alike (ρ.onward m.heap m'.heap)) (callee :: args)
      (callee' :: args') := agree.values.imp fun _ _ h => h.mono .inl
  cases values with
  | cons callees arguments =>
    have ends := (callers_twin one m m' _).call simulation fuel callees arguments
      (rfl : span = span) m m' start
    revert ends
    generalize (perform fuel).call callee args span m = left
    generalize (perform fuel).call callee' args' span m' = right
    intro ends
    cases ends with
    | ok alike twin => exact .ok alike (changedAlike_of_twin agree prints prints' twin)
    | error alike twin => exact .error alike (changedAlike_of_twin agree prints prints' twin)

end

/-- A call comes to the same on two machines that agree on what its callee and its arguments
reach.  It gives values that are alike or the same error, prints the same lines, makes the
same changes to what is reached, and changes nothing else.  The scopes of the two machines
and what is not reached may be anything.  In particular machines agree if they hold the
same in all cells that are reached. -/
theorem calls_see_what_they_reach :
    (∀ (vs : List Value) (h h' : Heap),
      (∀ c, h.Reaches vs c → h.Has c ∧ h'.Has c ∧ h.contents c = h'.contents c) →
      Heap.Agree (h.reachedFrom vs) vs vs h h') ∧
    ∀ m m' : Machine, m.Visited → m'.Visited → m.depth = m'.depth →
      ∀ (ρ : Pairing) (callee callee' : Value) (args args' : List Value),
        Heap.Agree ρ (callee :: args) (callee' :: args') m.heap m'.heap →
        ∀ (fuel : Nat) (span : Span),
          (∀ v n, (perform fuel).call callee args span m = .ok v n →
            ∃ v' n', (perform fuel).call callee' args' span m' = .ok v' n' ∧
              v.Alike (ρ.onward m.heap m'.heap) v' ∧
              Machine.ChangedAlike ρ (callee :: args) (callee' :: args') m m' n n') ∧
          ∀ e n, (perform fuel).call callee args span m = .error e n →
            ∃ n', (perform fuel).call callee' args' span m' = .error e n' ∧
              Machine.ChangedAlike ρ (callee :: args) (callee' :: args') m m' n n' := by
  refine ⟨fun _ _ _ => Heap.agree_of_same, ?_⟩
  intro m m' visited visited' depth ρ callee callee' args args' agree fuel span
  have ends := ends_of_agree agree visited.prints visited'.prints depth fuel span
  refine ⟨fun v n ok => ?_, fun e n error => ?_⟩
  · rw [ok] at ends
    generalize (perform fuel).call callee' args' span m' = right at ends ⊢
    cases ends with
    | ok alike changed => exact ⟨_, _, rfl, alike, changed⟩
  · rw [error] at ends
    generalize (perform fuel).call callee' args' span m' = right at ends ⊢
    cases ends with
    | error alike changed =>
      cases alike.eq
      exact ⟨_, rfl, changed⟩

/-- A function that makes an array, on two machines of which one already has an array.  The
new arrays are different cells that stand for each other. -/
theorem calls_see_what_they_reach_making_array :
    ∃ m m' n n' : Machine, m.Visited ∧ m'.Visited ∧ m.depth = m'.depth ∧
      Heap.Agree (m.heap.reachedFrom [.function 1]) [.function 1] [.function 1] m.heap m'.heap ∧
      (perform 9).call (.function 1) [] default m = .ok (.array 0) n ∧
      (perform 9).call (.function 1) [] default m' = .ok (.array 1) n' ∧
      Value.Alike ((m.heap.reachedFrom [.function 1]).onward m.heap m'.heap) (.array 0) (.array 1) ∧
      Machine.ChangedAlike (m.heap.reachedFrom [.function 1]) [.function 1] [.function 1]
        m m' n n' := by
  obtain ⟨same_agrees, calls⟩ := calls_see_what_they_reach
  let f : Function := .mk none [] none [.return_ (some (.array [] default)) default] default
  let m : Machine := Machine.initial.withFunction f
  let m' : Machine := { m with heap := (m.heap.newArray #[.null]).2 }
  have reached : m.Reached := Machine.initial.later_withFunction f
  have reached' : m'.Reached := .supply reached ⟨rfl, ⟨#[#[.null]], rfl⟩, ⟨#[], rfl⟩, ⟨#[], rfl⟩⟩
  have closed : ∀ c d, (m.heap.contents c).Mentions d → m.heap.Has d := by
    rintro ⟨s, i⟩ d mentions
    cases s with
    | frame =>
      obtain ⟨name, b, found, refers⟩ := mentions
      cases i with
      | zero =>
        change [(Builtin.print.name, (⟨.function 0, true, none⟩ : Binding))].lookup name =
          some b at found
        rw [lookup_cons_ite] at found
        split at found
        next =>
          cases found
          cases refers
          exact Nat.zero_lt_two
        next => cases found
      | succ => cases found
    | array =>
      obtain ⟨v, inside, -⟩ := mentions
      cases inside
    | object =>
      obtain ⟨p, inside, -⟩ := mentions
      cases inside
    | function =>
      obtain ⟨g, scope, found, frame, inside, rfl⟩ := mentions
      cases i with
      | zero => cases found
      | succ i =>
        cases i with
        | zero =>
          cases found
          cases List.mem_singleton.mp inside
          exact Nat.zero_lt_one
        | succ => cases found
  have inside : ∀ c, m.heap.Reaches [.function 1] c → m.heap.Has c := by
    intro c reaches
    cases reaches with
    | root is_callee refers =>
      cases List.mem_singleton.mp is_callee
      cases refers
      exact Nat.one_lt_two
    | step _ mentions => exact closed _ _ mentions
  have agree := same_agrees [.function 1] m.heap m'.heap fun c reaches => by
    have has := inside c reaches
    have other : c ≠ ⟨.array, m.heap.arrays.size⟩ := by
      rintro rfl
      exact Nat.lt_irrefl _ has
    have kept := (m.heap.puts_newArray [.null]).sameAt other
    exact ⟨has, kept.1.mp has, kept.2⟩
  obtain ⟨v', n', ok, alike, changed⟩ := (calls m m' (.reached reached) (.reached reached') rfl _
    _ _ [] [] agree 9 default).1 (.array 0) _ rfl
  cases ok
  exact ⟨m, m', _, _, .reached reached, .reached reached', rfl, agree, rfl, rfl, alike, changed⟩

end Scriptlet

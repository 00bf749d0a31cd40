import Scriptlet.Proofs.Diagnostic.Location
import Scriptlet.Proofs.Eval.Layout
import Scriptlet.Repl.Dialogue

/-!
# What reports of a dialogue point to

The report of a failure is drawn over the input that failed.  A lexical or a syntactic failure
has a span of that input, and so has a runtime failure in its own code.  But functions keep the
spans of the input that they were defined in, and they are called from later ones.  When such a
function fails, the span of an earlier input is drawn over the current one
(`reports_point_to_inputs`).

How lines are read and how a report is drawn does not matter.  The inputs are any texts, and
the drawing is any function of the report and of the source that it is drawn over.

The invariant is about provenance.  All spans of functions on the heap of a dialogue are spans
of programs that were parsed from its inputs so far (`Dialogue.Comes.known`).
-/

open Scriptlet.Action Scriptlet.Evaluate

namespace Scriptlet

/-! ## Spans of an input -/

/-- The spans of the tokens of an input, of the nodes of trees that they spell, and of a
character that starts no token. -/
inductive SpanOf (input : String) : Span → Prop
  /-- A character that starts no token. -/
  | character {e : LexError} : tokenize input = .error e → SpanOf input e.span
  /-- A token, which may be the end of the input. -/
  | token {ts : List Token} {t : Token} :
    tokenize input = .ok ts → t ∈ Token.significant ts → SpanOf input t.span
  /-- An expression that some of the tokens spell. -/
  | expression {ts before us after : List Token} {e : Expr} :
    tokenize input = .ok ts → Parser.body ts = before ++ (us ++ after) → e.Spelled us →
    SpanOf input e.span
  /-- A node or a parameter in the program. -/
  | node {p : Program} {s : Span} : parseText input = .ok p → s ∈ p.spans → SpanOf input s

theorem inSource_bounds {source : String} {s : Span} (inside : (inSource source).Has s) :
    s.start ≤ s.stop ∧ s.stop ≤ source.utf8ByteSize := by
  obtain ⟨holds, -, last⟩ := inside
  exact ⟨Nat.le_of_lt holds, Place.bytes_toList source ▸ last.le⟩

/-- A program is spelled by tokens that lie in its text, and so do its spans. -/
theorem spans_inSource {source : String} {p : Program} (parsed : parseText source = .ok p) :
    ∀ s ∈ p.spans, (inSource source).Has s := by
  obtain ⟨ts, read, spelled⟩ := bodySpelled_of_parseText parsed
  obtain ⟨inside, -⟩ := tokens_inSource read
  exact spans_of_bodySpelled spelled inside

/-- The spans of an input lie in it. -/
theorem SpanOf.bounds {input : String} {s : Span} (h : SpanOf input s) :
    s.start ≤ s.stop ∧ s.stop ≤ input.utf8ByteSize := by
  cases h with
  | character stopped => exact inSource_bounds (liesIn_of_tokenize stopped)
  | @token ts t read member =>
    obtain ⟨inside, -, -, at_end⟩ := tokens_inSource read
    rw [(significant_of_tokenize read).1] at member
    rcases List.mem_append.mp member with counts | is_stop
    · exact inSource_bounds (inside t counts)
    · obtain rfl := List.mem_singleton.mp is_stop
      rw [at_end]
      exact ⟨Nat.le_refl _, Nat.le_refl _⟩
  | expression read same spelled =>
    obtain ⟨inside, -⟩ := tokens_inSource read
    rw [same] at inside
    exact inSource_bounds (Expr.spans_of_spelled spelled
      (Region.tokens_append.mp (Region.tokens_append.mp inside).2).1).expr
  | node parsed member => exact inSource_bounds (spans_inSource parsed s member)

/-- A text that does not parse is refused at a span of its own. -/
theorem spanOf_of_parseText {input : String} {e : ParseError}
    (refused : parseText input = .error e) : SpanOf input e.span := by
  unfold parseText at refused
  split at refused
  next ts read =>
    have split := (significant_of_tokenize read).1
    unfold parseProgram at refused
    split at refused
    next => cases refused
    next r stopped =>
      cases refused
      cases Parser.blames_of_statements stopped with
      | @unexpected rest e left =>
        refine .token read (t := rest.headD (Parser.stop ts)) ?_
        rw [split]
        cases rest with
        | nil => exact List.mem_append_right _ (.head _)
        | cons t rest => exact List.mem_append_left _ (left.subset (.head _))
      | @invalidTarget before us rest op target same spelled _ _ =>
        exact .expression read same spelled
      | @unterminated rest t left =>
        refine .token read (t := t) ?_
        rw [split]
        exact List.mem_append_left _ (left.subset (.head _))
  next e stopped =>
    cases refused
    exact .character stopped

namespace Dialogue

/-! ## Turns -/

section

variable {fuel : Nat} {m : Machine} {input : String} {p : Program} {f : Failure}

/-- What is complained in a turn is the report of its failure, drawn over its input. -/
theorem Turn.err_written {t : Turn} (draw : Drawing) (failed : t.failure = some f) :
    (t.written draw).err = draw sourceName t.input (f.report t.input.utf8ByteSize) := by
  simp only [written, failed]
  exact String.empty_append

/-- An input that does not parse changes nothing. -/
theorem evaluate_refused {e : ParseError} (refused : parseText input = .error e) :
    evaluate fuel m input = ⟨input, m, [], some (.syntactic e), false⟩ := by
  simp only [evaluate, refused]

/-- An input that parses fails as its program does. -/
theorem exists_fault (parsed : parseText input = .ok p)
    (failed : (evaluate fuel m input).failure = some f) :
    ∃ fault m', f = .runtime fault ∧
      p.run fuel { m with output := #[] } = .error (.fault fault) m' := by
  simp only [evaluate, parsed] at failed
  rcases outcome : p.run fuel { m with output := #[] } with ⟨v, m'⟩ | ⟨e, m'⟩
  · rw [outcome] at failed
    cases v with
    | null => cases failed
    | number | string | boolean | array | object | function =>
      dsimp only at failed
      split at failed <;> cases failed
  · rw [outcome] at failed
    cases e with
    | fault fault =>
      cases failed
      exact ⟨fault, m', rfl, rfl⟩
    | crash | endless => cases failed

/-- An input that parses leaves the heap that its program leaves. -/
theorem heap_evaluate (parsed : parseText input = .ok p) :
    (evaluate fuel m input).machine.heap =
      ((p.run fuel).after { m with output := #[] }).heap := by
  unfold evaluate after
  simp only [parsed]
  rcases p.run fuel { m with output := #[] } with ⟨v, m'⟩ | ⟨e, m'⟩
  · cases v with
    | null => rfl
    | number | string | boolean | array | object | function =>
      dsimp only
      split <;> rfl
  · cases e <;> rfl

theorem input_evaluate : (evaluate fuel m input).input = input := by
  unfold evaluate
  split
  next => rfl
  next => split <;> first | rfl | (split <;> rfl)

/-- A text is taken as an input, or nothing is done with it. -/
theorem submit_cases (fuel : Nat) (m : Machine) (text : List Char) :
    submit fuel m text = evaluate fuel m (String.ofList (Text.trim text)) ∨
      (submit fuel m text).input = String.ofList (Text.trim text) ∧
        (submit fuel m text).machine = m ∧ (submit fuel m text).failure = none := by
  unfold submit
  dsimp only
  split
  next => exact .inr ⟨rfl, rfl, rfl⟩
  next =>
    split
    next => exact .inr ⟨rfl, rfl, rfl⟩
    next => exact .inl rfl

theorem input_submit (text : List Char) :
    (submit fuel m text).input = String.ofList (Text.trim text) := by
  rcases submit_cases fuel m text with taken | ⟨same, -, -⟩
  · rw [taken, input_evaluate]
  · exact same

end

/-! ## Histories -/

/-- The machines that come after some inputs, the last input first. -/
inductive Comes : List String → Machine → Prop
  /-- Before the first input. -/
  | initial : Comes [] Machine.initial
  /-- After one more text was taken. -/
  | submit {inputs : List String} {m : Machine} (fuel : Nat) (text : List Char) : Comes inputs m →
    Comes ((submit fuel m text).input :: inputs) (submit fuel m text).machine

/-- A span in a program that one of some inputs spells. -/
def SpanAmong (inputs : List String) (s : Span) : Prop :=
  ∃ input ∈ inputs, ∃ p, parseText input = .ok p ∧ s ∈ p.spans

theorem SpanAmong.cons {inputs : List String} {s : Span} (among : SpanAmong inputs s)
    (input : String) : SpanAmong (input :: inputs) s := by
  obtain ⟨earlier, inside, p, parsed, member⟩ := among
  exact ⟨earlier, .tail _ inside, p, parsed, member⟩

/-- A heap on which all functions come from some inputs. -/
structure Known (inputs : List String) (h : Heap) : Prop where
  spanned : h.Spanned (SpanAmong inputs)
  prints : h.Prints

theorem Known.cons {inputs : List String} {h : Heap} (known : Known inputs h) (input : String) :
    Known (input :: inputs) h where
  spanned ref f s found t inside := (known.spanned ref f s found t inside).cons input
  prints := known.prints

/-- The functions that an input makes come from it or from the inputs before. -/
theorem Known.evaluate {inputs : List String} {m : Machine} (known : Known inputs m.heap)
    (fuel : Nat) (input : String) :
    Known (input :: inputs) (Dialogue.evaluate fuel m input).machine.heap := by
  rcases parsed : parseText input with e | p
  · rw [evaluate_refused parsed]
    exact known.cons input
  · have before := known.cons input
    have spans : ∀ s ∈ (Request.run p).spans, SpanAmong (input :: inputs) s :=
      fun s member => ⟨input, .head _, p, parsed, member⟩
    obtain ⟨spanned, prints⟩ := Request.spanned_after (m := { m with output := #[] }) fuel spans
      before.spanned before.prints
    rw [heap_evaluate parsed]
    exact ⟨spanned, prints⟩

/-- All functions of a dialogue come from the inputs so far. -/
theorem Comes.known {inputs : List String} {m : Machine} (comes : Comes inputs m) :
    Known inputs m.heap := by
  induction comes with
  | initial => exact ⟨Heap.spanned_initial _, Heap.prints_initial⟩
  | @submit inputs m fuel text _ ih =>
    rw [input_submit]
    rcases submit_cases fuel m text with taken | ⟨-, same, -⟩
    · rw [taken]
      exact ih.evaluate fuel _
    · rw [same]
      exact ih.cons _

end Dialogue

open Dialogue

/-! ## Reports -/

/-- A report is about an input if its span is one of the input, and its label is then a range
of the input. -/
def ReportedFrom (input : String) (s : Span) : Prop :=
  SpanOf input s ∧
    (labelRange s input.utf8ByteSize).start ≤ (labelRange s input.utf8ByteSize).stop ∧
    (labelRange s input.utf8ByteSize).stop ≤ input.utf8ByteSize

theorem SpanOf.reported {input : String} {s : Span} (h : SpanOf input s) :
    ReportedFrom input s := by
  obtain ⟨ordered, inside⟩ := h.bounds
  obtain ⟨le, within, -⟩ := labelRange_bounds ordered inside
  exact ⟨h, le, within⟩

/-- When an input fails, in any dialogue, the report of the failure is drawn over that input.
The span of the failure is one of the input, and the label a range of it, unless the failing
code is in a function that an earlier input has left on the heap.  Then it is a span of the
earlier input. -/
theorem reports_point_to_inputs (draw : Drawing) (inputs : List String) (m : Machine)
    (comes : Comes inputs m) (fuel : Nat) (text : List Char) (turn : Turn)
    (taken : submit fuel m text = turn) (f : Failure) (failed : turn.failure = some f) :
    turn.input = String.ofList (Text.trim text) ∧
      (turn.written draw).err = draw sourceName turn.input (f.report turn.input.utf8ByteSize) ∧
      (ReportedFrom turn.input f.span ∨
        (∃ fault, f = .runtime fault) ∧ SpanAmong inputs f.span ∧
          ∃ ref g s, m.heap.callable ref = .closure g s ∧ f.span ∈ g.spans) := by
  subst taken
  refine ⟨input_submit text, Turn.err_written draw failed, ?_⟩
  rcases submit_cases fuel m text with taken | ⟨-, -, none_⟩
  · rw [taken] at failed ⊢
    rw [input_evaluate]
    generalize String.ofList (Text.trim text) = input at failed ⊢
    rcases parsed : parseText input with e | p
    · rw [evaluate_refused parsed] at failed
      cases failed
      exact .inl (spanOf_of_parseText parsed).reported
    · obtain ⟨fault, m', rfl, outcome⟩ := exists_fault parsed failed
      let OfFunction (t : Span) : Prop :=
        ∃ ref g s, m.heap.callable ref = .closure g s ∧ t ∈ g.spans
      -- The program may fail in its own code, or in a function that is there already.
      have blamed : fault.span ∈ p.spans ∨ OfFunction fault.span :=
        Request.blames (G := fun t => t ∈ p.spans ∨ OfFunction t) fuel (r := .run p)
          (m := { m with output := #[] }) (fun t member => .inl member)
          (fun ref g s found t inside => .inr ⟨ref, g, s, found, inside⟩) comes.known.prints outcome
      rcases blamed with own | ⟨ref, g, s, found, inside⟩
      · exact .inl (SpanOf.node parsed own).reported
      · exact .inr ⟨⟨fault, rfl⟩, comes.known.spanned ref g s found _ inside, ref, g, s, found,
          inside⟩
  · rw [none_] at failed
    cases failed

/-- An input that defines a function which fails when it is called. -/
def failingFunction : String := "function f()\x7b1-\"aaaaaaaa\";\x7d"

/-- An input that calls it, and is shorter. -/
def laterCall : String := "let answer = f();"

/-- The machine between the two. -/
def Dialogue.defined : Machine := (submit 100 Machine.initial failingFunction.toList).machine

theorem Dialogue.comes_defined : Comes [failingFunction] defined := by
  have input : (submit 100 Machine.initial failingFunction.toList).input = failingFunction := by
    decide +kernel
  have comes := Comes.submit 100 failingFunction.toList .initial
  rwa [input] at comes

theorem Dialogue.input_calling : (submit 100 defined laterCall.toList).input = laterCall := by
  decide +kernel

theorem Dialogue.failure_calling :
    ∃ f, (submit 100 defined laterCall.toList).failure = some f ∧ f.span = ⟨13, 25⟩ := by
  have fails : (submit 100 defined laterCall.toList).failure.map Failure.span =
      some ⟨13, 25⟩ := by
    decide +kernel
  exact Option.map_eq_some_iff.mp fails

/-- The second input fails at a span of the first one, however reports are drawn. -/
theorem reports_point_to_inputs_calling :
    ∃ f, Comes [failingFunction] defined ∧
      (submit 100 defined laterCall.toList).failure = some f ∧
      SpanAmong [failingFunction] f.span ∧ ∀ draw : Drawing,
        ((submit 100 defined laterCall.toList).written draw).err =
          draw sourceName laterCall (f.report laterCall.utf8ByteSize) := by
  obtain ⟨f, failed, span⟩ := failure_calling
  have points (draw : Drawing) := reports_point_to_inputs draw [failingFunction] defined
    comes_defined 100 laterCall.toList _ rfl f failed
  rw [input_calling] at points
  obtain ⟨-, -, here | ⟨-, earlier, -⟩⟩ := points fun _ _ r => r.message
  · have inside := here.1.bounds.2
    rw [span] at inside
    exact absurd inside (by decide +kernel)
  · exact ⟨f, comes_defined, failed, earlier, fun draw => (points draw).2.1⟩

/-- The second input fails, and the span of the failure is none of its own.  It ends behind the
input, and so does the label that is drawn over the input. -/
theorem reports_miss_calling :
    ∃ f, Comes [failingFunction] defined ∧
      (submit 100 defined laterCall.toList).input = laterCall ∧
      (submit 100 defined laterCall.toList).failure = some f ∧ ¬ SpanOf laterCall f.span ∧
      ¬ (labelRange f.span laterCall.utf8ByteSize).stop ≤ laterCall.utf8ByteSize ∧
      ∀ draw : Drawing, ((submit 100 defined laterCall.toList).written draw).err =
        draw sourceName laterCall (f.report laterCall.utf8ByteSize) := by
  obtain ⟨f, failed, span⟩ := failure_calling
  refine ⟨f, comes_defined, input_calling, failed, fun own => ?_, ?_, fun draw => ?_⟩
  · have inside := own.bounds.2
    rw [span] at inside
    exact absurd inside (by decide +kernel)
  · rw [span]
    decide +kernel
  · rw [Turn.err_written draw failed, input_calling]

end Scriptlet

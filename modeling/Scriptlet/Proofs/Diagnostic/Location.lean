import Scriptlet.Diagnostic.Report
import Scriptlet.Eval.Run
import Scriptlet.Proofs.Eval.Blame
import Scriptlet.Proofs.Token.Tiling
import Scriptlet.Proofs.Tree.Refusals
import Scriptlet.Proofs.Tree.Spans

/-!
# Failures lie in the source

Whatever goes wrong when a source is run, the span of the failure cuts some text out of
the source.  It holds at least one character, unless the end of the input is what was
found in place of another token.  Then it is the empty span at the end
(`failures_lie_in_source`).  A label for the failure has something to stand on.

Tokens cut their lexemes out of the source, and a span that is merged from two has its
ends among theirs.  So all spans in a tree lie in the source, and an error that is blamed
on one does.
-/

namespace Scriptlet

open Evaluate

/-! ## Offsets between characters -/

/-- A byte offset between two characters of a text, or at one of its ends. -/
def Boundary (text : List Char) (n : Nat) : Prop :=
  ∃ before after, text = before ++ after ∧ n = Place.bytes before

theorem Span.Cuts.boundaries {s : Span} {source text : List Char} (h : s.Cuts source text) :
    Boundary source s.start ∧ Boundary source s.stop := by
  obtain ⟨before, after, same, start, stop⟩ := h
  refine ⟨⟨before, text ++ after, same, start⟩, before ++ text, after, ?_, ?_⟩
  · rw [same, List.append_assoc]
  · rw [stop, start, Place.bytes_append]

theorem Boundary.le {text : List Char} {n : Nat} (h : Boundary text n) : n ≤ Place.bytes text := by
  obtain ⟨before, after, rfl, rfl⟩ := h
  rw [Place.bytes_append]
  exact Nat.le_add_right _ _

/-- Between two offsets lies some text. -/
theorem Span.cuts_of_boundaries {s : Span} {source : List Char} (le : s.start ≤ s.stop)
    (first : Boundary source s.start) (last : Boundary source s.stop) :
    ∃ text, s.Cuts source text := by
  obtain ⟨before, after, rfl, start⟩ := first
  obtain ⟨before', after', same, stop⟩ := last
  rw [start, stop] at le
  rcases List.append_eq_append_iff.mp same with ⟨text, rfl, rfl⟩ | ⟨text, rfl, rfl⟩
  · rw [Place.bytes_append] at stop
    exact ⟨text, before, after', rfl, start, by rw [stop, start]⟩
  · -- The second offset is not before the first one, so they are the same.
    rw [Place.bytes_append] at le start
    have nothing : Place.bytes text = 0 := by omega
    refine ⟨[], before', text ++ after, List.append_assoc .., by omega, ?_⟩
    rw [stop, start, nothing]
    rfl

/-- The spans of some characters of a source. -/
def inSource (source : String) : Region where
  Has s := s.start < s.stop ∧ Boundary source.toList s.start ∧ Boundary source.toList s.stop
  merge := by
    rintro a b ⟨a_some, a_start, a_stop⟩ ⟨b_some, b_start, b_stop⟩
    rw [Span.start_merge, Span.stop_merge]
    refine ⟨by omega, ?_, ?_⟩
    · rcases min_choice a.start b.start with first | first <;> rw [first] <;> assumption
    · rcases max_choice a.stop b.stop with last | last <;> rw [last] <;> assumption

/-! ## Tokens -/

/-- The scanner stops at an offset between characters. -/
theorem boundary_placeAfter (source : String) : ∃ before,
    source.toList = before ++ (pieces source.toList).2 ∧
      (TokenStream.placeAfter .origin (pieces source.toList).1).offset = Place.bytes before := by
  obtain ⟨gaps, gap, -, woven⟩ := (TokenStream.tiles_place .origin source.toList).weave
  have offset := TokenStream.offset_placeAfter .origin source.toList
  rw [← List.append_assoc] at woven
  refine ⟨_, woven, ?_⟩
  have total := congrArg Place.bytes woven
  rw [Place.bytes_append] at total
  have origin : Place.origin.offset = 0 := rfl
  omega

/-- The character that a lexical error is about. -/
theorem cuts_of_stream_error {source : String} {e : LexError}
    (stopped : (stream source).last = .error e) :
    e.span.start < e.span.stop ∧ e.span.Cuts source.toList [e.character] := by
  obtain ⟨before, same, offset⟩ := boundary_placeAfter source
  change TokenStream.ending (TokenStream.placeAfter .origin (pieces source.toList).1)
    (pieces source.toList).2 = _ at stopped
  generalize TokenStream.placeAfter .origin (pieces source.toList).1 = p at stopped offset
  generalize (pieces source.toList).2 = left at stopped same
  cases left with
  | nil => cases stopped
  | cons c rest =>
    cases stopped
    have width : (TokenStream.unexpected p c).span.stop = p.offset + Place.bytes [c] :=
      Place.offset_advance p [c]
    have some_ : 0 < Place.bytes [c] := Place.bytes_pos (List.cons_ne_nil c [])
    have start : (TokenStream.unexpected p c).span.start = p.offset := rfl
    exact ⟨by omega, before, rest, same, offset, width⟩

/-- The end of the input is at the end of the source. -/
theorem span_of_stream_end {source : String} {t : Token} (ended : (stream source).last = .ok t) :
    t.kind = .eof ∧ t.span = ⟨source.utf8ByteSize, source.utf8ByteSize⟩ := by
  have offset := TokenStream.offset_placeAfter .origin source.toList
  change TokenStream.ending (TokenStream.placeAfter .origin (pieces source.toList).1)
    (pieces source.toList).2 = _ at ended
  generalize TokenStream.placeAfter .origin (pieces source.toList).1 = p at ended offset
  generalize (pieces source.toList).2 = left at ended offset
  cases left with
  | cons => cases ended
  | nil =>
    cases ended
    rw [Place.bytes_toList] at offset
    have last : p.offset = source.utf8ByteSize := by simpa [Place.origin, Place.bytes] using offset
    exact ⟨rfl, by rw [← last]; rfl⟩

/-- The tokens that count lie in the source, and none of them is the end of the input. -/
theorem tokens_inSource {source : String} {ts : List Token} (read : tokenize source = .ok ts) :
    (inSource source).Tokens (Parser.body ts) ∧ (∀ t ∈ Parser.body ts, t.kind ≠ .eof) ∧
      (Parser.stop ts).kind = .eof ∧
      (Parser.stop ts).span = ⟨source.utf8ByteSize, source.utf8ByteSize⟩ := by
  obtain ⟨last, ended, rfl⟩ := tokenize_eq_ok.mp read
  obtain ⟨is_eof, at_end⟩ := span_of_stream_end ended
  have inside : ∀ t ∈ (stream source).tokens, t.kind ≠ .eof :=
    TokenStream.kind_place .origin source.toList
  have cuts := (TokenStream.tiles_place .origin source.toList).cuts_of_zero
  rw [Parser.body_append_eof inside is_eof, Parser.stop_append_eof inside is_eof]
  have counts : ∀ t ∈ Token.significant (stream source).tokens, t ∈ (stream source).tokens :=
    fun t member => (List.mem_filter.mp member).1
  refine ⟨fun t member => ?_, fun t member => inside t (counts t member), is_eof, at_end⟩
  obtain ⟨some_, cut⟩ := cuts t (counts t member)
  exact ⟨some_, cut.boundaries⟩

/-! ## Failures -/

/-- Whether the end of the input was found in place of a token. -/
def Failure.foundEnd : Failure → Bool
  | .syntactic (.unexpected found _) => found.kind = .eof
  | .syntactic (.invalidTarget _ _ _) | .syntactic (.unterminated _ _ _) | .syntactic (.lexical _)
  | .lexical _ | .runtime _ => false

/-- A failure lies at some characters of a source, or at its end. -/
def Failure.LiesIn (source : String) (f : Failure) : Prop :=
  if f.foundEnd then f.span = ⟨source.utf8ByteSize, source.utf8ByteSize⟩
  else (inSource source).Has f.span

/-- A lexical error is the last item of the stream. -/
theorem last_of_tokenize {source : String} {e : LexError}
    (stopped : tokenize source = .error e) : (stream source).last = .error e := by
  unfold tokenize at stopped
  cases ending : (stream source).last with
  | ok t => simp [ending, Except.map] at stopped
  | error e' => simpa [ending, Except.map] using stopped

theorem liesIn_of_tokenize {source : String} {e : LexError}
    (stopped : tokenize source = .error e) : (Failure.lexical e).LiesIn source := by
  obtain ⟨some_, cut⟩ := cuts_of_stream_error (last_of_tokenize stopped)
  exact ⟨some_, cut.boundaries⟩

theorem liesIn_of_parseProgram {source : String} {ts : List Token} {e : ParseError}
    (read : tokenize source = .ok ts) (refused : parseProgram ts = .error e) :
    (Failure.syntactic e).LiesIn source := by
  obtain ⟨inside, not_eof, is_eof, at_end⟩ := tokens_inSource read
  unfold parseProgram at refused
  split at refused
  next => cases refused
  next r stopped =>
    cases refused
    cases Parser.blames_of_statements stopped with
    | @unexpected rest e left =>
      cases rest with
      | nil =>
        have found : (Failure.syntactic (.unexpected (Parser.stop ts) e)).foundEnd = true :=
          decide_eq_true is_eof
        exact (if_pos found).mpr at_end
      | cons t rest =>
        have member := left.subset (List.mem_cons_self ..)
        have other : ¬ (Failure.syntactic (.unexpected t e)).foundEnd = true :=
          mt of_decide_eq_true (not_eof t member)
        exact (if_neg other).mpr (inside t member)
    | @invalidTarget before us rest op target same spelled _ _ =>
      rw [same] at inside
      exact (Expr.spans_of_spelled spelled (Region.tokens_append.mp
        (Region.tokens_append.mp inside).2).1).expr
    | unterminated left => exact inside _ (left.subset (List.mem_cons_self ..))

theorem liesIn_of_run {source : String} {p : Program} (read : readProgram source = .ok p)
    {fuel : Nat} {f : Fault} {m : Machine}
    (failed : p.run fuel Machine.initial = .error (.fault f) m) :
    (Failure.runtime f).LiesIn source := by
  unfold readProgram at read
  split at read
  next => cases read
  next ts tokens =>
    split at read
    next => cases read
    next q parsed =>
      cases read
      obtain ⟨inside, -⟩ := tokens_inSource tokens
      obtain ⟨spelled, -⟩ := Parser.of_statements (statements_of_parseProgram parsed)
      have spans : ∀ s ∈ (Request.run p).spans, (inSource source).Has s :=
        spans_of_bodySpelled spelled inside
      exact Request.blames fuel spans (Heap.spanned_initial _) Heap.prints_initial failed

theorem liesIn_of_runSource {fuel : Nat} {source : String} {f : Failure} {output : Array String}
    (failed : runSource fuel source = (.failed f, output)) : f.LiesIn source := by
  unfold runSource at failed
  cases read : readProgram source with
  | error e =>
    rw [read] at failed
    cases failed
    unfold readProgram at read
    split at read
    next e stopped =>
      cases read
      exact liesIn_of_tokenize stopped
    next ts tokens =>
      split at read
      next e refused =>
        cases read
        exact liesIn_of_parseProgram tokens refused
      next => cases read
  | ok p =>
    simp only [read] at failed
    cases ran : p.run fuel Machine.initial with
    | ok v m =>
      rw [ran] at failed
      cases failed
    | error h m =>
      rw [ran] at failed
      cases h with
      | crash | endless => cases failed
      | fault f =>
        cases failed
        exact liesIn_of_run read ran

/-- The label of a span in a source that is not empty holds a byte of the source. -/
theorem labelRange_bounds {s : Span} {length : Nat} (le : s.start ≤ s.stop)
    (inside : s.stop ≤ length) :
    (labelRange s length).start ≤ (labelRange s length).stop ∧
      (labelRange s length).stop ≤ length ∧
      (0 < length → (labelRange s length).start < (labelRange s length).stop) := by
  unfold labelRange Span.isEmpty
  split
  next => exact ⟨Nat.sub_le _ _, Nat.le_refl _, fun _ => by simp only; omega⟩
  next before_end =>
    split
    next => exact ⟨Nat.le_succ _, by simp only; omega, fun _ => Nat.lt_succ_self _⟩
    next some_ =>
      have holds : s.start < s.stop := by simpa using some_
      exact ⟨le, inside, fun _ => holds⟩

/-- Whether a run ends with a failure of some kind. -/
def Ending.failsWith {α : Type} (check : Failure → Bool) : Ending α → Bool
  | .failed f => check f
  | .finished _ | .crashed _ | .endless => false

theorem exists_failed {fuel : Nat} {source : String} {check : Failure → Bool}
    (fails : (runSource fuel source).1.failsWith check = true) :
    ∃ (f : Failure) (output : Array String),
      runSource fuel source = (.failed f, output) ∧ check f = true := by
  cases outcome : runSource fuel source with
  | mk ending output =>
    rw [outcome] at fails
    cases ending with
    | finished | crashed | endless => cases fails
    | failed f => exact ⟨f, output, rfl, fails⟩

/-- However a source fails, the span of the failure cuts a text out of the source, so it lies
between characters.  The text is not empty, unless the end of the input was found in place of
a token, and then it is at the end.  The label of the span is a range of the source, which
holds a byte if the source does. -/
theorem failures_lie_in_source (fuel : Nat) (source : String) (f : Failure)
    (output : Array String) (failed : runSource fuel source = (.failed f, output)) :
    (∃ text, f.span.Cuts source.toList text) ∧
      f.span.start ≤ f.span.stop ∧ f.span.stop ≤ source.utf8ByteSize ∧
      (if f.foundEnd then f.span = ⟨source.utf8ByteSize, source.utf8ByteSize⟩
        else f.span.start < f.span.stop) ∧
      (labelRange f.span source.utf8ByteSize).start ≤
        (labelRange f.span source.utf8ByteSize).stop ∧
      (labelRange f.span source.utf8ByteSize).stop ≤ source.utf8ByteSize ∧
      (source ≠ "" → (labelRange f.span source.utf8ByteSize).start <
        (labelRange f.span source.utf8ByteSize).stop) := by
  have lies := liesIn_of_runSource failed
  have at_end : Boundary source.toList source.utf8ByteSize :=
    ⟨source.toList, [], (List.append_nil _).symm, (Place.bytes_toList source).symm⟩
  have placed : f.span.start ≤ f.span.stop ∧ Boundary source.toList f.span.start ∧
      Boundary source.toList f.span.stop ∧
      (if f.foundEnd then f.span = ⟨source.utf8ByteSize, source.utf8ByteSize⟩
        else f.span.start < f.span.stop) := by
    unfold Failure.LiesIn at lies
    by_cases found : f.foundEnd = true
    · rw [if_pos found] at lies ⊢
      rw [lies]
      exact ⟨Nat.le_refl _, at_end, at_end, rfl⟩
    · rw [if_neg found] at lies ⊢
      exact ⟨Nat.le_of_lt lies.1, lies.2.1, lies.2.2, lies.1⟩
  obtain ⟨le, first, last, extent⟩ := placed
  have inside : f.span.stop ≤ source.utf8ByteSize := Place.bytes_toList source ▸ last.le
  obtain ⟨ordered, within, holds⟩ := labelRange_bounds le inside
  refine ⟨Span.cuts_of_boundaries le first last, le, inside, extent, ordered, within, ?_⟩
  exact fun some_ => holds (Nat.pos_of_ne_zero (mt String.utf8ByteSize_eq_zero_iff.mp some_))

/-- A function whose body takes a number from a string of two bytes, and a call of it. -/
def subtracting : String := "function f() \x7b \"é\" - 1; \x7d f();"

/-- The failure in the body is at bytes 15 to 23, which the letter of two bytes is among. -/
theorem failures_lie_in_source_subtracting :
    ∃ (f : Failure) (output : Array String), runSource 100 subtracting = (.failed f, output) ∧
      f.span = ⟨15, 23⟩ ∧ (∃ text, f.span.Cuts subtracting.toList text) ∧
      f.span.stop ≤ subtracting.utf8ByteSize ∧ f.foundEnd = false ∧
      f.span.start < f.span.stop := by
  have fails : (runSource 100 subtracting).1.failsWith
      (fun f => decide (f.span = ⟨15, 23⟩ ∧ f.foundEnd = false)) = true := by decide +kernel
  obtain ⟨f, output, outcome, facts⟩ := exists_failed fails
  obtain ⟨span, other⟩ := of_decide_eq_true facts
  obtain ⟨cuts, -, inside, extent, -⟩ := failures_lie_in_source 100 subtracting f output outcome
  rw [other] at extent
  exact ⟨f, output, outcome, span, cuts, inside, other, extent⟩

end Scriptlet

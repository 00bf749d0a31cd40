import Scriptlet.Proofs.Diagnostic.Location
import Scriptlet.Proofs.Eval.Layout
import Scriptlet.Proofs.Token.Position
import Scriptlet.Proofs.Tree.Exactness
import Scriptlet.Proofs.Tree.Extents

/-!
# Places of syntax errors

A syntax error names a place twice, with its span and with the line and the column in its message.
An error about a token or a character takes both from it, and they are the same place.  An invalid
target has the span of the target and the place of the operator, which is further on
(`errors_show_place_iff`).

Two places in a source are compared by the texts in front of them.  The text in front of the
operator goes on from the one in front of the target, so its line or its column is another.
-/

namespace Scriptlet

/-! ## Lines and columns -/

/-- The line and the column of a place. -/
def Place.lineColumn (p : Place) : Nat × Nat := (p.line, p.column)

/-- The line and the column that a syntax error shows. -/
def ParseError.lineColumn : ParseError → Nat × Nat
  | .unexpected found _ => (found.line, found.column)
  | .invalidTarget _ line column | .unterminated _ line column => (line, column)
  | .lexical e => (e.line, e.column)

/-- What a syntax error says, without its place. -/
def ParseError.problem : ParseError → String
  | .unexpected found e => "Expected " ++ e.text ++ ", found " ++ foundText found
  | .invalidTarget _ _ _ => "Invalid assignment target"
  | .unterminated _ _ _ => "Unterminated string literal"
  | .lexical e => "Lexer Error during parse: " ++ e.problem

/-- A message ends with the line and the column. -/
theorem ParseError.message_eq (e : ParseError) :
    e.message = e.problem ++ " at " ++ placeText e.lineColumn.1 e.lineColumn.2 := by
  cases e with
  | unexpected found expected => rfl
  | invalidTarget _ line column =>
    have joined : "Invalid assignment target at " = "Invalid assignment target" ++ " at " := by
      decide
    exact congrArg (· ++ placeText line column) joined
  | unterminated _ line column =>
    have joined : "Unterminated string literal at " = "Unterminated string literal" ++ " at " := by
      decide
    exact congrArg (· ++ placeText line column) joined
  | lexical e =>
    have joined (pre what at_ line colon column : String) :
        pre ++ (what ++ at_ ++ line ++ colon ++ column) =
          pre ++ what ++ at_ ++ (line ++ colon ++ column) := by
      simp only [String.append_assoc]
    exact joined ..

/-- Behind some more text the line or the column is another. -/
theorem Place.lineColumn_after_ne {text mid : List Char} (some_ : mid ≠ []) :
    (after (text ++ mid)).lineColumn ≠ (after text).lineColumn := by
  intro same
  obtain ⟨lines, columns⟩ := Prod.mk.inj same
  simp only [after, List.count_append] at lines
  have no_newline : '\n' ∉ mid := List.count_eq_zero.mp (by omega)
  have inside : ∀ c ∈ mid.reverse, decide (c ≠ '\n') = true := fun c member =>
    decide_eq_true fun newline => no_newline (newline ▸ List.mem_reverse.mp member)
  simp only [after, List.reverse_append, List.takeWhile_append_of_pos inside,
    List.length_append, List.length_reverse] at columns
  exact some_ (List.length_eq_zero_iff.mp (by omega))

/-- Of two texts in front of places, the one with more bytes goes on from the other one. -/
theorem Place.exists_append_of_bytes_lt {before after before' after' : List Char}
    (same : before ++ after = before' ++ after') (less : bytes before < bytes before') :
    ∃ mid, mid ≠ [] ∧ before' = before ++ mid := by
  rcases List.append_eq_append_iff.mp same with ⟨mid, rfl, -⟩ | ⟨mid, rfl, -⟩
  · refine ⟨mid, ?_, rfl⟩
    rintro rfl
    rw [List.append_nil] at less
    exact absurd less (Nat.lt_irrefl _)
  · rw [bytes_append] at less
    omega

/-! ## Tokens of a source -/

/-- Every token of a source is at the place after the text in front of it. -/
theorem place_of_tokenize {source : String} {ts : List Token} (read : tokenize source = .ok ts) :
    ∀ t ∈ ts, ∃ before after, source.toList = before ++ after ∧ t.place = .after before := by
  obtain ⟨stop, ended, rfl⟩ := tokenize_eq_ok.mp read
  intro t member
  rcases List.mem_append.mp member with inside | is_stop
  · obtain ⟨before, after, split, placed⟩ := TokenStream.place_of_mem_place inside
    exact ⟨before, _, split, placed⟩
  · obtain rfl := List.mem_singleton.mp is_stop
    exact ⟨source.toList, [], (List.append_nil _).symm, place_of_stream_end ended⟩

/-- The tokens that count, and the end of the input, are tokens of the source. -/
theorem mem_of_counts {source : String} {ts : List Token} (read : tokenize source = .ok ts) :
    (∀ t ∈ Parser.body ts, t ∈ ts) ∧ Parser.stop ts ∈ ts := by
  have split := (significant_of_tokenize read).1
  have member {t : Token} (counts : t ∈ Token.significant ts) : t ∈ ts :=
    (List.mem_filter.mp counts).1
  rw [split] at member
  exact ⟨fun t inside => member (List.mem_append_left _ inside),
    member (List.mem_append_right _ (.head _))⟩

/-! ## Errors -/

/-- Whether an error is about the target of an assignment. -/
def ParseError.refusesTarget : ParseError → Bool
  | .invalidTarget _ _ _ => true
  | .unexpected _ _ | .unterminated _ _ _ | .lexical _ => false

/-- An error is about the target of an assignment, behind a text in front of it, and shows the line
and the column of the operator, which is some text further on. -/
def ParseError.ShowsOperator (source : String) (before : List Char) (e : ParseError) : Prop :=
  ∃ ts front us op rest, ∃ target : Expr, ∃ mid after,
    tokenize source = .ok ts ∧ Parser.body ts = front ++ (us ++ op :: rest) ∧
    target.Spelled us ∧ target.isAssignable = false ∧ (Parser.assignOp? op.kind).isSome = true ∧
    e = .invalidTarget target.span op.line op.column ∧
    source.toList = before ++ (mid ++ after) ∧ mid ≠ [] ∧ op.place = .after (before ++ mid)

/-- What an error shows, where its span starts behind a text. -/
def ParseError.Shows (source : String) (e : ParseError) : Prop :=
  ∃ before after, source.toList = before ++ after ∧ e.span.start = Place.bytes before ∧
    (e.lineColumn = (Place.after before).lineColumn ↔ e.refusesTarget = false) ∧
    (e.refusesTarget = true → e.ShowsOperator source before)

section

variable {source : String}

/-- An error that takes its place and its span from one thing shows the start of the span. -/
theorem ParseError.Shows.of_place {e : ParseError} {p : Place}
    (placed : ∃ before after, source.toList = before ++ after ∧ p = .after before)
    (start : e.span.start = p.offset) (shown : e.lineColumn = p.lineColumn)
    (other : e.refusesTarget = false) : e.Shows source := by
  obtain ⟨before, after, split, rfl⟩ := placed
  exact ⟨before, after, split, start, iff_of_true shown other,
    fun target => absurd (target.symm.trans other) Bool.true_eq_false.mp⟩

variable {ts : List Token} (read : tokenize source = .ok ts)
include read

/-- An operator behind a target that cannot be assigned to is behind the start of the target. -/
theorem shows_of_invalidTarget {front us rest : List Token} {op : Token} {target : Expr}
    (same : Parser.body ts = front ++ (us ++ op :: rest)) (spelled : target.Spelled us)
    (assigns : (Parser.assignOp? op.kind).isSome = true) (fixed : target.isAssignable = false) :
    (ParseError.invalidTarget target.span op.line op.column).Shows source := by
  obtain ⟨-, -, -, -, ordered⟩ := exists_of_tokenize read
  obtain ⟨inside, -⟩ := tokens_inSource read
  obtain ⟨members, -⟩ := mem_of_counts read
  rw [same] at ordered inside members
  -- The span starts with its first token, which takes some bytes in front of the operator.
  obtain ⟨first, last, is_first, -, covered⟩ := Expr.covers spelled ordered.right.left
  have first_mem : first ∈ us := List.mem_of_mem_head? is_first
  have some_ : first.span.start < first.span.stop := (inside first (by simp [first_mem])).1
  have further : first.span.stop ≤ op.span.start := ordered.right.between first_mem (.head rest)
  obtain ⟨before, after, split, at_first⟩ :=
    place_of_tokenize read first (members first (by simp [first_mem]))
  obtain ⟨before', after', split', at_op⟩ := place_of_tokenize read op (members op (by simp))
  have start : first.span.start = Place.bytes before := congrArg Place.offset at_first
  have start' : op.span.start = Place.bytes before' := congrArg Place.offset at_op
  obtain ⟨mid, some_mid, rfl⟩ :=
    Place.exists_append_of_bytes_lt (split.symm.trans split') (by omega)
  have shown : (op.line, op.column) = (Place.after (before ++ mid)).lineColumn :=
    congrArg Place.lineColumn at_op
  refine ⟨before, after, split, ?_, ?_, fun _ => ?_⟩
  · show target.span.start = _
    rw [covered]
    exact start
  · refine iff_of_false ?_ Bool.true_eq_false.mp
    exact fun here => Place.lineColumn_after_ne some_mid (shown.symm.trans here)
  · exact ⟨ts, front, us, op, rest, target, mid, after', read, same, spelled, fixed, assigns, rfl,
      split'.trans (List.append_assoc ..), some_mid, at_op⟩

theorem shows_of_parseProgram {e : ParseError} (refused : parseProgram ts = .error e) :
    e.Shows source := by
  obtain ⟨members, stop_mem⟩ := mem_of_counts read
  unfold parseProgram at refused
  split at refused
  next => cases refused
  next r stopped =>
    cases refused
    cases Parser.blames_of_statements stopped with
    | @unexpected rest e left =>
      cases rest with
      | nil => exact .of_place (place_of_tokenize read _ stop_mem) rfl rfl rfl
      | cons t rest =>
        have member := members t (left.subset (.head rest))
        exact .of_place (place_of_tokenize read t member) rfl rfl rfl
    | @invalidTarget front us rest op target same spelled assigns fixed =>
      exact shows_of_invalidTarget read same spelled assigns fixed
    | @unterminated rest t left =>
      have member := members t (left.subset (.head rest))
      exact .of_place (place_of_tokenize read t member) rfl rfl rfl

end

theorem shows_of_parseText {source : String} {e : ParseError}
    (refused : parseText source = .error e) : e.Shows source := by
  unfold parseText at refused
  split at refused
  next ts read => exact shows_of_parseProgram read refused
  next e stopped =>
    cases refused
    obtain ⟨before, after, split, placed⟩ := place_of_stream_error (last_of_tokenize stopped)
    exact .of_place ⟨before, _, split, placed⟩ rfl rfl rfl

/-- The message of a syntax error ends with a line and a column.  They are those of the start of its
span, unless the error is about the target of an assignment.  Then they are those of the operator,
which are others. -/
theorem errors_show_place_iff (source : String) (e : ParseError)
    (refused : parseText source = .error e) :
    e.message = e.problem ++ " at " ++ ParseError.placeText e.lineColumn.1 e.lineColumn.2 ∧
    ∃ before after, source.toList = before ++ after ∧ e.span.start = Place.bytes before ∧
      (e.lineColumn = (Place.after before).lineColumn ↔ e.refusesTarget = false) ∧
      (e.refusesTarget = true → e.ShowsOperator source before) :=
  ⟨e.message_eq, shows_of_parseText refused⟩

/-- The error of a text that does not parse. -/
def refusal? (source : String) : Option ParseError :=
  match parseText source with
  | .error e => some e
  | .ok _ => none

/-- The error is the one that parsing ends with. -/
theorem parseText_of_refusal? {source : String} {e : ParseError}
    (found : refusal? source = some e) : parseText source = .error e := by
  unfold refusal? at found
  split at found
  next e' refused => rw [refused, Option.some.inj found]
  next => cases found

/-- The source ends in its second line where an expression is missing, and that is what the error
shows. -/
theorem errors_show_place_iff_open_group :
    parseText "\"é\";\n  (" = .error (.unexpected ⟨.eof, "", none, ⟨9, 9⟩, 2, 4⟩ .expression) ∧
      ∃ before after, "\"é\";\n  (".toList = before ++ after ∧ 9 = Place.bytes before ∧
        (2, 4) = (Place.after before).lineColumn := by
  have refused : refusal? "\"é\";\n  (" =
      some (.unexpected ⟨.eof, "", none, ⟨9, 9⟩, 2, 4⟩ .expression) := by decide +kernel
  have refused := parseText_of_refusal? refused
  obtain ⟨-, before, after, split, start, same, -⟩ := errors_show_place_iff _ _ refused
  exact ⟨refused, before, after, split, start, same.mpr rfl⟩

/-- The number is at 1:1.  The error shows 1:3, where the operator is. -/
theorem errors_miss_place_number :
    ∃ e, parseText "1 = 2;" = .error e ∧ e.message = "Invalid assignment target at 1:3" ∧
      e.span = ⟨0, 1⟩ ∧ (Place.after []).lineColumn = (1, 1) ∧ e.lineColumn = (1, 3) ∧
      ¬ ∃ before after, "1 = 2;".toList = before ++ after ∧ e.span.start = Place.bytes before ∧
        e.lineColumn = (Place.after before).lineColumn := by
  have refused : refusal? "1 = 2;" = some (.invalidTarget ⟨0, 1⟩ 1 3) := by decide +kernel
  refine ⟨_, parseText_of_refusal? refused, by decide, rfl, rfl, rfl, ?_⟩
  rintro ⟨before, after, -, start, shown⟩
  -- Nothing is in front of the number.
  obtain rfl : before = [] := by
    by_contra some_
    exact absurd start (Nat.ne_of_lt (Place.bytes_pos some_))
  cases shown

end Scriptlet

import Scriptlet.Proofs.Tree.Slices
import Scriptlet.Proofs.Tree.Soundness

/-!
# Spans are exact

In a source that parses, the span of each phrase goes from the start of its first token to the end
of its last one (`spans_are_exact`).  The parts of a phrase lie within it and one behind the
other.  The text of a statement at the top parses alone as that statement, further in front.

Alone, the tokens of a statement are like those in the source, so they are parsed.  Moved back to
the source they spell what was parsed and the statement that was there, and no tokens spell two
well-shaped programs.
-/

namespace Scriptlet

/-! ## The tokens of a source -/

/-- The tokens of a source that count are those before the end of the input that are not white
space, and they are in order. -/
theorem exists_of_tokenize {source : String} {ts : List Token} (read : tokenize source = .ok ts) :
    ∃ all stop, ts = all ++ [stop] ∧ Parser.body ts = Token.significant all ∧
      Token.Ordered (Parser.body ts) := by
  obtain ⟨stop, ended, rfl⟩ := tokenize_eq_ok.mp read
  obtain rfl := TokenStream.eq_endToken ended
  generalize TokenStream.placeAfter .origin (pieces source.toList).1 = p
  have no_stop : ∀ t ∈ (stream source).tokens, t.kind ≠ .eof :=
    TokenStream.kind_place .origin source.toList
  have is_stop : (TokenStream.endToken p).kind = .eof := rfl
  have body := Parser.body_append_eof no_stop is_stop
  refine ⟨_, _, rfl, body, ?_⟩
  have tiles : Tiles 0 source.toList (stream source).tokens (pieces source.toList).2 :=
    TokenStream.tiles_place .origin source.toList
  have ordered : Token.Ordered (stream source).tokens :=
    ⟨fun t inside => Nat.le_of_lt (tiles.cuts_of_zero t inside).1, tiles.ordered⟩
  exact body ▸ ordered.sublist List.filter_sublist

/-! ## Statements alone -/

theorem isShaped_of_mem {s : Stmt} {ss : List Stmt} (shaped : allShaped ss = true)
    (inside : s ∈ ss) : s.isShaped = true := by
  induction ss with
  | nil => cases inside
  | cons first others ih =>
    rw [allShaped, Bool.and_eq_true] at shaped
    rcases List.mem_cons.mp inside with rfl | behind
    · exact shaped.1
    · exact ih shaped.2 behind

/-- A statement is parsed from tokens that are its own once they are moved, and it is itself once
it is moved. -/
theorem Stmt.statements_of_moved {s : Stmt} {ts us : List Token} {m : Move} (spelled : s.Spelled ts)
    (shaped : s.isShaped = true) (moved : us.map m.token = ts) :
    ∃ s' : Stmt, Parser.statements us = .ok [s'] ∧ s'.mapSpans m.span = s := by
  have one : Parser.statements ts = .ok [s] := by
    have body : BodySpelled [s] (ts ++ []) := .cons spelled .nil
    rw [List.append_nil] at body
    exact (Parser.body_of_spelled body (by rw [allShaped, shaped]; rfl)).program
  have like : List.Forall₂ Token.Like ts us := by
    rw [← moved, List.forall₂_map_left_iff]
    exact List.forall₂_same.mpr fun t _ => m.like t
  have same := Parser.sameStatements like
  rw [one] at same
  generalize read : Parser.statements us = result at same
  cases same with
  | @ok _ ss bare =>
    obtain ⟨s', rfl⟩ : ∃ s', ss = [s'] := by
      have length := congrArg List.length bare
      simp only [bareStatements_eq_map, List.length_map, List.length_singleton] at length
      exact List.length_eq_one_iff.mp length.symm
    obtain ⟨spelled', shaped'⟩ := Parser.of_statements read
    have back : BodySpelled [s'.mapSpans m.span] ts := moved ▸ spelled'.map
    have back_shaped : allShaped [s'.mapSpans m.span] = true := by
      rwa [allShaped, s'.isShaped_mapSpans]
    have again := (Parser.body_of_spelled back back_shaped).program
    rw [one] at again
    exact ⟨s', rfl, (List.cons.inj (Except.ok.inj again)).1.symm⟩

/-! ## The theorem -/

/-- If a source parses, then each of its phrases is made from some tokens in a row, and its span
goes from the start of the first one to the end of the last one.  The parts of a phrase lie within
it, and parts, like the statements at the top, lie one behind the other.  The text of a statement
at the top alone parses as that statement, up to where it lies. -/
theorem spans_are_exact {source : String} {p : Program} (parsed : parseText source = .ok p) :
    ∃ ts, tokenize source = .ok ts ∧
      (∀ n, p.Has n → ∃ us, us <:+: Parser.body ts ∧ n.SpelledBy us ∧ n.span.Covers us) ∧
      (∀ n, p.Has n → (∀ m ∈ n.parts, n.span.start ≤ m.span.start ∧ m.span.stop ≤ n.span.stop) ∧
        n.parts.Pairwise fun a b => a.span.stop ≤ b.span.start) ∧
      (p.body.Pairwise fun a b => a.span.stop ≤ b.span.start) ∧
      ∀ s ∈ p.body, ∃ (text : String) (s' : Stmt), s.span.Cuts source.toList text.toList ∧
        parseText text = .ok ⟨[s']⟩ ∧ s'.mapSpans (Span.shift s.span.start) = s := by
  obtain ⟨ts, read, spelled, shaped⟩ : ∃ ts, tokenize source = .ok ts ∧
      p.Spelled (Parser.body ts) ∧ allShaped p.body = true := by
    unfold parseText at parsed
    split at parsed
    next ts read => exact ⟨ts, read, Parser.of_statements (statements_of_parseProgram parsed)⟩
    next => cases parsed
  obtain ⟨all, stop, rfl, body, ordered⟩ := exists_of_tokenize read
  refine ⟨_, read, fun n inside => ?_, fun n inside => ?_,
    List.pairwise_map.mp ((BodySpelled.laid spelled).pairwise ordered), fun s inside => ?_⟩
  · obtain ⟨us, among, own⟩ := inside.spelled spelled
    exact ⟨us, among, own, n.covers own (ordered.sublist among.sublist)⟩
  · obtain ⟨us, among, own⟩ := inside.spelled spelled
    have ordered' := ordered.sublist among.sublist
    refine ⟨fun m part => ?_, (Phrase.laid own).pairwise ordered'⟩
    obtain ⟨vs, among', own'⟩ := (Phrase.laid own).mem m part
    exact (n.covers own ordered').within ordered'
      (m.covers own' (ordered'.sublist among'.sublist)) among'.subset
  · have top : p.Has (.stmt s) := .top inside
    obtain ⟨us, among, own⟩ := top.spelled spelled
    have covers : s.span.Covers us := s.covers own (ordered.sublist among.sublist)
    obtain ⟨before, after, split⟩ := among
    rw [body, List.append_assoc] at split
    obtain ⟨text, vs, stop', q, cuts, starts, read', is_end, no_end, moved⟩ :=
      exists_slice read split.symm covers
    obtain ⟨s', alone, back⟩ :=
      s.statements_of_moved (m := .beyond q) own (isShaped_of_mem shaped inside) moved
    refine ⟨text, s', cuts, ?_, starts ▸ back⟩
    simp only [parseText, read', parseProgram, Parser.body_append_eof no_end is_end, alone]

/-- The second statement of a source starts in another line, and behind a comment. -/
theorem spans_are_exact_second :
    let sum : Expr := .binary .add (.string "é" ⟨15, 19⟩) (.identifier "b" ⟨22, 23⟩) ⟨15, 23⟩
    let second : Stmt := .print sum ⟨9, 24⟩
    parseText "a; // é\nprint \"é\" + b; " =
        .ok ⟨[.expr (.identifier "a" ⟨0, 1⟩) ⟨0, 2⟩, second]⟩ ∧
      ∃ (text : String) (s' : Stmt),
        second.span.Cuts "a; // é\nprint \"é\" + b; ".toList text.toList ∧
        parseText text = .ok ⟨[s']⟩ ∧ s'.mapSpans (Span.shift 9) = second := by
  intro sum second
  have parsed : parseText "a; // é\nprint \"é\" + b; " =
      .ok ⟨[.expr (.identifier "a" ⟨0, 1⟩) ⟨0, 2⟩, second]⟩ := by with_unfolding_all rfl
  obtain ⟨_, _, _, _, _, alone⟩ := spans_are_exact parsed
  exact ⟨parsed, alone second (.tail _ (.head _))⟩

end Scriptlet

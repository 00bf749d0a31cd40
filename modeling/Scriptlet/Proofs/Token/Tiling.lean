import Scriptlet.Token.Tiling

/-!
# A token stream tiles its source

The pieces of a text join to the text, and a piece is a token or a complete
comment (`scan_cases`).  So the tokens of a stream with the comments between
them cover the source without overlap, up to its end or up to the first character
that starts no token (`tiles_place`).

What a tiling is good for follows from the relation alone: the spans are in order
(`Tiles.ordered`), each one cuts its lexeme out of the source (`Tiles.cuts`), and
gaps and lexemes join to the source (`Tiles.weave`).
-/

namespace Scriptlet

/-! ## Bytes -/

namespace Place

@[simp] theorem bytes_append (as bs : List Char) : bytes (as ++ bs) = bytes as + bytes bs := by
  induction as with
  | nil => simp [bytes]
  | cons c as ih => simp [bytes, ih, Nat.add_assoc]

theorem bytes_pos {cs : List Char} (some_ : cs ≠ []) : 0 < bytes cs := by
  cases cs with
  | nil => exact absurd rfl some_
  | cons c cs => exact Nat.lt_add_right _ c.utf8Size_pos

/-- The bytes of a text are those of the string it makes. -/
theorem bytes_toList (s : String) : bytes s.toList = s.utf8ByteSize := by
  suffices of_list : ∀ cs : List Char, bytes cs = (String.ofList cs).utf8ByteSize by
    rw [of_list, String.ofList_toList]
  intro cs
  induction cs with
  | nil => rfl
  | cons c cs ih =>
    have split : String.ofList (c :: cs) = String.singleton c ++ String.ofList cs := by
      apply String.toList_inj.mp
      simp
    rw [split, String.utf8ByteSize_append, String.utf8ByteSize_singleton, bytes, ih]

end Place

/-! ## Reserved spellings -/

theorem Keyword.mem_table_of_find? {spelling : String} {kind : Kind}
    (found : find? spelling = some kind) : (spelling, kind) ∈ table := by
  obtain ⟨before, after, split, -⟩ := List.lookup_eq_some_iff.mp found
  simp [split]

/-! ## Comments -/

namespace Scan

/-- The text after the first star of a block comment is cut after the first star and slash,
or else at the end. -/
theorem splitBlock_cases (cs : List Char) :
    (∃ body, (splitBlock cs).1 = body ++ ['*', '/'] ∧ ¬ ['*', '/'] <:+: body ++ ['*']) ∨
      (splitBlock cs).2 = [] ∧ ¬ ['*', '/'] <:+: (splitBlock cs).1 := by
  induction cs with
  | nil =>
    refine .inr ⟨rfl, fun inside => ?_⟩
    exact absurd inside.length_le (by decide)
  | cons c cs ih =>
    unfold splitBlock
    split
    next => exact .inl ⟨[], rfl, fun inside => absurd inside.length_le (by decide)⟩
    next other =>
      -- A star and a slash in a longer text are at its front or further back.
      have further : ∀ {text : List Char}, ['*', '/'] <:+: c :: text →
          (text.head? = some '/' → cs.head? = some '/') → ['*', '/'] <:+: text := by
        intro text inside heads
        cases List.infix_cons_iff.mp inside with
        | inr behind => exact behind
        | inl front =>
          obtain ⟨rest, same⟩ := front
          cases same
          exact absurd ⟨rfl, heads rfl⟩ other
      have joined := splitBlock_append cs
      cases ih with
      | inl closed =>
        obtain ⟨body, split, open_⟩ := closed
        refine .inl ⟨c :: body, congrArg (c :: ·) split, fun inside => open_ (further inside ?_)⟩
        rw [split] at joined
        rw [← joined]
        cases body <;> simp
      | inr unclosed =>
        obtain ⟨ended, open_⟩ := unclosed
        refine .inr ⟨ended, fun inside => open_ (further inside ?_)⟩
        rw [ended, List.append_nil] at joined
        exact fun heads => joined ▸ heads

theorem comment_of_comment {text : List Char} {cut : Cut text} (h : comment text = some cut) :
    cut.kind = none ∧ Comment ('/' :: cut.body) cut.rest := by
  unfold comment at h
  split at h
  next rest =>
    cases h
    refine ⟨rfl, .line (fun inside => ?_) fun c first => ?_⟩
    · simpa using List.all_eq_true.mp List.all_takeWhile _ inside
    · have stops := List.head?_dropWhile_not (· ≠ '\n') rest
      rw [Option.mem_def] at first
      simp only [first] at stops
      simpa using stops
  next rest =>
    cases h
    refine ⟨rfl, ?_⟩
    change Comment ('/' :: '*' :: (splitBlock rest).1) (splitBlock rest).2
    cases splitBlock_cases rest with
    | inl closed =>
      obtain ⟨body, split, open_⟩ := closed
      rw [split]
      exact .block open_
    | inr unclosed =>
      obtain ⟨ended, open_⟩ := unclosed
      rw [ended]
      exact .unclosed open_
  next => cases h

theorem kind_symbol {c : Char} {text : List Char} {cut : Cut text} (h : symbol c text = some cut) :
    ∃ s, cut.kind = some (.symbol s) := by
  cases text with
  | nil =>
    obtain ⟨s, -, rfl⟩ := Option.map_eq_some_iff.mp h
    exact ⟨s, rfl⟩
  | cons d rest =>
    simp only [symbol] at h
    split at h
    next s _ =>
      cases h
      exact ⟨s, rfl⟩
    next =>
      obtain ⟨s, -, rfl⟩ := Option.map_eq_some_iff.mp h
      exact ⟨s, rfl⟩

theorem kind_number (text : List Char) : (number text).kind = some .number := by
  unfold number
  split
  next => split <;> rfl
  next => rfl

/-- A name has a kind that is reserved for some spelling, or is an identifier. -/
theorem exists_kind_name {P : Kind → Prop} (free : P .identifier)
    (reserved : ∀ entry ∈ Keyword.table, P entry.2) (c : Char) (text : List Char) :
    ∃ k, (name c text).kind = some k ∧ P k := by
  refine ⟨_, rfl, ?_⟩
  cases found : Keyword.find? (String.ofList (c :: text.takeWhile isNamePart)) with
  | none => exact free
  | some k => exact reserved _ (Keyword.mem_table_of_find? found)

/-- The rules of the scanner, each with the characters that it is for. -/
inductive Rule (c : Char) {text : List Char} (cut : Cut text) : Prop
  | space : isSpace c = true → cut = .run (some .space) isSpace text → Rule c cut
  | number : c.isDigit = true → cut = number text → Rule c cut
  | name : isNameStart c = true → cut = name c text → Rule c cut
  | string : c = '"' → cut = string text → Rule c cut
  | comment : c = '/' → comment text = some cut → Rule c cut
  | symbol : symbol c text = some cut → Rule c cut

/-- A piece is what one of the rules cuts off. -/
theorem rule_of_scan {c : Char} {text : List Char} {cut : Cut text} (h : scan c text = some cut) :
    Rule c cut := by
  unfold scan at h
  split at h
  next blank => exact .space blank (Option.some.inj h).symm
  split at h
  next digit => exact .number digit (Option.some.inj h).symm
  split at h
  next starts => exact .name starts (Option.some.inj h).symm
  split at h
  next quote => exact .string quote (Option.some.inj h).symm
  split at h
  next slash =>
    cases commented : Scan.comment text with
    | some skipped =>
      rw [commented, Option.some_or] at h
      exact .comment slash (commented.trans h)
    | none =>
      rw [commented, Option.none_or] at h
      exact .symbol h
  next => exact .symbol h

/-- A piece is a complete comment or makes a token, which is not the end of the input. -/
theorem scan_cases {c : Char} {text : List Char} {cut : Cut text} (h : scan c text = some cut) :
    (cut.kind = none ∧ Comment (c :: cut.body) cut.rest) ∨
      ∃ k, cut.kind = some k ∧ k ≠ .eof := by
  cases rule_of_scan h with
  | space _ same => exact .inr ⟨.space, congrArg Cut.kind same, nofun⟩
  | number _ same => exact .inr ⟨.number, same ▸ kind_number text, nofun⟩
  | name _ same => exact .inr (same ▸ exists_kind_name nofun (by decide) c text)
  | string _ same => exact .inr ⟨.string, congrArg Cut.kind same, nofun⟩
  | comment slash commented => exact .inl (slash ▸ comment_of_comment commented)
  | symbol found =>
    obtain ⟨s, is_symbol⟩ := kind_symbol found
    exact .inr ⟨.symbol s, is_symbol, nofun⟩

end Scan

/-! ## Tilings -/

namespace Tiles

variable {offset : Nat} {text left : List Char} {ts : List Token}

/-- A comment in front belongs to the first gap. -/
theorem skip {comment : List Char} (complete : Comment comment text)
    (h : Tiles (offset + Place.bytes comment) text ts left) :
    Tiles offset (comment ++ text) ts left := by
  cases h with
  | @stop _ gap _ gap_ok =>
    rw [← List.append_assoc]
    exact .stop (.cons complete gap_ok)
  | @token _ gap rest _ t ts gap_ok some_ start stop tail =>
    rw [← List.append_assoc]
    refine .token (.cons (List.append_assoc .. ▸ complete) gap_ok) some_ ?_ stop tail
    rw [start, Place.bytes_append, Nat.add_assoc]

/-- The tokens start after the offset. -/
theorem le_start (h : Tiles offset text ts left) : ∀ t ∈ ts, offset ≤ t.span.start := by
  induction h with
  | stop => simp
  | token _ _ start stop _ ih =>
    rintro u (_ | ⟨_, behind⟩)
    · omega
    · have := ih u behind
      omega

/-- The spans are in order and do not overlap. -/
theorem ordered (h : Tiles offset text ts left) :
    ts.Pairwise fun t u => t.span.stop ≤ u.span.start := by
  induction h with
  | stop => exact .nil
  | token _ _ _ _ tail ih => exact .cons (fun u behind => tail.le_start u behind) ih

/-- Each span holds a byte and cuts the lexeme out of the source. -/
theorem cuts {before : List Char} (h : Tiles (Place.bytes before) text ts left) :
    ∀ t ∈ ts, t.span.start < t.span.stop ∧ t.span.Cuts (before ++ text) t.lexeme.toList := by
  generalize same : Place.bytes before = offset at h
  induction h generalizing before with
  | stop => simp
  | @token offset gap rest left t ts _ some_ start stop _ ih =>
    rintro u (_ | ⟨_, behind⟩)
    · have := Place.bytes_pos some_
      refine ⟨by omega, before ++ gap, rest, by simp, ?_, stop⟩
      rw [start, ← same, Place.bytes_append]
    · have here : Place.bytes (before ++ (gap ++ t.lexeme.toList)) = t.span.stop := by
        simp only [Place.bytes_append]
        omega
      have later := ih here u behind
      simpa only [List.append_assoc] using later

theorem cuts_of_zero (h : Tiles 0 text ts left) :
    ∀ t ∈ ts, t.span.start < t.span.stop ∧ t.span.Cuts text t.lexeme.toList :=
  @cuts text left ts [] h

/-- Gaps and lexemes in turns are the source, up to what is left. -/
theorem weave (h : Tiles offset text ts left) :
    ∃ gaps gap, gaps.length = ts.length ∧ text = Scriptlet.weave gaps ts ++ (gap ++ left) := by
  induction h with
  | @stop _ gap left => exact ⟨[], gap, rfl, rfl⟩
  | @token _ gap rest left t ts _ _ _ _ _ ih =>
    obtain ⟨gaps, last, counted, same⟩ := ih
    refine ⟨gap :: gaps, last, congrArg Nat.succ counted, ?_⟩
    rw [same]
    simp [Scriptlet.weave]

end Tiles

/-! ## Streams -/

/-- What is left of a text starts with a character that starts no piece. -/
theorem scan_left (text : List Char) :
    ∀ c rest, (pieces text).2 = c :: rest → scan c rest = none := by
  fun_induction pieces text with
  | case1 =>
    intro _ _ left
    cases left
  | case2 c cs stuck =>
    rintro _ _ ⟨⟩
    exact stuck
  | case3 _ _ _ _ _ ih => exact ih

namespace TokenStream

@[simp] theorem toList_lexeme_token (kind : Kind) (p : Place) (lexeme : List Char) :
    (token kind p lexeme).lexeme.toList = lexeme := String.toList_ofList

@[simp] theorem start_span_token (kind : Kind) (p : Place) (lexeme : List Char) :
    (token kind p lexeme).span.start = p.offset := rfl

@[simp] theorem stop_span_token (kind : Kind) (p : Place) (lexeme : List Char) :
    (token kind p lexeme).span.stop = p.offset + Place.bytes lexeme :=
  Place.offset_advance p lexeme

/-- The pieces of a text tile it when they are placed one after the other. -/
theorem tiles_place (p : Place) (text : List Char) :
    Tiles p.offset text (place p (pieces text).1) (pieces text).2 := by
  fun_induction pieces text generalizing p with
  | case1 => exact @Tiles.stop _ [] _ .nil
  | case2 => exact @Tiles.stop _ [] _ .nil
  | case3 c cs cut found next ih =>
    have joined : c :: cs = (c :: cut.body) ++ cut.rest := by simp [cut.body_append_rest]
    have after := ih (p.advance (c :: cut.body))
    rw [Place.offset_advance] at after
    rw [joined, place]
    cases Scan.scan_cases found with
    | inl skipped =>
      obtain ⟨made, complete⟩ := skipped
      rw [made]
      exact after.skip complete
    | inr kept =>
      obtain ⟨kind, made, -⟩ := kept
      rw [made]
      rw [← stop_span_token kind] at after
      have tile := @Tiles.token _ [] _ _ _ _ .nil (by simp) rfl (by simp) after
      rw [toList_lexeme_token] at tile
      exact tile

/-- The place after the pieces of a text is at the first byte of what is left. -/
theorem offset_placeAfter (p : Place) (text : List Char) :
    (placeAfter p (pieces text).1).offset + Place.bytes (pieces text).2 =
      p.offset + Place.bytes text := by
  fun_induction pieces text generalizing p with
  | case1 => rfl
  | case2 => rfl
  | case3 c cs cut found next ih =>
    have joined : c :: cs = (c :: cut.body) ++ cut.rest := by simp [cut.body_append_rest]
    have after := ih (p.advance (c :: cut.body))
    rw [Place.offset_advance, Nat.add_assoc, ← Place.bytes_append, ← joined] at after
    exact after

/-- No piece marks the end of the input. -/
theorem kind_place (p : Place) (text : List Char) :
    ∀ t ∈ place p (pieces text).1, t.kind ≠ .eof := by
  fun_induction pieces text generalizing p with
  | case1 => simp [place]
  | case2 => simp [place]
  | case3 c cs cut found next ih =>
    rw [place]
    cases Scan.scan_cases found with
    | inl skipped =>
      rw [skipped.1]
      exact ih _
    | inr kept =>
      obtain ⟨kind, made, not_end⟩ := kept
      rw [made]
      exact List.forall_mem_cons.mpr ⟨not_end, ih _⟩

end TokenStream

/-- Tokenizing gives the tokens of the stream if it ends with the end of the input. -/
theorem tokenize_eq_ok {source : String} {ts : List Token} :
    tokenize source = .ok ts ↔
      ∃ t, (stream source).last = .ok t ∧ ts = (stream source).tokens ++ [t] := by
  cases ending : (stream source).last with
  | error e => simp [tokenize, ending, Except.map]
  | ok t => simp [tokenize, ending, Except.map, eq_comm]

/-- The tokens of a stream and the comments between them tile the source, and the stream
ends with one more item: the end of the input or the first character that starts no token.
Tokenizing succeeds in the first case.  Spans are in order, do not overlap and cut the
lexemes out of the source, and gaps and lexemes in turns are the source up to what is left. -/
theorem stream_tiles_source (source : String) :
    ∃ left, Tiles 0 source.toList (stream source).tokens left ∧
      (match (stream source).last with
        | .ok t => left = [] ∧ t.kind = .eof ∧ t.lexeme = "" ∧
            t.span = ⟨source.utf8ByteSize, source.utf8ByteSize⟩
        | .error e => ∃ rest, left = e.character :: rest ∧ scan e.character rest = none ∧
            e.span.stop + Place.bytes rest = source.utf8ByteSize ∧
            e.span.Cuts source.toList [e.character]) ∧
      (∀ ts, tokenize source = .ok ts ↔
        ∃ t, (stream source).last = .ok t ∧ ts = (stream source).tokens ++ [t]) ∧
      (∀ t ∈ (stream source).tokens, t.kind ≠ .eof ∧ t.span.start < t.span.stop ∧
        t.span.Cuts source.toList t.lexeme.toList) ∧
      ((stream source).tokens.Pairwise fun t u => t.span.stop ≤ u.span.start) ∧
      ∃ gaps gap, gaps.length = (stream source).tokens.length ∧
        source.toList = weave gaps (stream source).tokens ++ (gap ++ left) := by
  have tiles : Tiles 0 source.toList (stream source).tokens (pieces source.toList).2 :=
    TokenStream.tiles_place .origin source.toList
  refine ⟨_, tiles, ?_, fun _ => tokenize_eq_ok, ?_, tiles.ordered, tiles.weave⟩
  · obtain ⟨gaps, gap, -, woven⟩ := tiles.weave
    have stuck := scan_left source.toList
    have offset := TokenStream.offset_placeAfter .origin source.toList
    rw [Place.bytes_toList] at offset
    change match TokenStream.ending (TokenStream.placeAfter .origin (pieces source.toList).1)
        (pieces source.toList).2 with
      | .ok t => _
      | .error e => _
    generalize TokenStream.placeAfter .origin (pieces source.toList).1 = p at offset ⊢
    generalize (pieces source.toList).2 = left at woven stuck offset ⊢
    have at_left : p.offset + Place.bytes left = source.utf8ByteSize := by
      simpa [Place.origin] using offset
    cases left with
    | nil =>
      have at_end : p.offset = source.utf8ByteSize := at_left
      exact ⟨rfl, rfl, rfl, by simp [TokenStream.endToken, Place.spanTo, at_end]⟩
    | cons c rest =>
      have width : (TokenStream.unexpected p c).span.stop = p.offset + Place.bytes [c] :=
        Place.offset_advance p [c]
      refine ⟨rest, rfl, stuck c rest rfl, ?_, weave gaps (stream source).tokens ++ gap, rest,
        ?_, ?_, width⟩
      · rw [width, Nat.add_assoc, ← Place.bytes_append]
        exact at_left
      · exact woven.trans (List.append_assoc ..).symm
      · have total := congrArg Place.bytes woven
        rw [← List.append_assoc, Place.bytes_append, Place.bytes_toList, ← at_left] at total
        exact Nat.add_right_cancel total
  · intro t inside
    exact ⟨TokenStream.kind_place .origin source.toList t inside,
      tiles.cuts_of_zero t inside⟩

end Scriptlet

import Scriptlet.Highlight.Markup
import Scriptlet.Proofs.Token.Tiling

/-!
# Highlighting loses nothing

The chunks of a source join to the source, and those with a class are its tokens
(`text_chunksFrom`, `classed_chunksFrom`).  Rendering adds markup around the chunks
and escapes what could be taken for markup, so a reader who takes the markup away
has the source again.

For this it is enough that all words of a table start with a mark that the text in
between does not hold.  Then the words of the table are found where they were put,
and nowhere else (`Table.resolve_append`).
-/

namespace Scriptlet

namespace Highlight

/-! ## Chunks -/

/-- A gap is kept as a chunk without a class, if it is not empty. -/
theorem text_gap (text : List Char) : (gap text).flatMap Chunk.text = text := by
  unfold gap
  split
  next none_ => simp [List.isEmpty_iff.mp none_]
  next => simp [Chunk.text]

theorem text_chunk (kind : Kind) (text : List Char) : (chunk kind text).text = text := by
  unfold chunk
  split <;> rfl

/-- The chunks of pieces join to what is pending, the pieces and what is left. -/
theorem text_chunksFrom (pending : List Char) (ps : List Piece) (left : List Char) :
    (chunksFrom pending ps left).flatMap Chunk.text =
      pending ++ (ps.flatMap Piece.text ++ left) := by
  induction ps generalizing pending with
  | nil => exact text_gap _
  | cons piece rest ih =>
    rw [chunksFrom]
    cases piece.kind with
    | none => simp [ih]
    | some kind => simp [ih, text_gap, text_chunk]

/-- The chunks of a source are the source. -/
theorem text_chunks (source : String) : (chunks source).flatMap Chunk.text = source.toList := by
  have joined := text_chunksFrom [] (pieces source.toList).1 (pieces source.toList).2
  rwa [List.nil_append, join_pieces] at joined

/-- A gap moves the offset of what follows it. -/
theorem classed_gap (offset : Nat) (text : List Char) (cs : List Chunk) :
    classed offset (gap text ++ cs) = classed (offset + Place.bytes text) cs := by
  unfold gap
  split
  next none_ => simp [List.isEmpty_iff.mp none_, Place.bytes]
  next => rfl

/-- The class of a token is read off its kind and its lexeme. -/
theorem classOf_token (kind : Kind) (p : Place) (lexeme : List Char) :
    classOf (TokenStream.token kind p lexeme) = classify kind (Quoted.decode lexeme).2 := by
  cases kind <;> rfl

/-- The chunks with a class are the tokens that are not white space, each where it was
found. -/
theorem classed_chunksFrom (pending : List Char) (ps : List Piece) (left : List Char)
    {offset : Nat} {p : Place} (here : offset + Place.bytes pending = p.offset) :
    classed offset (chunksFrom pending ps left) =
      (Token.significant (TokenStream.place p ps)).map
        fun t => (t.span.start, classOf t, t.lexeme.toList) := by
  induction ps generalizing pending offset p with
  | nil =>
    have none_ := classed_gap offset (pending ++ left) []
    rwa [List.append_nil] at none_
  | cons piece rest ih =>
    have next := Place.offset_advance p piece.text
    rw [chunksFrom, TokenStream.place]
    cases piece.kind with
    | none =>
      refine ih (pending ++ piece.text) ?_
      rw [Place.bytes_append, next]
      omega
    | some kind =>
      have start : p.offset + Place.bytes piece.text + Place.bytes [] =
          (p.advance piece.text).offset := next.symm
      have later := ih [] start
      have its_kind : (TokenStream.token kind p piece.text).kind = kind := rfl
      simp only [Token.significant] at later ⊢
      rw [classed_gap, here, List.filter_cons, its_kind]
      by_cases blank : kind = .space
      · simpa [chunk, classed, blank] using later
      · simp [chunk, classed, blank, later, classOf_token]

/-! ## Tables -/

namespace Table

/-- All words of a table start with a character. -/
def StartsWith (table : Table) (mark : Char) : Prop := ∀ w ∈ table, w.1.head? = some mark

instance (table : Table) (mark : Char) : Decidable (table.StartsWith mark) :=
  inferInstanceAs (Decidable (∀ w ∈ table, w.1.head? = some mark))

/-- No word of a table starts with another one. -/
def PrefixFree (table : Table) : Prop :=
  table.Pairwise fun w w' => ¬ w.1 <+: w'.1 ∧ ¬ w'.1 <+: w.1

instance (table : Table) : Decidable table.PrefixFree :=
  inferInstanceAs (Decidable (table.Pairwise _))

variable {table : Table} {mark : Char}

/-- Nothing is replaced in nothing. -/
@[simp] theorem resolve_nil (table : Table) : table.resolve [] = [] := by rw [resolve]

/-- A character that no word starts with stays. -/
theorem resolve_cons (starts : table.StartsWith mark) {c : Char} (other : c ≠ mark)
    (cs : List Char) : table.resolve (c :: cs) = c :: table.resolve cs := by
  have none_ : table.word? (c :: cs) = none := by
    refine List.find?_eq_none.mpr fun w inside found => ?_
    have first := starts w inside
    cases same : w.1 with
    | nil => simp [same] at first
    | cons d ds => simp_all
  rw [resolve, none_]

/-- Text in which no word starts stays. -/
theorem resolve_append (starts : table.StartsWith mark) {text : List Char}
    (without : mark ∉ text) (rest : List Char) :
    table.resolve (text ++ rest) = text ++ table.resolve rest := by
  induction text with
  | nil => rfl
  | cons c cs ih =>
    rw [List.mem_cons, not_or] at without
    rw [List.cons_append, resolve_cons starts (Ne.symm without.1), ih without.2,
      List.cons_append]

/-- A word at the front is the one that is found there. -/
theorem word?_append (free : table.PrefixFree) {w : List Char × List Char} (inside : w ∈ table)
    (rest : List Char) : table.word? (w.1 ++ rest) = some w := by
  induction table with
  | nil => cases inside
  | cons x xs ih =>
    obtain ⟨apart, free'⟩ := List.pairwise_cons.mp free
    rw [word?, List.find?_cons]
    cases inside with
    | head =>
      have front : w.1.isPrefixOf (w.1 ++ rest) = true :=
        List.isPrefixOf_iff_prefix.mpr (List.prefix_append w.1 rest)
      rw [front]
    | tail _ behind =>
      obtain ⟨not_before, not_after⟩ := apart w behind
      have elsewhere : x.1.isPrefixOf (w.1 ++ rest) = false := by
        refine Bool.eq_false_iff.mpr fun front => ?_
        have both := List.prefix_or_prefix_of_prefix (List.isPrefixOf_iff_prefix.mp front)
          (List.prefix_append w.1 rest)
        exact both.elim not_before not_after
      rw [elsewhere]
      exact ih free' behind

/-- A word at the front gives way to what it stands for. -/
theorem resolve_word (starts : table.StartsWith mark) (free : table.PrefixFree)
    {word value : List Char} (inside : (word, value) ∈ table) (rest : List Char) :
    table.resolve (word ++ rest) = value ++ table.resolve rest := by
  have found := word?_append free inside rest
  cases word with
  | nil => cases starts _ inside
  | cons c cs =>
    rw [List.cons_append] at found ⊢
    rw [resolve, found]
    simp

end Table

/-! ## Escapes -/

/-- A character that is no sign of markup stays as it is. -/
theorem escapeChar_plain {c : Char} (other : isReserved c = false) (no_amp : c ≠ '&') :
    escapeChar c = [c] := by
  unfold escapeChar
  split <;> simp_all [isReserved]

/-- A character with a meaning in markup becomes an entity. -/
theorem mem_entities (c : Char) :
    (escapeChar c, [c]) ∈ entities ∨ (isReserved c = false ∧ c ≠ '&') := by
  unfold escapeChar
  split
  next => exact .inl (by decide)
  next => exact .inl (by decide)
  next => exact .inl (by decide)
  next => exact .inl (by decide)
  next h₁ h₂ h₃ h₄ => exact .inr (by simp_all [isReserved])

/-- What was escaped resolves to what it was. -/
theorem escaped_escape (text : List Char) : Escaped (escape text) text := by
  induction text with
  | nil => exact .nil
  | cons c cs ih =>
    rw [escape, List.flatMap_cons]
    cases mem_entities c with
    | inl entity => exact .entity entity ih
    | inr plain =>
      rw [escapeChar_plain plain.1 plain.2]
      exact .plain plain.1 plain.2 ih

theorem starts_entities : entities.StartsWith '&' := by decide

/-- No entity begins another one. -/
theorem prefixFree_entities : entities.PrefixFree := by decide

namespace Escaped

variable {out text : List Char}

/-- No character of the text is taken for markup. -/
theorem not_reserved (h : Escaped out text) : ∀ c ∈ out, isReserved c = false := by
  have in_words : ∀ w ∈ entities, (w.1.any isReserved) = false := by decide
  induction h with
  | nil => simp
  | plain free _ _ ih => exact List.forall_mem_cons.mpr ⟨free, ih⟩
  | entity word _ ih =>
    have in_word := List.any_eq_false.mp (in_words _ word)
    simp only [Bool.not_eq_true] at in_word
    exact List.forall_mem_append.mpr ⟨in_word, ih⟩

/-- Escaped texts can be put together. -/
theorem append {out' text' : List Char} (h : Escaped out text) (h' : Escaped out' text') :
    Escaped (out ++ out') (text ++ text') := by
  induction h with
  | nil => exact h'
  | plain free no_amp _ ih => exact .plain free no_amp ih
  | entity word _ ih =>
    rw [List.append_assoc]
    exact .entity word ih

/-- The entities are resolved to the text. -/
theorem resolve (h : Escaped out text) (rest : List Char) :
    entities.resolve (out ++ rest) = text ++ entities.resolve rest := by
  induction h with
  | nil => rfl
  | plain _ no_amp _ ih =>
    rw [List.cons_append, Table.resolve_cons starts_entities no_amp, ih, List.cons_append]
  | entity word _ ih =>
    rw [List.append_assoc, Table.resolve_word starts_entities prefixFree_entities word, ih]
    rfl

end Escaped

/-! ## HTML -/

theorem starts_tags : tags.StartsWith '<' := by decide

/-- No tag begins another one. -/
theorem prefixFree_tags : tags.PrefixFree := by decide

theorem mem_tags (cls : Class) : (cls.tag, []) ∈ tags :=
  .tail _ (List.mem_map.mpr ⟨cls, cls.mem_all, rfl⟩)

/-- Chunks are rendered as escaped text, with tags around those that have a class. -/
theorem marked_html (cs : List Chunk) : Marked (cs.flatMap Chunk.html) cs := by
  induction cs with
  | nil => exact .nil
  | cons c cs ih =>
    rw [List.flatMap_cons]
    cases c with
    | token cls text => exact .token (escaped_escape text) ih
    | raw text => exact .raw (escaped_escape text) ih

/-- Without its tags marked text is escaped text. -/
theorem Marked.escaped {out : List Char} {cs : List Chunk} (h : Marked out cs) :
    Escaped (tags.resolve out) (cs.flatMap Chunk.text) := by
  have stays : ∀ {out text : List Char}, Escaped out text → '<' ∉ out :=
    fun escaped inside => absurd (escaped.not_reserved '<' inside) (by decide)
  induction h with
  | nil =>
    rw [Table.resolve_nil]
    exact .nil
  | raw escaped _ ih =>
    rw [Table.resolve_append starts_tags (stays escaped)]
    exact escaped.append ih
  | @token cls _ _ _ _ escaped _ ih =>
    rw [List.append_assoc, List.append_assoc,
      Table.resolve_word starts_tags prefixFree_tags (mem_tags cls), List.nil_append,
      Table.resolve_append starts_tags (stays escaped),
      Table.resolve_word starts_tags prefixFree_tags (.head _), List.nil_append]
    exact escaped.append ih

/-! ## Colours -/

theorem starts_codes : codes.StartsWith '\x1b' := by decide

theorem prefixFree_codes : codes.PrefixFree := by decide

theorem mem_codes {cls : Class} {code : String} (h : cls.code? = some code) :
    (code.toList, []) ∈ codes :=
  .tail _ (List.mem_map.mpr ⟨code, List.mem_filterMap.mpr ⟨cls, cls.mem_all, h⟩, rfl⟩)

/-- Without its colour codes a chunk is its text, if that holds no escape character. -/
theorem resolve_ansi {c : Chunk} (without : '\x1b' ∉ c.text) (rest : List Char) :
    codes.resolve (c.ansi ++ rest) = c.text ++ codes.resolve rest := by
  have stays := Table.resolve_append starts_codes without
  cases c with
  | raw text => exact stays rest
  | token cls text =>
    cases coloured : cls.code? with
    | none =>
      simp only [Chunk.ansi, coloured]
      exact stays rest
    | some code =>
      have reset := Table.resolve_word starts_codes prefixFree_codes (.head _) rest
      simp only [Chunk.ansi, coloured]
      rw [List.append_assoc, List.append_assoc,
        Table.resolve_word starts_codes prefixFree_codes (mem_codes coloured), List.nil_append]
      exact (stays _).trans (congrArg (text ++ ·) reset)

/-- Without the codes the chunks are what they were. -/
theorem resolve_flatMap_ansi {cs : List Chunk} (without : '\x1b' ∉ cs.flatMap Chunk.text) :
    codes.resolve (cs.flatMap Chunk.ansi) = cs.flatMap Chunk.text := by
  induction cs with
  | nil => exact Table.resolve_nil codes
  | cons c cs ih =>
    rw [List.flatMap_cons, List.mem_append, not_or] at without
    rw [List.flatMap_cons, resolve_ansi without.1, ih without.2, List.flatMap_cons]

/-! ## Sources -/

/-- The chunks of a source join to the source, and those with a class are its tokens other
than white space, in order and in their places.  Its HTML is escaped text with tags around the
tokens.  Without the tags no character of it has a meaning in markup, and with the entities
resolved it is the source.  A source without escape characters is left when the colour codes
are taken away. -/
theorem highlighting_keeps_source (source : String) :
    (chunks source).flatMap Chunk.text = source.toList ∧
      (classed 0 (chunks source) = (Token.significant (stream source).tokens).map
        fun t => (t.span.start, classOf t, t.lexeme.toList)) ∧
      Marked (html source).toList (chunks source) ∧
      (∀ c ∈ tags.resolve (html source).toList, isReserved c = false) ∧
      entities.resolve (tags.resolve (html source).toList) = source.toList ∧
      ('\x1b' ∉ source.toList → codes.resolve (ansi source).toList = source.toList) := by
  have joined := text_chunks source
  have rendered : (html source).toList = (chunks source).flatMap Chunk.html :=
    String.toList_ofList
  have coloured : (ansi source).toList = (chunks source).flatMap Chunk.ansi :=
    String.toList_ofList
  have marked : Marked (html source).toList (chunks source) := rendered ▸ marked_html _
  have escaped : Escaped (tags.resolve (html source).toList) source.toList :=
    joined ▸ marked.escaped
  refine ⟨joined, classed_chunksFrom [] _ _ rfl, marked, escaped.not_reserved, ?_, ?_⟩
  · have resolved := escaped.resolve []
    rwa [List.append_nil, Table.resolve_nil, List.append_nil] at resolved
  · intro without
    rw [coloured, resolve_flatMap_ansi (joined ▸ without), joined]

/-- A source with markup in a string that has no closing quote. -/
theorem highlighting_keeps_source_markup :
    '\x1b' ∉ "x/*<*/&\"<b>&lt;".toList ∧
      codes.resolve (ansi "x/*<*/&\"<b>&lt;").toList = "x/*<*/&\"<b>&lt;".toList :=
  have no_escape : '\x1b' ∉ "x/*<*/&\"<b>&lt;".toList := by decide
  ⟨no_escape, (highlighting_keeps_source "x/*<*/&\"<b>&lt;").2.2.2.2.2 no_escape⟩

end Highlight

end Scriptlet

import Scriptlet.Proofs.Heap.Forest
import Scriptlet.Proofs.Token.Words
import Scriptlet.Repl.Completion

/-!
# What is offered to complete a word

Completion looks at the line up to the cursor.  If that ends in a word, it offers the reserved
spellings and visible names that are longer and start with the word, in order and each once, and
otherwise nothing (`completions_extend_words`).  A name that is offered can be put in place of the
word, and the line is read as before but for that token.

*The word.*  The bytes before the cursor are a text if the cursor is between two characters
(`takeBytes_append`).  Its last token is a word just if it starts like a name (`word?_eq_some`,
`word?_eq_none`).

*The candidates.*  Equal words stand side by side in a sorted list, so that erasing repetitions
leaves each word once (`pairwise_sorted`).
-/

namespace Scriptlet

namespace Completion

/-! ## Sorting -/

/-- What has been kept stands in front of what is kept of the rest. -/
theorem eraseReps_loop (a : String) (as kept : List String) :
    List.eraseRepsBy.loop (· == ·) a as kept =
      kept.reverse ++ List.eraseRepsBy.loop (· == ·) a as [] := by
  induction as generalizing a kept with
  | nil => simp [List.eraseRepsBy.loop]
  | cons b bs ih =>
    unfold List.eraseRepsBy.loop
    split
    · exact ih a kept
    · rw [ih b (a :: kept), ih b [a]]
      simp

/-- Erasing repetitions in an ascending list leaves its members, strictly ascending. -/
theorem eraseReps_ascending {words : List String} (ascending : words.Pairwise (· ≤ ·)) :
    words.eraseReps.Pairwise (· < ·) ∧ ∀ c, c ∈ words.eraseReps ↔ c ∈ words := by
  cases words with
  | nil => exact ⟨.nil, fun _ => .rfl⟩
  | cons a as =>
    change (List.eraseRepsBy.loop (· == ·) a as []).Pairwise (· < ·) ∧
      ∀ c, c ∈ List.eraseRepsBy.loop (· == ·) a as [] ↔ c ∈ a :: as
    induction as generalizing a with
    | nil => exact ⟨List.pairwise_singleton .., fun _ => .rfl⟩
    | cons b bs ih =>
      obtain ⟨least, ascending⟩ := List.pairwise_cons.mp ascending
      unfold List.eraseRepsBy.loop
      split
      next same =>
        obtain rfl := beq_iff_eq.mp same
        obtain ⟨strict, members⟩ := ih a ascending
        exact ⟨strict, fun c => by simp [members c]⟩
      next other =>
        rw [eraseReps_loop]
        obtain ⟨strict, members⟩ := ih b ascending
        have first : a ≠ b := by simpa using other
        have below : a < b := String.not_le.mp fun le =>
          first (String.le_antisymm (least b (.head _)) le)
        refine ⟨List.pairwise_cons.mpr ⟨fun c inside => ?_, strict⟩, fun c => by simp [members c]⟩
        rcases List.mem_cons.mp ((members c).mp inside) with rfl | behind
        · exact below
        · have further : b ≤ c := List.rel_of_pairwise_cons ascending behind
          exact String.not_le.mp fun le => String.not_le.mpr below (String.le_trans further le)

theorem ascending_mergeSort (words : List String) :
    (words.mergeSort fun a b => decide (a ≤ b)).Pairwise (· ≤ ·) := by
  refine (List.pairwise_mergeSort (fun a b c le le' => ?_) (fun a b => ?_) words).imp ?_
  · exact decide_eq_true (String.le_trans (of_decide_eq_true le) (of_decide_eq_true le'))
  · simpa using String.le_total a b
  · exact of_decide_eq_true

theorem pairwise_sorted (words : List String) : (sorted words).Pairwise (· < ·) :=
  (eraseReps_ascending (ascending_mergeSort words)).1

theorem mem_sorted {words : List String} {c : String} : c ∈ sorted words ↔ c ∈ words :=
  ((eraseReps_ascending (ascending_mergeSort words)).2 c).trans List.mem_mergeSort

theorem isExtension_iff {word longer : String} :
    isExtension word longer = true ↔ word.toList <+: longer.toList ∧ longer ≠ word := by
  simp [isExtension]

/-! ## The word before the cursor -/

/-- The bytes of a text cut that text off. -/
theorem takeBytes_append (before after : List Char) :
    takeBytes (Place.bytes before) (before ++ after) = before := by
  induction before with
  | nil =>
    cases after with
    | nil => rfl
    | cons c cs => exact if_neg (Nat.not_le.mpr c.utf8Size_pos)
  | cons c cs ih =>
    rw [List.cons_append, takeBytes, Place.bytes, if_pos (Nat.le_add_right _ _),
      Nat.add_sub_cancel_left, ih]

/-- Only the last token marks the end of the input. -/
theorem filter_of_tokenize {text : String} {ts : List Token} {stop : Token}
    (read : tokenize text = .ok (ts ++ [stop])) :
    (ts ++ [stop]).filter (fun t => t.kind ≠ .eof) = ts := by
  obtain ⟨stop', last, same⟩ := tokenize_eq_ok.mp read
  obtain ⟨rfl, stops⟩ := List.append_inj' same rfl
  obtain rfl := List.singleton_inj.mp stops
  obtain rfl := TokenStream.eq_endToken last
  have kept : ∀ t ∈ (stream text).tokens, decide (t.kind ≠ .eof) = true := fun t inside =>
    decide_eq_true (TokenStream.kind_place .origin text.toList t inside)
  rw [List.filter_append, List.filter_eq_self.mpr kept]
  exact List.append_nil _

/-- The word that ends a text is its last token, if that reaches the end and starts like a name. -/
theorem word?_of_tokenize {text : String} {us : List Token} {w stop : Token}
    (read : tokenize text = .ok (us ++ [w, stop])) :
    word? text text.utf8ByteSize =
      if w.span.stop = text.utf8ByteSize ∧ w.IsWord then some w.lexeme else none := by
  have read' : tokenize text = .ok ((us ++ [w]) ++ [stop]) := by simpa using read
  rw [word?, read']
  dsimp only
  rw [filter_of_tokenize read', List.getLast?_concat]
  dsimp only
  refine ite_congr (propext (and_congr_right fun at_end => ?_)) (fun _ => rfl) (fun _ => rfl)
  obtain ⟨ps, kind, c, body, -, -, rfl, found⟩ := exists_last_piece read at_end
  rw [TokenStream.toList_lexeme_token, word_iff_of_scan found]
  exact Iff.rfl

theorem word?_eq_some {text : String} {us : List Token} {w : Token}
    (ends : EndsInWord text us w) : word? text text.utf8ByteSize = some w.lexeme := by
  obtain ⟨⟨stop, read⟩, is_word, at_end⟩ := ends
  rw [word?_of_tokenize read, if_pos ⟨at_end, is_word⟩]

theorem word?_eq_none {text : String} (none_ : ¬ ∃ us w, EndsInWord text us w) :
    word? text text.utf8ByteSize = none := by
  cases read : tokenize text with
  | error e => rw [word?, read]
  | ok ts =>
    obtain ⟨stop, -, rfl⟩ := tokenize_eq_ok.mp read
    rcases List.eq_nil_or_concat (stream text).tokens with empty | ⟨us, w, split⟩
    · rw [word?, read]
      dsimp only
      rw [filter_of_tokenize read, empty]
      rfl
    · rw [split, List.concat_eq_append, List.append_assoc] at read
      rw [word?_of_tokenize read, if_neg]
      rintro ⟨at_end, is_word⟩
      exact none_ ⟨us, w, ⟨stop, read⟩, is_word, at_end⟩

/-! ## What is offered -/

theorem takeBytes_line (before after : String) :
    String.ofList (takeBytes before.utf8ByteSize (before ++ after).toList) = before := by
  rw [String.toList_append, ← Place.bytes_toList, takeBytes_append, String.ofList_toList]

/-- A word before the cursor is completed where it starts. -/
theorem complete_eq {front : String} {us : List Token} {w : Token}
    (ends : EndsInWord (front ++ w.lexeme) us w) (names : List String) (after : String) :
    complete names (front ++ w.lexeme ++ after) (front ++ w.lexeme).utf8ByteSize =
      ⟨front.utf8ByteSize,
        sorted ((Keyword.table.map Prod.fst ++ names).filter (isExtension w.lexeme))⟩ := by
  rw [complete, takeBytes_line, word?_eq_some ends]
  simp only [String.utf8ByteSize_append, Nat.add_sub_cancel]

/-- Without a word before the cursor there is nothing to complete. -/
theorem complete_eq_nothing {before : String} (none_ : ¬ ∃ us w, EndsInWord before us w)
    (names : List String) (after : String) :
    complete names (before ++ after) before.utf8ByteSize = ⟨before.utf8ByteSize, []⟩ := by
  rw [complete, takeBytes_line, word?_eq_none none_]

theorem mem_candidates_iff {h : Heap} {s : Scope} {word c : String} :
    c ∈ sorted ((Keyword.table.map Prod.fst ++ h.names s).filter (isExtension word)) ↔
      (Keyword.isReserved c = true ∨ (h.resolve s c).isSome = true) ∧
        word.toList <+: c.toList ∧ c ≠ word := by
  rw [mem_sorted, List.mem_filter, isExtension_iff, List.mem_append, Keyword.mem_table_iff,
    Heap.mem_names_iff, ← Heap.isSome_resolveIn_iff]
  exact Iff.rfl

end Completion

/-- Where a line is cut in two, completion looks at the part before the cut.  If that ends in a
word, the candidates are, in order and each once, the reserved spellings and the names that
resolve in the scope which are longer than the word and start with it, and they go in the place of
the word.  Otherwise there are none.  With a candidate that is a name in its place, the part before the
cut is read as before, but for the token of the word.  So is the whole line, where the word goes on
up to the end of the name behind the cut, and the text after that is read as it is alone. -/
theorem completions_extend_words (h : Heap) (s : Scope) (before after : String) :
    let found := Completion.complete (h.names s) (before ++ after) before.utf8ByteSize
    (∀ us w, EndsInWord before us w → ∃ front, before = front ++ w.lexeme ∧
      found.start = front.utf8ByteSize ∧ found.candidates.Pairwise (· < ·) ∧
      (∀ c, c ∈ found.candidates ↔
        (Keyword.isReserved c = true ∨ (h.resolve s c).isSome = true) ∧
          w.lexeme.toList <+: c.toList ∧ c ≠ w.lexeme) ∧
      (∀ c ∈ found.candidates, NameShaped c.toList →
        ∃ stop, tokenize (front ++ c) = .ok (us ++ [w.respelled c, stop])) ∧
      ∀ c ∈ w.lexeme :: found.candidates, NameShaped c.toList →
        ∀ tail rest vs stop, after = tail ++ rest →
          (∀ d ∈ tail.toList, Scan.isNamePart d = true) →
          (∀ d ∈ rest.toList.head?, Scan.isNamePart d = false) →
          tokenize rest = .ok (vs ++ [stop]) →
          ∃ vs' stop', vs'.map Token.content = vs.map Token.content ∧
            tokenize (front ++ (c ++ after)) =
              .ok (us ++ w.respelled (c ++ tail) :: (vs' ++ [stop']))) ∧
    ((¬ ∃ us w, EndsInWord before us w) → found = ⟨before.utf8ByteSize, []⟩) := by
  intro found
  refine ⟨fun us w ends => ?_, fun none_ => Completion.complete_eq_nothing none_ _ _⟩
  obtain ⟨front, rfl⟩ := ends.exists_front
  have is_found : found = _ := Completion.complete_eq ends (h.names s) after
  have candidates (c : String) : c ∈ found.candidates ↔
      (Keyword.isReserved c = true ∨ (h.resolve s c).isSome = true) ∧
        w.lexeme.toList <+: c.toList ∧ c ≠ w.lexeme := by
    rw [is_found]
    exact Completion.mem_candidates_iff
  have ascending : found.candidates.Pairwise (· < ·) := by
    rw [is_found]
    exact Completion.pairwise_sorted _
  refine ⟨front, rfl, by rw [is_found], ascending, candidates,
    fun c inside is_name => ends.respelled_alone is_name ((candidates c).mp inside).2.1,
    fun c inside is_name tail rest vs stop split all stops read => ?_⟩
  have longer : w.lexeme.toList <+: c.toList := by
    rcases List.mem_cons.mp inside with rfl | inside
    · exact List.prefix_refl _
    · exact ((candidates c).mp inside).2.1
  have is_name' : NameShaped (c ++ tail).toList := by
    rw [String.toList_append]
    exact is_name.append all
  have longer' : w.lexeme.toList <+: (c ++ tail).toList := by
    rw [String.toList_append]
    exact longer.trans (List.prefix_append ..)
  obtain ⟨vs', stop', same, read'⟩ := ends.respelled is_name' longer' stops read
  have joined : c ++ (tail ++ rest) = (c ++ tail) ++ rest := String.append_assoc.symm
  exact ⟨vs', stop', same, by rw [split, joined, read']⟩

/-- A visible name and a reserved one extend the word, and the first can be put in its place, in
front of what remains of a longer name.  In a string there is nothing to complete. -/
theorem completions_extend_words_sharing :
    let made := Heap.empty.newRoot [("price", ⟨.null, false, none⟩)]
    let found := Completion.complete (made.2.names made.1) "say prs;" 6
    let say := TokenStream.token (.word .print) .origin ['s', 'a', 'y']
    let space := TokenStream.token .space ⟨3, 1, 4⟩ [' ']
    let pr := TokenStream.token .identifier ⟨4, 1, 5⟩ ['p', 'r']
    EndsInWord "say pr" [say, space] pr ∧ "price" ∈ found.candidates ∧
      "print" ∈ found.candidates ∧
      (∃ vs stop, vs.map Token.content = [(.symbol .semicolon, ";", none)] ∧
        tokenize "say prices;" = .ok ([say, space] ++ pr.respelled "prices" :: (vs ++ [stop]))) ∧
      Completion.complete (made.2.names made.1) "\"prs" 3 = ⟨3, []⟩ := by
  intro made found say space pr
  have ends : EndsInWord "say pr" [say, space] pr :=
    ⟨⟨TokenStream.endToken ⟨6, 1, 7⟩, by with_unfolding_all rfl⟩, .inl rfl, rfl⟩
  obtain ⟨front, cut, -, -, members, -, whole⟩ :=
    (completions_extend_words made.2 made.1 "say pr" "s;").1 _ _ ends
  obtain rfl : front = "say " := by
    have joined : "say ".toList ++ ['p', 'r'] = front.toList ++ ['p', 'r'] := by
      have joined := congrArg String.toList cut
      rwa [String.toList_append, TokenStream.toList_lexeme_token] at joined
    exact String.toList_inj.mp (List.append_cancel_right joined).symm
  have price : "price" ∈ found.candidates := (members "price").mpr ⟨.inr rfl, by decide +kernel⟩
  have print : "print" ∈ found.candidates :=
    (members "print").mpr ⟨.inl (by decide +kernel), by decide +kernel⟩
  have is_name : NameShaped "price".toList :=
    ⟨'p', ['r', 'i', 'c', 'e'], rfl, rfl, List.all_eq_true.mp rfl⟩
  have semicolon : tokenize ";" = .ok ([TokenStream.token (.symbol .semicolon) .origin [';']] ++
      [TokenStream.endToken ⟨1, 1, 2⟩]) := by with_unfolding_all rfl
  have nothing : ¬ ∃ us w, EndsInWord "\"pr" us w := by
    rintro ⟨us, w, ⟨stop, read⟩, is_word, -⟩
    have alone : tokenize "\"pr" = .ok ([] ++
        [TokenStream.token .string .origin ['"', 'p', 'r'], TokenStream.endToken ⟨3, 1, 4⟩]) := by
      with_unfolding_all rfl
    have same := (List.append_inj' (Except.ok.inj (read.symm.trans alone)) rfl).2
    obtain rfl := (List.cons.inj same).1
    exact absurd is_word (by decide +kernel)
  refine ⟨ends, price, print, ?_, ?_⟩
  · exact whole "price" (.tail _ price) is_name "s" ";" _ _ rfl (List.all_eq_true.mp rfl)
      (by rintro _ ⟨⟩; rfl) semicolon
  · exact (completions_extend_words made.2 made.1 "\"pr" "s").2 nothing

end Scriptlet

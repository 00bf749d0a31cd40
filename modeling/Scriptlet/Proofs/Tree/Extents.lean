import Scriptlet.Tree.Phrase

/-!
# The extent of a phrase

The span of a phrase goes from the start of its first token to the end of its last one
(`Phrase.covers`).  Each rule merges two spans, and the first tokens of the first one and the last
tokens of the second one are those of the phrase.

The parts of a phrase are laid out in its tokens (`Phrase.laid`).  So they lie within it, and one
after the other.
-/

namespace Scriptlet

/-! ## Tokens in order -/

namespace Token.Ordered

variable {ts us vs : List Token}

/-- Some of the tokens in order are in order. -/
theorem sublist (ordered : Token.Ordered ts) (some_ : us.Sublist ts) : Token.Ordered us :=
  ⟨fun t inside => ordered.1 t (some_.subset inside), ordered.2.sublist some_⟩

theorem left (ordered : Token.Ordered (ts ++ us)) : Token.Ordered ts :=
  ordered.sublist (List.sublist_append_left ts us)

theorem right (ordered : Token.Ordered (ts ++ us)) : Token.Ordered us :=
  ordered.sublist (List.sublist_append_right ts us)

/-- Tokens in front end before tokens behind start. -/
theorem between (ordered : Token.Ordered (ts ++ us)) {t u : Token} (front : t ∈ ts)
    (behind : u ∈ us) : t.span.stop ≤ u.span.start :=
  (List.pairwise_append.mp ordered.2).2.2 t front u behind

end Token.Ordered

namespace Span.Covers

variable {s s' : Span} {all ts us : List Token}

/-- A token is covered by its own span. -/
theorem token (t : Token) : t.span.Covers [t] := ⟨t, t, rfl, rfl, rfl⟩

/-- A covering span starts before each token and stops behind it. -/
theorem bounds (ordered : Token.Ordered ts) (covers : s.Covers ts) {t : Token} (inside : t ∈ ts) :
    s.start ≤ t.span.start ∧ t.span.stop ≤ s.stop := by
  obtain ⟨first, last, is_first, is_last, rfl⟩ := covers
  obtain ⟨tail, rfl⟩ := List.head?_eq_some_iff.mp is_first
  obtain ⟨init, same⟩ := List.getLast?_eq_some_iff.mp is_last
  constructor
  · rcases List.mem_cons.mp inside with rfl | behind
    · exact Nat.le_refl _
    · exact Nat.le_trans (ordered.1 first (.head _)) (List.rel_of_pairwise_cons ordered.2 behind)
  · rw [same] at inside ordered
    rcases List.mem_append.mp inside with front | at_end
    · have here := ordered.between front (.head [])
      exact Nat.le_trans here (ordered.right.1 last (.head _))
    · obtain rfl := List.mem_singleton.mp at_end
      exact Nat.le_refl _

/-- Among some tokens a covering span lies within that of all of them. -/
theorem within (ordered : Token.Ordered ts) (covers : s.Covers ts) (covers' : s'.Covers us)
    (among : us ⊆ ts) : s.start ≤ s'.start ∧ s'.stop ≤ s.stop := by
  obtain ⟨first, last, is_first, is_last, rfl⟩ := covers'
  exact ⟨(covers.bounds ordered (among (List.mem_of_mem_head? is_first))).1,
    (covers.bounds ordered (among (List.mem_of_getLast? is_last))).2⟩

/-- The merge of two spans covers the tokens of both and those between them. -/
theorem merge (mid : List Token) (front : Token.Ordered ts → s.Covers ts)
    (behind : Token.Ordered us → s'.Covers us) (split : all = ts ++ (mid ++ us))
    (ordered : Token.Ordered all) : (s.merge s').Covers all := by
  subst split
  have there {t u : Token} (left : t ∈ ts) (right : u ∈ us) : t.span.stop ≤ u.span.start :=
    ordered.between left (List.mem_append_right mid right)
  obtain ⟨first, last, is_first, is_last, rfl⟩ := front ordered.left
  obtain ⟨first', last', is_first', is_last', rfl⟩ := behind ordered.right.right
  have first_mem := List.mem_of_mem_head? is_first
  have last_mem := List.mem_of_getLast? is_last
  have first_mem' := List.mem_of_mem_head? is_first'
  have last_mem' := List.mem_of_getLast? is_last'
  refine ⟨first, last', ?_, ?_, ?_⟩
  · rw [List.head?_append, is_first, Option.some_or]
  · rw [List.getLast?_append, List.getLast?_append, is_last', Option.some_or, Option.some_or]
  · have starts : first.span.start ≤ first'.span.start :=
      Nat.le_trans (ordered.left.1 first first_mem) (there first_mem first_mem')
    have stops : last.span.stop ≤ last'.span.stop :=
      Nat.le_trans (there last_mem last_mem') (ordered.right.right.1 last' last_mem')
    simp only [Span.merge, Nat.min_eq_left starts, Nat.max_eq_right stops]

/-- A span that starts with a token. -/
theorem from_token {t : Token} (mid : List Token) (behind : Token.Ordered us → s.Covers us)
    (split : all = t :: (mid ++ us)) (ordered : Token.Ordered all) :
    (t.span.merge s).Covers all :=
  merge mid (fun _ => token t) behind split ordered

/-- A span that ends with a token. -/
theorem to_token {t : Token} (mid : List Token) (front : Token.Ordered ts → s.Covers ts)
    (split : all = ts ++ (mid ++ [t])) (ordered : Token.Ordered all) :
    (s.merge t.span).Covers all :=
  merge mid front (fun _ => token t) split ordered

/-- A span from one token to another. -/
theorem tokens {t u : Token} (mid : List Token) (split : all = t :: (mid ++ [u]))
    (ordered : Token.Ordered all) : (t.span.merge u.span).Covers all :=
  merge mid (fun _ => token t) (fun _ => token u) split ordered

end Span.Covers

/-! ## Phrases -/

/-- The span of a function goes from its first word to its closing brace. -/
theorem Function.covers {f : Function} {ts : List Token} {word : Token}
    (spelled : f.Spelled word.span ts) :
    Token.Ordered (word :: ts) → f.span.Covers (word :: ts) := by
  cases spelled with
  | @mk _ _ _ _ _ ns ps rs ts opening close left right =>
    exact .from_token (ns ++ opening :: ps ++ close :: rs) (.tokens ts rfl) (by simp)

mutual

/-- The span of an expression goes from its first token to its last one. -/
theorem Expr.covers : ∀ {e : Expr} {ts : List Token}, e.Spelled ts → Token.Ordered ts →
    e.span.Covers ts
  | _, _, .number _ | _, _, .string _ _ | _, _, .true_ _ | _, _, .false_ _ | _, _, .null _
  | _, _, .identifier _ => fun _ => .token _
  | _, _, .group _ _ _ | _, _, .array _ _ _ | _, _, .object _ _ _ => .tokens _ rfl
  | _, _, .function _ spelled => Function.covers spelled
  | _, _, .member first _ _ => .to_token [_] (Expr.covers first) rfl
  | _, _, @Expr.Spelled.index _ _ _ us opening _ first _ _ _
  | _, _, @Expr.Spelled.call _ _ _ us opening _ first _ _ _ =>
    .to_token (opening :: us) (Expr.covers first) (by simp)
  | _, _, .unary _ operand => .from_token [] (Expr.covers operand) rfl
  | _, _, .stepAfter operand _ => .to_token [] (Expr.covers operand) rfl
  | _, _, .binary left _ right => .merge [_] (Expr.covers left) (Expr.covers right) rfl
  | _, _, @Expr.Spelled.conditional _ _ _ _ us _ question colon c _ _ _ b =>
    .merge (question :: us ++ [colon]) (Expr.covers c) (Expr.covers b) (by simp)
  | _, _, .assign target _ value =>
    .merge [_] (Expr.covers target) (Expr.covers value) rfl

/-- The span of a statement goes from its first token to its last one. -/
theorem Stmt.covers : ∀ {s : Stmt} {ts : List Token}, s.Spelled ts → Token.Ordered ts →
    s.span.Covers ts
  | _, _, .block _ _ _ => .tokens _ rfl
  | _, _, .declare _ _ _ _ => .tokens _ rfl
  | _, _, .declareWith _ _ _ _ _ _ | _, _, .constant _ _ _ _ _ _ => .tokens _ rfl
  | _, _, .expr e _ => .to_token [] (Expr.covers e) rfl
  | _, _, .print _ _ _ => .tokens _ rfl
  | _, _, @Stmt.Spelled.if_ _ _ ts _ _ opening close _ _ _ _ a =>
    .from_token (opening :: ts ++ [close]) (Stmt.covers a) (by simp)
  | _, _, @Stmt.Spelled.ifElse _ _ _ ts _ _ _ opening close _ _ _ _ _ a _ b =>
    .merge [_] (.from_token (opening :: ts ++ [close]) (Stmt.covers a) (by simp))
      (Stmt.covers b) rfl
  | _, _, @Stmt.Spelled.while_ _ _ ts _ _ opening close _ _ _ _ body =>
    .from_token (opening :: ts ++ [close]) (Stmt.covers body) (by simp)
  | _, _, @Stmt.Spelled.for_ _ _ _ _ is ts us _ _ opening stop close _ _ _ _ _ _ _ body =>
    .from_token (opening :: is ++ ts ++ stop :: us ++ [close]) (Stmt.covers body) (by simp)
  | _, _, .break_ _ _ | _, _, .continue_ _ _ => .tokens [] rfl
  | _, _, .return_ _ _ _ => .tokens _ rfl
  | _, _, .function _ spelled => Function.covers spelled

end

/-- The span of a phrase covers its tokens. -/
theorem Phrase.covers {n : Phrase} {ts : List Token} (spelled : n.SpelledBy ts)
    (ordered : Token.Ordered ts) : n.span.Covers ts := by
  cases n with
  | expr e => exact Expr.covers spelled ordered
  | stmt s => exact Stmt.covers spelled ordered
  | function f =>
    obtain ⟨word, us, rfl, -, rest⟩ := spelled
    exact Function.covers rest ordered

/-! ## Parts -/

namespace Laid

variable {n m : Phrase} {ns ms : List Phrase} {ts us : List Token}

/-- Tokens in front belong to no part. -/
theorem skip (gap : List Token) (laid : Laid ns ts) : Laid ns (gap ++ ts) := by
  cases laid with
  | nil => exact .nil
  | cons spelled rest =>
    rw [← List.append_assoc]
    exact .cons spelled rest

theorem one (spelled : n.SpelledBy ts) : Laid [n] ts := by
  have laid : Laid [n] ([] ++ (ts ++ [])) := .cons spelled .nil
  simpa using laid

theorem expr {e : Expr} (spelled : e.Spelled ts) : Laid [.expr e] ts := one spelled

theorem stmt {s : Stmt} (spelled : s.Spelled ts) : Laid [.stmt s] ts := one spelled

/-- Parts laid in tokens, and other parts laid behind them. -/
theorem append (front : Laid ns ts) (behind : Laid ms us) : Laid (ns ++ ms) (ts ++ us) := by
  induction front with
  | nil => exact behind.skip _
  | cons spelled _ ih =>
    rw [List.append_assoc, List.append_assoc]
    exact .cons spelled ih

theorem before (gap : List Token) (laid : Laid ns ts) : Laid ns (ts ++ gap) := by
  have both := laid.append (.nil : Laid [] gap)
  rwa [List.append_nil] at both

end Laid

mutual

theorem ItemsSpelled.laid : ∀ {trailing : Bool} {es : List Expr} {ts : List Token},
    ItemsSpelled trailing es ts → Laid (es.map .expr) ts
  | _, _, _, .nil => .nil
  | _, _, _, .one spelled => .expr spelled
  | _, _, _, .cons spelled _ others _ => (Laid.expr spelled).append (others.laid.skip [_])

theorem PropertiesSpelled.laid : ∀ {ps : List (String × Expr)} {ts : List Token},
    PropertiesSpelled ps ts → Laid (ps.map fun p => .expr p.2) ts
  | _, _, .nil => .nil
  | _, _, .one _ _ spelled => (Laid.expr spelled).skip [_, _]
  | _, _, .cons _ _ spelled _ others =>
    ((Laid.expr spelled).skip [_, _]).append (others.laid.skip [_])

theorem BodySpelled.laid : ∀ {ss : List Stmt} {ts : List Token}, BodySpelled ss ts →
    Laid (ss.map .stmt) ts
  | _, _, .nil => .nil
  | _, _, .cons spelled others => (Laid.stmt spelled).append others.laid

end

theorem OptionalSpelled.laid {e : Option Expr} {ts : List Token} (spelled : OptionalSpelled e ts) :
    Laid (e.toList.map .expr) ts := by
  cases spelled with
  | missing => exact .nil
  | given spelled => exact .expr spelled

theorem InitSpelled.laid {init : Option Stmt} {ts : List Token} (spelled : InitSpelled init ts) :
    Laid (init.toList.map .stmt) ts := by
  cases spelled with
  | missing => exact .nil
  | expr spelled is_stop => exact .stmt (Stmt.Spelled.expr spelled is_stop)
  | variable_ _ spelled => exact .stmt spelled

/-- The parts of an expression stand in its tokens, in their order. -/
theorem Expr.laid {e : Expr} {ts : List Token} (spelled : e.Spelled ts) : Laid e.parts ts := by
  cases spelled with
  | number | string | true_ | false_ | null | identifier => exact .nil
  | group _ inner _ => exact ((Laid.expr inner).skip [_]).before _
  | array _ items _ => exact (items.laid.skip [_]).before _
  | object _ items _ => exact (items.laid.skip [_]).before _
  | function is_word inner => exact .one (n := .function _) ⟨_, _, rfl, is_word, inner⟩
  | member first _ _ => exact (Laid.expr first).before _
  | index first _ key _ => exact ((Laid.expr first).append ((Laid.expr key).skip [_])).before _
  | call first _ items _ => exact ((Laid.expr first).append (items.laid.skip [_])).before _
  | unary _ operand => exact (Laid.expr operand).skip [_]
  | stepAfter operand _ => exact (Laid.expr operand).before _
  | binary left _ right => exact (Laid.expr left).append ((Laid.expr right).skip [_])
  | conditional c _ a _ b =>
    exact ((Laid.expr c).append ((Laid.expr a).skip [_])).append ((Laid.expr b).skip [_])
  | assign target _ value => exact (Laid.expr target).append ((Laid.expr value).skip [_])

theorem Function.laid {f : Function} {ts : List Token} {start : Span}
    (spelled : f.Spelled start ts) : Laid (f.body.map .stmt) ts := by
  cases spelled with
  | mk _ _ _ _ _ _ body _ => exact ((body.laid.skip [_]).skip _).before _

/-- The parts of a statement stand in its tokens, in their order. -/
theorem Stmt.laid {s : Stmt} {ts : List Token} (spelled : s.Spelled ts) : Laid s.parts ts := by
  cases spelled with
  | block _ body _ => exact (body.laid.skip [_]).before _
  | declare => exact .nil
  | declareWith _ _ _ _ init _ => exact (((Laid.expr init).skip [_]).skip _).before _
  | constant _ _ _ _ init _ => exact (((Laid.expr init).skip [_]).skip _).before _
  | expr e _ => exact (Laid.expr e).before _
  | print _ e _ => exact ((Laid.expr e).skip [_]).before _
  | if_ _ _ c _ a => exact ((Laid.expr c).skip [_, _]).append ((Laid.stmt a).skip [_])
  | ifElse _ _ c _ a _ b =>
    exact (((Laid.expr c).skip [_, _]).append ((Laid.stmt a).skip [_])).append
      ((Laid.stmt b).skip [_])
  | while_ _ _ c _ body => exact ((Laid.expr c).skip [_, _]).append ((Laid.stmt body).skip [_])
  | for_ _ _ init c _ update _ body =>
    exact (((init.laid.skip [_, _]).append c.laid).append (update.laid.skip [_])).append
      ((Laid.stmt body).skip [_])
  | break_ | continue_ => exact .nil
  | return_ _ value _ => exact (value.laid.skip [_]).before _
  | function is_word inner => exact .one (n := .function _) ⟨_, _, rfl, is_word, inner⟩

/-- The parts of a phrase are laid out in its tokens. -/
theorem Phrase.laid {n : Phrase} {ts : List Token} (spelled : n.SpelledBy ts) :
    Laid n.parts ts := by
  cases n with
  | expr e => exact Expr.laid spelled
  | stmt s => exact Stmt.laid spelled
  | function f =>
    obtain ⟨word, us, rfl, -, rest⟩ := spelled
    exact (Function.laid rest).skip [word]

/-! ## Phrases in order -/

namespace Laid

variable {ns : List Phrase} {ts : List Token}

/-- Each part that is laid is spelled somewhere in the tokens. -/
theorem mem (laid : Laid ns ts) : ∀ n ∈ ns, ∃ us, us <:+: ts ∧ n.SpelledBy us := by
  induction laid with
  | nil => exact fun _ inside => nomatch inside
  | @cons n ns gap ts rest spelled _ ih =>
    rintro m (_ | ⟨_, behind⟩)
    · exact ⟨ts, ⟨gap, rest, by simp⟩, spelled⟩
    · obtain ⟨us, among, spelled'⟩ := ih m behind
      exact ⟨us, among.trans ⟨gap ++ ts, [], by simp⟩, spelled'⟩

/-- Phrases that are laid out in tokens in order lie one behind the other. -/
theorem pairwise (laid : Laid ns ts) (ordered : Token.Ordered ts) :
    ns.Pairwise fun a b => a.span.stop ≤ b.span.start := by
  induction laid with
  | nil => exact .nil
  | @cons n ns gap ts rest spelled others ih =>
    have front := ordered.right.left
    have behind := ordered.right.right
    refine .cons (fun m inside => ?_) (ih behind)
    obtain ⟨us, among, spelled'⟩ := others.mem m inside
    obtain ⟨_, last, -, is_last, stops⟩ := n.covers spelled front
    obtain ⟨first, _, is_first, -, starts⟩ :=
      m.covers spelled' (behind.sublist among.sublist)
    rw [stops, starts]
    exact ordered.right.between (List.mem_of_getLast? is_last)
      (among.subset (List.mem_of_mem_head? is_first))

end Laid

/-- Each phrase of a program is spelled by some of its tokens in a row. -/
theorem Program.Has.spelled {p : Program} {ts : List Token} (spelled : p.Spelled ts) {n : Phrase}
    (inside : p.Has n) : ∃ us, us <:+: ts ∧ n.SpelledBy us := by
  induction inside with
  | top membership => exact (BodySpelled.laid spelled).mem _ (List.mem_map_of_mem membership)
  | part _ part ih =>
    obtain ⟨us, among, spelled'⟩ := ih
    obtain ⟨vs, among', spelled''⟩ := (Phrase.laid spelled').mem _ part
    exact ⟨vs, among'.trans among, spelled''⟩

end Scriptlet

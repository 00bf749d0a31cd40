import Scriptlet.Proofs.Token.Tiling

/-!
# Identifiers are not reserved

A name is an identifier unless its spelling is reserved, and no spelling is reserved
for identifiers.  So no identifier of a stream has a reserved spelling
(`identifier_not_reserved`).
-/

namespace Scriptlet

theorem Keyword.find?_ne_identifier (spelling : String) :
    Keyword.find? spelling ≠ some .identifier := by
  have others : ∀ entry ∈ Keyword.table, entry.2 ≠ .identifier := by decide
  exact fun found => others _ (mem_table_of_find? found) rfl

namespace Scan

/-- The spelling of a name that is an identifier is free. -/
theorem not_reserved_of_name {c : Char} {text : List Char}
    (is_identifier : (name c text).kind = some .identifier) :
    Keyword.isReserved (String.ofList (c :: (name c text).body)) = false := by
  unfold Keyword.isReserved
  cases found : Keyword.find? (String.ofList (c :: (name c text).body)) with
  | none => rfl
  | some kind =>
    have same : (name c text).kind =
        some ((Keyword.find? (String.ofList (c :: (name c text).body))).getD .identifier) := rfl
    rw [found, is_identifier] at same
    cases same
    exact absurd found (Keyword.find?_ne_identifier _)

/-- Only the rule for names makes identifiers. -/
theorem name_of_identifier {c : Char} {text : List Char} {cut : Cut text}
    (found : scan c text = some cut) (is_identifier : cut.kind = some .identifier) :
    isNameStart c = true ∧ cut = name c text := by
  cases rule_of_scan found with
  | name starts same => exact ⟨starts, same⟩
  | space _ same | string _ same =>
    subst same
    cases is_identifier
  | number _ same =>
    rw [same, kind_number] at is_identifier
    cases is_identifier
  | comment _ commented =>
    rw [(comment_of_comment commented).1] at is_identifier
    cases is_identifier
  | symbol symbolic =>
    obtain ⟨s, is_symbol⟩ := kind_symbol symbolic
    rw [is_symbol] at is_identifier
    cases is_identifier

theorem not_reserved_of_scan {c : Char} {text : List Char} {cut : Cut text}
    (found : scan c text = some cut) (is_identifier : cut.kind = some .identifier) :
    Keyword.isReserved (String.ofList (c :: cut.body)) = false := by
  obtain ⟨-, rfl⟩ := name_of_identifier found is_identifier
  exact not_reserved_of_name is_identifier

end Scan

namespace TokenStream

theorem not_reserved_of_place (p : Place) (text : List Char) :
    ∀ t ∈ place p (pieces text).1, t.kind = .identifier →
      Keyword.isReserved t.lexeme = false := by
  fun_induction pieces text generalizing p with
  | case1 => simp [place]
  | case2 => simp [place]
  | case3 c cs cut found next ih =>
    rw [place]
    cases made : cut.kind with
    | none => exact ih _
    | some kind =>
      refine List.forall_mem_cons.mpr ⟨fun is_identifier => ?_, ih _⟩
      obtain rfl : kind = .identifier := is_identifier
      exact Scan.not_reserved_of_scan found made

end TokenStream

/-- No identifier of a source has a reserved spelling. -/
theorem identifier_not_reserved {source : String} {t : Token}
    (inside : t ∈ (stream source).tokens) (is_identifier : t.kind = .identifier) :
    Keyword.isReserved t.lexeme = false :=
  TokenStream.not_reserved_of_place .origin source.toList t inside is_identifier

end Scriptlet

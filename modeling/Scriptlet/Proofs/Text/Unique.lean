import Scriptlet.Text.Escape

/-!
# Texts that are read back in one way

Two texts that are followed by something may look the same as a whole.  They are the same if what
they consist of tells where they end: characters of a class in front of one that is not in the class
(`append_inj_of_class`), or an escaped text in front of a quote (`EscapedText.append_inj`).

Escaped characters are of three forms, and what a character looks like says which it is
(`Escaped.append_inj`).  A code point ends at its brace.  A short escape has a letter of its own
behind the backslash, and no letter stands for two characters.
-/

namespace Scriptlet.Text

/-! ## Classes of characters -/

/-- Characters of a class end where the first character comes that is not in the class. -/
theorem append_inj_of_class {p : Char → Bool} {as bs rest rest' : List Char}
    (left : ∀ c ∈ as, p c = true) (right : ∀ c ∈ bs, p c = true)
    (stops : ∀ c ∈ rest.head?, p c = false) (stops' : ∀ c ∈ rest'.head?, p c = false)
    (same : as ++ rest = bs ++ rest') : as = bs ∧ rest = rest' := by
  induction as generalizing bs with
  | nil =>
    cases bs with
    | nil => exact ⟨rfl, same⟩
    | cons b bs =>
      have inside := right b (.head _)
      rw [List.nil_append] at same
      rw [stops b (by rw [same]; rfl)] at inside
      cases inside
  | cons a as ih =>
    obtain ⟨here, left⟩ := List.forall_mem_cons.mp left
    cases bs with
    | nil =>
      rw [List.nil_append] at same
      rw [stops' a (by rw [← same]; rfl)] at here
      cases here
    | cons b bs =>
      obtain ⟨rfl, behind⟩ := List.cons.inj same
      obtain ⟨rfl, rests⟩ := ih left (List.forall_mem_cons.mp right).2 behind
      exact ⟨rfl, rests⟩

/-! ## Hexadecimal digits -/

theorem digitChar_inj {m n : Nat} (left : m < 16) (right : n < 16)
    (same : m.digitChar = n.digitChar) : m = n := by
  have all_ : ∀ m < 16, ∀ n < 16, m.digitChar = n.digitChar → m = n := by decide
  exact all_ m left n right same

/-- A number is known from its hexadecimal digits. -/
theorem toDigits_inj {m n : Nat} (same : Nat.toDigits 16 m = Nat.toDigits 16 n) : m = n := by
  induction m using Nat.strongRecOn generalizing n with
  | ind m ih =>
    have base : 1 < 16 := by decide
    have some_ (k : Nat) : Nat.toDigits 16 k ≠ [] := Nat.toDigits_ne_nil
    obtain small | large := Nat.lt_or_ge m 16 <;> obtain small' | large' := Nat.lt_or_ge n 16
    · rw [Nat.toDigits_of_lt_base small, Nat.toDigits_of_lt_base small'] at same
      exact digitChar_inj small small' (List.singleton_inj.mp same)
    · rw [Nat.toDigits_of_lt_base small, Nat.toDigits_of_base_le base large'] at same
      exact absurd (List.append_eq_singleton_iff.mp same.symm) (by simp [some_])
    · rw [Nat.toDigits_of_lt_base small', Nat.toDigits_of_base_le base large] at same
      exact absurd (List.append_eq_singleton_iff.mp same) (by simp [some_])
    · rw [Nat.toDigits_of_base_le base large, Nat.toDigits_of_base_le base large'] at same
      obtain ⟨front, last⟩ := List.append_inj' same rfl
      have quotient := ih (m / 16) (by omega) front
      have remainder := digitChar_inj (Nat.mod_lt m (by decide)) (Nat.mod_lt n (by decide))
        (List.singleton_inj.mp last)
      omega

theorem ne_brace_of_mem_toDigits {n : Nat} : ∀ c ∈ Nat.toDigits 16 n, c ≠ '}' := by
  have all_ : ∀ k < 16, k.digitChar ≠ '}' := by decide
  induction n using Nat.strongRecOn with
  | ind n ih =>
    obtain small | large := Nat.lt_or_ge n 16
    · rw [Nat.toDigits_of_lt_base small]
      exact List.forall_mem_singleton.mpr (all_ n small)
    · rw [Nat.toDigits_of_base_le (by decide) large]
      refine List.forall_mem_append.mpr ⟨ih (n / 16) (by omega), ?_⟩
      exact List.forall_mem_singleton.mpr (all_ _ (Nat.mod_lt n (by decide)))

/-! ## Escaped characters -/

/-- The character that a letter stands for behind a backslash. -/
def short? : Char → Option Char
  | '0' => some '\x00'
  | 't' => some '\t'
  | 'r' => some '\r'
  | 'n' => some '\n'
  | '\\' => some '\\'
  | '"' => some '"'
  | '\'' => some '\''
  | _ => none

/-- The forms of an escaped character. -/
inductive Escaped (c : Char) : List Char → Prop
  | itself : c ≠ '\\' → c ≠ '"' → Escaped c [c]
  | short {k : Char} : short? k = some c → Escaped c ['\\', k]
  | point : Escaped c (codePoint c)

theorem escaped_escapeChar (singleQuote extending : Bool) (c : Char) :
    Escaped c (escapeChar singleQuote extending c) := by
  unfold escapeChar
  split
  · exact .short rfl
  · exact .short rfl
  · exact .short rfl
  · exact .short rfl
  · exact .short rfl
  · exact .short rfl
  · split
    · exact .short rfl
    · exact .itself (by decide) (by decide)
  · next no_escape no_quote _ =>
    split
    · exact .point
    · exact .itself no_escape no_quote

namespace Escaped

variable {c d : Char} {as bs rest rest' : List Char}

/-- No escaped character starts with a quote. -/
theorem ne_quote (escaped : Escaped c as) (same : as ++ rest = '"' :: rest') : False := by
  cases escaped with
  | itself _ no_quote => exact no_quote (List.cons.inj same).1
  | short => cases same
  | point => cases same

/-- An escaped character says what it stands for and where it ends. -/
theorem append_inj (first : Escaped c as) (second : Escaped d bs)
    (same : as ++ rest = bs ++ rest') : c = d ∧ rest = rest' := by
  cases first with
  | itself no_escape =>
    cases second with
    | itself => exact List.cons.inj same
    | short => exact absurd (List.cons.inj same).1 no_escape
    | point => exact absurd (List.cons.inj same).1 no_escape
  | @short k letter =>
    cases second with
    | itself no_escape => exact absurd (List.cons.inj same).1.symm no_escape
    | @short k' letter' =>
      obtain ⟨rfl, behind⟩ := List.cons.inj (List.cons.inj same).2
      exact ⟨Option.some.inj (letter.symm.trans letter'), behind⟩
    | point =>
      obtain ⟨rfl, -⟩ := List.cons.inj (List.cons.inj same).2
      cases letter
  | point =>
    cases second with
    | itself no_escape => exact absurd (List.cons.inj same).1.symm no_escape
    | @short k' letter' =>
      obtain ⟨rfl, -⟩ := List.cons.inj (List.cons.inj same).2
      cases letter'
    | point =>
      simp only [codePoint, List.append_assoc, List.cons_append, List.nil_append,
        List.cons.injEq, true_and] at same
      have digits (n : Nat) : ∀ c ∈ Nat.toDigits 16 n, (c != '}') = true :=
        fun c inside => bne_iff_ne.mpr (ne_brace_of_mem_toDigits c inside)
      have stops (text : List Char) : ∀ c ∈ ('}' :: text).head?, (c != '}') = false := by
        rintro c ⟨⟩
        rfl
      obtain ⟨front, behind⟩ := append_inj_of_class (digits _) (digits _) (stops _) (stops _) same
      exact ⟨Char.toNat_inj.mp (toDigits_inj front), (List.cons.inj behind).2⟩

end Escaped

/-! ## Escaped texts -/

/-- Escaped characters one after the other, with the text that they stand for. -/
inductive EscapedText : List Char → List Char → Prop
  | nil : EscapedText [] []
  | cons {c : Char} {cs as bs : List Char} :
    Escaped c as → EscapedText cs bs → EscapedText (c :: cs) (as ++ bs)

theorem escapedText_escape (style : Style) (s : List Char) : EscapedText s (style.escape s) := by
  have others (cs : List Char) :
      EscapedText cs (cs.flatMap (escapeChar style.singleQuote style.everyExtending)) := by
    induction cs with
    | nil => exact .nil
    | cons c cs ih => exact .cons (escaped_escapeChar ..) ih
  cases s with
  | nil => exact .nil
  | cons c cs => exact .cons (escaped_escapeChar ..) (others cs)

/-- An escaped text in front of a quote says what it stands for. -/
theorem EscapedText.append_inj {s t as bs rest rest' : List Char} (first : EscapedText s as)
    (second : EscapedText t bs) (same : as ++ '"' :: rest = bs ++ '"' :: rest') :
    s = t ∧ rest = rest' := by
  induction first generalizing t bs with
  | nil =>
    cases second with
    | nil => exact ⟨rfl, (List.cons.inj same).2⟩
    | cons here _ =>
      rw [List.append_assoc] at same
      exact (here.ne_quote same.symm).elim
  | cons here _ ih =>
    rw [List.append_assoc] at same
    cases second with
    | nil => exact (here.ne_quote same).elim
    | cons here' behind =>
      rw [List.append_assoc] at same
      obtain ⟨rfl, same⟩ := here.append_inj here' same
      obtain ⟨rfl, rests⟩ := ih behind same
      exact ⟨rfl, rests⟩

end Scriptlet.Text

import Mathlib.Computability.RegularExpressions

/-!
# Regular expressions over character sets

A set of characters matches one character, and an optional expression also matches
nothing. Concatenations are read from their first part on.
-/

namespace ApiGateway.Regexes

open RegularExpression

universe u
variable {α : Type u} [DecidableEq α] {text : List α}

/-- One of some characters. -/
def oneOf (characters : List α) : RegularExpression α :=
  characters.foldr (fun character others => char character + others) 0

/-- An expression or nothing. -/
def optional (expression : RegularExpression α) : RegularExpression α := expression + 1

/-- An expression once or more often. -/
def repeated (expression : RegularExpression α) : RegularExpression α :=
  expression * star expression

/-- The characters from one to another. -/
def charRange (low high : Char) : List Char :=
  (List.range' low.toNat (high.toNat + 1 - low.toNat)).map Char.ofNat

theorem oneOf_rmatch_iff (characters : List α) :
    (oneOf characters).rmatch text = true ↔ ∃ character ∈ characters, text = [character] := by
  induction characters with
  | nil => simp [oneOf]
  | cons character others ih =>
    have step : oneOf (character :: others) = char character + oneOf others := rfl
    rw [step, add_rmatch_iff, char_rmatch_iff, ih]
    simp

theorem char_mul_rmatch_iff (character : α) (next : RegularExpression α) :
    (char character * next).rmatch text = true ↔
      ∃ rest, text = character :: rest ∧ next.rmatch rest = true := by
  rw [mul_rmatch_iff]
  constructor
  · rintro ⟨first, rest, rfl, matched, follows⟩
    rw [char_rmatch_iff] at matched
    exact ⟨rest, by rw [matched, List.singleton_append], follows⟩
  · rintro ⟨rest, rfl, follows⟩
    exact ⟨[character], rest, rfl, (char_rmatch_iff character _).mpr rfl, follows⟩

theorem oneOf_mul_rmatch_iff (characters : List α) (next : RegularExpression α) :
    (oneOf characters * next).rmatch text = true ↔
      ∃ character ∈ characters, ∃ rest, text = character :: rest ∧ next.rmatch rest = true := by
  rw [mul_rmatch_iff]
  constructor
  · rintro ⟨first, rest, rfl, matched, follows⟩
    obtain ⟨character, member, rfl⟩ := (oneOf_rmatch_iff characters).mp matched
    exact ⟨character, member, rest, rfl, follows⟩
  · rintro ⟨character, member, rest, rfl, follows⟩
    exact ⟨[character], rest, rfl, (oneOf_rmatch_iff characters).mpr ⟨character, member, rfl⟩,
      follows⟩

theorem optional_rmatch_iff (expression : RegularExpression α) :
    (optional expression).rmatch text = true ↔ expression.rmatch text = true ∨ text = [] := by
  rw [optional, add_rmatch_iff, one_rmatch_iff]

theorem optional_mul_rmatch_iff (expression next : RegularExpression α) :
    (optional expression * next).rmatch text = true ↔
      (expression * next).rmatch text = true ∨ next.rmatch text = true := by
  simp only [mul_rmatch_iff, optional_rmatch_iff]
  constructor
  · rintro ⟨first, rest, rfl, matched | rfl, follows⟩
    · exact Or.inl ⟨first, rest, rfl, matched, follows⟩
    · exact Or.inr follows
  · rintro (⟨first, rest, rfl, matched, follows⟩ | follows)
    · exact ⟨first, rest, rfl, Or.inl matched, follows⟩
    · exact ⟨[], text, rfl, Or.inr rfl, follows⟩

theorem star_oneOf_rmatch_iff (characters : List α) :
    (star (oneOf characters)).rmatch text = true ↔ ∀ character ∈ text, character ∈ characters := by
  rw [star_rmatch_iff]
  constructor
  · rintro ⟨pieces, rfl, matched⟩ character member
    obtain ⟨piece, listed, inPiece⟩ := List.mem_flatten.mp member
    obtain ⟨single, known, rfl⟩ := (oneOf_rmatch_iff characters).mp (matched piece listed).2
    rwa [List.mem_singleton.mp inPiece]
  · intro known
    refine ⟨text.map (fun character => [character]), (List.flatMap_singleton' text).symm, ?_⟩
    intro piece listed
    obtain ⟨character, member, rfl⟩ := List.mem_map.mp listed
    exact ⟨List.cons_ne_nil _ _, (oneOf_rmatch_iff characters).mpr ⟨character, known _ member, rfl⟩⟩

/-- Texts of some characters that are not empty. -/
theorem repeated_oneOf_rmatch_iff (characters : List α) :
    (repeated (oneOf characters)).rmatch text = true ↔
      text ≠ [] ∧ ∀ character ∈ text, character ∈ characters := by
  rw [repeated, oneOf_mul_rmatch_iff]
  constructor
  · rintro ⟨first, known, rest, rfl, others⟩
    rw [star_oneOf_rmatch_iff] at others
    exact ⟨List.cons_ne_nil first rest, List.forall_mem_cons.mpr ⟨known, others⟩⟩
  · rintro ⟨nonempty, known⟩
    obtain ⟨first, rest, rfl⟩ := List.exists_cons_of_ne_nil nonempty
    obtain ⟨begins, others⟩ := List.forall_mem_cons.mp known
    exact ⟨first, begins, rest, rfl, (star_oneOf_rmatch_iff characters).mpr others⟩

theorem mem_charRange_iff {low high : Char} (ascii : high.toNat < 128) (character : Char) :
    character ∈ charRange low high ↔
      low.toNat ≤ character.toNat ∧ character.toNat ≤ high.toNat := by
  simp only [charRange, List.mem_map, List.mem_range'_1]
  constructor
  · rintro ⟨code, bounds, rfl⟩
    have valid : code.isValidChar := Or.inl (by omega)
    have same : (Char.ofNat code).toNat = code := by
      rw [Char.ofNat, dif_pos valid]
      rfl
    omega
  · intro bounds
    exact ⟨character.toNat, by omega, Char.ofNat_toNat character⟩

end ApiGateway.Regexes

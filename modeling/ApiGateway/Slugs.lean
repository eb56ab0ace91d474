import ApiGateway.SwaggerNames
import ApiGateway.Library.Collapsing

/-!
# Slugs as a normal form

A slug is empty or a row of words with dashes between them, and these are exactly the
texts that are their own slugs.

Lower-casing may turn one character into several and trimming takes white space away.
A slug has neither, so that only the runs and the ends matter the second time.
-/

namespace ApiGateway.SeedImport

open Regexes Collapsing

/-- The characters that a slug keeps, listed. -/
def slugCharacters : List Char := charRange 'a' 'z' ++ charRange '0' '9'

/-- Words of letters and digits with one dash between them. -/
def slugRegex : RegularExpression Char := wordsRegex slugCharacters '-'

section Runs

theorem dashRuns_eq_collapse (inRun : Bool) (text : Text) :
    dashRuns inRun text =
      collapse (fun character => !isSlugCharacter character) '-' inRun text := by
  induction text generalizing inRun with
  | nil => rfl
  | cons first rest ih =>
    rw [dashRuns, collapse]
    cases kept : isSlugCharacter first with
    | true =>
      rw [if_pos rfl, ih, if_neg (show (!true) ≠ true from Bool.false_ne_true)]
    | false =>
      rw [if_neg Bool.false_ne_true, ih, if_pos (show (!false) = true from rfl)]

theorem isSlugCharacter_iff (character : Char) :
    isSlugCharacter character = true ↔ character ∈ slugCharacters := by
  rw [slugCharacters, List.mem_append, mem_charRange_iff (by decide), mem_charRange_iff (by decide),
    isSlugCharacter, Bool.or_eq_true, Bool.and_eq_true, Bool.and_eq_true]
  simp only [decide_eq_true_eq]
  rfl

theorem contains_slugCharacters (character : Char) :
    slugCharacters.contains character = isSlugCharacter character := by
  rw [Bool.eq_iff_iff, isSlugCharacter_iff, List.contains_iff_mem]

/-- What case maps and white space do with the characters of slugs. -/
theorem slug_character_facts (code : Fin 128)
    (slug : isSlugCharacter (Char.ofNat code) = true ∨ Char.ofNat code = '-') :
    (Char.ofNat code).toLower = Char.ofNat code ∧ isSpace (Char.ofNat code) = false := by
  revert code
  decide

theorem slug_character {character : Char}
    (slug : isSlugCharacter character = true ∨ character = '-') :
    character.toNat < 128 ∧ character.toLower = character ∧ isSpace character = false := by
  have ascii : character.toNat < 128 := by
    rcases slug with kept | rfl
    · rw [isSlugCharacter_iff, slugCharacters, List.mem_append, mem_charRange_iff (by decide),
        mem_charRange_iff (by decide)] at kept
      rcases kept with ⟨_, high⟩ | ⟨_, high⟩
      · exact Nat.lt_of_le_of_lt high (by decide)
      · exact Nat.lt_of_le_of_lt high (by decide)
    · decide
  have facts := slug_character_facts ⟨character.toNat, ascii⟩
  simp only [Char.ofNat_toNat] at facts
  exact ⟨ascii, facts slug⟩

end Runs

section Slugs

variable {casing : Casing} {value : Text}

theorem slugify_separated (casing : Casing) (value : Text) :
    Separated (fun character => !isSlugCharacter character) '-' (slugify casing value) := by
  rw [slugify, dashRuns_eq_collapse]
  exact separated_trim (by decide) _

/-- Words with single dashes between them are their own slug. -/
theorem slugify_of_separated
    (separated : Separated (fun character => !isSlugCharacter character) '-' value) :
    slugify casing value = value := by
  have facts : ∀ character ∈ value,
      character.toNat < 128 ∧ character.toLower = character ∧ isSpace character = false := by
    intro character member
    apply slug_character
    by_cases dash : character = '-'
    · exact Or.inr dash
    · exact Or.inl (by simpa using separated.kept character member dash)
  have stripped : Trimming.trim isSpace value = value :=
    Trimming.trim_eq_self (fun first found => (facts first (List.mem_of_head? found)).2.2)
      (fun last found => (facts last (List.mem_of_getLast? found)).2.2)
  have lowered : casing.lower value = value := by
    rw [Casing.lower, lowerAfter_ascii (fun character member => (facts character member).1)]
    exact (List.map_congr_left (fun character member => (facts character member).2.1)).trans
      (List.map_id value)
  rw [slugify, stripped, lowered, dashRuns_eq_collapse]
  exact trim_collapse_eq_self (by decide) separated

/-- The texts that are their own slugs are the empty text and those of the grammar. -/
theorem slugify_eq_self_iff :
    slugify casing value = value ↔ value = [] ∨ slugRegex.rmatch value = true := by
  have fresh : '-' ∉ slugCharacters := by decide
  have grammar := @wordsRegex_rmatch_iff _ '-' value _ slugCharacters fresh
  simp only [contains_slugCharacters] at grammar
  rw [slugRegex, grammar]
  constructor
  · intro same
    by_cases empty : value = []
    · exact Or.inl empty
    · exact Or.inr ⟨empty, same ▸ slugify_separated casing value⟩
  · rintro (rfl | ⟨_, separated⟩)
    · exact slugify_of_separated ⟨by simp, List.IsChain.nil, by simp, by simp⟩
    · exact slugify_of_separated separated

end Slugs

/-- A slug is empty or of the grammar, and it is its own slug. -/
theorem slugify_normal (casing : Casing) (value : Text) :
    (slugify casing value = [] ∨ slugRegex.rmatch (slugify casing value) = true) ∧
      slugify casing (slugify casing value) = slugify casing value := by
  have again : slugify casing (slugify casing value) = slugify casing value :=
    slugify_of_separated (slugify_separated casing value)
  exact ⟨slugify_eq_self_iff.mp again, again⟩

example : slugify asciiCasing " Get User's Id! ".toList = "get-user-s-id".toList := by decide

end ApiGateway.SeedImport

import Mathlib.Data.List.Basic
import Mathlib.Data.List.Infix

/-!
# Text as the gateway reads it

Text is a list of characters. The operations are those of the platform's
strings that the gateway uses: splitting, trimming, emptiness tests and
comparison without regard to case.

Upper-casing is the platform's invariant, character by character case map. Only
what the gateway relies on is fixed: ASCII characters are upper-cased as usual,
and no other character becomes an ASCII character that is not a letter.
-/

namespace ApiGateway

abbrev Text := List Char

/-- The invariant case map of single characters. -/
structure CaseMap where
  upper : Char → Char
  upper_ascii : ∀ character, character.toNat < 128 → upper character = character.toUpper
  upper_symbol : ∀ symbol, symbol.toNat < 128 → symbol.isAlpha = false →
    ∀ character, upper character = symbol → character = symbol

/-- Upper-casing within ASCII yields a symbol only from that symbol. -/
theorem ascii_symbol_fixed (code : Fin 128)
    (symbol : (Char.ofNat code).toUpper.isAlpha = false) :
    (Char.ofNat code).toUpper = Char.ofNat code := by
  revert code
  decide

/-- The case map that changes ASCII letters only. -/
def asciiCase : CaseMap where
  upper := fun character => if character.toNat < 128 then character.toUpper else character
  upper_ascii := by
    intro character ascii
    simp [ascii]
  upper_symbol := by
    intro symbol ascii notLetter character became
    by_cases inside : character.toNat < 128
    · have same : Char.ofNat character.toNat = character := Char.ofNat_toNat character
      rw [if_pos inside] at became
      have fixed := ascii_symbol_fixed ⟨character.toNat, inside⟩ (by
        simpa only [same, became] using notLetter)
      simp only [same, became] at fixed
      exact fixed.symm
    · simpa [inside] using became

/-- White space as the platform classifies it. -/
def isWhiteSpace (character : Char) : Bool :=
  let code := character.toNat
  (9 ≤ code && code ≤ 13) || code == 0x20 || code == 0x85 || code == 0xA0 || code == 0x1680 ||
    (0x2000 ≤ code && code ≤ 0x200A) || code == 0x2028 || code == 0x2029 || code == 0x202F ||
    code == 0x205F || code == 0x3000

namespace Text

/-- Pieces between separators, empty pieces included. -/
def split (separator : Char) (text : Text) : List Text := text.splitOn separator

/-- Pieces between separators that are not empty. -/
def splitRemoveEmpty (separator : Char) (text : Text) : List Text :=
  (split separator text).filter (fun piece => decide (piece ≠ []))

/-- Text without its leading and trailing white space. -/
def trim (text : Text) : Text :=
  ((text.dropWhile isWhiteSpace).reverse.dropWhile isWhiteSpace).reverse

def isNullOrEmpty (text : Option Text) : Bool := text.all List.isEmpty

def isNullOrWhiteSpace (text : Option Text) : Bool := text.all (fun value => value.all isWhiteSpace)

/-- Character by character upper-casing. -/
def toUpperInvariant (caseMap : CaseMap) (text : Text) : Text := text.map caseMap.upper

/-- Equality without regard to case. -/
def equalsIgnoreCase (caseMap : CaseMap) (left right : Text) : Bool :=
  toUpperInvariant caseMap left == toUpperInvariant caseMap right

/-- The text begins with a prefix, without regard to case. -/
def startsWithIgnoreCase (caseMap : CaseMap) (lead text : Text) : Bool :=
  (toUpperInvariant caseMap lead).isPrefixOf (toUpperInvariant caseMap text)

/-- A number can be read back from its digits. -/
theorem digits_injective {left right : Nat} (same : Nat.toDigits 10 left = Nat.toDigits 10 right) :
    left = right := by
  have decoded := congrArg (fun text => Nat.ofDigitChars 10 text 0) same
  simpa only [Nat.ofDigitChars_ten_toDigits] using decoded

/-- A separator that is last in both texts cuts them alike. -/
theorem cut_at_last {separator : Char} {left right former latter : Text}
    (same : left ++ separator :: former = right ++ separator :: latter)
    (formerWhole : separator ∉ former) (latterWhole : separator ∉ latter) :
    left = right ∧ former = latter := by
  rcases List.append_eq_append_iff.mp same with ⟨between, longer, rest⟩ | ⟨between, longer, rest⟩
  · cases between with
    | nil => exact ⟨by simpa using longer.symm, (List.cons.inj rest).2⟩
    | cons first extra => exact absurd (by simp [(List.cons.inj rest).2]) formerWhole
  · cases between with
    | nil => exact ⟨by simpa using longer, (List.cons.inj rest).2.symm⟩
    | cons first extra => exact absurd (by simp [(List.cons.inj rest).2]) latterWhole

/-- So does one that is first in both. -/
theorem cut_at_first {separator : Char} {left right former latter : Text}
    (same : left ++ separator :: former = right ++ separator :: latter)
    (leftWhole : separator ∉ left) (rightWhole : separator ∉ right) :
    left = right ∧ former = latter := by
  have mirrored : former.reverse ++ separator :: left.reverse =
      latter.reverse ++ separator :: right.reverse := by
    simpa using congrArg List.reverse same
  obtain ⟨formers, lefts⟩ := cut_at_last mirrored (by simpa using leftWhole) (by simpa using rightWhole)
  exact ⟨List.reverse_injective lefts, List.reverse_injective formers⟩

theorem trim_subset (text : Text) : trim text ⊆ text := by
  intro character member
  have kept := (List.dropWhile_suffix _).subset (List.mem_reverse.mp member)
  exact (List.dropWhile_suffix _).subset (List.mem_reverse.mp kept)

/-- Upper-casing creates no symbol. -/
theorem not_mem_toUpperInvariant (caseMap : CaseMap) {symbol : Char} (ascii : symbol.toNat < 128)
    (plain : symbol.isAlpha = false) {text : Text} (absent : symbol ∉ text) :
    symbol ∉ toUpperInvariant caseMap text := by
  intro member
  obtain ⟨character, held, became⟩ := List.mem_map.mp member
  rw [caseMap.upper_symbol symbol ascii plain character became] at held
  exact absent held

end Text

end ApiGateway

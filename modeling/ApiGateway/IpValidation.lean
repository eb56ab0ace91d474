import ApiGateway.Text
import ApiGateway.Library.Regexes
import ApiGateway.Library.Trimming

/-!
# Entries of an address allow-list

The portal takes an IPv4 address or an address with a prefix length. The address is
matched by a regular expression with alternatives for the three ranges of an octet.
The prefix length is what the script's integer parser reads off the text behind the
slash.

The parser stops at the first character that is no digit, so a text that only begins
with a prefix length is taken as one.
-/

namespace ApiGateway.IpValidation

open Regexes RegularExpression

section Validation

/-- White space and line ends as the script's language trims them. -/
def isStrWhiteSpace (character : Char) : Bool :=
  let code := character.toNat
  (9 ≤ code && code ≤ 13) || code == 0x20 || code == 0xA0 || code == 0x1680 ||
    (0x2000 ≤ code && code ≤ 0x200A) || code == 0x2028 || code == 0x2029 || code == 0x202F ||
    code == 0x205F || code == 0x3000 || code == 0xFEFF

def trim (text : Text) : Text := Trimming.trim isStrWhiteSpace text

/-- Leading white space and a sign are skipped, and what follows the digits is not
read. -/
def parseInt (text : Text) : Option Int :=
  let body := text.dropWhile isStrWhiteSpace
  let unsigned := if body.head? = some '-' ∨ body.head? = some '+' then body.tail else body
  let digits := unsigned.takeWhile Char.isDigit
  if digits = [] then none
  else
    let magnitude : Int := Nat.ofDigitChars 10 digits 0
    some (if body.head? = some '-' then -magnitude else magnitude)

/-- 250 to 255, 200 to 249, or up to three digits of which the first of three is 0 or 1. -/
def octetRegex : RegularExpression Char :=
  char '2' * (char '5' * oneOf (charRange '0' '5')) +
    (char '2' * (oneOf (charRange '0' '4') * oneOf (charRange '0' '9')) +
      optional (oneOf ['0', '1']) *
        (oneOf (charRange '0' '9') * optional (oneOf (charRange '0' '9'))))

def ipv4Regex : RegularExpression Char :=
  octetRegex * (char '.' * (octetRegex * (char '.' * (octetRegex * (char '.' * octetRegex)))))

def isValidIPv4 (ip : Text) : Bool := ipv4Regex.rmatch ip

def isValidCIDR (cidr : Text) : Bool :=
  match Text.split '/' cidr with
  | [ip, mask] =>
    match parseInt mask with
    | none => false
    | some maskNum => if maskNum < 0 ∨ 32 < maskNum then false else isValidIPv4 ip
  | _ => false

inductive IPType where
  | ipv4
  | cidr
  | invalid
deriving DecidableEq

structure Validation where
  isValid : Bool
  type : IPType
  error : Option Text
deriving DecidableEq

def validateIPInput (input : Text) : Validation :=
  let trimmed := trim input
  if trimmed = [] then ⟨false, .invalid, some "IP address cannot be empty".toList⟩
  else if isValidIPv4 trimmed then ⟨true, .ipv4, none⟩
  else if isValidCIDR trimmed then ⟨true, .cidr, none⟩
  else ⟨false, .invalid,
    some "Invalid IP address or CIDR notation (e.g., 192.168.1.1 or 192.168.1.0/24)".toList⟩

end Validation

section Grammar

/-- One to three decimal digits of value at most 255. -/
structure Octet (text : Text) : Prop where
  nonempty : text ≠ []
  short : text.length ≤ 3
  digits : ∀ character ∈ text, character.isDigit = true
  bounded : Nat.ofDigitChars 10 text 0 ≤ 255

/-- Four octets with dots between them. -/
def Address (text : Text) : Prop :=
  ∃ first second third fourth, Octet first ∧ Octet second ∧ Octet third ∧ Octet fourth ∧
    text = first ++ '.' :: (second ++ '.' :: (third ++ '.' :: fourth))

/-- Decimal digits of value at most 32. -/
structure PrefixLength (text : Text) : Prop where
  nonempty : text ≠ []
  digits : ∀ character ∈ text, character.isDigit = true
  bounded : Nat.ofDigitChars 10 text 0 ≤ 32

/-- An address with a prefix length. -/
def Block (text : Text) : Prop :=
  ∃ ip mask, text = ip ++ '/' :: mask ∧ Address ip ∧ PrefixLength mask

/-- An input is valid exactly if it is an address, with a prefix length or without, and
it is a block exactly if there is one. -/
def AcceptsGrammar (input : Text) : Prop :=
  ((validateIPInput input).isValid = true ↔ Address (trim input) ∨ Block (trim input)) ∧
    ((validateIPInput input).type = .cidr ↔ Block (trim input))

/-- The parser reads a number from 0 to 32. -/
def MaskTaken (mask : Text) : Prop :=
  ∃ maskNum, parseInt mask = some maskNum ∧ 0 ≤ maskNum ∧ maskNum ≤ 32

end Grammar

section Octets

variable {text : Text}

theorem isDigit_iff (character : Char) :
    character.isDigit = true ↔ 48 ≤ character.toNat ∧ character.toNat ≤ 57 := by
  rw [Char.isDigit, Bool.and_eq_true, decide_eq_true_eq, decide_eq_true_eq]
  rfl

theorem mem_digits_iff (character : Char) :
    character ∈ charRange '0' '9' ↔ character.isDigit = true := by
  rw [mem_charRange_iff (by decide), isDigit_iff]
  rfl

/-- What the alternatives of an octet match, character by character. -/
theorem octetRegex_rmatch_iff :
    octetRegex.rmatch text = true ↔
      (∃ last ∈ charRange '0' '5', text = ['2', '5', last]) ∨
        (∃ middle ∈ charRange '0' '4', ∃ last ∈ charRange '0' '9', text = ['2', middle, last]) ∨
        (∃ lead ∈ ['0', '1'], ∃ middle ∈ charRange '0' '9', text = [lead, middle] ∨
          ∃ last ∈ charRange '0' '9', text = [lead, middle, last]) ∨
        ∃ middle ∈ charRange '0' '9', text = [middle] ∨
          ∃ last ∈ charRange '0' '9', text = [middle, last] := by
  have tail : ∀ rest : Text, (optional (oneOf (charRange '0' '9'))).rmatch rest = true ↔
      rest = [] ∨ ∃ last ∈ charRange '0' '9', rest = [last] := by
    intro rest
    rw [optional_rmatch_iff, oneOf_rmatch_iff, or_comm]
  rw [octetRegex, add_rmatch_iff, add_rmatch_iff, optional_mul_rmatch_iff]
  simp only [char_mul_rmatch_iff, oneOf_mul_rmatch_iff, oneOf_rmatch_iff, tail]
  constructor
  · rintro (⟨_, rfl, _, rfl, last, member, rfl⟩ | ⟨_, rfl, middle, inner, _, rfl, last, member, rfl⟩ |
      ⟨lead, first, _, rfl, middle, inner, rest, rfl, rfl | ⟨last, member, rfl⟩⟩ |
      ⟨middle, inner, rest, rfl, rfl | ⟨last, member, rfl⟩⟩)
    · exact Or.inl ⟨last, member, rfl⟩
    · exact Or.inr (Or.inl ⟨middle, inner, last, member, rfl⟩)
    · exact Or.inr (Or.inr (Or.inl ⟨lead, first, middle, inner, Or.inl rfl⟩))
    · exact Or.inr (Or.inr (Or.inl ⟨lead, first, middle, inner, Or.inr ⟨last, member, rfl⟩⟩))
    · exact Or.inr (Or.inr (Or.inr ⟨middle, inner, Or.inl rfl⟩))
    · exact Or.inr (Or.inr (Or.inr ⟨middle, inner, Or.inr ⟨last, member, rfl⟩⟩))
  · rintro (⟨last, member, rfl⟩ | ⟨middle, inner, last, member, rfl⟩ |
      ⟨lead, first, middle, inner, rfl | ⟨last, member, rfl⟩⟩ |
      ⟨middle, inner, rfl | ⟨last, member, rfl⟩⟩)
    · exact Or.inl ⟨_, rfl, _, rfl, last, member, rfl⟩
    · exact Or.inr (Or.inl ⟨_, rfl, middle, inner, _, rfl, last, member, rfl⟩)
    · exact Or.inr (Or.inr (Or.inl ⟨lead, first, _, rfl, middle, inner, _, rfl, Or.inl rfl⟩))
    · exact Or.inr (Or.inr (Or.inl
        ⟨lead, first, _, rfl, middle, inner, _, rfl, Or.inr ⟨last, member, rfl⟩⟩))
    · exact Or.inr (Or.inr (Or.inr ⟨middle, inner, _, rfl, Or.inl rfl⟩))
    · exact Or.inr (Or.inr (Or.inr ⟨middle, inner, _, rfl, Or.inr ⟨last, member, rfl⟩⟩))

theorem octet_one {last : Char} (digit : last.isDigit = true) : Octet [last] where
  nonempty := by simp
  short := by simp
  digits := by simpa using digit
  bounded := by
    rw [isDigit_iff] at digit
    simp [Nat.ofDigitChars]
    omega

theorem octet_two {middle last : Char} (tens : middle.isDigit = true) (digit : last.isDigit = true) :
    Octet [middle, last] where
  nonempty := by simp
  short := by simp
  digits := by simp [tens, digit]
  bounded := by
    rw [isDigit_iff] at tens digit
    simp [Nat.ofDigitChars]
    omega

theorem octet_three_iff {lead middle last : Char} :
    Octet [lead, middle, last] ↔
      lead.isDigit = true ∧ middle.isDigit = true ∧ last.isDigit = true ∧
        100 * (lead.toNat - 48) + 10 * (middle.toNat - 48) + (last.toNat - 48) ≤ 255 := by
  have value : Nat.ofDigitChars 10 [lead, middle, last] 0 =
      100 * (lead.toNat - 48) + 10 * (middle.toNat - 48) + (last.toNat - 48) := by
    simp [Nat.ofDigitChars]
    omega
  constructor
  · rintro ⟨_, _, digits, bounded⟩
    rw [value] at bounded
    exact ⟨digits lead (by simp), digits middle (by simp), digits last (by simp), bounded⟩
  · rintro ⟨hundreds, tens, digit, bounded⟩
    exact ⟨by simp, by simp, by simp [hundreds, tens, digit], by rwa [value]⟩

theorem eq_of_toNat {character other : Char} (same : character.toNat = other.toNat) :
    character = other := by
  rw [← Char.ofNat_toNat character, same, Char.ofNat_toNat]

theorem lead_small {lead : Char} (member : lead ∈ ['0', '1']) :
    lead.isDigit = true ∧ lead.toNat ≤ 49 := by
  rcases List.mem_pair.mp member with rfl | rfl
  · decide
  · decide

/-- Of the three-digit texts the alternatives match those of value at most 255. -/
theorem octet_alternatives {lead middle last : Char} (octet : Octet [lead, middle, last]) :
    octetRegex.rmatch [lead, middle, last] = true := by
  obtain ⟨hundreds, tens, digit, bounded⟩ := octet_three_iff.mp octet
  rw [octetRegex_rmatch_iff]
  rw [isDigit_iff] at hundreds
  by_cases two : lead.toNat = 50
  · obtain rfl : lead = '2' := eq_of_toNat two
    rw [isDigit_iff] at tens
    by_cases five : middle.toNat = 53
    · obtain rfl : middle = '5' := eq_of_toNat five
      left
      refine ⟨last, (mem_charRange_iff (by decide) last).mpr ?_, rfl⟩
      rw [isDigit_iff] at digit
      have bound : 100 * 2 + 10 * 5 + (last.toNat - 48) ≤ 255 := bounded
      exact ⟨digit.1, show last.toNat ≤ 53 by omega⟩
    · right; left
      refine ⟨middle, (mem_charRange_iff (by decide) middle).mpr ?_, last,
        (mem_digits_iff last).mpr digit, rfl⟩
      have bound : 100 * 2 + 10 * (middle.toNat - 48) + (last.toNat - 48) ≤ 255 := bounded
      exact ⟨tens.1, show middle.toNat ≤ 52 by omega⟩
  · right; right; left
    have small : lead ∈ ['0', '1'] := by
      by_cases zero : lead.toNat = 48
      · rw [show lead = '0' from eq_of_toNat zero]
        exact List.mem_cons_self
      · have one : lead.toNat = 49 := by omega
        rw [show lead = '1' from eq_of_toNat one]
        exact List.mem_cons_of_mem _ List.mem_cons_self
    exact ⟨lead, small, middle, (mem_digits_iff middle).mpr tens,
      Or.inr ⟨last, (mem_digits_iff last).mpr digit, rfl⟩⟩

/-- The expression matches exactly the octets. -/
theorem octetRegex_iff : octetRegex.rmatch text = true ↔ Octet text := by
  constructor
  · rw [octetRegex_rmatch_iff]
    rintro (⟨last, member, rfl⟩ | ⟨middle, inner, last, member, rfl⟩ |
      ⟨lead, first, middle, inner, rfl | ⟨last, member, rfl⟩⟩ |
      ⟨middle, inner, rfl | ⟨last, member, rfl⟩⟩)
    · rw [mem_charRange_iff (by decide)] at member
      have low : 48 ≤ last.toNat := member.1
      have high : last.toNat ≤ 53 := member.2
      refine octet_three_iff.mpr ⟨by decide, by decide, (isDigit_iff last).mpr (by omega), ?_⟩
      show 100 * 2 + 10 * 5 + (last.toNat - 48) ≤ 255
      omega
    · rw [mem_charRange_iff (by decide)] at inner
      rw [mem_digits_iff] at member
      have low : 48 ≤ middle.toNat := inner.1
      have high : middle.toNat ≤ 52 := inner.2
      refine octet_three_iff.mpr ⟨by decide, (isDigit_iff middle).mpr (by omega), member, ?_⟩
      rw [isDigit_iff] at member
      show 100 * 2 + 10 * (middle.toNat - 48) + (last.toNat - 48) ≤ 255
      omega
    · exact octet_two (lead_small first).1 ((mem_digits_iff middle).mp inner)
    · obtain ⟨digit, small⟩ := lead_small first
      rw [mem_digits_iff] at inner member
      refine octet_three_iff.mpr ⟨digit, inner, member, ?_⟩
      rw [isDigit_iff] at inner member
      omega
    · exact octet_one ((mem_digits_iff middle).mp inner)
    · exact octet_two ((mem_digits_iff middle).mp inner) ((mem_digits_iff last).mp member)
  · intro octet
    obtain ⟨nonempty, short, digits, bounded⟩ := octet
    rcases text with _ | ⟨lead, _ | ⟨middle, _ | ⟨last, _ | ⟨next, others⟩⟩⟩⟩
    · exact absurd rfl nonempty
    · rw [octetRegex_rmatch_iff]
      exact Or.inr (Or.inr (Or.inr ⟨lead, (mem_digits_iff lead).mpr (digits lead (by simp)),
        Or.inl rfl⟩))
    · rw [octetRegex_rmatch_iff]
      exact Or.inr (Or.inr (Or.inr ⟨lead, (mem_digits_iff lead).mpr (digits lead (by simp)),
        Or.inr ⟨middle, (mem_digits_iff middle).mpr (digits middle (by simp)), rfl⟩⟩))
    · exact octet_alternatives ⟨nonempty, short, digits, bounded⟩
    · simp only [List.length_cons] at short
      omega

end Octets

section Addresses

variable {text : Text}

theorem isValidIPv4_iff : isValidIPv4 text = true ↔ Address text := by
  rw [isValidIPv4, ipv4Regex]
  simp only [mul_rmatch_iff octetRegex, char_mul_rmatch_iff, octetRegex_iff]
  constructor
  · rintro ⟨first, _, rfl, one, _, rfl, second, _, rfl, two, _, rfl, third, _, rfl, three, fourth,
      rfl, four⟩
    exact ⟨first, second, third, fourth, one, two, three, four, rfl⟩
  · rintro ⟨first, second, third, fourth, one, two, three, four, rfl⟩
    exact ⟨first, _, rfl, one, _, rfl, second, _, rfl, two, _, rfl, third, _, rfl, three, fourth,
      rfl, four⟩

theorem slash_not_mem_digits (digits : ∀ character ∈ text, character.isDigit = true) :
    '/' ∉ text := by
  intro member
  have digit := digits '/' member
  cases digit

theorem slash_not_mem_address (address : Address text) : '/' ∉ text := by
  obtain ⟨first, second, third, fourth, one, two, three, four, rfl⟩ := address
  simp [slash_not_mem_digits one.digits, slash_not_mem_digits two.digits,
    slash_not_mem_digits three.digits, slash_not_mem_digits four.digits]

theorem not_address_nil : ¬ Address [] := by
  rintro ⟨first, second, third, fourth, _, _, _, _, same⟩
  simp at same

/-- A text has two pieces exactly if it has one separator. -/
theorem split_pair_iff {separator : Char} {left right : Text} :
    Text.split separator text = [left, right] ↔
      text = left ++ separator :: right ∧ separator ∉ left ∧ separator ∉ right := by
  constructor
  · intro cut
    have joined := @List.intercalate_splitOn _ text _ _ separator
    rw [show text.splitOn separator = [left, right] from cut] at joined
    have whole : text = left ++ separator :: right := by
      rw [← joined]
      simp [List.intercalate_cons_cons]
    have pieces : left.splitOn separator ++ right.splitOn separator = [left, right] := by
      rw [← List.splitOn_append_cons_self, ← whole]
      exact cut
    have single : ∀ piece : Text, (piece.splitOn separator).length = 1 → separator ∉ piece := by
      intro piece one member
      obtain ⟨before, after, rfl⟩ := List.append_of_mem member
      rw [List.splitOn_append_cons_self, List.length_append] at one
      have former := List.length_pos_iff.mpr (List.splitOn_ne_nil separator before)
      have latter := List.length_pos_iff.mpr (List.splitOn_ne_nil separator after)
      omega
    have lengths := congrArg List.length pieces
    rw [List.length_append] at lengths
    have former := List.length_pos_iff.mpr (List.splitOn_ne_nil separator left)
    have latter := List.length_pos_iff.mpr (List.splitOn_ne_nil separator right)
    simp only [List.length_cons, List.length_nil] at lengths
    exact ⟨whole, single left (by omega), single right (by omega)⟩
  · rintro ⟨rfl, inLeft, inRight⟩
    rw [Text.split, List.splitOn_append_cons_self, List.splitOn_eq_singleton inLeft,
      List.splitOn_eq_singleton inRight]
    rfl

/-- A block as the code takes it: an address, a slash and a text that the parser reads a
prefix length off. -/
theorem isValidCIDR_iff : isValidCIDR text = true ↔
    ∃ ip mask, text = ip ++ '/' :: mask ∧ Address ip ∧ '/' ∉ mask ∧ MaskTaken mask := by
  rw [isValidCIDR]
  constructor
  · intro valid
    split at valid
    · next ip mask cut =>
      obtain ⟨whole, _, inMask⟩ := split_pair_iff.mp cut
      split at valid
      · cases valid
      · next maskNum parsed =>
        split at valid
        · cases valid
        · next bounds =>
          rw [not_or, Int.not_lt, Int.not_lt] at bounds
          exact ⟨ip, mask, whole, isValidIPv4_iff.mp valid, inMask, maskNum, parsed, bounds⟩
    · cases valid
  · rintro ⟨ip, mask, whole, address, inMask, maskNum, parsed, low, high⟩
    rw [split_pair_iff.mpr ⟨whole, slash_not_mem_address address, inMask⟩]
    have inside : ¬ (maskNum < 0 ∨ 32 < maskNum) := by omega
    simp only [parsed, if_neg inside]
    exact isValidIPv4_iff.mpr address

end Addresses

section Masks

variable {mask : Text}

/-- Digits are read whole. -/
theorem parseInt_digits (nonempty : mask ≠ [])
    (digits : ∀ character ∈ mask, character.isDigit = true) :
    parseInt mask = some (Nat.ofDigitChars 10 mask 0 : Int) := by
  obtain ⟨first, rest, rfl⟩ := List.exists_cons_of_ne_nil nonempty
  have digit := (isDigit_iff first).mp (digits first List.mem_cons_self)
  have visible : isStrWhiteSpace first = false := by
    simp [isStrWhiteSpace]
    omega
  have minus : first ≠ '-' := by
    rintro rfl
    exact absurd digit.1 (by decide)
  have plus : first ≠ '+' := by
    rintro rfl
    exact absurd digit.1 (by decide)
  have whole : (first :: rest).takeWhile Char.isDigit = first :: rest :=
    List.takeWhile_eq_self_iff.mpr digits
  simp [parseInt, visible, minus, plus, whole]

example : parseInt "024".toList = some 24 := by decide

theorem prefixLength_iff :
    PrefixLength mask ↔ (∀ character ∈ mask, character.isDigit = true) ∧ MaskTaken mask := by
  constructor
  · rintro ⟨nonempty, digits, bounded⟩
    exact ⟨digits, _, parseInt_digits nonempty digits, by omega, by omega⟩
  · rintro ⟨digits, maskNum, parsed, _, high⟩
    have nonempty : mask ≠ [] := by
      rintro rfl
      cases parsed
    rw [parseInt_digits nonempty digits] at parsed
    cases parsed
    exact ⟨nonempty, digits, by omega⟩

end Masks

section Inputs

variable {input : Text}

theorem not_address_of_slash {ip mask : Text} (whole : trim input = ip ++ '/' :: mask) :
    isValidIPv4 (trim input) = false := by
  rw [Bool.eq_false_iff]
  intro valid
  apply slash_not_mem_address (isValidIPv4_iff.mp valid)
  rw [whole]
  exact List.mem_append_right _ List.mem_cons_self

theorem validateIPInput_isValid :
    (validateIPInput input).isValid = true ↔
      Address (trim input) ∨ isValidCIDR (trim input) = true := by
  rw [validateIPInput, ← isValidIPv4_iff]
  by_cases empty : trim input = []
  · have noAddress : isValidIPv4 [] ≠ true := fun valid => not_address_nil (isValidIPv4_iff.mp valid)
    have noBlock : isValidCIDR [] ≠ true := by decide
    simp [empty, noAddress, noBlock]
  · rw [if_neg empty]
    by_cases address : isValidIPv4 (trim input) = true
    · simp [address]
    · by_cases block : isValidCIDR (trim input) = true
      · simp [address, block]
      · simp [address, block]

theorem validateIPInput_type :
    (validateIPInput input).type = .cidr ↔ isValidCIDR (trim input) = true := by
  rw [validateIPInput]
  by_cases empty : trim input = []
  · have noBlock : isValidCIDR [] ≠ true := by decide
    simp [empty, noBlock]
  · rw [if_neg empty]
    by_cases block : isValidCIDR (trim input) = true
    · obtain ⟨ip, mask, whole, _⟩ := isValidCIDR_iff.mp block
      simp [not_address_of_slash whole, block]
    · by_cases address : isValidIPv4 (trim input) = true
      · simp [address, block]
      · simp [address, block]

theorem block_isValidCIDR {text : Text} (block : Block text) : isValidCIDR text = true := by
  obtain ⟨ip, mask, whole, address, length⟩ := block
  obtain ⟨digits, taken⟩ := prefixLength_iff.mp length
  exact isValidCIDR_iff.mpr ⟨ip, mask, whole, address, slash_not_mem_digits digits, taken⟩

/-- An address and a text that is read as a prefix length but is not one. -/
def Misread (text : Text) : Prop :=
  ∃ ip mask, text = ip ++ '/' :: mask ∧ Address ip ∧ '/' ∉ mask ∧
    ¬ (∀ character ∈ mask, character.isDigit = true) ∧ MaskTaken mask

/-- A text that is misread is no block. -/
theorem not_block_of_misread {text : Text} (misread : Misread text) : ¬ Block text := by
  obtain ⟨ip, mask, whole, _, inMask, mixed, _⟩ := misread
  rintro ⟨other, length, same, _, plain⟩
  have cut := Text.cut_at_last (whole.symm.trans same) inMask (slash_not_mem_digits plain.digits)
  exact mixed (cut.2 ▸ plain.digits)

/-- A misread input is accepted as a block. -/
theorem misread_not_accepted (misread : Misread (trim input)) : ¬ AcceptsGrammar input := by
  rw [AcceptsGrammar, validateIPInput_type]
  rintro ⟨_, same⟩
  apply not_block_of_misread misread
  obtain ⟨ip, mask, whole, address, inMask, _, taken⟩ := misread
  exact same.mp (isValidCIDR_iff.mpr ⟨ip, mask, whole, address, inMask, taken⟩)

/-- What is taken as a block without being misread is one. -/
theorem isValidCIDR_iff_block {text : Text} (clear : ¬ Misread text) :
    isValidCIDR text = true ↔ Block text := by
  constructor
  · intro valid
    obtain ⟨ip, mask, whole, address, inMask, taken⟩ := isValidCIDR_iff.mp valid
    by_cases digits : ∀ character ∈ mask, character.isDigit = true
    · exact ⟨ip, mask, whole, address, prefixLength_iff.mpr ⟨digits, taken⟩⟩
    · exact absurd ⟨ip, mask, whole, address, inMask, digits, taken⟩ clear
  · exact block_isValidCIDR

end Inputs

/-- The validator accepts exactly its grammar, unless it reads a prefix length off a text
that is more than its digits. -/
theorem acceptsGrammar_iff (input : Text) : AcceptsGrammar input ↔ ¬ Misread (trim input) := by
  constructor
  · intro accepts misread
    exact misread_not_accepted misread accepts
  · intro clear
    rw [AcceptsGrammar, validateIPInput_isValid, validateIPInput_type, isValidCIDR_iff_block clear]
    exact ⟨Iff.rfl, Iff.rfl⟩

/-- A prefix length with letters behind it is taken as one. -/
theorem lettersBehindMask_accepted :
    (validateIPInput "10.0.0.0/24abc".toList).isValid = true ∧
      ¬ AcceptsGrammar "10.0.0.0/24abc".toList := by
  have trimmed : trim "10.0.0.0/24abc".toList = "10.0.0.0/24abc".toList := by decide
  have ten : Octet "10".toList :=
    ⟨by decide, by decide, List.all_eq_true.mp (by decide), by decide⟩
  have zero : Octet "0".toList :=
    ⟨by decide, by decide, List.all_eq_true.mp (by decide), by decide⟩
  have address : Address "10.0.0.0".toList :=
    ⟨"10".toList, "0".toList, "0".toList, "0".toList, ten, zero, zero, zero, rfl⟩
  have letters : ¬ ∀ character ∈ "24abc".toList, character.isDigit = true := by
    intro digits
    exact absurd (digits 'a' (by decide)) (by decide)
  have taken : MaskTaken "24abc".toList := ⟨24, by decide, by decide, by decide⟩
  constructor
  · rw [validateIPInput_isValid, trimmed, isValidCIDR_iff]
    exact Or.inr ⟨_, _, rfl, address, by decide, taken⟩
  · apply misread_not_accepted
    rw [trimmed]
    exact ⟨"10.0.0.0".toList, "24abc".toList, rfl, address, by decide, letters, taken⟩

end ApiGateway.IpValidation

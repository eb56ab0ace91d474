import Mathlib.Data.LawfulXor.Basic
import Mathlib.Data.List.Basic
import Mathlib.Data.UInt

/-!
# Block chaining

A block cipher permutes the blocks of one size under each key. Chaining encrypts a
list of blocks, each combined with the ciphertext of the block before it and the first
with an initial block. Bytes are padded to whole blocks beforehand, with bytes that say
how many were added.

Decryption undoes encryption. A block of plaintext depends on no more than its own
ciphertext and the ciphertext before it, so what is cut off in front or changed in the
initial block does not show further on.
-/

namespace ApiGateway.Chaining

universe u v

/-- A cipher of single blocks. -/
structure BlockCipher (Key : Type u) (Block : Type v) where
  encipher : Key → Block → Block
  decipher : Key → Block → Block
  decipher_encipher : ∀ key block, decipher key (encipher key block) = block

section Chains

variable {Key : Type u} {Block : Type v} [XorOp Block] (cipher : BlockCipher Key Block) (key : Key)

/-- Encrypt one block after another. -/
def chain : Block → List Block → List Block
  | _, [] => []
  | previous, block :: rest =>
    cipher.encipher key (previous ^^^ block) ::
      chain (cipher.encipher key (previous ^^^ block)) rest

/-- Decrypt one block after another. -/
def unchain : Block → List Block → List Block
  | _, [] => []
  | previous, enciphered :: rest =>
    (previous ^^^ cipher.decipher key enciphered) :: unchain enciphered rest

@[simp] theorem length_chain (initial : Block) (blocks : List Block) :
    (chain cipher key initial blocks).length = blocks.length := by
  induction blocks generalizing initial with
  | nil => rfl
  | cons block rest ih => simp [chain, ih]

@[simp] theorem length_unchain (initial : Block) (blocks : List Block) :
    (unchain cipher key initial blocks).length = blocks.length := by
  induction blocks generalizing initial with
  | nil => rfl
  | cons enciphered rest ih => simp [unchain, ih]

/-- From any block of ciphertext on, what comes before it is not needed. -/
theorem unchain_drop {initial boundary : Block} {blocks latter : List Block} {count : Nat}
    (dropped : (initial :: blocks).drop count = boundary :: latter) :
    (unchain cipher key initial blocks).drop count = unchain cipher key boundary latter := by
  induction count generalizing initial blocks with
  | zero =>
    obtain ⟨rfl, rfl⟩ := List.cons.inj dropped
    rfl
  | succ count ih =>
    cases blocks with
    | nil => cases count <;> cases dropped
    | cons enciphered rest => exact ih dropped

variable [Zero Block] [LawfulXor Block]

theorem unchain_chain (initial : Block) (blocks : List Block) :
    unchain cipher key initial (chain cipher key initial blocks) = blocks := by
  induction blocks generalizing initial with
  | nil => rfl
  | cons block rest ih =>
    rw [chain, unchain, cipher.decipher_encipher, xor_cancel_left, ih]

/-- A change of the initial block changes the first block alike, and no other. -/
theorem unchain_changed (mask initial first : Block) (rest : List Block) :
    unchain cipher key (mask ^^^ initial) (first :: rest) =
      (mask ^^^ (initial ^^^ cipher.decipher key first)) :: unchain cipher key first rest := by
  rw [unchain, xor_assoc]

end Chains

section Blocks

/-- The bytes of one block. -/
abbrev Block (size : Nat) := Vector UInt8 size

instance {size : Nat} : XorOp (Block size) := ⟨Vector.zipWith (· ^^^ ·)⟩

variable {size : Nat}

theorem getElem_xor (former latter : Block size) {index : Nat} (inside : index < size) :
    (former ^^^ latter)[index] = former[index] ^^^ latter[index] :=
  Vector.getElem_zipWith inside

instance : LawfulXor (Block size) where
  xor_assoc := by
    intro first second third
    ext index inside
    simp only [getElem_xor, xor_assoc]
  xor_self := by
    intro block
    ext index inside
    simp [getElem_xor]
  xor_zero := by
    intro block
    ext index inside
    simp [getElem_xor]
  xor_comm := by
    intro former latter
    apply Vector.ext
    intro index inside
    rw [getElem_xor, getElem_xor, LawfulXor.xor_comm]

/-- The block at the front of some bytes. -/
def blockAt (size : Nat) (bytes : List UInt8) : Block size :=
  Vector.ofFn (fun index => bytes.getD index 0)

/-- So many blocks from the front of some bytes. -/
def split (size : Nat) : Nat → List UInt8 → List (Block size)
  | 0, _ => []
  | count + 1, bytes => blockAt size bytes :: split size count (bytes.drop size)

/-- The bytes of blocks. -/
def join (blocks : List (Block size)) : List UInt8 := blocks.flatMap Vector.toList

theorem blockAt_append (block : Block size) (rest : List UInt8) :
    blockAt size (block.toList ++ rest) = block := by
  apply Vector.ext
  intro index inside
  have front : index < block.toList.length := by simpa using inside
  rw [blockAt, Vector.getElem_ofFn, List.getD_eq_getElem?_getD, List.getElem?_append_left front]
  simp [inside]

theorem toList_blockAt {bytes : List UInt8} (enough : size ≤ bytes.length) :
    (blockAt size bytes).toList = bytes.take size := by
  apply List.ext_getElem
  · simp [enough]
  · intro index first second
    have inside : index < bytes.length := Nat.lt_of_lt_of_le (by simpa using first) enough
    simp [blockAt, inside]

@[simp] theorem length_join (blocks : List (Block size)) :
    (join blocks).length = size * blocks.length := by
  induction blocks with
  | nil => rfl
  | cons block rest ih =>
    rw [join, List.flatMap_cons, List.length_append, Vector.length_toList, List.length_cons,
      Nat.mul_succ, Nat.add_comm]
    exact congrArg (· + size) ih

@[simp] theorem join_append (former latter : List (Block size)) :
    join (former ++ latter) = join former ++ join latter := List.flatMap_append

@[simp] theorem join_cons (block : Block size) (rest : List (Block size)) :
    join (block :: rest) = block.toList ++ join rest := rfl

theorem join_drop (blocks : List (Block size)) (count : Nat) :
    join (blocks.drop count) = (join blocks).drop (size * count) := by
  induction count generalizing blocks with
  | zero => rfl
  | succ count ih =>
    cases blocks with
    | nil => simp [join]
    | cons block rest =>
      have after : (block.toList ++ join rest).drop size = join rest := by
        simp
      rw [List.drop_succ_cons, ih, join_cons, Nat.mul_succ, Nat.add_comm, ← List.drop_drop, after]

theorem split_join (blocks : List (Block size)) : split size blocks.length (join blocks) = blocks := by
  induction blocks with
  | nil => rfl
  | cons block rest ih =>
    have after : (block.toList ++ join rest).drop size = join rest := by
      simp
    rw [List.length_cons, split, join_cons, blockAt_append, after, ih]

@[simp] theorem length_split (count : Nat) (bytes : List UInt8) :
    (split size count bytes).length = count := by
  induction count generalizing bytes with
  | zero => rfl
  | succ count ih => rw [split, List.length_cons, ih]

theorem join_split {count : Nat} {bytes : List UInt8} (whole : bytes.length = size * count) :
    join (split size count bytes) = bytes := by
  induction count generalizing bytes with
  | zero =>
    rw [Nat.mul_zero, List.length_eq_zero_iff] at whole
    rw [whole]
    rfl
  | succ count ih =>
    rw [Nat.mul_succ] at whole
    have enough : size ≤ bytes.length := by omega
    have rest : (bytes.drop size).length = size * count := by
      rw [List.length_drop]
      omega
    rw [split, join_cons, toList_blockAt enough, ih rest, List.take_append_drop]

/-- Bytes of whole blocks are those of some blocks. -/
theorem exists_blocks {count : Nat} {bytes : List UInt8} (whole : bytes.length = size * count) :
    ∃ blocks : List (Block size), blocks.length = count ∧ join blocks = bytes :=
  ⟨split size count bytes, length_split count bytes, join_split whole⟩

end Blocks

section Padding

/-- How many bytes complete the last block; an empty one counts as incomplete. -/
def missing (size : Nat) (bytes : List UInt8) : Nat := size - bytes.length % size

/-- Complete the last block with bytes that say how many they are. -/
def pad (size : Nat) (bytes : List UInt8) : List UInt8 :=
  bytes ++ List.replicate (missing size bytes) (UInt8.ofNat (missing size bytes))

/-- Take the added bytes away; none if they do not say how many they are. -/
def unpad (size : Nat) (bytes : List UInt8) : Option (List UInt8) :=
  match bytes.getLast? with
  | none => none
  | some last =>
    if 0 < last.toNat ∧ last.toNat ≤ size ∧ List.replicate last.toNat last <:+ bytes then
      some (bytes.take (bytes.length - last.toNat))
    else none

variable {size : Nat}

/-- Bytes are taken away exactly where they have been added to the rest. -/
theorem unpad_eq_some_iff (small : size < 256) {bytes plaintext : List UInt8} :
    unpad size bytes = some plaintext ↔
      ∃ count, 0 < count ∧ count ≤ size ∧
        bytes = plaintext ++ List.replicate count (UInt8.ofNat count) := by
  constructor
  · intro unpadded
    unfold unpad at unpadded
    split at unpadded
    · cases unpadded
    · next last _ =>
      split at unpadded
      · next accepted =>
        obtain ⟨positive, bounded, front, rfl⟩ := accepted
        have taken : (front ++ List.replicate last.toNat last).take
            ((front ++ List.replicate last.toNat last).length - last.toNat) = front := by
          simp
        rw [taken] at unpadded
        obtain rfl := Option.some.inj unpadded
        exact ⟨last.toNat, positive, bounded, by rw [UInt8.ofNat_toNat]⟩
      · cases unpadded
  · rintro ⟨count, positive, bounded, rfl⟩
    have value : (UInt8.ofNat count).toNat = count := by
      rw [UInt8.toNat_ofNat']
      omega
    have last : (plaintext ++ List.replicate count (UInt8.ofNat count)).getLast? =
        some (UInt8.ofNat count) := by
      rw [List.getLast?_append, List.getLast?_replicate, if_neg (Nat.ne_of_gt positive)]
      rfl
    unfold unpad
    rw [last]
    dsimp only
    rw [value, if_pos ⟨positive, bounded, List.suffix_append _ _⟩]
    simp

variable (positive : 0 < size) (bytes : List UInt8)
include positive

theorem missing_bounds : 0 < missing size bytes ∧ missing size bytes ≤ size := by
  have below := Nat.mod_lt bytes.length positive
  unfold missing
  omega

theorem length_pad : (pad size bytes).length = size * (bytes.length / size + 1) := by
  have below := Nat.mod_lt bytes.length positive
  have parts := Nat.div_add_mod bytes.length size
  rw [pad, List.length_append, List.length_replicate, missing, Nat.mul_succ]
  omega

theorem unpad_pad (small : size < 256) : unpad size (pad size bytes) = some bytes :=
  (unpad_eq_some_iff small).mpr
    ⟨missing size bytes, (missing_bounds positive bytes).1, (missing_bounds positive bytes).2, rfl⟩

end Padding

section Bytes

variable {Key : Type u} {size : Nat} (cipher : BlockCipher Key (Block size)) (key : Key)
  (initial : Block size)

/-- The bytes of an encrypted list of blocks. -/
def encryptBlocks (bytes : List UInt8) : List UInt8 :=
  join (chain cipher key initial (split size (bytes.length / size) bytes))

def decryptBlocks (bytes : List UInt8) : List UInt8 :=
  join (unchain cipher key initial (split size (bytes.length / size) bytes))

/-- Pad and encrypt. -/
def encrypt (plaintext : List UInt8) : List UInt8 :=
  encryptBlocks cipher key initial (pad size plaintext)

/-- Decrypt whole blocks and take the padding away. -/
def decrypt (ciphertext : List UInt8) : Option (List UInt8) :=
  if ciphertext.length % size = 0 then unpad size (decryptBlocks cipher key initial ciphertext)
  else none

/-- The initial block in front of the ciphertext. -/
def encryptFramed (plaintext : List UInt8) : List UInt8 :=
  initial.toList ++ encrypt cipher key initial plaintext

/-- Decrypt what an initial block is in front of. -/
def decryptFramed (framed : List UInt8) : Option (List UInt8) :=
  if size ≤ framed.length then decrypt cipher key (blockAt size framed) (framed.drop size) else none

/-- Combine the first block with a mask. -/
def change (mask : Block size) (bytes : List UInt8) : List UInt8 :=
  (mask ^^^ blockAt size bytes).toList ++ bytes.drop size

variable {cipher key initial} (positive : 0 < size)
include positive

theorem encryptBlocks_join (blocks : List (Block size)) :
    encryptBlocks cipher key initial (join blocks) = join (chain cipher key initial blocks) := by
  rw [encryptBlocks, length_join, Nat.mul_div_cancel_left _ positive, split_join]

theorem decryptBlocks_join (blocks : List (Block size)) :
    decryptBlocks cipher key initial (join blocks) = join (unchain cipher key initial blocks) := by
  rw [decryptBlocks, length_join, Nat.mul_div_cancel_left _ positive, split_join]

theorem decrypt_join (blocks : List (Block size)) :
    decrypt cipher key initial (join blocks) =
      unpad size (join (unchain cipher key initial blocks)) := by
  rw [decrypt, length_join, Nat.mul_mod_right, if_pos rfl, decryptBlocks_join positive]

theorem length_encrypt (plaintext : List UInt8) :
    (encrypt cipher key initial plaintext).length = size * (plaintext.length / size + 1) := by
  obtain ⟨blocks, count, joined⟩ := exists_blocks (length_pad positive plaintext)
  rw [encrypt, ← joined, encryptBlocks_join positive, length_join, length_chain, count]

theorem decrypt_encrypt (small : size < 256) (plaintext : List UInt8) :
    decrypt cipher key initial (encrypt cipher key initial plaintext) = some plaintext := by
  obtain ⟨blocks, _, joined⟩ := exists_blocks (length_pad positive plaintext)
  rw [encrypt, ← joined, encryptBlocks_join positive, decrypt_join positive, unchain_chain, joined,
    unpad_pad positive plaintext small]

/-- Only whole blocks decrypt. -/
theorem blocks_of_decrypt {ciphertext plaintext : List UInt8}
    (opened : decrypt cipher key initial ciphertext = some plaintext) :
    ∃ blocks : List (Block size), ciphertext = join blocks ∧
      unpad size (join (unchain cipher key initial blocks)) = some plaintext := by
  by_cases whole : ciphertext.length % size = 0
  · have multiple : ciphertext.length = size * (ciphertext.length / size) :=
      (Nat.mul_div_cancel' (Nat.dvd_of_mod_eq_zero whole)).symm
    obtain ⟨blocks, _, rfl⟩ := exists_blocks multiple
    exact ⟨blocks, rfl, decrypt_join positive blocks ▸ opened⟩
  · rw [decrypt, if_neg whole] at opened
    cases opened

theorem decryptFramed_join (blocks : List (Block size)) :
    decryptFramed cipher key (join (initial :: blocks)) =
      unpad size (join (unchain cipher key initial blocks)) := by
  have enough : size ≤ (initial.toList ++ join blocks).length := by
    simp
  have after : (initial.toList ++ join blocks).drop size = join blocks := by
    simp
  rw [decryptFramed, join_cons, if_pos enough, blockAt_append, after, decrypt_join positive]

theorem decryptFramed_encryptFramed (small : size < 256) (plaintext : List UInt8) :
    decryptFramed cipher key (encryptFramed cipher key initial plaintext) = some plaintext := by
  have enough : size ≤ (encryptFramed cipher key initial plaintext).length := by
    simp [encryptFramed]
  have after : (encryptFramed cipher key initial plaintext).drop size =
      encrypt cipher key initial plaintext := by
    simp [encryptFramed]
  rw [decryptFramed, if_pos enough, after, encryptFramed, blockAt_append,
    decrypt_encrypt positive small]

/-- What decrypts has an initial block in front of whole blocks. -/
theorem blocks_of_decryptFramed {framed plaintext : List UInt8}
    (opened : decryptFramed cipher key framed = some plaintext) :
    ∃ (initial : Block size) (blocks : List (Block size)), framed = join (initial :: blocks) ∧
      unpad size (join (unchain cipher key initial blocks)) = some plaintext := by
  by_cases enough : size ≤ framed.length
  · rw [decryptFramed, if_pos enough] at opened
    obtain ⟨blocks, rest, unpadded⟩ := blocks_of_decrypt positive opened
    refine ⟨blockAt size framed, blocks, ?_, unpadded⟩
    rw [join_cons, ← rest, toList_blockAt enough, List.take_append_drop]
  · rw [decryptFramed, if_neg enough] at opened
    cases opened

/-- There is a block of ciphertext. -/
theorem length_of_decryptFramed (small : size < 256) {framed plaintext : List UInt8}
    (opened : decryptFramed cipher key framed = some plaintext) : size < framed.length := by
  obtain ⟨initial, blocks, rfl, unpadded⟩ := blocks_of_decryptFramed positive opened
  obtain ⟨added, some_added, _, padded⟩ := (unpad_eq_some_iff small).mp unpadded
  have lengths := congrArg List.length padded
  rw [length_join, length_unchain, List.length_append, List.length_replicate] at lengths
  rw [join_cons, List.length_append, Vector.length_toList, length_join]
  omega

/-- Whole blocks that are cut off in front are missing in the plaintext, and nothing else
is. -/
theorem decryptFramed_cut (small : size < 256) {framed plaintext : List UInt8} {count : Nat}
    (opened : decryptFramed cipher key framed = some plaintext)
    (enough : size * count ≤ plaintext.length) :
    decryptFramed cipher key (framed.drop (size * count)) =
      some (plaintext.drop (size * count)) := by
  obtain ⟨initial, blocks, rfl, unpadded⟩ := blocks_of_decryptFramed positive opened
  obtain ⟨added, some_added, bounded, padded⟩ := (unpad_eq_some_iff small).mp unpadded
  have lengths := congrArg List.length padded
  rw [length_join, length_unchain, List.length_append, List.length_replicate] at lengths
  have inside : count < blocks.length := Nat.lt_of_mul_lt_mul_left (a := size) (by omega)
  obtain ⟨boundary, latter, dropped⟩ := List.exists_cons_of_ne_nil
    (by simp; omega : (initial :: blocks).drop count ≠ [])
  rw [← join_drop, dropped, decryptFramed_join positive, ← unchain_drop cipher key dropped, join_drop,
    padded, List.drop_append_of_le_length enough]
  exact (unpad_eq_some_iff small).mpr ⟨added, some_added, bounded, rfl⟩

/-- A changed initial block changes the first block of the plaintext alike. -/
theorem decryptFramed_change (small : size < 256) (mask : Block size) {framed plaintext : List UInt8}
    (opened : decryptFramed cipher key framed = some plaintext)
    (enough : size ≤ plaintext.length) :
    decryptFramed cipher key (change mask framed) = some (change mask plaintext) := by
  obtain ⟨initial, blocks, rfl, unpadded⟩ := blocks_of_decryptFramed positive opened
  obtain ⟨added, some_added, bounded, padded⟩ := (unpad_eq_some_iff small).mp unpadded
  cases blocks with
  | nil =>
    have lengths := congrArg List.length padded
    simp only [unchain, length_join, List.length_nil, List.length_append, List.length_replicate]
      at lengths
    omega
  | cons first rest =>
    rw [unchain, join_cons] at padded
    have front : blockAt size plaintext = initial ^^^ cipher.decipher key first := by
      have same := congrArg (blockAt size) padded
      rw [blockAt_append] at same
      rw [same]
      apply Vector.toList_inj.mp
      rw [toList_blockAt enough, toList_blockAt (by simp; omega), List.take_append_of_le_length enough]
    have back : join (unchain cipher key first rest) =
        plaintext.drop size ++ List.replicate added (UInt8.ofNat added) := by
      have same := congrArg (List.drop size) padded
      rwa [List.drop_append_of_le_length enough, List.drop_left' (Vector.length_toList)] at same
    have changed : change mask (join (initial :: first :: rest)) =
        join ((mask ^^^ initial) :: first :: rest) := by
      rw [change, join_cons, blockAt_append, List.drop_left' Vector.length_toList]
      rfl
    rw [changed, decryptFramed_join positive, unchain_changed, join_cons, back, ← List.append_assoc]
    exact (unpad_eq_some_iff small).mpr ⟨added, some_added, bounded, by rw [change, front]⟩

end Bytes

end ApiGateway.Chaining

import Mathlib.Data.List.Basic
import Mathlib.Data.Vector.Defs

/-!
# Block ciphers on byte strings

Cipher block chaining over an arbitrary block cipher, and the padding that fills a message up to whole blocks.  What one
pads to blocks of one size can be unpadded with another block size only if no more bytes are filled in than the second
size (`unpad_pad`).
-/

namespace WisdoverseCell

open List hiding Vector

variable {l bytes : List UInt8} {k : Nat}

structure BlockCipher (n : Nat) where
  encrypt : Vector UInt8 n → Vector UInt8 n
  decrypt : Vector UInt8 n → Vector UInt8 n
  decrypt_encrypt : ∀ block, decrypt (encrypt block) = block

variable {n : Nat}

/-! ### Blocks -/

theorem size_toArray_take (h : n ≤ l.length) : (l.take n).toArray.size = n := by
  simp [h]

def toBlocks (n : Nat) : Nat → List UInt8 → List (Vector UInt8 n)
  | 0, _ => []
  | k + 1, l => if h : n ≤ l.length then ⟨(l.take n).toArray, size_toArray_take h⟩ :: toBlocks n k (l.drop n) else []

def ofBlocks (blocks : List (Vector UInt8 n)) : List UInt8 := blocks.flatMap Vector.toList

theorem length_ofBlocks (blocks : List (Vector UInt8 n)) : (ofBlocks blocks).length = blocks.length * n := by
  simp [ofBlocks, length_flatMap]

theorem length_toBlocks (h : l.length = k * n) : (toBlocks n k l).length = k := by
  induction k generalizing l with
  | zero => rfl
  | succ k ih =>
    rw [Nat.succ_mul] at h
    have hr : (l.drop n).length = k * n := by
      rw [length_drop]
      omega
    rw [toBlocks, dif_pos (by omega), length_cons, ih hr]

theorem ofBlocks_toBlocks (h : l.length = k * n) : ofBlocks (toBlocks n k l) = l := by
  induction k generalizing l with
  | zero =>
    rw [Nat.zero_mul] at h
    rw [eq_nil_of_length_eq_zero h]
    rfl
  | succ k ih =>
    rw [Nat.succ_mul] at h
    have hr : (l.drop n).length = k * n := by
      rw [length_drop]
      omega
    have ht := ih hr
    rw [toBlocks, dif_pos (by omega)]
    unfold ofBlocks at ht ⊢
    rw [flatMap_cons, ht]
    exact take_append_drop n l

theorem toBlocks_ofBlocks (blocks) : toBlocks n blocks.length (ofBlocks blocks) = blocks := by
  induction blocks with
  | nil => rfl
  | cons b blocks ih =>
    have hb : b.toList.length = n := b.length_toList
    have hc : ofBlocks (b :: blocks) = b.toList ++ ofBlocks blocks := rfl
    rw [hc, length_cons, toBlocks, dif_pos (by rw [length_append]; omega), drop_left' hb, ih]
    refine congrArg (· :: blocks) (Vector.toList_inj.1 ?_)
    exact take_left' hb

/-! ### Chaining -/

def xorBlocks (a b : Vector UInt8 n) : Vector UInt8 n := a.zipWith (fun x y => x ^^^ y) b

theorem xorBlocks_xorBlocks (a b : Vector UInt8 n) : xorBlocks a (xorBlocks a b) = b := by
  refine Vector.ext (fun i hi => ?_)
  simp only [xorBlocks, Vector.getElem_zipWith, ← UInt8.xor_assoc, UInt8.xor_self, UInt8.zero_xor]

def BlockCipher.cbcEncrypt (c : BlockCipher n) : Vector UInt8 n → List (Vector UInt8 n) → List (Vector UInt8 n)
  | _, [] => []
  | iv, b :: blocks => c.encrypt (xorBlocks iv b) :: c.cbcEncrypt (c.encrypt (xorBlocks iv b)) blocks

def BlockCipher.cbcDecrypt (c : BlockCipher n) : Vector UInt8 n → List (Vector UInt8 n) → List (Vector UInt8 n)
  | _, [] => []
  | iv, b :: blocks => xorBlocks iv (c.decrypt b) :: c.cbcDecrypt b blocks

theorem BlockCipher.length_cbcEncrypt (c : BlockCipher n) (iv : Vector UInt8 n) (blocks) :
    (c.cbcEncrypt iv blocks).length = blocks.length := by
  induction blocks generalizing iv with
  | nil => rfl
  | cons b blocks ih => rw [cbcEncrypt, length_cons, ih, length_cons]

theorem BlockCipher.cbcDecrypt_cbcEncrypt (c : BlockCipher n) (iv : Vector UInt8 n) (blocks) :
    c.cbcDecrypt iv (c.cbcEncrypt iv blocks) = blocks := by
  induction blocks generalizing iv with
  | nil => rfl
  | cons b blocks ih => rw [cbcEncrypt, cbcDecrypt, c.decrypt_encrypt, xorBlocks_xorBlocks, ih]

def BlockCipher.encryptBytes (c : BlockCipher n) (iv : Vector UInt8 n) (bytes : List UInt8) : List UInt8 :=
  ofBlocks (c.cbcEncrypt iv (toBlocks n (bytes.length / n) bytes))

def BlockCipher.decryptBytes (c : BlockCipher n) (iv : Vector UInt8 n) (bytes : List UInt8) : Option (List UInt8) :=
  if bytes.length % n = 0 then some (ofBlocks (c.cbcDecrypt iv (toBlocks n (bytes.length / n) bytes))) else none

theorem BlockCipher.length_encryptBytes (c : BlockCipher n) (iv) (h : n ∣ bytes.length) :
    (c.encryptBytes iv bytes).length = bytes.length := by
  have hw := Nat.div_mul_cancel h
  rw [encryptBytes, length_ofBlocks, c.length_cbcEncrypt, length_toBlocks hw.symm, hw]

theorem BlockCipher.decryptBytes_encryptBytes (c : BlockCipher n) (iv) (h : n ∣ bytes.length) :
    c.decryptBytes iv (c.encryptBytes iv bytes) = some bytes := by
  have hw := (Nat.div_mul_cancel h).symm
  have hl : (c.cbcEncrypt iv (toBlocks n (bytes.length / n) bytes)).length = bytes.length / n := by
    rw [c.length_cbcEncrypt, length_toBlocks hw]
  have hb : toBlocks n (bytes.length / n) (c.encryptBytes iv bytes) =
      c.cbcEncrypt iv (toBlocks n (bytes.length / n) bytes) := by
    have hof := toBlocks_ofBlocks (c.cbcEncrypt iv (toBlocks n (bytes.length / n) bytes))
    rwa [hl] at hof
  unfold decryptBytes
  rw [c.length_encryptBytes iv h, if_pos (Nat.mod_eq_zero_of_dvd h), hb, c.cbcDecrypt_cbcEncrypt, ofBlocks_toBlocks hw]

/-! ### Padding -/

/-- How many bytes fill `length` bytes up to blocks of `size`: at least one, at most a block. -/
def padLength (size length : Nat) : Nat := size - length % size

def pad (size : Nat) (bytes : List UInt8) : List UInt8 :=
  bytes ++ replicate (padLength size bytes.length) (UInt8.ofNat (padLength size bytes.length))

/-- The last byte gives the length of the padding: at least one, at most a block of `size`, and all its bytes agree. -/
def unpad (size : Nat) (padded : List UInt8) : Option (List UInt8) :=
  match padded.getLast? with
  | none => none
  | some last =>
    if last = 0 ∨ size < last.toNat then none
    else if (padded.drop (padded.length - last.toNat)).all (· = last) then
      some (padded.take (padded.length - last.toNat))
    else none

section

variable {size : Nat} (hsize : 0 < size) (hbyte : size < 256) (bytes : List UInt8)

include hsize

theorem padLength_pos (length) : 0 < padLength size length := Nat.sub_pos_of_lt (Nat.mod_lt _ hsize)

theorem dvd_length_pad : size ∣ (pad size bytes).length := by
  have hm := Nat.mod_lt bytes.length hsize
  have hd := Nat.div_add_mod bytes.length size
  refine ⟨bytes.length / size + 1, ?_⟩
  rw [pad, length_append, length_replicate, padLength, Nat.mul_add]
  omega

theorem getLast?_pad : (pad size bytes).getLast? = some (UInt8.ofNat (padLength size bytes.length)) := by
  have hp := padLength_pos hsize bytes.length
  rw [pad, getLast?_append, getLast?_replicate, if_neg (Nat.pos_iff_ne_zero.1 hp)]
  rfl

include hbyte

theorem toNat_padLength (length) : (UInt8.ofNat (padLength size length)).toNat = padLength size length := by
  have hle : padLength size length ≤ size := Nat.sub_le _ _
  rw [UInt8.toNat_ofNat', Nat.mod_eq_of_lt (by omega)]

/-- What is padded to blocks of one size is unpadded with another if the padding is no longer than that. -/
theorem unpad_pad (size') :
    unpad size' (pad size bytes) = if padLength size bytes.length ≤ size' then some bytes else none := by
  have hp := padLength_pos hsize bytes.length
  have hnt := toNat_padLength hsize hbyte bytes.length
  have hl : (pad size bytes).length - padLength size bytes.length = bytes.length := by
    simp [pad]
  have hn : UInt8.ofNat (padLength size bytes.length) ≠ 0 := by
    intro hz
    rw [hz] at hnt
    exact Nat.pos_iff_ne_zero.1 hp hnt.symm
  unfold unpad
  rw [getLast?_pad hsize bytes]
  dsimp only
  rw [hnt, hl]
  split
  · rename_i hb
    exact (if_neg (Nat.not_le.2 (hb.resolve_left hn))).symm
  · rename_i hg
    rw [if_pos (Nat.not_lt.1 (fun h => hg (.inr h)))]
    simp [pad]

end

end WisdoverseCell

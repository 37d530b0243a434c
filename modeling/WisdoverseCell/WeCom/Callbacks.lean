import Mathlib.Algebra.Group.Nat.Defs
import WisdoverseCell.Library.Base64
import WisdoverseCell.Library.BlockMode

/-!
# The encrypted callbacks of WeCom

WeCom sends base64 text of an AES-256-CBC encryption, padded to a multiple of 32 bytes.  The gateway unpads with blocks
of 16, and the Python service takes up to 32 bytes of padding, so they agree exactly if at most 16 bytes are filled in
(`decoders_agree_iff`).
-/

namespace WisdoverseCell.WeCom

open Option
open List hiding Vector

/-- What both sides take from their libraries. -/
structure Primitives where
  aes : List UInt8 → BlockCipher 16
  replaceInvalid : List UInt8 → String

def utf8 (s : String) : List UInt8 := s.toUTF8.data.toList

def fromUtf8 (bytes : List UInt8) : Option String := String.fromUTF8? ⟨bytes.toArray⟩

private theorem fromUtf8_utf8 (s) : fromUtf8 (utf8 s) = some s := by
  have hb : (⟨(utf8 s).toArray⟩ : ByteArray) = s.toByteArray := rfl
  unfold fromUtf8
  rw [hb, String.fromUTF8?, dif_pos s.isValidUTF8]
  rfl

@[simp]
theorem length_utf8 (s) : (utf8 s).length = s.utf8ByteSize := by simp [utf8]

def Primitives.fromUtf8Lossy (prim : Primitives) (bytes : List UInt8) : String :=
  (fromUtf8 bytes).getD (prim.replaceInvalid bytes)

def fromBeBytes (bytes : List UInt8) : Nat := bytes.foldl (fun n b => n * 256 + b.toNat) 0

def keyIv (key : List UInt8) (h : 16 ≤ key.length) : Vector UInt8 16 := ⟨(key.take 16).toArray, size_toArray_take h⟩

/-! ### The gateway -/

inductive WecomCryptoError
  | invalidKeyLength
  | invalidAesKey
  | invalidBase64
  | ciphertextTooShort
  | decryptFailed
  | plaintextTooShort
  | invalidMessageLength
  | corpIdMismatch (got want : String)

structure WecomCrypto where
  corpId : String
  aesKey : List UInt8
  length_aesKey : aesKey.length = 32

def decodeEncodingAesKey (encodingAesKey : String) : Except WecomCryptoError (List UInt8) :=
  match Base64.decode true (encodingAesKey ++ "=").toList with
  | none => .error .invalidAesKey
  | some key => .ok key

def WecomCrypto.new (encodingAesKey corpId : String) : Except WecomCryptoError WecomCrypto :=
  if encodingAesKey.utf8ByteSize ≠ 43 then .error .invalidKeyLength
  else
    match decodeEncodingAesKey encodingAesKey with
    | .error e => .error e
    | .ok aesKey => if h : aesKey.length = 32 then .ok ⟨corpId, aesKey, h⟩ else .error .invalidAesKey

private theorem WecomCrypto.le_length_aesKey (self : WecomCrypto) : 16 ≤ self.aesKey.length := by
  rw [self.length_aesKey]
  decide

/-- `WecomCrypto::decrypt` of the gateway. -/
def WecomCrypto.decrypt (prim : Primitives) (self : WecomCrypto) (encrypted : String) :
    Except WecomCryptoError String :=
  match Base64.decode false encrypted.toList with
  | none => .error .invalidBase64
  | some cipherText =>
    if cipherText.length < 16 then .error .ciphertextTooShort
    else
      -- The unpadding looks at the last block, of 16 bytes.
      match ((prim.aes self.aesKey).decryptBytes (keyIv self.aesKey self.le_length_aesKey) cipherText).bind
        (unpad 16) with
      | none => .error .decryptFailed
      | some plain =>
        if plain.length < 20 then .error .plaintextTooShort
        else
          let msgLen := fromBeBytes ((plain.drop 16).take 4)
          if plain.length < 20 + msgLen then .error .invalidMessageLength
          else
            let corpId := prim.fromUtf8Lossy (plain.drop (20 + msgLen))
            if corpId ≠ self.corpId then .error (.corpIdMismatch corpId self.corpId)
            else .ok (prim.fromUtf8Lossy ((plain.drop 20).take msgLen))

/-! ### The service -/

structure ApiError where
  statusCode : Nat
  code : String
  message : String

inductive WecomError
  | api (error : ApiError)
  | unicodeDecodeError

def invalidEncodingAesKeyLength : WecomError :=
  .api ⟨503, "wecom.invalid_encoding_aes_key_length", "Invalid WeCom EncodingAESKey length"⟩

def invalidEncodingAesKey : WecomError := .api ⟨503, "wecom.invalid_encoding_aes_key", "Invalid WeCom EncodingAESKey"⟩

def invalidCiphertext : WecomError := .api ⟨403, "wecom.invalid_ciphertext", "Invalid WeCom ciphertext"⟩

def invalidPadding : WecomError := .api ⟨403, "wecom.invalid_padding", "Invalid WeCom padding"⟩

def invalidPayload : WecomError := .api ⟨403, "wecom.invalid_payload", "Invalid WeCom payload"⟩

def invalidMessageLength : WecomError := .api ⟨403, "wecom.invalid_message_length", "Invalid WeCom message length"⟩

def corpIdMismatch : WecomError := .api ⟨403, "wecom.corp_id_mismatch", "WeCom corp_id mismatch"⟩

private theorem le_length_of_keySize {key : List UInt8} (h : key.length = 16 ∨ key.length = 24 ∨ key.length = 32) :
    16 ≤ key.length := by omega

/-- The decryption before the unpadding; `none` is any exception. -/
def decryptCbc (prim : Primitives) (aesKey : List UInt8) (encrypted : String) : Option (List UInt8) :=
  if h : aesKey.length = 16 ∨ aesKey.length = 24 ∨ aesKey.length = 32 then
    (Base64.b64decode encrypted.toList).bind ((prim.aes aesKey).decryptBytes (keyIv aesKey (le_length_of_keySize h)))
  else none

def readPlain (plain : List UInt8) (corpId : String) : Except WecomError String :=
  if plain.length < 20 then .error invalidPayload
  else
    let msgLen := fromBeBytes ((plain.drop 16).take 4)
    if plain.length < 20 + msgLen then .error invalidMessageLength
    else
      match fromUtf8 (plain.drop (20 + msgLen)) with
      | none => .error .unicodeDecodeError
      | some actualCorpId =>
        if actualCorpId ≠ corpId then .error corpIdMismatch
        else
          match fromUtf8 ((plain.drop 20).take msgLen) with
          | none => .error .unicodeDecodeError
          | some msg => .ok msg

/-- `_decrypt_wecom_payload`. -/
def decryptWecomPayload (prim : Primitives) (encrypted encodingAesKey corpId : String) : Except WecomError String :=
  if encodingAesKey.length ≠ 43 then .error invalidEncodingAesKeyLength
  else
    match Base64.b64decode (encodingAesKey ++ "=").toList with
    | none => .error invalidEncodingAesKey
    | some aesKey =>
      match decryptCbc prim aesKey encrypted with
      | none => .error invalidCiphertext
      | some padded =>
        match padded.getLast? with
        | none => .error invalidCiphertext
        | some paddingLen =>
          if paddingLen.toNat < 1 ∨ 32 < paddingLen.toNat then .error invalidPadding
          else readPlain (padded.take (padded.length - paddingLen.toNat)) corpId

/-! ### What WeCom sends -/

/-- 43 characters of the base64 alphabet. -/
structure EncodingAesKey where
  text : String
  length : text.length = 43
  digits : ∀ c ∈ text.toList, (Base64.sextet c).isSome

/-- A text whose length fits into four bytes. -/
structure Message where
  text : String
  fits : text.utf8ByteSize < 2 ^ 32

def lengthBytes (n : Nat) : List UInt8 :=
  [UInt8.ofNat (n / 2 ^ 24), UInt8.ofNat (n / 2 ^ 16), UInt8.ofNat (n / 2 ^ 8), UInt8.ofNat n]

def frame (random : Vector UInt8 16) (message : Message) (corpId : String) : List UInt8 :=
  random.toList ++ lengthBytes message.text.utf8ByteSize ++ utf8 message.text ++ utf8 corpId

private theorem EncodingAesKey.exists_decode (key : EncodingAesKey) : ∃ bytes, bytes.length = 32 ∧
    Base64.decode true (key.text ++ "=").toList = some bytes ∧
    Base64.b64decode (key.text ++ "=").toList = some bytes := by
  have ht : (key.text ++ "=").toList = key.text.toList ++ ['='] := String.toList_append
  have hl : key.text.toList.length = 4 * 10 + 3 := key.length
  obtain ⟨bytes, hb, hd, ha2b⟩ := Base64.decode_pad hl key.digits
  have ha : ∀ c ∈ key.text.toList ++ ['='], c.toNat < 128 := by
    refine forall_mem_append.2 ⟨fun c hc => ?_, by simp⟩
    obtain ⟨n, hn⟩ := isSome_iff_exists.1 (key.digits c hc)
    exact Base64.ascii_of_sextet hn
  rw [ht]
  exact ⟨bytes, hb, hd, (Base64.b64decode_of_ascii ha).trans ha2b⟩

def EncodingAesKey.aesKey (key : EncodingAesKey) : List UInt8 :=
  (Base64.decode true (key.text ++ "=").toList).getD []

private theorem EncodingAesKey.decode_text (key : EncodingAesKey) :
    Base64.decode true (key.text ++ "=").toList = some key.aesKey := by
  obtain ⟨bytes, -, hd, -⟩ := key.exists_decode
  rw [aesKey, hd, getD_some]

private theorem EncodingAesKey.b64decode_text (key : EncodingAesKey) :
    Base64.b64decode (key.text ++ "=").toList = some key.aesKey := by
  obtain ⟨bytes, -, hd, hb64⟩ := key.exists_decode
  rw [hb64, ← hd, key.decode_text]

private theorem EncodingAesKey.length_aesKey (key : EncodingAesKey) : key.aesKey.length = 32 := by
  obtain ⟨bytes, hb, hd, -⟩ := key.exists_decode
  rw [aesKey, hd, getD_some, hb]

private theorem EncodingAesKey.le_length_aesKey (key : EncodingAesKey) : 16 ≤ key.aesKey.length := by
  rw [key.length_aesKey]
  decide

private theorem EncodingAesKey.utf8ByteSize_text (key : EncodingAesKey) : key.text.utf8ByteSize = 43 := by
  have hsize (c : Char) (hc : c ∈ key.text.toList) : (String.utf8EncodeChar c).length = 1 := by
    obtain ⟨n, hn⟩ := isSome_iff_exists.1 (key.digits c hc)
    have ha := Base64.ascii_of_sextet hn
    rw [String.length_utf8EncodeChar, Char.utf8Size_eq_one_iff]
    exact Nat.le_of_lt_succ ha
  have hs : key.text.toByteArray.size = key.text.toList.length := by
    rw [← String.utf8Encode_toList, utf8Encode]
    simp only [size_toByteArray, length_flatMap]
    rw [map_congr_left hsize]
    simp
  exact hs.trans key.length

/-- The text of the `Encrypt` element. -/
def encryptFrame (prim : Primitives) (key : EncodingAesKey) (random : Vector UInt8 16) (message : Message)
    (corpId : String) : String :=
  String.ofList (Base64.encode ((prim.aes key.aesKey).encryptBytes (keyIv key.aesKey key.le_length_aesKey)
    (pad 32 (frame random message corpId))))

/-! ### Decoding a frame -/

section

variable (random : Vector UInt8 16) (message : Message) (corpId : String)

private theorem length_frame :
    (frame random message corpId).length = 20 + message.text.utf8ByteSize + corpId.utf8ByteSize := by
  simp only [frame, length_append, Vector.length_toList, length_utf8, lengthBytes, length_cons, length_nil]

private theorem fromBeBytes_lengthBytes {n} (h : n < 2 ^ 32) : fromBeBytes (lengthBytes n) = n := by
  simp only [fromBeBytes, lengthBytes, foldl_cons, foldl_nil, UInt8.toNat_ofNat']
  omega

private theorem frame_length_field :
    fromBeBytes (((frame random message corpId).drop 16).take 4) = message.text.utf8ByteSize := by
  have hd : (frame random message corpId).drop 16 =
      lengthBytes message.text.utf8ByteSize ++ (utf8 message.text ++ utf8 corpId) := by
    rw [frame, append_assoc, append_assoc]
    exact drop_left' random.length_toList
  have ht : (lengthBytes message.text.utf8ByteSize ++ (utf8 message.text ++ utf8 corpId)).take 4 =
      lengthBytes message.text.utf8ByteSize := take_left' rfl
  rw [hd, ht]
  exact fromBeBytes_lengthBytes message.fits

private theorem frame_drop_header : (frame random message corpId).drop 20 = utf8 message.text ++ utf8 corpId := by
  rw [frame, append_assoc]
  refine drop_left' ?_
  rw [length_append, random.length_toList]
  rfl

private theorem frame_message :
    ((frame random message corpId).drop 20).take message.text.utf8ByteSize = utf8 message.text := by
  rw [frame_drop_header]
  exact take_left' (length_utf8 _)

private theorem frame_corpId : (frame random message corpId).drop (20 + message.text.utf8ByteSize) = utf8 corpId := by
  rw [← drop_drop, frame_drop_header]
  exact drop_left' (length_utf8 _)

private theorem readPlain_frame : readPlain (frame random message corpId) corpId = .ok message.text := by
  have hl := length_frame random message corpId
  unfold readPlain
  dsimp only
  rw [if_neg (by omega), frame_length_field, if_neg (by omega), frame_corpId, fromUtf8_utf8]
  dsimp only
  rw [if_neg (not_not.2 rfl), frame_message, fromUtf8_utf8]

end

section

variable (prim : Primitives) (key : EncodingAesKey) (random : Vector UInt8 16) (message : Message) (corpId : String)

private theorem dvd_length_padded : 16 ∣ (pad 32 (frame random message corpId)).length :=
  Nat.dvd_trans (by decide) (dvd_length_pad (by decide) (frame random message corpId))

private theorem decode_encryptFrame :
    ∃ cipherText, Base64.decode false (encryptFrame prim key random message corpId).toList =
      some cipherText ∧ Base64.b64decode (encryptFrame prim key random message corpId).toList = some cipherText ∧
    cipherText.length = (pad 32 (frame random message corpId)).length ∧
    (prim.aes key.aesKey).decryptBytes (keyIv key.aesKey key.le_length_aesKey) cipherText =
      some (pad 32 (frame random message corpId)) := by
  have hw := dvd_length_padded random message corpId
  refine ⟨_, ?_, ?_, BlockCipher.length_encryptBytes _ _ hw, BlockCipher.decryptBytes_encryptBytes _ _ hw⟩
  · rw [encryptFrame, String.toList_ofList, Base64.decode_encode]
  · rw [encryptFrame, String.toList_ofList, Base64.b64decode_encode]

private theorem decryptWecomPayload_encryptFrame :
    decryptWecomPayload prim (encryptFrame prim key random message corpId) key.text corpId = .ok message.text := by
  obtain ⟨cipherText, -, hb64, -, hd⟩ := decode_encryptFrame prim key random message corpId
  have hc : decryptCbc prim key.aesKey (encryptFrame prim key random message corpId) =
      some (pad 32 (frame random message corpId)) := by
    rw [decryptCbc, dif_pos (.inr (.inr key.length_aesKey)), hb64]
    exact hd
  have hps : 0 < padLength 32 (frame random message corpId).length := padLength_pos (by decide) _
  have hle : padLength 32 (frame random message corpId).length ≤ 32 := Nat.sub_le _ _
  have hp : (pad 32 (frame random message corpId)).take ((pad 32 (frame random message corpId)).length -
      padLength 32 (frame random message corpId).length) = frame random message corpId := by
    simp [pad]
  unfold decryptWecomPayload
  rw [if_neg (not_not.2 key.length), key.b64decode_text]
  dsimp only
  rw [hc]
  dsimp only
  rw [getLast?_pad (by decide)]
  dsimp only
  rw [toNat_padLength (by decide) (by decide), if_neg (by omega), hp, readPlain_frame]

private theorem new_encodingAesKey : WecomCrypto.new key.text corpId = .ok ⟨corpId, key.aesKey, key.length_aesKey⟩ := by
  unfold WecomCrypto.new decodeEncodingAesKey
  rw [if_neg (not_not.2 key.utf8ByteSize_text), key.decode_text]
  exact dif_pos key.length_aesKey

/-- The gateway decodes a callback if at most 16 bytes are filled in, and refuses it otherwise. -/
theorem decrypt_encryptFrame :
    WecomCrypto.decrypt prim ⟨corpId, key.aesKey, key.length_aesKey⟩ (encryptFrame prim key random message corpId) =
      if padLength 32 (frame random message corpId).length ≤ 16 then .ok message.text else .error .decryptFailed := by
  obtain ⟨cipherText, hd, -, hl, hdc⟩ := decode_encryptFrame prim key random message corpId
  have hln : 20 ≤ cipherText.length := by
    rw [hl, pad, length_append, length_frame]
    omega
  unfold WecomCrypto.decrypt
  rw [hd]
  dsimp only
  rw [if_neg (by omega), hdc, bind_some, unpad_pad (by decide) (by decide)]
  by_cases hp : padLength 32 (frame random message corpId).length ≤ 16
  · have hf := length_frame random message corpId
    rw [if_pos hp, if_pos hp]
    dsimp only
    rw [if_neg (by omega), frame_length_field, if_neg (by omega), frame_corpId, frame_message]
    simp [Primitives.fromUtf8Lossy, fromUtf8_utf8]
  · rw [if_neg hp, if_neg hp]

end

def gatewayDecrypt (prim : Primitives) (encrypted encodingAesKey corpId : String) : Except WecomCryptoError String :=
  (WecomCrypto.new encodingAesKey corpId).bind (fun crypto => crypto.decrypt prim encrypted)

/-- Both sides decode a callback to its message, the gateway exactly if at most half a block of 32 bytes is filled
in. -/
theorem decoders_agree_iff (prim : Primitives) (key : EncodingAesKey) (corpId : String) (message : Message)
    (random : Vector UInt8 16) :
    (gatewayDecrypt prim (encryptFrame prim key random message corpId) key.text corpId = .ok message.text ∧
        decryptWecomPayload prim (encryptFrame prim key random message corpId) key.text corpId = .ok message.text) ↔
      16 ≤ (20 + message.text.utf8ByteSize + corpId.utf8ByteSize) % 32 := by
  have hg : gatewayDecrypt prim (encryptFrame prim key random message corpId) key.text corpId =
      if padLength 32 (frame random message corpId).length ≤ 16 then .ok message.text else .error .decryptFailed := by
    rw [gatewayDecrypt, new_encodingAesKey]
    exact decrypt_encryptFrame prim key random message corpId
  rw [hg, decryptWecomPayload_encryptFrame, length_frame]
  unfold padLength
  split
  · rename_i hp
    exact iff_of_true ⟨rfl, rfl⟩ (by omega)
  · rename_i hp
    refine iff_of_false ?_ (by omega)
    rintro ⟨hok, -⟩
    cases hok

/-- A message of 5 bytes for `corp123` makes a frame of 32 bytes, to which 32 more are filled in. -/
theorem gateway_refuses_hello : ∃ (message : Message) (corpId : String), message.text = "hello" ∧ corpId = "corp123" ∧
    ∀ (prim : Primitives) (key : EncodingAesKey) (random : Vector UInt8 16),
      gatewayDecrypt prim (encryptFrame prim key random message corpId) key.text corpId = .error .decryptFailed ∧
        decryptWecomPayload prim (encryptFrame prim key random message corpId) key.text corpId = .ok message.text := by
  refine ⟨⟨"hello", by decide⟩, "corp123", rfl, rfl, fun prim key random => ⟨?_, ?_⟩⟩
  · rw [gatewayDecrypt, new_encodingAesKey]
    refine (decrypt_encryptFrame prim key random _ _).trans (if_neg ?_)
    rw [length_frame]
    decide
  · exact decryptWecomPayload_encryptFrame prim key random _ _

end WisdoverseCell.WeCom

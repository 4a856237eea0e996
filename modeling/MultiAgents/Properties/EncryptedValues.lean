import MultiAgents.Properties.ApiSample

/-!
# Values that are encrypted and decrypted

What was encrypted is decrypted to the same text, since the parts of an encrypted
value are hexadecimal and so are found again between the colons.  A text that
starts like an encrypted value is taken for one and not encrypted.
-/

namespace MultiAgents

/-- The digits of bytes in hexadecimal. -/
def isHex (text : String) : Bool :=
  text.toList.all fun char => char.isDigit || ('a' ≤ char && char ≤ 'f')

/-- What is known of the cipher: decryption inverts encryption, and the parts are
hexadecimal. -/
structure CryptoLibrary.Ideal (library : CryptoLibrary) : Prop where
  inverts : ∀ key iv plaintext authTag ciphertext,
    library.encrypt key iv plaintext = .ok (authTag, ciphertext) →
      library.decrypt key iv authTag ciphertext = .ok plaintext
  hex : ∀ key iv plaintext authTag ciphertext,
    library.encrypt key iv plaintext = .ok (authTag, ciphertext) →
      isHex authTag = true ∧ isHex ciphertext = true

theorem colon_not_mem_of_isHex {text : String} (hex : isHex text = true) : ':' ∉ text.toList := by
  intro membership
  have digit := List.all_eq_true.mp hex ':' membership
  exact absurd digit (by decide)

namespace CryptoService

variable {environment : CryptoEnvironment}

/-- The cipher can be used for a text, under the key of the process. -/
def Usable (environment : CryptoEnvironment) (iv plaintext : String) : Prop :=
  ∃ key parts, getEncryptionKey environment = .ok key ∧
    environment.library.encrypt key iv plaintext = .ok parts

theorem isEncrypted_format (iv authTag ciphertext : String) :
    isEncrypted (format iv authTag ciphertext) = true := by
  unfold isEncrypted format
  rw [List.isPrefixOf_iff_prefix]
  simp only [String.toList_append, List.append_assoc]
  exact List.prefix_append _ _

theorem splitOn_format {iv authTag ciphertext : String} (hexIv : isHex iv = true)
    (hexTag : isHex authTag = true) (hexText : isHex ciphertext = true) :
    ((format iv authTag ciphertext).toList.drop marker.length).splitOn ':' =
      [iv.toList, authTag.toList, ciphertext.toList] := by
  have body : (format iv authTag ciphertext).toList.drop marker.length =
      [':'].intercalate [iv.toList, authTag.toList, ciphertext.toList] := by
    unfold format
    rw [show marker.length = marker.toList.length from rfl]
    simp [String.toList_append, List.intercalate]
  rw [body]
  apply List.splitOn_intercalate
  · simp [colon_not_mem_of_isHex hexIv, colon_not_mem_of_isHex hexTag,
      colon_not_mem_of_isHex hexText]
  · simp

theorem encrypt_of_plain {iv plaintext : String} (nonempty : plaintext ≠ "")
    (unmarked : isEncrypted plaintext = false) {key authTag ciphertext : String}
    (keyed : getEncryptionKey environment = .ok key)
    (encrypted : environment.library.encrypt key iv plaintext = .ok (authTag, ciphertext)) :
    encrypt environment iv plaintext = .ok (format iv authTag ciphertext) := by
  unfold encrypt
  rw [if_neg (by simp [nonempty, unmarked]), keyed]
  change (environment.library.encrypt key iv plaintext >>= _) = _
  rw [encrypted]
  rfl

theorem decrypt_format (ideal : environment.library.Ideal) {key iv plaintext authTag
    ciphertext : String} (hexIv : isHex iv = true)
    (keyed : getEncryptionKey environment = .ok key)
    (encrypted : environment.library.encrypt key iv plaintext = .ok (authTag, ciphertext)) :
    decrypt environment (format iv authTag ciphertext) = .ok plaintext := by
  have marked := isEncrypted_format iv authTag ciphertext
  obtain ⟨hexTag, hexText⟩ := ideal.hex _ _ _ _ _ encrypted
  have parts : decryptParts environment (format iv authTag ciphertext) = .ok plaintext := by
    unfold decryptParts
    rw [splitOn_format hexIv hexTag hexText]
    simp only [String.ofList_toList, keyed]
    exact ideal.inverts _ _ _ _ _ encrypted
  unfold decrypt
  rw [if_neg, parts]
  rintro (empty | plain)
  · rw [empty] at marked
    cases marked
  · rw [marked] at plain
    cases plain

end CryptoService

open CryptoService in
/-- Every text that does not start like an encrypted value is decrypted to itself. -/
theorem decrypted_value_is_the_plaintext {environment : CryptoEnvironment}
    (ideal : environment.library.Ideal) {iv plaintext : String} (hexIv : isHex iv = true)
    (unmarked : isEncrypted plaintext = false)
    (usable : plaintext ≠ "" → Usable environment iv plaintext) :
    (encrypt environment iv plaintext >>= decrypt environment) = .ok plaintext := by
  by_cases empty : plaintext = ""
  · subst empty
    rfl
  · obtain ⟨key, ⟨authTag, ciphertext⟩, keyed, encrypted⟩ := usable empty
    rw [encrypt_of_plain empty unmarked keyed encrypted]
    exact decrypt_format ideal hexIv keyed encrypted

theorem ApiSample.encrypt_eq_ok {key iv plaintext authTag ciphertext : String}
    (encrypted : ApiSample.library.encrypt key iv plaintext = .ok (authTag, ciphertext)) :
    key = ApiSample.key ∧ iv = ApiSample.iv ∧ plaintext = "hunter2" ∧
      authTag = ApiSample.authTag ∧ ciphertext = "869dc893a59964" := by
  unfold ApiSample.library at encrypted
  dsimp only at encrypted
  split at encrypted
  · rename_i sample
    cases encrypted
    exact ⟨sample.1, sample.2.1, sample.2.2, rfl, rfl⟩
  · cases encrypted

theorem ApiSample.library_ideal : ApiSample.library.Ideal where
  inverts key iv plaintext authTag ciphertext encrypted := by
    obtain ⟨rfl, rfl, rfl, rfl, rfl⟩ := ApiSample.encrypt_eq_ok encrypted
    decide
  hex key iv plaintext authTag ciphertext encrypted := by
    obtain ⟨rfl, rfl, rfl, rfl, rfl⟩ := ApiSample.encrypt_eq_ok encrypted
    decide

theorem password_is_decrypted :
    (CryptoService.encrypt ApiSample.crypto ApiSample.iv "hunter2" >>=
      CryptoService.decrypt ApiSample.crypto) = .ok "hunter2" :=
  decrypted_value_is_the_plaintext ApiSample.library_ideal (by decide) (by decide) fun _ =>
    ⟨ApiSample.key, (ApiSample.authTag, "869dc893a59964"), by decide, by decide⟩

/-- A password that starts like an encrypted value cannot be decrypted, and one that is the
encryption of another is decrypted to that. -/
theorem marked_password_is_not_decrypted :
    (CryptoService.encrypt ApiSample.crypto ApiSample.iv "enc:hunter2" >>=
        CryptoService.decrypt ApiSample.crypto) =
      .error "Failed to decrypt value. Check ENV_ENCRYPTION_KEY." ∧
    (CryptoService.encrypt ApiSample.crypto ApiSample.iv
        (CryptoService.format ApiSample.iv ApiSample.authTag "869dc893a59964") >>=
      CryptoService.decrypt ApiSample.crypto) = .ok "hunter2" := by
  decide +kernel

end MultiAgents

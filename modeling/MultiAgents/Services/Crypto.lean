import Mathlib.Data.List.Basic

/-!
# Encrypted values

A value is encrypted with AES-256-GCM and stored as a text of four parts: a
marker, the random initialisation vector, the authentication tag and the
ciphertext, with colons between them.  The cipher itself is left open.
-/

namespace MultiAgents

/-- The cipher, and the functions that make keys.  Bytes are given in hexadecimal. -/
structure CryptoLibrary where
  encrypt : (key iv plaintext : String) → Except String (String × String)
  decrypt : (key iv authTag ciphertext : String) → Except String String
  fromBase64 : String → String
  scrypt : (password salt : String) → String

structure CryptoEnvironment where
  library : CryptoLibrary
  encryptionKey : Option String := none
  production : Bool := false

namespace CryptoService

def marker : String := "enc:"

def isEncrypted (value : String) : Bool := marker.toList.isPrefixOf value.toList

variable (environment : CryptoEnvironment)

/-- A key that is not set is made up outside of production. -/
def getEncryptionKey : Except String String :=
  match environment.encryptionKey.filter fun key => key != "" with
  | some key => .ok (environment.library.fromBase64 key)
  | none =>
      if environment.production then .error "ENV_ENCRYPTION_KEY is required in production!"
      else .ok (environment.library.scrypt "default-dev-encryption-key" "salt")

/-- The parts of an encrypted value in their format. -/
def format (iv authTag ciphertext : String) : String :=
  marker ++ iv ++ ":" ++ authTag ++ ":" ++ ciphertext

/-- What is empty or looks encrypted is returned as it is. -/
def encrypt (iv plaintext : String) : Except String String :=
  if plaintext = "" ∨ isEncrypted plaintext then .ok plaintext
  else do
    let key ← getEncryptionKey environment
    let (authTag, ciphertext) ← environment.library.encrypt key iv plaintext
    .ok (format iv authTag ciphertext)

def decryptParts (value : String) : Except String String :=
  match (value.toList.drop marker.length).splitOn ':' with
  | [iv, authTag, ciphertext] => do
      let key ← getEncryptionKey environment
      environment.library.decrypt key (String.ofList iv) (String.ofList authTag)
        (String.ofList ciphertext)
  | _ => .error "Invalid encrypted format: expected 3 parts"

/-- Values that are not encrypted are returned as they are; whatever goes wrong is one error. -/
def decrypt (value : String) : Except String String :=
  if value = "" ∨ !isEncrypted value then .ok value
  else match decryptParts environment value with
    | .ok plaintext => .ok plaintext
    | .error _ => .error "Failed to decrypt value. Check ENV_ENCRYPTION_KEY."

end CryptoService

end MultiAgents

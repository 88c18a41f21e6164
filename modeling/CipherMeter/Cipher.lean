import CipherMeter.Aes
import CipherMeter.Gcm

/-!
# AES-GCM

The cipher in two forms: `SizedCipher size`, whose key size is part of the type, and `Cipher`,
whose key size is that of the key it was made from. Both work on a copy (`encrypt`, `decrypt`) or
on the caller's buffer (`encryptInPlace`, `decryptInPlace`); a failed call leaves the buffer alone.
-/

namespace CipherMeter

open Aes (KeySize)

abbrev Nonce := Secret 12

namespace Nonce

def ofBytes (a : Bytes) : Except Fault Nonce :=
  if h : a.length = 12 then .ok ⟨a, h⟩ else .error (.invalidNonceLength 12 a.length)

def bits (iv : Nonce) : BitVec 96 := BitVec.ofNat 96 iv.toList.toNat

end Nonce

namespace Gcm

def plaintextLimit : Nat := 0x1000000000

def aadLimit : Nat := 0x1000000000

/-- The longest ciphertext in bytes that is looked at. -/
def ciphertextLimit : Nat := 0x1000000010

end Gcm

abbrev OnBuffer := ExceptT Fault (StateM Bytes)

structure SizedCipher (size : KeySize) where
  key : Secret size.length
  deriving DecidableEq

namespace SizedCipher

variable {size : KeySize}

def ofBytes (size : KeySize) (key : Bytes) : Except Fault (SizedCipher size) :=
  (Secret.ofBytes size.length key).map SizedCipher.mk

def schedule (c : SizedCipher size) : List Aes.State := Aes.schedule size c.key.toList

def encipher (c : SizedCipher size) (b : Block) : Block := Aes.encryptBlock c.schedule b

def encrypt (c : SizedCipher size) (iv : Nonce) (aad plaintext : Bytes) : Except Fault Sealed :=
  if Gcm.plaintextLimit < plaintext.length ∨ Gcm.aadLimit < aad.length then
    .error (.inputTooLong plaintext.length)
  else .ok (Gcm.encrypt (Aes.encryptBlock c.schedule) iv.bits aad plaintext)

def decrypt (c : SizedCipher size) (iv : Nonce) (aad ciphertext tag : Bytes) :
    Except Fault Bytes :=
  if Gcm.ciphertextLimit < ciphertext.length ∨ Gcm.aadLimit < aad.length then
    .error .authenticationFailure
  else
    match Gcm.decrypt? (Aes.encryptBlock c.schedule) iv.bits aad ciphertext tag with
    | some plaintext => .ok plaintext
    | none => .error .authenticationFailure

/-- Replaces the plaintext in the buffer by its ciphertext and returns the tag. -/
def encryptInPlace (c : SizedCipher size) (iv : Nonce) (aad : Bytes) : OnBuffer Tag := do
  let buffer ← get
  if Gcm.plaintextLimit < buffer.length ∨ Gcm.aadLimit < aad.length then
    throw (.inputTooLong buffer.length)
  let keys := c.schedule
  let ciphertext := Gcm.cover (Aes.encryptBlock keys) iv.bits buffer
  set ciphertext
  return Gcm.tag (Aes.encryptBlock keys) iv.bits aad ciphertext

/-- Replaces the ciphertext in the buffer by its plaintext, once the tag is found to be its own. -/
def decryptInPlace (c : SizedCipher size) (iv : Nonce) (aad tag : Bytes) : OnBuffer Unit := do
  let buffer ← get
  if Gcm.ciphertextLimit < buffer.length ∨ Gcm.aadLimit < aad.length then
    throw .authenticationFailure
  let keys := c.schedule
  if tag ≠ (Gcm.tag (Aes.encryptBlock keys) iv.bits aad buffer).val then
    throw .authenticationFailure
  set (Gcm.cover (Aes.encryptBlock keys) iv.bits buffer)

end SizedCipher

structure Cipher where
  size : KeySize
  sized : SizedCipher size

namespace Cipher

def ofBytes (key : Bytes) : Except Fault Cipher :=
  match h : KeySize.ofLength? key.length with
  | some size => .ok ⟨size, ⟨⟨key, KeySize.ofLength?_eq_some_iff.1 h⟩⟩⟩
  | none => .error (.invalidKeyLength key.length)

def nameOf : KeySize → String
  | .aes128 => "AES-128-GCM"
  | .aes192 => "AES-192-GCM"
  | .aes256 => "AES-256-GCM"

def name (c : Cipher) : String := nameOf c.size

def encipher (c : Cipher) (b : Block) : Block := c.sized.encipher b

def encrypt (c : Cipher) (iv : Nonce) (aad plaintext : Bytes) : Except Fault Sealed :=
  c.sized.encrypt iv aad plaintext

def decrypt (c : Cipher) (iv : Nonce) (aad ciphertext tag : Bytes) : Except Fault Bytes :=
  c.sized.decrypt iv aad ciphertext tag

def encryptInPlace (c : Cipher) (iv : Nonce) (aad : Bytes) : OnBuffer Tag :=
  c.sized.encryptInPlace iv aad

def decryptInPlace (c : Cipher) (iv : Nonce) (aad tag : Bytes) : OnBuffer Unit :=
  c.sized.decryptInPlace iv aad tag

end Cipher

end CipherMeter

import CipherMeter.Cipher

/-!
# Workspaces

A call encrypts or decrypts a buffer in place. A workspace is a buffer together with what the next
call on it needs: a cipher, a nonce, associated data and a tag. A step makes a call or changes one
of these; a step that fails changes nothing.
-/

namespace CipherMeter

inductive Call
  | encrypt (c : Cipher) (iv : Nonce) (aad : Bytes)
  | decrypt (c : Cipher) (iv : Nonce) (aad tag : Bytes)

namespace Call

/-- Encryption answers with its tag. -/
abbrev Answer := Except Fault (Option Tag)

def inPlace (a : Bytes) : Call → Answer × Bytes
  | encrypt c iv aad =>
    let (answer, b) := (c.encryptInPlace iv aad).run a
    (answer.map some, b)
  | decrypt c iv aad tag =>
    let (answer, b) := (c.decryptInPlace iv aad tag).run a
    (answer.map fun _ ↦ none, b)

end Call

structure Workspace where
  cipher : Cipher
  iv : Nonce
  aad : Bytes
  buffer : Bytes
  tag : Bytes

namespace Workspace

inductive Step
  | encrypt
  | decrypt
  | setBuffer (a : Bytes)
  | setTag (a : Bytes)
  | setAad (a : Bytes)
  | setNonce (a : Bytes)
  | setKey (a : Bytes)
  | flipBuffer (position : Nat) (mask : UInt8)
  | flipTag (position : Nat) (mask : UInt8)

/-- The tag of an encryption stays in the workspace. -/
def make (w : Workspace) (call : Call) : Except Fault Unit × Workspace :=
  match call.inPlace w.buffer with
  | (.ok (some tag), buffer) => (.ok (), { w with buffer, tag := tag.val })
  | (.ok none, buffer) => (.ok (), { w with buffer })
  | (.error fault, buffer) => (.error fault, { w with buffer })

def step (w : Workspace) : Step → Except Fault Unit × Workspace
  | .encrypt => w.make (.encrypt w.cipher w.iv w.aad)
  | .decrypt => w.make (.decrypt w.cipher w.iv w.aad w.tag)
  | .setBuffer a => (.ok (), { w with buffer := a })
  | .setTag a => (.ok (), { w with tag := a })
  | .setAad a => (.ok (), { w with aad := a })
  | .setNonce a =>
    match Nonce.ofBytes a with
    | .ok iv => (.ok (), { w with iv })
    | .error fault => (.error fault, w)
  | .setKey a =>
    match Cipher.ofBytes a with
    | .ok cipher => (.ok (), { w with cipher })
    | .error fault => (.error fault, w)
  | .flipBuffer position mask =>
    (.ok (), { w with buffer := w.buffer.modify position (· ^^^ mask) })
  | .flipTag position mask => (.ok (), { w with tag := w.tag.modify position (· ^^^ mask) })

end Workspace

end CipherMeter

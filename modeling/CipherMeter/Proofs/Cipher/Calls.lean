import CipherMeter.Cipher.Workspace
import CipherMeter.Proofs.Cipher.InPlace
import CipherMeter.Proofs.Cipher.Opening
import CipherMeter.Proofs.Except

/-!
Calls on one buffer, one after the other, each with a cipher, a nonce and associated data of its
own. Those that fail leave no trace, and the others do in place what they do on a copy. The steps of
a workspace follow them in this.
-/

namespace CipherMeter

namespace Call

/-- What the call answers and gives if it works on a copy. -/
def onCopy (a : Bytes) : Call → Except Fault (Option Tag × Bytes)
  | encrypt c iv aad => (c.encrypt iv aad a).map fun s ↦ (some s.tag, s.ciphertext)
  | decrypt c iv aad tag => (c.decrypt iv aad a tag).map fun p ↦ (none, p)

/-- The answers to calls that are made one after the other, and the buffer after them. -/
def makeAll : List Call → Bytes → List Answer × Bytes
  | [], a => ([], a)
  | call :: calls, a =>
    let (answer, b) := call.inPlace a
    let (answers, b) := makeAll calls b
    (answer :: answers, b)

/-- Those of the calls that succeed when they are made one after the other. -/
def accepted : List Call → Bytes → List Call
  | [], _ => []
  | call :: calls, a =>
    match call.inPlace a with
    | (.ok _, b) => call :: accepted calls b
    | (.error _, b) => accepted calls b

theorem inPlace_eq (call : Call) (a : Bytes) :
    call.inPlace a = match call.onCopy a with
      | .ok (tag, b) => (.ok tag, b)
      | .error fault => (.error fault, a) := by
  cases call with
  | encrypt c iv aad =>
    rw [inPlace, onCopy, Cipher.encryptInPlace, SizedCipher.run_encryptInPlace, Cipher.encrypt]
    cases c.sized.encrypt iv aad a <;> rfl
  | decrypt c iv aad tag =>
    rw [inPlace, onCopy, Cipher.decryptInPlace, SizedCipher.run_decryptInPlace, Cipher.decrypt]
    cases c.sized.decrypt iv aad a tag <;> rfl

theorem length_of_onCopy {call : Call} {a b : Bytes} {tag : Option Tag}
    (h : call.onCopy a = .ok (tag, b)) : b.length = a.length := by
  cases call with
  | encrypt c iv aad =>
    obtain ⟨s, hs, heq⟩ := (Except.map_eq_ok_iff ..).mp h
    cases heq
    exact c.sized.length_of_encrypt iv aad hs
  | decrypt c iv aad tag =>
    obtain ⟨p, hp, heq⟩ := (Except.map_eq_ok_iff ..).mp h
    cases heq
    have hopen := ((c.sized.decrypt_eq_ok_iff ..).mp hp).2
    obtain ⟨_, hsealed⟩ := (Gcm.decrypt?_eq_some_iff ..).mp hopen
    have hcover : Gcm.cover c.sized.encipher iv.bits b = a := congrArg Sealed.ciphertext hsealed
    rw [← hcover, Gcm.length_cover]

theorem length_inPlace (call : Call) (a : Bytes) : (call.inPlace a).2.length = a.length := by
  rw [inPlace_eq]
  cases h : call.onCopy a with
  | ok result => exact length_of_onCopy h
  | error fault => rfl

theorem length_makeAll (calls : List Call) (a : Bytes) :
    (makeAll calls a).2.length = a.length := by
  induction calls generalizing a with
  | nil => rfl
  | cons call calls ih => exact (ih (call.inPlace a).2).trans (call.length_inPlace a)

theorem makeAll_cons_of {call : Call} {a b : Bytes} {answer : Answer}
    (h : call.inPlace a = (answer, b)) (calls : List Call) :
    makeAll (call :: calls) a = (answer :: (makeAll calls b).1, (makeAll calls b).2) := by
  rw [makeAll, h]

theorem makeAll_append (calls₁ calls₂ : List Call) (a : Bytes) :
    makeAll (calls₁ ++ calls₂) a =
      ((makeAll calls₁ a).1 ++ (makeAll calls₂ (makeAll calls₁ a).2).1,
        (makeAll calls₂ (makeAll calls₁ a).2).2) := by
  induction calls₁ generalizing a with
  | nil => rfl
  | cons call calls₁ ih =>
    obtain ⟨answer, b, hcall⟩ : ∃ answer b, call.inPlace a = (answer, b) := ⟨_, _, rfl⟩
    rw [List.cons_append, makeAll_cons_of hcall, ih, makeAll_cons_of hcall, List.cons_append]

/-- The calls that fail can be left out: the others get the same answers, and the buffer is the
same at the end. -/
theorem makeAll_accepted (calls : List Call) (a : Bytes) :
    makeAll (accepted calls a) a =
      ((makeAll calls a).1.filter (·.isOk), (makeAll calls a).2) := by
  induction calls generalizing a with
  | nil => rfl
  | cons call calls ih =>
    have hcall := call.inPlace_eq a
    cases h : call.onCopy a with
    | ok result =>
      rw [h] at hcall
      rw [accepted, hcall, makeAll_cons_of hcall, makeAll_cons_of hcall, ih]
      rfl
    | error fault =>
      rw [h] at hcall
      rw [accepted, hcall, makeAll_cons_of hcall, ih]
      rfl

section

variable {c : Cipher} {iv : Nonce} {aad p : Bytes} {s : Sealed} (hs : c.encrypt iv aad p = .ok s)

include hs

/-- Attempts to decrypt with other tags are all refused, and the buffer keeps the ciphertext. -/
theorem makeAll_decrypt_of_ne (tags : List Bytes) (htags : ∀ t ∈ tags, t ≠ s.tag.val) :
    makeAll (tags.map (decrypt c iv aad)) s.ciphertext =
      (tags.map fun _ ↦ .error .authenticationFailure, s.ciphertext) := by
  induction tags with
  | nil => rfl
  | cons t tags ih =>
    obtain ⟨ht, htags⟩ := List.forall_mem_cons.mp htags
    have hcall : (decrypt c iv aad t).inPlace s.ciphertext =
        (.error .authenticationFailure, s.ciphertext) := by
      rw [inPlace_eq, onCopy, Cipher.decrypt, c.sized.decrypt_of_tag_ne iv aad hs ht]
      rfl
    rw [List.map_cons, makeAll_cons_of hcall, ih htags, List.map_cons]

/-- After any number of attempts with other tags the right one still gives the plaintext. -/
theorem makeAll_encrypt_decrypt (tags : List Bytes) (htags : ∀ t ∈ tags, t ≠ s.tag.val) :
    makeAll (encrypt c iv aad :: tags.map (decrypt c iv aad) ++ [decrypt c iv aad s.tag.val]) p =
      (.ok (some s.tag) :: (tags.map fun _ ↦ .error .authenticationFailure) ++ [.ok none], p) := by
  have hencrypt : (encrypt c iv aad).inPlace p = (.ok (some s.tag), s.ciphertext) := by
    rw [inPlace_eq, onCopy, hs]
    rfl
  have hdecrypt : (decrypt c iv aad s.tag.val).inPlace s.ciphertext = (.ok none, p) := by
    rw [inPlace_eq, onCopy, Cipher.decrypt, c.sized.decrypt_of_encrypt iv aad hs]
    rfl
  rw [List.cons_append, makeAll_cons_of hencrypt, makeAll_append,
    makeAll_decrypt_of_ne hs tags htags, makeAll_cons_of hdecrypt]
  rfl

end

/-- What the calls before and after a call do, given what the call itself does on a copy. One that
fails leaves the buffer alone and the calls after it do what they do without it; one that succeeds
leaves in the buffer, and answers with, what it gives on a copy. -/
def ActsAsOnCopy (before : List Call) (call : Call) (after : List Call) (a : Bytes) : Prop :=
  match call.onCopy (makeAll before a).2 with
  | .error fault =>
    (makeAll (before ++ [call]) a).2 = (makeAll before a).2 ∧
      ∃ answers b, makeAll (before ++ call :: after) a =
          ((makeAll before a).1 ++ .error fault :: answers, b) ∧
        makeAll (before ++ after) a = ((makeAll before a).1 ++ answers, b)
  | .ok (tag, b) =>
    (makeAll (before ++ [call]) a).2 = b ∧ makeAll (before ++ call :: after) a =
      ((makeAll before a).1 ++ .ok tag :: (makeAll after b).1, (makeAll after b).2)

theorem actsAsOnCopy (before : List Call) (call : Call) (after : List Call) (a : Bytes) :
    ActsAsOnCopy before call after a := by
  have hcall := call.inPlace_eq (makeAll before a).2
  unfold ActsAsOnCopy
  cases h : call.onCopy (makeAll before a).2 with
  | ok result =>
    rw [h] at hcall
    rw [makeAll_append, makeAll_append, makeAll_cons_of hcall, makeAll_cons_of hcall]
    exact ⟨rfl, rfl⟩
  | error fault =>
    rw [h] at hcall
    rw [makeAll_append, makeAll_append, makeAll_append, makeAll_cons_of hcall,
      makeAll_cons_of hcall]
    exact ⟨rfl, _, _, rfl, rfl⟩

/-- However many calls are made on a buffer, its length stays, those that fail leave no trace, and
the others do what they do on a copy. So a plaintext that was encrypted is brought back by its tag,
whatever other tags were tried before. -/
theorem calls_on_buffer (calls : List Call) (a : Bytes) :
    (makeAll calls a).2.length = a.length ∧
    makeAll (accepted calls a) a = ((makeAll calls a).1.filter (·.isOk), (makeAll calls a).2) ∧
    (∀ call after, ActsAsOnCopy calls call after a) ∧
    ∀ (c : Cipher) (iv : Nonce) (aad p : Bytes) (s : Sealed) (tags : List Bytes),
      c.encrypt iv aad p = .ok s → (∀ t ∈ tags, t ≠ s.tag.val) →
        makeAll (encrypt c iv aad :: tags.map (decrypt c iv aad) ++
            [decrypt c iv aad s.tag.val]) p =
          (.ok (some s.tag) :: (tags.map fun _ ↦ .error .authenticationFailure) ++ [.ok none],
            p) := by
  refine ⟨length_makeAll calls a, makeAll_accepted calls a, ?_, ?_⟩
  · intro call after
    exact actsAsOnCopy calls call after a
  · intro c iv aad p s tags hs htags
    exact makeAll_encrypt_decrypt hs tags htags

/-- One byte under a key of zeros, and three attempts to bring it back: without a tag, with a byte
too many and with its own tag. -/
theorem calls_on_buffer_zero_key : ∃ (c : Cipher) (iv : Nonce) (s : Sealed),
    Cipher.ofBytes (Bytes.zeros 16) = .ok c ∧ Nonce.ofBytes (Bytes.zeros 12) = .ok iv ∧
      c.encrypt iv [] [0x61] = .ok s ∧
      makeAll [encrypt c iv [], decrypt c iv [] [], decrypt c iv [] (s.tag.val ++ [0]),
          decrypt c iv [] s.tag.val] [0x61] =
        ([.ok (some s.tag), .error .authenticationFailure, .error .authenticationFailure, .ok none],
          [0x61]) := by
  have hc : Cipher.ofBytes (Bytes.zeros 16) = .ok ⟨.aes128, ⟨⟨Bytes.zeros 16, rfl⟩⟩⟩ :=
    Cipher.ofBytes_eq_ok rfl
  have hiv : Nonce.ofBytes (Bytes.zeros 12) = .ok ⟨Bytes.zeros 12, rfl⟩ := rfl
  generalize (⟨.aes128, ⟨⟨Bytes.zeros 16, rfl⟩⟩⟩ : Cipher) = c at hc
  generalize (⟨Bytes.zeros 12, rfl⟩ : Nonce) = iv at hiv
  obtain ⟨s, hs⟩ : ∃ s, c.encrypt iv [] [0x61] = .ok s :=
    ⟨_, (SizedCipher.encrypt_eq_ok_iff ..).mpr ⟨by decide, rfl⟩⟩
  have hlength := s.tag.property
  have htags : ∀ t ∈ [[], s.tag.val ++ [0]], t ≠ s.tag.val := by
    simp only [List.forall_mem_cons, List.not_mem_nil, false_imp_iff, implies_true, and_true]
    constructor
    · intro h
      rw [← h] at hlength
      cases hlength
    · intro h
      have hlengths := congrArg List.length h
      rw [List.length_append, List.length_singleton] at hlengths
      omega
  obtain ⟨-, -, -, htried⟩ := calls_on_buffer [] []
  exact ⟨c, iv, s, hc, hiv, hs, htried c iv [] [0x61] s _ hs htags⟩

end Call

namespace Workspace

theorem make_eq (w : Workspace) (call : Call) :
    w.make call = match call.onCopy w.buffer with
      | .ok (some tag, b) => (.ok (), { w with buffer := b, tag := tag.val })
      | .ok (none, b) => (.ok (), { w with buffer := b })
      | .error fault => (.error fault, w) := by
  rw [make, Call.inPlace_eq]
  cases call.onCopy w.buffer with
  | error fault => rfl
  | ok result =>
    obtain ⟨tag, b⟩ := result
    cases tag <;> rfl

theorem make_of_error {w : Workspace} {call : Call} {fault : Fault}
    (h : (w.make call).1 = .error fault) : (w.make call).2 = w := by
  rw [make_eq] at h ⊢
  cases hcopy : call.onCopy w.buffer with
  | error fault' => rfl
  | ok result =>
    obtain ⟨tag, b⟩ := result
    rw [hcopy] at h
    cases tag <;> cases h

/-- A step that fails leaves the buffer, the tag and all that the next call needs as they were. -/
theorem step_of_error {w : Workspace} {s : Step} {fault : Fault}
    (h : (w.step s).1 = .error fault) : (w.step s).2 = w := by
  cases s with
  | encrypt | decrypt => exact make_of_error h
  | setNonce a =>
    rw [step] at h ⊢
    cases hiv : Nonce.ofBytes a with
    | error fault' => rfl
    | ok iv =>
      rw [hiv] at h
      cases h
  | setKey a =>
    rw [step] at h ⊢
    cases hcipher : Cipher.ofBytes a with
    | error fault' => rfl
    | ok cipher =>
      rw [hcipher] at h
      cases h
  | setBuffer _ | setTag _ | setAad _ | flipBuffer _ _ | flipTag _ _ => cases h

theorem length_buffer_make (w : Workspace) (call : Call) :
    (w.make call).2.buffer.length = w.buffer.length := by
  rw [make_eq]
  cases h : call.onCopy w.buffer with
  | error fault => rfl
  | ok result =>
    obtain ⟨tag, b⟩ := result
    have hlength := Call.length_of_onCopy h
    cases tag <;> exact hlength

/-- Only giving a workspace another buffer can change the length of its buffer. -/
theorem length_buffer_step (w : Workspace) {s : Step} (h : ∀ a, s ≠ .setBuffer a) :
    (w.step s).2.buffer.length = w.buffer.length := by
  cases s with
  | encrypt | decrypt => exact length_buffer_make w _
  | setBuffer a => exact absurd rfl (h a)
  | setNonce a =>
    rw [step]
    cases Nonce.ofBytes a <;> rfl
  | setKey a =>
    rw [step]
    cases Cipher.ofBytes a <;> rfl
  | flipBuffer position mask => exact List.length_modify ..
  | setTag _ | setAad _ | flipTag _ _ => rfl

def run (w : Workspace) (steps : List Step) : Workspace := steps.foldl (fun w s ↦ (w.step s).2) w

theorem length_buffer_run (w : Workspace) (steps : List Step)
    (h : ∀ s ∈ steps, ∀ a, s ≠ .setBuffer a) :
    (w.run steps).buffer.length = w.buffer.length := by
  induction steps generalizing w with
  | nil => rfl
  | cons s steps ih =>
    obtain ⟨hs, hsteps⟩ := List.forall_mem_cons.mp h
    exact (ih (w.step s).2 hsteps).trans (length_buffer_step w hs)

end Workspace

end CipherMeter

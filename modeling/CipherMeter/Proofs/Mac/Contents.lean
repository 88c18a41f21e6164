import CipherMeter.Proofs.Mac.Draining

namespace CipherMeter

variable {ε : Type}

/-- The cause that an answer gives for a failure. -/
def ReadOutcome.failure? : ReadOutcome ε → Option ε
  | .failed e => some e
  | .bytes _ | .interrupted => none

namespace Reader

/-- The failure that ends the requests for `n` bytes, if it is not the end of the reader. -/
def failure? (n : ℕ) (r : Reader ε) : Option ε := (r.answers n).findSome? ReadOutcome.failure?

theorem failure?_eq (n : ℕ) (r : Reader ε) :
    r.failure? n = match r.read n with
      | (.bytes [], _) => none
      | (.bytes (_ :: _), rest) => rest.failure? n
      | (.interrupted, rest) => rest.failure? n
      | (.failed e, _) => some e := by
  rw [failure?, answers_eq]
  rcases r.read n with ⟨⟨- | ⟨b, a⟩⟩ | - | e, rest⟩ <;> rfl

/-- What a request for some bytes takes from the contents of a reader. -/
theorem contents_eq {n : ℕ} (hn : 0 < n) (r : Reader ε) :
    r.contents = match r.read n with
      | (.bytes [], _) => ([], .ok ())
      | (.bytes (b :: a), rest) => (b :: a ++ rest.contents.1, rest.contents.2)
      | (.interrupted, rest) => rest.contents
      | (.failed e, _) => ([], .error e) := by
  obtain ⟨n, rfl⟩ := Nat.exists_eq_succ_of_ne_zero (Nat.ne_of_gt hn)
  have hserve : ∀ (b : UInt8) (a c : Bytes), b :: a ++ c = b :: a.take n ++ (a.drop n ++ c) := by
    intro b a c
    rw [List.cons_append, List.cons_append, ← List.append_assoc, List.take_append_drop]
  obtain ⟨available, events, requests⟩ := r
  cases available with
  | cons b a => exact congrArg (·, (eventContents events).2) (hserve b a _)
  | nil =>
    rcases events with - | ⟨⟨- | ⟨b, a⟩⟩ | - | e, events⟩
    · rfl
    · rfl
    · exact congrArg (·, (eventContents events).2) (hserve b a _)
    · rfl
    · rfl

/-- Whatever the size of the requests, they bring out the contents. -/
theorem contents_eq_handedOut {n : ℕ} (hn : 0 < n) (r : Reader ε) :
    r.contents = (r.handedOut n, (r.failure? n).elim (.ok ()) .error) := by
  fun_induction answers n r with
  | case1 r rest h =>
    rw [contents_eq hn, handedOut_eq n r, failure?_eq n r, h]
    rfl
  | case2 r b a rest h ih =>
    rw [contents_eq hn, handedOut_eq n r, failure?_eq n r, h]
    dsimp only
    rw [ih]
  | case3 r rest h ih =>
    rw [contents_eq hn, handedOut_eq n r, failure?_eq n r, h]
    exact ih
  | case4 r e rest h =>
    rw [contents_eq hn, handedOut_eq n r, failure?_eq n r, h]
    rfl

theorem contents_ofBytes (a : Bytes) : (ofBytes a : Reader ε).contents = (a, .ok ()) := by
  cases a with
  | nil => rfl
  | cons b a => exact congrArg (·, Except.ok ()) (List.append_nil (b :: a))

theorem handedOut_ofBytes {n : ℕ} (hn : 0 < n) (a : Bytes) :
    (ofBytes a : Reader ε).handedOut n = a := by
  have h := contents_eq_handedOut hn (ofBytes a : Reader ε)
  rw [contents_ofBytes] at h
  exact (congrArg Prod.fst h).symm

theorem failure?_ofBytes {n : ℕ} (hn : 0 < n) (a : Bytes) :
    (ofBytes a : Reader ε).failure? n = none := by
  have h := congrArg Prod.snd (contents_eq_handedOut hn (ofBytes a : Reader ε))
  rw [contents_ofBytes] at h
  cases hfailure : (ofBytes a : Reader ε).failure? n with
  | none => rfl
  | some e =>
    rw [hfailure] at h
    cases h

end Reader

namespace Mac

/-- Absorbing a reader counts what it hands out, unless it fails. -/
theorem outcome_absorbFrom (chunk total : ℕ) (m : Mac) (r : Reader ε) :
    (absorbFrom chunk total m r).outcome = match r.failure? chunk with
      | some e => .error (.reader e)
      | none => .ok (total + (r.handedOut chunk).length) := by
  fun_induction absorbFrom chunk total m r with
  | case1 total m r rest h => rw [Reader.failure?_eq, Reader.handedOut_eq, h]; rfl
  | case2 total m r b a rest h ih =>
    rw [ih, Reader.failure?_eq chunk r, Reader.handedOut_eq chunk r, h]
    dsimp only
    rw [List.length_append, Nat.add_assoc]
  | case3 total m r rest h ih =>
    rw [ih, Reader.failure?_eq chunk r, Reader.handedOut_eq chunk r, h]
  | case4 total m r e rest h => rw [Reader.failure?_eq, h]

/-- What comes of absorbing a byte string is a matter of its length and of the chunk. -/
theorem outcome_absorb_ofBytes (memory : ℕ) (m : Mac) (a : Bytes) (chunk : ℕ) :
    (m.absorb memory (.ofBytes a : Reader ε) chunk).outcome =
      if chunk = 0 then .error .emptyChunk
      else if Bytes.addressLimit < chunk then .error (.chunkTooLarge chunk)
      else if memory < chunk then .error (.outOfMemory chunk)
      else .ok a.length := by
  unfold absorb
  by_cases hzero : chunk = 0
  · rw [if_pos hzero, if_pos hzero]
  · rw [if_neg hzero, if_neg hzero]
    split
    · rfl
    · split
      · rfl
      · have hpos : 0 < chunk := Nat.pos_of_ne_zero hzero
        rw [outcome_absorbFrom, Reader.failure?_ofBytes hpos, Reader.handedOut_ofBytes hpos]
        simp only [Nat.zero_add]

/-- A byte string goes into the code as a whole, however it is cut into chunks. -/
theorem mac_absorb_ofBytes {memory chunk : ℕ} (m : Mac) (a : Bytes) (hm : m.update [] = m)
    (hpos : 0 < chunk) (hle : chunk ≤ Bytes.addressLimit) (hfit : chunk ≤ memory) :
    (m.absorb memory (.ofBytes a : Reader ε) chunk).mac = m.update a := by
  rw [mac_absorb memory m _ chunk hm, fed, if_pos ⟨hpos, hle, hfit⟩, Reader.handedOut_ofBytes hpos]

end Mac

end CipherMeter

import CipherMeter.Mac.Absorb
import CipherMeter.Proofs.Mac.Message

namespace CipherMeter

variable {ε : Type}

/-- The bytes that an answer hands out. -/
def ReadOutcome.contents : ReadOutcome ε → Bytes
  | .bytes a => a
  | .interrupted | .failed _ => []

namespace Reader

/-- The answers to requests for `n` bytes, up to the first that marks the end
or a failure. -/
def answers (n : ℕ) (r : Reader ε) : List (ReadOutcome ε) :=
  match _h : r.read n with
  | (.bytes [], _) => [.bytes []]
  | (.bytes (b :: a), rest) => .bytes (b :: a) :: answers n rest
  | (.interrupted, rest) => .interrupted :: answers n rest
  | (.failed e, _) => [.failed e]
termination_by r.size
decreasing_by
  all_goals
    have hlt := r.size_read_lt n (by simp [_h])
    simpa only [_h] using hlt

theorem answers_eq (n : ℕ) (r : Reader ε) :
    r.answers n = match r.read n with
      | (.bytes [], _) => [.bytes []]
      | (.bytes (b :: a), rest) => .bytes (b :: a) :: rest.answers n
      | (.interrupted, rest) => .interrupted :: rest.answers n
      | (.failed e, _) => [.failed e] := by
  rw [answers]
  split <;> rename_i h <;> rw [h]

/-- The bytes handed out before the end or the first failure. -/
def handedOut (n : ℕ) (r : Reader ε) : Bytes := (r.answers n).flatMap ReadOutcome.contents

theorem handedOut_eq (n : ℕ) (r : Reader ε) :
    r.handedOut n = match r.read n with
      | (.bytes [], _) => []
      | (.bytes (b :: a), rest) => b :: a ++ rest.handedOut n
      | (.interrupted, rest) => rest.handedOut n
      | (.failed _, _) => [] := by
  rw [handedOut, answers_eq]
  rcases r.read n with ⟨⟨- | ⟨b, a⟩⟩ | - | e, rest⟩ <;> rfl

end Reader

namespace Mac

/-- However a reader is absorbed, the code goes on with what it handed out. -/
theorem mac_absorbFrom (chunk total : ℕ) (m : Mac) (r : Reader ε) (hm : m.update [] = m) :
    (absorbFrom chunk total m r).mac = m.update (r.handedOut chunk) := by
  fun_induction absorbFrom chunk total m r with
  | case1 total m r rest h => rw [Reader.handedOut_eq, h, hm]
  | case2 total m r b a rest h ih =>
    have hnil : (m.update (b :: a)).update [] = m.update (b :: a) := by
      rw [← update_append, List.append_nil]
    rw [ih hnil, Reader.handedOut_eq chunk r, h, update_append]
  | case3 total m r rest h ih => rw [ih hm, Reader.handedOut_eq chunk r, h]
  | case4 total m r e rest h => rw [Reader.handedOut_eq, h, hm]

/-- What a reader feeds to a code: nothing is requested of it in chunks that
are empty or do not fit into memory. -/
def fed (memory : ℕ) (r : Reader ε) (chunk : ℕ) : Bytes :=
  if 0 < chunk ∧ chunk ≤ Bytes.addressLimit ∧ chunk ≤ memory then r.handedOut chunk else []

section

variable {memory chunk : ℕ}

theorem absorb_of_fits (h : 0 < chunk ∧ chunk ≤ Bytes.addressLimit ∧ chunk ≤ memory) (m : Mac)
    (r : Reader ε) : m.absorb memory r chunk = absorbFrom chunk 0 m r := by
  rw [absorb, if_neg (by omega), if_neg (by omega), if_neg (by omega)]

/-- Chunks that are refused leave both the code and the reader alone. -/
theorem absorb_of_not_fits (h : ¬ (0 < chunk ∧ chunk ≤ Bytes.addressLimit ∧ chunk ≤ memory)) :
    ∃ fault : AbsorbFault ε, (∀ m r, Mac.absorb memory m r chunk = ⟨.error fault, m, r⟩) ∧
      ∀ kindOf, fault.kind kindOf = if chunk = 0 then "InvalidInput" else "OutOfMemory" := by
  unfold absorb
  by_cases hzero : chunk = 0
  · exact ⟨.emptyChunk, fun m r ↦ if_pos hzero, fun _ ↦ (if_pos hzero).symm⟩
  · by_cases haddress : Bytes.addressLimit < chunk
    · refine ⟨.chunkTooLarge chunk, fun m r ↦ ?_, fun _ ↦ (if_neg hzero).symm⟩
      rw [if_neg hzero, if_pos haddress]
    · refine ⟨.outOfMemory chunk, fun m r ↦ ?_, fun _ ↦ (if_neg hzero).symm⟩
      rw [if_neg hzero, if_neg haddress, if_pos (by omega)]

theorem mac_absorb (memory : ℕ) (m : Mac) (r : Reader ε) (chunk : ℕ) (hm : m.update [] = m) :
    (m.absorb memory r chunk).mac = m.update (fed memory r chunk) := by
  unfold fed
  by_cases hfit : 0 < chunk ∧ chunk ≤ Bytes.addressLimit ∧ chunk ≤ memory
  · rw [absorb_of_fits hfit, if_pos hfit]
    exact mac_absorbFrom chunk 0 m r hm
  · obtain ⟨fault, hfault, -⟩ := absorb_of_not_fits (ε := ε) hfit
    rw [hfault, if_neg hfit, hm]

end

end Mac

end CipherMeter

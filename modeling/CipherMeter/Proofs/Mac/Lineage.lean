import CipherMeter.Mac.Pool
import CipherMeter.Proofs.Mac.Draining

namespace CipherMeter

variable {ε : Type}

/-- What a code stands for: the key that it or the first of its originals was
made from, and all bytes fed to it and, before a copy was made, to its
originals. -/
structure Lineage where
  key : MacKey
  message : Bytes

namespace Lineage

def extend (l : Lineage) (a : Bytes) : Lineage := { l with message := l.message ++ a }

def digest (l : Lineage) : Digest Sha256.digestSize := Mac.tag l.key.bytes l.message

/-- The code that has been fed with the whole message at once. -/
def code (l : Lineage) : Mac := (Mac.ofKey l.key).update l.message

def alter (ls : List (Option Lineage)) (index : ℕ) (f : Lineage → Option Lineage) :
    List (Option Lineage) :=
  match ls[index]?.join with
  | some l => ls.set index (f l)
  | none => ls

/-- The lineages under the numbers of a pool after a step. -/
def step (ls : List (Option Lineage)) : MacPool.Step ε → List (Option Lineage)
  | .create key => ls ++ [some ⟨key, []⟩]
  | .copy index => ls ++ ls[index]?.join.toList.map some
  | .update index a => alter ls index fun l ↦ some (l.extend a)
  | .absorb index reader chunk =>
    alter ls index fun l ↦ some (l.extend (Mac.fed Bytes.memoryLimit reader chunk))
  | .finalize index => alter ls index fun _ ↦ none

def after (steps : List (MacPool.Step ε)) : List (Option Lineage) := steps.foldl step []

theorem finalize_code (l : Lineage) : l.code.finalize = l.digest :=
  Mac.finalize_update l.key l.message

theorem code_update (l : Lineage) (a : Bytes) : l.code.update a = (l.extend a).code :=
  (Mac.update_append (Mac.ofKey l.key) l.message a).symm

theorem code_update_nil (l : Lineage) : l.code.update [] = l.code := by
  rw [code_update, extend, List.append_nil]

end Lineage

namespace MacPool

/-- The pool in which every lineage has the code that it stands for. -/
def ofLineages (ls : List (Option Lineage)) : MacPool := ⟨ls.map (Option.map Lineage.code)⟩

def after (steps : List (Step ε)) : MacPool := steps.foldl (fun p s ↦ (p.step s).2) empty

/-- The number whose code a step uses up or goes on with. -/
def Step.target : Step ε → Option ℕ
  | .create _ | .copy _ => none
  | .update index _ | .absorb index _ _ | .finalize index => some index

theorem get?_ofLineages (ls : List (Option Lineage)) (index : ℕ) :
    (ofLineages ls).get? index = ls[index]?.join.map Lineage.code := by
  rw [get?, ofLineages, List.getElem?_map]
  cases ls[index]? with
  | none => rfl
  | some l => rfl

theorem put_ofLineages (ls : List (Option Lineage)) (index : ℕ) (l : Option Lineage) :
    (ofLineages ls).put index (l.map Lineage.code) = ofLineages (ls.set index l) := by
  rw [put, ofLineages, ofLineages, List.map_set]

theorem push_ofLineages (ls : List (Option Lineage)) (l : Lineage) :
    (ofLineages ls).push l.code = ofLineages (ls ++ [some l]) := by
  rw [push, ofLineages, ofLineages, List.map_append]
  rfl

theorem step_ofLineages (ls : List (Option Lineage)) (s : Step ε) :
    ((ofLineages ls).step s).2 = ofLineages (Lineage.step ls s) := by
  cases s with
  | create key =>
    have hnil : Mac.ofKey key = (⟨key, []⟩ : Lineage).code := (Mac.ofKey_update_nil key).symm
    rw [step, hnil]
    exact push_ofLineages ls _
  | copy index =>
    rw [step, get?_ofLineages, Lineage.step]
    cases ls[index]?.join with
    | none => simp
    | some l => exact push_ofLineages ls l
  | update index a =>
    rw [step, get?_ofLineages, Lineage.step, Lineage.alter]
    cases ls[index]?.join with
    | none => rfl
    | some l =>
      simp only [Option.map_some, Lineage.code_update]
      exact put_ofLineages ls index (some (l.extend a))
  | absorb index reader chunk =>
    rw [step, get?_ofLineages, Lineage.step, Lineage.alter]
    cases ls[index]?.join with
    | none => rfl
    | some l =>
      simp only [Option.map_some, Mac.mac_absorb _ _ _ _ l.code_update_nil, Lineage.code_update]
      exact put_ofLineages ls index (some (l.extend _))
  | finalize index =>
    rw [step, get?_ofLineages, Lineage.step, Lineage.alter]
    cases ls[index]?.join with
    | none => rfl
    | some l => exact put_ofLineages ls index none

theorem after_eq_ofLineages (steps : List (Step ε)) :
    after steps = ofLineages (Lineage.after steps) := by
  induction steps using List.reverseRecOn with
  | nil => rfl
  | append_singleton steps s ih =>
    rw [after, Lineage.after, List.foldl_append, List.foldl_append, ← after, ← Lineage.after, ih]
    exact step_ofLineages _ s

theorem get?_put_of_ne (p : MacPool) {i j : ℕ} (m : Option Mac) (h : i ≠ j) :
    (p.put i m).get? j = p.get? j := by
  rw [get?, get?, put, List.getElem?_set_ne h]

theorem get?_push (p : MacPool) (n : Mac) {i : ℕ} {m : Mac} (h : p.get? i = some m) :
    (p.push n).get? i = some m := by
  have hi : i < p.slots.length := by
    by_contra hge
    rw [get?, List.getElem?_eq_none (by omega)] at h
    cases h
  rw [get?, push, List.getElem?_append_left hi, ← get?, h]

/-- A step leaves alone all codes but the one it is about. -/
theorem get?_step_of_ne (p : MacPool) (s : Step ε) {i : ℕ} {m : Mac} (h : p.get? i = some m)
    (hs : s.target ≠ some i) : (p.step s).2.get? i = some m := by
  cases s with
  | create key => exact get?_push p _ h
  | copy index =>
    rw [step]
    cases p.get? index with
    | none => exact h
    | some n => exact get?_push p n h
  | update index _ | absorb index _ _ | finalize index =>
    have hne : index ≠ i := fun h' ↦ hs (congrArg some h')
    rw [step]
    cases p.get? index with
    | none => exact h
    | some n => exact (get?_put_of_ne p _ hne).trans h

/-- After any steps a code yields the code of its key and of the whole message
that was fed to it and to its originals. -/
theorem finalize_after (steps : List (Step ε)) :
    (∀ i, ((after steps).step (.finalize i : Step ε)).1 =
      match (Lineage.after steps)[i]?.join with
      | some l => .finalized (Mac.tag l.key.bytes l.message)
      | none => .missing) ∧
    (∀ key, ((after steps).step (.create key : Step ε)).1 =
      .created (Lineage.after steps).length) ∧
    (∀ (s : Step ε) (i : ℕ) (m : Mac), (after steps).get? i = some m → s.target ≠ some i →
      ((after steps).step s).2.get? i = some m) ∧
    ∀ key message, Mac.ofMessage key message = Mac.tag key.bytes message := by
  refine ⟨fun i ↦ ?_, fun key ↦ ?_, fun s i m h hs ↦ get?_step_of_ne _ s h hs,
    Mac.finalize_update⟩
  · rw [step, after_eq_ofLineages, get?_ofLineages]
    cases (Lineage.after steps)[i]?.join with
    | none => rfl
    | some l => exact congrArg Answer.finalized l.finalize_code
  · rw [step, after_eq_ofLineages, ofLineages, List.length_map]

/-- A short key, of whose code a copy is made between two pieces of the message, and a key that is
longer than a block. -/
theorem finalize_after_short_and_long_key :
    let short : MacKey := ⟨List.replicate 20 0x0B⟩
    let long : MacKey := ⟨List.replicate 131 0xAA⟩
    let whole := Utf8.encode "Test Using Larger Than Block-Size Key - Hash Key First"
    let steps : List (Step IoError) := [.create short, .update 0 (Utf8.encode "Hi "), .create long,
      .copy 0, .update 0 (Utf8.encode "There"), .update 1 whole]
    (∃ d, ((after steps).step (.finalize 0 : Step IoError)).1 = .finalized d ∧
      d.text = "b0344c61d8db38535ca8afceaf0bf12b881dc200c9833da726e9376c2e32cff7") ∧
    (∃ d, ((after steps).step (.finalize 1 : Step IoError)).1 = .finalized d ∧
      d.text = "60e431591ee0b67f0d8a26aacbf5b77f8e0bc6213728c5140546040f0ee37f54") ∧
    ((after steps).step (.finalize 2 : Step IoError)).1 =
      .finalized (Mac.tag short.bytes (Utf8.encode "Hi ")) := by
  intro short long whole steps
  obtain ⟨hfinal, -⟩ := finalize_after steps
  refine ⟨⟨_, hfinal 0, ?_⟩, ⟨_, hfinal 1, ?_⟩, hfinal 2⟩
  · decide +kernel
  · decide +kernel

end MacPool

end CipherMeter

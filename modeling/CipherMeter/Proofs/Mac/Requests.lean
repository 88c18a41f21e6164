import CipherMeter.Proofs.Mac.Contents
import CipherMeter.Proofs.Mac.Lineage

/-!
The requests that are made of a reader when a code absorbs it: how many there are, what they are
answered, and how the code goes on after them.
-/

namespace CipherMeter

variable {ε : Type}

namespace ReadOutcome

/-- Nothing is requested after such an answer. -/
inductive Ends : ReadOutcome ε → Prop
  | nothing : Ends (.bytes [])
  | failed (e : ε) : Ends (.failed e)

theorem not_ends_cons (b : UInt8) (a : Bytes) : ¬ (.bytes (b :: a) : ReadOutcome ε).Ends := by
  intro h
  cases h

theorem not_ends_interrupted : ¬ (.interrupted : ReadOutcome ε).Ends := by
  intro h
  cases h

theorem Ends.contents_eq {a : ReadOutcome ε} (h : a.Ends) : a.contents = [] := by
  cases h <;> rfl

theorem failure?_of_not_ends {a : ReadOutcome ε} (h : ¬ a.Ends) : a.failure? = none := by
  cases a with
  | bytes a => rfl
  | interrupted => rfl
  | failed e => exact absurd (.failed e) h

/-- The event that makes a reader give an answer. -/
def event : ReadOutcome ε → ReadEvent ε
  | .bytes a => .data a
  | .interrupted => .interrupted
  | .failed e => .failed e

end ReadOutcome

namespace Reader

/-- The answers to `k` requests for `n` bytes, whatever they are, and the reader after them. -/
def ask (n : ℕ) : ℕ → Reader ε → List (ReadOutcome ε) × Reader ε
  | 0, r => ([], r)
  | k + 1, r =>
    let (a, rest) := r.read n
    let (as, rest) := rest.ask n k
    (a :: as, rest)

theorem requests_read (n : ℕ) (r : Reader ε) : (r.read n).2.requests = n :: r.requests := by
  obtain ⟨available, events, requests⟩ := r
  cases available with
  | cons b a => rfl
  | nil => rcases events with - | ⟨a | - | e, events⟩ <;> rfl

theorem asked_ask (n k : ℕ) (r : Reader ε) :
    (r.ask n k).2.asked = r.asked ++ List.replicate k n := by
  induction k generalizing r with
  | zero => simp [ask]
  | succ k ih =>
    have hread : (r.read n).2.asked = r.asked ++ [n] := by
      rw [asked, requests_read, List.reverse_cons, asked]
    rw [List.replicate_succ, List.append_cons, ← hread]
    exact ih (r.read n).2

theorem ask_of_read {n k : ℕ} {r rest : Reader ε} {a : ReadOutcome ε} (h : r.read n = (a, rest)) :
    r.ask n (k + 1) = (a :: (rest.ask n k).1, (rest.ask n k).2) := by
  rw [ask, h]

/-- Requests are answered as announced, up to one answer that ends them. -/
theorem exists_answers_eq (n : ℕ) (r : Reader ε) : ∃ before last,
    r.answers n = before ++ [last] ∧ (∀ a ∈ before, ¬ a.Ends) ∧ last.Ends ∧
      (r.ask n (before.length + 1)).1 = before ++ [last] := by
  fun_induction answers n r with
  | case1 r rest h =>
    refine ⟨[], .bytes [], rfl, List.forall_mem_nil _, .nothing, ?_⟩
    rw [ask_of_read h]
    rfl
  | case2 r b a rest h ih =>
    obtain ⟨before, last, hanswers, hbefore, hlast, hask⟩ := ih
    refine ⟨.bytes (b :: a) :: before, last, congrArg _ hanswers, ?_, hlast, ?_⟩
    · exact List.forall_mem_cons.mpr ⟨ReadOutcome.not_ends_cons b a, hbefore⟩
    · rw [List.length_cons, ask_of_read h, hask, List.cons_append]
  | case3 r rest h ih =>
    obtain ⟨before, last, hanswers, hbefore, hlast, hask⟩ := ih
    refine ⟨.interrupted :: before, last, congrArg _ hanswers, ?_, hlast, ?_⟩
    · exact List.forall_mem_cons.mpr ⟨ReadOutcome.not_ends_interrupted, hbefore⟩
    · rw [List.length_cons, ask_of_read h, hask, List.cons_append]
  | case4 r e rest h =>
    refine ⟨[], .failed e, rfl, List.forall_mem_nil _, .failed e, ?_⟩
    rw [ask_of_read h]
    rfl

theorem ask_nil (n k : ℕ) (requests : List ℕ) :
    ((⟨[], [], requests⟩ : Reader ε).ask n k).1 = List.replicate k (.bytes []) := by
  induction k generalizing requests with
  | zero => rfl
  | succ k ih => exact congrArg (.bytes [] :: ·) (ih (n :: requests))

/-- Any list of answers in which none is too long is given by some reader, and after them it is at
its end. -/
theorem ask_map_event (n k : ℕ) (as : List (ReadOutcome ε)) (requests : List ℕ)
    (has : ∀ a ∈ as, a.contents.length ≤ n) :
    ((⟨[], as.map ReadOutcome.event, requests⟩ : Reader ε).ask n (as.length + k)).1 =
      as ++ List.replicate k (.bytes []) := by
  induction as generalizing requests with
  | nil => simpa using ask_nil n k requests
  | cons a as ih =>
    obtain ⟨ha, has⟩ := List.forall_mem_cons.mp has
    have hread : (⟨[], (a :: as).map ReadOutcome.event, requests⟩ : Reader ε).read n =
        (a, ⟨[], as.map ReadOutcome.event, n :: requests⟩) := by
      cases a with
      | bytes a =>
        have hlength : a.length ≤ n := ha
        change serve n a (as.map ReadOutcome.event) (n :: requests) = _
        rw [serve, List.take_of_length_le hlength, List.drop_of_length_le hlength]
      | interrupted => rfl
      | failed e => rfl
    rw [List.length_cons, Nat.add_right_comm, ask_of_read hread, ih _ has, List.cons_append]

end Reader

namespace Mac

/-- Two codes that no later use tells apart: they yield the same, and fed alike they are the
same. -/
structure Agree (m n : Mac) : Prop where
  update_eq : ∀ a, m.update a = n.update a
  finalize_eq : m.finalize = n.finalize

theorem agree_update_nil (m : Mac) : m.Agree (m.update []) where
  update_eq a := by rw [← update_append, List.nil_append]
  finalize_eq := by
    have hfinish : (m.inner.update []).finish = m.inner.finish := by
      have hwhole := Bytes.wholePieces_append_remainder Sha256.blockSize (by decide) m.inner.pending
        (Sha256.padding m.inner.count)
      rw [Sha256.Stream.finish, Sha256.Stream.finish, hwhole, Sha256.compressAll_append]
      simp only [Sha256.Stream.update, List.append_nil, List.length_nil, Nat.add_zero]
      rfl
    rw [finalize, finalize, update, hfinish]

theorem agree_absorbFrom (chunk total : ℕ) (m : Mac) (r : Reader ε) :
    (absorbFrom chunk total m r).mac.Agree (m.update (r.handedOut chunk)) := by
  fun_induction absorbFrom chunk total m r with
  | case1 total m r rest h =>
    rw [Reader.handedOut_eq, h]
    exact m.agree_update_nil
  | case2 total m r b a rest h ih =>
    rw [Reader.handedOut_eq, h]
    dsimp only
    rw [update_append]
    exact ih
  | case3 total m r rest h ih =>
    rw [Reader.handedOut_eq, h]
    exact ih
  | case4 total m r e rest h =>
    rw [Reader.handedOut_eq, h]
    exact m.agree_update_nil

/-- As many requests are made of a reader as it takes to get the answers that end them. -/
theorem reader_absorbFrom (chunk total : ℕ) (m : Mac) (r : Reader ε) :
    (absorbFrom chunk total m r).reader = (r.ask chunk (r.answers chunk).length).2 := by
  fun_induction absorbFrom chunk total m r with
  | case1 total m r rest h =>
    rw [Reader.answers_eq, h]
    exact (congrArg Prod.snd (Reader.ask_of_read (k := 0) h)).symm
  | case2 total m r b a rest h ih =>
    rw [ih, Reader.answers_eq chunk r, h]
    exact (congrArg Prod.snd (Reader.ask_of_read h)).symm
  | case3 total m r rest h ih =>
    rw [ih, Reader.answers_eq chunk r, h]
    exact (congrArg Prod.snd (Reader.ask_of_read h)).symm
  | case4 total m r e rest h =>
    rw [Reader.answers_eq, h]
    exact (congrArg Prod.snd (Reader.ask_of_read (k := 0) h)).symm

/-- No later absorbing tells codes apart that agree. -/
theorem Agree.absorb {m n : Mac} (h : m.Agree n) (memory : ℕ) (r : Reader ε) (chunk : ℕ) :
    (m.absorb memory r chunk).outcome = (n.absorb memory r chunk).outcome ∧
      (m.absorb memory r chunk).reader = (n.absorb memory r chunk).reader ∧
      (m.absorb memory r chunk).mac.Agree (n.absorb memory r chunk).mac := by
  by_cases hfit : 0 < chunk ∧ chunk ≤ Bytes.addressLimit ∧ chunk ≤ memory
  · rw [absorb_of_fits hfit, absorb_of_fits hfit]
    have hm := agree_absorbFrom chunk 0 m r
    have hn := agree_absorbFrom chunk 0 n r
    rw [← h.update_eq] at hn
    refine ⟨?_, ?_, fun a ↦ ?_, ?_⟩
    · rw [outcome_absorbFrom, outcome_absorbFrom]
    · rw [reader_absorbFrom, reader_absorbFrom]
    · rw [hm.update_eq, hn.update_eq]
    · rw [hm.finalize_eq, hn.finalize_eq]
  · obtain ⟨fault, hfault, -⟩ := absorb_of_not_fits (ε := ε) hfit
    rw [hfault, hfault]
    exact ⟨rfl, rfl, h⟩

/-- What it is to absorb a reader in chunks. All requests are for a whole chunk, and nothing is
requested after the answer `last`, which is the first to mark the end or a failure. The code goes on
as if fed at once with the bytes handed out before, which are all that the reader had in store. -/
structure Absorbs (m : Mac) (r : Reader ε) (chunk : ℕ) (result : Absorbed ε)
    (before : List (ReadOutcome ε)) (last : ReadOutcome ε) : Prop where
  ask_eq : r.ask chunk (before.length + 1) = (before ++ [last], result.reader)
  asked_eq : result.reader.asked = r.asked ++ List.replicate (before.length + 1) chunk
  not_ends : ∀ a ∈ before, ¬ a.Ends
  ends : (last = .bytes [] ∧
      result.outcome = .ok (before.flatMap ReadOutcome.contents).length) ∨
    ∃ e, last = .failed e ∧ result.outcome = .error (.reader e)
  agree : result.mac.Agree (m.update (before.flatMap ReadOutcome.contents))
  contents_eq : r.contents =
    (before.flatMap ReadOutcome.contents, last.failure?.elim (.ok ()) .error)

theorem exists_absorbs {chunk : ℕ} (hpos : 0 < chunk) (m : Mac) (r : Reader ε) :
    ∃ before last, m.Absorbs r chunk (absorbFrom chunk 0 m r) before last := by
  obtain ⟨before, last, hanswers, hbefore, hlast, hask⟩ := r.exists_answers_eq chunk
  have hreader := reader_absorbFrom chunk 0 m r
  rw [hanswers, List.length_append, List.length_singleton] at hreader
  have hhanded : r.handedOut chunk = before.flatMap ReadOutcome.contents := by
    rw [Reader.handedOut, hanswers, List.flatMap_append, List.flatMap_singleton, hlast.contents_eq,
      List.append_nil]
  have hfailure : r.failure? chunk = last.failure? := by
    have hnone : before.findSome? ReadOutcome.failure? = none := by
      rw [List.findSome?_eq_none_iff]
      exact fun a ha ↦ ReadOutcome.failure?_of_not_ends (hbefore a ha)
    rw [Reader.failure?, hanswers, List.findSome?_append, hnone, Option.none_or,
      List.findSome?_singleton]
  refine ⟨before, last, ?_, ?_, hbefore, ?_, ?_, ?_⟩
  · rw [hreader, ← hask]
  · rw [hreader, Reader.asked_ask]
  · rw [outcome_absorbFrom, hfailure, hhanded, Nat.zero_add]
    cases hlast with
    | nothing => exact .inl ⟨rfl, rfl⟩
    | failed e => exact .inr ⟨e, rfl, rfl⟩
  · rw [← hhanded]
    exact agree_absorbFrom chunk 0 m r
  · rw [Reader.contents_eq_handedOut hpos, hhanded, hfailure]

/-- A reader that is not absorbed is left alone, and so is the code. -/
structure Refuses (m : Mac) (r : Reader ε) (result : Absorbed ε) (kind : String) : Prop where
  kind_eq : ∀ kindOf : ε → String,
    result.outcome.mapError (AbsorbFault.kind kindOf) = .error kind
  mac_eq : result.mac = m
  reader_eq : result.reader = r

theorem refuses_of_not_fits {memory chunk : ℕ}
    (h : ¬ (0 < chunk ∧ chunk ≤ Bytes.addressLimit ∧ chunk ≤ memory)) (m : Mac) (r : Reader ε) :
    m.Refuses r (m.absorb memory r chunk)
      (if chunk = 0 then "InvalidInput" else "OutOfMemory") := by
  obtain ⟨fault, hfault, hkind⟩ := absorb_of_not_fits (ε := ε) h
  rw [hfault]
  exact ⟨fun kindOf ↦ congrArg Except.error (hkind kindOf), rfl, rfl⟩

end Mac

/-- After any steps a reader that is absorbed leaves all codes as an update with its contents
does. -/
theorem MacPool.after_absorb {chunk : ℕ} (hpos : 0 < chunk) (hfit : chunk ≤ Bytes.memoryLimit)
    (steps : List (MacPool.Step ε)) (i : ℕ) (r : Reader ε) :
    after (steps ++ [.absorb i r chunk]) = after (steps ++ [.update i r.contents.1]) := by
  have hle : chunk ≤ Bytes.addressLimit := Nat.le_trans hfit (by decide)
  have hfed : Mac.fed Bytes.memoryLimit r chunk = r.contents.1 := by
    rw [Mac.fed, if_pos ⟨hpos, hle, hfit⟩, Reader.contents_eq_handedOut hpos]
  rw [after_eq_ofLineages, after_eq_ofLineages, Lineage.after, Lineage.after, List.foldl_append,
    List.foldl_append, ← hfed]
  rfl

namespace Mac

/-- A reader is absorbed up to the first answer that marks its end or a failure, with nothing lost
of what it handed out before; chunks that are empty or cannot be had are refused. Readers may give
any answers that are not too long. -/
theorem absorb_until_end (memory chunk : ℕ) (m : Mac) :
    (∀ r : Reader ε, 0 < chunk → chunk ≤ Bytes.addressLimit → chunk ≤ memory →
      ∃ before last, m.Absorbs r chunk (m.absorb memory r chunk) before last) ∧
    (∀ r : Reader ε, chunk = 0 → m.Refuses r (m.absorb memory r chunk) "InvalidInput") ∧
    (∀ r : Reader ε, Bytes.addressLimit < chunk ∨ memory < chunk →
      m.Refuses r (m.absorb memory r chunk) "OutOfMemory") ∧
    (∀ (steps : List (MacPool.Step ε)) (i : ℕ) (r : Reader ε), 0 < chunk →
      chunk ≤ Bytes.memoryLimit → MacPool.after (steps ++ [.absorb i r chunk]) =
        MacPool.after (steps ++ [.update i r.contents.1])) ∧
    ∀ (as : List (ReadOutcome ε)) (k : ℕ), (∀ a ∈ as, a.contents.length ≤ chunk) →
      ((Reader.ofEvents (as.map ReadOutcome.event)).ask chunk (as.length + k)).1 =
        as ++ List.replicate k (.bytes []) := by
  refine ⟨fun r hpos hle hfit ↦ ?_, fun r hzero ↦ ?_, fun r hlarge ↦ ?_,
    fun steps i r hpos hfit ↦ MacPool.after_absorb hpos hfit steps i r,
    fun as k has ↦ Reader.ask_map_event chunk k as [] has⟩
  · rw [absorb_of_fits ⟨hpos, hle, hfit⟩]
    exact exists_absorbs hpos m r
  · have hfit : ¬ (0 < chunk ∧ chunk ≤ Bytes.addressLimit ∧ chunk ≤ memory) := by omega
    have hrefuses := refuses_of_not_fits hfit m r
    rwa [if_pos hzero] at hrefuses
  · have hfit : ¬ (0 < chunk ∧ chunk ≤ Bytes.addressLimit ∧ chunk ≤ memory) := by omega
    have hrefuses := refuses_of_not_fits hfit m r
    rwa [if_neg (by omega)] at hrefuses

/-- A reader that is interrupted and fails later, and one that is not absorbed. -/
theorem absorb_until_end_failing :
    let m := Mac.ofKey ⟨[0x6B]⟩
    let r : Reader ℕ := .ofEvents [.data [1, 2, 3], .interrupted, .data [4], .failed 5, .data [6]]
    (m.absorb 2 r 2).outcome = .error (.reader 5) ∧
      (m.absorb 2 r 2).mac.Agree (m.update [1, 2, 3, 4]) ∧
      (m.absorb 2 r 0).reader.asked = [] ∧
      MacPool.after ([.create ⟨[0x6B]⟩, .absorb 0 r 2] : List (MacPool.Step ℕ)) =
        MacPool.after ([.create ⟨[0x6B]⟩, .update 0 [1, 2, 3, 4]] : List (MacPool.Step ℕ)) := by
  intro m r
  obtain ⟨habsorbs, -, -, hpool, -⟩ := absorb_until_end (ε := ℕ) 2 2 m
  obtain ⟨-, hempty, -⟩ := absorb_until_end (ε := ℕ) 2 0 m
  obtain ⟨before, last, h⟩ := habsorbs r (by decide) (by decide) (by decide)
  have hcontents : r.contents = ([1, 2, 3, 4], .error 5) := rfl
  rw [h.contents_eq, Prod.mk.injEq] at hcontents
  obtain ⟨hbytes, hfailure⟩ := hcontents
  refine ⟨?_, ?_, ?_, ?_⟩
  · rcases h.ends with ⟨rfl, -⟩ | ⟨e, rfl, houtcome⟩
    · cases hfailure
    · cases hfailure
      exact houtcome
  · rw [← hbytes]
    exact h.agree
  · rw [(hempty r rfl).reader_eq]
    rfl
  · exact hpool [.create ⟨[0x6B]⟩] 0 r (by decide) (by decide)

end Mac

end CipherMeter

import CipherMeter.Proofs.Hex

/-!
Why hexadecimal text is not read. Digits are read in pairs, but what is told is the first byte of
all that is no digit.
-/

namespace CipherMeter.Hex

/-- The byte is a digit of ASCII, with a letter of either case. -/
def IsDigit (b : UInt8) : Prop := (Char.ofNat b.toNat).isHexDigit = true

instance : DecidablePred IsDigit := fun b ↦
  inferInstanceAs (Decidable ((Char.ofNat b.toNat).isHexDigit = true))

theorem value?_isSome_iff (b : UInt8) : (value? b).isSome = true ↔ IsDigit b := by
  have hb := b.toNat_lt
  have hchar : (Char.ofNat b.toNat).val.toNat = b.toNat :=
    Utf8.toNat_ofNat_of_valid (.inl (by omega))
  have hvalue := congrArg Option.isSome (toNat_value? b)
  rw [Option.isSome_map] at hvalue
  rw [IsDigit, isHexDigit_iff, hchar, hvalue]
  split
  · simp [*]
  · split
    · simp [*]
    · split <;> simp [*]

/-- The byte `b` stands at the position `p` and is the first one that is no digit. -/
structure FirstBad (a : Bytes) (p : ℕ) (b : UInt8) : Prop where
  getElem?_eq : a[p]? = some b
  not_isDigit : ¬ IsDigit b
  isDigit_before : ∀ i < p, ∀ c, a[i]? = some c → IsDigit c

namespace FirstBad

variable {a : Bytes} {p : ℕ} {b c : UInt8}

theorem head (hb : ¬ IsDigit b) (a : Bytes) : FirstBad (b :: a) 0 b where
  getElem?_eq := rfl
  not_isDigit := hb
  isDigit_before i hi := by omega

theorem cons (h : FirstBad a p b) (hc : IsDigit c) : FirstBad (c :: a) (p + 1) b where
  getElem?_eq := by simpa using h.getElem?_eq
  not_isDigit := h.not_isDigit
  isDigit_before i hi d hd := by
    cases i with
    | zero =>
      cases hd
      exact hc
    | succ i => exact h.isDigit_before i (by omega) d (by simpa using hd)

theorem unique {q : ℕ} (h : FirstBad a p b) (h' : FirstBad a q c) : p = q ∧ b = c := by
  rcases Nat.lt_trichotomy p q with hlt | rfl | hlt
  · exact absurd (h'.isDigit_before p hlt b h.getElem?_eq) h.not_isDigit
  · exact ⟨rfl, Option.some.inj (h.getElem?_eq.symm.trans h'.getElem?_eq)⟩
  · exact absurd (h.isDigit_before q hlt c h'.getElem?_eq) h'.not_isDigit

end FirstBad

section

variable {position : ℕ} {b : UInt8}

theorem isDigit_of_readDigit {v : UInt8} (h : readDigit position b = .ok v) : IsDigit b := by
  rw [← value?_isSome_iff]
  unfold readDigit at h
  split at h
  · simp [*]
  · cases h

theorem readDigit_eq_error {e : DecodeError} (h : readDigit position b = .error e) :
    ¬ IsDigit b ∧ e = .badDigit b position := by
  rw [← value?_isSome_iff]
  unfold readDigit at h
  split at h
  · cases h
  · cases h
    simp [*]

end

/-- A pair is left behind only if both of its bytes are digits, so that no byte is passed over. -/
theorem readPairs_eq_error {position : ℕ} {a : Bytes} {e : DecodeError}
    (heven : a.length % 2 = 0) (h : readPairs position a = .error e) :
    ∃ p b, FirstBad a p b ∧ e = .badDigit b (position + p) := by
  induction position, a using readPairs.induct with
  | case1 => cases h
  | case2 => cases heven
  | case3 position x y a ih =>
    simp only [readPairs, Except.bind_eq_error_iff] at h
    rcases h with hx | ⟨high, hhigh, hy | ⟨low, hlow, hrest | ⟨rest, -, hnone⟩⟩⟩
    · obtain ⟨hbad, rfl⟩ := readDigit_eq_error hx
      exact ⟨0, x, .head hbad _, rfl⟩
    · obtain ⟨hbad, rfl⟩ := readDigit_eq_error hy
      have hfirst := (FirstBad.head hbad a).cons (isDigit_of_readDigit hhigh)
      exact ⟨1, y, hfirst, rfl⟩
    · have hlength : a.length % 2 = 0 := by
        simp only [List.length_cons] at heven
        omega
      obtain ⟨p, b, hfirst, rfl⟩ := ih hlength hrest
      have hfirst := (hfirst.cons (isDigit_of_readDigit hlow)).cons (isDigit_of_readDigit hhigh)
      refine ⟨p + 2, b, hfirst, ?_⟩
      rw [Nat.add_assoc, Nat.add_comm 2]
    · cases hnone

/-- What is wrong with a text that is not read: the number of its bytes, or else the first of them
that is no digit. -/
theorem decode_eq_error {s : String} {e : DecodeError} (h : decode s = .error e) :
    ((Utf8.encode (unmarked s)).length % 2 = 1 ∧ e = .oddLength) ∨
      (Utf8.encode (unmarked s)).length % 2 = 0 ∧
        ∃ p b, FirstBad (Utf8.encode (unmarked s)) p b ∧ e = .badDigit b p := by
  rw [decode, dropMarker_encode] at h
  split at h
  · cases h
    exact .inl ⟨‹_›, rfl⟩
  · have heven : (Utf8.encode (unmarked s)).length % 2 = 0 := by omega
    obtain ⟨p, b, hfirst, rfl⟩ := readPairs_eq_error heven h
    exact .inr ⟨heven, p, b, hfirst, by rw [Nat.zero_add]⟩

theorem message_badDigit (b : UInt8) (p : ℕ) :
    (InputFlaw.hex (.badDigit b p)).message = "invalid hex string: Invalid character " ++
      Text.quoteChar (Char.ofNat b.toNat) ++ " at position " ++ toString p := by
  have hmessage : (InputFlaw.hex (.badDigit b p)).message = "invalid hex string: " ++
      ("Invalid character " ++ Text.quoteChar (Char.ofNat b.toNat) ++ " at position " ++
        toString p) := rfl
  have hsplit : "invalid hex string: Invalid character " =
      "invalid hex string: " ++ "Invalid character " := rfl
  rw [hmessage, hsplit]
  simp only [String.append_assoc]

theorem message_badDigit_ne (b : UInt8) (p : ℕ) :
    (InputFlaw.hex (.badDigit b p)).message ≠ "invalid hex string: Odd number of digits" := by
  intro h
  rw [message_badDigit, ← String.toList_inj] at h
  simp [String.toList_append] at h

/-- Text that is not read is refused with one of two causes. An odd number of bytes is told whatever
they are. Otherwise it is told which byte is the first that is no digit, and where it stands after
the marker. -/
theorem decodeOrFault_tells_first {s : String} {fault : Fault}
    (h : decodeOrFault s = .error fault) : ∃ flaw, fault = .invalidInput flaw ∧
      (flaw.message = "invalid hex string: Odd number of digits" ↔
        (Utf8.encode (unmarked s)).length % 2 = 1) ∧
      ((Utf8.encode (unmarked s)).length % 2 = 0 →
        ∃ p b, FirstBad (Utf8.encode (unmarked s)) p b ∧
          flaw.message = "invalid hex string: Invalid character " ++
            Text.quoteChar (Char.ofNat b.toNat) ++ " at position " ++ toString p) := by
  obtain ⟨e, he, rfl⟩ := (Except.mapError_eq_error_iff ..).mp h
  refine ⟨.hex e, rfl, ?_⟩
  rcases decode_eq_error he with ⟨hodd, rfl⟩ | ⟨heven, p, b, hfirst, rfl⟩
  · refine ⟨iff_of_true rfl hodd, fun heven ↦ ?_⟩
    omega
  · refine ⟨iff_of_false (message_badDigit_ne b p) (by omega), fun _ ↦ ?_⟩
    exact ⟨p, b, hfirst, message_badDigit b p⟩

/-- A letter of two bytes, after two digits and after one. -/
theorem decodeOrFault_tells_first_letter :
    (∃ flaw, decodeOrFault "0x12é" = .error (.invalidInput flaw) ∧
      flaw.message = "invalid hex string: Invalid character 'Ã' at position 2") ∧
    ∃ flaw, decodeOrFault "0x1é" = .error (.invalidInput flaw) ∧
      flaw.message = "invalid hex string: Odd number of digits" := by
  have heven : decodeOrFault "0x12é" = .error (.invalidInput (.hex (.badDigit 0xC3 2))) := by
    decide +kernel
  have hodd : decodeOrFault "0x1é" = .error (.invalidInput (.hex .oddLength)) := by
    decide +kernel
  constructor
  · obtain ⟨flaw, hflaw, -, hfirst⟩ := decodeOrFault_tells_first heven
    have hbytes : Utf8.encode (unmarked "0x12é") = [0x31, 0x32, 0xC3, 0xA9] := by decide +kernel
    rw [hbytes] at hfirst
    obtain ⟨p, b, hbad, hmessage⟩ := hfirst rfl
    have hthird : FirstBad [0x31, 0x32, 0xC3, 0xA9] 2 0xC3 :=
      ((FirstBad.head (by decide) _).cons (by decide)).cons (by decide)
    obtain ⟨rfl, rfl⟩ := hbad.unique hthird
    exact ⟨flaw, hflaw ▸ heven, hmessage.trans (by decide +kernel)⟩
  · obtain ⟨flaw, hflaw, hlength, -⟩ := decodeOrFault_tells_first hodd
    exact ⟨flaw, hflaw ▸ hodd, hlength.mpr (by decide +kernel)⟩

end CipherMeter.Hex

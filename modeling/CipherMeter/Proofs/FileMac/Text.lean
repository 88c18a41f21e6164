import CipherMeter.Proofs.FileMac.Answer
import CipherMeter.Proofs.Hex

/-!
The code of a file as a text, where a fault is told in the place of the code. Which of the two a
text is can be seen from the text itself.
-/

namespace CipherMeter

theorem Fault.blank_mem_append {s : String} (h : ' ' ∈ s.toList) (t : String) :
    ' ' ∈ (s ++ t).toList := by
  rw [String.toList_append]
  exact List.mem_append_left _ h

/-- A fault is told in more than one word. -/
theorem Fault.blank_mem_message (fault : Fault) : ' ' ∈ fault.message.toList := by
  cases fault with
  | io path error =>
    have hquote : ' ' ∈ (error.message ++ ": '").toList := by
      rw [String.toList_append]
      exact List.mem_append_right _ (by decide)
    exact blank_mem_append (blank_mem_append hquote _) _
  | invalidKeyLength n =>
    have hstart : ' ' ∈ "Invalid key length ".toList := by decide +kernel
    exact blank_mem_append (blank_mem_append hstart _) _
  | invalidNonceLength expected actual =>
    have hstart : ' ' ∈ "Invalid nonce length ".toList := by decide +kernel
    have hactual := blank_mem_append hstart (toString actual)
    exact blank_mem_append (blank_mem_append (blank_mem_append hactual _) _) _
  | inputLengthWrong n =>
    have hstart : ' ' ∈ "Expected input of length exactly ".toList := by decide +kernel
    exact blank_mem_append hstart _
  | inputTooLong n =>
    have hstart : ' ' ∈ "Input of ".toList := by decide +kernel
    exact blank_mem_append (blank_mem_append hstart _) _
  | invalidInput flaw =>
    have hstart : ' ' ∈ "Invalid input: ".toList := by decide +kernel
    exact blank_mem_append hstart _
  | authenticationFailure => decide +kernel

/-- The text has the form of a code of 32 bytes, with letters of either case. -/
def Hex.IsCode (s : String) : Prop := s.length = 64 ∧ ∀ c ∈ s.toList, c.isHexDigit = true

theorem Fault.not_isCode_message (fault : Fault) : ¬ Hex.IsCode fault.message := by
  intro h
  have hblank := h.2 ' ' fault.blank_mem_message
  cases hblank

theorem Hex.isCode_text (d : Digest Sha256.digestSize) : Hex.IsCode d.text := by
  constructor
  · have hlength : d.toList.length = 32 := d.bytes.property
    rw [Digest.text, length_encode, hlength]
  · intro c hc
    have hrange := range_of_mem_encode hc
    rw [isHexDigit_iff]
    omega

namespace FileMac

open Run

/-- The settings with which the code of a file is told as a text. -/
def textSettings (path : Path) (key : Bytes) : Settings := { key := .literal key, filePath := path }

theorem validate_textSettings (path : Path) (key : Bytes) :
    (textSettings path key).validate = .ok () := by
  apply (validate_eq_ok_iff _).mpr
  simp [textSettings, maxChunkSize, defaultChunkSize, Sampler.maxIterations]

section

variable {path : Path} {key : Bytes} {w w' : World}

theorem inWorld_text_of_ok {r : Report}
    (h : inWorld (run (textSettings path key)) w = (.ok r, w')) :
    inWorld (text path key) w = (.ok r.digest.text, w') := by
  rw [textSettings] at h
  rw [text, inWorld_tryCatch, inWorld_bind_of_ok _ h, inWorld_pure]

theorem inWorld_text_of_fault {fault : Fault}
    (h : inWorld (run (textSettings path key)) w = (.error (.fault fault), w')) :
    inWorld (text path key) w = (.ok fault.message, w') := by
  rw [textSettings] at h
  rw [text, inWorld_tryCatch, inWorld_bind, h]
  rfl

end

/-- The code of a file is told by its digits, which are read back as it, and a file that cannot be
read by its fault. No fault of any kind is told by 64 digits. -/
theorem text_tells_code_or_fault (path : Path) (key : Bytes) (w : World)
    (hfit : Stats.Fits "hmac" (w.laps 1)) :
    (∃ out w', inWorld (text path key) w = (.ok out, w') ∧
      (∀ contents, w.files.read path = .ok contents →
        out = Hex.encode (Mac.ofMessage ⟨key⟩ contents).toList ∧ out.length = 64 ∧
          (∀ c ∈ out.toList, '0' ≤ c ∧ c ≤ '9' ∨ 'a' ≤ c ∧ c ≤ 'f') ∧
          Hex.decodeOrFault out = .ok (Mac.ofMessage ⟨key⟩ contents).toList) ∧
      (∀ e, w.files.read path = .error e → out = (Fault.io path e).message) ∧
      (Hex.IsCode out ↔ ∃ contents, w.files.read path = .ok contents)) ∧
    ∀ fault : Fault, ¬ Hex.IsCode fault.message := by
  refine ⟨?_, Fault.not_isCode_message⟩
  have hvalidate := validate_textSettings path key
  cases hread : w.files.read path with
  | ok contents =>
    obtain ⟨st, hst⟩ := World.exists_summary (Nat.le_refl 1) hfit
    have hrun := inWorld_run_of_read hvalidate (w := w) rfl hread
    have honce : (textSettings path key).iterations = 1 := rfl
    rw [honce, hst] at hrun
    have hcode := Hex.isCode_text (Mac.ofMessage ⟨key⟩ contents)
    refine ⟨_, _, inWorld_text_of_ok hrun, ?_, nofun, iff_of_true hcode ⟨contents, rfl⟩⟩
    intro contents' h
    cases h
    refine ⟨rfl, hcode.1, fun c hc ↦ Hex.lower_of_mem_encode hc, ?_⟩
    exact (Hex.decodeOrFault_eq_ok_iff ..).mpr (Hex.decode_encode _)
  | error e =>
    have hrun := inWorld_run_of_read_error hvalidate (w := w) rfl hread
    refine ⟨_, _, inWorld_text_of_fault hrun, nofun, ?_,
      iff_of_false (Fault.not_isCode_message _) nofun⟩
    intro e' h
    cases h
    rfl

/-- A file of three bytes, and one that is not there. -/
theorem text_tells_code_or_fault_tickingWorld :
    (∃ out w, inWorld (text (.ofString "random_file") [0x6B]) tickingWorld = (.ok out, w) ∧
      Hex.decodeOrFault out = .ok (Mac.ofMessage ⟨[0x6B]⟩ [0x61, 0x62, 0x63]).toList) ∧
    ∃ w, inWorld (text (.ofString "file") [0x6B]) tickingWorld =
      (.ok "No such file or directory (os error 2): 'file'", w) := by
  have hfit : Stats.Fits "hmac" (tickingWorld.laps 1) := by
    decide +kernel
  constructor
  · have hread : tickingWorld.files.read (.ofString "random_file") = .ok [0x61, 0x62, 0x63] := by
      decide +kernel
    obtain ⟨⟨out, w, hrun, hcode, -⟩, -⟩ :=
      text_tells_code_or_fault (.ofString "random_file") [0x6B] tickingWorld hfit
    exact ⟨out, w, hrun, (hcode _ hread).2.2.2⟩
  · have hread : tickingWorld.files.read (.ofString "file") = .error .notFound := by
      decide +kernel
    obtain ⟨⟨out, w, hrun, -, hfault, -⟩, -⟩ :=
      text_tells_code_or_fault (.ofString "file") [0x6B] tickingWorld hfit
    have hmessage : (Fault.io (.ofString "file") .notFound).message =
        "No such file or directory (os error 2): 'file'" := by decide +kernel
    rw [hfault _ hread, hmessage] at hrun
    exact ⟨w, hrun⟩

end FileMac

end CipherMeter

import CipherMeter.FileMac
import CipherMeter.Proofs.Mac.Contents
import CipherMeter.Proofs.Secrecy.Relation

namespace CipherMeter.FileMac

open Run

variable {T : Prop}

/-- Two sources of a key that are told apart by the bytes of a literal key at most. -/
inductive KeySource.Alike : KeySource → KeySource → Prop
  | literal {k₁ k₂ : Bytes} : k₁.length = k₂.length → Alike (literal k₁) (literal k₂)
  | file (path : Path) : Alike (file path) (file path)

/-- What a report tells beside the code. -/
def Report.beside (r : Report) : ℕ × Stats := (r.bytesRead, r.finalize)

def untimedBeside (p : ℕ × Stats) : ℕ × Stats := (p.1, p.2.untimed)

theorem related_loadKey {source₁ source₂ : KeySource} (h : source₁.Alike source₂) :
    Related T (fun _ _ ↦ True) (loadKey source₁) (loadKey source₂) := by
  cases h with
  | literal => exact Related.pure trivial
  | file path => exact (Related.read path).bind fun _ _ _ ↦ Related.pure trivial

theorem related_stream (mac₁ mac₂ : Mac) (path : Path) (chunkSize : ℕ) :
    Related T (fun p q ↦ p.1 = q.1) (stream mac₁ path chunkSize) (stream mac₂ path chunkSize) := by
  refine (Related.readFile path).bind fun x y h ↦ ?_
  refine (Related.orIoFault path h).bind fun contents₁ contents₂ hlength ↦ ?_
  refine Related.bind (Related.orIoFault path ?_) fun _ _ hcount ↦ Related.pure hcount
  rw [Mac.outcome_absorb_ofBytes, Mac.outcome_absorb_ofBytes, hlength]
  exact .refl (fun _ ↦ rfl) _

/-- Two files of the same length under keys of the same length are told apart by the code only. -/
theorem related_run {s₁ s₂ : Settings} (hsettings : s₁ = { s₂ with key := s₁.key })
    (hkey : s₁.key.Alike s₂.key) :
    Related T (fun r₁ r₂ ↦ Same T untimedBeside r₁.beside r₂.beside) (run s₁) (run s₂) := by
  generalize s₁.key = key₁ at hsettings hkey
  subst hsettings
  refine (Related.orFault (.refl (R := Eq) (fun _ ↦ rfl) s₂.validate)).bind fun _ _ _ ↦ ?_
  refine (Related.orFault (.refl (R := Eq) (fun _ ↦ rfl) s₂.sampler)).bind ?_
  rintro sampler _ rfl
  refine (related_loadKey hkey).bind fun key₁ key₂ _ ↦ ?_
  refine (related_stream _ _ s₂.filePath s₂.chunkSize).bind ?_
  rintro ⟨count, mac₁⟩ ⟨_, mac₂⟩ rfl
  refine (Related.record (.refl ..)).bind fun _ _ _ ↦ ?_
  refine Related.bind (Related.runWithSetup sampler "hmac" mac₁ mac₂ _ _) ?_
  rintro ⟨digest₁, finalize₁⟩ ⟨digest₂, finalize₂⟩ ⟨-, -, hfinalize⟩
  dsimp only at hfinalize ⊢
  -- the codes are not the same; of what follows only the report has them
  refine Related.bind (Related.record ⟨rfl, fun hT ↦ ?_⟩) fun _ _ _ ↦ Related.pure ?_
  · rw [hfinalize.2 hT]
  · exact ⟨congrArg (count, ·) hfinalize.1, fun hT ↦ congrArg (count, ·) (hfinalize.2 hT)⟩

end CipherMeter.FileMac

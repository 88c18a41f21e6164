import CipherMeter.Proofs.Secrecy.FileMac
import CipherMeter.Proofs.Secrecy.RoundTrip

namespace CipherMeter

open Run

/-- Keys, nonces, texts and what is authenticated beside them come neither into the reports nor into
the journal, but for the code of a file, which is what is asked for. -/
theorem indistinguishable_of_alike :
    (∀ (s₁ s₂ : RoundTrip.Settings) (w₁ w₂ : World), w₁.files.Alike w₂.files →
      s₁ = { s₂ with aad := s₁.aad } → s₂.tamper = false →
      s₁.aad.length ≤ Gcm.aadLimit → s₂.aad.length ≤ Gcm.aadLimit →
      Indistinguishable id RoundTrip.Report.untimed (RoundTrip.run s₁) (RoundTrip.run s₂) w₁ w₂) ∧
    ∀ (s₁ s₂ : FileMac.Settings) (w₁ w₂ : World), w₁.files.Alike w₂.files →
      s₁ = { s₂ with key := s₁.key } → s₁.key.Alike s₂.key →
      Indistinguishable FileMac.Report.beside FileMac.untimedBeside (FileMac.run s₁)
        (FileMac.run s₂) w₁ w₂ := by
  constructor
  · intro s₁ s₂ w₁ w₂ hfiles hsettings htamper haad₁ haad₂
    exact Related.indistinguishable
      (fun _ ↦ RoundTrip.related_run hsettings htamper haad₁ haad₂) hfiles
  · intro s₁ s₂ w₁ w₂ hfiles hsettings hkey
    exact Related.indistinguishable (fun _ ↦ FileMac.related_run hsettings hkey) hfiles

/-- The three inputs of a round trip, all made of one byte, and a clock that shows it too. -/
def uniformWorld (b : UInt8) : World :=
  { World.still ⟨[([Utf8.encode Inputs.keyName], .file (List.replicate 16 b)),
      ([Utf8.encode Inputs.nonceName], .file (List.replicate 12 b)),
      ([Utf8.encode Inputs.plaintextName], .file [b])], []⟩ with
    clock := fun n ↦ (Duration.ofNanos? (n * b.toNat)).getD .zero }

theorem indistinguishable_uniformWorld :
    Indistinguishable id RoundTrip.Report.untimed (RoundTrip.run { aad := [1, 2] })
      (RoundTrip.run {}) (uniformWorld 1) (uniformWorld 2) ∧
    Indistinguishable FileMac.Report.beside FileMac.untimedBeside
      (FileMac.run { key := .literal [3] }) (FileMac.run { key := .literal [4] })
      (uniformWorld 1) (uniformWorld 2) := by
  have hfiles : (uniformWorld 1).files.Alike (uniformWorld 2).files := .of_nodes rfl rfl
  obtain ⟨hroundTrip, hfileMac⟩ := indistinguishable_of_alike
  constructor
  · exact hroundTrip _ _ _ _ hfiles rfl rfl (by decide) (by decide)
  · exact hfileMac _ _ _ _ hfiles rfl (.literal rfl)

end CipherMeter

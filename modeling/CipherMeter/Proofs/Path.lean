import CipherMeter.Fault
import CipherMeter.Proofs.Text.Utf8

namespace CipherMeter.Path

variable {p : Path} {s : String}

theorem ofString_injective : Function.Injective ofString := by
  intro s t h
  exact Utf8.encode_injective (Path.mk.inj h)

/-- The path is valid UTF-8. -/
def IsText (p : Path) : Prop := ∃ s, p = ofString s

theorem text?_eq_some_iff : p.text? = some s ↔ p = ofString s := by
  rw [text?, Utf8.decode?_eq_some_iff, ofString, eq_comm]
  cases p
  rw [mk.injEq]

theorem textOrFlaw_eq_ok_iff : p.textOrFlaw = .ok s ↔ p = ofString s := by
  rw [← text?_eq_some_iff, textOrFlaw]
  cases p.text? with
  | some t => rw [Except.ok.injEq, Option.some.injEq]
  | none => exact ⟨nofun, nofun⟩

end CipherMeter.Path

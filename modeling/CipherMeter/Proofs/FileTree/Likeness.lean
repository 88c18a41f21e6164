import CipherMeter.FileTree
import CipherMeter.Proofs.Except

namespace CipherMeter

/-- A node as it looks from outside: of a file there is nothing but the length. -/
def Node.outline : Node → Option ℕ
  | .file a => some a.length
  | .directory => none

namespace FileTree

/-- Two trees with the same files and directories, in which each file has the same length. -/
structure Alike (t₁ t₂ : FileTree) : Prop where
  workingDirectory_eq : t₁.workingDirectory = t₂.workingDirectory
  outline_eq : ∀ l, (t₁.get? l).map Node.outline = (t₂.get? l).map Node.outline

theorem Alike.of_nodes {t₁ t₂ : FileTree} (hworking : t₁.workingDirectory = t₂.workingDirectory)
    (hnodes : t₁.nodes.map (Prod.map id Node.outline) = t₂.nodes.map (Prod.map id Node.outline)) :
    t₁.Alike t₂ where
  workingDirectory_eq := hworking
  outline_eq l := by
    have hlookup (nodes : List (Location × Node)) :
        (nodes.lookup l).map Node.outline = (nodes.map (Prod.map id Node.outline)).lookup l := by
      induction nodes with
      | nil => rfl
      | cons n nodes ih =>
        rw [List.map_cons, List.lookup_cons, List.lookup_cons, Prod.map_fst, Prod.map_snd, id]
        cases l == n.1 with
        | true => rfl
        | false => exact ih
    unfold get?
    split
    · rfl
    · rw [hlookup, hlookup, hnodes]

namespace Alike

variable {t₁ t₂ : FileTree} (h : t₁.Alike t₂)

include h

/-- At each location of like trees there is nothing, a directory, or a file of the same length. -/
theorem get?_cases (l : Location) :
    (t₁.get? l = none ∧ t₂.get? l = none) ∨
    (t₁.get? l = some .directory ∧ t₂.get? l = some .directory) ∨
    ∃ a₁ a₂, t₁.get? l = some (.file a₁) ∧ t₂.get? l = some (.file a₂) ∧
      a₁.length = a₂.length := by
  have houtline := h.outline_eq l
  generalize t₁.get? l = n₁, t₂.get? l = n₂ at houtline ⊢
  rcases n₁ with - | ⟨a₁⟩ | - <;> rcases n₂ with - | ⟨a₂⟩ | - <;>
    simp_all [Node.outline]

theorem enter_eq : t₁.enter = t₂.enter := by
  funext l name
  unfold enter
  rcases h.get?_cases (l ++ [name]) with ⟨h₁, h₂⟩ | ⟨h₁, h₂⟩ | ⟨a₁, a₂, h₁, h₂, -⟩ <;> rw [h₁, h₂]

theorem locate_eq (p : Path) : t₁.locate p = t₂.locate p := by
  unfold locate start
  rw [h.enter_eq, h.workingDirectory_eq]

/-- Reading a path fails alike in both trees or gives contents of the same length. -/
theorem liftRel_read (p : Path) :
    Except.LiftRel (fun a₁ a₂ : Bytes ↦ a₁.length = a₂.length) (t₁.read p) (t₂.read p) := by
  rw [read, read, h.locate_eq p]
  rcases t₂.locate p with e | ⟨l⟩ | ⟨dir, name, slash⟩
  · exact .error e
  · exact .error _
  · change Except.LiftRel _ (if nameLimit < name.length then _ else _)
      (if nameLimit < name.length then _ else _)
    split
    · exact .error _
    · rcases h.get?_cases (dir ++ [name]) with ⟨h₁, h₂⟩ | ⟨h₁, h₂⟩ | ⟨a₁, a₂, h₁, h₂, hlength⟩
      · rw [h₁, h₂]
        exact .error _
      · rw [h₁, h₂]
        exact .error _
      · rw [h₁, h₂]
        cases slash with
        | true => exact .error _
        | false => exact .ok hlength

end Alike

end FileTree

end CipherMeter

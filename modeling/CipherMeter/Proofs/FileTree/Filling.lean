import CipherMeter.Proofs.Except
import CipherMeter.Proofs.FileTree.Walk
import Mathlib.Tactic.SplitIfs

namespace CipherMeter.FileTree

/-- What is read at a location. -/
def contentsAt (t : FileTree) (l : Location) : Except IoError Bytes :=
  match t.get? l with
  | none => .error .notFound
  | some .directory => .error .isADirectory
  | some (.file a) => .ok a

/-- Where a file is written if it belongs at a location. -/
def placeAt (t : FileTree) (l : Location) : Except IoError Location :=
  match t.get? l with
  | some .directory => .error .isADirectory
  | _ => .ok l

variable {t t' : FileTree} {dir : Path} {name : Name}

theorem read_join (h : PlainName name) :
    t.read (dir.join name) = (t.parent dir name) >>= fun l ↦ t.contentsAt (l ++ [name]) := by
  rw [read, locate_join t dir h]
  cases t.parent dir name with
  | error e => rfl
  | ok l =>
    have hlength : ¬ nameLimit < name.length := Nat.not_lt.mpr h.length_le
    change (if nameLimit < name.length then _ else _) = t.contentsAt (l ++ [name])
    rw [if_neg hlength, contentsAt]
    rcases t.get? (l ++ [name]) with - | (a | -) <;> rfl

theorem locateNew_join (h : PlainName name) :
    t.locateNew (dir.join name) = (t.parent dir name) >>= fun l ↦ t.placeAt (l ++ [name]) := by
  rw [locateNew, locate_join t dir h]
  cases t.parent dir name with
  | error e => rfl
  | ok l =>
    have hlength : ¬ nameLimit < name.length := Nat.not_lt.mpr h.length_le
    change (if nameLimit < name.length then _ else _) = t.placeAt (l ++ [name])
    rw [if_neg hlength, placeAt]
    rcases t.get? (l ++ [name]) with - | (a | -) <;> rfl

theorem placeAt_eq_ok_iff {l k : Location} :
    t.placeAt l = .ok k ↔ k = l ∧ t.get? l ≠ some .directory := by
  rw [placeAt]
  split
  · rename_i h
    exact ⟨fun h' ↦ (nomatch h'), fun h' ↦ absurd h h'.2⟩
  · rename_i h
    exact ⟨fun h' ↦ ⟨(Except.ok.inj h').symm, fun h'' ↦ h h''⟩, fun h' ↦ h'.1 ▸ rfl⟩

/-- A file is written where the directory is, unless a directory is in its place. -/
theorem write_join_eq_ok_iff (h : PlainName name) {a : Bytes} :
    t.write (dir.join name) a = .ok t' ↔ ∃ l, t.parent dir name = .ok l ∧
      t.get? (l ++ [name]) ≠ some .directory ∧ t' = t.set (l ++ [name]) (.file a) := by
  simp only [write, Except.map_eq_ok_iff, locateNew_join h, Except.bind_eq_ok_iff,
    placeAt_eq_ok_iff]
  constructor
  · rintro ⟨_, ⟨l, hl, rfl, hplace⟩, rfl⟩
    exact ⟨l, hl, hplace, rfl⟩
  · rintro ⟨l, hl, hplace, rfl⟩
    exact ⟨_, ⟨l, hl, rfl, hplace⟩, rfl⟩

/-- Only directories are entered, and they stay directories when a file is set elsewhere. -/
theorem enter_set {l k l' : Location} {n : Name} {a : Bytes} (hk : t.get? k ≠ some .directory)
    (h : t.enter l n = .ok l') : (t.set k (.file a)).enter l n = .ok l' := by
  have hroot : k ≠ [] := by
    rintro rfl
    exact hk rfl
  unfold enter at h ⊢
  split_ifs at h ⊢ with hstay hup hlong
  · exact h
  · exact h
  · split at h
    · cases h
    · cases h
    · rename_i hdirectory
      have hne : l ++ [n] ≠ k := by
        rintro rfl
        exact hk hdirectory
      rw [get?_set t k _ _ hroot, if_neg hne, hdirectory]
      exact h

theorem walk_set {k l : Location} {a : Bytes} (hk : t.get? k ≠ some .directory)
    (h : t.walk dir = .ok l) : (t.set k (.file a)).walk dir = .ok l :=
  Except.foldlM_eq_ok_of_forall (fun _ _ _ ↦ enter_set hk) _ h

/-- After a file is written its directory is where it was, also for other names. -/
theorem parent_of_write (h : PlainName name) {a : Bytes}
    (hwrite : t.write (dir.join name) a = .ok t') (n : Name) :
    t'.parent dir n = t.parent dir n := by
  obtain ⟨l, hl, hplace, rfl⟩ := (write_join_eq_ok_iff h).mp hwrite
  have hwalk : t.walk dir = .ok l := by
    unfold parent at hl
    split at hl
    · cases hl
    · split at hl
      · cases hl
      · exact hl
  rw [parent, parent, walk_set hplace hwalk, hwalk]

theorem get?_of_write (h : PlainName name) {a : Bytes}
    (hwrite : t.write (dir.join name) a = .ok t') (k : Location) :
    t'.get? k = if t.locateNew (dir.join name) = .ok k then some (.file a) else t.get? k := by
  obtain ⟨l, hl, hplace, rfl⟩ := (write_join_eq_ok_iff h).mp hwrite
  have hlocate : t.locateNew (dir.join name) = .ok (l ++ [name]) := by
    rw [locateNew_join h, hl]
    exact placeAt_eq_ok_iff.mpr ⟨rfl, hplace⟩
  rw [get?_set t _ _ _ (by simp), hlocate]
  simp only [Except.ok.injEq, eq_comm]

/-- What is written is read back. -/
theorem read_of_write (h : PlainName name) {a : Bytes}
    (hwrite : t.write (dir.join name) a = .ok t') : t'.read (dir.join name) = .ok a := by
  have hparent := parent_of_write h hwrite name
  obtain ⟨l, hl, -, rfl⟩ := (write_join_eq_ok_iff h).mp hwrite
  rw [read_join h, hparent, hl]
  change contentsAt _ _ = _
  rw [contentsAt, get?_set t _ _ _ (by simp), if_pos rfl]

/-- The other files of the directory stay as they were. -/
theorem get?_sibling_of_write (h : PlainName name) {a : Bytes} {n : Name}
    (hwrite : t.write (dir.join name) a = .ok t') (hne : n ≠ name) (l : Location) :
    t'.get? (l ++ [n]) = t.get? (l ++ [n]) := by
  obtain ⟨k, -, -, rfl⟩ := (write_join_eq_ok_iff h).mp hwrite
  have hlast : l ++ [n] ≠ k ++ [name] :=
    fun heq ↦ hne (List.singleton_inj.mp (List.append_inj_right' heq rfl))
  rw [get?_set t _ _ _ (by simp), if_neg hlast]

theorem read_sibling_of_write (h : PlainName name) {a : Bytes} {n : Name} (hn : PlainName n)
    (hwrite : t.write (dir.join name) a = .ok t') (hne : n ≠ name) :
    t'.read (dir.join n) = t.read (dir.join n) := by
  rw [read_join hn, read_join hn, parent_of_write h hwrite]
  cases t.parent dir n with
  | error e => rfl
  | ok l =>
    change t'.contentsAt _ = t.contentsAt _
    rw [contentsAt, contentsAt, get?_sibling_of_write h hwrite hne]

theorem locateNew_sibling_of_write (h : PlainName name) {a : Bytes} {n : Name} (hn : PlainName n)
    (hwrite : t.write (dir.join name) a = .ok t') (hne : n ≠ name) :
    t'.locateNew (dir.join n) = t.locateNew (dir.join n) := by
  rw [locateNew_join hn, locateNew_join hn, parent_of_write h hwrite]
  cases t.parent dir n with
  | error e => rfl
  | ok l =>
    change t'.placeAt _ = t.placeAt _
    rw [placeAt, placeAt, get?_sibling_of_write h hwrite hne]

/-- A tree after files were put into a directory: they have their new contents, other names of the
directory read as before, and so does every other location. -/
structure Filled (t t' : FileTree) (dir : Path) (files : List (Name × Bytes)) : Prop where
  read_eq_ok : ∀ f ∈ files, t'.read (dir.join f.1) = .ok f.2
  read_eq : ∀ n, PlainName n → n ∉ files.map Prod.fst →
    t'.read (dir.join n) = t.read (dir.join n)
  get?_eq : ∀ l, (∀ f ∈ files, t.locateNew (dir.join f.1) ≠ .ok l) → t'.get? l = t.get? l
  workingDirectory_eq : t'.workingDirectory = t.workingDirectory

namespace Filled

theorem nil (t : FileTree) (dir : Path) : t.Filled t dir [] where
  read_eq_ok _ h := (nomatch h)
  read_eq _ _ _ := rfl
  get?_eq _ _ := rfl
  workingDirectory_eq := rfl

theorem cons {t₁ : FileTree} {a : Bytes} {files : List (Name × Bytes)} (h : PlainName name)
    (hplain : ∀ f ∈ files, PlainName f.1) (hwrite : t.write (dir.join name) a = .ok t₁)
    (hnew : name ∉ files.map Prod.fst) (hfilled : t₁.Filled t' dir files) :
    t.Filled t' dir ((name, a) :: files) where
  read_eq_ok f hf := by
    rcases List.mem_cons.mp hf with rfl | hf
    · rw [hfilled.read_eq name h hnew]
      exact read_of_write h hwrite
    · exact hfilled.read_eq_ok f hf
  read_eq n hn hother := by
    rw [List.map_cons, List.mem_cons, not_or] at hother
    rw [hfilled.read_eq n hn hother.2, read_sibling_of_write h hn hwrite hother.1]
  get?_eq l hl := by
    have hname := hl (name, a) (List.mem_cons_self ..)
    have hrest : ∀ f ∈ files, t₁.locateNew (dir.join f.1) ≠ .ok l := by
      intro f hf
      have hne : f.1 ≠ name := fun heq ↦ hnew (heq ▸ List.mem_map_of_mem hf)
      rw [locateNew_sibling_of_write h (hplain f hf) hwrite hne]
      exact hl f (List.mem_cons_of_mem _ hf)
    rw [hfilled.get?_eq l hrest, get?_of_write h hwrite, if_neg hname]
  workingDirectory_eq := by
    obtain ⟨_, -, -, rfl⟩ := (write_join_eq_ok_iff h).mp hwrite
    exact hfilled.workingDirectory_eq

end Filled

end CipherMeter.FileTree

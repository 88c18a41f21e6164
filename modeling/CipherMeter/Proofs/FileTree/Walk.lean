import CipherMeter.FileTree
import Mathlib.Data.List.Basic

namespace CipherMeter

namespace Path

theorem exists_pieces_eq_cons (a : Bytes) : ∃ n ns, pieces a = n :: ns := by
  cases a with
  | nil => exact ⟨_, _, rfl⟩
  | cons b a =>
    rw [pieces]
    split
    · exact ⟨_, _, rfl⟩
    · split <;> exact ⟨_, _, rfl⟩

theorem pieces_separator_cons (a : Bytes) : pieces (separator :: a) = [] :: pieces a := by
  rw [pieces, if_pos rfl]

theorem pieces_cons_of_ne {b : UInt8} {a : Bytes} {n : Name} {ns : List Name} (hb : b ≠ separator)
    (ha : pieces a = n :: ns) : pieces (b :: a) = (b :: n) :: ns := by
  rw [pieces, if_neg hb, ha]

/-- A separator cuts a path in two. -/
theorem pieces_append_separator (a b : Bytes) :
    pieces (a ++ separator :: b) = pieces a ++ pieces b := by
  induction a with
  | nil => exact pieces_separator_cons b
  | cons c a ih =>
    by_cases hc : c = separator
    · rw [hc, List.cons_append, pieces_separator_cons, pieces_separator_cons, ih, List.cons_append]
    · obtain ⟨n, ns, ha⟩ := exists_pieces_eq_cons a
      have hab : pieces (a ++ separator :: b) = n :: (ns ++ pieces b) := by
        rw [ih, ha, List.cons_append]
      rw [List.cons_append, pieces_cons_of_ne hc hab, pieces_cons_of_ne hc ha, List.cons_append]

theorem pieces_of_not_mem {name : Name} (h : separator ∉ name) : pieces name = [name] := by
  induction name with
  | nil => rfl
  | cons b name ih =>
    rw [List.mem_cons, not_or] at h
    exact pieces_cons_of_ne (Ne.symm h.1) (ih h.2)

end Path

namespace FileTree

/-- A name that stands for an entry of a directory wherever it is used. -/
structure PlainName (name : Name) : Prop where
  ne_nil : name ≠ []
  ne_here : name ≠ here
  ne_up : name ≠ up
  separator_not_mem : Path.separator ∉ name
  nul_not_mem : 0 ∉ name
  length_le : name.length ≤ nameLimit

/-- The directory that a path leads to. -/
def walk (t : FileTree) (p : Path) : Except IoError Location :=
  (Path.pieces p.bytes).foldlM t.enter (t.start p)

/-- The directory that a path with one more name leads to, if the whole is a path. -/
def parent (t : FileTree) (dir : Path) (name : Name) : Except IoError Location :=
  if dir.bytes.contains 0 then .error .nulInName
  else if pathLimit ≤ (dir.join name).bytes.length then .error .nameTooLong
  else t.walk dir

theorem enter_nil (t : FileTree) (l : Location) : t.enter l [] = .ok l := if_pos (.inl rfl)

theorem start_eq_of_head? (t : FileTree) {p q : Path} (h : p.bytes.head? = q.bytes.head?) :
    t.start p = t.start q := by
  rw [start, start, h]

theorem contains_join (dir : Path) {name : Name} (h : PlainName name) :
    (dir.join name).bytes.contains 0 = dir.bytes.contains 0 := by
  rw [Path.join]
  split
  · simp [h.nul_not_mem]
  · have hseparator : (0 : UInt8) ≠ Path.separator := by decide
    simp [h.nul_not_mem, hseparator]

/-- The names before the last one of a joined path lead where the directory does. -/
theorem exists_pieces_join (t : FileTree) (dir : Path) {name : Name} (h : PlainName name) :
    ∃ before, Path.pieces (dir.join name).bytes = before ++ [name] ∧
      before.foldlM t.enter (t.start (dir.join name)) = t.walk dir := by
  have hname := Path.pieces_of_not_mem h.separator_not_mem
  obtain ⟨a⟩ := dir
  rcases List.eq_nil_or_concat' a with rfl | ⟨a, b, rfl⟩
  · -- the name alone is looked up where the empty path leads
    refine ⟨[], hname, ?_⟩
    have hstart : t.start (Path.join ⟨[]⟩ name) = t.start ⟨[]⟩ := by
      have hhead : name.head? ≠ some Path.separator :=
        fun hs ↦ h.separator_not_mem (List.mem_of_head? hs)
      exact (if_neg hhead).trans (if_neg nofun).symm
    rw [hstart, walk, Path.pieces, List.foldlM_cons, enter_nil]
    rfl
  · by_cases hb : b = Path.separator
    · -- a separator is there already, and the empty name after it stays in the directory
      subst hb
      have hjoin : Path.join ⟨a ++ [Path.separator]⟩ name = ⟨a ++ Path.separator :: name⟩ := by
        simp [Path.join]
      have hstart : t.start ⟨a ++ Path.separator :: name⟩ = t.start ⟨a ++ [Path.separator]⟩ := by
        refine t.start_eq_of_head? ?_
        cases a <;> rfl
      refine ⟨Path.pieces a, ?_, ?_⟩
      · rw [hjoin, Path.pieces_append_separator, hname]
      · rw [hjoin, hstart, walk, Path.pieces_append_separator, List.foldlM_append, Path.pieces]
        cases (Path.pieces a).foldlM t.enter (t.start ⟨a ++ [Path.separator]⟩) with
        | error e => rfl
        | ok l => exact (enter_nil t l).symm
    · have hjoin : Path.join ⟨a ++ [b]⟩ name = ⟨a ++ [b] ++ Path.separator :: name⟩ := by
        simp [Path.join, hb]
      have hstart : t.start ⟨a ++ [b] ++ Path.separator :: name⟩ = t.start ⟨a ++ [b]⟩ := by
        refine t.start_eq_of_head? ?_
        cases a <;> rfl
      refine ⟨Path.pieces (a ++ [b]), ?_, ?_⟩
      · rw [hjoin, Path.pieces_append_separator, hname]
      · rw [hjoin, hstart, walk]

/-- A joined path is an entry of the directory. -/
theorem locate_join (t : FileTree) (dir : Path) {name : Name} (h : PlainName name) :
    t.locate (dir.join name) = (t.parent dir name).map (.entry · name false) := by
  obtain ⟨before, hpieces, hwalk⟩ := exists_pieces_join t dir h
  have hne : (dir.join name).bytes ≠ [] := by
    rw [Path.join]
    split <;> simp [h.ne_nil]
  have hlast : (before ++ [name]).reverse.dropWhile List.isEmpty = name :: before.reverse := by
    rw [List.reverse_append, List.reverse_singleton, List.singleton_append,
      List.dropWhile_cons_of_neg (by simp [h.ne_nil])]
  have hhead : (before ++ [name]).reverse.head? = some name := by simp
  rw [locate, parent, contains_join dir h, if_neg hne]
  split
  · rfl
  · split
    · rfl
    · simp only [hpieces, hlast, hhead, List.reverse_reverse, hwalk, h.ne_here, h.ne_up, if_false,
        Option.some.injEq, h.ne_nil, decide_false]

end FileTree

end CipherMeter

import CipherMeter.IoError
import CipherMeter.Path

/-!
# File trees

A tree of directories and files without links, and the way a path is followed in it: name by name
through directories that exist, where a single dot stays and two dots go back up. A path begins in
the working directory, or at the root if a separator stands first.
-/

namespace CipherMeter

abbrev Name := Bytes

abbrev Location := List Name

inductive Node
  | file (contents : Bytes)
  | directory
  deriving DecidableEq, Repr

/-- Files and directories by location. The root is a directory without being listed. -/
structure FileTree where
  nodes : List (Location × Node)
  workingDirectory : Location
  deriving DecidableEq

def Path.pieces : Bytes → List Name
  | [] => [[]]
  | b :: r =>
    if b = Path.separator then [] :: pieces r
    else
      match pieces r with
      | [] => [[b]]
      | n :: ns => (b :: n) :: ns

namespace FileTree

def here : Name := [0x2E]

def up : Name := [0x2E, 0x2E]

def nameLimit : Nat := 255

/-- The fewest bytes that are too many for a path. -/
def pathLimit : Nat := 4096

def empty (workingDirectory : Location) : FileTree where
  nodes := (List.range workingDirectory.length).map fun n ↦
    (workingDirectory.take (n + 1), .directory)
  workingDirectory

def get? (t : FileTree) (l : Location) : Option Node :=
  if l = [] then some .directory else t.nodes.lookup l

def erase (t : FileTree) (l : Location) : FileTree :=
  { t with nodes := t.nodes.filter fun n ↦ n.1 ≠ l }

def set (t : FileTree) (l : Location) (n : Node) : FileTree :=
  { t with nodes := (l, n) :: (t.erase l).nodes }

theorem get?_set (t : FileTree) (l k : Location) (n : Node) (h : l ≠ []) :
    (t.set l n).get? k = if k = l then some n else t.get? k := by
  have herase : ∀ nodes : List (Location × Node), k ≠ l →
      (nodes.filter fun m ↦ m.1 ≠ l).lookup k = nodes.lookup k := by
    intro nodes hkl
    induction nodes with
    | nil => rfl
    | cons m nodes ih =>
      obtain ⟨l', n'⟩ := m
      by_cases hl : l' = l
      · subst hl
        rw [List.filter_cons_of_neg (by simp), List.lookup_cons, ih,
          beq_eq_false_iff_ne.2 hkl]
      · rw [List.filter_cons_of_pos (by simpa using hl), List.lookup_cons, List.lookup_cons, ih]
  by_cases hk : k = l
  · subst hk
    rw [get?, if_neg h, set, List.lookup_cons, beq_self_eq_true, if_pos rfl]
  · rw [if_neg hk]
    unfold get?
    split
    · rfl
    · rw [set, List.lookup_cons, beq_eq_false_iff_ne.2 hk]
      exact herase t.nodes hk

def start (t : FileTree) (p : Path) : Location :=
  if p.bytes.head? = some Path.separator then [] else t.workingDirectory

def enter (t : FileTree) (l : Location) (name : Name) : Except IoError Location :=
  if name = [] ∨ name = here then .ok l
  else if name = up then .ok l.dropLast
  else if nameLimit < name.length then .error .nameTooLong
  else
    match t.get? (l ++ [name]) with
    | none => .error .notFound
    | some (.file _) => .error .notADirectory
    | some .directory => .ok (l ++ [name])

inductive Target
  | directory (l : Location)
  /-- The flag says whether a separator follows the name. -/
  | entry (dir : Location) (name : Name) (slash : Bool)
  deriving DecidableEq, Repr

def locate (t : FileTree) (p : Path) : Except IoError Target :=
  if p.bytes.contains 0 then .error .nulInName
  else if p.bytes = [] then .error .notFound
  else if pathLimit ≤ p.bytes.length then .error .nameTooLong
  else
    let backwards := (Path.pieces p.bytes).reverse
    match backwards.dropWhile List.isEmpty with
    | [] => .ok (.directory (t.start p))
    | last :: before =>
      (before.reverse.foldlM t.enter (t.start p)).map fun dir ↦
        if last = here then .directory dir
        else if last = up then .directory dir.dropLast
        else .entry dir last (backwards.head? = some [])

def read (t : FileTree) (p : Path) : Except IoError Bytes := do
  match ← t.locate p with
  | .directory _ => throw .isADirectory
  | .entry dir name slash =>
    if nameLimit < name.length then throw .nameTooLong
    match t.get? (dir ++ [name]) with
    | none => throw .notFound
    | some .directory => throw .isADirectory
    | some (.file contents) => if slash then throw .notADirectory else return contents

def locateNew (t : FileTree) (p : Path) : Except IoError Location := do
  match ← t.locate p with
  | .directory _ => throw .isADirectory
  | .entry dir name slash =>
    if slash then throw .isADirectory
    if nameLimit < name.length then throw .nameTooLong
    match t.get? (dir ++ [name]) with
    | some .directory => throw .isADirectory
    | _ => return dir ++ [name]

def write (t : FileTree) (p : Path) (contents : Bytes) : Except IoError FileTree :=
  (t.locateNew p).map fun l ↦ t.set l (.file contents)

def enterNew (s : FileTree × Location) (name : Name) : Except IoError (FileTree × Location) :=
  match s.1.enter s.2 name with
  | .ok l => .ok (s.1, l)
  | .error error =>
    if error = .notFound then .ok (s.1.set (s.2 ++ [name]) .directory, s.2 ++ [name])
    else .error error

def makeDirectories (t : FileTree) (p : Path) : Except IoError FileTree :=
  if p.bytes.contains 0 then .error .nulInName
  else ((Path.pieces p.bytes).foldlM enterNew (t, t.start p)).map Prod.fst

def remove (t : FileTree) (p : Path) : Except IoError FileTree := do
  let _ ← t.read p
  return t.erase (← t.locateNew p)

def below (t : FileTree) : List (Location × Node) :=
  t.nodes.filterMap fun (l, n) ↦
    let (above, inside) := l.splitAt t.workingDirectory.length
    if above = t.workingDirectory ∧ inside ≠ [] then some (inside, n) else none

/-- All files and directories below the working directory, each directory before what it holds, in
the order of the names. A separator follows the names of directories, which have no contents. -/
def listing (t : FileTree) : List (Path × Option Bytes) :=
  (t.below.mergeSort fun a b ↦ decide (a.1 ≤ b.1)).map fun (l, n) ↦
    let whole := [Path.separator].intercalate l
    match n with
    | .file contents => (⟨whole⟩, some contents)
    | .directory => (⟨whole ++ [Path.separator]⟩, none)

end FileTree

end CipherMeter

import CipherMeter.Proofs.FileTree.Filling
import CipherMeter.Proofs.Run

namespace CipherMeter

theorem Aes.KeySize.ofLength?_eq_none_iff {n : ℕ} :
    ofLength? n = none ↔ n ≠ 16 ∧ n ≠ 24 ∧ n ≠ 32 := by
  simp only [Option.eq_none_iff_forall_ne_some, ne_eq, ofLength?_eq_some_iff]
  constructor
  · exact fun h ↦ ⟨h .aes128, h .aes192, h .aes256⟩
  · rintro ⟨h₁, h₂, h₃⟩ (- | - | -)
    · exact h₁
    · exact h₂
    · exact h₃

theorem Aes.KeySize.isSome_ofLength?_iff {n : ℕ} :
    (ofLength? n).isSome ↔ n = 16 ∨ n = 24 ∨ n = 32 := by
  rw [Option.isSome_iff_ne_none, ne_eq, ofLength?_eq_none_iff]
  omega

namespace Crash

/-- A buffer of `size` bytes cannot be had, and this crash tells why: its bytes are more than can be
addressed, or more than memory has for them. -/
def LacksRoom (memory size : ℕ) : Crash → Prop
  | .capacity => 0x8000000000000000 ≤ size
  | .outOfMemory asked => asked = size ∧ size < 0x8000000000000000 ∧ memory < size
  | .durationSum | .secondsTooLarge => False

theorem ofAllocation?_eq_some_iff {memory size : ℕ} {c : Crash} :
    ofAllocation? memory size = some c ↔ c.LacksRoom memory size := by
  unfold ofAllocation? Bytes.addressLimit
  split
  · cases c <;> simp [LacksRoom] <;> omega
  · split
    · cases c <;> simp [LacksRoom] <;> omega
    · cases c <;> simp [LacksRoom] <;> omega

theorem exitCode_eq (c : Crash) : c.exitCode = 101 ∨ c.exitCode = 134 := by
  cases c <;> simp [exitCode]

end Crash

namespace World

/-- The world with another generator. -/
def withGenerator (w : World) (generator : Generator) : World := { w with generator }

@[simp] theorem withGenerator_withGenerator (w : World) (g h : Generator) :
    (w.withGenerator g).withGenerator h = w.withGenerator h := rfl

@[simp] theorem generator_withGenerator (w : World) (g : Generator) :
    (w.withGenerator g).generator = g := rfl

@[simp] theorem files_withGenerator (w : World) (g : Generator) :
    (w.withGenerator g).files = w.files := rfl

end World

namespace Inputs

open FileTree Run

theorem inWorld_write (path : Path) (a : Bytes) (w : World) :
    inWorld (write path a) w = match w.files.write path a with
      | .ok files => (.ok (), { w with files })
      | .error e => (.error (.fault (.io path e)), w) := by
  have hwrite : inWorld (Host.writeFile path a) w = match w.files.write path a with
      | .ok files => (.ok (.ok ()), { w with files })
      | .error e => (.ok (.error e), w) := by
    change (Except.ok _, _) = _
    cases w.files.write path a <;> rfl
  rw [write, inWorld_bind, hwrite]
  cases w.files.write path a <;> rfl

/-- Writes files into a directory, one after the other. -/
def fill (dir : Path) : List (Name × Bytes) → Run Unit
  | [] => pure ()
  | (name, a) :: files => do
    write (dir.join name) a
    fill dir files

/-- Filling a directory writes all files, or stops at one that cannot be written and has written
those before it. -/
theorem inWorld_fill (dir : Path) (files : List (Name × Bytes))
    (hplain : ∀ f ∈ files, PlainName f.1) (hnodup : (files.map Prod.fst).Nodup) (w : World) :
    (∃ t, inWorld (fill dir files) w = (.ok (), { w with files := t }) ∧
      w.files.Filled t dir files) ∨
    ∃ done name a rest e t, files = done ++ (name, a) :: rest ∧
      inWorld (fill dir files) w =
        (.error (.fault (.io (dir.join name) e)), { w with files := t }) ∧
      w.files.Filled t dir done := by
  induction files generalizing w with
  | nil => exact .inl ⟨w.files, rfl, .nil w.files dir⟩
  | cons f files ih =>
    obtain ⟨name, a⟩ := f
    rw [List.map_cons, List.nodup_cons] at hnodup
    have hname := hplain _ (List.mem_cons_self ..)
    have hrest : ∀ f ∈ files, PlainName f.1 := fun f hf ↦ hplain f (List.mem_cons_of_mem _ hf)
    cases hwrite : w.files.write (dir.join name) a with
    | error e =>
      refine .inr ⟨[], name, a, files, e, w.files, rfl, ?_, .nil w.files dir⟩
      rw [fill, inWorld_bind, inWorld_write, hwrite]
    | ok t₁ =>
      have hstep : inWorld (fill dir ((name, a) :: files)) w =
          inWorld (fill dir files) { w with files := t₁ } := by
        rw [fill, inWorld_bind, inWorld_write, hwrite]
      rw [hstep]
      rcases ih hrest hnodup.2 { w with files := t₁ } with
        ⟨t, hrun, hfilled⟩ | ⟨done, n, b, rest, e, t, rfl, hrun, hfilled⟩
      · exact .inl ⟨t, hrun, .cons hname hrest hwrite hnodup.1 hfilled⟩
      · refine .inr ⟨(name, a) :: done, n, b, rest, e, t, rfl, hrun, ?_⟩
        have hdone : name ∉ done.map Prod.fst := by
          intro hmem
          rw [List.map_append] at hnodup
          exact hnodup.1 (List.mem_append_left _ hmem)
        exact .cons hname (fun f hf ↦ hrest f (List.mem_append_left _ hf)) hwrite hdone hfilled

/-- The files with the bytes that are drawn for them, and the generator after the draws. -/
def drawn (g : Generator) (keySize plaintextSize : ℕ) : List (Name × Bytes) × Generator :=
  let key := g.draw keySize
  let nonce := key.2.draw 12
  let plaintext := nonce.2.draw plaintextSize
  ([(Utf8.encode keyName, key.1), (Utf8.encode nonceName, nonce.1),
    (Utf8.encode plaintextName, plaintext.1)], plaintext.2)

theorem plainName_of_mem_drawn {g : Generator} {keySize plaintextSize : ℕ} :
    ∀ f ∈ (drawn g keySize plaintextSize).1, PlainName f.1 := by
  have hkey : PlainName (Utf8.encode keyName) := by constructor <;> decide +kernel
  have hnonce : PlainName (Utf8.encode nonceName) := by constructor <;> decide +kernel
  have hplaintext : PlainName (Utf8.encode plaintextName) := by constructor <;> decide +kernel
  simp only [drawn, List.forall_mem_cons]
  exact ⟨hkey, hnonce, hplaintext, nofun⟩

theorem names_drawn (g : Generator) (keySize plaintextSize : ℕ) :
    (drawn g keySize plaintextSize).1.map Prod.fst =
      [Utf8.encode keyName, Utf8.encode nonceName, Utf8.encode plaintextName] := rfl

theorem nodup_names_drawn (g : Generator) (keySize plaintextSize : ℕ) :
    ((drawn g keySize plaintextSize).1.map Prod.fst).Nodup := by
  rw [names_drawn]
  decide +kernel

theorem lengths_drawn (g : Generator) (keySize plaintextSize : ℕ) :
    (drawn g keySize plaintextSize).1.map (·.2.length) = [keySize, 12, plaintextSize] := by
  simp [drawn]

theorem inWorld_draw (w : World) (n : ℕ) :
    inWorld (Host.draw n) w =
      (.ok (w.generator.draw n).1, w.withGenerator (w.generator.draw n).2) := rfl

section

variable {dir : Path} {keySize plaintextSize memory : ℕ} (w : World)

theorem inWorld_generate_of_keySize (h : Aes.KeySize.ofLength? keySize = none) :
    inWorld (generate dir keySize plaintextSize memory) w =
      (.error (.fault (.invalidKeyLength keySize)), w) := by
  rw [generate, h]
  rfl

/-- A plaintext that cannot be allocated is found out after the key and the nonce are drawn. -/
theorem inWorld_generate_of_crash (h : (Aes.KeySize.ofLength? keySize).isSome) {c : Crash}
    (hcrash : Crash.ofAllocation? memory plaintextSize = some c) :
    inWorld (generate dir keySize plaintextSize memory) w =
      (.error (.crash c), w.withGenerator ((w.generator.draw keySize).2.draw 12).2) := by
  obtain ⟨size, hsome⟩ := Option.isSome_iff_exists.mp h
  rw [generate, hsome, hcrash]
  rfl

theorem inWorld_generate (h : (Aes.KeySize.ofLength? keySize).isSome)
    (hfits : Crash.ofAllocation? memory plaintextSize = none) :
    inWorld (generate dir keySize plaintextSize memory) w =
      match inWorld (fill dir (drawn w.generator keySize plaintextSize).1)
        (w.withGenerator (drawn w.generator keySize plaintextSize).2) with
      | (.ok (), w') =>
        (.ok (.inDirectory dir), w'.note [.inputsWritten dir keySize plaintextSize])
      | (.error e, w') => (.error e, w') := by
  obtain ⟨size, hsome⟩ := Option.isSome_iff_exists.mp h
  let key := w.generator.draw keySize
  let nonce := key.2.draw 12
  let plaintext := nonce.2.draw plaintextSize
  rw [generate, hsome, hfits]
  simp only [Option.isNone_some, Bool.false_eq_true, if_false]
  rw [inWorld_bind_of_ok _ (inWorld_draw w keySize), inWorld_bind_of_ok _ (inWorld_draw _ 12),
    inWorld_bind_of_ok _ (inWorld_draw _ plaintextSize)]
  have hfill : (do
      write (Paths.inDirectory dir).key key.1
      write (Paths.inDirectory dir).nonce nonce.1
      write (Paths.inDirectory dir).plaintext plaintext.1
      Host.record (.inputsWritten dir keySize plaintextSize)
      return .inDirectory dir : Run Paths) = (do
      fill dir (drawn w.generator keySize plaintextSize).1
      Host.record (.inputsWritten dir keySize plaintextSize)
      return .inDirectory dir) := by
    simp only [drawn, fill, bind_assoc, pure_bind]
    rfl
  refine (congrArg (inWorld · _) hfill).trans ?_
  have hworld : ((w.withGenerator key.2).withGenerator nonce.2).withGenerator plaintext.2 =
      w.withGenerator (drawn w.generator keySize plaintextSize).2 := rfl
  change inWorld _ (((w.withGenerator key.2).withGenerator nonce.2).withGenerator plaintext.2) = _
  rw [hworld, inWorld_bind]
  rcases inWorld (fill dir (drawn w.generator keySize plaintextSize).1)
    (w.withGenerator (drawn w.generator keySize plaintextSize).2) with ⟨e | -, w'⟩
  · rfl
  · rfl

end

/-- Generation is refused by the key size, crashes if the plaintext cannot be allocated, and
otherwise puts all files into the directory, or those before one that fails. -/
theorem inWorld_generate_cases (dir : Path) (keySize plaintextSize memory : ℕ) (w : World) :
    (Aes.KeySize.ofLength? keySize = none ∧ inWorld (generate dir keySize plaintextSize memory) w =
      (.error (.fault (.invalidKeyLength keySize)), w)) ∨
    ((Aes.KeySize.ofLength? keySize).isSome ∧
      ∃ c g, Crash.ofAllocation? memory plaintextSize = some c ∧
        inWorld (generate dir keySize plaintextSize memory) w =
          (.error (.crash c), w.withGenerator g)) ∨
    ((Aes.KeySize.ofLength? keySize).isSome ∧ Crash.ofAllocation? memory plaintextSize = none ∧
      ((∃ w', inWorld (generate dir keySize plaintextSize memory) w =
            (.ok (.inDirectory dir), w') ∧
          w.files.Filled w'.files dir (drawn w.generator keySize plaintextSize).1) ∨
        ∃ done name a rest e w',
          (drawn w.generator keySize plaintextSize).1 = done ++ (name, a) :: rest ∧
          inWorld (generate dir keySize plaintextSize memory) w =
            (.error (.fault (.io (dir.join name) e)), w') ∧
          w.files.Filled w'.files dir done)) := by
  cases hkey : Aes.KeySize.ofLength? keySize with
  | none => exact .inl ⟨rfl, inWorld_generate_of_keySize w hkey⟩
  | some size =>
    have hsome : (Aes.KeySize.ofLength? keySize).isSome := by rw [hkey]; rfl
    cases hcrash : Crash.ofAllocation? memory plaintextSize with
    | some c => exact .inr (.inl ⟨rfl, c, _, rfl, inWorld_generate_of_crash w hsome hcrash⟩)
    | none =>
      refine .inr (.inr ⟨rfl, rfl, ?_⟩)
      rw [inWorld_generate w hsome hcrash]
      rcases inWorld_fill dir _ plainName_of_mem_drawn (nodup_names_drawn ..)
        (w.withGenerator (drawn w.generator keySize plaintextSize).2) with
        ⟨t, hrun, hfilled⟩ | ⟨done, name, a, rest, e, t, hfiles, hrun, hfilled⟩
      · rw [hrun]
        exact .inl ⟨_, rfl, hfilled⟩
      · rw [hrun]
        exact .inr ⟨done, name, a, rest, e, _, hfiles, rfl, hfilled⟩

/-- The files drawn that are not written yet read as before. -/
theorem read_eq_of_drawn {g : Generator} {dir : Path} {keySize plaintextSize : ℕ} {t t' : FileTree}
    {done rest : List (Name × Bytes)} (hfiles : (drawn g keySize plaintextSize).1 = done ++ rest)
    (hfilled : t.Filled t' dir done) {f : Name × Bytes} (hf : f ∈ rest) :
    t'.read (dir.join f.1) = t.read (dir.join f.1) := by
  have hmem : f ∈ (drawn g keySize plaintextSize).1 := by
    rw [hfiles]
    exact List.mem_append_right _ hf
  refine hfilled.read_eq f.1 (plainName_of_mem_drawn f hmem) fun hdone ↦ ?_
  have hnodup := nodup_names_drawn g keySize plaintextSize
  rw [hfiles, List.map_append, List.nodup_append] at hnodup
  exact hnodup.2.2 f.1 hdone f.1 (List.mem_map_of_mem hf) rfl

/-- What becomes of the files when inputs are generated, for each way in which that ends. -/
def Effect (dir : Path) (keySize plaintextSize : ℕ) (w : World) :
    Except Failure Paths × World → Prop
  | (.ok paths, w') =>
    paths = .inDirectory dir ∧
      (drawn w.generator keySize plaintextSize).1.map (·.2.length) = [keySize, 12, plaintextSize] ∧
      w.files.Filled w'.files dir (drawn w.generator keySize plaintextSize).1
  | (.error (.fault fault), w') =>
    (fault = .invalidKeyLength keySize ∧ (keySize ≠ 16 ∧ keySize ≠ 24 ∧ keySize ≠ 32) ∧ w' = w) ∨
      ∃ done name a rest e,
        (drawn w.generator keySize plaintextSize).1 = done ++ (name, a) :: rest ∧
        fault = .io (dir.join name) e ∧ w.files.Filled w'.files dir done ∧
        ∀ f ∈ (name, a) :: rest, w'.files.read (dir.join f.1) = w.files.read (dir.join f.1)
  | (.error (.crash _), w') => w'.files = w.files

theorem effect_generate (dir : Path) (keySize plaintextSize memory : ℕ) (w : World) :
    Effect dir keySize plaintextSize w (inWorld (generate dir keySize plaintextSize memory) w) := by
  rcases inWorld_generate_cases dir keySize plaintextSize memory w with
    ⟨hkey, hrun⟩ | ⟨-, c, g, -, hrun⟩ |
    ⟨-, -, ⟨w', hrun, hfilled⟩ | ⟨done, name, a, rest, e, w', hfiles, hrun, hfilled⟩⟩
  · rw [hrun]
    exact .inl ⟨rfl, Aes.KeySize.ofLength?_eq_none_iff.mp hkey, rfl⟩
  · rw [hrun]
    exact w.files_withGenerator g
  · rw [hrun]
    exact ⟨rfl, lengths_drawn .., hfilled⟩
  · rw [hrun]
    exact .inr ⟨done, name, a, rest, e, hfiles, rfl, hfilled,
      fun _ hf ↦ read_eq_of_drawn hfiles hfilled hf⟩

end Inputs

end CipherMeter

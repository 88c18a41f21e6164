import CipherMeter.Proofs.Hex
import CipherMeter.Text.Echo

/-!
A reader of JSON objects whose values are texts, whole numbers, truth values, or again objects of
these. It skips blanks and takes every escape, and so owes nothing to the way in which an echo lays
out its lines. What it reads from an echo is what was written.
-/

namespace CipherMeter.Text.Json

/-- A reader gives what is read from the front of a text, and what is left. -/
abbrev Reader (α : Type) := List Char → Option (α × List Char)

def skip (cs : List Char) : List Char := cs.dropWhile Char.isWhitespace

/-- The character that a backslash and a letter stand for. -/
def unescape : Char → Option Char
  | '"' => some '"'
  | '\\' => some '\\'
  | '/' => some '/'
  | 'b' => some '\x08'
  | 'f' => some '\x0c'
  | 'n' => some '\n'
  | 'r' => some '\r'
  | 't' => some '\t'
  | _ => none

/-- The character whose value four hexadecimal digits give. -/
def codePoint? (digits : List Char) : Option Char :=
  match Hex.decode (.ofList digits) with
  | .ok [high, low] =>
    let v := high.toNat * 256 + low.toNat
    if v.isValidChar then some (.ofNat v) else none
  | _ => none

def follow (c : Char) (rest : Option (List Char × List Char)) : Option (List Char × List Char) :=
  rest.map fun (cs, r) ↦ (c :: cs, r)

/-- The characters up to the quote at the end. -/
def readChars : Reader (List Char)
  | [] => none
  | '"' :: r => some ([], r)
  | '\\' :: 'u' :: d₁ :: d₂ :: d₃ :: d₄ :: r =>
    (codePoint? [d₁, d₂, d₃, d₄]).bind fun c ↦ follow c (readChars r)
  | '\\' :: e :: r => (unescape e).bind fun c ↦ follow c (readChars r)
  | c :: r => if c.toNat < 0x20 then none else follow c (readChars r)

def readText : Reader String
  | '"' :: r => (readChars r).map fun (cs, r) ↦ (.ofList cs, r)
  | _ => none

/-- A whole number, which has no digit that it does not need. -/
def readNumber : Reader Nat := fun cs ↦
  let digits := cs.takeWhile Char.isDigit
  let n := Nat.ofDigitChars 10 digits 0
  if Nat.toDigits 10 n = digits then some (n, cs.dropWhile Char.isDigit) else none

def readScalar : Reader Scalar
  | '"' :: r => (readText ('"' :: r)).map fun (s, r) ↦ (.text s, r)
  | 't' :: 'r' :: 'u' :: 'e' :: r => some (.flag true, r)
  | 'f' :: 'a' :: 'l' :: 's' :: 'e' :: r => some (.flag false, r)
  | cs => (readNumber cs).map fun (n, r) ↦ (.number n, r)

section

variable {α : Type} (value : Reader α)

def readMember : Reader (String × α) := fun cs ↦ do
  let (name, cs) ← readText cs
  let ':' :: cs := skip cs | none
  (value (skip cs)).map fun (v, r) ↦ ((name, v), r)

/-- At most `n` members up to the brace at the end. -/
def readMembers : Nat → Reader (List (String × α))
  | 0, _ => none
  | n + 1, cs => do
    let (member, cs) ← readMember value (skip cs)
    match skip cs with
    | '\x7d' :: r => some ([member], r)
    | ',' :: r => (readMembers n r).map fun (members, r) ↦ (member :: members, r)
    | _ => none

/-- An object has fewer members than characters. -/
def readObject : Reader (List (String × α))
  | '\x7b' :: r =>
    match skip r with
    | '\x7d' :: r => some ([], r)
    | _ => readMembers value r.length r
  | _ => none

end

def readValue : Reader EchoValue := fun cs ↦
  ((readScalar cs).map fun (v, r) ↦ (.scalar v, r)) <|>
    (readObject readScalar cs).map fun (fields, r) ↦ (.record fields, r)

/-- The members of the object that a text is. -/
def read? (s : String) : Option (List (String × EchoValue)) := do
  let (fields, r) ← readObject readValue (skip s.toList)
  if skip r = [] then some fields else none

theorem codePoint?_digits {n : ℕ} (h : n < 0x20) :
    codePoint? ['0', '0', Nat.digitChar (n / 16), Nat.digitChar (n % 16)] =
      some (Char.ofNat n) := by
  have hdigits : ∀ n < 0x20, ['0', '0', Nat.digitChar (n / 16), Nat.digitChar (n % 16)] =
      [0, UInt8.ofNat n].flatMap Hex.digits := by decide
  have hlow := Utf8.toNat_ofNat_of_lt (n := n) (by omega)
  have hvalid : n.isValidChar := .inl (by omega)
  rw [codePoint?, hdigits n h, ← Hex.encode, Hex.decode_encode]
  simp only [UInt8.reduceToNat, Nat.zero_mul, Nat.zero_add, hlow]
  rw [if_pos hvalid]

/-- An escaped character is read back, so that it never ends its text. -/
theorem readChars_escapeJson (c : Char) (r : List Char) :
    readChars (escapeJson c ++ r) = follow c (readChars r) := by
  unfold escapeJson
  split
  · rfl
  · rfl
  · rfl
  · rfl
  · rfl
  · rfl
  · rfl
  · split
    · rename_i h
      have hc : Char.ofNat c.toNat = c := Char.ofNat_toNat c
      simp only [List.cons_append, List.nil_append]
      rw [readChars, codePoint?_digits h, hc]
      rfl
    · rename_i hquote hbackslash _ _ _ _ _ hlow
      rw [List.singleton_append, readChars, if_neg hlow]
      · exact hquote
      · exact fun _ _ _ _ _ h _ ↦ hbackslash h
      · exact fun _ _ h _ ↦ hbackslash h

theorem readChars_flatMap_escapeJson (cs r : List Char) :
    readChars (cs.flatMap escapeJson ++ '"' :: r) = some (cs, r) := by
  induction cs with
  | nil => rfl
  | cons c cs ih =>
    rw [List.flatMap_cons, List.append_assoc, readChars_escapeJson, ih]
    rfl

theorem toList_quoteJson_append (s : String) (r : List Char) :
    (quoteJson s).toList ++ r = '"' :: (s.toList.flatMap escapeJson ++ '"' :: r) := by
  rw [quoteJson, String.toList_ofList, List.append_assoc]
  rfl

/-- The reader takes exactly the text off the front, whatever follows it but a digit. -/
def Takes {α : Type} (read : Reader α) (text : String) (a : α) : Prop :=
  ∀ r : List Char, (∀ c ∈ r.head?, c.isDigit = false) →
    read (skip (text.toList ++ r)) = some (a, r)

theorem skip_cons {c : Char} (h : c.isWhitespace = false) (r : List Char) :
    skip (c :: r) = c :: r := by
  rw [skip, List.dropWhile_cons_of_neg]
  rw [h]
  exact Bool.false_ne_true

theorem takes_text (s : String) : Takes readText (quoteJson s) s := by
  intro r _
  rw [toList_quoteJson_append, skip_cons rfl, readText, readChars_flatMap_escapeJson,
    Option.map_some]
  dsimp only
  rw [String.ofList_toList]

theorem readNumber_toDigits (n : ℕ) {r : List Char} (hr : ∀ c ∈ r.head?, c.isDigit = false) :
    readNumber (Nat.toDigits 10 n ++ r) = some (n, r) := by
  have hdigits : ∀ c ∈ Nat.toDigits 10 n, c.isDigit = true := fun c hc ↦
    Nat.isDigit_of_mem_toDigits (by decide) (by decide) hc
  have hstop : r.takeWhile Char.isDigit = [] ∧ r.dropWhile Char.isDigit = r := by
    cases r with
    | nil => exact ⟨rfl, rfl⟩
    | cons c r =>
      have hc := hr c rfl
      simp [hc]
  rw [readNumber, List.takeWhile_append_of_pos hdigits, List.dropWhile_append_of_pos hdigits,
    hstop.1, hstop.2, List.append_nil, Nat.ofDigitChars_ten_toDigits, if_pos rfl]

theorem readScalar_brace (cs : List Char) : readScalar ('\x7b' :: cs) = none := by
  have hnumber : readNumber ('\x7b' :: cs) = none := if_neg (Nat.toDigits_ne_nil (n := 0))
  change (readNumber ('\x7b' :: cs)).map _ = none
  rw [hnumber, Option.map_none]

theorem isWhitespace_of_isDigit {c : Char} (h : c.isDigit = true) : c.isWhitespace = false := by
  rw [Bool.eq_false_iff]
  intro hw
  simp only [Char.isWhitespace, Bool.or_eq_true, decide_eq_true_eq] at hw
  obtain ((rfl | rfl) | rfl) | rfl := hw <;> cases h

theorem exists_toDigits_eq_cons (n : ℕ) :
    ∃ d ds, Nat.toDigits 10 n = d :: ds ∧ d.isDigit = true := by
  obtain ⟨d, ds, hds⟩ := List.exists_cons_of_ne_nil (Nat.toDigits_ne_nil (n := n) (b := 10))
  have hd : d ∈ Nat.toDigits 10 n := by
    rw [hds]
    exact List.mem_cons_self
  exact ⟨d, ds, hds, Nat.isDigit_of_mem_toDigits (by decide) (by decide) hd⟩

theorem takes_scalar (v : Scalar) : Takes readScalar v.json v := by
  intro r hr
  cases v with
  | text s =>
    have htext := takes_text s r hr
    rw [toList_quoteJson_append, skip_cons rfl] at htext
    rw [Scalar.json, toList_quoteJson_append, skip_cons rfl, readScalar, htext]
    rfl
  | number n =>
    have hnumber := readNumber_toDigits n hr
    obtain ⟨d, ds, hds, hd⟩ := exists_toDigits_eq_cons n
    have hne : ∀ c cs, c.isDigit = false → d :: (ds ++ r) = c :: cs → False := by
      intro c cs hc h
      rw [(List.cons.inj h).1, hc] at hd
      cases hd
    rw [hds, List.cons_append] at hnumber
    rw [Scalar.json, Nat.toString_eq_repr, Nat.toList_repr, hds, List.cons_append,
      skip_cons (isWhitespace_of_isDigit hd), readScalar, hnumber]
    · rfl
    · exact fun _ ↦ hne '"' _ rfl
    · exact fun _ ↦ hne 't' _ rfl
    · exact fun _ ↦ hne 'f' _ rfl
  | flag b => cases b <;> rfl

section

variable {α : Type} {value : Reader α} {json : α → String} {indent : String}

/-- A member as it stands on its line. -/
def line (json : α → String) (indent : String) (member : String × α) : String :=
  indent ++ "  " ++ quoteJson member.1 ++ ": " ++ json member.2

theorem readMembers_newline (n : ℕ) (cs : List Char) :
    readMembers value n ('\n' :: cs) = readMembers value n cs := by
  cases n <;> rfl

variable (hindent : ∀ c ∈ indent.toList, c.isWhitespace = true)

include hindent

theorem skip_line (member : String × α) (r : List Char) :
    skip ((line json indent member).toList ++ r) =
      (quoteJson member.1).toList ++ ':' :: ' ' :: ((json member.2).toList ++ r) := by
  have hlayout : (line json indent member).toList ++ r = indent.toList ++ ' ' :: ' ' ::
      ((quoteJson member.1).toList ++ ':' :: ' ' :: ((json member.2).toList ++ r)) := by
    simp [line]
  rw [hlayout, skip, List.dropWhile_append_of_pos hindent, toList_quoteJson_append]
  rfl

theorem takes_line {member : String × α} (hvalue : Takes value (json member.2) member.2) :
    Takes (readMember value) (line json indent member) member := by
  intro r hr
  have hname := takes_text member.1 (':' :: ' ' :: ((json member.2).toList ++ r)) (by
    rintro _ ⟨⟩
    rfl)
  rw [toList_quoteJson_append, skip_cons rfl, ← toList_quoteJson_append] at hname
  have hread : value (skip (' ' :: ((json member.2).toList ++ r))) = some (member.2, r) :=
    hvalue r hr
  rw [skip_line hindent, readMember, hname, Option.bind_eq_bind, Option.bind_some]
  dsimp only
  rw [skip_cons rfl]
  exact congrArg (Option.map fun (v, r) ↦ ((member.1, v), r)) hread

theorem skip_indent (r : List Char) :
    skip ('\n' :: (indent.toList ++ '\x7d' :: r)) = '\x7d' :: r := by
  have hskip : skip ('\n' :: (indent.toList ++ '\x7d' :: r)) =
      skip (indent.toList ++ '\x7d' :: r) := rfl
  rw [hskip, skip, List.dropWhile_append_of_pos hindent]
  rfl

/-- The members of an object are read line by line. -/
theorem readMembers_lines (members : List (String × α)) (hne : members ≠ [])
    (hvalues : ∀ member ∈ members, Takes value (json member.2) member.2) {n : ℕ}
    (hn : members.length ≤ n) (r : List Char) :
    readMembers value n ((String.intercalate ",\n" (members.map (line json indent))).toList ++
      '\n' :: (indent.toList ++ '\x7d' :: r)) = some (members, r) := by
  induction members generalizing n with
  | nil => exact absurd rfl hne
  | cons member members ih =>
    obtain ⟨n, rfl⟩ : ∃ k, n = k + 1 := Nat.exists_eq_succ_of_ne_zero (by
      rw [List.length_cons] at hn
      omega)
    have hmember := takes_line hindent (hvalues member List.mem_cons_self)
    cases members with
    | nil =>
      have hread := hmember ('\n' :: (indent.toList ++ '\x7d' :: r)) (by
        rintro _ ⟨⟩
        rfl)
      rw [List.map_singleton, String.intercalate_singleton, readMembers, hread,
        Option.bind_eq_bind, Option.bind_some]
      dsimp only
      rw [skip_indent hindent]
      rfl
    | cons next members =>
      let rest := (String.intercalate ",\n" ((next :: members).map (line json indent))).toList ++
        '\n' :: (indent.toList ++ '\x7d' :: r)
      have hread := hmember (',' :: '\n' :: rest) (by
        rintro _ ⟨⟩
        rfl)
      have hrest : readMembers value n ('\n' :: rest) = some (next :: members, r) := by
        rw [readMembers_newline]
        exact ih (List.cons_ne_nil _ _) (fun m hm ↦ hvalues m (List.mem_cons_of_mem _ hm))
          (Nat.le_of_succ_le_succ hn)
      have hlayout : (String.intercalate ",\n"
          ((member :: next :: members).map (line json indent))).toList ++
            '\n' :: (indent.toList ++ '\x7d' :: r) =
          (line json indent member).toList ++ ',' :: '\n' :: rest := by
        rw [List.map_cons, List.map_cons, String.intercalate_cons_cons]
        simp [rest]
      rw [hlayout, readMembers, hread, Option.bind_eq_bind, Option.bind_some]
      dsimp only
      rw [skip_cons rfl]
      exact congrArg (Option.map fun (members, r) ↦ (member :: members, r)) hrest

omit hindent in
theorem length_le_lines (members : List (String × α)) : members.length ≤
    (String.intercalate ",\n" (members.map (line json indent))).toList.length := by
  induction members with
  | nil => exact Nat.zero_le _
  | cons member members ih =>
    cases members with
    | nil =>
      rw [List.map_singleton, String.intercalate_singleton, List.length_singleton]
      simp [line]
      omega
    | cons next members =>
      rw [List.map_cons, List.map_cons, String.intercalate_cons_cons, ← List.map_cons]
      simp only [String.toList_append, List.length_append, List.length_cons] at ih ⊢
      have hcomma : ",\n".toList.length = 2 := rfl
      omega

omit hindent in
theorem lines_cons (member : String × α) (members : List (String × α)) :
    ∃ cs, (String.intercalate ",\n" ((member :: members).map (line json indent))).toList =
      (line json indent member).toList ++ cs := by
  cases members with
  | nil => exact ⟨[], by rw [List.map_singleton, String.intercalate_singleton, List.append_nil]⟩
  | cons next members =>
    rw [List.map_cons, List.map_cons, String.intercalate_cons_cons, String.append_assoc,
      String.toList_append]
    exact ⟨_, rfl⟩

/-- An object on lines of its own is read as its members. -/
theorem takes_braced (members : List (String × α))
    (hvalues : ∀ member ∈ members, Takes value (json member.2) member.2) :
    Takes (readObject value) (braced indent (members.map fun (name, v) ↦ (name, json v)))
      members := by
  intro r _
  let lines := (String.intercalate ",\n" (members.map (line json indent))).toList
  have hlayout : (braced indent (members.map fun (name, v) ↦ (name, json v))).toList ++ r =
      '\x7b' :: '\n' :: (lines ++ '\n' :: (indent.toList ++ '\x7d' :: r)) := by
    simp [braced, lines, line, Function.comp_def]
  rw [hlayout, skip_cons rfl, readObject]
  cases members with
  | nil =>
    have hend : skip ('\n' :: (lines ++ '\n' :: (indent.toList ++ '\x7d' :: r))) = '\x7d' :: r :=
      skip_indent hindent r
    rw [hend]
    rfl
  | cons member members =>
    obtain ⟨cs, hcs⟩ : ∃ cs, lines = (line json indent member).toList ++ cs :=
      lines_cons member members
    obtain ⟨start, hstart⟩ : ∃ start,
        skip (lines ++ '\n' :: (indent.toList ++ '\x7d' :: r)) = '"' :: start := by
      rw [hcs, List.append_assoc, skip_line hindent, toList_quoteJson_append]
      exact ⟨_, rfl⟩
    have hskip : skip ('\n' :: (lines ++ '\n' :: (indent.toList ++ '\x7d' :: r))) =
        '"' :: start := hstart
    rw [hskip]
    change readMembers value _ ('\n' :: (lines ++ '\n' :: (indent.toList ++ '\x7d' :: r))) = _
    rw [readMembers_newline]
    -- each line has at least one character, so there are fewer lines than the reader allows
    refine readMembers_lines hindent _ (List.cons_ne_nil _ _) hvalues ?_ r
    have hlength : (member :: members).length ≤ lines.length :=
      length_le_lines (member :: members)
    simp only [List.length_cons, List.length_append] at hlength ⊢
    omega

end

theorem takes_value (v : EchoValue) : Takes readValue v.json v := by
  intro r hr
  cases v with
  | scalar v =>
    rw [readValue, EchoValue.json, takes_scalar v r hr]
    rfl
  | record fields =>
    -- the brace is the beginning of no scalar, so the reader goes on to objects
    have hblank : ∀ c ∈ "  ".toList, c.isWhitespace = true := by simp
    have hobject := takes_braced hblank fields (fun field _ ↦ takes_scalar field.2) r hr
    have hscalar : readScalar (skip ((EchoValue.record fields).json.toList ++ r)) = none := by
      obtain ⟨cs, hcs⟩ : ∃ cs, (EchoValue.record fields).json.toList ++ r = '\x7b' :: cs := by
        simp [EchoValue.json, braced]
      rw [hcs, skip_cons rfl, readScalar_brace]
    rw [readValue, hscalar, EchoValue.json, hobject]
    rfl

/-- An echo is an object, and its members are those that it was made of. -/
theorem read?_echo (members : List (String × EchoValue)) :
    read? (echo members) = some members := by
  have hblank : ∀ c ∈ "".toList, c.isWhitespace = true := by simp
  have hobject := takes_braced hblank members (fun member _ ↦ takes_value member.2) [] (by
    rintro _ ⟨⟩)
  rw [List.append_nil] at hobject
  rw [read?, echo, hobject]
  rfl

example : read? "\x7b \"a\" : \"\\u0041\\/\",\t\"b\": \x7b\"c\":0\x7d \x7d\n" =
    some [("a", .scalar (.text "A/")), ("b", .record [("c", .number 0)])] := by decide +kernel

theorem echo_injective : Function.Injective echo := by
  intro members₁ members₂ h
  have hread := read?_echo members₁
  rw [h, read?_echo] at hread
  exact (Option.some.inj hread).symm

end CipherMeter.Text.Json

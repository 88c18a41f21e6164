import CipherMeter.Path

/-!
# Options

Command lines hold long options only. A value follows its option as the next argument or after an
equals sign; as an argument of its own it begins with a dash only if it is one. No option is given
twice, and nothing stands by itself but one final pair of dashes.
-/

namespace CipherMeter

inductive OptionKind
  | flag
  | text
  /-- A path, which is not empty. -/
  | path
  | number
  deriving DecidableEq, Repr

inductive OptionValue
  | flag
  | text (s : String)
  | path (p : Path)
  | number (n : Nat)
  deriving DecidableEq, Repr

abbrev Grammar := List (String × OptionKind)

namespace Options

def readDigits (n : Nat) : List Char → Option Nat
  | [] => some n
  | c :: r => if c.isDigit then readDigits (n * 10 + (c.toNat - 48)) r else none

def numberLimit : Nat := 0xFFFFFFFFFFFFFFFF

def readNumber : List Char → Option Nat
  | [] => none
  | cs => (readDigits 0 cs).bind fun n ↦ if n ≤ numberLimit then some n else none

def number? (s : String) : Option Nat :=
  match s.toList with
  | '+' :: cs => readNumber cs
  | cs => readNumber cs

def value? (kind : OptionKind) (s : String) : Option OptionValue :=
  match kind with
  | .flag => none
  | .text => some (.text s)
  | .path => if s.isEmpty then none else some (.path (.ofString s))
  | .number => (number? s).map .number

/-- An argument that can only be the value of the option before it. -/
def isBareValue (s : String) : Bool :=
  match s.toList with
  | ['-'] => true
  | '-' :: _ => false
  | _ => true

def split? (s : String) : Option (String × Option String) :=
  match s.toList with
  | '-' :: '-' :: cs =>
    let name := cs.takeWhile (· ≠ '=')
    match cs.drop name.length with
    | [] => some (.ofList name, none)
    | _ :: value => some (.ofList name, some (.ofList value))
  | _ => none

def read? (g : Grammar) : List String → Option (List (String × OptionValue))
  | [] => some []
  | argument :: rest =>
    if argument = "--" then if rest = [] then some [] else none
    else do
      let (name, attached) ← split? argument
      let kind ← g.lookup name
      match kind, attached with
      | .flag, none => return (name, .flag) :: (← read? g rest)
      | .flag, some _ => none
      | _, some value => return (name, ← value? kind value) :: (← read? g rest)
      | _, none =>
        match rest with
        | [] => none
        | value :: rest =>
          if isBareValue value then return (name, ← value? kind value) :: (← read? g rest)
          else none

/-- The options that arguments give, if they are well formed and none is given twice. -/
def parse? (g : Grammar) (arguments : List String) : Option (List (String × OptionValue)) :=
  (read? g arguments).bind fun given ↦
    if (given.map Prod.fst).Nodup then some given else none

variable (given : List (String × OptionValue))

def has (name : String) : Bool := (given.lookup name).isSome

def text? (name : String) : Option String :=
  match given.lookup name with
  | some (.text s) => some s
  | _ => none

def path? (name : String) : Option Path :=
  match given.lookup name with
  | some (.path p) => some p
  | _ => none

def numberOf? (name : String) : Option Nat :=
  match given.lookup name with
  | some (.number n) => some n
  | _ => none

end Options

end CipherMeter

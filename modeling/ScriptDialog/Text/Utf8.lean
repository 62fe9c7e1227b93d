/-! Text as UTF-8 bytes. `decodeLossy` puts one replacement character in place of each maximal
ill-formed part, `decode?` stops at the first one and says where it lies and what is wrong. -/
namespace ScriptDialog.Utf8

/-- One to four bytes, by the size of the scalar value. -/
def encodeChar (c : Char) : List UInt8 :=
  let n := c.toNat
  if n < 0x80 then [UInt8.ofNat n]
  else if n < 0x800 then [UInt8.ofNat (0xC0 + n / 64), UInt8.ofNat (0x80 + n % 64)]
  else if n < 0x10000 then
    [UInt8.ofNat (0xE0 + n / 4096), UInt8.ofNat (0x80 + n / 64 % 64), UInt8.ofNat (0x80 + n % 64)]
  else
    [UInt8.ofNat (0xF0 + n / 262144), UInt8.ofNat (0x80 + n / 4096 % 64),
      UInt8.ofNat (0x80 + n / 64 % 64), UInt8.ofNat (0x80 + n % 64)]

def encode (text : List Char) : List UInt8 := text.flatMap encodeChar

@[simp] theorem encode_nil : encode [] = [] := rfl

@[simp] theorem encode_append (a b : List Char) : encode (a ++ b) = encode a ++ encode b := by
  simp [encode]

/-- What a leading byte promises: its payload, how many bytes follow, and the bounds of the next. -/
structure Lead where
  payload : Nat
  tails : Nat
  low : Nat
  high : Nat

/-- The bounds of the second byte keep out overlong forms, surrogates and values past U+10FFFF. -/
def lead? (b : Nat) : Option Lead :=
  if b < 0x80 then some ⟨b, 0, 0x80, 0xBF⟩
  else if b < 0xC2 then none
  else if b < 0xE0 then some ⟨b - 0xC0, 1, 0x80, 0xBF⟩
  else if b = 0xE0 then some ⟨0, 2, 0xA0, 0xBF⟩
  else if b = 0xED then some ⟨0xD, 2, 0x80, 0x9F⟩
  else if b < 0xF0 then some ⟨b - 0xE0, 2, 0x80, 0xBF⟩
  else if b = 0xF0 then some ⟨0, 3, 0x90, 0xBF⟩
  else if b < 0xF4 then some ⟨b - 0xF0, 3, 0x80, 0xBF⟩
  else if b = 0xF4 then some ⟨4, 3, 0x80, 0x8F⟩
  else none

inductive Flaw where
  | badStart
  | badContinuation
  | cutShort
  deriving DecidableEq, Repr

/-- What the bytes begin with; `used` counts the bytes taken after the leading one. -/
inductive Head where
  | scalar (c : Char) (used : Nat)
  | flawed (flaw : Flaw) (used : Nat)

/-- Reads `tails` further bytes, the next one within `low` and `high`. -/
def readTails (payload used : Nat) : (tails low high : Nat) → List UInt8 → Head
  | 0, _, _, _ => .scalar (Char.ofNat payload) used
  | _ + 1, _, _, [] => .flawed .cutShort used
  | tails + 1, low, high, b :: rest =>
    if low ≤ b.toNat ∧ b.toNat ≤ high then
      readTails (payload * 64 + (b.toNat - 0x80)) (used + 1) tails 0x80 0xBF rest
    else .flawed .badContinuation used

def head (first : UInt8) (rest : List UInt8) : Head :=
  match lead? first.toNat with
  | none => .flawed .badStart 0
  | some lead => readTails lead.payload 0 lead.tails lead.low lead.high rest

def replacement : Char := '\uFFFD'

def decodeLossy : List UInt8 → List Char
  | [] => []
  | first :: rest =>
    match head first rest with
    | .scalar c used => c :: decodeLossy (rest.drop used)
    | .flawed _ used => replacement :: decodeLossy (rest.drop used)
termination_by bytes => bytes.length
decreasing_by all_goals simp only [List.length_drop, List.length_cons]; omega

/-- Where bytes stop being text: `size` bytes from `position`, of which `byte` is the first. -/
structure Undecodable where
  byte : UInt8
  position : Nat
  size : Nat
  flaw : Flaw
  deriving DecidableEq, Repr

def decodeFrom (position : Nat) : List UInt8 → Except Undecodable (List Char)
  | [] => .ok []
  | first :: rest =>
    match head first rest with
    | .scalar c used => (c :: ·) <$> decodeFrom (position + 1 + used) (rest.drop used)
    | .flawed flaw used => .error ⟨first, position, used + 1, flaw⟩
termination_by bytes => bytes.length
decreasing_by simp only [List.length_drop, List.length_cons]; omega

def decode? (bytes : List UInt8) : Except Undecodable (List Char) := decodeFrom 0 bytes

end ScriptDialog.Utf8

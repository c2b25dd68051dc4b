import Calculator.Decimal.Reading
import Calculator.Text.Lower
import Calculator.Yaml.Form

/-! The values of scalars.  The tag says what the text of a scalar is read as, and a text that
cannot be read so is a failure. -/

namespace Calculator.Yaml

open Text (CodePoint)

def unsignedPart : List CodePoint → List CodePoint
  | .char '-' :: rest => rest
  | .char '+' :: rest => rest
  | s => s

def isNegative (s : List CodePoint) : Bool := s.head? = some (.char '-')

def removeLines (s : List CodePoint) : List CodePoint := s.filter (· ≠ .char '_')

/-- The pieces of a text between the colons. -/
def sixtyParts (s : List CodePoint) : List (List CodePoint) := s.splitOn (.char ':')

def readIn (base : Nat) (s : List CodePoint) : Except Failure Int :=
  (Decimal.readIntegerFrom base s).mapError .unreadable

/-- A sum of numbers in base sixty, the first one counting most. -/
def sixtySum (parts : List Int) : Int := parts.foldl (fun sum part => sum * 60 + part) 0

/-- The integer that a text tagged as one stands for. -/
def integerValue (text : List CodePoint) : Except Failure Int := do
  let signed := removeLines text
  if signed.isEmpty then throw .emptyNumber
  let s := unsignedPart signed
  let n ←
    match s with
    | [] => throw .emptyNumber
    | [.char '0'] => pure 0
    | .char '0' :: .char 'b' :: rest => readIn 2 rest
    | .char '0' :: .char 'x' :: rest => readIn 16 rest
    | .char '0' :: _ => readIn 8 s
    | _ =>
        match sixtyParts s with
        | [_] => readIn 10 s
        | parts => sixtySum <$> parts.mapM (readIn 10)
  pure (if isNegative signed then -n else n)

def readReal (s : List CodePoint) : Except Failure Float :=
  (Decimal.readFloatFrom s).mapError .unreadable

/-- The sum of some parts in base sixty, the last one first; each part meets its power of sixty as a
double precision number, which the power may be too large for. -/
def sixtyFloatSum : Int → Float → List Float → Except Failure Float
  | _, sum, [] => .ok sum
  | base, sum, part :: rest =>
      match Binary64.ofInt? base with
      | some b => sixtyFloatSum (base * 60) (sum + part * b) rest
      | none => .error (.overflow .conversion)

/-- The double precision number that a text tagged as one stands for. -/
def floatValue (text : List CodePoint) : Except Failure Float := do
  let signed := Text.lower (removeLines text)
  if signed.isEmpty then throw .emptyNumber
  let s := unsignedPart signed
  let x ←
    if s = Text.codePoints ".inf".toList then pure (Binary64.infinity false)
    else if s = Text.codePoints ".nan".toList then pure Binary64.nan
    else
      match sixtyParts s with
      | [_] => readReal s
      | parts => do
          let parts ← parts.mapM readReal
          sixtyFloatSum 1 0 parts.reverse
  pure (if isNegative signed then -x else x)

/-- Whether a text is the word for what is not a number, of which there is just one. -/
def isNanWord (text : List CodePoint) : Bool :=
  unsignedPart (Text.lower (removeLines text)) = Text.codePoints ".nan".toList

def boolValue (text : List CodePoint) : Except Failure Bool :=
  let word := Text.lower text
  let isOneOf (words : List String) := words.any fun w => Text.codePoints w.toList = word
  if isOneOf ["yes", "true", "on"] then .ok true
  else if isOneOf ["no", "false", "off"] then .ok false
  else .error (.notATruthValue word)

/-- The six bits that a character of binary data stands for. -/
def sixBits? (c : Char) : Option Nat :=
  if 'A' ≤ c ∧ c ≤ 'Z' then some (c.toNat - 65)
  else if 'a' ≤ c ∧ c ≤ 'z' then some (c.toNat - 71)
  else if '0' ≤ c ∧ c ≤ '9' then some (c.toNat + 4)
  else if c = '+' then some 62
  else if c = '/' then some 63
  else none

/-- The bytes in groups of four times six bits, of which the last one may be incomplete. -/
def packBits : List Nat → List UInt8
  | a :: b :: c :: d :: rest =>
      UInt8.ofNat (a * 4 + b / 16) :: UInt8.ofNat (b % 16 * 16 + c / 4) ::
        UInt8.ofNat (c % 4 * 64 + d) :: packBits rest
  | [a, b, c] => [UInt8.ofNat (a * 4 + b / 16), UInt8.ofNat (b % 16 * 16 + c / 4)]
  | [a, b] => [UInt8.ofNat (a * 4 + b / 16)]
  | _ => []

/-- Binary data up to the padding that completes a group: the six bits of every character, and
whether the last group is complete.  Other characters do not count. -/
def binaryBits : List Char → List Nat → Nat → Option (List Nat)
  | [], bits, _ => if bits.length % 4 = 0 then some bits.reverse else none
  | c :: rest, bits, padding =>
      if c = '=' then
        let padding := padding + 1
        if 2 ≤ bits.length % 4 ∧ bits.length % 4 + padding ≥ 4 then some bits.reverse
        else binaryBits rest bits padding
      else
        match sixBits? c with
        | some n => binaryBits rest (n :: bits) 0
        | none => binaryBits rest bits padding

/-- The bytes that a text tagged as binary data stands for. -/
def bytesValue (text : List CodePoint) : Except Fault (List UInt8) :=
  match (Text.characters? text).filter fun s => s.all fun c => c.toNat < 128 with
  | none => .error .invalid
  | some s =>
      match binaryBits s [] 0 with
      | some bits => .ok (packBits bits)
      | none => .error .invalid

/-- The date that a text tagged as one stands for.  No date holds surrogates. -/
def stampValue (text : List CodePoint) : Except Failure Datum :=
  match Text.characters? text with
  | none => .error (.notADate .form)
  | some s => (readStamp s).mapError .notADate

def textValue (text : List CodePoint) : Datum :=
  match Text.characters? text with
  | some s => .text (String.ofList s)
  | none => .brokenText text

/-- What the text of a scalar may be read as. -/
inductive ScalarKind where
  | null
  | bool
  | int
  | float
  | binary
  | timestamp
  | text
  deriving DecidableEq, Repr

def ScalarKind.ofTag? (tag : String) : Option ScalarKind :=
  [("null", ScalarKind.null), ("bool", .bool), ("int", .int), ("float", .float),
    ("binary", .binary), ("timestamp", .timestamp), ("str", .text)].findSome? fun e =>
      if tag = standardTag e.1 then some e.2 else none

/-- The value of a text read as a scalar of some kind. -/
def ScalarKind.read (kind : ScalarKind) (text : List CodePoint) : Except Fault Datum :=
  let ofFailure {α : Type} (x : Except Failure α) : Except Fault α := x.mapError .value
  match kind with
  | .null => .ok .null
  | .bool => Datum.bool <$> ofFailure (boolValue text)
  | .int => (fun i => Datum.number (.int i)) <$> ofFailure (integerValue text)
  | .float => (fun x => Datum.number (.float x)) <$> ofFailure (floatValue text)
  | .binary => Datum.bytes <$> bytesValue text
  | .timestamp => ofFailure (stampValue text)
  | .text => .ok (textValue text)

end Calculator.Yaml

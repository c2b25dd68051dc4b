import Calculator.Datum

/-! Dates and times of documents: a day, or a day and a time of day that may have a fraction of a
second and a distance to universal time. -/

namespace Calculator.Yaml

def withoutLastNewline (s : List Char) : List Char :=
  if s.getLast? = some '\n' then s.dropLast else s

/-- At least `least` and at most `most` digits at the front of a text, as many as there are: their
number and value, and what follows. -/
def someDigits (least most : Nat) (s : List Char) : Option (Nat × Nat × List Char) :=
  let digits := (s.take most).takeWhile Char.isDigit
  if least ≤ digits.length then
    some (digits.length, Decimal.digitsValue 10 (digits.filterMap (Decimal.digitOf? 10)),
      s.drop digits.length)
  else none

def mark (c : Char) : List Char → Option (List Char)
  | d :: rest => if d = c then some rest else none
  | [] => none

def isGap (c : Char) : Bool := c = ' ' || c = '\t'

/-- The distance to universal time at the end of a text, in seconds; there may be none. -/
def zoneAtEnd (s : List Char) : Option (Option Int) :=
  if s = [] then some none
  else
    match s.dropWhile isGap with
    | ['Z'] => some (some 0)
    | sign :: rest =>
        if sign = '+' ∨ sign = '-' then do
          let (_, hour, rest) ← someDigits 1 2 rest
          let minute ←
            match rest with
            | [] => some 0
            | rest => do
                let rest ← mark ':' rest
                let (_, minute, rest) ← someDigits 2 2 rest
                if rest = [] then some minute else none
          let seconds : Int := (hour * 60 + minute) * 60
          some (some (if sign = '-' then -seconds else seconds))
        else none
    | [] => none

/-- The first six digits of a fraction of a second, as microseconds. -/
def microseconds (digits : List Char) : Nat :=
  let six := digits.take 6
  Decimal.digitsValue 10 (six.filterMap (Decimal.digitOf? 10)) * Nat.pow 10 (6 - six.length)

def clockAtEnd (s : List Char) : Option (Clock × Option Int) := do
  let (_, hour, s) ← someDigits 1 2 s
  let s ← mark ':' s
  let (_, minute, s) ← someDigits 2 2 s
  let s ← mark ':' s
  let (_, second, s) ← someDigits 2 2 s
  let (fraction, s) :=
    match s with
    | '.' :: rest => (rest.takeWhile Char.isDigit, rest.dropWhile Char.isDigit)
    | _ => ([], s)
  let zone ← zoneAtEnd s
  some (⟨hour, minute, second, microseconds fraction⟩, zone)

/-- What a text of the form of a date says; `short` is whether its month or day has one digit. -/
structure Stamp where
  date : Date
  short : Bool
  clock : Option (Clock × Option Int)

def Stamp.read? (s : List Char) : Option Stamp := do
  let (_, year, s) ← someDigits 4 4 s
  let s ← mark '-' s
  let (m, month, s) ← someDigits 1 2 s
  let s ← mark '-' s
  let (d, day, s) ← someDigits 1 2 s
  let short := m = 1 || d = 1
  let date : Date := ⟨year, month, day⟩
  match s with
  | [] => some ⟨date, short, none⟩
  | c :: rest =>
      let rest ←
        if c = 'T' ∨ c = 't' then some rest
        else if isGap c then some (rest.dropWhile isGap)
        else none
      some ⟨date, short, some (← clockAtEnd rest)⟩

/-- Whether plain text counts as a date.  Without a time, month and day need two digits each. -/
def isStamp (s : List Char) : Bool :=
  match Stamp.read? s with
  | some stamp => stamp.clock.isSome || !stamp.short
  | none => false

/-- The date or the moment that a text names; a newline may end it. -/
def readStamp (s : List Char) : Except DateFault Datum :=
  match Stamp.read? (withoutLastNewline s) with
  | none => .error .form
  | some ⟨date, _, none⟩ => do
      date.check
      pure (.date date)
  | some ⟨date, _, some (clock, zone)⟩ => do
      match zone with
      | some seconds => if 86400 ≤ seconds.natAbs then throw (.zone seconds)
      | none => pure ()
      date.check
      clock.check
      pure (.moment ⟨date, clock, zone⟩)

end Calculator.Yaml

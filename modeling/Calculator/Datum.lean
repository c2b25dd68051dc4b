import Calculator.Environment
import Calculator.Failure

/-! Data: the values of a settings document, together with the tokens and environments of the
calculator, so that one printer serves them all. -/

namespace Calculator

/-- A value of which only its type is known, whether it counts as there, and how it is written out.
-/
structure Outline where
  typeName : String
  isPresent : Bool
  described : Thunk (Except Failure String)

inductive Datum where
  | null
  | bool (b : Bool)
  | number (n : Number)
  | text (s : String)
  /-- A text that holds surrogates. -/
  | brokenText (s : List Text.CodePoint)
  | bytes (b : List UInt8)
  | list (items : List Datum)
  | tuple (items : List Datum)
  | map (entries : List (Datum × Datum))
  | date (d : Date)
  | moment (m : Moment)
  | token (t : Token)
  | environment (env : Environment)
  /-- The place of a pattern where any token may stand. -/
  | wildcard
  | outline (o : Outline)

namespace Datum

def typeName : Datum → String
  | .null => "NoneType"
  | .bool _ => "bool"
  | .number (.int _) => "int"
  | .number (.float _) => "float"
  | .text _ | .brokenText _ => "str"
  | .bytes _ => "bytes"
  | .list _ => "list"
  | .tuple _ => "tuple"
  | .map _ => "dict"
  | .date _ => "date"
  | .moment _ => "datetime"
  | .token (.char ..) => "Char"
  | .token (.numeral _) => "Numeral"
  | .token (.number _) => "Number"
  | .token (.symbol _) => "Symbol"
  | .environment _ => "Environment"
  | .wildcard => "_Any"
  | .outline o => o.typeName

/-- The name of a datum's type with the module that the type belongs to. -/
def className (d : Datum) : String :=
  let module :=
    match d with
    | .token _ | .environment _ | .wildcard => "rwcalc.rwcalc_datatypes."
    | .date _ | .moment _ => "datetime."
    | _ => ""
  "<class '" ++ module ++ d.typeName ++ "'>"

/-- Whether a datum counts as there: empty texts and collections, zero, the false truth value and
null do not. -/
def isPresent : Datum → Bool
  | .null => false
  | .bool b => b
  | .number n => !n.isZero
  | .text s => s ≠ ""
  | .bytes b => !b.isEmpty
  | .list items | .tuple items => !items.isEmpty
  | .map entries => !entries.isEmpty
  | .environment env => env.size ≠ 0
  | .outline o => o.isPresent
  | .brokenText _ | .date _ | .moment _ | .token _ | .wildcard => true

def describeBool (b : Bool) : String := if b then "True" else "False"

mutual

/-- A datum written out in full: texts quoted, tokens with their kinds. -/
def describe : Datum → String
  | .null => "None"
  | .bool b => describeBool b
  | .number n => n.text
  | .text s => Text.quoted s
  | .brokenText s => Text.quotedPoints s
  | .bytes b => Text.quotedBytes b
  | .list items => "[" ++ String.intercalate ", " (describeAll items) ++ "]"
  | .tuple items =>
      match describeAll items with
      | [one] => "(" ++ one ++ ",)"
      | all => "(" ++ String.intercalate ", " all ++ ")"
  | .map entries => "\x7b" ++ String.intercalate ", " (describeEntries entries) ++ "\x7d"
  | .date d => d.describe
  | .moment m => m.describe
  | .token t => t.describe
  | .environment env => env.describe
  | .wildcard => "ANY"
  | .outline o => o.described.get.toOption.getD ""

def describeAll : List Datum → List String
  | [] => []
  | d :: rest => d.describe :: describeAll rest

def describeEntries : List (Datum × Datum) → List String
  | [] => []
  | (key, value) :: rest => (key.describe ++ ": " ++ value.describe) :: describeEntries rest

end

mutual

/-- Whether a datum may be written out: no integer in it has too many digits. -/
def isWritable : Datum → Bool
  | .number n => n.isWritable
  | .token t => t.isWritable
  | .list items | .tuple items => allWritable items
  | .map entries => entriesWritable entries
  | .outline o => o.described.get.toBool
  | _ => true

def allWritable : List Datum → Bool
  | [] => true
  | d :: rest => d.isWritable && allWritable rest

def entriesWritable : List (Datum × Datum) → Bool
  | [] => true
  | (key, value) :: rest => key.isWritable && value.isWritable && entriesWritable rest

end

/-- A datum written out, if it may be. -/
def described (d : Datum) : Except Failure String :=
  if d.isWritable then .ok d.describe else .error .unwritable

/-- The number that a datum equals if it equals one at all; truth values count as one and zero. -/
def asNumber? : Datum → Option Number
  | .number n => some n
  | .bool b => some (.int (if b then 1 else 0))
  | _ => none

mutual

/-- Whether two data are equal as keys. -/
def same : Datum → Datum → Bool
  | .null, .null => true
  | .text s, .text t => s = t
  | .brokenText s, .brokenText t => s = t
  | .bytes a, .bytes b => a = b
  | .list a, .list b => allSame a b
  | .tuple a, .tuple b => allSame a b
  | .date a, .date b => a = b
  | .moment a, .moment b => a.same b
  | .token s, .token t => s.same t
  | .wildcard, .wildcard => true
  | a, b =>
      match a.asNumber?, b.asNumber? with
      | some m, some n => m.same n
      | _, _ => false

def allSame : List Datum → List Datum → Bool
  | [], [] => true
  | a :: as, b :: bs => a.same b && allSame as bs
  | _, _ => false

end

/-- Entries with one more, the last one first: a key that is there already, by `same`, keeps its
place and gets the new value. -/
def addEntry {α β : Type} (same : α → α → Bool) (entries : List (α × β)) (entry : α × β) :
    List (α × β) :=
  if entries.any fun e => same e.1 entry.1 then
    entries.map fun e => if same e.1 entry.1 then (e.1, entry.2) else e
  else entry :: entries

def find? (entries : List (Datum × Datum)) (key : String) : Option Datum :=
  (entries.find? fun e => match e.1 with | .text s => s = key | _ => false).map (·.2)

end Datum

end Calculator

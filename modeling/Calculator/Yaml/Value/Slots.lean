import Calculator.Yaml.Value

/-! The order of numbers in a set.  A set keeps its members in a table of slots.  A number belongs
into the slot that its residue names; where that is taken, the next nine are tried, and then other
places that follow from the residue.  The set is written slot by slot.  The places of members that
are no numbers are not settled, and a set with such members is written in the order in which it was
made. -/

namespace Calculator.Yaml.Slots

/-- The modulus of residues. -/
def modulus : Nat := power 2 61 - 1

/-- A residue with a sign as a word of 64 bits; minus one counts as minus two. -/
def word (negative : Bool) (residue : Nat) : Nat :=
  if negative ∧ residue ≠ 0 then power 2 64 - max residue 2 else residue

/-- The residue of a number.  Equal numbers have equal ones, since `2 ^ 61` leaves the residue one.
-/
def residue? : Number → Option Nat
  | .int i => some (word (i < 0) (i.natAbs % modulus))
  | .float x =>
      match Binary64.shape x with
      | .nan => none
      | .infinite negative => some (word negative 314159)
      | .finite negative m q => some (word negative (m * power 2 (q % 61) % modulus))

/-- The number of slots for some members: eight, or more than twice as many as there are members. -/
def size (members : Nat) : Nat :=
  if members ≤ 4 then 8 else Nat.pow 2 ((2 * members).log2 + 1)

/-- The slots that are tried together, from one on. -/
def neighbours (size slot : Nat) : List Nat :=
  if slot + 9 < size then (List.range 10).map (slot + ·) else [slot]

/-- The free slot that is found first, from a slot on.  What is left of the residue sets the way,
and when it is used up every slot is come across. -/
def freeSlot {α : Type} (table : Array (Option α)) : Nat → Nat → Nat → Nat
  | 0, slot, _ => slot
  | fuel + 1, slot, residue =>
      match (neighbours table.size slot).find? fun i => (table[i]?.join).isNone with
      | some i => i
      | none =>
          let residue := residue / 32
          freeSlot table fuel ((slot * 5 + 1 + residue) % table.size) residue

def insert {α : Type} (table : Array (Option α)) (member : Nat × α) : Array (Option α) :=
  let slot := freeSlot table (table.size + 16) (member.1 % table.size) member.1
  table.set! slot (some member.2)

/-- The members of a set in the order in which they are written. -/
def order (members : List Value) : List Value :=
  let residueOf (v : Value) : Option (Nat × Value) :=
    match v with
    | .leaf d _ => (d.asNumber?.bind residue?).map fun r => (r, v)
    | .collection _ => none
  match members.mapM residueOf with
  | none => members
  | some placed =>
      let empty := Array.replicate (size members.length) none
      (placed.foldl insert empty).toList.filterMap id

end Calculator.Yaml.Slots

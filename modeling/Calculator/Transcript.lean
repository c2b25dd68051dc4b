import Calculator.Failure

/-! Transcripts: what a program writes to its two streams, and how it ends. -/

namespace Calculator

structure Output where
  out : String := ""
  err : String := ""
  deriving DecidableEq, Repr

namespace Output

def append (a b : Output) : Output := ⟨a.out ++ b.out, a.err ++ b.err⟩

instance : Append Output := ⟨append⟩

def line (text : String) : Output := { out := text ++ "\n" }

def errorLine (text : String) : Output := { err := text ++ "\n" }

@[simp] theorem out_append (a b : Output) : (a ++ b).out = a.out ++ b.out := rfl

@[simp] theorem err_append (a b : Output) : (a ++ b).err = a.err ++ b.err := rfl

@[ext] theorem ext {a b : Output} (ho : a.out = b.out) (he : a.err = b.err) : a = b := by
  cases a
  cases b
  simp_all

theorem append_assoc (a b c : Output) : a ++ b ++ c = a ++ (b ++ c) := by
  ext1 <;> simp [String.append_assoc]

end Output

/-- How a program ends: with a status, or stopped by a failure that it does not report itself. -/
inductive Ending where
  | exit (status : Nat)
  | stopped (f : Failure)

structure Transcript where
  output : Output
  ending : Ending

namespace Transcript

/-- A transcript with more output in front. -/
def after (first : Output) (t : Transcript) : Transcript := { t with output := first ++ t.output }

@[simp] theorem output_after (first : Output) (t : Transcript) :
    (after first t).output = first ++ t.output := rfl

@[simp] theorem ending_after (first : Output) (t : Transcript) :
    (after first t).ending = t.ending := rfl

end Transcript

end Calculator

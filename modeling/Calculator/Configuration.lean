import Calculator.Settings
import Calculator.Text.Line
import Calculator.Yaml.Document

/-! Configuration.  Settings come from three layers, a later one winning: the defaults, a settings
document, and the variables that switch tracing. -/

namespace Calculator

/-- What the program finds around it: files by the plain forms of their paths, variables in the
order in which they were set, a reader of settings documents, the instruments of its tracers, and
how deep its interpreter lets runs nest. -/
structure Surroundings where
  file : String → Except FileFault (List UInt8)
  vars : List (String × String)
  parse : List Char → Except Yaml.Fault Datum := Yaml.load
  instruments : Instruments := {}
  limit : Option Nat := none

namespace Surroundings

/-- The value that a variable was last set to. -/
def var? (around : Surroundings) (name : String) : Option String :=
  (around.vars.reverse.find? fun v => v.1 = name).map (·.2)

def text (around : Surroundings) (path : String) : Except Failure (List Char) :=
  match around.file (Path.plain path) with
  | .error f => .error (.file (Path.plain path) f)
  | .ok bytes =>
      match Text.Utf8.decode bytes with
      | .ok chars => .ok (Text.unifyNewlines chars)
      | .error f => .error (.undecodable f)

/-- A file of ASCII is read as its characters. -/
theorem text_ascii {around : Surroundings} {path : String} {text : List Char}
    (hfile : around.file (Path.plain path) = .ok (text.map fun c => UInt8.ofNat c.toNat))
    (hascii : ∀ c ∈ text, c.toNat < 0x80) (hreturn : '\r' ∉ text) :
    around.text path = .ok text := by
  rw [Surroundings.text, hfile]
  dsimp only
  rw [Text.Utf8.decode_ascii hascii]
  dsimp only
  rw [Text.unifyNewlines_eq_self hreturn]

end Surroundings

namespace Settings

def pathVariable : String := "RWCALC_CONFIG"

/-- The path of the settings document: the given one, or else the one that a variable names.  An
empty path is none. -/
def documentPath? (around : Surroundings) (path : Option String) : Option String :=
  match path.filter (· ≠ "") with
  | some path => some path
  | none => (around.var? pathVariable).filter (· ≠ "")

/-- The entries of a settings document; an empty document has none. -/
def readDocument (around : Surroundings) (path : String) (text : List Char) :
    Except Failure (List (Datum × Datum)) :=
  match around.parse text with
  | .ok .null => .ok []
  | .ok d => asMap path d
  | .error .invalid => .error (.config (.invalidYaml path))
  | .error (.value f) => .error f

/-- The text of a settings document, which must not be missing. -/
def documentText (around : Surroundings) (path : String) : Except Failure (List Char) :=
  match around.text path with
  | .error (.file _ .missing) => .error (.config (.fileMissing path))
  | r => r

/-- Puts a settings document into effect, if there is one. -/
def applyDocument (around : Surroundings) (path : Option String) : Action Settings Unit :=
  match documentPath? around path with
  | none => pure ()
  | some path => do
      let text ← Action.ofExcept (documentText around path)
      let document ← Action.ofExcept (readDocument around path text)
      apply path document

/-- Puts a switch into effect, if a variable sets it. -/
def applyFlag (around : Surroundings) (name : String) (change : Bool → Settings → Settings) :
    Action Settings Unit :=
  match around.var? name with
  | none => pure ()
  | some raw => do
      let flag ← Action.ofExcept (readFlag raw name)
      modify (change flag)

/-- Puts all layers above the defaults into effect. -/
def applyLayers (around : Surroundings) (path : Option String) : Action Settings Unit := do
  applyDocument around path
  applyFlag around "RWCALC_TRACE" fun b s => { s with traceCalls := b, traceResults := b }
  applyFlag around "RWCALC_TRACE_CALLS" fun b s => { s with traceCalls := b }
  applyFlag around "RWCALC_TRACE_RESULTS" fun b s => { s with traceResults := b }

def load (around : Surroundings) (path : Option String) : Except Failure Settings :=
  match (applyLayers around path).result {} with
  | (.ok _, s) => .ok s
  | (.error f, _) => .error f

end Settings

end Calculator

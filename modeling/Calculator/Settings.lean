import Calculator.Datum
import Calculator.Trace

/-! Settings.  A settings document has a map of trace settings, a switch for variables, and a map of
bindings from single letters to integers.  Its entries take effect one after the other, so those
before a fault count. -/

namespace Calculator

structure Settings where
  traceCalls : Bool := false
  traceResults : Bool := false
  callTemplate : Text.Points := ({} : Tracer).callTemplate
  resultTemplate : Text.Points := ({} : Tracer).resultTemplate
  hasVariables : Bool := true
  bindings : List (String × Int) := []
  deriving DecidableEq, Repr

namespace Settings

def tracing (s : Settings) : Bool := s.traceCalls || s.traceResults

/-- The tracer that the settings ask for, if they ask for one. -/
def tracer? (s : Settings) (instruments : Instruments := {}) : Option Tracer :=
  if s.tracing then
    some {
      calls := s.traceCalls
      results := s.traceResults
      callTemplate := s.callTemplate
      resultTemplate := s.resultTemplate
      instruments }
  else none

theorem tracer?_eq_none_iff {s : Settings} {instruments : Instruments} :
    s.tracer? instruments = none ↔ s.tracing = false := by
  rw [tracer?]
  split <;> simp_all

/-- The bindings with one more; a name that is bound already keeps its place. -/
def addBinding (name : String) (value : Int) : List (String × Int) → List (String × Int)
  | [] => [(name, value)]
  | b :: rest => if b.1 = name then (name, value) :: rest else b :: addBinding name value rest

/-- The words for a switch, blanks and case aside. -/
def flagWord (raw : String) : String :=
  String.ofList ((Text.trimBlanks raw.toList).map Char.toLower)

def readFlag (raw setting : String) : Except Failure Bool :=
  let word := flagWord raw
  if word ∈ ["1", "true", "yes", "on"] then .ok true
  else if word ∈ ["0", "false", "no", "off", ""] then .ok false
  else .error (.config (.notAFlag setting raw))

def asMap (place : String) : Datum → Except Failure (List (Datum × Datum))
  | .map entries => .ok entries
  | d => .error (.config (.wrongType place "dict" d.typeName))

def asBool (place : String) : Datum → Except Failure Bool
  | .bool b => .ok b
  | d => .error (.config (.wrongType place "bool" d.typeName))

def asText (place : String) : Datum → Except Failure Text.Points
  | .text s => .ok (Text.points s)
  | .brokenText s => .ok s
  | d => .error (.config (.wrongType place "str" d.typeName))

/-- The entries of a map that may be missing or empty. -/
def asOptionalMap (place : String) (d : Option Datum) : Except Failure (List (Datum × Datum)) :=
  match d with
  | none => .ok []
  | some d => if d.isPresent then asMap place d else .ok []

/-- Whether a key is the name of a variable. -/
def letter? : Datum → Option String
  | .text s =>
      match s.toList with
      | [c] => if Text.isLetter c then some s else none
      | _ => none
  | _ => none

/-- Puts an entry into effect, if it is there. -/
def applyEntry {α : Type} (entries : List (Datum × Datum)) (key : String)
    (read : Datum → Except Failure α) (change : α → Settings → Settings) : Action Settings Unit :=
  match Datum.find? entries key with
  | none => pure ()
  | some d => do
      let value ← Action.ofExcept (read d)
      modify (change value)

def applyBinding (source : String) (entry : Datum × Datum) : Action Settings Unit := do
  match letter? entry.1 with
  | none =>
      let described ← Action.ofExcept entry.1.described
      throw (.config (.notALetter source described))
  | some name =>
      match entry.2 with
      | .number (.int i) => modify fun s => { s with bindings := addBinding name i s.bindings }
      | d =>
          let described ← Action.ofExcept d.described
          throw (.config (.notAnInteger source name described))

def applyTrace (source : String) (trace : List (Datum × Datum)) : Action Settings Unit := do
  applyEntry trace "calls" (asBool (source ++ ": trace.calls"))
    fun b s => { s with traceCalls := b }
  applyEntry trace "results" (asBool (source ++ ": trace.results"))
    fun b s => { s with traceResults := b }
  applyEntry trace "call_template" (asText (source ++ ": trace.call_template"))
    fun t s => { s with callTemplate := t }
  applyEntry trace "result_template" (asText (source ++ ": trace.result_template"))
    fun t s => { s with resultTemplate := t }

def apply (source : String) (document : List (Datum × Datum)) : Action Settings Unit := do
  let trace ← Action.ofExcept (asOptionalMap (source ++ ": trace") (Datum.find? document "trace"))
  applyTrace source trace
  applyEntry document "variables" (asBool (source ++ ": variables"))
    fun b s => { s with hasVariables := b }
  let bindings ←
    Action.ofExcept (asOptionalMap (source ++ ": bindings") (Datum.find? document "bindings"))
  bindings.forM (applyBinding source)

end Settings

end Calculator

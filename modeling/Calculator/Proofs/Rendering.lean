import Calculator.Trace

/-! Lines of a tracer.  Whether a line can be written depends on its tokens, on its template and on
the time, and the depth only indents it.  What is written is kept and goes to the stream as well. -/

namespace Calculator

namespace TraceLog

/-- The log at another depth and with some more lines, for each of which the clock was read. -/
def extend (log : TraceLog) (depth : Nat) (written : List String) : TraceLog where
  depth := depth
  lines := log.lines ++ written
  output := log.output ++ String.join (written.map (· ++ "\n"))
  readings := log.readings + written.length

/-- The log where a line could not be written.  The clock was read unless the tokens of the line
could not be printed. -/
def stoppedBy (log : TraceLog) (f : Failure) : TraceLog :=
  { log with readings := log.readings + if f = .unwritable then 0 else 1 }

variable (log : TraceLog)

@[simp] theorem depth_extend (depth : Nat) (written : List String) :
    (log.extend depth written).depth = depth := rfl

@[simp] theorem lines_extend (depth : Nat) (written : List String) :
    (log.extend depth written).lines = log.lines ++ written := rfl

@[simp] theorem readings_extend (depth : Nat) (written : List String) :
    (log.extend depth written).readings = log.readings + written.length := rfl

theorem extend_nil (depth : Nat) : log.extend depth [] = { log with depth } := by
  simp [extend]

theorem extend_extend (depth depth' : Nat) (first second : List String) :
    (log.extend depth first).extend depth' second = log.extend depth' (first ++ second) := by
  simp [extend, String.append_assoc, Nat.add_assoc]

end TraceLog

namespace Template

theorem read_callTemplate : read (Text.spelledOut ({} : Tracer).callTemplate).toList =
    .ok [.text "calling ".toList, .variable "name".toList, .text "(".toList,
      .variable "args".toList, .text ")".toList] := by cbv

theorem read_resultTemplate : read (Text.spelledOut ({} : Tracer).resultTemplate).toList =
    .ok [.variable "name".toList, .text "(".toList, .variable "args".toList,
      .text ") = ".toList, .variable "result".toList] := by cbv

end Template

namespace Tracer

/-- What the template of a line is filled in with. -/
def fields (name : String) (tokens : List Token) (result : Option (List Token)) (depth : Nat)
    (time : String) : Template.Fields :=
  let printer : Printer := {}
  [("name", .text name), ("args", .text (printer.tokensText tokens)),
    ("result", .text ((result.map printer.tokensText).getD "")), ("depth", .count depth),
    ("time", .text time)]

/-- The line for a pass on `tokens`, which has given `result` if it is over. -/
def line (t : Tracer) (template : Text.Points) (name : String) (tokens : List Token)
    (result : Option (List Token)) (depth : Nat) (time : String) : Except Failure String := do
  let (args, shown) ← printed tokens result
  t.filled template name args shown depth time

/-- Whether the tokens of a line can be written. -/
def arePrintable (tokens : List Token) (result : Option (List Token)) : Bool :=
  tokens.all Token.isWritable && (result.getD []).all Token.isWritable

theorem printed_eq (tokens : List Token) (result : Option (List Token)) :
    printed tokens result =
      if arePrintable tokens result then
        let printer : Printer := {}
        .ok (printer.tokensText tokens, (result.map printer.tokensText).getD "")
      else .error .unwritable := by
  have hprinted : ∀ tokens : List Token, tokens.all Token.isWritable = true →
      ({} : Printer).tokens tokens = .ok (({} : Printer).tokensText tokens) :=
    fun tokens h => if_pos h
  have hrefused : ∀ tokens : List Token, ¬tokens.all Token.isWritable = true →
      ({} : Printer).tokens tokens = .error .unwritable := fun tokens h => if_neg h
  by_cases htokens : tokens.all Token.isWritable = true
  · cases result with
    | none =>
      rw [printed, hprinted tokens htokens, if_pos (by simpa [arePrintable] using htokens)]
      rfl
    | some result =>
      by_cases hresult : result.all Token.isWritable = true
      · rw [printed, hprinted tokens htokens, if_pos (by simp [arePrintable, htokens, hresult])]
        simp only [hprinted result hresult]
        rfl
      · rw [printed, hprinted tokens htokens, if_neg (by simp [arePrintable, hresult])]
        simp only [hrefused result hresult]
        rfl
  · rw [printed, hrefused tokens htokens, if_neg (by simp [arePrintable, htokens])]
    rfl

/-- A line is written where all its tokens can be, and indented by the depth. -/
theorem line_eq (t : Tracer) (template : Text.Points) (name : String) (tokens : List Token)
    (result : Option (List Token)) (depth : Nat) (time : String) :
    t.line template name tokens result depth time =
      if arePrintable tokens result then
        match t.instruments.renderer template (fields name tokens result depth time) with
        | .ok text => .ok (String.join (List.replicate depth t.indent) ++ text)
        | .error f => .error (.template f)
      else .error .unwritable := by
  rw [line, printed_eq]
  split <;> rfl

theorem ne_unwritable_of_filled {t : Tracer} {template : Text.Points} {name args result : String}
    {depth : Nat} {time : String} {f : Failure}
    (h : t.filled template name args result depth time = .error f) : f ≠ .unwritable := by
  rw [filled] at h
  split at h
  · cases h
  · rintro rfl
    cases h

/-- A line that can be written is added to the log. -/
theorem result_write (t : Tracer) (template : Text.Points) (name : String) (tokens : List Token)
    (result : Option (List Token)) (log : TraceLog) :
    (t.write template name tokens result).result log =
      match t.line template name tokens result log.depth (t.instruments.clock log.readings) with
      | .ok line => (.ok (), log.extend log.depth [line])
      | .error f => (.error f, log.stoppedBy f) := by
  rw [write, line, Action.result_bind, Action.result_get]
  simp only [Action.result_bind, Action.result_set, Action.result_ofExcept]
  by_cases hprinted : arePrintable tokens result = true
  · rw [printed_eq, if_pos hprinted]
    simp only [bind, Except.bind]
    cases hfilled : t.filled template name (({} : Printer).tokensText tokens)
        ((result.map ({} : Printer).tokensText).getD "") log.depth
        (t.instruments.clock log.readings) with
    | error f =>
      simp only [TraceLog.stoppedBy, if_neg (ne_unwritable_of_filled hfilled)]
    | ok line => simp [TraceLog.extend, String.append_assoc, String.join]
  · rw [printed_eq, if_neg hprinted]
    rfl

end Tracer

end Calculator

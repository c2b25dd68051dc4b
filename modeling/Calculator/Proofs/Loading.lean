import Calculator.Configuration
import Calculator.Proofs.Outcomes
import Calculator.Proofs.Schema

/-! Loading settings.  What is loaded is proper, and what cannot be loaded is refused with the
setting or the file that is to blame.  There are four ways round this: the document cannot be read,
or not as text, it holds what stands for no value, or what is to blame cannot be written. -/

namespace Calculator

/-- A setting is refused. -/
def Failure.IsConfig (f : Failure) : Prop := ∃ fault, f = .config fault

namespace Settings

/-! ### Proper bindings -/

/-- Single letters are bound, each of them once. -/
structure AreProper (bindings : List (String × Int)) : Prop where
  letters : ∀ name ∈ bindings.map Prod.fst,
    ∃ c : Char, name = String.singleton c ∧ Text.isLetter c = true
  distinct : (bindings.map Prod.fst).Nodup

theorem areProper_nil : AreProper [] := ⟨by simp, List.nodup_nil⟩

theorem names_addBinding (name : String) (value : Int) (bindings : List (String × Int)) :
    (addBinding name value bindings).map Prod.fst =
      if name ∈ bindings.map Prod.fst then bindings.map Prod.fst
      else bindings.map Prod.fst ++ [name] := by
  induction bindings with
  | nil => rfl
  | cons b rest ih =>
    rw [addBinding]
    by_cases hb : b.1 = name
    · simp [hb]
    · rw [if_neg hb, List.map_cons, ih]
      have hne : name ≠ b.1 := fun h => hb h.symm
      by_cases hmem : name ∈ rest.map Prod.fst <;> simp [hmem, hne]

theorem AreProper.addBinding {bindings : List (String × Int)} (h : AreProper bindings)
    {name : String} (hname : ∃ c : Char, name = String.singleton c ∧ Text.isLetter c = true)
    (value : Int) : AreProper (Settings.addBinding name value bindings) := by
  have hnames := names_addBinding name value bindings
  by_cases hmem : name ∈ bindings.map Prod.fst
  · rw [if_pos hmem] at hnames
    constructor
    · rw [hnames]
      exact h.letters
    · rw [hnames]
      exact h.distinct
  · rw [if_neg hmem] at hnames
    constructor
    · rw [hnames, List.forall_mem_append]
      exact ⟨h.letters, List.forall_mem_singleton.mpr hname⟩
    · rw [hnames, List.nodup_append]
      refine ⟨h.distinct, by simp, fun a ha b hb hab => hmem ?_⟩
      rw [← List.mem_singleton.mp hb, ← hab]
      exact ha

theorem letter_of_bound? {entry : Datum × Datum} {b : String × Int} (h : bound? entry = some b) :
    ∃ c : Char, b.1 = String.singleton c ∧ Text.isLetter c = true := by
  rw [bound?] at h
  split at h
  · rename_i name i hname hvalue
    obtain rfl := Option.some.inj h
    exact (letter?_eq_some_iff.mp hname).2
  · cases h

theorem AreProper.addAll {bindings : List (String × Int)} (h : AreProper bindings)
    (entries : Entries) : AreProper (Settings.addAll bindings (entries.filterMap bound?)) := by
  induction entries generalizing bindings with
  | nil => exact h
  | cons entry rest ih =>
    cases hbound : bound? entry with
    | none =>
      rw [List.filterMap_cons_none hbound]
      exact ih h
    | some b =>
      rw [List.filterMap_cons_some hbound]
      exact ih (h.addBinding (letter_of_bound? hbound) b.2)

/-! ### Ways round -/

variable {around : Surroundings} {path : Option String}

/-- The text of the settings document that is asked for. -/
def IsAskedFor (around : Surroundings) (path : Option String) (place : String) (text : List Char) :
    Prop :=
  documentPath? around path = some place ∧ around.text place = .ok text

/-- The failures of loading that name no setting and no file as refused.  What an interpreter does
at its limit on nested calls is not among them: where it describes an entry that breaks the schema
and has very many levels, which take few lines of a document with aliases, the entry is refused
here. -/
inductive Escapes (around : Surroundings) (path : Option String) : Failure → Prop
  | unreadable {place : String} {fault : FileFault} : documentPath? around path = some place →
      around.file (Path.plain place) = .error fault → fault ≠ .missing →
      Escapes around path (.file (Path.plain place) fault)
  | undecodable {place : String} {bytes : List UInt8} {fault : Text.Utf8.Fault} :
      documentPath? around path = some place → around.file (Path.plain place) = .ok bytes →
      Text.Utf8.decode bytes = .error fault → Escapes around path (.undecodable fault)
  | unbuilt {place : String} {text : List Char} {f : Failure} : IsAskedFor around path place text →
      around.parse text = .error (.value f) → Escapes around path f
  | unwritable {place : String} {text : List Char} {document : Entries} :
      IsAskedFor around path place text → readDocument around place text = .ok document →
      IsUnwritable document → Escapes around path .unwritable

theorem breaksSchema_of_isUnwritable {document : Entries} (h : IsUnwritable document) :
    BreaksSchema IsVacant document := by
  obtain ⟨-, before, entry, after, heq, -, hbroken, -⟩ := h
  refine .inr ⟨entry, ?_, hbroken⟩
  rw [heq]
  simp

/-! ### Documents -/

/-- The entries of the document at a place. -/
def documentAt (around : Surroundings) (place : String) : Except Failure Entries :=
  documentText around place >>= readDocument around place

theorem result_applyDocument {place : String} (h : documentPath? around path = some place)
    (s : Settings) :
    (applyDocument around path).result s =
      match documentAt around place with
      | .error f => (.error f, s)
      | .ok document => (apply place document).result s := by
  rw [applyDocument, h, documentAt]
  simp only [Action.result_bind, Action.result_ofExcept]
  cases documentText around place with
  | error f => rfl
  | ok text =>
    rw [show (Except.ok text >>= readDocument around place) = readDocument around place text from
      rfl]
    dsimp only
    cases readDocument around place text <;> rfl

theorem text_of_fault {place : String} {fault : FileFault}
    (h : around.file (Path.plain place) = .error fault) :
    around.text place = .error (.file (Path.plain place) fault) := by
  rw [Surroundings.text, h]

theorem text_of_undecodable {place : String} {bytes : List UInt8} {fault : Text.Utf8.Fault}
    (h : around.file (Path.plain place) = .ok bytes)
    (hdecode : Text.Utf8.decode bytes = .error fault) :
    around.text place = .error (.undecodable fault) := by
  rw [Surroundings.text, h]
  simp only [hdecode]

/-- Of the failures to read a text only that a file is missing is a fault of the setting. -/
theorem documentText_of_error {place : String} {f : Failure} (h : around.text place = .error f)
    (hmissing : ∀ place, f ≠ .file place .missing) : documentText around place = .error f := by
  rw [documentText, h]
  split
  · rename_i heq
    exact absurd (Except.error.inj heq) (hmissing _)
  · rfl

/-- The text of a document is there, or it is missing, or the failure to read it escapes. -/
theorem documentText_cases {place : String} (h : documentPath? around path = some place) :
    (∃ text, documentText around place = .ok text ∧ IsAskedFor around path place text) ∨
      ∃ f, documentText around place = .error f ∧ (f.IsConfig ∨ Escapes around path f) := by
  cases hfile : around.file (Path.plain place) with
  | error fault =>
    refine .inr ?_
    have htext := text_of_fault hfile
    by_cases hmissing : fault = .missing
    · subst hmissing
      rw [documentText, htext]
      exact ⟨_, rfl, .inl ⟨_, rfl⟩⟩
    · refine ⟨_, documentText_of_error htext fun place heq => ?_,
        .inr (.unreadable h hfile hmissing)⟩
      exact hmissing (Failure.file.inj heq).2
  | ok bytes =>
    cases hdecode : Text.Utf8.decode bytes with
    | ok chars =>
      have htext : around.text place = .ok (Text.unifyNewlines chars) := by
        rw [Surroundings.text, hfile]
        simp only [hdecode]
      exact .inl ⟨_, by rw [documentText, htext], h, htext⟩
    | error fault =>
      have htext := text_of_undecodable hfile hdecode
      refine .inr ⟨_, documentText_of_error htext fun place heq => ?_,
        .inr (.undecodable h hfile hdecode)⟩
      cases heq

/-- A text holds the entries of a document, or it is refused, or the failure to read it escapes. -/
theorem readDocument_cases {place : String} {text : List Char}
    (h : IsAskedFor around path place text) :
    (∃ document : Entries, readDocument around place text = .ok document) ∨
      ∃ f, readDocument around place text = .error f ∧ (f.IsConfig ∨ Escapes around path f) := by
  rw [readDocument]
  cases hload : around.parse text with
  | error fault =>
    cases fault with
    | invalid => exact .inr ⟨_, rfl, .inl ⟨_, rfl⟩⟩
    | value f => exact .inr ⟨f, rfl, .inr (.unbuilt h hload)⟩
  | ok d =>
    cases d with
    | null => exact .inl ⟨[], rfl⟩
    | map entries => exact .inl ⟨entries, rfl⟩
    | _ => exact .inr ⟨_, rfl, .inl ⟨_, rfl⟩⟩

theorem documentAt_cases {place : String} (h : documentPath? around path = some place) :
    (∃ (text : List Char) (document : Entries), IsAskedFor around path place text ∧
      readDocument around place text = .ok document ∧ documentAt around place = .ok document) ∨
      ∃ f, documentAt around place = .error f ∧ (f.IsConfig ∨ Escapes around path f) := by
  rw [documentAt]
  rcases documentText_cases h with ⟨text, htext, hasked⟩ | ⟨f, hf, hwhy⟩
  · rw [htext]
    rcases readDocument_cases hasked with ⟨document, hdocument⟩ | ⟨f, hf, hwhy⟩
    · exact .inl ⟨text, document, hasked, hdocument, hdocument⟩
    · exact .inr ⟨f, hf, hwhy⟩
  · rw [hf]
    exact .inr ⟨f, rfl, hwhy⟩

/-- A document is put into effect, or it is refused, or its failure escapes. -/
theorem applyDocument_cases (around : Surroundings) (path : Option String) {s : Settings}
    (hs : AreProper s.bindings) :
    (∃ s', (applyDocument around path).result s = (.ok (), s') ∧ AreProper s'.bindings) ∨
      ∃ f s', (applyDocument around path).result s = (.error f, s') ∧
        (f.IsConfig ∨ Escapes around path f) := by
  cases hplace : documentPath? around path with
  | none =>
    rw [applyDocument, hplace]
    exact .inl ⟨s, rfl, hs⟩
  | some place =>
    rw [result_applyDocument hplace]
    rcases documentAt_cases hplace with ⟨text, document, hasked, hdocument, hat⟩ | ⟨f, hf, hwhy⟩
    · rw [hat]
      have hjudges := judges_apply place document
      by_cases hbroken : BreaksSchema IsVacant document
      · by_cases hunwritable : IsUnwritable document
        · obtain ⟨s', hrun⟩ := hjudges.fails hbroken hunwritable s
          exact .inr ⟨_, s', hrun, .inr (.unwritable hasked hdocument hunwritable)⟩
        · obtain ⟨fault, s', hrun⟩ := hjudges.refuses hbroken hunwritable s
          exact .inr ⟨_, s', hrun, .inl ⟨fault, rfl⟩⟩
      · obtain ⟨s', hrun, happlied⟩ := hjudges.accepts hbroken s
        refine .inl ⟨s', hrun, ?_⟩
        rw [happlied.bindings]
        exact hs.addAll (document.under "bindings")
    · rw [hf]
      exact .inr ⟨f, s, rfl, hwhy⟩

theorem documentAt_of_error {place : String} {f : Failure} (h : around.text place = .error f)
    (hmissing : ∀ place, f ≠ .file place .missing) : documentAt around place = .error f := by
  rw [documentAt, documentText_of_error h hmissing]
  rfl

theorem documentAt_of_text {place : String} {text : List Char} (h : around.text place = .ok text) :
    documentAt around place = readDocument around place text := by
  rw [documentAt, documentText, h]
  rfl

/-- What escapes does so in any settings. -/
theorem result_applyDocument_of_escapes {f : Failure} (h : Escapes around path f) (s : Settings) :
    ∃ s', (applyDocument around path).result s = (.error f, s') := by
  cases h with
  | unreadable hplace hfile hmissing =>
    rw [result_applyDocument hplace, documentAt_of_error (text_of_fault hfile)]
    · exact ⟨s, rfl⟩
    · exact fun place heq => hmissing (Failure.file.inj heq).2
  | undecodable hplace hfile hdecode =>
    rw [result_applyDocument hplace, documentAt_of_error (text_of_undecodable hfile hdecode)]
    · exact ⟨s, rfl⟩
    · intro place heq
      cases heq
  | unbuilt hasked hload =>
    rw [result_applyDocument hasked.1, documentAt_of_text hasked.2, readDocument, hload]
    exact ⟨s, rfl⟩
  | @unwritable place text document hasked hdocument hunwritable =>
    rw [result_applyDocument hasked.1, documentAt_of_text hasked.2, hdocument]
    exact (judges_apply place document).fails (breaksSchema_of_isUnwritable hunwritable) hunwritable
      s

/-! ### Layers -/

theorem meets_readFlag (raw setting : String) :
    Meets (fun _ => True) Failure.IsConfig (readFlag raw setting) := by
  rw [readFlag]
  split
  · trivial
  · split
    · trivial
    · exact ⟨_, rfl⟩

/-- A switch leaves the bindings as they are. -/
theorem keeps_applyFlag (around : Surroundings) (name : String)
    {change : Bool → Settings → Settings} (hchange : ∀ b s, (change b s).bindings = s.bindings) :
    (applyFlag around name change).Keeps (fun s => AreProper s.bindings) (fun _ => True)
      Failure.IsConfig := by
  rw [applyFlag]
  cases around.var? name with
  | none => exact Action.keeps_pure trivial
  | some raw =>
    refine (Action.keeps_ofExcept (meets_readFlag raw name)).bind fun b _ s hs => ?_
    have hkept : AreProper (change b s).bindings := by
      rw [hchange]
      exact hs
    exact ⟨hkept, trivial⟩

/-- The switches that variables set. -/
def applyFlags (around : Surroundings) : Action Settings Unit := do
  applyFlag around "RWCALC_TRACE" fun b s => { s with traceCalls := b, traceResults := b }
  applyFlag around "RWCALC_TRACE_CALLS" fun b s => { s with traceCalls := b }
  applyFlag around "RWCALC_TRACE_RESULTS" fun b s => { s with traceResults := b }

theorem applyLayers_eq (around : Surroundings) (path : Option String) :
    applyLayers around path = (do applyDocument around path; applyFlags around) := rfl

theorem keeps_applyFlags (around : Surroundings) :
    (applyFlags around).Keeps (fun s => AreProper s.bindings) (fun _ => True) Failure.IsConfig := by
  rw [applyFlags]
  refine (keeps_applyFlag around _ ?_).bind fun _ _ => (keeps_applyFlag around _ ?_).bind fun _ _ =>
    keeps_applyFlag around _ ?_
  all_goals exact fun _ _ => rfl

theorem load_of_escapes {f : Failure} (h : Escapes around path f) :
    load around path = .error f := by
  obtain ⟨s', hrun⟩ := result_applyDocument_of_escapes h {}
  rw [load, applyLayers_eq, Action.result_bind, hrun]

/-- The settings that are loaded are proper.  Those that cannot be loaded are refused, or their
failure escapes, and whatever escapes is what loading fails with. -/
theorem load_guarded (around : Surroundings) (path : Option String) :
    Meets (fun s => AreProper s.bindings) (fun f => f.IsConfig ∨ Escapes around path f)
      (load around path) ∧
    ∀ f, Escapes around path f → load around path = .error f := by
  refine ⟨?_, fun f hf => load_of_escapes hf⟩
  rw [load, applyLayers_eq, Action.result_bind]
  rcases applyDocument_cases around path (s := {}) areProper_nil with
    ⟨s', hrun, hproper⟩ | ⟨f, s', hrun, hwhy⟩
  · rw [hrun]
    obtain ⟨hinv, hmeets⟩ := keeps_applyFlags around s' hproper
    dsimp only
    cases hflags : (applyFlags around).result s' with
    | mk r after =>
      rw [hflags] at hinv hmeets
      cases r with
      | ok _ => exact hinv
      | error f => exact .inl hmeets
  · rw [hrun]
    exact hwhy

/-- Bytes that are no text escape, though the file is there and every text that it could hold stands
for a value or is invalid. -/
theorem not_forall_guarded :
    ¬∀ (around : Surroundings) (path : Option String),
      (∀ place, (∃ bytes, around.file place = .ok bytes) ∨ around.file place = .error .missing) →
      (∀ place text f, IsAskedFor around path place text →
        around.parse text ≠ .error (.value f)) →
      Meets (fun s => AreProper s.bindings) Failure.IsConfig (load around path) := by
  intro h
  let around : Surroundings := { file := fun _ => .ok [0xff], vars := [] }
  have hfault : Text.Utf8.decode [0xff] = .error ⟨0, 1, 0xff, .invalidStart⟩ := rfl
  have hload : load around (some "c.yaml") = .error _ :=
    load_of_escapes (.undecodable rfl rfl hfault)
  have hnoText : ∀ place text, ¬IsAskedFor around (some "c.yaml") place text := by
    rintro place text ⟨-, htext⟩
    rw [text_of_undecodable rfl hfault] at htext
    cases htext
  have hconfig := h around (some "c.yaml") (fun _ => .inl ⟨[0xff], rfl⟩)
    fun place text f hasked => absurd hasked (hnoText place text)
  rw [hload] at hconfig
  obtain ⟨fault, hf⟩ := hconfig
  cases hf

end Settings

end Calculator

import Mathlib.Tactic.ByContra
import Calculator.Settings

/-! The schema of settings documents.  A document breaks the schema if one of its entries is there
and is not what it should be.  Such a document is refused and every other one is put into effect;
what is refused is also said, unless the entry to blame holds an integer that is too long to be
written. -/

namespace Calculator

namespace Datum

def IsMap (d : Datum) : Prop := ∃ entries, d = .map entries

/-- The truth value that a datum gives. -/
def GivesBool (d : Datum) (b : Bool) : Prop := d = .bool b

/-- The text that a datum gives, which may hold surrogates. -/
def GivesText (d : Datum) (s : Text.Points) : Prop :=
  (∃ text, d = .text text ∧ s = Text.points text) ∨ d = .brokenText s

def IsInteger (d : Datum) : Prop := ∃ i : Int, d = .number (.int i)

/-- A text of one character, which is a letter. -/
def IsLetter (d : Datum) : Prop :=
  ∃ c : Char, d = .text (String.singleton c) ∧ Text.isLetter c = true

end Datum

/-- The entries of a map or of a document, in order. -/
abbrev Entries : Type := List (Datum × Datum)

namespace Entries

open Datum (find?)

/-- The entries of the map that stands under a key.  There are none if something else stands there.
-/
def under (entries : Entries) (key : String) : Entries :=
  match find? entries key with
  | some (.map inner) => inner
  | _ => []

/-- An entry is there, and is not of a kind. -/
def HasOther (entries : Entries) (key : String) (kind : Datum → Prop) : Prop :=
  ∃ d, find? entries key = some d ∧ ¬kind d

/-- What an entry gives where it is there, and else what was there before. -/
def Gives {α : Type} (entries : Entries) (key : String) (gives : Datum → α → Prop) (old new : α) :
    Prop :=
  match find? entries key with
  | none => new = old
  | some d => gives d new

end Entries

namespace Settings

open Datum (find?)

/-! ### The schema -/

/-- The trace settings break the schema. -/
def BreaksTrace (trace : Entries) : Prop :=
  trace.HasOther "calls" (fun d => ∃ b, d.GivesBool b) ∨
  trace.HasOther "results" (fun d => ∃ b, d.GivesBool b) ∨
  trace.HasOther "call_template" (fun d => ∃ s, d.GivesText s) ∨
  trace.HasOther "result_template" (fun d => ∃ s, d.GivesText s)

/-- An entry of the bindings is as it should be. -/
def IsBinding (entry : Datum × Datum) : Prop := entry.1.IsLetter ∧ entry.2.IsInteger

/-- A document breaks the schema above the entries of its bindings.  Where a map is asked for, a
vacant datum may stand instead of one. -/
def BreaksAbove (vacant : Datum → Prop) (document : Entries) : Prop :=
  document.HasOther "trace" (fun d => vacant d ∨ d.IsMap) ∨
  BreaksTrace (document.under "trace") ∨
  document.HasOther "variables" (fun d => ∃ b, d.GivesBool b) ∨
  document.HasOther "bindings" (fun d => vacant d ∨ d.IsMap)

def BreaksSchema (vacant : Datum → Prop) (document : Entries) : Prop :=
  BreaksAbove vacant document ∨ ∃ entry ∈ document.under "bindings", ¬IsBinding entry

/-- Nothing that counts as there. -/
def IsVacant (d : Datum) : Prop := d.isPresent = false

/-- The part of an entry that is named when the entry is refused. -/
def blamed (entry : Datum × Datum) : Datum :=
  if (letter? entry.1).isSome then entry.2 else entry.1

/-- The first of some bindings that breaks the schema cannot be written. -/
def StartsUnwritable (bindings : Entries) : Prop :=
  ∃ before entry after, bindings = before ++ entry :: after ∧ (∀ b ∈ before, IsBinding b) ∧
    ¬IsBinding entry ∧ (blamed entry).isWritable = false

/-- A document breaks the schema in a binding first, and with one that cannot be written. -/
def IsUnwritable (document : Entries) : Prop :=
  ¬BreaksAbove IsVacant document ∧ StartsUnwritable (document.under "bindings")

/-! ### Verdicts -/

/-- What an action on settings does, whatever they are.  It changes them as `change` says unless
something is broken; else it fails, and says what is refused unless that cannot be written. -/
structure Judges (x : Action Settings Unit) (broken unwritable : Prop)
    (change : Settings → Settings → Prop) : Prop where
  accepts : ¬broken → ∀ s, ∃ s', x.result s = (.ok (), s') ∧ change s s'
  refuses : broken → ¬unwritable → ∀ s, ∃ fault s', x.result s = (.error (.config fault), s')
  fails : broken → unwritable → ∀ s, ∃ s', x.result s = (.error .unwritable, s')

variable {broken unwritable broken' unwritable' : Prop}
  {change change' : Settings → Settings → Prop}

theorem Judges.congr {x : Action Settings Unit} (h : Judges x broken unwritable change)
    (hb : broken ↔ broken') (hu : broken → (unwritable ↔ unwritable'))
    (hc : ∀ s s', change s s' → change' s s') : Judges x broken' unwritable' change' := by
  constructor
  case accepts =>
    intro hsound s
    obtain ⟨s', hs', hchange⟩ := h.accepts (fun hbroken => hsound (hb.mp hbroken)) s
    exact ⟨s', hs', hc s s' hchange⟩
  case refuses =>
    intro hbroken hwritable
    have hb' := hb.mpr hbroken
    exact h.refuses hb' fun hunwritable => hwritable ((hu hb').mp hunwritable)
  case fails =>
    intro hbroken hunwritable
    have hb' := hb.mpr hbroken
    exact h.fails hb' ((hu hb').mpr hunwritable)

/-- The first of two actions that is broken decides. -/
theorem Judges.andThen {x y : Action Settings Unit} (hx : Judges x broken unwritable change)
    (hy : Judges y broken' unwritable' change') :
    Judges (do x; y) (broken ∨ broken') (broken ∧ unwritable ∨ ¬broken ∧ unwritable')
      (fun s s' => ∃ t, change s t ∧ change' t s') := by
  constructor
  case accepts =>
    intro hsound s
    obtain ⟨t, ht, hchange⟩ := hx.accepts (fun h => hsound (.inl h)) s
    obtain ⟨s', hs', hchange'⟩ := hy.accepts (fun h => hsound (.inr h)) t
    exact ⟨s', by rw [Action.result_bind, ht, ← hs'], t, hchange, hchange'⟩
  case refuses =>
    intro hbroken hwritable s
    by_cases hb : broken
    · obtain ⟨fault, s', hs'⟩ := hx.refuses hb (fun h => hwritable (.inl ⟨hb, h⟩)) s
      exact ⟨fault, s', by rw [Action.result_bind, hs']⟩
    · obtain ⟨t, ht, -⟩ := hx.accepts hb s
      obtain ⟨fault, s', hs'⟩ :=
        hy.refuses (hbroken.resolve_left hb) (fun h => hwritable (.inr ⟨hb, h⟩)) t
      exact ⟨fault, s', by rw [Action.result_bind, ht, ← hs']⟩
  case fails =>
    rintro hbroken (⟨hb, hunwritable⟩ | ⟨hb, hunwritable⟩) s
    · obtain ⟨s', hs'⟩ := hx.fails hb hunwritable s
      exact ⟨s', by rw [Action.result_bind, hs']⟩
    · obtain ⟨t, ht, -⟩ := hx.accepts hb s
      obtain ⟨s', hs'⟩ := hy.fails (hbroken.resolve_left hb) hunwritable t
      exact ⟨s', by rw [Action.result_bind, ht, ← hs']⟩

/-- A value is read first, and refused if it is broken. -/
theorem judges_ofExcept_bind {α : Type} {x : Except Failure α} {f : α → Action Settings Unit}
    {a : α} (hf : Judges (f a) broken' unwritable' change) (hok : ¬broken → x = .ok a)
    (herror : broken → ∃ fault, x = .error (.config fault)) :
    Judges (do f (← Action.ofExcept x)) (broken ∨ broken') (¬broken ∧ unwritable') change := by
  by_cases hb : broken
  · obtain ⟨fault, hfault⟩ := herror hb
    rw [hfault]
    exact ⟨fun h => absurd (.inl hb) h, fun _ _ s => ⟨fault, s, rfl⟩, fun _ h => absurd hb h.1⟩
  · have hx : (do f (← Action.ofExcept x)) = f a := by
      rw [hok hb]
      exact Action.ext fun _ => rfl
    rw [hx]
    exact ⟨fun h => hf.accepts fun h' => h (.inr h'),
      fun h hwritable => hf.refuses (h.resolve_left hb) fun h' => hwritable ⟨hb, h'⟩,
      fun h hunwritable => hf.fails (h.resolve_left hb) hunwritable.2⟩

/-! ### Entries -/

/-- A reader takes what gives a value, and refuses everything else. -/
def Reads {α : Type} (read : Datum → Except Failure α) (gives : Datum → α → Prop) : Prop :=
  ∀ d, (∃ a, read d = .ok a ∧ gives d a) ∨
    (¬∃ a, gives d a) ∧ ∃ fault, read d = .error (.config fault)

theorem reads_asBool (place : String) : Reads (asBool place) Datum.GivesBool := by
  intro d
  cases d with
  | bool b => exact .inl ⟨b, rfl, rfl⟩
  | _ => exact .inr ⟨fun ⟨b, h⟩ => (by cases h), _, rfl⟩

theorem reads_asText (place : String) : Reads (asText place) Datum.GivesText := by
  intro d
  cases d with
  | text s => exact .inl ⟨Text.points s, rfl, .inl ⟨s, rfl, rfl⟩⟩
  | brokenText s => exact .inl ⟨s, rfl, .inr rfl⟩
  | _ => exact .inr ⟨fun ⟨s, h⟩ => (by rcases h with ⟨_, h, _⟩ | h <;> cases h), _, rfl⟩

/-- An entry changes one setting, which `view` shows and `change` sets. -/
theorem judges_applyEntry {α : Type} {read : Datum → Except Failure α} {gives : Datum → α → Prop}
    (hread : Reads read gives) (change : α → Settings → Settings) (view : Settings → α)
    (hview : ∀ s, change (view s) s = s) (entries : Entries) (key : String) :
    Judges (applyEntry entries key read change)
      (entries.HasOther key fun d => ∃ a, gives d a) False
      (fun s s' => ∃ a, entries.Gives key gives (view s) a ∧ s' = change a s) := by
  rw [applyEntry, Entries.HasOther]
  simp only [Entries.Gives]
  cases find? entries key with
  | none =>
    refine ⟨fun _ s => ⟨s, rfl, view s, rfl, (hview s).symm⟩, ?_, fun _ h => h.elim⟩
    rintro ⟨d, hd, -⟩
    cases hd
  | some d =>
    rcases hread d with ⟨a, ha, hgives⟩ | ⟨hnone, fault, hfault⟩
    · refine ⟨fun _ s => ⟨change a s, ?_, a, hgives, rfl⟩, ?_, fun _ h => h.elim⟩
      · simp only [ha]
        rfl
      · rintro ⟨d', hd, hother⟩
        cases hd
        exact absurd ⟨a, hgives⟩ hother
    · refine ⟨fun h => absurd ⟨d, rfl, hnone⟩ h, fun _ _ s => ⟨fault, s, ?_⟩, fun _ h => h.elim⟩
      simp only [hfault]
      rfl

/-- The map under a key is read unless something else stands there that counts. -/
theorem asOptionalMap_eq_ok {document : Entries} {key : String} (place : String)
    (h : ¬document.HasOther key fun d => IsVacant d ∨ d.IsMap) :
    asOptionalMap place (find? document key) = .ok (document.under key) := by
  rw [Entries.under]
  cases hfind : find? document key with
  | none => rfl
  | some d =>
    have hkind : IsVacant d ∨ d.IsMap := by
      by_contra hother
      exact h ⟨d, hfind, hother⟩
    cases d with
    | map entries => cases entries <;> rfl
    | _ =>
      have hvacant : IsVacant _ := hkind.resolve_right fun ⟨_, h⟩ => by cases h
      rw [asOptionalMap, if_neg (by rw [show Datum.isPresent _ = false from hvacant]; decide)]

theorem asOptionalMap_eq_error {document : Entries} {key : String} (place : String)
    (h : document.HasOther key fun d => IsVacant d ∨ d.IsMap) :
    ∃ fault, asOptionalMap place (find? document key) = .error (.config fault) := by
  obtain ⟨d, hfind, hother⟩ := h
  have hpresent : d.isPresent = true := by
    rw [← Bool.not_eq_false]
    exact fun hvacant => hother (.inl hvacant)
  rw [hfind, asOptionalMap, if_pos hpresent]
  cases d with
  | map entries => exact absurd (.inr ⟨entries, rfl⟩) hother
  | _ => exact ⟨_, rfl⟩

/-! ### Bindings -/

theorem letter?_text (s : String) :
    letter? (.text s) = match s.toList with
      | [c] => if Text.isLetter c then some s else none
      | _ => none := rfl

theorem letter?_eq_some_iff {d : Datum} {name : String} :
    letter? d = some name ↔
      d = .text name ∧ ∃ c, name = String.singleton c ∧ Text.isLetter c = true := by
  constructor
  · intro h
    cases d with
    | text s =>
      rw [letter?_text] at h
      split at h
      · rename_i c hs
        have hsingle : s = String.singleton c := by
          rw [← String.toList_inj, hs, String.toList_singleton]
        by_cases hc : Text.isLetter c = true
        · rw [if_pos hc, Option.some_inj] at h
          subst h
          exact ⟨rfl, c, hsingle, hc⟩
        · rw [if_neg hc] at h
          cases h
      · cases h
    | _ => cases h
  · rintro ⟨rfl, c, rfl, hc⟩
    rw [letter?_text, String.toList_singleton]
    exact if_pos hc

theorem isLetter_iff {d : Datum} : d.IsLetter ↔ ∃ name, letter? d = some name := by
  constructor
  · rintro ⟨c, rfl, hc⟩
    exact ⟨_, letter?_eq_some_iff.mpr ⟨rfl, c, rfl, hc⟩⟩
  · rintro ⟨name, hname⟩
    obtain ⟨rfl, c, rfl, hc⟩ := letter?_eq_some_iff.mp hname
    exact ⟨c, rfl, hc⟩

/-- What an entry of the bindings binds. -/
def bound? (entry : Datum × Datum) : Option (String × Int) :=
  match letter? entry.1, entry.2 with
  | some name, .number (.int i) => some (name, i)
  | _, _ => none

/-- The bindings with some more, added one after the other. -/
def addAll (bindings added : List (String × Int)) : List (String × Int) :=
  added.foldl (fun bindings b => addBinding b.1 b.2 bindings) bindings

theorem addAll_append (bindings a b : List (String × Int)) :
    addAll bindings (a ++ b) = addAll (addAll bindings a) b :=
  List.foldl_append

/-- What a list of bindings does to settings. -/
def BindsAll (bindings : Entries) (s s' : Settings) : Prop :=
  s' = { s with bindings := addAll s.bindings (bindings.filterMap bound?) }

theorem BindsAll.append {a b : Entries} {s t s' : Settings} (ha : BindsAll a s t)
    (hb : BindsAll b t s') : BindsAll (a ++ b) s s' := by
  rw [BindsAll] at ha hb
  rw [BindsAll, List.filterMap_append, addAll_append, hb, ha]

/-- A refusal names what it refuses, if that can be written. -/
theorem judges_refusal (d : Datum) (fault : String → ConfigFault)
    (change : Settings → Settings → Prop) :
    Judges (do let described ← Action.ofExcept d.described; throw (.config (fault described)))
      True (d.isWritable = false) change := by
  cases hwritable : d.isWritable with
  | true =>
    have htext : d.described = .ok d.describe := if_pos hwritable
    rw [htext]
    exact ⟨fun h => absurd trivial h, fun _ _ s => ⟨fault d.describe, s, rfl⟩,
      fun _ h => by cases h⟩
  | false =>
    have htext : d.described = .error .unwritable := by
      rw [Datum.described, hwritable]
      rfl
    rw [htext]
    exact ⟨fun h => absurd trivial h, fun _ h => absurd rfl h, fun _ _ s => ⟨s, rfl⟩⟩

theorem judges_applyBinding (source : String) (entry : Datum × Datum) :
    Judges (applyBinding source entry) (¬IsBinding entry) ((blamed entry).isWritable = false)
      (BindsAll [entry]) := by
  obtain ⟨key, value⟩ := entry
  have hkey := isLetter_iff (d := key)
  rw [applyBinding, IsBinding, blamed]
  cases hletter : letter? key with
  | none =>
    refine (judges_refusal key (.notALetter source) _).congr ?_ (fun _ => Iff.rfl) fun _ _ h => h
    rw [hletter] at hkey
    simp [hkey]
  | some name =>
    rw [hletter] at hkey
    have hrefused : ∀ d : Datum, ¬d.IsInteger →
        Judges (do let described ← Action.ofExcept d.described
                   throw (.config (.notAnInteger source name described)))
          (¬(key.IsLetter ∧ d.IsInteger)) (d.isWritable = false) (BindsAll [(key, d)]) := by
      intro d hd
      refine (judges_refusal d (.notAnInteger source name) _).congr ?_ (fun _ => Iff.rfl)
        fun _ _ h => h
      simp [hd]
    cases value with
    | number n =>
      cases n with
      | int i =>
        have hsound : key.IsLetter ∧ (Datum.number (.int i)).IsInteger :=
          ⟨hkey.mpr ⟨name, rfl⟩, i, rfl⟩
        refine ⟨fun _ s => ⟨_, rfl, ?_⟩, fun h => absurd hsound h, fun h => absurd hsound h⟩
        simp [BindsAll, bound?, hletter, addAll]
      | float x =>
        refine hrefused (.number (.float x)) ?_
        rintro ⟨i, h⟩
        cases h
    | _ =>
      refine hrefused _ ?_
      rintro ⟨i, h⟩
      cases h

/-- The first binding that breaks the schema is the first one or one of the others. -/
theorem startsUnwritable_cons (entry : Datum × Datum) (rest : Entries) :
    StartsUnwritable (entry :: rest) ↔
      ¬IsBinding entry ∧ (blamed entry).isWritable = false ∨
        IsBinding entry ∧ StartsUnwritable rest := by
  constructor
  · rintro ⟨before, broken, after, heq, hbefore, hbroken, hunwritable⟩
    cases before with
    | nil =>
      obtain ⟨rfl, rfl⟩ := List.cons_eq_cons.mp heq
      exact .inl ⟨hbroken, hunwritable⟩
    | cons first before =>
      obtain ⟨rfl, rfl⟩ := List.cons_eq_cons.mp heq
      rw [List.forall_mem_cons] at hbefore
      exact .inr ⟨hbefore.1, before, broken, after, rfl, hbefore.2, hbroken, hunwritable⟩
  · rintro (⟨hbroken, hunwritable⟩ | ⟨hsound, before, broken, after, rfl, hbefore, hrest⟩)
    · exact ⟨[], entry, rest, rfl, by simp, hbroken, hunwritable⟩
    · exact ⟨entry :: before, broken, after, rfl, List.forall_mem_cons.mpr ⟨hsound, hbefore⟩, hrest⟩

/-- The bindings are taken one after the other, up to the first that breaks the schema. -/
theorem judges_bindings (source : String) (bindings : Entries) :
    Judges (bindings.forM (applyBinding source)) (∃ entry ∈ bindings, ¬IsBinding entry)
      (StartsUnwritable bindings) (BindsAll bindings) := by
  induction bindings with
  | nil =>
    exact ⟨fun _ s => ⟨s, rfl, rfl⟩, fun ⟨_, h, _⟩ => absurd h List.not_mem_nil,
      fun ⟨_, h, _⟩ => absurd h List.not_mem_nil⟩
  | cons entry rest ih =>
    -- the rest is judged in the settings that the first entry leaves
    rw [List.forM_eq_forM, List.forM_cons, ← List.forM_eq_forM]
    refine ((judges_applyBinding source entry).andThen ih).congr ?_ ?_ ?_
    · simp only [List.mem_cons, exists_eq_or_imp]
    · intro _
      rw [startsUnwritable_cons, not_not]
    · rintro s s' ⟨t, hfirst, hrest⟩
      exact hfirst.append hrest

/-! ### Documents -/

/-- What trace settings give. -/
structure TraceGiven (trace : Entries) (s s' : Settings) : Prop where
  traceCalls : trace.Gives "calls" Datum.GivesBool s.traceCalls s'.traceCalls
  traceResults : trace.Gives "results" Datum.GivesBool s.traceResults s'.traceResults
  callTemplate : trace.Gives "call_template" Datum.GivesText s.callTemplate s'.callTemplate
  resultTemplate : trace.Gives "result_template" Datum.GivesText s.resultTemplate s'.resultTemplate

theorem judges_applyTrace (source : String) (trace : Entries) :
    Judges (applyTrace source trace) (BreaksTrace trace) False (fun s s' =>
      TraceGiven trace s s' ∧ s'.hasVariables = s.hasVariables ∧ s'.bindings = s.bindings) := by
  have hcalls := judges_applyEntry (reads_asBool (source ++ ": trace.calls"))
    (fun b s => { s with traceCalls := b }) (fun s => s.traceCalls)
    (fun _ => rfl) trace "calls"
  have hresults := judges_applyEntry (reads_asBool (source ++ ": trace.results"))
    (fun b s => { s with traceResults := b }) (fun s => s.traceResults)
    (fun _ => rfl) trace "results"
  have hcallTemplate := judges_applyEntry (reads_asText (source ++ ": trace.call_template"))
    (fun t s => { s with callTemplate := t }) (fun s => s.callTemplate)
    (fun _ => rfl) trace "call_template"
  have hresultTemplate := judges_applyEntry (reads_asText (source ++ ": trace.result_template"))
    (fun t s => { s with resultTemplate := t }) (fun s => s.resultTemplate)
    (fun _ => rfl) trace "result_template"
  refine (hcalls.andThen (hresults.andThen (hcallTemplate.andThen hresultTemplate))).congr
    Iff.rfl ?_ ?_
  · intro _
    simp only [and_false, or_false]
  · rintro s s' ⟨_, ⟨calls, hc, rfl⟩, _, ⟨results, hr, rfl⟩, _, ⟨call, hct, rfl⟩, result, hrt, rfl⟩
    exact ⟨⟨hc, hr, hct, hrt⟩, rfl, rfl⟩

/-- What a document does to settings. -/
structure Applied (document : Entries) (s s' : Settings) : Prop where
  trace : TraceGiven (document.under "trace") s s'
  hasVariables : document.Gives "variables" Datum.GivesBool s.hasVariables s'.hasVariables
  bindings : s'.bindings = addAll s.bindings ((document.under "bindings").filterMap bound?)

theorem judges_apply (source : String) (document : Entries) :
    Judges (apply source document) (BreaksSchema IsVacant document) (IsUnwritable document)
      (Applied document) := by
  have htrace := judges_applyTrace source (document.under "trace")
  have hvariables := judges_applyEntry (reads_asBool (source ++ ": variables"))
    (fun b s => { s with hasVariables := b }) (fun s => s.hasVariables)
    (fun _ => rfl) document "variables"
  have hbindings := judges_ofExcept_bind
    (f := fun bindings => bindings.forM (applyBinding source))
    (judges_bindings source (document.under "bindings"))
    (asOptionalMap_eq_ok (source ++ ": bindings")) (asOptionalMap_eq_error (source ++ ": bindings"))
  refine (judges_ofExcept_bind
    (f := fun trace => do
      applyTrace source trace
      applyEntry document "variables" (asBool (source ++ ": variables"))
        fun b s => { s with hasVariables := b }
      let bindings ←
        Action.ofExcept (asOptionalMap (source ++ ": bindings") (find? document "bindings"))
      bindings.forM (applyBinding source))
    (htrace.andThen (hvariables.andThen hbindings))
    (asOptionalMap_eq_ok (source ++ ": trace"))
    (asOptionalMap_eq_error (source ++ ": trace"))).congr ?_ ?_ ?_
  · simp only [BreaksSchema, BreaksAbove, or_assoc]
  · intro _
    rw [IsUnwritable, BreaksAbove]
    simp only [not_or, and_false, false_or, and_assoc]
  · rintro s s' ⟨t, ⟨htrace, hvariables, hbindings⟩, _, ⟨b, hb, rfl⟩, rfl⟩
    rw [hvariables] at hb
    refine ⟨⟨htrace.traceCalls, htrace.traceResults, htrace.callTemplate, htrace.resultTemplate⟩,
      hb, ?_⟩
    rw [hbindings]

theorem lookup_cons_ite (b : String × Int) (rest : List (String × Int)) (name : String) :
    (b :: rest).lookup name = if name = b.1 then some b.2 else rest.lookup name := by
  by_cases h : name = b.1
  · rw [if_pos h, h, List.lookup_cons_self]
  · rw [if_neg h, List.lookup_cons, beq_false_of_ne h]

theorem lookup_addBinding (name : String) (value : Int) (bindings : List (String × Int))
    (other : String) :
    (addBinding name value bindings).lookup other =
      if other = name then some value else bindings.lookup other := by
  induction bindings with
  | nil => exact lookup_cons_ite (name, value) [] other
  | cons b rest ih =>
    rw [addBinding, lookup_cons_ite b rest other]
    by_cases hb : b.1 = name
    · rw [if_pos hb, lookup_cons_ite, hb]
      split <;> rfl
    · rw [if_neg hb, lookup_cons_ite, ih]
      by_cases h : other = b.1
      · have hne : other ≠ name := by
          rw [h]
          exact hb
        rw [if_pos h, if_neg hne, if_pos h]
      · rw [if_neg h, if_neg h]

/-- Of some added bindings the last one for a name counts. -/
theorem lookup_addAll (bindings added : List (String × Int)) (name : String) :
    (addAll bindings added).lookup name =
      (added.reverse.lookup name).or (bindings.lookup name) := by
  induction added generalizing bindings with
  | nil => rfl
  | cons b rest ih =>
    have hstep : addAll bindings (b :: rest) = addAll (addBinding b.1 b.2 bindings) rest := rfl
    rw [hstep, ih, lookup_addBinding, List.reverse_cons, List.lookup_append, Option.or_assoc,
      lookup_cons_ite]
    split <;> rfl

/-- The value that some bindings give a name. -/
def given? (bindings : Entries) (name : String) : Option Int :=
  (bindings.filterMap bound?).reverse.lookup name

/-- A document is refused exactly if it breaks the schema, where whatever counts as nothing may
stand instead of a map.  What is refused is said, except where that cannot be written.  A document
that is not refused changes the settings that it names, and no other. -/
theorem apply_enforces (source : String) (document : Entries) (s : Settings) :
    let run := (apply source document).result s
    ((∃ f, run.1 = .error f) ↔ BreaksSchema IsVacant document) ∧
    (∀ f, run.1 = .error f →
      IsUnwritable document ∧ f = .unwritable ∨
        ¬IsUnwritable document ∧ ∃ fault, f = .config fault) ∧
    (run.1 = .ok () → Applied document s run.2 ∧
      ∀ name, run.2.bindings.lookup name =
        (given? (document.under "bindings") name).or (s.bindings.lookup name)) := by
  intro run
  have hjudges := judges_apply source document
  by_cases hbroken : BreaksSchema IsVacant document
  · by_cases hunwritable : IsUnwritable document
    · obtain ⟨s', hrun⟩ := hjudges.fails hbroken hunwritable s
      have hfailure : run.1 = .error .unwritable := congrArg Prod.fst hrun
      rw [hfailure]
      refine ⟨iff_of_true ⟨_, rfl⟩ hbroken, fun f hf => ?_, fun h => by cases h⟩
      exact .inl ⟨hunwritable, (Except.error.inj hf).symm⟩
    · obtain ⟨fault, s', hrun⟩ := hjudges.refuses hbroken hunwritable s
      have hfailure : run.1 = .error (.config fault) := congrArg Prod.fst hrun
      rw [hfailure]
      refine ⟨iff_of_true ⟨_, rfl⟩ hbroken, fun f hf => ?_, fun h => by cases h⟩
      exact .inr ⟨hunwritable, fault, (Except.error.inj hf).symm⟩
  · obtain ⟨s', hrun, happlied⟩ := hjudges.accepts hbroken s
    have hrun' : run = (.ok (), s') := hrun
    rw [hrun']
    refine ⟨iff_of_false ?_ hbroken, ?_, ?_⟩
    · rintro ⟨f, hf⟩
      cases hf
    · intro f hf
      cases hf
    · intro _
      refine ⟨happlied, fun name => ?_⟩
      rw [happlied.bindings, lookup_addAll, given?]

/-- A list with something in it is refused where a map is asked for. -/
example :
    ((apply "c.yaml" [(.text "trace", .list [.bool true])]).result {}).1 =
      .error (.config (.wrongType "c.yaml: trace" "dict" "list")) := rfl

/-- Of what is no map, not only null may stand where a map is asked for. -/
theorem not_forall_enforces :
    ¬∀ (source : String) (document : Entries) (s : Settings),
      (∃ fault, ((apply source document).result s).1 = .error (.config fault)) ↔
        BreaksSchema (fun d => d = .null) document := by
  intro h
  have hbroken : BreaksSchema (fun d => d = .null) [(.text "trace", .list [])] := by
    refine .inl (.inl ⟨.list [], rfl, ?_⟩)
    rintro (hnull | ⟨entries, hmap⟩)
    · cases hnull
    · cases hmap
  obtain ⟨fault, hfault⟩ := (h "c.yaml" [(.text "trace", .list [])] {}).mpr hbroken
  cases hfault

end Settings

end Calculator

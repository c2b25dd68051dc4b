import Calculator.Proofs.Bindings
import Calculator.Proofs.Histories
import Calculator.Proofs.Lines
import Calculator.Proofs.Resemblance

/-! Digits that are bound.  A name is bound to a digit as the character that an assignment stores or
as the number that the settings give.  Names are replaced before digits are merged, so the character
joins digits beside it and the number does not; where this makes no difference to which digits are
joined, a line comes to the same with either. -/

namespace Calculator

/-- A digit as a character stands for itself or for its number. -/
inductive Stands : Token → Token → Prop
  | same (t : Token) : Stands t t
  | digit (d : Fin 10) (offset : Option Int) :
      Stands (.char (Nat.digitChar d) offset) (.number (.int d))

/-- The failure without the token that it points at. -/
def Failure.unblamed : Failure → Failure
  | .evaluation e => .evaluation { e with token := none }
  | f => f

/-- The same failure, whatever token it points at. -/
def Failure.SameCause (f g : Failure) : Prop := f.unblamed = g.unblamed

theorem stands_refl (tokens : List Token) : List.Forall₂ Stands tokens tokens :=
  List.forall₂_same.mpr fun t _ => .same t

theorem isDigit_digitChar (d : Fin 10) (offset : Option Int) :
    (Token.char (Nat.digitChar d) offset).isDigit = true := by
  rw [Token.isDigit_char]
  revert d
  decide

theorem resemblance_stands :
    Resemblance Stands (Environment.Bound Stands) Failure.SameCause where
  keyword := .same _
  name h := by
    cases h with
    | same t => rfl
    | digit d offset =>
      have hname := Token.isName_eq_false_of_isDigit (isDigit_digitChar d offset)
      rw [Token.isName, Option.isSome_eq_false_iff, Option.isNone_iff_eq_none] at hname
      rw [hname]
      rfl
  written h := by
    cases h with
    | same t => rfl
    | digit d offset =>
      have hdigits : ∀ d : Fin 10, (Token.char (Nat.digitChar d) none).written =
          (Token.number (.int d)).written := by decide +kernel
      exact hdigits d
  place {t u p} hp h := by
    cases h with
    | same t => rfl
    | digit d offset =>
      have hdigits : ∀ p ∈ keywordPattern ++ assignmentPattern, ∀ d : Fin 10,
          p.test (.char (Nat.digitChar d) none) = p.test (.number (.int d)) := by decide
      have htest := test_withoutOffset (keywordPattern ++ assignmentPattern) p.test
        (List.mem_map_of_mem hp) (.char (Nat.digitChar d) offset)
      exact htest.symm.trans (hdigits p hp d)
  bound h := h
  insert name h ht := h.insert name ht
  blamed cause _ := rfl
  unwritable := rfl

/-! ### Digits side by side -/

/-- For each token and the next one, whether both are digits. -/
def joints (tokens : List Token) : List Bool :=
  tokens.zipWith (fun t u => t.isDigit && u.isDigit) tokens.tail

theorem joints_cons (t u : Token) (tokens : List Token) :
    joints (t :: u :: tokens) = (t.isDigit && u.isDigit) :: joints (u :: tokens) := rfl

theorem joints_congr {t u : Token} (h : t.isDigit = u.isDigit) (tokens : List Token) :
    joints (t :: tokens) = joints (u :: tokens) := by
  cases tokens with
  | nil => rfl
  | cons v tokens => rw [joints_cons, joints_cons, h]

/-- Only the same digit stands for a digit that may be joined. -/
theorem Stands.eq_of_isDigit {t u : Token} (h : Stands t u) (hu : u.isDigit = true) : t = u := by
  cases h with
  | same t => rfl
  | digit d offset => cases hu

theorem joinDigits_of_joint {last t : Token} (h : (last.isDigit && t.isDigit) = true) :
    ∃ digits, ∀ output, joinDigits (last :: output) t = .numeral digits :: output := by
  obtain ⟨hlast, ht⟩ := Bool.and_eq_true_iff.mp h
  obtain ⟨a, ha⟩ := Option.isSome_iff_exists.mp hlast
  obtain ⟨b, hb⟩ := Option.isSome_iff_exists.mp ht
  exact ⟨a ++ b, fun output => by simp only [joinDigits, ha, hb]⟩

theorem joinDigits_of_not_joint {last t : Token} (h : (last.isDigit && t.isDigit) = false)
    (output : List Token) : joinDigits (last :: output) t = t :: last :: output := by
  rw [Token.isDigit, Token.isDigit] at h
  rw [joinDigits]
  cases hlast : last.digits? with
  | none => rfl
  | some a =>
    cases ht : t.digits? with
    | none => rfl
    | some b => simp [hlast, ht] at h

/-- Where the same digits are joined in two lists, what stands for a digit in one of them stands
alone in both. -/
theorem stands_joinDigits {tokens tokens' : List Token} (h : List.Forall₂ Stands tokens tokens')
    {last last' : Token} (hlast : Stands last last') {output output' : List Token}
    (ho : List.Forall₂ Stands output output')
    (hj : joints (last :: tokens) = joints (last' :: tokens')) :
    List.Forall₂ Stands (tokens.foldl joinDigits (last :: output))
      (tokens'.foldl joinDigits (last' :: output')) := by
  -- The last token of the output is apart: whether the next one joins it is the first joint.
  induction h generalizing last last' output output' with
  | nil => exact .cons hlast ho
  | @cons t u tokens tokens' ht _ ih =>
    rw [joints_cons, joints_cons] at hj
    obtain ⟨hjoint, hrest⟩ := List.cons.inj hj
    rw [List.foldl_cons, List.foldl_cons]
    by_cases hboth : (last'.isDigit && u.isDigit) = true
    · obtain ⟨hlast', hu⟩ := Bool.and_eq_true_iff.mp hboth
      obtain rfl := hlast.eq_of_isDigit hlast'
      obtain rfl := ht.eq_of_isDigit hu
      obtain ⟨digits, hjoin⟩ := joinDigits_of_joint hboth
      rw [hjoin, hjoin]
      have hnumeral : t.isDigit = (Token.numeral digits).isDigit := hu
      rw [joints_congr hnumeral, joints_congr hnumeral] at hrest
      exact ih (.same _) ho hrest
    · have hnone : (last'.isDigit && u.isDigit) = false := by simpa using hboth
      rw [joinDigits_of_not_joint hnone, joinDigits_of_not_joint (hjoint.trans hnone)]
      exact ih ht (.cons hlast ho) hrest

theorem stands_mergeDigits {tokens tokens' : List Token} (h : List.Forall₂ Stands tokens tokens')
    (hj : joints tokens = joints tokens') :
    List.Forall₂ Stands (mergeDigits tokens) (mergeDigits tokens') := by
  cases h with
  | nil => exact .nil
  | cons ht hrest => exact List.rel_reverse (stands_joinDigits hrest ht .nil hj)

/-- What stands for a digit is read as the number that it stands for. -/
theorem convertNumerals_of_stands {tokens tokens' : List Token}
    (h : List.Forall₂ Stands tokens tokens') :
    convertNumerals tokens = convertNumerals tokens' := by
  have hread : ∀ t u, Stands t u → readDigits t = readDigits u := by
    intro t u ht
    cases ht with
    | same t => rfl
    | digit d offset =>
      have hdigits : ∀ d : Fin 10, Text.isAsciiDigit (Nat.digitChar d) = true ∧
          Decimal.readInteger 10 (String.singleton (Nat.digitChar d)) = .ok d := by
        decide +kernel
      obtain ⟨hascii, hvalue⟩ := hdigits d
      simp only [readDigits, Token.digits?, hascii, if_true, hvalue]
  induction h with
  | nil => rfl
  | cons ht _ ih => rw [convertNumerals_cons, convertNumerals_cons, hread _ _ ht, ih]

/-! ### Runs -/

/-- Which digits stood side by side each time digits were merged. -/
def digitJoints (events : List Event) : List (List Bool) :=
  events.filterMap fun
    | .before name tokens => if name = Pass.mergeDigits.name then some (joints tokens) else none
    | .after _ _ _ => none

theorem digitJoints_append (events events' : List Event) :
    digitJoints (events ++ events') = digitJoints events ++ digitJoints events' :=
  List.filterMap_append

/-- Runs that note the same joints, which are the first of some. -/
def sameJoints (all : List (List Bool)) : Comparison (List Event) (List Event) where
  rel := fun events events' => digitJoints events = digitJoints events'
  admits := fun events => digitJoints events <+: all
  admits' := fun events => digitJoints events <+: all

theorem reflects_recorder (all : List (List Bool)) :
    Observer.recorder.Reflects (sameJoints all).admits := by
  intro event events h
  have h : digitJoints (events ++ [event]) <+: all := h
  rw [digitJoints_append] at h
  exact (List.prefix_append _ _).trans h

section Runs

variable {all : List (List Bool)}

/-- What is not noted of either list leaves the joints that are noted the same. -/
theorem alike_recorder {holds : Prop} {event event' : Event} (h : digitJoints [event] = [])
    (h' : digitJoints [event'] = []) (hholds : holds) :
    (Observer.recorder.notice event).Alike (sameJoints all) (fun _ _ => holds) Failure.SameCause
      (Observer.recorder.notice event') := by
  intro events events' hrel _ _
  refine ⟨?_, .ok hholds⟩
  show digitJoints (events ++ [event]) = digitJoints (events' ++ [event'])
  have hrel : digitJoints events = digitJoints events' := hrel
  rw [digitJoints_append, digitJoints_append, h, h', hrel]

theorem seeAlike_recorder {name : String} (hname : name ≠ Pass.mergeDigits.name)
    (pre post : List Token → List Token → Prop) :
    SeeAlike (sameJoints all) Failure.SameCause .recorder .recorder name pre pre post := by
  have hnone : ∀ tokens, digitJoints [.before name tokens] = [] := fun tokens => by
    simp [digitJoints, hname]
  exact ⟨fun h => alike_recorder (hnone _) (hnone _) h, fun _ _ => alike_recorder rfl rfl trivial⟩

/-- Where two runs note the same joints, the digits to merge stand side by side at the same
places. -/
theorem seeAlike_mergeDigits :
    SeeAlike (sameJoints all) Failure.SameCause .recorder .recorder Pass.mergeDigits.name
      (List.Forall₂ Stands)
      (fun tokens tokens' => List.Forall₂ Stands tokens tokens' ∧ joints tokens = joints tokens')
      (List.Forall₂ Stands) := by
  refine ⟨?_, fun _ _ => alike_recorder rfl rfl trivial⟩
  intro tokens tokens' h events events' hrel hleft hright
  have hnoted : ∀ events tokens, digitJoints (events ++ [.before Pass.mergeDigits.name tokens]) =
      digitJoints events ++ [joints tokens] := fun events tokens => by
    rw [digitJoints_append]
    rfl
  have hrel : digitJoints events = digitJoints events' := hrel
  have hleft : digitJoints (events ++ [.before Pass.mergeDigits.name tokens]) <+: all := hleft
  have hright : digitJoints (events' ++ [.before Pass.mergeDigits.name tokens']) <+: all := hright
  rw [hnoted] at hleft hright
  obtain ⟨rest, hrest⟩ := hleft
  obtain ⟨rest', hrest'⟩ := hright
  have hnext : joints tokens = joints tokens' := by
    rw [← hrest', hrel, List.append_assoc, List.append_assoc] at hrest
    exact (List.cons.inj (List.append_cancel_left hrest)).1
  refine ⟨?_, .ok ⟨h, hnext⟩⟩
  show digitJoints (events ++ _) = digitJoints (events' ++ _)
  rw [hnoted, hnoted, hrel, hnext]

/-- Passes of two recorded runs that note the same joints and run the same groups. -/
abbrev LeadRecorded (all : List (List Bool)) (pre : List Token → List Token → Prop)
    (passes : List Pass) (post : List Token → List Token → Prop) : Prop :=
  Lead (sameJoints all) (Environment.Bound Stands) Eq Eq Failure.SameCause .recorder .recorder pre
    passes post

theorem agree_self (x : Except Failure (List Token)) : Agree Eq Failure.SameCause x x :=
  .refl (fun _ => rfl) fun _ => rfl

theorem lead_assigning : LeadRecorded all (List.Forall₂ Stands)
    [.setWord, .setVariable, .useVariable] (List.Forall₂ Stands) := by
  refine lead_of_forall fun p hp => ?_
  simp only [List.mem_cons, List.not_mem_nil, or_false] at hp
  rcases hp with rfl | rfl | rfl
  · exact ⟨rfl, seeAlike_recorder (by decide) _ _, resemblance_stands.setWord⟩
  · exact ⟨rfl, seeAlike_recorder (by decide) _ _, resemblance_stands.setVariable⟩
  · exact ⟨rfl, seeAlike_recorder (by decide) _ _, resemblance_stands.useVariable⟩

/-- When numerals have been read, nothing stands for anything else any more. -/
theorem lead_reading :
    LeadRecorded all (List.Forall₂ Stands) [.mergeDigits, .convertNumerals] Eq := by
  have hmerge : Pass.mergeDigits.Alike (Environment.Bound Stands) Eq Eq Failure.SameCause
      (fun tokens tokens' => List.Forall₂ Stands tokens tokens' ∧ joints tokens = joints tokens')
      (List.Forall₂ Stands) :=
    Pass.alike_ofFunction fun _ _ h => .ok (stands_mergeDigits h.1 h.2)
  have hconvert : Pass.convertNumerals.Alike (Environment.Bound Stands) Eq Eq Failure.SameCause
      (List.Forall₂ Stands) Eq :=
    Pass.alike_ofFunction fun _ _ h => convertNumerals_of_stands h ▸ agree_self _
  exact .cons rfl seeAlike_mergeDigits hmerge
    (.cons rfl (seeAlike_recorder (by decide) _ _) hconvert .nil)

theorem lead_reducing :
    LeadRecorded all Eq [.brackets, .unaryMinus, .foldMultiplicative, .foldAdditive] Eq := by
  refine lead_of_forall fun p hp => ?_
  simp only [List.mem_cons, List.not_mem_nil, or_false] at hp
  rcases hp with rfl | rfl | rfl | rfl
  · refine ⟨rfl, seeAlike_recorder (by decide) _ _, ?_⟩
    rintro tokens _ rfl
    have hfails : ∀ f, Failure.SameCause f f := fun _ => rfl
    exact Plan.alike_refl hfails _
  all_goals
    exact ⟨rfl, seeAlike_recorder (by decide) _ _,
      Pass.alike_ofFunction fun _ _ h => h ▸ agree_self _⟩

theorem lead_withVariables :
    LeadRecorded all (List.Forall₂ Stands) Pipeline.standard.withVariables.passes Eq :=
  (lead_assigning.append lead_reading).append lead_reducing

end Runs

/-! ### Lines -/

theorem Agree.mapError_eq {α β : Type} {f : Failure → β} {x y : Except Failure α}
    (h : Agree Eq (fun e e' => f e = f e') x y) : x.mapError f = y.mapError f := by
  cases h with
  | ok h => rw [h]
  | error h => exact congrArg Except.error h

namespace Session

/-- What a recorder is told when a line is evaluated. -/
def events (s : Session) (source : String) : List Event :=
  ((s.pipeline.run .recorder (tokenize source)).result ⟨s.env, []⟩).2.noted

/-- What a line comes to is what its passes make of it while a recorder looks on. -/
theorem compute_recorded (s : Session) (source : String) :
    ((compute source).result s).1 =
      ((s.pipeline.run .recorder (tokenize source)).result ⟨s.env, []⟩).1 >>= finalValue := by
  have hevaluate : ((evaluate source).result s).1 =
      ((s.pipeline.runSilently (tokenize source)).result s.env).1 := rfl
  rw [result_compute, hevaluate, Pipeline.result_runSilently, Pipeline.result_run_recorder]

/-- A digit bound as a character and bound as a number: a line comes to the same value or the same
error when in both runs digits stand side by side at the same places of the lists that they are
merged in, those of groups included. -/
theorem compute_digit {s : Session} (hs : s.pipeline = Pipeline.standard.withVariables)
    (name : String) (d : Fin 10) (offset : Option Int) (source : String) :
    let bound : Token → Session := fun t => { s with env := s.env.insert name t }
    let character := bound (.char (Nat.digitChar d) offset)
    let number := bound (.number (.int d))
    digitJoints (character.events source) = digitJoints (number.events source) →
    ((compute source).result character).1.mapError Failure.unblamed =
      ((compute source).result number).1.mapError Failure.unblamed := by
  intro bound character number hjoints
  obtain ⟨settings, pipeline, env⟩ := s
  obtain rfl : pipeline = Pipeline.standard.withVariables := hs
  have henv : Environment.Bound Stands character.env number.env := by
    have hsame : Environment.Bound Stands env env := by
      intro other
      cases env.get? other with
      | none => exact .none
      | some t => exact .some (.same t)
    exact hsame.insert name (.digit d offset)
  let all := digitJoints (number.events source)
  have hadmits : digitJoints (character.events source) <+: all := ⟨[], by simp [all, hjoints]⟩
  have hadmits' : digitJoints (number.events source) <+: all := List.prefix_refl _
  obtain ⟨-, hagree⟩ := Pipeline.alike_runWithin (reflects_recorder all) (reflects_recorder all)
    lead_withVariables (fun _ _ h => h ▸ stands_refl _) rfl _ (stands_refl (tokenize source))
    ⟨character.env, []⟩ ⟨number.env, []⟩ ⟨henv, rfl⟩ hadmits hadmits'
  have hvalue := hagree.bind fun tokens tokens' h =>
    show Agree Eq Failure.SameCause (finalValue tokens) (finalValue tokens') from
      h ▸ .refl (fun _ => rfl) fun _ => rfl
  rw [compute_recorded character, compute_recorded number]
  exact hvalue.mapError_eq

/-- A group holds a digit's name and a name for that name. -/
theorem compute_digit_inGroup :
    let s := startWith {} Pipeline.standard.withVariables (.ofList [("z", .char 'x' none)])
    let character : Session := { s with env := s.env.insert "x" (.char '3' (some 6)) }
    let number : Session := { s with env := s.env.insert "x" (.number (.int 3)) }
    digitJoints (character.events "2*(z+x)-10") = digitJoints (number.events "2*(z+x)-10") ∧
      ((compute "2*(z+x)-10").result character).1.mapError Failure.unblamed =
        ((compute "2*(z+x)-10").result number).1.mapError Failure.unblamed := by
  intro s character number
  have hjoints : digitJoints (character.events "2*(z+x)-10") =
      digitJoints (number.events "2*(z+x)-10") := by decide +kernel
  exact ⟨hjoints, compute_digit (s := s) rfl "x" 3 (some 6) "2*(z+x)-10" hjoints⟩

/-- Beside another digit the two ways to bind a digit differ: the character that an assignment
stores is joined to the digit, and the number from the settings is not. -/
theorem compute_joinedDigit :
    ((compute "1x").result ((start {}).after ["set(x,3)"])).1 = .ok (.int 13) ∧
      ((compute "1x").result (start { bindings := [("x", 3)] })).1 =
        .error (.at (.notReduced "1 3") (.number (.int 3))) := by
  decide +kernel

end Session

end Calculator

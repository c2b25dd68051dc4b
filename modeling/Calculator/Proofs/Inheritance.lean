import Calculator.Proofs.Contracts
import Calculator.Proofs.Offsets
import Calculator.Proofs.Windows

/-! What tokens inherit.  A token of a run comes from the source or from the environment, or it is
made of such tokens in one of a few ways.  What is said of the tokens at the start, and is handed on
in these ways, holds of every token of the run and of every token that is bound after it; and an
error blames one of them. -/

namespace Calculator

variable {σ : Type} {good : Token → Prop} {fails : Failure → Prop}

/-- All tokens are as `good` says. -/
abbrev Every (good : Token → Prop) (tokens : List Token) : Prop := ∀ t ∈ tokens, good t

theorem every_reverse {tokens : List Token} (h : Every good tokens) : Every good tokens.reverse :=
  fun t ht => h t (List.mem_reverse.mp ht)

/-- All tokens that are bound are as `good` says. -/
def Environment.Binds (good : Token → Prop) (env : Environment) : Prop :=
  ∀ name t, env.get? name = some t → good t

/-- The cause may lie in the token: a parenthesis without its partner, or the name that is not
bound. -/
def Cause.Fits (t : Token) : Cause → Prop
  | .unmatchedOpen => t.isChar '(' = true
  | .unmatchedClose => t.isChar ')' = true
  | .unbound name => t.name? = some name
  | .reported _ _ => False
  | _ => True

/-- Tokens that are made of good ones are good, and failures that good ones lead to are as `fails`
says. -/
structure Inherited (good : Token → Prop) (fails : Failure → Prop) : Prop where
  number (n : Number) : good (.number n)
  joined {s t : Token} {a b : String} : good s → good t → s.digits? = some a →
    t.digits? = some b → good (.numeral (a ++ b))
  unreadable {t : Token} {digits : String} {f : Decimal.ReadFault} : good t →
    t.digits? = some digits → Decimal.readInteger 10 digits = .error f → fails (.unreadable f)
  blamed {t : Token} {cause : Cause} : good t → cause.Fits t → fails (.at cause t)
  empty : fails (.evaluation ⟨.empty, none⟩)
  overflow (o : Number.Overflow) : fails (.overflow o)
  unwritable : fails .unwritable

/-- Where nothing is said of failures, only the numbers and numerals that are made matter. -/
theorem inherited_of_made (hn : ∀ n, good (.number n)) (hd : ∀ digits, good (.numeral digits)) :
    Inherited good fun _ => True where
  number := hn
  joined _ _ _ _ := hd _
  unreadable _ _ _ := trivial
  blamed _ _ := trivial
  empty := trivial
  overflow _ := trivial
  unwritable := trivial

theorem Environment.Binds.insert {env : Environment} (h : env.Binds good) (name : String)
    {t : Token} (ht : good t) : (env.insert name t).Binds good := by
  intro other u hu
  rw [get?_insert] at hu
  split at hu
  · obtain rfl := Option.some.inj hu
    exact ht
  · exact h other u hu

theorem Environment.Binds.resolve {env : Environment} (h : env.Binds good) {t : Token}
    (ht : good t) : good (env.resolve t) := by
  rw [Environment.resolve]
  split
  · rename_i name _
    cases hname : env.get? name with
    | none => exact ht
    | some u => exact h name u hname
  · exact ht

namespace Inherited

variable (H : Inherited good fails)
include H

/-! ### Numerals -/

theorem mergeDigits {tokens : List Token} (h : Every good tokens) :
    Every good (mergeDigits tokens) := by
  have hjoin : ∀ output t, Every good output → good t → Every good (joinDigits output t) := by
    intro output t ho ht
    cases output with
    | nil => exact List.forall_mem_singleton.mpr ht
    | cons last output =>
      obtain ⟨hlast, hrest⟩ := List.forall_mem_cons.mp ho
      simp only [joinDigits]
      split
      · rename_i a b ha hb
        exact List.forall_mem_cons.mpr ⟨H.joined hlast ht ha hb, hrest⟩
      · exact List.forall_mem_cons.mpr ⟨ht, ho⟩
  have hfold : ∀ output, Every good output → Every good (tokens.foldl joinDigits output) := by
    induction tokens with
    | nil => exact fun _ ho => ho
    | cons t tokens ih =>
      obtain ⟨ht, hrest⟩ := List.forall_mem_cons.mp h
      exact fun output ho => ih hrest _ (hjoin output t ho ht)
  exact every_reverse (hfold [] (List.forall_mem_nil _))

theorem convertNumerals {tokens : List Token} (h : Every good tokens) :
    Meets (Every good) fails (convertNumerals tokens) := by
  refine Meets.mapM fun t ht => ?_
  rw [readDigits]
  split
  · exact h t ht
  · rename_i digits hdigits
    split
    · exact H.number _
    · rename_i f hf
      exact H.unreadable (h t ht) hdigits hf

theorem readNumbers {tokens : List Token} (h : Every good tokens) :
    Meets (Every good) fails (readNumbers tokens) :=
  H.convertNumerals (H.mergeDigits h)

/-! ### Folds -/

theorem operand {t : Token} (ht : good t) : Meets (fun _ => True) fails (operand t) := by
  cases t with
  | number n => trivial
  | char c p =>
    simp only [Calculator.operand]
    split
    · rename_i hopen
      exact H.blamed ht hopen
    · split
      · rename_i name hname
        exact H.blamed ht hname
      · exact H.blamed ht trivial
  | numeral digits => exact H.blamed ht trivial
  | symbol name => exact H.blamed ht rfl

theorem ofOverflow (x : Except Number.Overflow Number) :
    Meets (fun _ => True) fails (Failure.ofOverflow x) := by
  cases x with
  | ok n => trivial
  | error o => exact H.overflow o

theorem multiply (a b : Number) {sign : Token} (hs : good sign) :
    Meets (fun _ => True) fails (multiply a sign b) := by
  rw [Calculator.multiply, divide]
  split
  · exact H.ofOverflow _
  · split
    · exact H.blamed hs trivial
    · exact H.ofOverflow _

theorem addUp (a b : Number) (sign : Token) : Meets (fun _ => True) fails (addUp a sign b) :=
  H.ofOverflow _

section Fold

variable {isSign : Token → Bool} {operation : Number → Token → Number → Except Failure Number}
  (ho : ∀ a b sign, good sign → Meets (fun _ => True) fails (operation a sign b))
include ho

theorem foldFrom {left : Token} {tokens : List Token} (h : Every good (left :: tokens)) :
    Meets (Every good) fails (foldFrom isSign operation left tokens) := by
  induction left, tokens using foldFrom.induct isSign with
  | case1 left => exact h
  | case2 left t => exact h
  | case3 left t right rest ht ih =>
    obtain ⟨hleft, hsign, hright, hrest⟩ : good left ∧ good t ∧ good right ∧ Every good rest := by
      simpa [Every] using h
    rw [foldFrom_cons_of_sign operation ht]
    have hcombine : Meets (fun _ => True) fails (combine operation left t right) :=
      (H.operand hleft).bind fun a _ => (H.operand hright).bind fun b _ => ho a b t hsign
    exact hcombine.bind fun n _ => ih n (List.forall_mem_cons.mpr ⟨H.number n, hrest⟩)
  | case4 left t right rest ht ih =>
    obtain ⟨hleft, hrest⟩ := List.forall_mem_cons.mp h
    rw [foldFrom_cons_of_not_sign operation (by simpa using ht)]
    exact (ih hrest).bind fun folded hfolded => List.forall_mem_cons.mpr ⟨hleft, hfolded⟩

theorem fold {tokens : List Token} (h : Every good tokens) :
    Meets (Every good) fails (fold isSign operation tokens) := by
  cases tokens with
  | nil => exact h
  | cons t tokens => exact H.foldFrom ho h

end Fold

theorem foldProducts {tokens : List Token} (h : Every good tokens) :
    Meets (Every good) fails (foldProducts tokens) := by
  rw [foldProducts_eq_fold]
  exact H.fold (fun a b _ hs => H.multiply a b hs) h

theorem foldSums {tokens : List Token} (h : Every good tokens) :
    Meets (Every good) fails (foldSums tokens) := by
  rw [foldSums_eq_fold]
  exact H.fold (fun a b sign _ => H.addUp a b sign) h

theorem applySigns {tokens : List Token} (h : Every good tokens) :
    Every good (applySigns tokens) := by
  intro t ht
  rcases mem_of_mem_signsFrom ht with ht | hnumber
  · exact h t ht
  · cases t with
    | number n => exact H.number n
    | _ => cases hnumber

end Inherited

/-! ### Passes -/

/-- What is said of tokens is handed on: it holds of all lists and of all that is bound. -/
def inheritance (good : Token → Prop) (fails : Failure → Prop) : Contract where
  env := Environment.Binds good
  list := Every good
  group := Every good
  result := fun _ => Every good
  fails := fails

theorem Inherited.groupPlan (H : Inherited good fails) {tokens : List Token}
    (h : Every good tokens) : (groupPlan [] tokens).Obeys (inheritance good fails) := by
  refine obeys_groupPlan_of (fun output tokens => Every good output ∧ Every good tokens)
    ?done ?push ?unmatched ?close ⟨List.forall_mem_nil _, h⟩
  case done => exact fun h => every_reverse h.1
  case push =>
    rintro output t tokens - ⟨ho, h⟩
    obtain ⟨ht, hrest⟩ := List.forall_mem_cons.mp h
    exact ⟨List.forall_mem_cons.mpr ⟨ht, ho⟩, hrest⟩
  case unmatched => exact fun ht _ h => H.blamed (h.2 _ List.mem_cons_self) ht
  case close =>
    rintro group below paren t tokens - - - ⟨ho, h⟩
    obtain ⟨hgroup, hbelow⟩ := List.forall_mem_append.mp ho
    refine ⟨every_reverse hgroup, fun result hresult => ⟨List.forall_mem_append.mpr
      ⟨every_reverse hresult, ?_⟩, fun u hu => h u (List.mem_cons_of_mem t hu)⟩⟩
    exact fun u hu => hbelow u (List.mem_cons_of_mem paren hu)

/-! ### Scans for windows -/

/-- The windows of a scan are good, and so is what is left, when their replacements are. -/
theorem keeps_scanOnto {inv : σ → Prop} {tests : List (Token → Bool)}
    {combine : List Token → Action σ (List Token)}
    (hc : ∀ window, Every good window → (combine window).Keeps inv (Every good) fails)
    {output tokens : List Token} (ho : Every good output) (h : Every good tokens) :
    (Window.scanOnto tests combine output tokens).Keeps inv (Every good) fails := by
  refine Window.keeps_scanOnto_of (fun output tokens => Every good output ∧ Every good tokens)
    ?done ?push ?replace ⟨ho, h⟩
  case done => exact fun h => every_reverse h.1
  case push =>
    intro output t tokens _ h
    obtain ⟨ht, hrest⟩ := List.forall_mem_cons.mp h.2
    exact ⟨List.forall_mem_cons.mpr ⟨ht, h.1⟩, hrest⟩
  case replace =>
    intro window base output t tokens hwindow _ h
    obtain ⟨ht, hrest⟩ := List.forall_mem_cons.mp h.2
    have hpush : Every good (t :: output) := List.forall_mem_cons.mpr ⟨ht, h.1⟩
    rw [hwindow] at hpush
    obtain ⟨hgood, hbase⟩ := List.forall_mem_append.mp hpush
    have hgood : Every good window := fun u hu => hgood u (List.mem_reverse.mpr hu)
    exact (hc window hgood).mono fun result hresult =>
      ⟨List.forall_mem_append.mpr ⟨every_reverse hresult, hbase⟩, hrest⟩

section Assignments

variable (hname : ∀ t text, good t → fails (.at (.notAName text) t)) (hw : fails .unwritable)
include hname hw

theorem keeps_assign {name value : Token} (hn : good name) (hv : good value) :
    (assign name value).Keeps (Environment.Binds good) (Every good) fails := by
  intro env henv
  rw [assign]
  cases hkey : name.name? with
  | none =>
    have hwritten : Meets (fun _ => True) fails name.written := by
      rw [Token.written]
      split
      · trivial
      · exact hw
    exact (Action.keeps_ofExcept hwritten).bind
      (fun text _ => Action.keeps_throw (hname name text hn)) env henv
  | some key =>
    have hresolved := henv.resolve hv
    exact ⟨henv.insert key hresolved, List.forall_mem_singleton.mpr hresolved⟩

theorem keeps_assignmentWindow {window : List Token} (h : Every good window) :
    (assignmentWindow window).Keeps (Environment.Binds good) (Every good) fails := by
  match window with
  | [_, _, name, _, value, _] => exact keeps_assign hname hw (h name (by simp)) (h value (by simp))
  | [] | [_] | [_, _] | [_, _, _] | [_, _, _, _] | [_, _, _, _, _] => exact Action.keeps_pure h
  | _ :: _ :: _ :: _ :: _ :: _ :: _ :: _ => exact Action.keeps_pure h

/-- Assignments bind tokens that they find, and fail where a name is none. -/
theorem keeps_assignments {tokens : List Token} (h : Every good tokens) :
    (assignments tokens).Keeps (Environment.Binds good) (Every good) fails :=
  keeps_scanOnto (fun _ hwindow => keeps_assignmentWindow hname hw hwindow)
    (List.forall_mem_nil _) h

end Assignments

theorem Inherited.arithmetic (H : Inherited good fails) :
    ∀ p ∈ Pass.arithmetic, p.Obeys (inheritance good fails) := by
  intro p hp
  simp only [Pass.arithmetic, List.mem_cons, List.not_mem_nil, or_false] at hp
  rcases hp with rfl | rfl | rfl | rfl | rfl | rfl
  · exact Pass.obeys_ofFunction fun _ h => H.mergeDigits h
  · exact Pass.obeys_ofFunction fun _ h => H.convertNumerals h
  · exact fun _ h => H.groupPlan h
  · exact Pass.obeys_ofFunction fun _ h => H.applySigns h
  · exact Pass.obeys_ofFunction fun _ h => H.foldProducts h
  · exact Pass.obeys_ofFunction fun _ h => H.foldSums h

theorem Inherited.withVariables (H : Inherited good fails) (hk : good (.symbol setKeyword)) :
    ∀ p ∈ Pipeline.standard.withVariables.passes, p.Obeys (inheritance good fails) := by
  intro p hp
  rw [Pipeline.passes_withVariables] at hp
  simp only [List.cons_append, List.nil_append, List.mem_cons] at hp
  rcases hp with rfl | rfl | rfl | hp
  · intro tokens h
    exact keeps_scanOnto (fun _ _ => Action.keeps_pure (List.forall_mem_singleton.mpr hk))
      (List.forall_mem_nil _) h
  · intro tokens h
    exact keeps_assignments (fun t _ ht => H.blamed ht trivial) H.unwritable h
  · intro tokens h env henv
    refine ⟨henv, fun t ht => ?_⟩
    obtain ⟨u, hu, rfl⟩ := List.mem_map.mp ht
    exact henv.resolve (h u hu)
  · exact H.arithmetic p hp

/-! ### Runs -/

/-- A run of a pipeline hands on what its passes do. -/
theorem Pipeline.keeps_runWithin {o : Observer σ} {l : Pipeline}
    (hp : ∀ p ∈ l.passes, p.Obeys (inheritance good fails))
    (ho : ∀ event noted, Meets (fun _ => True) fails ((o.notice event).result noted).1)
    (hdeep : fails .nestedTooDeep) (depth : Nat) {tokens : List Token} (h : Every good tokens) :
    (runWithin o l depth tokens).Keeps (fun s => s.env.Binds good) (Every good) fails := by
  induction depth generalizing tokens with
  | zero => exact Action.keeps_throw hdeep
  | succ depth ih =>
    have hinner : ∀ tokens, Every good tokens →
        (runWithin o l depth tokens).Keeps (fun s => s.env.Binds good) (Every good) fails :=
      fun _ ht => ih ht
    exact keeps_runPasses hinner ho hp h

/-! ### Evaluation -/

theorem Inherited.evaluated (H : Inherited good fails)
    {group : List Token → Except Failure (List Token)}
    (hgroup : ∀ tokens, Every good tokens → Meets (Every good) fails (group tokens))
    (hclose : ∀ tokens result, group tokens = .ok result → Lacks ')' result) {tokens : List Token}
    (h : Every good tokens) : Meets (Every good) fails (Calculator.arithmetic group tokens) := by
  let inner : List Token → Run Unit (List Token) := fun tokens => Action.ofExcept (group tokens)
  have hinner : ∀ tokens, Every good tokens →
      (inner tokens).Keeps (fun s => s.env.Binds good) (Every good) fails :=
    fun tokens ht => Action.keeps_ofExcept (hgroup tokens ht)
  have hempty : Environment.empty.Binds good := fun name t he => by cases he
  have hrun := Pipeline.keeps_runPasses (o := .silent) hinner (fun _ _ => trivial) H.arithmetic h
    ⟨.empty, ()⟩ hempty
  have hresult : (Pipeline.runPasses .silent inner Pass.arithmetic tokens).result ⟨.empty, ()⟩ =
      (Calculator.arithmetic group tokens, ⟨.empty, ()⟩) :=
    result_arithmetic (fun _ _ => rfl) hclose tokens
  rw [hresult] at hrun
  exact hrun.2

theorem Inherited.evaluateWithin (H : Inherited good fails) (hdeep : fails .nestedTooDeep)
    {prepare : List Token → List Token}
    (hp : ∀ tokens, Every good tokens → Every good (prepare tokens)) (depth : Nat)
    {tokens : List Token} (h : Every good tokens) :
    Meets (Every good) fails (Calculator.evaluateWithin prepare depth tokens) := by
  induction depth generalizing tokens with
  | zero => exact hdeep
  | succ depth ih =>
    exact H.evaluated (fun _ ht => ih ht) (fun _ _ hr => noClose_of_evaluateWithin hr) (hp tokens h)

end Calculator

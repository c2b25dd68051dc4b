import Mathlib.Data.List.Induction
import Calculator.Registry
import Calculator.Arithmetic.Standard
import Calculator.Variables

/-! Pipelines that are put together step by step.  Whichever way a pipeline has come about, its
nested passes are bound to it and it runs as the pipeline that is made of its passes at once; and
the pipelines on the way keep their passes and what these are bound to, and run as they did. -/

namespace Calculator

namespace Registry

variable {σ : Type}

/-- A pipeline of a registry has the passes of `l`, and its nested passes are bound to it. -/
structure Holds (r : Registry) (id : PipelineId) (l : Pipeline) : Prop where
  pipeline : r.pipeline id = l
  bound : ∀ p ∈ r.passes id, p.IsBoundTo id

theorem holds_make (r : Registry) (passes : List BoundPass) :
    (r.make passes).1.Holds (r.make passes).2 ⟨passes.map (·.pass)⟩ := by
  refine ⟨pipeline_make r passes, ?_⟩
  rw [passes_make]
  intro p hp
  obtain ⟨q, -, rfl⟩ := List.mem_map.mp hp
  exact q.isBoundTo_bind _

/-! ### Runs -/

/-- A pass that is bound to a pipeline runs that one. -/
theorem apply_of_isBoundTo {inner : PipelineId → List Token → Run σ (List Token)}
    {id : PipelineId} {p : BoundPass} (hp : p.IsBoundTo id) (tokens : List Token) :
    apply inner p tokens = Pipeline.apply (inner id) p.pass tokens := by
  rw [apply, Pipeline.apply]
  cases hbody : p.pass.body with
  | edit f => rfl
  | nested plan =>
    have hbound : p.pipeline? = some id := hp (by rw [Pass.isNested, hbody])
    rw [hbound]

theorem applyReported_of_isBoundTo (o : Observer σ)
    {inner : PipelineId → List Token → Run σ (List Token)} {id : PipelineId} {p : BoundPass}
    (hp : p.IsBoundTo id) (tokens : List Token) :
    applyReported o inner p tokens = Pipeline.applyReported o (inner id) p.pass tokens := by
  rw [applyReported, Pipeline.applyReported, apply_of_isBoundTo hp]

theorem runPasses_of_isBoundTo (o : Observer σ)
    {inner : PipelineId → List Token → Run σ (List Token)} {id : PipelineId}
    {passes : List BoundPass} (h : ∀ p ∈ passes, p.IsBoundTo id) (tokens : List Token) :
    runPasses o inner passes tokens =
      Pipeline.runPasses o (inner id) (passes.map (·.pass)) tokens := by
  induction passes generalizing tokens with
  | nil => rfl
  | cons p passes ih =>
    obtain ⟨hp, hpasses⟩ := List.forall_mem_cons.mp h
    rw [runPasses, List.map_cons, Pipeline.runPasses_cons, applyReported_of_isBoundTo o hp]
    congr 1
    funext result
    exact ih hpasses result

/-- A pipeline whose nested passes are bound to it runs itself in them, on every level. -/
theorem Holds.runWithin_eq {r : Registry} {id : PipelineId} {l : Pipeline} (h : r.Holds id l)
    (o : Observer σ) (depth : Nat) (tokens : List Token) :
    r.runWithin o depth id tokens = l.runWithin o depth tokens := by
  obtain ⟨rfl, hbound⟩ := h
  induction depth generalizing tokens with
  | zero => rfl
  | succ depth ih =>
    have hinner : r.runWithin o depth id = (r.pipeline id).runWithin o depth := funext ih
    rw [runWithin, runPasses_of_isBoundTo o hbound, hinner]
    rfl

/-! ### Growth -/

/-- A registry holds everything that another one holds. -/
def Extends (r' r : Registry) : Prop := r.made <+: r'.made

theorem Extends.refl (r : Registry) : r.Extends r := List.prefix_refl _

theorem Extends.trans {r r' r'' : Registry} (h' : r''.Extends r') (h : r'.Extends r) :
    r''.Extends r :=
  List.IsPrefix.trans h h'

theorem extends_make (r : Registry) (passes : List BoundPass) : (r.make passes).1.Extends r :=
  List.prefix_append _ _

theorem Extends.passes_eq {r r' : Registry} (h : r'.Extends r) {id : PipelineId}
    (hid : id < r.made.length) : r'.passes id = r.passes id := by
  obtain ⟨later, hlater⟩ := h
  rw [passes, passes, ← hlater, List.getElem?_append_left hid]

/-- A pipeline that has been made is held from then on. -/
theorem Holds.of_extends {r r' : Registry} {id : PipelineId} {l : Pipeline} (h : r.Holds id l)
    (hr : r'.Extends r) (hid : id < r.made.length) : r'.Holds id l := by
  have hpasses : r'.passes id = r.passes id := hr.passes_eq hid
  constructor
  · show (⟨(r'.passes id).map (·.pass)⟩ : Pipeline) = l
    rw [hpasses]
    exact h.pipeline
  · rw [hpasses]
    exact h.bound

end Registry

/-! ### Insertions -/

/-- One step in putting a pipeline together.  The pass may have been bound to any pipeline. -/
inductive Insertion where
  | insertFront (p : BoundPass)
  | insertEnd (p : BoundPass)
  | stackBefore (p : BoundPass)
  | stackAfter (p : BoundPass)

namespace Insertion

/-- Makes the next pipeline from the one that is there. -/
def carryOut (i : Insertion) (r : Registry) (id : PipelineId) : Registry × PipelineId :=
  match i with
  | .insertFront p => r.insertFront id p
  | .insertEnd p => r.insertEnd id p
  | .stackBefore p => r.stackBefore id p
  | .stackAfter p => r.stackAfter id p

/-- The pass that comes to stand before the others. -/
def front? : Insertion → Option Pass
  | .insertFront p | .stackBefore p => some p.pass
  | .insertEnd _ | .stackAfter _ => none

/-- The pass that comes to stand behind the others. -/
def end? : Insertion → Option Pass
  | .insertEnd p | .stackAfter p => some p.pass
  | .insertFront _ | .stackBefore _ => none

/-- The same step on a pipeline by itself. -/
def into (i : Insertion) (l : Pipeline) : Pipeline :=
  match i with
  | .insertFront p | .stackBefore p => l.insertFront p.pass
  | .insertEnd p | .stackAfter p => l.insertEnd p.pass

theorem passes_into (i : Insertion) (l : Pipeline) :
    (i.into l).passes = i.front?.toList ++ l.passes ++ i.end?.toList := by
  cases i <;> simp [into, front?, end?, Pipeline.insertFront, Pipeline.insertEnd]

variable {r : Registry} {id : PipelineId} {l : Pipeline}

/-- An insertion makes one pipeline, of the passes that are there already and the inserted one. -/
theorem exists_make (i : Insertion) (r : Registry) (id : PipelineId) :
    ∃ passes, i.carryOut r id = r.make passes ∧
      (⟨passes.map (·.pass)⟩ : Pipeline) = i.into (r.pipeline id) := by
  cases i with
  | insertFront p | stackBefore p => exact ⟨p :: r.passes id, rfl, rfl⟩
  | insertEnd p | stackAfter p =>
    refine ⟨r.passes id ++ [p], rfl, ?_⟩
    rw [List.map_append]
    rfl

theorem holds_carryOut (i : Insertion) (h : r.Holds id l) :
    (i.carryOut r id).1.Holds (i.carryOut r id).2 (i.into l) := by
  obtain ⟨passes, hmake, hinto⟩ := i.exists_make r id
  rw [hmake, ← h.pipeline, ← hinto]
  exact r.holds_make passes

theorem extends_carryOut (i : Insertion) (r : Registry) (id : PipelineId) :
    (i.carryOut r id).1.Extends r := by
  obtain ⟨passes, hmake, -⟩ := i.exists_make r id
  rw [hmake]
  exact r.extends_make passes

/-- The pipeline that an insertion makes is a new one. -/
theorem length_carryOut (i : Insertion) (r : Registry) (id : PipelineId) :
    (i.carryOut r id).2 = r.made.length ∧
      (i.carryOut r id).1.made.length = r.made.length + 1 := by
  obtain ⟨passes, hmake, -⟩ := i.exists_make r id
  rw [hmake]
  simp [Registry.make]

end Insertion

/-! ### Assemblies -/

/-- A way to a pipeline: the passes of the first one, and the insertions from there on. -/
structure Assembly where
  core : List BoundPass
  insertions : List Insertion := []

namespace Assembly

/-- Puts the pipeline together. -/
def build (a : Assembly) (r : Registry) : Registry × PipelineId :=
  a.insertions.foldl (fun s i => i.carryOut s.1 s.2) (r.make a.core)

/-- The passes in the order to which the way leads: those inserted in front, the latest one first,
those of the first pipeline, and those inserted at the end. -/
def list (a : Assembly) : List Pass :=
  (a.insertions.filterMap Insertion.front?).reverse ++ a.core.map (·.pass) ++
    a.insertions.filterMap Insertion.end?

/-- The same insertions on pipelines by themselves. -/
def pipeline (a : Assembly) : Pipeline :=
  a.insertions.foldl (fun l i => i.into l) ⟨a.core.map (·.pass)⟩

/-- The way with one more insertion. -/
def snoc (a : Assembly) (i : Insertion) : Assembly := { a with insertions := a.insertions ++ [i] }

/-- Induction on the length of the way. -/
theorem snoc_induction {motive : Assembly → Prop} (start : ∀ core, motive ⟨core, []⟩)
    (step : ∀ a i, motive a → motive (a.snoc i)) (a : Assembly) : motive a := by
  obtain ⟨core, insertions⟩ := a
  induction insertions using List.reverseRecOn with
  | nil => exact start core
  | append_singleton insertions i ih => exact step ⟨core, insertions⟩ i ih

theorem build_snoc (a : Assembly) (i : Insertion) (r : Registry) :
    (a.snoc i).build r = i.carryOut (a.build r).1 (a.build r).2 := by
  rw [build, snoc, List.foldl_append]
  rfl

theorem pipeline_snoc (a : Assembly) (i : Insertion) :
    (a.snoc i).pipeline = i.into a.pipeline := by
  rw [pipeline, snoc, List.foldl_append]
  rfl

theorem list_snoc (a : Assembly) (i : Insertion) :
    (a.snoc i).list = i.front?.toList ++ a.list ++ i.end?.toList := by
  cases i <;> simp [list, snoc, Insertion.front?, Insertion.end?]

theorem passes_pipeline (a : Assembly) : a.pipeline.passes = a.list := by
  induction a using snoc_induction with
  | start core => simp [pipeline, list]
  | step a i ih => rw [pipeline_snoc, Insertion.passes_into, list_snoc, ih]

/-- What has been built is held with its passes in order, and is the latest pipeline. -/
theorem holds_build (a : Assembly) (r : Registry) :
    (a.build r).1.Holds (a.build r).2 a.pipeline ∧
      (a.build r).1.made.length = (a.build r).2 + 1 := by
  induction a using snoc_induction with
  | start core =>
    constructor
    · exact r.holds_make core
    · exact List.length_append
  | step a i ih =>
    obtain ⟨hid, hlength⟩ := i.length_carryOut (a.build r).1 (a.build r).2
    rw [build_snoc, pipeline_snoc]
    exact ⟨i.holds_carryOut ih.1, by rw [hlength, hid]⟩

/-- The registry only grows while a pipeline is built. -/
theorem extends_build_append (core : List BoundPass) (earlier later : List Insertion)
    (r : Registry) :
    ((⟨core, earlier ++ later⟩ : Assembly).build r).1.Extends
      ((⟨core, earlier⟩ : Assembly).build r).1 ∧
    ((⟨core, earlier ++ later⟩ : Assembly).build r).2 =
      ((⟨core, earlier⟩ : Assembly).build r).2 + later.length := by
  induction later using List.reverseRecOn with
  | nil =>
    rw [List.append_nil]
    exact ⟨.refl _, rfl⟩
  | append_singleton later i ih =>
    let a : Assembly := ⟨core, earlier ++ later⟩
    have hsnoc : (⟨core, earlier ++ (later ++ [i])⟩ : Assembly) = a.snoc i := by
      rw [snoc, ← List.append_assoc]
    obtain ⟨hid, -⟩ := i.length_carryOut (a.build r).1 (a.build r).2
    obtain ⟨-, hlength⟩ := a.holds_build r
    rw [hsnoc, build_snoc]
    refine ⟨(i.extends_carryOut _ _).trans ih.1, ?_⟩
    rw [hid, hlength, ih.2, List.length_append, List.length_singleton, Nat.add_assoc]

/-- A pipeline does not remember how it was built.  Its passes stand in order, its nested passes are
bound to it, and it runs as the pipeline made of its passes at once, in which every nested run goes
through all of them.  Each pipeline that was built on the way is another one, with the passes and
the bindings that it had, and runs as it did. -/
theorem build_eq_at_once (a : Assembly) (r : Registry) :
    let built := a.build r
    let once := r.make (a.list.map fun p => { pass := p })
    (built.1.pipeline built.2).names = a.list.map Pass.name ∧
    (∀ p ∈ built.1.passes built.2, p.IsBoundTo built.2) ∧
    (∀ {σ : Type} (o : Observer σ) (depth : Nat) (tokens : List Token),
      built.1.runWithin o depth built.2 tokens = once.1.runWithin o depth once.2 tokens ∧
      built.1.runWithin o depth built.2 tokens = a.pipeline.runWithin o depth tokens) ∧
    ∀ earlier, earlier <+: a.insertions →
      let stage := { a with insertions := earlier }.build r
      (earlier ≠ a.insertions → stage.2 ≠ built.2) ∧
      built.1.passes stage.2 = stage.1.passes stage.2 ∧
      (∀ p ∈ built.1.passes stage.2, p.IsBoundTo stage.2) ∧
      ∀ {σ : Type} (o : Observer σ) (depth : Nat) (tokens : List Token),
        built.1.runWithin o depth stage.2 tokens = stage.1.runWithin o depth stage.2 tokens := by
  intro built once
  have hbuilt : built.1.Holds built.2 a.pipeline := (a.holds_build r).1
  have honce : once.1.Holds once.2 a.pipeline := by
    have hmade : once.1.Holds once.2 ⟨(a.list.map fun p => ⟨p, none⟩).map BoundPass.pass⟩ :=
      r.holds_make _
    have hpasses : (a.list.map fun p => ⟨p, none⟩).map BoundPass.pass = a.list := by
      rw [List.map_map]
      exact List.map_id _
    rwa [hpasses, ← a.passes_pipeline] at hmade
  refine ⟨?names, hbuilt.bound, ?runs, ?stages⟩
  case names => rw [hbuilt.pipeline, Pipeline.names, a.passes_pipeline]
  case runs =>
    intro σ o depth tokens
    exact ⟨(hbuilt.runWithin_eq o depth tokens).trans (honce.runWithin_eq o depth tokens).symm,
      hbuilt.runWithin_eq o depth tokens⟩
  case stages =>
    rintro earlier ⟨later, hlater⟩ stage
    obtain ⟨hstage, hlength⟩ := { a with insertions := earlier }.holds_build r
    obtain ⟨hextends, hid⟩ := extends_build_append a.core earlier later r
    have hlt : stage.2 < stage.1.made.length := by
      rw [hlength]
      exact Nat.lt_succ_self _
    rw [hlater] at hextends hid
    have hkept : built.1.Holds stage.2 _ := hstage.of_extends hextends hlt
    refine ⟨?_, hextends.passes_eq hlt, hkept.bound, ?_⟩
    · intro hne hsame
      have hlength : later.length = 0 := Nat.add_eq_left.mp (hsame.trans hid).symm
      rw [List.eq_nil_of_length_eq_zero hlength, List.append_nil] at hlater
      exact hne hlater
    · intro σ o depth tokens
      rw [hkept.runWithin_eq, hstage.runWithin_eq]

/-- The standard pipeline with variables, put together from both ends. -/
example :
    (⟨[], Pass.arithmetic.map (fun p => .insertEnd ⟨p, none⟩) ++
      [.insertFront ⟨.useVariable, none⟩, .stackBefore ⟨.setVariable, none⟩,
        .insertFront ⟨.setWord, none⟩]⟩ : Assembly).pipeline =
      Pipeline.standard.withVariables := rfl

end Assembly

end Calculator

import Calculator.Text.CodePoint
import Calculator.Token

/-! Environments bind names to tokens.  They keep the order in which names were first bound: binding
a name again keeps its place, and a name that was removed goes to the end when it comes back.  A
name may be any text, also one that holds surrogates; those that tokens stand for hold none. -/

namespace Calculator

structure Environment where
  bindings : List (Text.Points × Token)
  /-- No name is bound twice. -/
  distinct : (bindings.map (·.1)).Nodup

namespace Environment

@[ext] theorem ext {a b : Environment} (h : a.bindings = b.bindings) : a = b := by
  cases a
  cases b
  simp_all

instance : DecidableEq Environment := fun a b =>
  decidable_of_iff (a.bindings = b.bindings) ⟨ext, fun h => h ▸ rfl⟩

def empty : Environment := ⟨[], List.nodup_nil⟩

instance : Inhabited Environment := ⟨empty⟩

def names (env : Environment) : List Text.Points := env.bindings.map (·.1)

def size (env : Environment) : Nat := env.bindings.length

/-- What a name is bound to. -/
def lookup? (env : Environment) (name : Text.Points) : Option Token :=
  (env.bindings.find? fun b => b.1 = name).map (·.2)

def contains (env : Environment) (name : Text.Points) : Bool := env.names.contains name

/-- The bindings with `name` bound to `value`, in its place or at the end. -/
def place (name : Text.Points) (value : Token) :
    List (Text.Points × Token) → List (Text.Points × Token)
  | [] => [(name, value)]
  | b :: rest => if b.1 = name then (name, value) :: rest else b :: place name value rest

theorem map_place (name : Text.Points) (value : Token) (bs : List (Text.Points × Token)) :
    (place name value bs).map (·.1) =
      if name ∈ bs.map (·.1) then bs.map (·.1) else bs.map (·.1) ++ [name] := by
  induction bs with
  | nil => rfl
  | cons b rest ih =>
    simp only [place]
    split
    · simp_all
    · rename_i h
      have h' : name ≠ b.1 := fun e => h e.symm
      simp only [List.map_cons, ih, List.mem_cons, h', false_or, List.cons_append]
      split <;> rfl

def bind (env : Environment) (name : Text.Points) (value : Token) : Environment where
  bindings := place name value env.bindings
  distinct := by
    rw [map_place]
    split
    · exact env.distinct
    · rename_i h
      exact List.nodup_append.mpr ⟨env.distinct, by simp, by
        intro a ha b hb
        simp only [List.mem_singleton] at hb
        rintro rfl
        exact h (hb ▸ ha)⟩

def erase (env : Environment) (name : Text.Points) : Environment where
  bindings := env.bindings.filter fun b => b.1 ≠ name
  distinct := env.distinct.sublist (List.filter_sublist.map _)

/-- What a name without surrogates is bound to. -/
def get? (env : Environment) (name : String) : Option Token := env.lookup? (Text.points name)

/-- The environment with a name without surrogates bound. -/
def insert (env : Environment) (name : String) (value : Token) : Environment :=
  env.bind (Text.points name) value

/-- The environment that binds some names one after the other. -/
def ofList (bs : List (String × Token)) : Environment :=
  bs.foldl (fun env b => env.insert b.1 b.2) empty

/-- An environment by the names it binds, in which surrogates are written by their numbers. -/
def describe (env : Environment) : String :=
  "<Environment bindings=[" ++ String.intercalate ", " (env.names.map Text.spelledOut) ++ "]>"

@[simp] theorem bindings_empty : empty.bindings = [] := rfl
@[simp] theorem lookup?_empty (name : Text.Points) : empty.lookup? name = none := rfl
@[simp] theorem get?_empty (name : String) : empty.get? name = none := rfl

/-- Binding a name keeps the order of the others and adds a new name at the end. -/
theorem names_bind (env : Environment) (name : Text.Points) (value : Token) :
    (env.bind name value).names =
      if name ∈ env.names then env.names else env.names ++ [name] :=
  map_place name value env.bindings

theorem names_insert (env : Environment) (name : String) (value : Token) :
    (env.insert name value).names =
      if Text.points name ∈ env.names then env.names else env.names ++ [Text.points name] :=
  names_bind env (Text.points name) value

theorem names_erase (env : Environment) (name : Text.Points) :
    (env.erase name).names = env.names.filter (· ≠ name) := by
  simp only [names, erase, List.filter_map]
  rfl

theorem find?_place (name : Text.Points) (value : Token) (bs : List (Text.Points × Token))
    (other : Text.Points) :
    ((place name value bs).find? fun b => b.1 = other).map (·.2) =
      if other = name then some value else (bs.find? fun b => b.1 = other).map (·.2) := by
  induction bs with
  | nil =>
    by_cases h : other = name
    · simp [place, h]
    · simp [place, h, Ne.symm h]
  | cons b rest ih =>
    simp only [place]
    split
    · rename_i hb
      by_cases h : other = name
      · simp [h]
      · have h' : ¬b.1 = other := fun e => h (e.symm.trans hb)
        simp [h, Ne.symm h, h']
    · rename_i hb
      by_cases h : b.1 = other
      · have h' : ¬other = name := fun e => hb (h.trans e)
        simp [h, h']
      · simpa [h] using ih

/-- Binding a name is seen under that name only. -/
theorem lookup?_bind (env : Environment) (name : Text.Points) (value : Token)
    (other : Text.Points) :
    (env.bind name value).lookup? other = if other = name then some value else env.lookup? other :=
  find?_place name value env.bindings other

theorem get?_insert (env : Environment) (name : String) (value : Token) (other : String) :
    (env.insert name value).get? other = if other = name then some value else env.get? other := by
  rw [get?, insert, lookup?_bind]
  simp only [Text.points_inj, get?]

theorem lookup?_erase (env : Environment) (name other : Text.Points) :
    (env.erase name).lookup? other = if other = name then none else env.lookup? other := by
  simp only [lookup?, erase, List.find?_filter]
  by_cases h : other = name
  · subst h
    simp
  · rw [if_neg h]
    congr 2
    funext b
    by_cases hb : b.1 = other
    · simp [hb, h]
    · simp [hb]

theorem contains_eq_isSome (env : Environment) (name : Text.Points) :
    env.contains name = (env.lookup? name).isSome := by
  simp only [contains, names, lookup?, Option.isSome_map]
  rw [Bool.eq_iff_iff]
  simp [List.find?_isSome]

end Environment

end Calculator

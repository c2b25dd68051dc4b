import Mathlib.Data.List.Nodup
import Calculator.Environment.Access

/-! Environments as ordered maps.  An ordered map binds names to tokens and keeps the names in an
order, in which a name that is bound again stays where it is and one that comes back is the last.  A
relation says, of ordered maps alone, what an access comes to.  An access to an environment comes to
just that, and so do accesses one after the other, the failing ones among them, which leave the
environment as it is.  A key that stands for no name is refused, though one may ask whether it is
bound.  But a number of too many digits cannot be put into the words that refuse it, and with such a
key that question fails too. -/

namespace Calculator

/-! ### Ordered maps -/

/-- A map from names to tokens that keeps the names in an order. -/
@[ext] structure OrderedMap where
  order : List Text.Points
  value? : Text.Points → Option Token
  nodup : order.Nodup
  mem_order : ∀ name, name ∈ order ↔ (value? name).isSome = true

namespace OrderedMap

def empty : OrderedMap where
  order := []
  value? _ := none
  nodup := List.nodup_nil
  mem_order _ := by simp

/-- The map with a name bound to a token.  A name keeps its place, and a new one is the last. -/
def bind (m : OrderedMap) (name : Text.Points) (t : Token) : OrderedMap where
  order := if name ∈ m.order then m.order else m.order ++ [name]
  value? other := if other = name then some t else m.value? other
  nodup := by
    split
    · exact m.nodup
    · rename_i h
      refine List.nodup_append.mpr ⟨m.nodup, by simp, fun a ha b hb => ?_⟩
      rintro rfl
      exact h (List.mem_singleton.mp hb ▸ ha)
  mem_order other := by
    have hother := m.mem_order other
    by_cases h : other = name
    · subst h
      split <;> simp_all
    · rw [if_neg h, ← hother]
      split <;> simp [h]

/-- The map without a name. -/
def remove (m : OrderedMap) (name : Text.Points) : OrderedMap where
  order := m.order.filter (· ≠ name)
  value? other := if other = name then none else m.value? other
  nodup := m.nodup.sublist List.filter_sublist
  mem_order other := by
    by_cases h : other = name
    · simp [h]
    · simp [h, m.mem_order]

end OrderedMap

namespace Environment

/-- The names of an environment in their order, and what they are bound to. -/
def ordered (env : Environment) : OrderedMap where
  order := env.names
  value? := env.lookup?
  nodup := env.distinct
  mem_order name := by rw [← contains_eq_isSome, contains, List.contains_iff_mem]

@[simp] theorem ordered_empty : empty.ordered = .empty := rfl

@[simp] theorem ordered_bind (env : Environment) (name : Text.Points) (t : Token) :
    (env.bind name t).ordered = env.ordered.bind name t :=
  OrderedMap.ext (names_bind env name t) (funext (lookup?_bind env name t))

@[simp] theorem ordered_erase (env : Environment) (name : Text.Points) :
    (env.erase name).ordered = env.ordered.remove name :=
  OrderedMap.ext (names_erase env name) (funext (lookup?_erase env name))

theorem lookup?_eq_some_iff {env : Environment} {name : Text.Points} {t : Token} :
    env.lookup? name = some t ↔ (name, t) ∈ env.bindings := by
  rw [lookup?, Option.map_eq_some_iff]
  constructor
  · rintro ⟨b, hb, rfl⟩
    have hname : b.1 = name := by simpa using List.find?_some hb
    exact hname ▸ List.mem_of_find?_eq_some hb
  · intro h
    cases hfind : env.bindings.find? fun b => b.1 = name with
    | none => simpa using List.find?_eq_none.mp hfind _ h
    | some b =>
      have hname : b.1 = name := by simpa using List.find?_some hfind
      have heq := List.inj_on_of_nodup_map env.distinct (List.mem_of_find?_eq_some hfind) h hname
      exact ⟨b, rfl, congrArg Prod.snd heq⟩

/-- The names in their order and what they are bound to are all there is to an environment. -/
theorem ordered_injective {a b : Environment} (h : a.ordered = b.ordered) : a = b := by
  have hnames : a.bindings.map (·.1) = b.bindings.map (·.1) := congrArg OrderedMap.order h
  have hvalue : a.lookup? = b.lookup? := congrArg OrderedMap.value? h
  have hlength : a.bindings.length = b.bindings.length := by
    simpa using congrArg List.length hnames
  refine ext (List.ext_getElem hlength fun i ha hb => ?_)
  have hname : a.bindings[i].1 = b.bindings[i].1 := by
    simpa [ha, hb] using congrArg (fun names => names[i]?) hnames
  have hmem : a.bindings[i] ∈ b.bindings := by
    rw [← lookup?_eq_some_iff, ← hvalue, lookup?_eq_some_iff]
    exact List.getElem_mem ha
  exact List.inj_on_of_nodup_map b.distinct hmem (List.getElem_mem hb) hname

end Environment

/-! ### Keys -/

namespace Datum

/-- A key stands for a name: a text for itself, a token for its text if it is a letter or a
keyword. -/
inductive StandsFor : Datum → Text.Points → Prop
  | text (name : String) : StandsFor (.text name) (Text.points name)
  | brokenText (name : Text.Points) : StandsFor (.brokenText name) name
  | letter {c : Char} {p : Option Int} :
      Text.isLetter c = true → StandsFor (.token (.char c p)) (Text.points (String.singleton c))
  | keyword (name : String) : StandsFor (.token (.symbol name)) (Text.points name)

/-- Why a key that stands for no name is refused. -/
inductive RefusedFor : Datum → Failure → Prop
  | token {t : Token} : t.isName = false → t.isWritable = true →
      RefusedFor (.token t) (.notAName t.describe)
  | unwritable {t : Token} : t.isName = false → t.isWritable = false →
      RefusedFor (.token t) .unwritable
  | type {d : Datum} : (∀ s, d ≠ .text s) → (∀ s, d ≠ .brokenText s) → (∀ t, d ≠ .token t) →
      RefusedFor d (.keyType d.className)

/-- A datum is a number token of too many digits to be written. -/
def IsTooLong (d : Datum) : Prop := ∃ n : Number, d = .token (.number n) ∧ n.isWritable = false

theorem standsFor_token_iff {t : Token} {name : Text.Points} :
    (Datum.token t).StandsFor name ↔ t.name?.map Text.points = some name := by
  constructor
  · intro h
    cases h with
    | letter hc =>
      rw [Token.name?, if_pos hc]
      rfl
    | keyword => rfl
  · intro h
    cases t with
    | char c p =>
      rw [Token.name?] at h
      split at h
      · rename_i hc
        obtain rfl := Option.some.inj h
        exact .letter hc
      · cases h
    | symbol s =>
      obtain rfl := Option.some.inj h
      exact .keyword s
    | _ => cases h

end Datum

/-- A failure says that a key or a value is of the wrong type. -/
inductive Failure.IsTypeFault : Failure → Prop
  | notAName (described : String) : IsTypeFault (.notAName described)
  | keyType (type : String) : IsTypeFault (.keyType type)
  | valueType (type : String) : IsTypeFault (.valueType type)

namespace Environment

variable {key value : Datum} {name : Text.Points} {f : Failure}

theorem keyName_eq_ok_iff : keyName key = .ok name ↔ key.StandsFor name := by
  cases key with
  | text s =>
    rw [keyName_text, Except.ok.injEq]
    constructor
    · rintro rfl
      exact .text s
    · rintro ⟨⟩
      rfl
  | brokenText s =>
    rw [keyName_brokenText, Except.ok.injEq]
    constructor
    · rintro rfl
      exact .brokenText s
    · rintro ⟨⟩
      rfl
  | token t =>
    rw [keyName_token, Datum.standsFor_token_iff]
    cases hname : t.name with
    | ok s => simp [Token.name_eq_ok_iff.mp hname, Except.map]
    | error f =>
      have hnone : t.name? = none := by
        refine Option.eq_none_iff_forall_not_mem.mpr fun s hs => ?_
        rw [Token.name_eq_ok_iff.mpr hs] at hname
        cases hname
      simp [hnone, Except.map]
  | _ => exact iff_of_false nofun nofun

theorem keyName_token_of_not_isName {t : Token} (h : t.isName = false) :
    keyName (.token t) = .error (if t.isWritable then .notAName t.describe else .unwritable) := by
  have hname : t.name? = none := by simpa [Token.isName] using h
  rw [keyName_token, Token.name, hname]
  cases hw : t.isWritable with
  | true =>
    rw [Token.described, if_pos hw]
    rfl
  | false =>
    rw [Token.described, if_neg (by simp [hw])]
    rfl

theorem keyName_eq_error_iff : keyName key = .error f ↔ key.RefusedFor f := by
  constructor
  · intro h
    cases key with
    | text s | brokenText s => cases h
    | token t =>
      cases hname : t.isName with
      | true =>
        obtain ⟨name, hsome⟩ := Option.isSome_iff_exists.mp hname
        rw [keyName_token, Token.name_eq_ok_iff.mpr hsome] at h
        cases h
      | false =>
        rw [keyName_token_of_not_isName hname] at h
        obtain rfl := Except.error.inj h
        cases hw : t.isWritable with
        | true => exact .token hname hw
        | false => exact .unwritable hname hw
    | _ =>
      obtain rfl := Except.error.inj h
      exact .type nofun nofun nofun
  · rintro (⟨hname, hw⟩ | ⟨hname, hw⟩ | ⟨htext, hbroken, htoken⟩)
    · rw [keyName_token_of_not_isName hname, if_pos hw]
    · rw [keyName_token_of_not_isName hname, if_neg (by simp [hw])]
    · cases key with
      | text s => exact absurd rfl (htext s)
      | brokenText s => exact absurd rfl (hbroken s)
      | token t => exact absurd rfl (htoken t)
      | _ => rfl

/-- A key that stands for no name is refused. -/
theorem standsFor_or_refusedFor (key : Datum) :
    (∃ name, key.StandsFor name) ∨ ∃ f, key.RefusedFor f := by
  cases h : keyName key with
  | ok name => exact .inl ⟨name, keyName_eq_ok_iff.mp h⟩
  | error f => exact .inr ⟨f, keyName_eq_error_iff.mp h⟩

theorem boundValue_of_ne (h : ∀ t, value ≠ .token t) :
    boundValue value = .error (.valueType value.className) := by
  cases value with
  | token t => exact absurd rfl (h t)
  | _ => rfl

end Environment

namespace Datum

theorem isTooLong_of_le {i : Int} (h : Nat.pow 10 Decimal.digitLimit ≤ i.natAbs) :
    (Datum.token (.number (.int i))).IsTooLong := by
  refine ⟨.int i, rfl, ?_⟩
  rw [Number.isWritable]
  exact decide_eq_false (Nat.not_lt.mpr h)

theorem isTooLong_of_refusedFor {key : Datum} (h : key.RefusedFor .unwritable) : key.IsTooLong := by
  cases h with
  | @unwritable t _ hw =>
    cases t with
    | number n => exact ⟨n, rfl, hw⟩
    | _ => cases hw

theorem IsTooLong.refusedFor {key : Datum} (h : key.IsTooLong) : key.RefusedFor .unwritable := by
  obtain ⟨n, rfl, hw⟩ := h
  exact .unwritable rfl hw

/-- A key is refused for its type, unless it cannot be put into words. -/
theorem RefusedFor.isTypeFault {key : Datum} {f : Failure} (h : key.RefusedFor f) :
    f.IsTypeFault ∨ f = .unwritable ∧ key.IsTooLong := by
  cases h with
  | token => exact .inl (.notAName _)
  | unwritable hname hw => exact .inr ⟨rfl, isTooLong_of_refusedFor (.unwritable hname hw)⟩
  | type => exact .inl (.keyType _)

end Datum

/-! ### What accesses come to -/

namespace Environment.Access

/-- The key that an access is about. -/
def key? : Access → Option Datum
  | .set key _ | .get key | .remove key | .has key | .pop key | .getOrSet key _ => some key
  | .clear => none

/-- The accesses for which their key has to be bound. -/
def NeedsBinding (access : Access) (key : Datum) : Prop :=
  access = .get key ∨ access = .remove key ∨ access = .pop key

theorem NeedsBinding.key?_eq {access : Access} {key : Datum} (h : access.NeedsBinding key) :
    access.key? = some key := by
  rcases h with rfl | rfl | rfl <;> rfl

end Environment.Access

namespace OrderedMap

open Environment

/-- What an access to an ordered map comes to, and the map after it. -/
inductive Yields (m : OrderedMap) : Access → Except Failure Datum → OrderedMap → Prop
  | set {key : Datum} {name : Text.Points} {t : Token} : key.StandsFor name →
      Yields m (.set key (.token t)) (.ok .null) (m.bind name t)
  | get {key : Datum} {name : Text.Points} {t : Token} : key.StandsFor name →
      m.value? name = some t → Yields m (.get key) (.ok (.token t)) m
  | remove {key : Datum} {name : Text.Points} {t : Token} : key.StandsFor name →
      m.value? name = some t → Yields m (.remove key) (.ok .null) (m.remove name)
  | pop {key : Datum} {name : Text.Points} {t : Token} : key.StandsFor name →
      m.value? name = some t → Yields m (.pop key) (.ok (.token t)) (m.remove name)
  | getOrSet_bound {key value : Datum} {name : Text.Points} {t : Token} : key.StandsFor name →
      m.value? name = some t → Yields m (.getOrSet key value) (.ok (.token t)) m
  | getOrSet_unbound {key : Datum} {name : Text.Points} {t : Token} : key.StandsFor name →
      m.value? name = none → Yields m (.getOrSet key (.token t)) (.ok (.token t)) (m.bind name t)
  | has {key : Datum} {name : Text.Points} : key.StandsFor name →
      Yields m (.has key) (.ok (.bool (m.value? name).isSome)) m
  | clear : Yields m .clear (.ok .null) .empty
  | unbound {access : Access} {key : Datum} {name : Text.Points} : access.NeedsBinding key →
      key.StandsFor name → m.value? name = none → Yields m access (.error (.unboundName name)) m
  | refused {access : Access} {key : Datum} {f : Failure} : access.NeedsBinding key →
      key.RefusedFor f → Yields m access (.error f) m
  | set_refused {key : Datum} {t : Token} {f : Failure} : key.RefusedFor f →
      Yields m (.set key (.token t)) (.error f) m
  | set_noToken {key value : Datum} : (∀ t, value ≠ .token t) →
      Yields m (.set key value) (.error (.valueType value.className)) m
  | getOrSet_refused {key value : Datum} {f : Failure} : key.RefusedFor f →
      Yields m (.getOrSet key value) (.error f) m
  | getOrSet_noToken {key value : Datum} {name : Text.Points} : key.StandsFor name →
      m.value? name = none → (∀ t, value ≠ .token t) →
      Yields m (.getOrSet key value) (.error (.valueType value.className)) m
  | has_refused {key : Datum} {f : Failure} : key.RefusedFor f → f ≠ .unwritable →
      Yields m (.has key) (.ok (.bool false)) m
  | has_tooLong {key : Datum} : key.IsTooLong → Yields m (.has key) (.error .unwritable) m

/-- What accesses one after the other come to, also after one that fails, and the last map. -/
inductive Follows : OrderedMap → List Access → List (Except Failure Datum) → OrderedMap → Prop
  | nil (m : OrderedMap) : Follows m [] [] m
  | cons {m m' m'' : OrderedMap} {access : Access} {accesses : List Access}
      {outcome : Except Failure Datum} {outcomes : List (Except Failure Datum)} :
      m.Yields access outcome m' → Follows m' accesses outcomes m'' →
      Follows m (access :: accesses) (outcome :: outcomes) m''

theorem exists_yields_of_needsBinding (m : OrderedMap) {access : Access} {key : Datum}
    (haccess : access.NeedsBinding key)
    (hbound : ∀ name t, key.StandsFor name → m.value? name = some t →
      ∃ r m', m.Yields access r m') : ∃ r m', m.Yields access r m' := by
  rcases standsFor_or_refusedFor key with ⟨name, hkey⟩ | ⟨f, hkey⟩
  · cases ht : m.value? name with
    | some t => exact hbound name t hkey ht
    | none => exact ⟨_, _, .unbound haccess hkey ht⟩
  · exact ⟨_, _, .refused haccess hkey⟩

/-- Every access to an ordered map comes to something. -/
theorem exists_yields (m : OrderedMap) (access : Access) : ∃ r m', m.Yields access r m' := by
  cases access with
  | get key =>
    refine m.exists_yields_of_needsBinding (.inl rfl) fun name t hkey ht => ?_
    exact ⟨_, _, .get hkey ht⟩
  | remove key =>
    refine m.exists_yields_of_needsBinding (.inr (.inl rfl)) fun name t hkey ht => ?_
    exact ⟨_, _, .remove hkey ht⟩
  | pop key =>
    refine m.exists_yields_of_needsBinding (.inr (.inr rfl)) fun name t hkey ht => ?_
    exact ⟨_, _, .pop hkey ht⟩
  | set key value =>
    by_cases hvalue : ∃ t, value = .token t
    · obtain ⟨t, rfl⟩ := hvalue
      rcases standsFor_or_refusedFor key with ⟨name, hkey⟩ | ⟨f, hkey⟩
      · exact ⟨_, _, .set hkey⟩
      · exact ⟨_, _, .set_refused hkey⟩
    · exact ⟨_, _, .set_noToken (not_exists.mp hvalue)⟩
  | has key =>
    rcases standsFor_or_refusedFor key with ⟨name, hkey⟩ | ⟨f, hkey⟩
    · exact ⟨_, _, .has hkey⟩
    · by_cases hf : f = .unwritable
      · subst hf
        exact ⟨_, _, .has_tooLong (Datum.isTooLong_of_refusedFor hkey)⟩
      · exact ⟨_, _, .has_refused hkey hf⟩
  | getOrSet key value =>
    rcases standsFor_or_refusedFor key with ⟨name, hkey⟩ | ⟨f, hkey⟩
    · cases ht : m.value? name with
      | some t => exact ⟨_, _, .getOrSet_bound hkey ht⟩
      | none =>
        by_cases hvalue : ∃ t, value = .token t
        · obtain ⟨t, rfl⟩ := hvalue
          exact ⟨_, _, .getOrSet_unbound hkey ht⟩
        · exact ⟨_, _, .getOrSet_noToken hkey ht (not_exists.mp hvalue)⟩
    · exact ⟨_, _, .getOrSet_refused hkey⟩
  | clear => exact ⟨_, _, .clear⟩

theorem Yields.eq_of_error {m m' : OrderedMap} {access : Access} {f : Failure}
    (h : m.Yields access (.error f) m') : m' = m := by
  cases h <;> rfl

/-- With a key that stands for no name an access fails, unless it asks whether the key is bound. -/
theorem Yields.error_of_not_standsFor {m m' : OrderedMap} {access : Access} {key : Datum}
    {r : Except Failure Datum} (h : m.Yields access r m') (haccess : access.key? = some key)
    (hne : access ≠ .has key) (hkey : ∀ name, ¬key.StandsFor name) :
    ∃ f, r = .error f ∧ (f.IsTypeFault ∨ f = .unwritable ∧ key.IsTooLong) := by
  cases h with
  | set hname | get hname | remove hname | pop hname | getOrSet_bound hname
  | getOrSet_unbound hname | has hname | getOrSet_noToken hname =>
    obtain rfl := Option.some.inj haccess
    exact absurd hname (hkey _)
  | clear => cases haccess
  | unbound hneeds hname =>
    obtain rfl := Option.some.inj (haccess.symm.trans hneeds.key?_eq)
    exact absurd hname (hkey _)
  | refused hneeds hrefused =>
    obtain rfl := Option.some.inj (haccess.symm.trans hneeds.key?_eq)
    exact ⟨_, rfl, hrefused.isTypeFault⟩
  | set_refused hrefused | getOrSet_refused hrefused =>
    obtain rfl := Option.some.inj haccess
    exact ⟨_, rfl, hrefused.isTypeFault⟩
  | set_noToken => exact ⟨_, rfl, .inl (.valueType _)⟩
  | has_refused | has_tooLong =>
    obtain rfl := Option.some.inj haccess
    exact absurd rfl hne

end OrderedMap

/-! ### Accesses to environments -/

namespace Environment

variable {env : Environment} {key value : Datum} {name : Text.Points} {t : Token} {f : Failure}

theorem result_getName (ht : env.lookup? name = some t) :
    (getName name).result env = (.ok t, env) := by
  simp [getName, ht]

theorem result_getKey (h : key.StandsFor name) (ht : env.lookup? name = some t) :
    (getKey key).result env = (.ok t, env) := by
  simp [getKey, keyName_eq_ok_iff.mpr h, result_getName ht]

theorem result_getKey_of_unbound (h : key.StandsFor name) (ht : env.lookup? name = none) :
    (getKey key).result env = (.error (.unboundName name), env) := by
  simp [getKey, getName, keyName_eq_ok_iff.mpr h, ht]

theorem result_getKey_of_refused (h : key.RefusedFor f) :
    (getKey key).result env = (.error f, env) := by
  simp [getKey, keyName_eq_error_iff.mpr h]

theorem result_setKey (h : key.StandsFor name) :
    (setKey key (.token t)).result env = (.ok (), env.bind name t) := by
  simp [setKey, boundValue, keyName_eq_ok_iff.mpr h]

theorem result_setKey_of_refused (h : key.RefusedFor f) :
    (setKey key (.token t)).result env = (.error f, env) := by
  simp [setKey, boundValue, keyName_eq_error_iff.mpr h]

theorem result_setKey_of_noToken (h : ∀ t, value ≠ .token t) :
    (setKey key value).result env = (.error (.valueType value.className), env) := by
  simp [setKey, boundValue_of_ne h]

theorem result_removeName (ht : env.lookup? name = some t) :
    (removeName name).result env = (.ok (), env.erase name) := by
  simp [removeName, contains_eq_isSome, ht]

theorem result_removeKey (h : key.StandsFor name) (ht : env.lookup? name = some t) :
    (removeKey key).result env = (.ok (), env.erase name) := by
  simp [removeKey, keyName_eq_ok_iff.mpr h, result_removeName ht]

theorem result_removeKey_of_unbound (h : key.StandsFor name) (ht : env.lookup? name = none) :
    (removeKey key).result env = (.error (.unboundName name), env) := by
  simp [removeKey, removeName, keyName_eq_ok_iff.mpr h, contains_eq_isSome, ht]

theorem result_removeKey_of_refused (h : key.RefusedFor f) :
    (removeKey key).result env = (.error f, env) := by
  simp [removeKey, keyName_eq_error_iff.mpr h]

theorem result_hasKey (h : key.StandsFor name) :
    (hasKey key).result env = (.ok (env.lookup? name).isSome, env) := by
  simp [hasKey, keyName_eq_ok_iff.mpr h, contains_eq_isSome]

theorem result_hasKey_of_refused (h : key.RefusedFor f) (hf : f ≠ .unwritable) :
    (hasKey key).result env = (.ok false, env) := by
  simp [hasKey, keyName_eq_error_iff.mpr h]

theorem result_hasKey_of_isTooLong (h : key.IsTooLong) :
    (hasKey key).result env = (.error .unwritable, env) := by
  simp [hasKey, keyName_eq_error_iff.mpr h.refusedFor]

theorem result_popKey (h : key.StandsFor name) (ht : env.lookup? name = some t) :
    (popKey key).result env = (.ok t, env.erase name) := by
  simp [popKey, result_getKey h ht, result_removeKey h ht]

theorem result_popKey_of_failed (h : (getKey key).result env = (.error f, env)) :
    (popKey key).result env = (.error f, env) := by
  simp [popKey, h]

theorem result_getOrSetKey (h : key.StandsFor name) (ht : env.lookup? name = some t) :
    (getOrSetKey key value).result env = (.ok (.token t), env) := by
  simp [getOrSetKey, result_getKey h ht]

/-- Where its key is not bound, this access is the one that binds it. -/
theorem result_getOrSetKey_of_unbound (h : key.StandsFor name) (ht : env.lookup? name = none) :
    (getOrSetKey key value).result env = ((fun _ => value) <$> setKey key value).result env := by
  simp [getOrSetKey, result_getKey_of_unbound h ht]

theorem result_getOrSetKey_of_refused (h : key.RefusedFor f) :
    (getOrSetKey key value).result env = (.error f, env) := by
  simp only [getOrSetKey, Action.result_tryCatch, Action.result_bind,
    result_getKey_of_refused h]
  cases h <;> rfl

theorem names_eq_nil_iff : env.names = [] ↔ env = empty := by
  constructor
  · intro h
    exact ext (List.map_eq_nil_iff.mp h)
  · rintro rfl
    rfl

/-- The first name of an environment can be taken out, which leaves the others. -/
theorem result_popFirst {rest : List Text.Points} (h : env.names = name :: rest) :
    (discard (popName name) : Edit Unit).result env = (.ok (), env.erase name) ∧
      (env.erase name).names = rest := by
  constructor
  · obtain ⟨t, ht⟩ : ∃ t, env.lookup? name = some t := by
      rw [← Option.isSome_iff_exists, ← contains_eq_isSome, contains, h]
      simp
    have hpop : (popName name).result env = (.ok t, env.erase name) := by
      simp [popName, result_getName ht, result_removeName ht]
    have hmap := Action.result_map (fun _ => ()) (popName name) env
    rw [hpop] at hmap
    exact hmap
  · have hdistinct : name ∉ rest := (List.nodup_cons.mp (h ▸ env.distinct)).1
    rw [names_erase, h, List.filter_cons_of_neg (by simp)]
    refine List.filter_eq_self.mpr fun other hother => ?_
    simpa using fun heq : other = name => hdistinct (heq ▸ hother)

theorem result_popEach {names : List Text.Points} (h : env.names = names) :
    ((names.forM fun name => discard (popName name)) : Edit Unit).result env =
      (.ok (), empty) := by
  induction names generalizing env with
  | nil =>
    rw [names_eq_nil_iff.mp h]
    rfl
  | cons name rest ih =>
    obtain ⟨hpop, hrest⟩ := result_popFirst h
    rw [List.forM_eq_forM, List.forM_cons, ← List.forM_eq_forM, Action.result_bind, hpop]
    exact ih hrest

theorem result_clear (env : Environment) : clear.result env = (.ok (), empty) :=
  result_popEach rfl

/-- Every rule for ordered maps says what the access does to an environment. -/
theorem result_perform {access : Access} {r : Except Failure Datum} {m : OrderedMap}
    (h : env.ordered.Yields access r m) :
    (access.perform.result env).1 = r ∧ (access.perform.result env).2.ordered = m := by
  cases h with
  | set hkey => simp [Access.perform, result_setKey hkey]
  | get hkey ht => simp [Access.perform, result_getKey hkey ht]
  | remove hkey ht => simp [Access.perform, result_removeKey hkey ht]
  | pop hkey ht => simp [Access.perform, result_popKey hkey ht]
  | getOrSet_bound hkey ht => simp [Access.perform, result_getOrSetKey hkey ht]
  | getOrSet_unbound hkey ht =>
    simp [Access.perform, result_getOrSetKey_of_unbound hkey ht, result_setKey hkey]
  | has hkey => simp [Access.perform, result_hasKey hkey, ordered]
  | clear => simp [Access.perform, result_clear]
  | unbound haccess hkey ht =>
    have hget := result_getKey_of_unbound hkey ht
    rcases haccess with rfl | rfl | rfl
    · simp [Access.perform, hget]
    · simp [Access.perform, result_removeKey_of_unbound hkey ht]
    · simp [Access.perform, result_popKey_of_failed hget]
  | refused haccess hkey =>
    have hget : (getKey _).result env = (.error _, env) := result_getKey_of_refused hkey
    rcases haccess with rfl | rfl | rfl
    · simp [Access.perform, hget]
    · simp [Access.perform, result_removeKey_of_refused hkey]
    · simp [Access.perform, result_popKey_of_failed hget]
  | set_refused hkey => simp [Access.perform, result_setKey_of_refused hkey]
  | set_noToken hvalue => simp [Access.perform, result_setKey_of_noToken hvalue]
  | getOrSet_refused hkey => simp [Access.perform, result_getOrSetKey_of_refused hkey]
  | getOrSet_noToken hkey ht hvalue =>
    simp [Access.perform, result_getOrSetKey_of_unbound hkey ht, result_setKey_of_noToken hvalue]
  | has_refused hkey hf => simp [Access.perform, result_hasKey_of_refused hkey hf]
  | has_tooLong hkey => simp [Access.perform, result_hasKey_of_isTooLong hkey]

theorem yields_perform (env : Environment) (access : Access) :
    env.ordered.Yields access (access.perform.result env).1
      (access.perform.result env).2.ordered := by
  obtain ⟨r, m, h⟩ := env.ordered.exists_yields access
  obtain ⟨rfl, rfl⟩ := result_perform h
  exact h

/-- An access to an environment comes to what the access to its ordered map does. -/
theorem yields_iff {access : Access} {r : Except Failure Datum} {m : OrderedMap} :
    env.ordered.Yields access r m ↔
      r = (access.perform.result env).1 ∧ m = (access.perform.result env).2.ordered := by
  constructor
  · intro h
    obtain ⟨hr, hm⟩ := result_perform h
    exact ⟨hr.symm, hm.symm⟩
  · rintro ⟨rfl, rfl⟩
    exact yields_perform env access

/-- So it is for accesses one after the other. -/
theorem follows_iff {env : Environment} {accesses : List Access}
    {outcomes : List (Except Failure Datum)} {m : OrderedMap} :
    env.ordered.Follows accesses outcomes m ↔
      outcomes = (performAll accesses env).1 ∧ m = (performAll accesses env).2.ordered := by
  induction accesses generalizing env outcomes with
  | nil =>
    constructor
    · rintro ⟨⟩
      exact ⟨rfl, rfl⟩
    · rintro ⟨rfl, rfl⟩
      exact .nil _
  | cons access accesses ih =>
    constructor
    · intro h
      cases h with
      | cons hyields hrest =>
        obtain ⟨rfl, rfl⟩ := yields_iff.mp hyields
        obtain ⟨rfl, rfl⟩ := ih.mp hrest
        exact ⟨rfl, rfl⟩
    · rintro ⟨rfl, rfl⟩
      exact .cons (yields_perform env access) (ih.mpr ⟨rfl, rfl⟩)

/-- An access that fails leaves the environment as it is. -/
theorem eq_of_failed {access : Access} (h : (access.perform.result env).1 = .error f) :
    (access.perform.result env).2 = env := by
  have hyields := yields_perform env access
  rw [h] at hyields
  exact ordered_injective hyields.eq_of_error

/-- With a key that stands for no name an access fails, unless it asks whether the key is bound. -/
theorem failed_of_not_standsFor {access : Access} (haccess : access.key? = some key)
    (hne : access ≠ .has key) (hkey : ∀ name, ¬key.StandsFor name) :
    ∃ f, access.perform.result env = (.error f, env) ∧
      (f.IsTypeFault ∨ f = .unwritable ∧ key.IsTooLong) := by
  obtain ⟨f, hf, hfault⟩ := (yields_perform env access).error_of_not_standsFor haccess hne hkey
  exact ⟨f, Prod.ext hf (eq_of_failed hf), hfault⟩

/-- A key is bound exactly if there is something to get under it. -/
theorem hasKey_iff_getKey (h : ¬key.IsTooLong) :
    ∃ b, (hasKey key).result env = (.ok b, env) ∧
      (b = true ↔ ∃ t, ((getKey key).result env).1 = .ok t) := by
  rcases standsFor_or_refusedFor key with ⟨name, hkey⟩ | ⟨f, hkey⟩
  · refine ⟨_, result_hasKey hkey, ?_⟩
    cases ht : env.lookup? name with
    | some t => simp [result_getKey hkey ht]
    | none => simp [result_getKey_of_unbound hkey ht]
  · have hf : f ≠ .unwritable := by
      rintro rfl
      exact h (Datum.isTooLong_of_refusedFor hkey)
    exact ⟨false, result_hasKey_of_refused hkey hf, by simp [result_getKey_of_refused hkey]⟩

/-- A name that was removed is the last when it comes back. -/
theorem names_removed_set {key' : Datum} (h : key.StandsFor name) (h' : key'.StandsFor name) :
    (performAll [.remove key, .set key' (.token t)] env).2.names =
      env.names.filter (· ≠ name) ++ [name] := by
  have hset : ∀ env : Environment, (Access.set key' (.token t)).perform.result env =
      (.ok .null, env.bind name t) := by
    simp [Access.perform, result_setKey h']
  cases hbound : env.lookup? name with
  | some u =>
    have hremove : (Access.remove key).perform.result env = (.ok .null, env.erase name) := by
      simp [Access.perform, result_removeKey h hbound]
    simp only [performAll, hremove, hset]
    rw [names_bind, names_erase, if_neg (by simp)]
  | none =>
    have hremove : (Access.remove key).perform.result env =
        (.error (.unboundName name), env) := by
      simp [Access.perform, result_removeKey_of_unbound h hbound]
    have hname : name ∉ env.names := by
      rw [← List.contains_iff_mem, ← contains, contains_eq_isSome, hbound]
      simp
    simp only [performAll, hremove, hset]
    rw [names_bind, if_neg hname, List.filter_eq_self.mpr]
    intro other hother
    simpa using fun heq : other = name => hname (heq ▸ hother)

/-- Whatever accesses are carried out, what they come to and the environment after them are those of
an ordered map.  An access that fails leaves the environment as it is.  With a key that stands for
no name every access fails, for a type, but the question whether the key is bound, which is answered
and is true exactly if there is something to get; a number of too many digits is a failure of its
own, for that question too.  A name that is bound again keeps its place, and one that was removed is
the last when it comes back. -/
theorem performAll_ordered (env : Environment) (accesses : List Access) :
    (∀ outcomes m, env.ordered.Follows accesses outcomes m ↔
      outcomes = (performAll accesses env).1 ∧ m = (performAll accesses env).2.ordered) ∧
    (∀ (access : Access) f, (access.perform.result env).1 = .error f →
      (access.perform.result env).2 = env) ∧
    (∀ (access : Access) key, access.key? = some key → access ≠ .has key →
      (∀ name, ¬key.StandsFor name) → ∃ f, access.perform.result env = (.error f, env) ∧
        (f.IsTypeFault ∨ f = .unwritable ∧ key.IsTooLong)) ∧
    (∀ key : Datum, (¬key.IsTooLong → ∃ b, (hasKey key).result env = (.ok b, env) ∧
        (b = true ↔ ∃ t, ((getKey key).result env).1 = .ok t)) ∧
      (key.IsTooLong → (hasKey key).result env = (.error .unwritable, env))) ∧
    (∀ (key key' : Datum) name t, key.StandsFor name → key'.StandsFor name →
      (name ∈ env.names → ((setKey key (.token t)).result env).2.names = env.names) ∧
      (performAll [.remove key, .set key' (.token t)] env).2.names =
        env.names.filter (· ≠ name) ++ [name]) := by
  refine ⟨fun outcomes m => follows_iff, fun access f hf => eq_of_failed hf,
    fun access key haccess hne hkey => failed_of_not_standsFor haccess hne hkey,
    fun key => ⟨hasKey_iff_getKey, result_hasKey_of_isTooLong⟩,
    fun key key' name t h h' => ⟨fun hname => ?_, names_removed_set h h'⟩⟩
  rw [result_setKey h, names_bind, if_pos hname]

/-- A text, a letter and a keyword are the same key, a text with a surrogate is another one, and two
of the accesses fail. -/
example :
    (performAll [.set (.text "x") (.token (.symbol "p")), .set (.text "y") (.token (.symbol "q")),
      .set (.token (.char 'x' (some 0))) .null, .remove (.token (.char 'x' none)),
      .getOrSet (.token (.symbol "x")) (.token (.symbol "r")), .pop .null,
      .set (.brokenText [.surrogate 0xd800]) (.token (.symbol "s"))] .empty).2.bindings =
      [(Text.points "y", .symbol "q"), (Text.points "x", .symbol "r"),
        ([.surrogate 0xd800], .symbol "s")] := by
  decide

/-- Not even the question whether a key is bound is always answered. -/
theorem not_forall_hasKey :
    ¬∀ (env : Environment) (key : Datum), ∃ b, (hasKey key).result env = (.ok b, env) := by
  intro h
  have hlong := Datum.isTooLong_of_le
    (Nat.le_of_eq (Int.natAbs_natCast (Nat.pow 10 Decimal.digitLimit)).symm)
  obtain ⟨b, hb⟩ := h empty _
  rw [result_hasKey_of_isTooLong hlong] at hb
  cases hb

end Environment

end Calculator

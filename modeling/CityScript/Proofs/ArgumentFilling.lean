/-
How the arguments of a call fill its parameters.

The values of a call are computed parameter by parameter: each looks for a value under
its name, then for one at its position, then for its default. A script is written in the
other order. It begins with the defaults, its values by position go over the first of
them, and every value by name goes over the one of its parameter. When no two parameters
have one name, the two come to the same, since what is written last is what is found
first.
-/
import Mathlib.Data.List.Nodup
import CityScript.Script.Arguments

set_option autoImplicit false

namespace CityScript

/-! ## Filling in the order of writing -/

/-- Values with others written over the first of them; what is too many is dropped. -/
def overwrite : List Value → List Value → List Value
  | _ :: values, given :: more => given :: overwrite values more
  | values, _ => values

namespace Signature

/-- Values with one written over the value of the parameter of a name; without such a
parameter nothing changes. -/
def assign (s : Signature) (values : List Value) (named : String × Value) : List Value :=
  List.zipWith (fun p value => if p.name = named.1 then named.2 else value) s.parameters values

/-- The defaults with the values by position written over them, and then the values by
name, in the order in which they are given. -/
def fill (s : Signature) (positional : List Value) (named : List (String × Value)) :
    List Value :=
  named.foldl s.assign (overwrite s.defaults positional)

end Signature

/-! ## What is found at a place -/

theorem getElem?_overwrite (values given : List Value) (i : Nat) :
    (overwrite values given)[i]? = values[i]?.map fun value => given[i]?.getD value := by
  fun_induction overwrite values given generalizing i with
  | case1 _ values first more ih =>
    cases i with
    | zero => rfl
    | succ i => exact ih i
  | case2 values given h =>
    -- one of the two lists has ended
    cases values with
    | nil => rfl
    | cons value values =>
      cases given with
      | nil => simp
      | cons first more => exact absurd rfl (h value values first more rfl)

namespace Signature

variable {s : Signature}

/-- At a parameter there is the last of the values under its name, and else what was
there before. -/
theorem getElem?_foldl_assign {i : Nat} {p : Parameter} (hp : s.parameters[i]? = some p)
    (named : List (String × Value)) (values : List Value) :
    (named.foldl s.assign values)[i]? =
      values[i]?.map fun value => (named.reverse.lookup p.name).getD value := by
  induction named generalizing values with
  | nil => simp
  | cons first named ih =>
    obtain ⟨name, given⟩ := first
    have hfirst : (s.assign values (name, given))[i]? =
        values[i]?.map fun value => if p.name = name then given else value := by
      rw [assign, List.getElem?_zipWith, hp]
      cases values[i]? <;> rfl
    rw [List.foldl_cons, ih, hfirst, Option.map_map, List.reverse_cons, List.lookup_append]
    congr 1
    funext value
    -- a value that comes later under the same name hides this one
    cases hlater : named.reverse.lookup p.name with
    | some later => simp
    | none =>
      by_cases hname : p.name = name
      · simp [hname]
      · have hbeq : (p.name == name) = false := by simpa using hname
        simp [List.lookup_cons, hname, hbeq]

@[simp] theorem length_overwrite (values given : List Value) :
    (overwrite values given).length = values.length := by
  fun_induction overwrite values given with
  | case1 _ values first more ih => simp [ih]
  | case2 values given h => rfl

@[simp] theorem length_fill (s : Signature) (positional : List Value)
    (named : List (String × Value)) : (s.fill positional named).length = s.parameters.length := by
  have hassign : ∀ values : List Value, values.length = s.parameters.length →
      (named.foldl s.assign values).length = s.parameters.length := by
    induction named with
    | nil => exact fun _ h => h
    | cons first named ih =>
      intro values h
      refine ih _ ?_
      rw [assign, List.length_zipWith, h, Nat.min_self]
  exact hassign _ (by simp)

/-- A parameter is found under its name if it is the first of that name. -/
theorem index?_eq_some_iff {name : String} {i : Nat} :
    s.index? name = some i ↔
      (∃ p, s.parameters[i]? = some p ∧ p.name = name) ∧
        ∀ q ∈ s.parameters.take i, q.name ≠ name := by
  rw [index?, List.findIdx?_eq_some_iff_getElem]
  constructor
  · rintro ⟨hi, hname, hbefore⟩
    refine ⟨⟨_, List.getElem?_eq_getElem hi, beq_iff_eq.mp hname⟩, ?_⟩
    intro q hq heq
    obtain ⟨j, hj, rfl⟩ := List.mem_take_iff_getElem.mp hq
    exact hbefore j (by omega) (beq_iff_eq.mpr heq)
  · rintro ⟨⟨p, hp, hname⟩, hbefore⟩
    obtain ⟨hi, rfl⟩ := List.getElem?_eq_some_iff.mp hp
    refine ⟨hi, beq_iff_eq.mpr hname, ?_⟩
    intro j hj heq
    exact hbefore _ (List.mem_take_iff_getElem.mpr ⟨j, by omega, rfl⟩) (beq_iff_eq.mp heq)

/-- With different names a parameter is told by its name. -/
theorem eq_of_name_eq (hnames : (s.parameters.map (·.name)).Nodup) {i j : Nat} {p q : Parameter}
    (hp : s.parameters[i]? = some p) (hq : s.parameters[j]? = some q) (hname : p.name = q.name) :
    i = j := by
  obtain ⟨hi, -⟩ := List.getElem?_eq_some_iff.mp hp
  refine (List.getElem?_inj (by simpa using hi) hnames).mp ?_
  rw [List.getElem?_map, List.getElem?_map, hp, hq]
  exact congrArg some hname

/-- With different names every parameter is the first of its name. -/
theorem index?_eq_some (hnames : (s.parameters.map (·.name)).Nodup) {i : Nat} {p : Parameter}
    (hp : s.parameters[i]? = some p) : s.index? p.name = some i := by
  refine index?_eq_some_iff.mpr ⟨⟨p, hp, rfl⟩, ?_⟩
  intro q hq hname
  obtain ⟨j, hj, rfl⟩ := List.mem_take_iff_getElem.mp hq
  have heq := eq_of_name_eq hnames (List.getElem?_eq_getElem (by omega)) hp hname
  omega

end Signature

/-! ## The two orders -/

namespace Arguments

variable {s : Signature}

/-- The value for a parameter whose name no other has. -/
theorem valueAt_ofList (hnames : (s.parameters.map (·.name)).Nodup) (given : List Given) {i : Nat}
    {p : Parameter} (hp : s.parameters[i]? = some p) :
    (ofList given).valueAt s i p =
      (((given.filterMap Given.named?).reverse.lookup p.name) <|>
        (given.filterMap Given.positional?)[i]?).getD p.default := by
  rw [valueAt, if_pos (Signature.index?_eq_some hnames hp), ofList, getElem?_keywordsOf]

/-- Values are what a call resolves to if each parameter has its own among them. -/
theorem resolve_eq {arguments : Arguments} {values : List Value}
    (hlength : values.length = s.parameters.length)
    (h : ∀ i p, s.parameters[i]? = some p → values[i]? = some (arguments.valueAt s i p)) :
    arguments.resolve s = values := by
  refine List.ext_getElem? fun i => ?_
  rw [getElem?_resolve]
  cases hp : s.parameters[i]? with
  | none =>
    have hi : values.length ≤ i := hlength ▸ List.getElem?_eq_none_iff.mp hp
    rw [List.getElem?_eq_none hi]
    rfl
  | some p => exact (h i p hp).symm

/-- **Arguments fill parameters in the order of writing.** -/
theorem resolve_ofList (hnames : (s.parameters.map (·.name)).Nodup) (given : List Given) :
    (ofList given).resolve s =
      s.fill (given.filterMap Given.positional?) (given.filterMap Given.named?) := by
  -- at each parameter both orders look for a name first, then for a position
  refine resolve_eq (by simp) fun i p hp => ?_
  have hdefault : s.defaults[i]? = some p.default := by
    rw [Signature.defaults, List.getElem?_map, hp]
    rfl
  rw [valueAt_ofList hnames given hp, Signature.fill, Signature.getElem?_foldl_assign hp,
    getElem?_overwrite, hdefault]
  cases (given.filterMap Given.named?).reverse.lookup p.name <;> rfl

/-- Of values under different names each is found under its own. -/
theorem lookup_reverse_zip {names : List String} (hnames : names.Nodup) {values : List Value}
    {i : Nat} {name : String} {value : Value} (hname : names[i]? = some name)
    (hvalue : values[i]? = some value) : (names.zip values).reverse.lookup name = some value := by
  induction names generalizing values i with
  | nil => cases hname
  | cons first names ih =>
    obtain ⟨hfirst, hnames⟩ := List.nodup_cons.mp hnames
    cases values with
    | nil => cases hvalue
    | cons given values =>
      rw [List.zip_cons_cons, List.reverse_cons, List.lookup_append]
      cases i with
      | zero =>
        obtain rfl : first = name := by simpa using hname
        obtain rfl : given = value := by simpa using hvalue
        -- the name is not used again, so nothing that comes later hides its value
        have hlater : (names.zip values).reverse.lookup first = none := by
          rw [List.lookup_eq_none_iff]
          intro p hp
          have hmem := (List.of_mem_zip (List.mem_reverse.mp hp)).1
          exact bne_iff_ne.mpr fun heq => hfirst (heq ▸ hmem)
        rw [hlater, Option.none_or, List.lookup_cons_self]
      | succ i => rw [ih hnames hname hvalue, Option.some_or]

/-- **A value for every parameter by its name** gives the parameters these values. -/
theorem resolve_named (hnames : (s.parameters.map (·.name)).Nodup) {values : List Value}
    (hlength : values.length = s.parameters.length) :
    (ofList (List.zipWith Given.named (s.parameters.map (·.name)) values)).resolve s = values := by
  have hnamed : (List.zipWith Given.named (s.parameters.map (·.name)) values).filterMap
      Given.named? = (s.parameters.map (·.name)).zip values := by
    rw [← List.map_uncurry_zip_eq_zipWith, List.filterMap_map]
    exact List.filterMap_some
  refine resolve_eq hlength fun i p hp => ?_
  obtain ⟨hi, -⟩ := List.getElem?_eq_some_iff.mp hp
  have hi : i < values.length := by omega
  have hname : (s.parameters.map (·.name))[i]? = some p.name := by
    rw [List.getElem?_map, hp]
    rfl
  have hvalue : values[i]? = some values[i] := List.getElem?_eq_getElem hi
  rw [valueAt_ofList hnames _ hp, hnamed, lookup_reverse_zip hnames hname hvalue, hvalue]
  rfl

end Arguments

end CityScript

/-
What each parameter of a call gets.

The values of a call can be told parameter by parameter, from its arguments in whatever
order they stand. The first parameter of a name gets the value of the last argument under
that name. If there is none, and for a second parameter of the same name, the arguments
without a name are counted, and the one at the position of the parameter gives its value;
what is left keeps its default. `SlotLaw` says this, and since it leaves no value open,
whatever keeps the arguments under each name in order, and those without a name, keeps all
values.

The values can also be made in three passes over all parameters: the defaults, the values
by position over the first of them, and then the values by name, each over the first
parameter of its name, in the order in which a map lists them. The third pass does not
depend on that order, as a map has every name once.
-/
import Mathlib.Data.List.Forall2
import Mathlib.Data.List.Induction
import CityScript.Proofs.ArgumentFilling
import CityScript.Proofs.NamedArguments
import CityScript.Script.Catalog

set_option autoImplicit false

namespace CityScript

/-! ## Three passes -/

namespace Signature

variable {s : Signature}

/-- Values with one written over the value of the first parameter of a name; without such a
parameter nothing changes. -/
def assignFirst (s : Signature) (values : List Value) (named : String × Value) : List Value :=
  match s.index? named.1 with
  | some i => values.set i named.2
  | none => values

@[simp] theorem length_assignFirst (values : List Value) (named : String × Value) :
    (s.assignFirst values named).length = values.length := by
  unfold assignFirst
  split
  · exact List.length_set
  · rfl

theorem getElem?_assignFirst {i : Nat} {p : Parameter} (hp : s.parameters[i]? = some p)
    (values : List Value) (name : String) (given : Value) :
    (s.assignFirst values (name, given))[i]? =
      values[i]?.map fun value =>
        if s.index? p.name = some i ∧ p.name = name then given else value := by
  unfold assignFirst
  dsimp only
  split
  · next j hj =>
    obtain ⟨⟨q, hq, hname⟩, -⟩ := index?_eq_some_iff.mp hj
    by_cases hij : j = i
    · subst hij
      obtain rfl : q = p := Option.some.inj (hq.symm.trans hp)
      have hfirst : s.index? q.name = some j ∧ q.name = name := ⟨hname ▸ hj, hname⟩
      simp only [if_pos hfirst]
      exact List.getElem?_set_self'
    · -- the first parameter of the name is another, so this one is left as it is
      have hother : ¬ (s.index? p.name = some i ∧ p.name = name) := by
        rintro ⟨hi, rfl⟩
        exact hij (Option.some.inj (hj.symm.trans hi))
      rw [List.getElem?_set_ne hij]
      simp only [if_neg hother, Option.map_id_fun']
      rfl
  · next hnone =>
    have hother : ¬ (s.index? p.name = some i ∧ p.name = name) := by
      rintro ⟨hi, rfl⟩
      rw [hnone] at hi
      cases hi
    simp only [if_neg hother, Option.map_id_fun']
    rfl

theorem length_foldl_assignFirst (named : List (String × Value)) (values : List Value) :
    (named.foldl s.assignFirst values).length = values.length := by
  induction named generalizing values with
  | nil => rfl
  | cons first named ih => rw [List.foldl_cons, ih, length_assignFirst]

/-- At the first parameter of a name there is the last of the values under that name, and
everything else is as it was before. -/
theorem getElem?_foldl_assignFirst {i : Nat} {p : Parameter} (hp : s.parameters[i]? = some p)
    (named : List (String × Value)) (values : List Value) :
    (named.foldl s.assignFirst values)[i]? =
      values[i]?.map fun value =>
        (if s.index? p.name = some i then named.reverse.lookup p.name else none).getD value := by
  induction named generalizing values with
  | nil => simp
  | cons first named ih =>
    obtain ⟨name, given⟩ := first
    rw [List.foldl_cons, ih, getElem?_assignFirst hp, Option.map_map, List.reverse_cons,
      List.lookup_append]
    congr 1
    funext value
    by_cases hfirst : s.index? p.name = some i
    · rw [Function.comp_apply, if_pos hfirst, if_pos hfirst]
      -- a value that comes later under the same name hides this one
      cases named.reverse.lookup p.name with
      | some later => rfl
      | none =>
        by_cases hname : p.name = name
        · subst hname
          simp [hfirst]
        · have hbeq : (p.name == name) = false := by simpa using hname
          simp [List.lookup_cons, hname, hbeq]
    · rw [Function.comp_apply, if_neg hfirst, if_neg hfirst, if_neg (fun h => hfirst h.1)]

end Signature

/-- In the list of a map every name is found with its value, also from behind. -/
theorem lookup_reverse_toList (named : Std.TreeMap String Value) (name : String) :
    named.toList.reverse.lookup name = named[name]? := by
  refine Option.ext fun value => ?_
  rw [← Std.TreeMap.mem_toList_iff_getElem?_eq_some, ← List.mem_reverse, List.lookup_eq_some_iff]
  constructor
  · rintro ⟨before, after, hlist, -⟩
    rw [hlist]
    exact List.mem_append_right _ List.mem_cons_self
  · intro hmem
    obtain ⟨before, after, hlist⟩ := List.append_of_mem hmem
    refine ⟨before, after, hlist, ?_⟩
    intro p hp
    -- no two entries of a map have one name
    have hdistinct : (named.toList.reverse.map Prod.fst).Nodup := by
      rw [List.map_reverse, List.nodup_reverse, List.Nodup, List.pairwise_map]
      refine Std.TreeMap.distinct_keys_toList.imp fun h heq => h ?_
      exact Std.LawfulEqOrd.compare_eq_iff_eq.mpr heq
    rw [hlist, List.map_append, List.map_cons, List.nodup_append] at hdistinct
    exact bne_iff_ne.mpr
      (hdistinct.2.2 p.1 (List.mem_map_of_mem hp) name List.mem_cons_self).symm

namespace Arguments

variable {s : Signature}

/-- The values of a call in three passes: the defaults, the values by position written over
the first of them, and the values by name in the order in which the map has them. -/
def fillInPasses (arguments : Arguments) (s : Signature) : List Value :=
  arguments.keyword.foldl (fun values name value => s.assignFirst values (name, value))
    (overwrite s.defaults arguments.positional)

/-- **The three passes give every parameter its value.** -/
theorem fillInPasses_eq_resolve (arguments : Arguments) (s : Signature) :
    arguments.fillInPasses s = arguments.resolve s := by
  rw [fillInPasses, Std.TreeMap.foldl_eq_foldl_toList]
  refine (resolve_eq ?_ fun i p hp => ?_).symm
  · rw [Signature.length_foldl_assignFirst, Signature.length_overwrite, Signature.length_defaults]
  · have hdefault : s.defaults[i]? = some p.default := by
      rw [Signature.defaults, List.getElem?_map, hp]
      rfl
    rw [Signature.getElem?_foldl_assignFirst hp, getElem?_overwrite, hdefault,
      lookup_reverse_toList, valueAt]
    by_cases hfirst : s.index? p.name = some i
    · simp only [if_pos hfirst]
      cases arguments.keyword[p.name]? <;> rfl
    · simp only [if_neg hfirst]
      rfl

end Arguments

/-! ## Parameter by parameter -/

/-- What the values of a call are, told from its arguments for each parameter. -/
structure SlotLaw (s : Signature) (arguments : List (List Char)) (values : List Value) : Prop where
  /-- Every parameter has a value. -/
  length_eq : values.length = s.parameters.length
  /-- The first parameter of a name has the value of the last argument under that name. -/
  named : ∀ i p argument text, s.parameters[i]? = some p →
    (∀ q ∈ s.parameters.take i, q.name ≠ p.name) →
    (arguments.filter fun a => GivesName a p.name).getLast? = some argument →
    GivesUnder argument p.name text → values[i]? = some (Value.read text)
  /-- If there is none, and for a later parameter of the same name, the arguments without a
  name are counted, and what is not given that way is the default. -/
  unnamed : ∀ i p, s.parameters[i]? = some p →
    ((∃ q ∈ s.parameters.take i, q.name = p.name) ∨ ∀ a ∈ arguments, ¬ GivesName a p.name) →
    values[i]? =
      some (((arguments.filter fun a => ¬ HasName a)[i]?.map Value.read).getD p.default)

/-- **The last argument under a name** is the one whose value is found under it. -/
theorem lookup_reverse_named?_read (arguments : List (List Char)) (name : String) :
    ((arguments.map Given.read).filterMap Given.named?).reverse.lookup name =
      (arguments.filter fun a => GivesName a name).getLast?.bind fun a =>
        (Given.read a).named?.map Prod.snd := by
  induction arguments using List.reverseRecOn with
  | nil => rfl
  | append_singleton arguments last ih =>
    rw [List.map_append, List.filterMap_append, List.reverse_append, List.lookup_append, ih,
      List.filter_append]
    cases hlast : (Given.read last).named? with
    | none =>
      have hname : ¬ GivesName last name := by
        rintro ⟨text, h⟩
        rw [Given.named?_read_eq_some_iff.mpr ⟨text, h, rfl⟩] at hlast
        cases hlast
      simp [hlast, hname]
    | some p =>
      obtain ⟨key, value⟩ := p
      obtain ⟨text, htext, -⟩ := Given.named?_read_eq_some_iff.mp hlast
      by_cases hkey : name = key
      · subst hkey
        have hname : GivesName last name := ⟨text, htext⟩
        simp [hlast, hname]
      · have hname : ¬ GivesName last name := by
          rintro ⟨text', h⟩
          exact hkey (h.unique htext).1
        have hbeq : (name == key) = false := by simpa using hkey
        simp [hlast, hname, List.lookup_cons, hbeq]

namespace Arguments

/-- **The law of slots** holds of the values of every call. -/
theorem slotLaw_resolve_read (s : Signature) (cs : List Char) :
    SlotLaw s (splitArguments cs) ((read cs).resolve s) where
  length_eq := length_resolve _ _
  named := by
    intro i p argument text hp hfirst hlast htext
    have hindex : s.index? p.name = some i :=
      Signature.index?_eq_some_iff.mpr ⟨⟨p, hp, rfl⟩, hfirst⟩
    have hvalue : (read cs).keyword[p.name]? = some (Value.read text) := by
      rw [read, ofList, getElem?_keywordsOf, lookup_reverse_named?_read, hlast, Option.bind_some,
        Given.named?_read_eq_some_iff.mpr ⟨text, htext, rfl⟩]
      rfl
    rw [getElem?_resolve, hp, Option.map_some, valueAt, if_pos hindex, hvalue]
    rfl
  unnamed := by
    intro i p hp hnone
    have hvalue : (if s.index? p.name = some i then (read cs).keyword[p.name]? else none) =
        none := by
      split
      · next hindex =>
        rcases hnone with ⟨q, hq, hname⟩ | hnone
        · exact absurd hname ((Signature.index?_eq_some_iff.mp hindex).2 q hq)
        · have hfilter : (splitArguments cs).filter (fun a => GivesName a p.name) = [] := by
            rw [List.filter_eq_nil_iff]
            exact fun a ha => by simpa using hnone a ha
          rw [read, ofList, getElem?_keywordsOf, lookup_reverse_named?_read, hfilter]
          rfl
      · rfl
    rw [getElem?_resolve, hp, Option.map_some, valueAt, hvalue, read, ofList,
      Given.filterMap_positional?_read, List.getElem?_map]
    rfl

end Arguments

/-! ## Arguments in another order -/

/-- The arguments under each name are the same and in the same order, and so are those
without a name. Between the ones and the others the order may differ. -/
structure SameOrder (arguments again : List (List Char)) : Prop where
  named : ∀ name, (arguments.filter fun a => GivesName a name) =
    again.filter fun a => GivesName a name
  unnamed : (arguments.filter fun a => ¬ HasName a) = again.filter fun a => ¬ HasName a

/-- Two neighbours may be exchanged if one of them has a name and the other has not the same. -/
theorem SameOrder.swap {a b : List Char} (hnamed : HasName a ∨ HasName b)
    (hother : ∀ name, GivesName a name → ¬ GivesName b name) (before after : List (List Char)) :
    SameOrder (before ++ a :: b :: after) (before ++ b :: a :: after) := by
  constructor
  · intro name
    rw [List.filter_append, List.filter_append]
    by_cases ha : GivesName a name
    · simp [ha, hother name ha]
    · simp [List.filter_cons, ha]
  · rw [List.filter_append, List.filter_append]
    rcases hnamed with h | h <;> simp [List.filter_cons, h]

theorem exists_last_of_givesName {arguments : List (List Char)} {name : String}
    (h : ∃ a ∈ arguments, GivesName a name) :
    ∃ last text, (arguments.filter fun a => GivesName a name).getLast? = some last ∧
      last ∈ arguments ∧ GivesUnder last name text := by
  obtain ⟨a, ha, hname⟩ := h
  have hmem : a ∈ arguments.filter fun a => GivesName a name :=
    List.mem_filter.mpr ⟨ha, by simpa using hname⟩
  obtain ⟨last, hlast⟩ := Option.ne_none_iff_exists'.mp
    (mt List.getLast?_eq_none_iff.mp (List.ne_nil_of_mem hmem))
  obtain ⟨hlastmem, hgives⟩ := List.mem_filter.mp (List.mem_of_getLast? hlast)
  obtain ⟨text, htext⟩ := of_decide_eq_true hgives
  exact ⟨last, text, hlast, hlastmem, htext⟩

namespace SlotLaw

variable {s : Signature} {arguments again : List (List Char)} {values values' : List Value}

theorem ext_parameters (h : SlotLaw s arguments values) (h' : SlotLaw s again values')
    (hvalue : ∀ (i : Nat) (p : Parameter), s.parameters[i]? = some p → values[i]? = values'[i]?) :
    values = values' := by
  refine List.ext_getElem? fun i => ?_
  cases hp : s.parameters[i]? with
  | some p => exact hvalue i p hp
  | none =>
    have hi : s.parameters.length ≤ i := List.getElem?_eq_none_iff.mp hp
    rw [List.getElem?_eq_none (h.length_eq ▸ hi), List.getElem?_eq_none (h'.length_eq ▸ hi)]

/-- **The values depend on no other order**: arguments in the same order under each name,
and without one, give the same values. -/
theorem eq_of_sameOrder (h : SlotLaw s arguments values) (h' : SlotLaw s again values')
    (horder : SameOrder arguments again) : values = values' := by
  refine h.ext_parameters h' fun i p hp => ?_
  have hgiven : (∀ a ∈ arguments, ¬ GivesName a p.name) → ∀ a ∈ again, ¬ GivesName a p.name := by
    intro hnone a ha hname
    have hmem : a ∈ again.filter fun a => GivesName a p.name :=
      List.mem_filter.mpr ⟨ha, by simpa using hname⟩
    rw [← horder.named] at hmem
    exact hnone a (List.mem_filter.mp hmem).1 hname
  by_cases hfirst : ∃ q ∈ s.parameters.take i, q.name = p.name
  · rw [h.unnamed i p hp (.inl hfirst), h'.unnamed i p hp (.inl hfirst), horder.unnamed]
  · by_cases hname : ∃ a ∈ arguments, GivesName a p.name
    · -- the last argument under the name is the same in both orders
      obtain ⟨last, text, hlast, -, htext⟩ := exists_last_of_givesName hname
      have hfirst : ∀ q ∈ s.parameters.take i, q.name ≠ p.name :=
        fun q hq heq => hfirst ⟨q, hq, heq⟩
      rw [h.named i p last text hp hfirst hlast htext,
        h'.named i p last text hp hfirst (horder.named p.name ▸ hlast) htext]
    · have hnone : ∀ a ∈ arguments, ¬ GivesName a p.name := fun a ha hgives =>
        hname ⟨a, ha, hgives⟩
      rw [h.unnamed i p hp (.inr hnone), h'.unnamed i p hp (.inr (hgiven hnone)), horder.unnamed]

end SlotLaw

/-! ## Arguments spelled with their names -/

/-- Arguments that were without a name, each under the name of the parameter in its place. What
has no parameter is left out. -/
def SpelledOut (parameters : List Parameter) (arguments named : List (List Char)) : Prop :=
  List.Forall₂ (fun (p : Parameter × List Char) a =>
    ∃ text, GivesUnder a p.1.name text ∧ Value.read text = Value.read p.2)
    (parameters.zip arguments) named

namespace SpelledOut

variable {parameters : List Parameter} {arguments named : List (List Char)}

/-- Under the name of a parameter there is the argument in its place. -/
theorem exists_of_getElem? (h : SpelledOut parameters arguments named) {j : Nat} {p : Parameter}
    {argument : List Char} (hp : parameters[j]? = some p) (ha : arguments[j]? = some argument) :
    ∃ a ∈ named, ∃ text, GivesUnder a p.name text ∧ Value.read text = Value.read argument := by
  have hzip : (parameters.zip arguments)[j]? = some (p, argument) :=
    List.getElem?_zip_eq_some.mpr ⟨hp, ha⟩
  obtain ⟨hj, hget⟩ := List.getElem?_eq_some_iff.mp hzip
  have hj' : j < named.length := by rw [← h.length_eq]; exact hj
  obtain ⟨text, htext, hvalue⟩ := h.get hj hj'
  simp only [List.get_eq_getElem, hget] at htext hvalue
  exact ⟨_, List.get_mem _ _, text, htext, hvalue⟩

/-- An argument that is spelled out is that of some parameter. -/
theorem exists_of_mem (h : SpelledOut parameters arguments named) {a : List Char}
    (ha : a ∈ named) : ∃ (j : Nat) (p : Parameter) (argument text : List Char),
      parameters[j]? = some p ∧ arguments[j]? = some argument ∧ GivesUnder a p.name text ∧
        Value.read text = Value.read argument := by
  obtain ⟨j, hj, rfl⟩ := List.mem_iff_getElem.mp ha
  have hj' : j < (parameters.zip arguments).length := by rw [h.length_eq]; exact hj
  obtain ⟨text, htext, hvalue⟩ := h.get hj' hj
  obtain ⟨hp, hargument⟩ := List.getElem?_zip_eq_some.mp (List.getElem?_eq_getElem hj')
  exact ⟨j, _, _, text, hp, hargument, htext, hvalue⟩

theorem hasName (h : SpelledOut parameters arguments named) : ∀ a ∈ named, HasName a := by
  intro a ha
  obtain ⟨-, p, -, text, -, -, htext, -⟩ := h.exists_of_mem ha
  exact ⟨p.name, text, htext⟩

section

variable {s : Signature} {front : List (List Char)} {i : Nat} {p : Parameter}

/-- With different names, an argument that is spelled out under the name of a parameter is
the one that stood in its place. -/
theorem exists_in_place (hnames : (s.parameters.map (·.name)).Nodup)
    (h : SpelledOut (s.parameters.drop front.length) arguments named)
    (hp : s.parameters[i]? = some p) {a text : List Char} (ha : a ∈ named)
    (htext : GivesUnder a p.name text) :
    ∃ argument, (front ++ arguments)[i]? = some argument ∧
      Value.read text = Value.read argument := by
  obtain ⟨j, q, argument, _, hq, hargument, htext', hvalue⟩ := h.exists_of_mem ha
  obtain ⟨hname, rfl⟩ := htext.unique htext'
  rw [List.getElem?_drop] at hq
  obtain rfl : i = front.length + j := Signature.eq_of_name_eq hnames hp hq hname
  refine ⟨argument, ?_, hvalue⟩
  rw [List.getElem?_append_right (by omega), Nat.add_sub_cancel_left, hargument]

/-- If no argument is spelled out under the name of a parameter, none stood in its place behind
the first ones. -/
theorem getElem?_append_eq (h : SpelledOut (s.parameters.drop front.length) arguments named)
    (hp : s.parameters[i]? = some p) (hnone : ∀ a ∈ named, ¬ GivesName a p.name) :
    (front ++ arguments)[i]? = front[i]? := by
  by_cases hi : i < front.length
  · exact List.getElem?_append_left hi
  · have hend : front[i]? = none := List.getElem?_eq_none (by omega)
    rw [List.getElem?_append_right (by omega), hend]
    cases hargument : arguments[i - front.length]? with
    | none => rfl
    | some argument =>
      have hq : (s.parameters.drop front.length)[i - front.length]? = some p := by
        rw [List.getElem?_drop, Nat.add_sub_cancel' (by omega), hp]
      obtain ⟨a, ha, text, htext, -⟩ := h.exists_of_getElem? hq hargument
      exact absurd ⟨text, htext⟩ (hnone a ha)

end

end SpelledOut

theorem filter_not_hasName {unnamed named : List (List Char)}
    (hunnamed : ∀ a ∈ unnamed, ¬ HasName a) (hnamed : ∀ a ∈ named, HasName a) :
    ((unnamed ++ named).filter fun a => ¬ HasName a) = unnamed := by
  have hkept : (unnamed.filter fun a => ¬ HasName a) = unnamed :=
    List.filter_eq_self.mpr fun a ha => by simpa using hunnamed a ha
  have hdropped : (named.filter fun a => ¬ HasName a) = [] :=
    List.filter_eq_nil_iff.mpr fun a ha => by simpa using hnamed a ha
  rw [List.filter_append, hkept, hdropped, List.append_nil]

/-- The last argument under a name is the last of those that come later, if there is one. -/
theorem getLast?_filter_append {arguments : List (List Char)} {name : String} {last : List Char}
    (hlast : (arguments.filter fun a => GivesName a name).getLast? = some last)
    (before : List (List Char)) :
    ((before ++ arguments).filter fun a => GivesName a name).getLast? = some last := by
  rw [List.filter_append, List.getLast?_append, hlast]
  rfl

namespace SlotLaw

variable {s : Signature} {front tail spelled named : List (List Char)}
  {values values' : List Value}

/-- **Spelling out a tail** of the arguments without a name keeps all values, when no two
parameters have one name. -/
theorem eq_of_spelledOut (hnames : (s.parameters.map (·.name)).Nodup)
    (hunnamed : ∀ a ∈ front ++ tail, ¬ HasName a) (hnamed : ∀ a ∈ named, HasName a)
    (hspelled : SpelledOut (s.parameters.drop front.length) tail spelled)
    (h : SlotLaw s (front ++ tail ++ named) values)
    (h' : SlotLaw s (front ++ (spelled ++ named)) values') : values = values' := by
  refine h.ext_parameters h' fun i p hp => ?_
  have hfirst : ∀ q ∈ s.parameters.take i, q.name ≠ p.name :=
    (Signature.index?_eq_some_iff.mp (Signature.index?_eq_some hnames hp)).2
  have hfront : ∀ a ∈ front, ¬ HasName a := fun a ha => hunnamed a (List.mem_append_left _ ha)
  by_cases hgiven : ∃ a ∈ named, GivesName a p.name
  · -- an argument that had the name already comes later, and counts on both sides
    obtain ⟨last, text, hlast, -, htext⟩ := exists_last_of_givesName hgiven
    rw [h.named i p last text hp hfirst (getLast?_filter_append hlast _) htext,
      h'.named i p last text hp hfirst
        (getLast?_filter_append (getLast?_filter_append hlast _) _) htext]
  · have hnone : ∀ a ∈ front ++ tail ++ named, ¬ GivesName a p.name := fun a ha hname =>
      (List.mem_append.mp ha).elim (fun ha => hunnamed a ha ⟨_, hname⟩)
        fun ha => hgiven ⟨a, ha, hname⟩
    rw [h.unnamed i p hp (.inr hnone), filter_not_hasName hunnamed hnamed]
    by_cases hspelt : ∃ a ∈ spelled, GivesName a p.name
    · obtain ⟨last, text, hlast, hmem, htext⟩ := exists_last_of_givesName hspelt
      obtain ⟨argument, hargument, hvalue⟩ := hspelled.exists_in_place hnames hp hmem htext
      have hlater : (named.filter fun a => GivesName a p.name) = [] :=
        List.filter_eq_nil_iff.mpr fun a ha hname => hgiven ⟨a, ha, of_decide_eq_true hname⟩
      have hlast' : ((spelled ++ named).filter fun a => GivesName a p.name).getLast? =
          some last := by
        rw [List.filter_append, hlater, List.append_nil, hlast]
      rw [h'.named i p last text hp hfirst (getLast?_filter_append hlast' _) htext, hvalue,
        hargument]
      rfl
    · have hnone' : ∀ a ∈ spelled ++ named, ¬ GivesName a p.name := fun a ha hname =>
        (List.mem_append.mp ha).elim (fun ha => hspelt ⟨a, ha, hname⟩)
          fun ha => hgiven ⟨a, ha, hname⟩
      have hnone'' : ∀ a ∈ front ++ (spelled ++ named), ¬ GivesName a p.name := fun a ha hname =>
        (List.mem_append.mp ha).elim (fun ha => hfront a ha ⟨_, hname⟩)
          fun ha => hnone' a ha hname
      have hnamed' : ∀ a ∈ spelled ++ named, HasName a := fun a ha =>
        (List.mem_append.mp ha).elim (hspelled.hasName a) (hnamed a)
      -- no argument was spelled out for this parameter, so it had none before
      rw [h'.unnamed i p hp (.inr hnone''), filter_not_hasName hfront hnamed',
        hspelled.getElem?_append_eq hp fun a ha => hnone' a (List.mem_append_left _ ha)]

end SlotLaw

namespace Arguments

/-- **Every parameter is filled on its own.** An argument has a name if something stands
before its first equals sign, and no quote. The values of a call follow the law of slots, and
they are those that three passes over all parameters make. So only the order of the arguments
under one name counts, and that of the arguments without one. When no two parameters have one
name, any tail of the arguments without a name may be given under the names of the parameters
in their places. -/
theorem resolve_read_slots (s : Signature) :
    (∀ argument : List Char, (keywordSplit? argument).isSome = true ↔
      ∃ key text, argument = key ++ '=' :: text ∧ '=' ∉ key ∧ key ≠ [] ∧
        ∀ c ∈ key, isQuote c = false) ∧
    (∀ cs : List Char, SlotLaw s (splitArguments cs) ((read cs).resolve s) ∧
      (read cs).fillInPasses s = (read cs).resolve s) ∧
    (∀ cs ds : List Char, SameOrder (splitArguments cs) (splitArguments ds) →
      (read cs).resolve s = (read ds).resolve s) ∧
    ((s.parameters.map (·.name)).Nodup →
      ∀ (cs ds : List Char) (front tail spelled named : List (List Char)),
        splitArguments cs = front ++ tail ++ named →
        splitArguments ds = front ++ (spelled ++ named) →
        (∀ a ∈ front ++ tail, ¬ HasName a) → (∀ a ∈ named, HasName a) →
        SpelledOut (s.parameters.drop front.length) tail spelled →
        (read cs).resolve s = (read ds).resolve s) := by
  refine ⟨?_, ?_, ?_, ?_⟩
  · intro argument
    rw [← hasName_iff]
    constructor
    · rintro ⟨_, text, key, hargument, hsign, hne, hquote, -⟩
      exact ⟨key, text, hargument, hsign, hne, hquote⟩
    · rintro ⟨key, text, hargument, hsign, hne, hquote⟩
      exact ⟨_, text, key, hargument, hsign, hne, hquote, rfl⟩
  · exact fun cs => ⟨slotLaw_resolve_read s cs, fillInPasses_eq_resolve _ s⟩
  · intro cs ds horder
    exact (slotLaw_resolve_read s cs).eq_of_sameOrder (slotLaw_resolve_read s ds) horder
  · intro hnames cs ds front tail spelled named hcs hds hunnamed hnamed hspelled
    exact SlotLaw.eq_of_spelledOut hnames hunnamed hnamed hspelled
      (hcs ▸ slotLaw_resolve_read s cs) (hds ▸ slotLaw_resolve_read s ds)

/-- A name for a park may stand between its row and its column, and the column may be given
under its own name. -/
theorem resolve_read_slots_park :
    let park := Catalog.landmark "build_park"
    let between := (read "1, name='a=b', 2".toList).resolve park
    let behind := (read "1, 2, name='a=b'".toList).resolve park
    let spelled := (read "1, col = 2, name='a=b'".toList).resolve park
    behind = [.ofInt 1, .ofInt 2, .text "a=b"] ∧ between = behind ∧ behind = spelled := by
  intro park between behind spelled
  have hbetween : splitArguments "1, name='a=b', 2".toList =
      ["1".toList] ++ "name='a=b'".toList :: "2".toList :: [] := by decide +kernel
  have hbehind : splitArguments "1, 2, name='a=b'".toList =
      ["1".toList] ++ "2".toList :: "name='a=b'".toList :: [] := by decide +kernel
  have hspelled : splitArguments "1, col = 2, name='a=b'".toList =
      ["1".toList] ++ (["col = 2".toList] ++ ["name='a=b'".toList]) := by decide +kernel
  have hname : HasName "name='a=b'".toList := by decide +kernel
  have hone : ¬ HasName "1".toList := by decide +kernel
  have htwo : ¬ HasName "2".toList := by decide +kernel
  obtain ⟨-, -, horder, htail⟩ := resolve_read_slots park
  refine ⟨by decide +kernel, ?_, ?_⟩
  · refine horder _ _ ?_
    rw [hbetween, hbehind]
    exact SameOrder.swap (.inl hname) (fun name _ h => htwo ⟨name, h⟩) _ _
  · refine htail (by decide) _ _ ["1".toList] ["2".toList] ["col = 2".toList] ["name='a=b'".toList]
      hbehind hspelled ?_ ?_ ?_
    · simpa using ⟨hone, htwo⟩
    · simpa using hname
    · refine List.Forall₂.cons ⟨" 2".toList, givesUnder_iff.mpr ⟨"col".toList, ?_, ?_⟩, ?_⟩
        List.Forall₂.nil
      · decide +kernel
      · decide +kernel
      · decide +kernel

end Arguments

end CityScript

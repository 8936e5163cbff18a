/-
What operations ask of their arguments, and what they do when they get it.

An operation reads its arguments one after the other and stops at the first that it
cannot use. Here what it asks is written down apart from that: a list of requirements, one
for each parameter, each with the values that it accepts and the problem that it has with
any other value. So the arguments of a call are either all accepted, and then they decode
to one order, or there is a first that is refused, and then the problem with it is the
error of the call.

No requirement looks at the world. That is why a call is either refused in every world,
with the same error and without a trace, or carried out in every world, as the placement
or the clearing that its operation stands for.
-/
import Mathlib.Logic.Basic
import CityScript.Proofs.IntegerText
import CityScript.Session.Execution

set_option autoImplicit false

namespace CityScript

/-! ## Requirements -/

/-- What a parameter can be for. -/
inductive ParameterRole where
  | coordinate (required : Bool)
  | floors
  | direction
  | name
  deriving DecidableEq, Repr, Inhabited

/-- Whether a role accepts a value. Coordinates are integers of 32 bits, floor counts any
integers, directions one of four words, names texts. What need not be given may be nothing. -/
def ParameterRole.accepts : ParameterRole → Value → Bool
  | .coordinate required, v =>
    if v = .null then !required else v.toInt?.any fun i => minInt32 ≤ i && i ≤ maxInt32
  | .floors, v => v.toInt?.isSome
  | .direction, .null => true
  | .direction, .text s => ["h", "horizontal", "v", "vertical"].contains s
  | .name, .null => true
  | .name, .text _ => true
  | _, _ => false

/-- A parameter of an operation and what it is for. -/
structure Requirement where
  parameter : String
  role : ParameterRole
  deriving DecidableEq, Repr, Inhabited

namespace Requirement

/-- The problem that a requirement has with a value that it does not accept. -/
def problem (r : Requirement) (v : Value) : ArgumentError :=
  match r.role, v with
  | .coordinate _, .null => .missing r.parameter
  | .coordinate _, .number n => .outOfRange r.parameter n.plainText
  | .coordinate _, v => .invalid r.parameter "integer or None" v.typeName
  | .floors, .number n => .outOfRange r.parameter n.plainText
  | .floors, v => .invalid r.parameter "integer" v.typeName
  | .direction, .text s => .invalid r.parameter "'h' or 'v'" ("'" ++ s ++ "'")
  | .direction, v => .invalid r.parameter "str" v.typeName
  | .name, v => .invalid r.parameter "str" v.typeName

/-- A requirement as a check of its own. -/
def check (r : Requirement) (v : Value) : Except ArgumentError Unit :=
  if r.role.accepts v then .ok () else .error (r.problem v)

/-- Checks one after the other; the first that fails decides. -/
def checkAll : List (Requirement × Value) → Except ArgumentError Unit
  | [] => .ok ()
  | (r, v) :: rest => do
    r.check v
    checkAll rest

end Requirement

/-- What is asked of the arguments behind the row and the column. -/
def Kind.detailRequirements : Kind → List Requirement
  | .house => [⟨"floors", .floors⟩, ⟨"name", .name⟩]
  | .apartment => [⟨"floors", .floors⟩, ⟨"name", .name⟩]
  | .road => [⟨"direction", .direction⟩]
  | .powerTower => []
  | _ => [⟨"name", .name⟩]

namespace Operation

/-- What an operation asks of its arguments, in the order of its parameters. Only a road has
to be told where it goes. -/
def requirements : Operation → List Requirement
  | .build kind =>
    ⟨"row", .coordinate (kind == .road)⟩ :: ⟨"col", .coordinate (kind == .road)⟩ ::
      kind.detailRequirements
  | .clear => []

/-- The requirements of an operation, each with the argument at its position. -/
def asked (operation : Operation) (arguments : List Value) : List (Requirement × Value) :=
  operation.requirements.mapIdx fun i r => (r, Argument.get arguments i)

/-- Whether all that an operation asks is met. -/
def accepts (operation : Operation) (arguments : List Value) : Bool :=
  (operation.asked arguments).all fun p => p.1.role.accepts p.2

end Operation

/-! ## What accepted arguments mean -/

namespace Argument

/-- The integer that an argument is. -/
def integer (v : Value) : Int := v.toInt?.getD 0

/-- The number of floors that an argument asks for, at least the lower bound and at most
the upper one. -/
def floorsWithin (low high : Nat) (v : Value) : Nat :=
  (max (low : Int) (min (integer v) high)).toNat

/-- The name that an argument gives. An empty text gives none. -/
def label? : Value → Option String
  | .text s => if s = "" then none else some s
  | _ => none

/-- The direction that an argument gives, horizontal if it is nothing. -/
def heading : Value → Direction
  | .text s => if s = "v" ∨ s = "vertical" then .vertical else .horizontal
  | _ => .horizontal

end Argument

/-- The details that accepted arguments give to a kind. -/
def Kind.detailsFrom (kind : Kind) (arguments : List Value) : Details :=
  let argument := Argument.get arguments
  match kind with
  | .house =>
    { floors := some (Argument.floorsWithin 1 maxWord32 (argument 2))
      name := Argument.label? (argument 3) }
  | .apartment =>
    { floors := some (Argument.floorsWithin 2 10 (argument 2))
      name := Argument.label? (argument 3) }
  | .road => { direction := some (Argument.heading (argument 2)) }
  | .powerTower => {}
  | _ => { name := Argument.label? (argument 2) }

namespace Operation

/-- The order that accepted arguments make. -/
def decode (arguments : List Value) : Operation → Order
  | .clear => .clear
  | .build .road =>
    .placeAt .road
      ⟨Argument.integer (Argument.get arguments 0), Argument.integer (Argument.get arguments 1)⟩
      (Kind.road.detailsFrom arguments)
  | .build kind =>
    .placeNear kind (Argument.get arguments 0).toInt? (Argument.get arguments 1).toInt?
      (kind.detailsFrom arguments)

end Operation

/-! ## The checks are the requirements -/

namespace Argument

open Requirement

theorem toInt?_number (n : Binary64) : (Value.number n).toInt? = n.toInt? := rfl

theorem check_coordinate_number (parameter : String) (required : Bool) (n : Binary64) :
    check ⟨parameter, .coordinate required⟩ (.number n) =
      if n.toInt?.any isCoordinate then .ok () else .error (.outOfRange parameter n.plainText) :=
  rfl

theorem coordinate_eq (parameter : String) (v : Value) :
    coordinate parameter v = (check ⟨parameter, .coordinate false⟩ v).map fun _ => v.toInt? := by
  cases v with
  | number n =>
    rw [coordinate, check_coordinate_number, toInt?_number]
    cases n.toInt? with
    | none => rfl
    | some i =>
      rw [Option.any_some]
      by_cases hi : isCoordinate i = true
      · rw [Option.filter_some_pos hi, if_pos hi]
        rfl
      · rw [Option.filter_some_neg (Bool.eq_false_iff.mpr hi), if_neg hi]
        rfl
  | null => rfl
  | bool b => rfl
  | text s => rfl

theorem requiredCoordinate_eq (parameter : String) (v : Value) :
    requiredCoordinate parameter v =
      (check ⟨parameter, .coordinate true⟩ v).map fun _ => integer v := by
  rw [requiredCoordinate, coordinate_eq]
  cases v with
  | number n =>
    rw [check_coordinate_number, check_coordinate_number, integer, toInt?_number]
    cases n.toInt? with
    | none => rfl
    | some i =>
      rw [Option.any_some]
      by_cases hi : isCoordinate i = true
      · rw [if_pos hi]
        rfl
      · rw [if_neg hi]
        rfl
  | null => rfl
  | bool b => rfl
  | text s => rfl

theorem floors_eq (low high : Nat) (v : Value) :
    floors low high v = (check ⟨"floors", .floors⟩ v).map fun _ => floorsWithin low high v := by
  cases v with
  | number n =>
    rw [floors, check, ParameterRole.accepts, floorsWithin, integer, toInt?_number]
    cases n.toInt? with
    | none => rfl
    | some i => rfl
  | null => rfl
  | bool b => rfl
  | text s => rfl

theorem name_eq (v : Value) :
    name v = (check ⟨"name", .name⟩ v).map fun _ => label? v := by
  cases v <;> rfl

theorem direction_eq (v : Value) :
    direction v = (check ⟨"direction", .direction⟩ v).map fun _ => heading v := by
  cases v with
  | text s =>
    have hwords : ParameterRole.accepts .direction (.text s) = true ↔
        (s = "h" ∨ s = "horizontal") ∨ (s = "v" ∨ s = "vertical") := by
      rw [ParameterRole.accepts, List.contains_iff_mem]
      simp only [List.mem_cons, List.not_mem_nil, or_false, or_assoc]
    rw [direction, Direction.ofText?, check, heading]
    by_cases hh : s = "h" ∨ s = "horizontal"
    · -- the words of one direction are none of the other
      have hv : ¬ (s = "v" ∨ s = "vertical") := by
        rcases hh with rfl | rfl <;> decide
      rw [if_pos hh, if_pos (hwords.mpr (.inl hh)), if_neg hv]
      rfl
    · by_cases hv : s = "v" ∨ s = "vertical"
      · rw [if_neg hh, if_pos hv, if_pos (hwords.mpr (.inr hv)), if_pos hv]
        rfl
      · rw [if_neg hh, if_neg hv, if_neg (fun h => (hwords.mp h).elim hh hv)]
        rfl
  | null => rfl
  | bool b => rfl
  | number n => rfl

end Argument

namespace Requirement

variable {α β : Type}

/-- A check in front of others, with what is made of the argument that it lets through. -/
theorem bind_check {r : Requirement} {v : Value} {rest : List (Requirement × Value)} {meaning : α}
    {next : α → Except ArgumentError β} {result : β}
    (hrest : next meaning = (checkAll rest).map fun _ => result) :
    (((r.check v).map fun _ => meaning) >>= next) =
      (checkAll ((r, v) :: rest)).map fun _ => result := by
  rw [checkAll]
  cases r.check v with
  | error e => rfl
  | ok u => exact hrest

end Requirement

theorem Kind.read_detailForm (kind : Kind) (hkind : kind ≠ .road) (arguments : List Value) :
    kind.detailForm.read arguments =
      (Requirement.checkAll (kind.detailRequirements.mapIdx fun i r =>
        (r, Argument.get arguments (i + 2)))).map fun _ => kind.detailsFrom arguments := by
  have hfloored : ∀ low high, (DetailForm.floored low high).read arguments =
      (Requirement.checkAll [(⟨"floors", .floors⟩, Argument.get arguments 2),
        (⟨"name", .name⟩, Argument.get arguments 3)]).map fun _ =>
          { floors := some (Argument.floorsWithin low high (Argument.get arguments 2))
            name := Argument.label? (Argument.get arguments 3) } := by
    intro low high
    rw [DetailForm.read, Argument.floors_eq, Argument.name_eq]
    exact Requirement.bind_check (Requirement.bind_check rfl)
  have hnamed : DetailForm.named.read arguments =
      (Requirement.checkAll [(⟨"name", .name⟩, Argument.get arguments 2)]).map fun _ =>
        { name := Argument.label? (Argument.get arguments 2) } := by
    rw [DetailForm.read, Argument.name_eq]
    exact Requirement.bind_check rfl
  cases kind with
  | road => exact absurd rfl hkind
  | house => exact hfloored 1 maxWord32
  | apartment => exact hfloored 2 10
  | powerTower => rfl
  | park | pool | library | school | hospital | shop | fountain => exact hnamed

namespace Operation

theorem asked_build (kind : Kind) (arguments : List Value) :
    (build kind).asked arguments =
      (⟨"row", .coordinate (kind == .road)⟩, Argument.get arguments 0) ::
      (⟨"col", .coordinate (kind == .road)⟩, Argument.get arguments 1) ::
        kind.detailRequirements.mapIdx fun i r => (r, Argument.get arguments (i + 2)) := by
  rw [asked, requirements, List.mapIdx_cons, List.mapIdx_cons]

theorem order_of_ne_road {kind : Kind} (hkind : kind ≠ .road) (arguments : List Value) :
    (build kind).order arguments = orderNear kind arguments := by
  rw [order]
  exact hkind

theorem decode_of_ne_road {kind : Kind} (hkind : kind ≠ .road) (arguments : List Value) :
    (build kind).decode arguments =
      .placeNear kind (Argument.get arguments 0).toInt? (Argument.get arguments 1).toInt?
        (kind.detailsFrom arguments) := by
  rw [decode]
  exact hkind

/-- **The order of a call** is what its arguments decode to, once all requirements are met. -/
theorem order_eq (operation : Operation) (arguments : List Value) :
    operation.order arguments =
      (Requirement.checkAll (operation.asked arguments)).map fun _ =>
        operation.decode arguments := by
  cases operation with
  | clear => rfl
  | build kind =>
    rw [asked_build]
    by_cases hkind : kind = .road
    · subst hkind
      rw [order, orderRoad, Argument.requiredCoordinate_eq, Argument.requiredCoordinate_eq,
        Argument.direction_eq]
      exact Requirement.bind_check (Requirement.bind_check (Requirement.bind_check rfl))
    · -- the details are checked as one, after the position
      rw [order_of_ne_road hkind, decode_of_ne_road hkind, orderNear, Argument.coordinate_eq,
        Argument.coordinate_eq, beq_false_of_ne hkind, kind.read_detailForm hkind]
      refine Requirement.bind_check (Requirement.bind_check ?_)
      cases Requirement.checkAll (kind.detailRequirements.mapIdx fun i r =>
        (r, Argument.get arguments (i + 2))) <;> rfl

end Operation

/-! ## The first that is refused -/

namespace Requirement

theorem checkAll_of_forall {asked : List (Requirement × Value)}
    (h : ∀ p ∈ asked, p.1.role.accepts p.2 = true) : checkAll asked = .ok () := by
  induction asked with
  | nil => rfl
  | cons p asked ih =>
    rw [checkAll, check, if_pos (h p List.mem_cons_self)]
    exact ih fun q hq => h q (List.mem_cons_of_mem p hq)

/-- Checks one of which is not passed: the first such decides. -/
theorem checkAll_of_refused {asked : List (Requirement × Value)}
    (h : asked.all (fun p => p.1.role.accepts p.2) = false) :
    ∃ before r v after, asked = before ++ (r, v) :: after ∧
      (∀ p ∈ before, p.1.role.accepts p.2 = true) ∧ r.role.accepts v = false ∧
      checkAll asked = .error (r.problem v) := by
  induction asked with
  | nil => cases h
  | cons p asked ih =>
    obtain ⟨r, v⟩ := p
    by_cases hfirst : r.role.accepts v = true
    · -- the first argument is fine, so the problem is among the others
      rw [List.all_cons, hfirst, Bool.true_and] at h
      obtain ⟨before, r', v', after, rfl, hbefore, hrefused, hcheck⟩ := ih h
      refine ⟨(r, v) :: before, r', v', after, rfl, ?_, hrefused, ?_⟩
      · intro q hq
        rcases List.mem_cons.mp hq with rfl | hq
        · exact hfirst
        · exact hbefore q hq
      · rw [checkAll, check, if_pos hfirst]
        exact hcheck
    · refine ⟨[], r, v, asked, rfl, by simp, Bool.eq_false_iff.mpr hfirst, ?_⟩
      rw [checkAll, check, if_neg hfirst]
      rfl

end Requirement

/-! ## Refused or carried out -/

/-- What a call reports of a placement, and the world after it. -/
def World.reported (placement : Except PlacementError Placement × World) :
    Except CallError Outcome × World :=
  ((placement.1.map Outcome.placed).mapError CallError.placement, placement.2)

namespace Operation

/-- In every world a call with these arguments is refused, with the problem of the first
argument that is not accepted, and leaves no trace. -/
def Refuses (operation : Operation) (arguments : List Value) : Prop :=
  ∃ before r v after, operation.asked arguments = before ++ (r, v) :: after ∧
    (∀ p ∈ before, p.1.role.accepts p.2 = true) ∧ r.role.accepts v = false ∧
    ∀ w : World, operation.run arguments w = (.error (.argument (r.problem v)), w)

/-- What an operation does with the meaning of its arguments: it places its kind, a road on
an exact cell and anything else near a position, or it clears the world. -/
def effect (arguments : List Value) (w : World) : Operation → Except CallError Outcome × World
  | .clear => (.ok (.cleared w.clear.1), w.clear.2)
  | .build .road =>
    World.reported (w.placeAt .road
      ⟨Argument.integer (Argument.get arguments 0), Argument.integer (Argument.get arguments 1)⟩
      (Kind.road.detailsFrom arguments))
  | .build kind =>
    World.reported (w.placeNear kind (Argument.get arguments 0).toInt?
      (Argument.get arguments 1).toInt? (kind.detailsFrom arguments))

/-- In every world a call with these arguments does what the operation stands for. -/
def CarriesOut (operation : Operation) (arguments : List Value) : Prop :=
  ∀ w : World, operation.run arguments w = operation.effect arguments w

theorem carriesOut_of_accepts {operation : Operation} {arguments : List Value}
    (h : operation.accepts arguments = true) : operation.CarriesOut arguments := by
  intro w
  rw [run, order_eq, Requirement.checkAll_of_forall (List.all_eq_true.mp h)]
  cases operation with
  | clear => rfl
  | build kind => cases kind <;> rfl

theorem refuses_of_not_accepts {operation : Operation} {arguments : List Value}
    (h : operation.accepts arguments = false) : operation.Refuses arguments := by
  obtain ⟨before, r, v, after, hasked, hbefore, hrefused, hcheck⟩ :=
    Requirement.checkAll_of_refused h
  refine ⟨before, r, v, after, hasked, hbefore, hrefused, ?_⟩
  intro w
  rw [run, order_eq, hcheck]
  rfl

theorem effect_ne_refused (operation : Operation) (arguments : List Value) (w : World)
    (e : ArgumentError) : (operation.effect arguments w).1 ≠ .error (.argument e) := by
  have hreported : ∀ placement : Except PlacementError Placement × World,
      (World.reported placement).1 ≠ .error (.argument e) := by
    rintro ⟨result, after⟩ h
    cases result <;> cases h
  cases operation with
  | clear =>
    intro h
    cases h
  | build kind => cases kind <;> exact hreported _

theorem not_carriesOut_of_refuses {operation : Operation} {arguments : List Value}
    (h : operation.Refuses arguments) : ¬ operation.CarriesOut arguments := by
  obtain ⟨before, r, v, after, -, -, -, hrun⟩ := h
  intro hcarries
  -- one world is enough to tell an effect from an argument that is refused
  have heffect := (hcarries default).symm.trans (hrun default)
  exact effect_ne_refused operation arguments default _ (congrArg Prod.fst heffect)

end Operation

/-! ## Positions -/

theorem Kind.detailsFrom_congr {kind : Kind} {first second : List Value}
    (h : ∀ i < kind.detailRequirements.length,
      Argument.get first (i + 2) = Argument.get second (i + 2)) :
    kind.detailsFrom first = kind.detailsFrom second := by
  cases kind with
  | house | apartment =>
    have hfloors : Argument.get first 2 = Argument.get second 2 := h 0 (by decide)
    have hname : Argument.get first 3 = Argument.get second 3 := h 1 (by decide)
    simp only [detailsFrom, hfloors, hname]
  | powerTower => rfl
  | road | park | pool | library | school | hospital | shop | fountain =>
    have hthird : Argument.get first 2 = Argument.get second 2 := h 0 (by decide)
    simp only [detailsFrom, hthird]

namespace Operation

/-- **Only the arguments at the positions of parameters matter.** -/
theorem order_congr {operation : Operation} {first second : List Value}
    (h : ∀ i < operation.requirements.length, Argument.get first i = Argument.get second i) :
    operation.order first = operation.order second := by
  have hasked : operation.asked first = operation.asked second := by
    refine List.ext_getElem (by rw [asked, asked, List.length_mapIdx, List.length_mapIdx]) ?_
    intro i hi _
    rw [asked, List.length_mapIdx] at hi
    simp only [asked, List.getElem_mapIdx, h i hi]
  have hdecode : operation.decode first = operation.decode second := by
    cases operation with
    | clear => rfl
    | build kind =>
      have hlength : (build kind).requirements.length = kind.detailRequirements.length + 2 := rfl
      -- the row and the column are the first two, and the details begin behind them
      have hrow := h 0 (by omega)
      have hcol := h 1 (by omega)
      have hdetails := kind.detailsFrom_congr fun i hi => h (i + 2) (by omega)
      by_cases hkind : kind = .road
      · subst hkind
        rw [decode, decode, hrow, hcol, hdetails]
      · rw [decode_of_ne_road hkind, decode_of_ne_road hkind, hrow, hcol, hdetails]
  rw [order_eq, order_eq, hasked, hdecode]

end Operation

/-- Arguments brought to a number: what is missing is nothing, and what is left over is
dropped. -/
def Argument.fit (n : Nat) (arguments : List Value) : List Value :=
  (arguments ++ List.replicate n Value.null).take n

theorem Argument.get_fit {n i : Nat} (hi : i < n) (arguments : List Value) :
    get (fit n arguments) i = get arguments i := by
  rw [get, get, fit, List.getElem?_take_of_lt hi, List.getElem?_append]
  by_cases hlength : i < arguments.length
  · rw [if_pos hlength]
  · rw [if_neg hlength, List.getElem?_replicate, if_pos (by omega),
      List.getElem?_eq_none (by omega)]
    rfl

theorem Operation.run_fit (operation : Operation) (arguments : List Value) (w : World) :
    operation.run (Argument.fit operation.requirements.length arguments) w =
      operation.run arguments w := by
  rw [run, run, order_congr fun i hi => Argument.get_fit hi arguments]

/-! ## Coordinates -/

/-- The numbers of the integers of 32 bits. Zero has two of them. -/
def Value.IsInt32 (v : Value) : Prop :=
  v = .number (.zero true) ∨ ∃ i : Int, minInt32 ≤ i ∧ i ≤ maxInt32 ∧ v = .ofInt i

theorem Value.isInt32_iff {v : Value} :
    v.IsInt32 ↔ ∃ i, v.toInt? = some i ∧ minInt32 ≤ i ∧ i ≤ maxInt32 := by
  have hbound : ∀ i : Int, minInt32 ≤ i → i ≤ maxInt32 → i.natAbs < Binary64.integerBound := by
    intro i hlow hhigh
    simp only [minInt32, maxInt32, Binary64.integerBound] at *
    omega
  constructor
  · rintro (rfl | ⟨i, hlow, hhigh, rfl⟩)
    · exact ⟨0, Binary64.toInt?_zero true, by decide, by decide⟩
    · exact ⟨i, Binary64.toInt?_ofInt (hbound i hlow hhigh), hlow, hhigh⟩
  · rintro ⟨i, hv, hlow, hhigh⟩
    cases v with
    | number n =>
      by_cases hi : i = 0
      · -- only of zero does the integer not tell the sign of the number
        subst hi
        obtain ⟨negative, rfl⟩ := Binary64.eq_zero_of_toInt? hv
        cases negative with
        | true => exact .inl rfl
        | false =>
          have hzero := Binary64.ofRatio_zero false
          exact .inr ⟨0, hlow, hhigh, congrArg Value.number hzero.symm⟩
      · have hn : n = Binary64.ofInt i :=
          Binary64.eq_of_toInt? hv (Binary64.toInt?_ofInt (hbound i hlow hhigh)) hi
        exact .inr ⟨i, hlow, hhigh, congrArg Value.number hn⟩
    | null => cases hv
    | bool b => cases hv
    | text s => cases hv

/-- **The coordinates that are accepted** are the integers of 32 bits, and nothing if they
need not be given. -/
theorem ParameterRole.accepts_coordinate_iff (required : Bool) (v : Value) :
    (ParameterRole.coordinate required).accepts v = true ↔
      (v = .null ∧ required = false) ∨ v.IsInt32 := by
  rw [accepts, Value.isInt32_iff]
  by_cases hv : v = .null
  · subst hv
    simp [Value.toInt?]
  · rw [if_neg hv, Option.any_eq_true]
    simp only [hv, false_and, false_or, Bool.and_eq_true, decide_eq_true_eq]

theorem Operation.role_of_position {kind : Kind} {r : Requirement}
    (hr : r ∈ (build kind).requirements) (hposition : r.parameter = "row" ∨ r.parameter = "col") :
    r.role = .coordinate (kind == .road) := by
  have hdetails : ∀ d ∈ kind.detailRequirements, ¬ (d.parameter = "row" ∨ d.parameter = "col") := by
    cases kind <;> decide
  rw [requirements, List.mem_cons, List.mem_cons] at hr
  rcases hr with rfl | rfl | hr
  · rfl
  · rfl
  · exact absurd hposition (hdetails r hr)

/-! ## The law of calls -/

/-- **Arguments are checked apart from what they are for.** Whatever the arguments of a call
are, exactly one of two things holds: in every world the call is refused with the problem of
the first argument that is not accepted, and changes nothing, or in every world it has the
effect of its operation. The second is so if all arguments are accepted. Missing arguments
count as nothing and surplus ones not at all. A coordinate is accepted if it is an integer of
32 bits, and also if it is not given, unless it is that of a road, where this is reported as
missing. -/
theorem Operation.refuses_xor_carriesOut (operation : Operation) (arguments : List Value) :
    Xor (operation.Refuses arguments) (operation.CarriesOut arguments) ∧
    (operation.CarriesOut arguments ↔ operation.accepts arguments = true) ∧
    (∀ w : World, operation.run (Argument.fit operation.requirements.length arguments) w =
      operation.run arguments w) ∧
    ∀ r ∈ operation.requirements, r.parameter = "row" ∨ r.parameter = "col" →
      (∀ v, r.role.accepts v = true ↔
        (v = .null ∧ operation ≠ .build .road) ∨ v.IsInt32) ∧
      (operation = .build .road → r.problem .null = .missing r.parameter) := by
  refine ⟨?_, ?_, operation.run_fit arguments, ?_⟩
  · cases h : operation.accepts arguments with
    | true =>
      have hcarries := carriesOut_of_accepts h
      exact .inr ⟨hcarries, fun hrefuses => not_carriesOut_of_refuses hrefuses hcarries⟩
    | false =>
      have hrefuses := refuses_of_not_accepts h
      exact .inl ⟨hrefuses, not_carriesOut_of_refuses hrefuses⟩
  · constructor
    · intro hcarries
      by_contra h
      exact not_carriesOut_of_refuses (refuses_of_not_accepts (Bool.eq_false_iff.mpr h)) hcarries
    · exact carriesOut_of_accepts
  · intro r hr hposition
    cases operation with
    | clear => cases hr
    | build kind =>
      have hrole := role_of_position hr hposition
      refine ⟨?_, ?_⟩
      · intro v
        have hroad : (kind == .road) = false ↔ build kind ≠ .build .road := by simp
        rw [hrole, ParameterRole.accepts_coordinate_iff, hroad]
      · intro _
        simp only [Requirement.problem, hrole]

end CityScript

/-
What is recorded about the objects on the map.

The details of an object come from the arguments of one call, read by the operation
that the name in the call is bound to. The name may be bound to another operation than
its own, and then the arguments were laid out for one operation and are read by
another. So nothing about the details can be drawn from the catalog. What holds of them
is due to the reading: an empty text gives no name, a floor count is brought into the
bounds of the kind, and each kind has the parts that its own operation records.

That a detail is the one which was asked for needs to be said of a call and an object
together. The log keeps no calls. But it grows by one object at its end with every call
that places one, and is emptied with every clearing, so the calls that stand for the
objects can be kept beside it: one more for each placement, and none after a clearing.
-/
import Mathlib.Data.List.Forall2
import CityScript.Proofs.History
import CityScript.Proofs.Requirements

set_option autoImplicit false

namespace CityScript

/-! ## Details of a kind -/

/-- The details of an object are such as its kind may have. -/
structure PlacedObject.WellFormed (o : PlacedObject) : Prop where
  /-- A name is not empty. -/
  name_ne : o.details.name ≠ some ""
  /-- Houses and apartments have floors, nothing else has. -/
  floors_isSome_iff : o.details.floors.isSome = true ↔ o.kind = .house ∨ o.kind = .apartment
  house_floors : o.kind = .house → ∀ n, o.details.floors = some n → 1 ≤ n ∧ n ≤ maxWord32
  apartment_floors : o.kind = .apartment → ∀ n, o.details.floors = some n → 2 ≤ n ∧ n ≤ 10
  /-- Roads have a direction, nothing else has. -/
  direction_isSome_iff : o.details.direction.isSome = true ↔ o.kind = .road

namespace Argument

theorem label?_ne (v : Value) : label? v ≠ some "" := by
  cases v with
  | text s =>
    by_cases hs : s = ""
    · simp [label?, hs]
    · simp [label?, hs]
  | null | bool | number => simp [label?]

theorem floorsWithin_mem {low high : Nat} (h : low ≤ high) (v : Value) :
    low ≤ floorsWithin low high v ∧ floorsWithin low high v ≤ high := by
  unfold floorsWithin
  omega

/-- A floor count is the integer that was asked for, brought into the bounds and not
changed otherwise. -/
theorem floorsWithin_of_toInt? {low high : Nat} {v : Value} {i : Int} (h : v.toInt? = some i) :
    (floorsWithin low high v : Int) = max (low : Int) (min i (high : Int)) := by
  rw [floorsWithin, integer, h, Option.getD_some]
  omega

end Argument

/-- **Details that were read are well formed**, for every kind and whatever the arguments. -/
theorem Kind.wellFormed_detailsFrom (kind : Kind) (cell : Cell) (arguments : List Value) :
    PlacedObject.WellFormed ⟨cell, kind, kind.detailsFrom arguments⟩ := by
  have hhouse : 1 ≤ Argument.floorsWithin 1 maxWord32 (Argument.get arguments 2) ∧
      Argument.floorsWithin 1 maxWord32 (Argument.get arguments 2) ≤ maxWord32 :=
    Argument.floorsWithin_mem (by decide) _
  have hapartment : 2 ≤ Argument.floorsWithin 2 10 (Argument.get arguments 2) ∧
      Argument.floorsWithin 2 10 (Argument.get arguments 2) ≤ 10 :=
    Argument.floorsWithin_mem (by decide) _
  cases kind <;> constructor <;>
    simp [detailsFrom, Argument.label?_ne, hhouse, hapartment]

/-! ## Objects and calls -/

/-- An object has the kind that a call builds and the details that its arguments give. The
floors are the requested integer, brought into the bounds of the kind. -/
structure Registry.Records (registry : Registry) (call : Call) (o : PlacedObject) : Prop where
  operation_eq : registry.get? call.operation = some (.build o.kind)
  details_eq : o.details = o.kind.detailsFrom call.arguments
  house_floors : o.kind = .house →
    ∃ (i : Int) (n : Nat), (Argument.get call.arguments 2).toInt? = some i ∧
      o.details.floors = some n ∧ (n : Int) = max 1 (min i (maxWord32 : Int))
  apartment_floors : o.kind = .apartment →
    ∃ (i : Int) (n : Nat), (Argument.get call.arguments 2).toInt? = some i ∧
      o.details.floors = some n ∧ (n : Int) = max 2 (min i 10)

theorem Operation.exists_toInt?_of_accepts {kind : Kind} {arguments : List Value}
    (haccepts : (Operation.build kind).accepts arguments = true)
    (hkind : kind = .house ∨ kind = .apartment) :
    ∃ i, (Argument.get arguments 2).toInt? = some i := by
  -- both kinds ask for the floors first, behind the row and the column
  rw [accepts, asked_build, List.all_eq_true] at haccepts
  have hfloors := haccepts (⟨"floors", .floors⟩, Argument.get arguments 2)
    (by rcases hkind with rfl | rfl <;> simp [Kind.detailRequirements])
  exact Option.isSome_iff_exists.mp hfloors

namespace Registry

theorem records_of_accepts {registry : Registry} {call : Call} {kind : Kind}
    (hoperation : registry.get? call.operation = some (.build kind))
    (haccepts : (Operation.build kind).accepts call.arguments = true) (cell : Cell) :
    registry.Records call ⟨cell, kind, kind.detailsFrom call.arguments⟩ where
  operation_eq := hoperation
  details_eq := rfl
  house_floors := by
    rintro rfl
    obtain ⟨i, hi⟩ := Operation.exists_toInt?_of_accepts haccepts (.inl rfl)
    exact ⟨i, _, hi, rfl, Argument.floorsWithin_of_toInt? hi⟩
  apartment_floors := by
    rintro rfl
    obtain ⟨i, hi⟩ := Operation.exists_toInt?_of_accepts haccepts (.inr rfl)
    exact ⟨i, _, hi, rfl, Argument.floorsWithin_of_toInt? hi⟩

theorem Records.wellFormed {registry : Registry} {call : Call} {o : PlacedObject}
    (h : registry.Records call o) : o.WellFormed := by
  obtain ⟨cell, kind, details⟩ := o
  obtain rfl : details = kind.detailsFrom call.arguments := h.details_eq
  exact kind.wellFormed_detailsFrom cell call.arguments

end Registry

/-- **What building does.** With accepted arguments it puts one object of its kind on the
map, with the details that they give, or fails and changes nothing. -/
theorem Operation.effect_build_cases (kind : Kind) (arguments : List Value) (w : World) :
    (∃ cell, (build kind).effect arguments w =
      (.ok (.placed ⟨cell, kind⟩), w.withObject ⟨cell, kind, kind.detailsFrom arguments⟩)) ∨
    ∃ e, (build kind).effect arguments w = (.error e, w) := by
  by_cases hkind : kind = .road
  · subst hkind
    rw [effect]
    rcases w.placeAt_cases .road _ (Kind.road.detailsFrom arguments) with ⟨_, hplace⟩ | hplace
    · rw [hplace]
      exact .inl ⟨_, rfl⟩
    · rw [hplace]
      exact .inr ⟨_, rfl⟩
  · rw [effect]
    · rcases w.placeNear_cases kind _ _ (kind.detailsFrom arguments) with ⟨_, _, hplace⟩ | hplace
      · rw [hplace]
        exact .inl ⟨_, rfl⟩
      · rw [hplace]
        exact .inr ⟨_, rfl⟩
    · exact hkind

/-- **What an operation does.** It fails and changes nothing, or it clears the world, or it
builds, with accepted arguments and the details that they give. -/
theorem Operation.run_cases (operation : Operation) (arguments : List Value) (w : World) :
    (∃ e, operation.run arguments w = (.error e, w)) ∨
    operation.run arguments w = (.ok (.cleared w.placed.length), w.clear.2) ∨
    ∃ kind cell, operation = build kind ∧ operation.accepts arguments = true ∧
      operation.run arguments w =
        (.ok (.placed ⟨cell, kind⟩), w.withObject ⟨cell, kind, kind.detailsFrom arguments⟩) := by
  cases haccepts : operation.accepts arguments with
  | false =>
    obtain ⟨_, _, _, _, -, -, -, hrun⟩ := refuses_of_not_accepts haccepts
    exact .inl ⟨_, hrun w⟩
  | true =>
    rw [carriesOut_of_accepts haccepts]
    cases operation with
    | clear => exact .inr (.inl rfl)
    | build kind =>
      rcases effect_build_cases kind arguments w with ⟨cell, heffect⟩ | herror
      · exact .inr (.inr ⟨kind, cell, rfl, rfl, heffect⟩)
      · exact .inl herror

namespace Registry

/-- **What one call records.** It fails and changes nothing, or it adds its own record to
the log, or it empties the log. -/
theorem step_records (registry : Registry) (w : World) (call : Call) :
    (∃ e, (registry.step w call).1.outcome = .error e ∧ (registry.step w call).2 = w) ∨
    (∃ o, registry.Records call o ∧
      (registry.step w call).1.outcome = .ok (.placed o.placement) ∧
      (registry.step w call).2.placed = w.placed ++ [o]) ∨
    (∃ removed, (registry.step w call).1.outcome = .ok (.cleared removed) ∧
      (registry.step w call).2.placed = []) := by
  rw [step, perform]
  cases hoperation : registry.get? call.operation with
  | none => exact .inl ⟨_, rfl, rfl⟩
  | some operation =>
    dsimp only
    rcases operation.run_cases call.arguments w with
      ⟨e, hrun⟩ | hrun | ⟨kind, cell, rfl, haccepts, hrun⟩
    · rw [hrun]
      exact .inl ⟨e, rfl, rfl⟩
    · rw [hrun]
      exact .inr (.inr ⟨_, rfl, rfl⟩)
    · rw [hrun]
      exact .inr (.inl ⟨_, records_of_accepts hoperation haccepts cell, rfl, rfl⟩)

end Registry

/-! ## Standing calls -/

/-- The calls that stand for the objects on the map, after one more result. -/
def CallResult.standing (before : List Call) (r : CallResult) : List Call :=
  match r.outcome with
  | .ok (.placed _) => before ++ [r.call]
  | .ok (.cleared _) => []
  | .error _ => before

/-- The calls that stand for the objects on the map, after some changes. A reset leaves none. -/
def Session.standing (s : Session) (before : List Call) : List Session.Change → List Call
  | [] => before
  | .run source :: rest =>
    (s.run source).2.standing ((s.run source).1.results.foldl CallResult.standing before) rest
  | .reset :: rest => s.reset.2.standing [] rest

namespace Registry

variable {registry : Registry} {before : List Call} {w : World}

/-- **One more call** keeps a record for each standing call. -/
theorem forall₂_records_step (h : List.Forall₂ registry.Records before w.placed) (call : Call) :
    List.Forall₂ registry.Records ((registry.step w call).1.standing before)
      (registry.step w call).2.placed := by
  rcases registry.step_records w call with
    ⟨e, houtcome, hworld⟩ | ⟨o, hrecords, houtcome, hplaced⟩ | ⟨removed, houtcome, hplaced⟩
  · rw [CallResult.standing, houtcome, hworld]
    exact h
  · rw [CallResult.standing, houtcome, hplaced]
    exact List.rel_append h (.cons hrecords .nil)
  · rw [CallResult.standing, houtcome, hplaced]
    exact .nil

/-- **A batch** keeps a record for each standing call. -/
theorem forall₂_records_execute (h : List.Forall₂ registry.Records before w.placed)
    (calls : List Call) :
    List.Forall₂ registry.Records ((registry.execute w calls).1.foldl CallResult.standing before)
      (registry.execute w calls).2.placed := by
  induction calls generalizing before w with
  | nil => exact h
  | cons call calls ih =>
    rw [execute]
    exact ih (forall₂_records_step h call)

end Registry

namespace Session

/-- **A history** keeps a record for each standing call. -/
theorem forall₂_records_after {s : Session} {before : List Call}
    (h : List.Forall₂ s.registry.Records before s.world.placed) (changes : List Change) :
    List.Forall₂ s.registry.Records (s.standing before changes)
      (s.after changes).world.placed := by
  induction changes generalizing s before with
  | nil => exact h
  | cons c changes ih =>
    cases c with
    | run source =>
      have hrun : List.Forall₂ (s.run source).2.registry.Records
          ((s.run source).1.results.foldl CallResult.standing before)
          (s.run source).2.world.placed := by
        rw [results_run, run_snd]
        exact Registry.forall₂_records_execute h _
      exact ih hrun
    | reset =>
      -- the log is empty then, and no call stands
      exact ih (s := s.reset.2) .nil

/-- **What is on the map is well formed, and is what was asked for.** This holds in every
session that starts with an empty map, after all scripts and resets, whatever the catalog
is and whatever operations the names are bound to. The objects on the map are, one by one,
the records of the standing calls. -/
theorem placed_records_standing (catalog : Catalog) (registry : Registry) (mask : Mask)
    (settings : Settings) (changes : List Change) :
    let fresh : Session := ⟨catalog, registry, .new mask settings⟩
    let placed := (fresh.after changes).world.placed
    (∀ o ∈ placed, o.WellFormed) ∧
      List.Forall₂ registry.Records (fresh.standing [] changes) placed := by
  intro fresh placed
  have hrecords : List.Forall₂ registry.Records (fresh.standing [] changes) placed :=
    forall₂_records_after (s := fresh) .nil changes
  have hboth : List.Forall₂ (fun o call => o.WellFormed ∧ registry.Records call o) placed
      (fresh.standing [] changes) := (hrecords.imp fun _ _ h => ⟨h.wellFormed, h⟩).flip
  exact ⟨((List.forall₂_and_left _ _).mp hboth).1, hrecords⟩

/-- Parks that an operation for apartments builds: the argument for the name is read as a
floor count, and a reset in between leaves only the second of them. -/
theorem placed_records_standing_mismatched :
    let registry := Registry.builtin.bind "build_park" (.build .apartment)
    let fresh : Session := ⟨.builtin, registry, .new (.allLand 2) {}⟩
    let changes := [.run "build_park(0, 0, 1)", .reset, .run "build_park(1, 1, 30)"]
    ∃ o, (fresh.after changes).world.placed = [o] ∧ o.WellFormed ∧ o.kind = .apartment ∧
      o.details = { floors := some 10 } := by
  intro registry fresh changes
  have hplaced : (fresh.after changes).world.placed =
      [⟨⟨1, 1⟩, .apartment, { floors := some 10 }⟩] := by decide +kernel
  have h := (placed_records_standing .builtin registry (.allLand 2) {} changes).1
  refine ⟨_, hplaced, h _ ?_, rfl, rfl⟩
  rw [hplaced]
  exact List.mem_singleton.mpr rfl

end Session

end CityScript

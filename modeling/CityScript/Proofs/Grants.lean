/-
Which cells an allocator has granted, read off what it was asked and what it said.

The set of the taken cells is inside an allocator and not in its replies. What a
client sees is a trace: requests, each with the reply to it. The cells granted in
the trace since the last reset are a list that the client can make for itself, and
`Holds` of `GridCells` says that the allocator holds just these. One request keeps
that: it takes a free cell and reports it as granted, or it changes nothing and
grants nothing, or it is a reset and both start anew.

Replies depend on the mask and on which cells are taken, not on how the set of
them was built up. So two traces that granted the same cells, in whatever order
and after whatever resets, are followed by the same replies.
-/
import Mathlib.Data.List.DropRight
import Mathlib.Data.List.Induction
import CityScript.Proofs.GridCells

set_option autoImplicit false

namespace CityScript

namespace Allocator

/-! ## Requests and replies -/

/-- What an allocator can be asked. A claim is a search with an attempt to take the
cell that it finds. -/
inductive Request where
  | reserve (cell : Cell)
  | find (center : Cell) (radius : Nat)
  | claim (center : Cell) (radius : Nat)
  | reset
  deriving DecidableEq, Repr, Inhabited

/-- What it says to that. To a claim it says what the search found, and then how the
attempt went. -/
inductive Reply where
  | reserved (result : Except PlacementError Unit)
  | found (hit : Option Cell)
  | claimed (hit : Option (Cell × Except PlacementError Unit))
  | done

/-- The reply to a request, and the allocator after it. -/
def answer (a : Allocator) : Request → Reply × Allocator
  | .reserve cell => (.reserved (a.reserve cell).1, (a.reserve cell).2)
  | .find center radius => (.found (a.findFree? center radius), a)
  | .claim center radius =>
    match a.findFree? center radius with
    | none => (.claimed none, a)
    | some cell => (.claimed (some (cell, (a.reserve cell).1)), (a.reserve cell).2)
  | .reset => (.done, a.reset)

/-- A request and the reply to it. -/
structure Event where
  request : Request
  reply : Reply

/-- The cell of which the reply says that it was taken just now. -/
def Event.granted? (e : Event) : Option Cell :=
  match e.request, e.reply with
  | .reserve cell, .reserved (.ok ()) => some cell
  | .claim _ _, .claimed (some (cell, .ok ())) => some cell
  | _, _ => none

/-- The events after the last reset. -/
def sinceReset (past : List Event) : List Event :=
  past.rtakeWhile fun e => e.request ≠ .reset

/-- The cells granted since the last reset. -/
def grants (past : List Event) : List Cell := (sinceReset past).filterMap Event.granted?

theorem grants_concat_of_ne {past : List Event} {e : Event} (h : e.request ≠ .reset) :
    grants (past ++ [e]) = grants past ++ e.granted?.toList := by
  rw [grants, sinceReset, List.rtakeWhile_concat, if_pos (decide_eq_true h),
    List.filterMap_append, List.filterMap_cons]
  cases e.granted? <;> rfl

theorem grants_concat_reset {past : List Event} {e : Event} (h : e.request = .reset) :
    grants (past ++ [e]) = [] := by
  rw [grants, sinceReset, List.rtakeWhile_concat, if_neg (by simp [h]), List.filterMap_nil]

/-! ## One request -/

theorem reserve_of_findFree? {a : Allocator} {center : Cell} {radius : Nat} {cell : Cell}
    (h : a.findFree? center radius = some cell) : a.reserve cell = (.ok (), a.take cell) :=
  reserve_of_isFree (isFree_of_findFree? h)

theorem answer_claim_of_none {a : Allocator} {center : Cell} {radius : Nat}
    (h : a.findFree? center radius = none) :
    a.answer (.claim center radius) = (.claimed none, a) := by
  rw [answer, h]

/-- **A claim does not fail** on the cell that its search finds. -/
theorem answer_claim_of_some {a : Allocator} {center : Cell} {radius : Nat} {cell : Cell}
    (h : a.findFree? center radius = some cell) :
    a.answer (.claim center radius) = (.claimed (some (cell, .ok ())), a.take cell) := by
  rw [answer, h]
  dsimp only
  rw [reserve_of_findFree? h]

/-- **What one request can do.** It takes a free cell and says so, or it changes nothing
and grants nothing, or it is a reset. -/
theorem answer_cases (a : Allocator) (r : Request) :
    (r ≠ .reset ∧ ∃ cell, a.isFree cell = true ∧
      Event.granted? ⟨r, (a.answer r).1⟩ = some cell ∧ (a.answer r).2 = a.take cell) ∨
    (r ≠ .reset ∧ Event.granted? ⟨r, (a.answer r).1⟩ = none ∧ (a.answer r).2 = a) ∨
    (r = .reset ∧ (a.answer r).2 = ofMask a.mask) := by
  cases r with
  | reserve cell =>
    by_cases hfree : a.isFree cell = true
    · rw [answer, reserve_of_isFree hfree]
      exact .inl ⟨by simp, cell, hfree, rfl, rfl⟩
    · rw [answer, reserve_of_not_isFree hfree]
      exact .inr (.inl ⟨by simp, rfl, rfl⟩)
  | find center radius => exact .inr (.inl ⟨by simp, rfl, rfl⟩)
  | claim center radius =>
    cases hfound : a.findFree? center radius with
    | none =>
      rw [answer_claim_of_none hfound]
      exact .inr (.inl ⟨by simp, rfl, rfl⟩)
    | some cell =>
      rw [answer_claim_of_some hfound]
      exact .inl ⟨by simp, cell, isFree_of_findFree? hfound, rfl, rfl⟩
  | reset => exact .inr (.inr ⟨rfl, rfl⟩)

/-! ## Traces -/

/-- The allocator after some requests. -/
def after (a : Allocator) (requests : List Request) : Allocator :=
  requests.foldl (fun a r => (a.answer r).2) a

/-- The events of some requests, one after the other. -/
def trace (a : Allocator) : List Request → List Event
  | [] => []
  | r :: rest => ⟨r, (a.answer r).1⟩ :: (a.answer r).2.trace rest

theorem after_concat (a : Allocator) (requests : List Request) (r : Request) :
    a.after (requests ++ [r]) = ((a.after requests).answer r).2 := by
  rw [after, List.foldl_append]
  rfl

theorem trace_concat (a : Allocator) (requests : List Request) (r : Request) :
    a.trace (requests ++ [r]) = a.trace requests ++ [⟨r, ((a.after requests).answer r).1⟩] := by
  induction requests generalizing a with
  | nil => rfl
  | cons first rest ih =>
    rw [List.cons_append, trace, trace, ih]
    rfl

/-- What an allocator is after a past: over the same mask, and holding what was granted. -/
structure Remembers (mask : Mask) (past : List Event) (a : Allocator) : Prop where
  mask_eq : a.mask = mask
  holds : a.Holds (grants past)

/-- **One more request** is remembered as well. -/
theorem Remembers.answer {mask : Mask} {past : List Event} {a : Allocator}
    (h : Remembers mask past a) (r : Request) :
    Remembers mask (past ++ [⟨r, (a.answer r).1⟩]) (a.answer r).2 := by
  rcases a.answer_cases r with
    ⟨hr, cell, hfree, hgranted, hafter⟩ | ⟨hr, hgranted, hafter⟩ | ⟨rfl, hafter⟩
  · refine ⟨by rw [hafter, mask_take, h.mask_eq], ?_⟩
    rw [hafter, grants_concat_of_ne hr, hgranted]
    exact h.holds.take hfree
  · refine ⟨by rw [hafter, h.mask_eq], ?_⟩
    rw [hafter, grants_concat_of_ne hr, hgranted, Option.toList_none, List.append_nil]
    exact h.holds
  · -- after a reset the past does not count, and nothing is held
    refine ⟨by rw [hafter]; exact h.mask_eq, ?_⟩
    rw [hafter, grants_concat_reset rfl]
    exact holds_ofMask a.mask

/-- **Every trace is remembered.** -/
theorem remembers_after (mask : Mask) (requests : List Request) :
    Remembers mask ((ofMask mask).trace requests) ((ofMask mask).after requests) := by
  -- from the end, as the last reset is looked for from the end
  induction requests using List.reverseRecOn with
  | nil => exact ⟨rfl, holds_ofMask mask⟩
  | append_singleton requests r ih =>
    rw [after_concat, trace_concat]
    exact ih.answer r

/-- No search in a trace finds a cell that cannot be taken then. -/
theorem claimed_ok_of_mem_trace {a : Allocator} {requests : List Request} {e : Event}
    (he : e ∈ a.trace requests) {cell : Cell} {result : Except PlacementError Unit}
    (hreply : e.reply = .claimed (some (cell, result))) : result = .ok () := by
  induction requests generalizing a with
  | nil => cases he
  | cons r rest ih =>
    rw [trace, List.mem_cons] at he
    rcases he with rfl | he
    · cases r with
      | claim center radius =>
        cases hfound : a.findFree? center radius with
        | none =>
          rw [answer_claim_of_none hfound] at hreply
          cases hreply
        | some found =>
          rw [answer_claim_of_some hfound] at hreply
          cases hreply
          rfl
      | _ => simp [answer] at hreply
    · exact ih he

/-! ## Allocators that cannot be told apart -/

/-- The same mask, and the same cells taken. -/
structure Alike (a b : Allocator) : Prop where
  mask_eq : a.mask = b.mask
  isReserved_iff : ∀ c, a.isReserved c = true ↔ b.isReserved c = true

namespace Alike

variable {a b : Allocator}

theorem isFree_eq (h : a.Alike b) : a.isFree = b.isFree := by
  funext c
  rw [isFree, isFree, h.mask_eq, Bool.eq_iff_iff.mpr (h.isReserved_iff c)]

theorem findFree?_eq (h : a.Alike b) (center : Cell) (radius : Nat) :
    a.findFree? center radius = b.findFree? center radius := by
  rw [findFree?, findFree?, searchRings, searchRings, h.mask_eq, h.isFree_eq]

theorem take (h : a.Alike b) (cell : Cell) : (a.take cell).Alike (b.take cell) where
  mask_eq := h.mask_eq
  isReserved_iff c := by rw [isReserved_take, isReserved_take, h.isReserved_iff]

theorem reserve (h : a.Alike b) (cell : Cell) :
    (a.reserve cell).1 = (b.reserve cell).1 ∧ (a.reserve cell).2.Alike (b.reserve cell).2 := by
  by_cases hfree : a.isFree cell = true
  · rw [reserve_of_isFree hfree, reserve_of_isFree (h.isFree_eq ▸ hfree)]
    exact ⟨rfl, h.take cell⟩
  · rw [reserve_of_not_isFree hfree, reserve_of_not_isFree (h.isFree_eq ▸ hfree)]
    exact ⟨rfl, h⟩

/-- They give the same reply, and cannot be told apart after it. -/
theorem answer (h : a.Alike b) (r : Request) :
    (a.answer r).1 = (b.answer r).1 ∧ (a.answer r).2.Alike (b.answer r).2 := by
  cases r with
  | reserve cell =>
    obtain ⟨hresult, hafter⟩ := h.reserve cell
    exact ⟨congrArg Reply.reserved hresult, hafter⟩
  | find center radius => exact ⟨congrArg Reply.found (h.findFree?_eq center radius), h⟩
  | claim center radius =>
    rw [Allocator.answer, Allocator.answer, h.findFree?_eq]
    cases b.findFree? center radius with
    | none => exact ⟨rfl, h⟩
    | some cell =>
      obtain ⟨hresult, hafter⟩ := h.reserve cell
      exact ⟨by dsimp only; rw [hresult], hafter⟩
  | reset => exact ⟨rfl, h.mask_eq, fun c => by simp [Allocator.answer, reset]⟩

theorem trace_eq (h : a.Alike b) (requests : List Request) :
    a.trace requests = b.trace requests := by
  induction requests generalizing a b with
  | nil => rfl
  | cons r rest ih =>
    obtain ⟨hreply, hafter⟩ := h.answer r
    rw [trace, trace, hreply, ih hafter]

end Alike

/-! ## The law of grants -/

/-- What an allocator over a mask says of every cell, when these are the granted ones. -/
structure GrantLaw (mask : Mask) (granted : List Cell) (a : Allocator) : Prop where
  nodup : granted.Nodup
  /-- The taken cells are the granted ones. -/
  isReserved_iff : ∀ c, a.isReserved c = true ↔ c ∈ granted
  /-- The free cells are the land that was not granted. -/
  isFree_iff : ∀ c, a.isFree c = true ↔ mask.isLand c = true ∧ c ∉ granted
  /-- Just the free cells can be taken. -/
  reserve_ok_iff : ∀ c, (a.reserve c).1 = .ok () ↔ a.isFree c = true
  /-- An attempt at another one names it and changes nothing. -/
  reserve_error : ∀ c, ¬ a.isFree c = true → a.reserve c = (.error (.cellUnavailable c), a)
  /-- What a search finds can be taken. -/
  reserve_found : ∀ center radius c, a.findFree? center radius = some c →
    (a.reserve c).1 = .ok ()
  /-- Every grant counts once. -/
  reservedCount_eq : a.reservedCount = granted.length
  /-- There are no more of them than land. -/
  reservedCount_le : a.reservedCount ≤ mask.landCount

theorem Remembers.grantLaw {mask : Mask} {past : List Event} {a : Allocator}
    (h : Remembers mask past a) : GrantLaw mask (grants past) a where
  nodup := h.holds.nodup
  isReserved_iff := h.holds.isReserved_iff
  isFree_iff c := by rw [h.holds.isFree_iff, h.mask_eq]
  reserve_ok_iff c := by
    by_cases hfree : a.isFree c = true
    · rw [reserve_of_isFree hfree]
      exact iff_of_true rfl hfree
    · rw [reserve_of_not_isFree hfree]
      exact iff_of_false (by simp) hfree
  reserve_error _ hfree := reserve_of_not_isFree hfree
  reserve_found _ _ _ hfound := by rw [reserve_of_findFree? hfound]
  reservedCount_eq := h.holds.reservedCount_eq
  reservedCount_le := by
    have hland := h.holds.length_add_length_freeCells
    rw [h.mask_eq] at hland
    rw [h.holds.reservedCount_eq]
    omega

/-- Two pasts that granted the same cells leave allocators that cannot be told apart. -/
theorem Remembers.alike {mask : Mask} {past past' : List Event} {a b : Allocator}
    (ha : Remembers mask past a) (hb : Remembers mask past' b)
    (h : ∀ c, c ∈ grants past ↔ c ∈ grants past') : a.Alike b where
  mask_eq := ha.mask_eq.trans hb.mask_eq.symm
  isReserved_iff c := by rw [ha.holds.isReserved_iff, hb.holds.isReserved_iff, h]

/-- **The trace since the last reset tells it all.** After any requests to an allocator
that started with nothing taken, what it says of every cell is settled by the cells
granted since the last reset. No claim in the trace failed on the cell that its search
found. And any other requests that end with the same cells granted are followed by the
same replies to whatever is asked next. -/
theorem answers_of_grants (mask : Mask) (requests : List Request) :
    GrantLaw mask (grants ((ofMask mask).trace requests)) ((ofMask mask).after requests) ∧
    (∀ e ∈ (ofMask mask).trace requests, ∀ cell result,
      e.reply = .claimed (some (cell, result)) → result = .ok ()) ∧
    ∀ others : List Request,
      (∀ c, c ∈ grants ((ofMask mask).trace others) ↔
        c ∈ grants ((ofMask mask).trace requests)) →
      ∀ next : List Request,
        ((ofMask mask).after others).trace next = ((ofMask mask).after requests).trace next := by
  refine ⟨(remembers_after mask requests).grantLaw, ?_, ?_⟩
  · exact fun _ he _ _ hreply => claimed_ok_of_mem_trace he hreply
  · intro others hgrants next
    exact ((remembers_after mask others).alike (remembers_after mask requests) hgrants).trace_eq
      next

/-- Three cells of land and one of water. -/
def headland : Mask := ⟨2, #[true, false, true, true], rfl⟩

/-- A grant, an attempt at the same cell, a search for another one, a reset, and a
search that ends at the first cell again. -/
def headlandRequests : List Request :=
  [.reserve ⟨0, 0⟩, .reserve ⟨0, 0⟩, .claim ⟨0, 1⟩ 3, .reset, .claim ⟨-1, 0⟩ 1]

/-- After them only the first cell is granted, as it is after that one request alone. -/
theorem answers_of_grants_headland :
    ((ofMask headland).after headlandRequests).reservedCount = 1 ∧
    ((ofMask headland).after headlandRequests).reserve ⟨0, 0⟩ =
      (.error (.cellUnavailable ⟨0, 0⟩), (ofMask headland).after headlandRequests) ∧
    (((ofMask headland).after headlandRequests).reserve ⟨1, 1⟩).1 = .ok () ∧
    ∀ next : List Request,
      ((ofMask headland).after [.reserve ⟨0, 0⟩]).trace next =
        ((ofMask headland).after headlandRequests).trace next := by
  obtain ⟨law, -, same⟩ := answers_of_grants headland headlandRequests
  have hgrants : grants ((ofMask headland).trace headlandRequests) = [⟨0, 0⟩] := by decide
  have hgrants' : grants ((ofMask headland).trace [.reserve ⟨0, 0⟩]) = [⟨0, 0⟩] := by decide
  rw [hgrants] at law
  refine ⟨law.reservedCount_eq, law.reserve_error _ ?_, (law.reserve_ok_iff _).mpr ?_, ?_⟩
  · rw [law.isFree_iff]
    decide
  · rw [law.isFree_iff]
    decide
  · refine same _ ?_
    intro c
    rw [hgrants, hgrants']

end Allocator

end CityScript

/-
How many rings a search goes through, and how many cells it tests.

The search is written once more, for any way of keeping books: it says to which ring
it goes, and it asks for the test of a cell. Where nothing is written down this is
the search itself. With a log of the rings and of the cells it finds the same cell,
and the log shows what was done on the way: the rings up to the first one with a
free cell, and of the whole listing of the search the cells up to the first free
one. Both are beginnings of lists that have nothing twice, and that are not longer
than the grid allows. So neither the radius nor the distance of the centre counts.
-/
import CityScript.Number.Word
import CityScript.Proofs.RingPartition

set_option autoImplicit false

namespace CityScript

/-! ## Up to the first hit -/

section Tested

variable {α : Type} {p : α → Bool} {l : List α}

/-- The entries of a list that are tested until one is a hit, that one included. -/
def testedBy (p : α → Bool) : List α → List α
  | [] => []
  | a :: l => a :: if p a then [] else testedBy p l

/-- The tested entries are the beginning of the list. -/
theorem testedBy_prefix (p : α → Bool) (l : List α) : testedBy p l <+: l := by
  induction l with
  | nil => exact List.prefix_rfl
  | cons a l ih =>
    rw [testedBy, List.prefix_cons_inj]
    split
    · exact List.nil_prefix
    · exact ih

/-- Without a hit everything is tested, and what follows is tested next. -/
theorem testedBy_append_of_find?_eq_none (h : l.find? p = none) (rest : List α) :
    testedBy p (l ++ rest) = l ++ testedBy p rest := by
  induction l with
  | nil => rfl
  | cons a l ih =>
    rw [List.find?_eq_none] at h
    obtain ⟨ha, hl⟩ := List.forall_mem_cons.mp h
    rw [List.cons_append, testedBy, if_neg ha, ih (List.find?_eq_none.mpr hl), List.cons_append]

/-- After a hit nothing is tested. -/
theorem testedBy_append_of_find?_eq_some {a : α} (h : l.find? p = some a) (rest : List α) :
    testedBy p (l ++ rest) = testedBy p l := by
  induction l with
  | nil => cases h
  | cons b l ih =>
    rw [List.cons_append, testedBy, testedBy]
    by_cases hb : p b = true
    · rw [if_pos hb, if_pos hb]
    · rw [List.find?_cons_of_neg hb] at h
      rw [if_neg hb, if_neg hb, ih h]

end Tested

/-! ## The log of a search -/

/-- What a search has done so far: the rings to which it went and the cells that it
tested, in order. -/
structure SearchLog where
  rings : List Nat
  cells : List Cell

namespace SearchLog

/-- Nothing done. -/
def empty : SearchLog := ⟨[], []⟩

/-- Writes down that the search goes to a ring. -/
def visit (d : Nat) : StateM SearchLog Unit :=
  modify fun log => { log with rings := log.rings ++ [d] }

/-- Writes down that a cell is tested, and tests it. -/
def test (isFree : Cell → Bool) (c : Cell) : StateM SearchLog Bool := do
  modify fun log => { log with cells := log.cells ++ [c] }
  return isFree c

@[simp] theorem run_visit (d : Nat) (log : SearchLog) :
    (visit d).run log = pure ((), ⟨log.rings ++ [d], log.cells⟩) := rfl

@[simp] theorem run_test (isFree : Cell → Bool) (c : Cell) (log : SearchLog) :
    (test isFree c).run log = pure (isFree c, ⟨log.rings, log.cells ++ [c]⟩) := rfl

/-- **A list of cells** is tested up to its first hit, and the tests are logged. -/
theorem run_findM?_test (isFree : Cell → Bool) (cells : List Cell) (log : SearchLog) :
    (cells.findM? (test isFree)).run log =
      pure (cells.find? isFree, ⟨log.rings, log.cells ++ testedBy isFree cells⟩) := by
  induction cells generalizing log with
  | nil => simp [testedBy]
  | cons c cells ih =>
    cases hfree : isFree c with
    | true => simp [List.findM?, testedBy, hfree]
    | false => simp [List.findM?, testedBy, hfree, ih]

/-- **Ring after ring** is listed up to the first one with a hit, and the rings and the
tests are logged. -/
theorem run_findSomeM?_visit (isFree : Cell → Bool) (cells : Nat → List Cell) (rings : List Nat)
    (log : SearchLog) :
    (rings.findSomeM? fun d => do
        visit d
        (cells d).findM? (test isFree)).run log =
      pure (rings.findSome? fun d => (cells d).find? isFree,
        ⟨log.rings ++ testedBy (fun d => (cells d).any isFree) rings,
          log.cells ++ testedBy isFree (rings.flatMap cells)⟩) := by
  induction rings generalizing log with
  | nil => simp [testedBy]
  | cons d rings ih =>
    have hany : (cells d).any isFree = ((cells d).find? isFree).isSome := List.isSome_find?.symm
    rw [List.findSome?_cons, List.flatMap_cons, testedBy, hany]
    cases hfind : (cells d).find? isFree with
    | none =>
      -- the whole ring was tested, and the next rings are
      have htested : testedBy isFree (cells d) = cells d := by
        simpa [testedBy] using testedBy_append_of_find?_eq_none hfind []
      rw [testedBy_append_of_find?_eq_none hfind]
      simp [List.findSomeM?, run_findM?_test, hfind, htested, ih]
    | some c =>
      rw [testedBy_append_of_find?_eq_some hfind]
      simp [List.findSomeM?, run_findM?_test, hfind]

/-- What the log of a search may show of a grid: no ring and no cell twice, at most as
many rings as the grid has rows, and only cells of the grid. -/
structure Bounded (size : Nat) (log : SearchLog) : Prop where
  rings_nodup : log.rings.Nodup
  length_rings_le : log.rings.length ≤ size
  cells_nodup : log.cells.Nodup
  cells_subset : log.cells ⊆ gridCells size
  length_cells_le : log.cells.length ≤ size * size

end SearchLog

namespace Allocator

/-- The search for a free cell, with the steps to a ring and the tests of cells left to
whoever keeps the books. -/
def searchWith {m : Type → Type} [Monad m] (a : Allocator) (visit : Nat → m Unit)
    (test : Cell → m Bool) (center : Cell) (radius : Nat) : m (Option Cell) :=
  (a.searchRings center radius).findSomeM? fun (d : Nat) => do
    visit d
    (ring center d a.mask.size).findM? test

/-- **Without books** it is the search for the nearest free cell. -/
theorem searchWith_pure {m : Type → Type} [Monad m] [LawfulMonad m] (a : Allocator)
    (center : Cell) (radius : Nat) :
    a.searchWith (fun _ => pure ()) (fun c => pure (a.isFree c)) center radius =
      (pure (a.findFree? center radius) : m (Option Cell)) := by
  simp only [searchWith, findFree?, pure_bind, List.findM?_pure, List.findSomeM?_pure]

/-- The search with a log of what it does. -/
def searchLogged (a : Allocator) (center : Cell) (radius : Nat) : Option Cell × SearchLog :=
  Id.run ((a.searchWith SearchLog.visit (SearchLog.test a.isFree) center radius).run
    SearchLog.empty)

/-- **What a search does.** It goes to its rings up to the first one with a free cell, and
tests the cells of its listing up to the first free one. The log changes nothing about
what it finds. -/
theorem searchLogged_eq (a : Allocator) (center : Cell) (radius : Nat) :
    a.searchLogged center radius =
      (a.findFree? center radius,
        ⟨testedBy (fun (d : Nat) => (ring center d a.mask.size).any a.isFree)
            (a.searchRings center radius),
          testedBy a.isFree (a.searchCells center radius)⟩) := by
  rw [searchLogged, searchWith, SearchLog.run_findSomeM?_visit]
  rfl

/-- A search looks at no more rings than the grid has rows. -/
theorem length_searchRings_le (a : Allocator) (center : Cell) (radius : Nat) :
    (a.searchRings center radius).length ≤ a.mask.size := by
  unfold searchRings
  split
  · exact Nat.zero_le _
  · next nearest farthest hspan =>
    have hlt := farthest_lt_nearest_add hspan
    rw [List.length_range']
    omega

/-- **Every search is bounded by the grid.** -/
theorem bounded_searchLogged (a : Allocator) (center : Cell) (radius : Nat) :
    (a.searchLogged center radius).2.Bounded a.mask.size := by
  rw [searchLogged_eq]
  have hrings := testedBy_prefix (fun (d : Nat) => (ring center d a.mask.size).any a.isFree)
    (a.searchRings center radius)
  have hcells := testedBy_prefix a.isFree (a.searchCells center radius)
  have hrings_nodup := nodup_of_pairwise (fun _ _ => Nat.lt_asymm)
    (a.searchRings_pairwise center radius)
  have hcells_nodup := Cell.MetBefore.nodup (a.searchCells_pairwise center radius)
  have hgrid : testedBy a.isFree (a.searchCells center radius) ⊆ gridCells a.mask.size := by
    intro c hc
    have hlisted := (a.mem_searchCells center radius c).mp (hcells.subset hc)
    exact mem_gridCells.mpr ((a.mask.inBounds_iff c).mp hlisted.1)
  exact ⟨hrings_nodup.sublist hrings.sublist,
    hrings.length_le.trans (a.length_searchRings_le center radius),
    hcells_nodup.sublist hcells.sublist, hgrid,
    length_le_of_nodup (hcells_nodup.sublist hcells.sublist) hgrid⟩

end Allocator

/-! ## The span of the rings -/

/-- **The span of rings is tight, and it bounds every search.** On a grid with cells the
rings that have cells are those from the first to the last of the span, they are a
partition of the grid, and they are at most as many as the grid has rows. A search is one
program, with a log or without: whatever its radius and wherever its centre, it goes to
at most so many rings and tests no cell twice. -/
theorem ringSpan?_tight {size : Nat} (hsize : 0 < size) (center : Cell) :
    ∃ nearest farthest, ringSpan? center size = some (nearest, farthest) ∧
      (∀ d : Int, ring center d size ≠ [] ↔ nearest ≤ d ∧ d ≤ farthest) ∧
      ((List.range' nearest (farthest + 1 - nearest)).flatMap fun (d : Nat) =>
        ring center d size).Perm (gridCells size) ∧
      (gridCells size).length = size * size ∧
      nearest ≤ farthest ∧ farthest - nearest < size ∧
      ∀ (a : Allocator) (radius : Nat), a.mask.size = size →
        a.searchWith (fun _ => pure ()) (fun c => pure (a.isFree c)) center radius =
            (pure (a.findFree? center radius) : Id (Option Cell)) ∧
          ∃ log, a.searchLogged center radius = (a.findFree? center radius, log) ∧
            log.Bounded size := by
  obtain ⟨nearest, farthest, hspan⟩ := exists_ringSpan? center hsize
  have hle := nearest_le_farthest hspan
  have hlt := farthest_lt_nearest_add hspan
  refine ⟨nearest, farthest, hspan, ring_ne_nil_iff hspan, rings_perm_gridCells hspan,
    length_gridCells size, hle, by omega, ?_⟩
  rintro a radius rfl
  refine ⟨a.searchWith_pure center radius, (a.searchLogged center radius).2, ?_,
    a.bounded_searchLogged center radius⟩
  rw [a.searchLogged_eq center radius]

/-- From a centre a million rows below a grid of four, with the greatest radius there is,
four rings are looked at and the first free cell is in the last row. -/
theorem ringSpan?_tight_distant :
    let center : Cell := ⟨1000000, 0⟩
    let a := Allocator.ofMask (Mask.allLand 4)
    0 < 4 ∧ a.mask.size = 4 ∧ ringSpan? center 4 = some (999997, 1000000) ∧
      (∀ d : Int, ring center d 4 ≠ [] ↔ 999997 ≤ d ∧ d ≤ 1000000) ∧
      ((List.range' 999997 4).flatMap fun (d : Nat) => ring center d 4).Perm (gridCells 4) ∧
      ∃ log, a.searchLogged center maxWord32 = (some ⟨3, 0⟩, log) ∧ log.Bounded 4 := by
  intro center a
  obtain ⟨nearest, farthest, hspan, hring, hperm, -, -, -, hsearch⟩ :=
    ringSpan?_tight (by decide : 0 < 4) center
  have hconcrete : ringSpan? center 4 = some (999997, 1000000) := by decide
  rw [hconcrete] at hspan
  cases hspan
  obtain ⟨-, log, hlog, hbounded⟩ := hsearch a maxWord32 rfl
  have hfound : a.findFree? center maxWord32 = some ⟨3, 0⟩ := by decide +kernel
  rw [hfound] at hlog
  exact ⟨by decide, rfl, hconcrete, hring, hperm, log, hlog, hbounded⟩

end CityScript

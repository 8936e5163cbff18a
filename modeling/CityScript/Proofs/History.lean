/-
Histories: what a world can become by orders, and a session by scripts and resets.

A history is a list, of orders for a world and of changes for a session. Whatever
scripts a session runs, against any catalog and with any registry, its world has
a history of orders: each call that succeeds carries out one of them, and a reset
is the order to clear. So a property of worlds that every order keeps is one of
all sessions.
-/
import CityScript.Proofs.Placing

set_option autoImplicit false

namespace CityScript

/-! ## Worlds -/

namespace World

/-- The world after some orders, whether they succeed or not. -/
def after (w : World) (orders : List Order) : World :=
  orders.foldl (fun w o => (o.run w).2) w

@[simp] theorem after_nil (w : World) : w.after [] = w := rfl

@[simp] theorem after_cons (w : World) (o : Order) (orders : List Order) :
    w.after (o :: orders) = (o.run w).2.after orders := rfl

theorem after_append (w : World) (first later : List Order) :
    w.after (first ++ later) = (w.after first).after later := by
  rw [after, List.foldl_append]
  rfl

/-- **What every order keeps, every history keeps.** -/
theorem after_induction {P : World → Prop} (hstep : ∀ w, P w → ∀ o : Order, P (o.run w).2)
    {w : World} (hstart : P w) (orders : List Order) : P (w.after orders) := by
  induction orders generalizing w with
  | nil => exact hstart
  | cons o orders ih => exact ih (hstep w hstart o)

end World

/-! ## Batches of calls -/

/-- The calls of a batch leave the world as some orders do. -/
theorem Registry.execute_eq_after (registry : Registry) (w : World) (calls : List Call) :
    ∃ orders : List Order, (registry.execute w calls).2 = w.after orders := by
  induction calls generalizing w with
  | nil => exact ⟨[], rfl⟩
  | cons call calls ih =>
    obtain ⟨orders, horders⟩ := ih (registry.step w call).2
    rcases registry.step_eq_run w call with hstep | ⟨order, hstep⟩
    -- a failed call adds no order to the history
    · exact ⟨orders, by rw [execute, horders, hstep]⟩
    · exact ⟨order :: orders, by rw [execute, horders, hstep, World.after_cons]⟩

/-! ## Sessions -/

namespace Session

/-- What changes a session: a script that it runs, or a reset. -/
inductive Change where
  | run (source : String)
  | reset
  deriving DecidableEq, Repr, Inhabited

/-- The session after a change. -/
def change (s : Session) : Change → Session
  | .run source => (s.run source).2
  | .reset => s.reset.2

/-- The session after some changes. -/
def after (s : Session) (changes : List Change) : Session := changes.foldl change s

@[simp] theorem after_nil (s : Session) : s.after [] = s := rfl

@[simp] theorem after_cons (s : Session) (c : Change) (changes : List Change) :
    s.after (c :: changes) = (s.change c).after changes := rfl

/-- A history changes nothing of a session but its world. -/
theorem after_eq_withWorld (s : Session) (changes : List Change) :
    s.after changes = { s with world := (s.after changes).world } := by
  induction changes generalizing s with
  | nil => rfl
  | cons c changes ih =>
    rw [after_cons, ih]
    cases c <;> rfl

/-- A change leaves the world as some orders do. -/
theorem change_eq_after (s : Session) (c : Change) :
    ∃ orders : List Order, (s.change c).world = s.world.after orders := by
  cases c with
  | run source =>
    rw [change, run_snd]
    exact s.registry.execute_eq_after s.world _
  | reset => exact ⟨[.clear], rfl⟩

/-- **The world of a session has a history of orders.** -/
theorem after_eq_after (s : Session) (changes : List Change) :
    ∃ orders : List Order, (s.after changes).world = s.world.after orders := by
  induction changes generalizing s with
  | nil => exact ⟨[], rfl⟩
  | cons c changes ih =>
    obtain ⟨first, hfirst⟩ := s.change_eq_after c
    obtain ⟨later, hlater⟩ := ih (s.change c)
    exact ⟨first ++ later, by rw [after_cons, hlater, hfirst, World.after_append]⟩

end Session

end CityScript

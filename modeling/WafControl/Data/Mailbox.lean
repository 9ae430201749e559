/-!
# Mailboxes

A mailbox holds what was sent to a receiver and not taken yet, in the order of sending. It has room
for so many items, and a sender keeps what does not fit. Taking empties it. A mailbox whose receiver
is gone holds nothing and takes nothing.
-/

namespace WafControl

/-- A queue with room for `capacity` items. -/
structure Mailbox (α : Type) where
  capacity : Nat
  items : List α := []
  /-- Whether there is still somebody to receive. -/
  receiving : Bool := true
  deriving DecidableEq, Repr

namespace Mailbox

variable {α : Type}

def room (m : Mailbox α) : Nat := m.capacity - m.items.length

/-- Puts items at the end as long as there is room; gives the rest. -/
def offer (m : Mailbox α) (xs : List α) : Mailbox α × List α :=
  ({ m with items := m.items ++ xs.take m.room }, xs.drop m.room)

def takeAll (m : Mailbox α) : List α × Mailbox α := (m.items, { m with items := [] })

/-- The receiver goes away. -/
def close (m : Mailbox α) : Mailbox α := { m with items := [], receiving := false }

/-- Offering loses nothing and keeps the order. -/
theorem offer_append (m : Mailbox α) (xs : List α) :
    (m.offer xs).1.items ++ (m.offer xs).2 = m.items ++ xs := by
  simp [offer]

theorem length_offer_lt (m : Mailbox α) (xs : List α) (hr : 0 < m.room) (hx : xs ≠ []) :
    (m.offer xs).2.length < xs.length := by
  have : 0 < xs.length := List.length_pos_iff.mpr hx
  simp only [offer, List.length_drop]
  omega

end Mailbox

end WafControl

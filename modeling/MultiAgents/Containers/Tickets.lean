import MultiAgents.Containers.OrderedMap

/-!
# Numbered values

A value that is added gets the next number and keeps it, so that one which is
removed does not move the others.
-/

namespace Containers

structure Tickets (α : Type) where
  held : OrderedMap Nat α
  issued : Nat
  below : ∀ ticket value, held.get? ticket = some value → ticket < issued

namespace Tickets

variable {α : Type}

def empty : Tickets α := ⟨.empty, 0, fun _ _ found => by cases found⟩

def get? (tickets : Tickets α) (ticket : Nat) : Option α := tickets.held.get? ticket

def add (tickets : Tickets α) (value : α) : Tickets α where
  held := tickets.held.set tickets.issued value
  issued := tickets.issued + 1
  below ticket found isFound := by
    rcases OrderedMap.of_get?_set isFound with ⟨rfl, -⟩ | isFound
    · exact Nat.lt_succ_self _
    · exact Nat.lt_succ_of_lt (tickets.below ticket found isFound)

/-- Another value under a number that has been issued. -/
def change (tickets : Tickets α) (ticket : Nat) (value : α) : Tickets α :=
  if issued : ticket < tickets.issued then
    { tickets with
      held := tickets.held.set ticket value
      below := by
        intro other found isFound
        rcases OrderedMap.of_get?_set isFound with ⟨rfl, -⟩ | isFound
        · exact issued
        · exact tickets.below other found isFound }
  else tickets

def remove (tickets : Tickets α) (ticket : Nat) : Tickets α where
  held := tickets.held.erase ticket
  issued := tickets.issued
  below other found isFound :=
    tickets.below other found (OrderedMap.of_get?_erase isFound).2

@[simp]
theorem get?_add (tickets : Tickets α) (value : α) (ticket : Nat) :
    (tickets.add value).get? ticket =
      if ticket = tickets.issued then some value else tickets.get? ticket :=
  OrderedMap.get?_set _ _ _ _

@[simp]
theorem get?_remove (tickets : Tickets α) (removed ticket : Nat) :
    (tickets.remove removed).get? ticket =
      if ticket = removed then none else tickets.get? ticket :=
  OrderedMap.get?_erase _ _ _

theorem get?_change {tickets : Tickets α} {changed : Nat} {old : α}
    (found : tickets.get? changed = some old) (value : α) (ticket : Nat) :
    (tickets.change changed value).get? ticket =
      if ticket = changed then some value else tickets.get? ticket := by
  unfold change
  rw [dif_pos (tickets.below changed old found)]
  exact OrderedMap.get?_set _ _ _ _

theorem ne_issued {tickets : Tickets α} {ticket : Nat} {value : α}
    (found : tickets.get? ticket = some value) : ticket ≠ tickets.issued :=
  Nat.ne_of_lt (tickets.below ticket value found)

theorem of_get?_remove {tickets : Tickets α} {removed ticket : Nat} {value : α}
    (found : (tickets.remove removed).get? ticket = some value) :
    ticket ≠ removed ∧ tickets.get? ticket = some value :=
  OrderedMap.of_get?_erase found

theorem of_get?_add {tickets : Tickets α} {value found : α} {ticket : Nat}
    (isFound : (tickets.add value).get? ticket = some found) :
    ticket = tickets.issued ∧ found = value ∨ tickets.get? ticket = some found :=
  OrderedMap.of_get?_set isFound

end Tickets

end Containers

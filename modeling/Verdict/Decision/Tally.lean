/-!
# Tallies

`Tally.totals` sums the weights of votes by decision, and `Tally.first` finds the first of the
greatest entries.  Weights may be numbers of any kind: floats when the library runs, exact ones when
its laws are stated.
-/

namespace Verdict

/-- What weights need to be summed, divided and compared. -/
class Amount (α : Type) extends Add α, Div α, LE α, LT α where
  ofCount : Nat → α
  decidableLe : DecidableLE α
  decidableLt : DecidableLT α

instance Amount.instDecidableLe (α : Type) [Amount α] : DecidableLE α := Amount.decidableLe
instance Amount.instDecidableLt (α : Type) [Amount α] : DecidableLT α := Amount.decidableLt

instance : Amount Float where
  ofCount := Float.ofNat
  decidableLe := inferInstance
  decidableLt := inferInstance

namespace Tally

variable {α β : Type}

/-- The first of the entries with the greatest measure. -/
def first [LE α] [DecidableLE α] (measure : β → α) (entries : List β) : Option β :=
  entries.foldl (fun best entry =>
    match best with
    | some held => if measure entry ≤ measure held then some held else some entry
    | none => some entry) none

/-- Adds an amount to the total of a name, which is new at the end if it has none yet. -/
def add [Add α] (name : String) (amount : α) : List (String × α) → List (String × α)
  | [] => [(name, amount)]
  | (key, total) :: rest =>
    if key = name then (key, total + amount) :: rest else (key, total) :: add name amount rest

/-- The totals of the names in order of their first appearance. -/
def totals [Add α] (votes : List (String × α)) : List (String × α) :=
  votes.foldl (fun groups vote => add vote.1 vote.2 groups) []

/-- The sum of amounts from the first one on, nothing for no amount. -/
def sum? [Add α] : List α → Option α
  | [] => none
  | amount :: rest => some (rest.foldl (· + ·) amount)

end Tally
end Verdict

import Colloquy.World.Basic

/-!
# Colloquy.World.Holdings

Items held, and the purse: the coins among them.

* `purse`    — the total worth of a holder's coins.
* `change`   — an amount in coins, as many of the most valuable as fit, then of the next.
* `withdraw`, `deposit` — payments out of and into a purse. A purse is only touched once the change
  is known.
-/

namespace Colloquy.World

def count (w : World) (holder : Ident) (item : String) : Nat :=
  w.holdings holder item

def setCount (w : World) (holder : Ident) (item : String) (n : Nat) : World :=
  { w with holdings := w.holdings.put holder item n }

def give (w : World) (holder : Ident) (item : String) (n : Nat) : World :=
  w.setCount holder item (w.count holder item + n)

def isCoin (w : World) (item : String) : Bool :=
  w.coins.any fun c => c.name == item

/-- Creates items that the catalog lists, or coins. -/
def create (holder : Ident) (item : String) (n : Nat) : Request Refusal Unit := do
  let w ← get
  if allows w.catalog item || w.isCoin item then modify (·.give holder item n)
  else throw (.unknownItem item)

def destroy (holder : Entity) (item : String) (n : Nat) : Request Refusal Unit := do
  let held := (← get).count holder.id item
  if held < n then throw (.tooFew holder.name item held n)
  else modify (·.setCount holder.id item (held - n))

def transfer (giver taker : Entity) (item : String) (n : Nat) : Request Refusal Unit := do
  destroy giver item n
  modify (·.give taker.id item n)

/-! ### Coins -/

/-- Places a coin behind every coin of at least its value. -/
def insertCoin (c : Coin) : List Coin → List Coin
  | [] => [c]
  | d :: ds => if d.value < c.value then c :: d :: ds else d :: insertCoin c ds

def addCoin (w : World) (name : String) (value : Nat) : World :=
  { w with coins := insertCoin ⟨name, value⟩ w.coins }

def purse (w : World) (holder : Ident) : Nat :=
  w.coins.foldr (fun c total => w.count holder c.name * c.value + total) 0

/-- Divides an amount by the value of each coin in turn: how many of each are given, none left out,
and what remains. -/
def divide : List Coin → Nat → Except Crash (List (String × Nat) × Nat)
  | [], amount => .ok ([], amount)
  | c :: cs, amount =>
    if c.value = 0 then .error .divisionByZero
    else
      match divide cs (amount % c.value) with
      | .error e => .error e
      | .ok (given, rest) => .ok ((c.name, amount / c.value) :: given, rest)

/-- An amount in coins. Nothing needs no coins. -/
def change (coins : List Coin) (amount : Nat) : Except Stop (List (String × Nat)) :=
  if amount = 0 then .ok []
  else if coins.isEmpty then .error (.refused .noCoins)
  else
    match divide coins amount with
    | .error e => .error (.crashed e)
    | .ok (given, rest) =>
      if rest = 0 then .ok given else .error (.refused (.noChange amount))

def giveAll (w : World) (holder : Ident) (given : List (String × Nat)) : World :=
  given.foldl (fun w g => w.give holder g.1 g.2) w

def emptyPurse (w : World) (holder : Ident) : World :=
  w.coins.foldl (fun w c => w.setCount holder c.name 0) w

def withdraw (holder : Entity) (amount : Nat) : Request Stop Unit := do
  let w ← get
  let total := w.purse holder.id
  if total < amount then throw (.refused (.tooPoor holder.name total amount))
  else
    let given ← ofExcept (change w.coins (total - amount))
    modify (·.emptyPurse holder.id)
    modify (·.giveAll holder.id given)

def deposit (holder : Ident) (amount : Nat) : Request Stop Unit := do
  let given ← ofExcept (change (← get).coins amount)
  modify (·.giveAll holder given)

end Colloquy.World

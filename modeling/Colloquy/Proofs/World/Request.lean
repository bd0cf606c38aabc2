import Colloquy.World.Holdings
import Colloquy.World.Quest

/-!
# Colloquy.Proofs.World.Request

What the world answers to each request, as one case distinction on the world that is asked. A
request that is refused leaves that world behind, so the case distinctions also say that nothing is
changed before it is known that everything can be.

Change is only ever refused, if every coin is worth something.
-/

namespace Colloquy

namespace Request

variable {ε α β : Type} {q : Request ε α} {w w' : World}

theorem bind_of_ok {a : α} (f : α → Request ε β) (h : q w = .ok a w') : (q >>= f) w = f a w' := by
  simp only [bind, EStateM.bind, h]

theorem bind_of_error {e : ε} (f : α → Request ε β) (h : q w = .error e w') :
    (q >>= f) w = .error e w' := by
  simp only [bind, EStateM.bind, h]

end Request

namespace World

/-- Every coin of the realm is worth something. -/
def CoinsHaveWorth (w : World) : Prop :=
  ∀ c ∈ w.coins, 0 < c.value

instance (w : World) : Decidable w.CoinsHaveWorth :=
  inferInstanceAs (Decidable (∀ c ∈ w.coins, 0 < c.value))

theorem CoinsHaveWorth.of_coins_eq {w w' : World} (h : w.CoinsHaveWorth)
    (hcoins : w'.coins = w.coins) : w'.CoinsHaveWorth := by
  rw [CoinsHaveWorth, hcoins]
  exact h

theorem signal_eq (id : Int64) (state : Bool) (source : Ident) (w : World) :
    signal id state source w =
      if allows w.wired id = true then .ok () { w with fired := w.fired ++ [⟨id, state, source⟩] }
      else .error (.notWired id) w := by
  change (if allows w.wired id = true then _ else _ : Request Refusal Unit) w = _
  split <;> rfl

theorem destroy_eq (holder : Entity) (item : String) (n : Nat) (w : World) :
    destroy holder item n w =
      if w.count holder.id item < n then
        .error (.tooFew holder.name item (w.count holder.id item) n) w
      else .ok () (w.setCount holder.id item (w.count holder.id item - n)) := by
  change (if w.count holder.id item < n then _ else _ : Request Refusal Unit) w = _
  split <;> rfl

theorem transfer_eq (giver taker : Entity) (item : String) (n : Nat) (w : World) :
    transfer giver taker item n w =
      if w.count giver.id item < n then
        .error (.tooFew giver.name item (w.count giver.id item) n) w
      else .ok () ((w.setCount giver.id item (w.count giver.id item - n)).give taker.id item n) := by
  unfold transfer
  split
  · rename_i hfew
    exact Request.bind_of_error _ (by rw [destroy_eq, if_pos hfew])
  · rename_i hfew
    exact Request.bind_of_ok _ (by rw [destroy_eq, if_neg hfew])

theorem withdraw_eq (holder : Entity) (amount : Nat) (w : World) :
    withdraw holder amount w =
      if w.purse holder.id < amount then
        .error (.refused (.tooPoor holder.name (w.purse holder.id) amount)) w
      else
        match change w.coins (w.purse holder.id - amount) with
        | .error e => .error e w
        | .ok given => .ok () ((w.emptyPurse holder.id).giveAll holder.id given) := by
  change (if w.purse holder.id < amount then _ else _ : Request Stop Unit) w = _
  split
  · rfl
  · cases h : change w.coins (w.purse holder.id - amount) <;> rfl

theorem deposit_eq (holder : Ident) (amount : Nat) (w : World) :
    deposit holder amount w =
      match change w.coins amount with
      | .error e => .error e w
      | .ok given => .ok () (w.giveAll holder given) := by
  change (ofExcept (change w.coins amount) >>= fun given => modify (·.giveAll holder given) :
    Request Stop Unit) w = _
  cases change w.coins amount <;> rfl

theorem value_startQuest (actor : Entity) (quest : String) (stage : UInt32) (w : World) :
    (w.startQuest actor quest stage).value =
      if allows w.knownQuests quest = true then .ok () (w.putStage actor.id quest stage)
      else .error (.unknownQuest quest) w := by
  unfold startQuest
  split <;> rfl

theorem setStage_eq (actor : Entity) (quest : String) (stage : UInt32) (w : World) :
    setStage actor quest stage w =
      match w.stage? actor.id quest with
      | none => .error (.questNotStarted quest actor.name) w
      | some _ => .ok () (w.putStage actor.id quest stage) := by
  change (match w.stage? actor.id quest with
    | none => throw (.questNotStarted quest actor.name)
    | some _ => modify (·.putStage actor.id quest stage) : Request Refusal Unit) w = _
  cases w.stage? actor.id quest <;> rfl

/-! ### Coins -/

theorem coins_giveAll (w : World) (holder : Ident) (given : List (String × Nat)) :
    (w.giveAll holder given).coins = w.coins := by
  induction given generalizing w with
  | nil => rfl
  | cons g rest ih => exact ih (w.give holder g.1 g.2)

theorem coins_emptyPurse (w : World) (holder : Ident) :
    (w.emptyPurse holder).coins = w.coins := by
  have hfold : ∀ (cs : List Coin) (w : World),
      (cs.foldl (fun w c => w.setCount holder c.name 0) w).coins = w.coins := by
    intro cs
    induction cs with
    | nil => exact fun _ => rfl
    | cons c cs ih => exact fun w => ih (w.setCount holder c.name 0)
  exact hfold w.coins w

theorem exists_giveAll_eq (w : World) (holder : Ident) (given : List (String × Nat)) :
    ∃ holdings, w.giveAll holder given = { w with holdings := holdings } := by
  induction given generalizing w with
  | nil => exact ⟨w.holdings, rfl⟩
  | cons g rest ih =>
    obtain ⟨holdings, h⟩ := ih (w.give holder g.1 g.2)
    exact ⟨holdings, h⟩

theorem exists_emptyPurse_eq (w : World) (holder : Ident) :
    ∃ holdings, w.emptyPurse holder = { w with holdings := holdings } := by
  have hfold : ∀ (cs : List Coin) (w : World), ∃ holdings,
      cs.foldl (fun w c => w.setCount holder c.name 0) w = { w with holdings := holdings } := by
    intro cs
    induction cs with
    | nil => exact fun w => ⟨w.holdings, rfl⟩
    | cons c cs ih =>
      intro w
      obtain ⟨holdings, h⟩ := ih (w.setCount holder c.name 0)
      exact ⟨holdings, h⟩
  exact hfold w.coins w

theorem divide_eq_error {coins : List Coin} {amount : Nat} {e : Crash}
    (h : divide coins amount = .error e) : ∃ c ∈ coins, c.value = 0 := by
  induction coins generalizing amount with
  | nil => cases h
  | cons c cs ih =>
    rw [divide] at h
    split at h
    · rename_i hzero
      exact ⟨c, List.mem_cons_self, hzero⟩
    · split at h
      · rename_i hrest
        obtain ⟨d, hd, hzero⟩ := ih hrest
        exact ⟨d, List.mem_cons_of_mem _ hd, hzero⟩
      · cases h

/-- Change is refused and never fails in another way, unless there is a worthless coin. -/
theorem change_eq_crashed {coins : List Coin} {amount : Nat} {e : Crash}
    (h : change coins amount = .error (.crashed e)) : ∃ c ∈ coins, c.value = 0 := by
  rw [change] at h
  split at h
  · cases h
  · split at h
    · cases h
    · split at h
      · rename_i hdivide
        exact divide_eq_error hdivide
      · split at h
        · cases h
        · cases h

theorem not_coinsHaveWorth_iff {w : World} : ¬w.CoinsHaveWorth ↔ ∃ c ∈ w.coins, c.value = 0 := by
  simp [CoinsHaveWorth]

theorem mem_insertCoin {c d : Coin} {ds : List Coin} : d ∈ insertCoin c ds ↔ d = c ∨ d ∈ ds := by
  induction ds with
  | nil => simp [insertCoin]
  | cons e ds ih =>
    rw [insertCoin]
    split
    · simp
    · rw [List.mem_cons, ih, List.mem_cons]
      exact or_left_comm

/-- Worth is lost only by a coin of no value. -/
theorem coinsHaveWorth_addCoin {w : World} {name : String} {value : Nat} :
    (w.addCoin name value).CoinsHaveWorth ↔ 0 < value ∧ w.CoinsHaveWorth := by
  simp [CoinsHaveWorth, addCoin, mem_insertCoin]

theorem divide_eq_error_iff {coins : List Coin} {amount : Nat} {e : Crash} :
    divide coins amount = .error e ↔ ∃ c ∈ coins, c.value = 0 := by
  constructor
  · exact divide_eq_error
  · induction coins generalizing amount with
    | nil => simp
    | cons c cs ih =>
      rintro ⟨d, hd, hzero⟩
      rw [divide]
      split
      · cases e
        rfl
      · rename_i hworth
        rcases List.mem_cons.mp hd with rfl | hd
        · exact absurd hzero hworth
        · rw [ih ⟨d, hd, hzero⟩]

theorem change_eq_crashed_iff {coins : List Coin} {amount : Nat} {e : Crash} :
    change coins amount = .error (.crashed e) ↔ amount ≠ 0 ∧ ∃ c ∈ coins, c.value = 0 := by
  constructor
  · intro h
    refine ⟨?_, change_eq_crashed h⟩
    rintro rfl
    cases h
  · rintro ⟨hamount, c, hc, hzero⟩
    have hcoins : coins.isEmpty = false := by
      rw [List.isEmpty_eq_false_iff]
      exact List.ne_nil_of_mem hc
    have hdivide : divide coins amount = .error e := divide_eq_error_iff.mpr ⟨c, hc, hzero⟩
    simp [change, hamount, hcoins, hdivide]

end World

end Colloquy

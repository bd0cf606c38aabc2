import Colloquy.Proofs.Dialogue.Conservation
import Colloquy.Proofs.World.Change

/-!
# Colloquy.Proofs.Dialogue.Taking

Conditions on what the actor has, against effects that take it.

* `Effect.takeItem_eq_done_iff`, `Effect.takeCurrency_eq_done_iff` — when taking succeeds, and what
  world it leaves.
* `TakesAsChecked` — taking succeeds just when the condition on as many holds, and takes as many.
* `taking_agrees_with_checking` — it does so for items, and for currency if a coin is worth one.
-/

namespace Colloquy

/-! ### What taking comes to -/

namespace Effect

variable {sc : Scene} {w w' : World} {item : String} {n : UInt64}

theorem quantityTaken_currency (hitem : item = sc.settings.currencyItem) (n : UInt64) :
    quantityTaken sc w item n = if n = 0 then w.purse sc.actor.id else n.toNat := by
  rw [quantityTaken, if_pos hitem, ite_not]

theorem takeItem_eq_done_iff (hitem : item ≠ sc.settings.currencyItem) :
    (apply sc w (.takeItem item n)).value = .done w' ↔
      quantityTaken sc w item n ≠ 0 ∧ quantityTaken sc w item n ≤ w.count sc.actor.id item ∧
      w' = w.setCount sc.actor.id item (w.count sc.actor.id item - quantityTaken sc w item n) := by
  rw [apply, value_applyTakeItem]
  dsimp only
  rw [if_neg hitem]
  split
  · rename_i hnone
    simp [hnone]
  · rename_i hsome
    split
    · rename_i hfew
      simp only [reduceCtorEq, false_iff]
      omega
    · rename_i hheld
      simp [hsome, Nat.le_of_not_lt hheld, eq_comm]

theorem takeCurrency_eq_done_iff (hitem : item = sc.settings.currencyItem) :
    (apply sc w (.takeItem item n)).value = .done w' ↔
      quantityTaken sc w item n ≠ 0 ∧
      World.withdraw sc.actor (quantityTaken sc w item n) w = .ok () w' := by
  rw [apply]
  unfold applyTakeItem
  dsimp only
  split
  · rename_i hnone
    simp [hnone]
  · rename_i hsome
    rw [value_settled, and_iff_right hsome]
    cases World.withdraw sc.actor (quantityTaken sc w item n) w with
    | ok u v => simp
    | error stop v => cases stop <;> simp

end Effect

theorem World.le_purse_of_withdraw {w w' : World} {holder : Entity} {amount : Nat}
    (h : withdraw holder amount w = .ok () w') : amount ≤ w.purse holder.id := by
  rw [withdraw_eq] at h
  split at h
  · cases h
  · rename_i hpoor
    exact Nat.le_of_not_lt hpoor

/-! ### Checks -/

namespace Dialogue

variable {d : Dialogue} {conv : Conversation} {w w' : World} {item : String} {n : UInt64}

theorem item_holds_of_ne (hitem : item ≠ d.settings.currencyItem) :
    ((Condition.item item n).holds (d.outlook w conv)).value = true ↔
      n.toNat ≤ w.count conv.actor.id item := by
  have hheld : (d.outlook w conv).held item = w.count conv.actor.id item := if_neg hitem
  simp [Condition.holds, hheld]

theorem currency_holds_iff (hitem : item = d.settings.currencyItem) :
    ((Condition.item item n).holds (d.outlook w conv)).value = true ↔
      n.toNat ≤ w.purse conv.actor.id := by
  have hheld : (d.outlook w conv).held item = w.purse conv.actor.id := if_pos hitem
  simp [Condition.holds, hheld]

/-- What must be there at least when `n` are to be taken: one, if `n` is zero and stands for all. -/
def atLeast (n : UInt64) : UInt64 :=
  if n = 0 then 1 else n

theorem atLeast_le_iff (n : UInt64) (held : Nat) :
    (atLeast n).toNat ≤ held ↔
      (if n = 0 then held else n.toNat) ≠ 0 ∧ (if n = 0 then held else n.toNat) ≤ held := by
  unfold atLeast
  split
  · simp [Nat.one_le_iff_ne_zero]
  · rename_i hn
    have hpos : n.toNat ≠ 0 := fun hzero => hn (UInt64.toNat_inj.mp hzero)
    simp [hpos]

/-- Taking succeeds if and only if the condition holds on as many, or on one if all are taken. What
the actor has of them is then less by that number, or nothing. -/
structure TakesAsChecked (d : Dialogue) (conv : Conversation) (r : HookedRule) (w : World)
    (item : String) (n : UInt64) (held : World → Nat) : Prop where
  done_iff : (∃ w', (Effect.apply (d.scene conv r) w (.takeItem item n)).value = .done w') ↔
    ((Condition.item item (atLeast n)).holds (d.outlook w conv)).value = true
  some : n ≠ 0 → ∀ w', (Effect.apply (d.scene conv r) w (.takeItem item n)).value = .done w' →
    held w' + n.toNat = held w
  all : n = 0 → ∀ w', (Effect.apply (d.scene conv r) w (.takeItem item n)).value = .done w' →
    held w' = 0

variable {r : HookedRule}

/-- It is so if the condition compares with what is held, and taking fails only for want of it and
leaves the difference. -/
theorem TakesAsChecked.of_left {held : World → Nat} (left : Nat → World)
    (hholds : ∀ m : UInt64, ((Condition.item item m).holds (d.outlook w conv)).value = true ↔
      m.toNat ≤ held w)
    (hdone : ∀ w', (Effect.apply (d.scene conv r) w (.takeItem item n)).value = .done w' ↔
      (if n = 0 then held w else n.toNat) ≠ 0 ∧ (if n = 0 then held w else n.toNat) ≤ held w ∧
      w' = left (held w - if n = 0 then held w else n.toNat))
    (hleft : ∀ k, held (left k) = k) : TakesAsChecked d conv r w item n held where
  done_iff := by
    rw [hholds, atLeast_le_iff]
    constructor
    · rintro ⟨w', h⟩
      obtain ⟨hsome, hle, -⟩ := (hdone w').mp h
      exact ⟨hsome, hle⟩
    · rintro ⟨hsome, hle⟩
      exact ⟨_, (hdone _).mpr ⟨hsome, hle, rfl⟩⟩
  some hn w' h := by
    obtain ⟨-, hle, rfl⟩ := (hdone w').mp h
    rw [if_neg hn] at hle ⊢
    rw [hleft, Nat.sub_add_cancel hle]
  all hn w' h := by
    obtain ⟨-, -, rfl⟩ := (hdone w').mp h
    rw [if_pos hn, hleft, Nat.sub_self]

theorem takesAsChecked_item (hitem : item ≠ d.settings.currencyItem) :
    TakesAsChecked d conv r w item n fun w => w.count conv.actor.id item := by
  refine .of_left (w.setCount conv.actor.id item) (fun m => item_holds_of_ne hitem)
    (fun w' => ?_) fun k => Table.put_same _ _ _ _
  rw [Effect.takeItem_eq_done_iff hitem, Effect.quantityTaken_of_ne hitem]
  rfl

/-- With a coin of one in the realm, every rest of a purse can be given back. -/
theorem takesAsChecked_currency (hitem : item = d.settings.currencyItem)
    (hnames : (w.coins.map (·.name)).Nodup) (hw : w.CoinsHaveWorth)
    (hone : ∃ c ∈ w.coins, c.value = 1) :
    TakesAsChecked d conv r w item n fun w => w.purse conv.actor.id := by
  have hrest : ∀ amount, World.leftOver w.coins amount = 0 := by
    intro amount
    obtain ⟨c, hc, hvalue⟩ := hone
    refine World.leftOver_eq_zero_of_dvd hc (fun d _ => ?_) ?_
    · rw [hvalue]
      exact Nat.one_dvd d.value
    · rw [hvalue]
      exact Nat.one_dvd amount
  refine .of_left (fun k => w.setPurse conv.actor.id fun name => World.pieces name w.coins k)
    (fun m => currency_holds_iff hitem) (fun w' => ?_) fun k => ?_
  · rw [Effect.takeCurrency_eq_done_iff hitem, Effect.quantityTaken_currency hitem,
      World.withdraw_eq_ok_iff hw]
    simp only [hrest, true_and]
    rfl
  · rw [World.purse_setPurse, World.worth_pieces_of_nodup hw hnames (hrest k)]

/-- Taking an item succeeds just when the condition on it holds, and takes what was checked for. So
does taking currency, if the coins have names of their own and some worth, and one of them is worth
one. Taking currency never succeeds where the condition fails, whatever the coins. -/
theorem taking_agrees_with_checking (d : Dialogue) (conv : Conversation) (r : HookedRule)
    (w : World) (item : String) (n : UInt64) :
    (item ≠ d.settings.currencyItem →
      TakesAsChecked d conv r w item n fun w => w.count conv.actor.id item) ∧
    (item = d.settings.currencyItem →
      ((w.coins.map (·.name)).Nodup → w.CoinsHaveWorth → (∃ c ∈ w.coins, c.value = 1) →
        TakesAsChecked d conv r w item n fun w => w.purse conv.actor.id) ∧
      ∀ w', (Effect.apply (d.scene conv r) w (.takeItem item n)).value = .done w' →
        ((Condition.item item (atLeast n)).holds (d.outlook w conv)).value = true) := by
  refine ⟨takesAsChecked_item, fun hitem => ⟨takesAsChecked_currency hitem, fun w' h => ?_⟩⟩
  obtain ⟨hsome, hpaid⟩ := (Effect.takeCurrency_eq_done_iff hitem).mp h
  have hle := World.le_purse_of_withdraw hpaid
  rw [Effect.quantityTaken_currency hitem] at hsome hle
  rw [currency_holds_iff hitem, atLeast_le_iff]
  exact ⟨hsome, hle⟩

/-- Of two crowns three pence are taken, and seventeen are left; of five torches all are taken. In a
realm of crowns alone ten are taken where ten are checked for. -/
theorem taking_agrees_with_checking_fare :
    let ada : Entity := ⟨⟨7#128⟩, "ada"⟩
    let conv : Conversation := ⟨ada, ⟨⟨8#128⟩, "gork"⟩, "hall"⟩
    let r := Rule.plain ⟨["*"], ["Well."], [], []⟩
    let d : Dialogue := { rules := [r] }
    let held : String → Nat := fun item =>
      match item with
      | "crown" => 2
      | "torch" => 5
      | _ => 0
    let w : World :=
      { holdings := fun o item => if o = ada.id then held item else 0
        coins := [⟨"crown", 10⟩, ⟨"penny", 1⟩] }
    let crowns : World := { w with coins := [⟨"crown", 10⟩] }
    "torch" ≠ d.settings.currencyItem ∧ "money" = d.settings.currencyItem ∧
    (w.coins.map (·.name)).Nodup ∧ w.CoinsHaveWorth ∧ (∃ c ∈ w.coins, c.value = 1) ∧
    (∃ w', (Effect.apply (d.scene conv r) w (.takeItem "money" 3)).value = .done w' ∧
      w'.purse ada.id = 17) ∧
    (∃ w', (Effect.apply (d.scene conv r) w (.takeItem "torch" 0)).value = .done w' ∧
      w'.count ada.id "torch" = 0) ∧
    (∃ w', (Effect.apply (d.scene conv r) crowns (.takeItem "money" 10)).value = .done w') ∧
    ((Condition.item "money" 10).holds (d.outlook crowns conv)).value = true := by
  intro ada conv r d held w crowns
  have hitem : "torch" ≠ d.settings.currencyItem := by decide
  have hnames : (w.coins.map (·.name)).Nodup := by decide
  have hworth : w.CoinsHaveWorth := by decide
  have hone : ∃ c ∈ w.coins, c.value = 1 := by decide
  have htorch := (taking_agrees_with_checking d conv r w "torch" 0).1 hitem
  have hmoney := ((taking_agrees_with_checking d conv r w "money" 3).2 rfl).1 hnames hworth hone
  have hchecked := ((taking_agrees_with_checking d conv r crowns "money" 10).2 rfl).2
  obtain ⟨three, hthree⟩ := hmoney.done_iff.mpr (by decide)
  obtain ⟨none, hnone⟩ := htorch.done_iff.mpr (by decide)
  have hten : (Effect.apply (d.scene conv r) crowns (.takeItem "money" 10)).value = .done _ :=
    (Effect.takeCurrency_eq_done_iff rfl).mpr ⟨by decide,
      (World.withdraw_eq_ok_iff (by decide) ada).mpr ⟨by decide, by decide, rfl⟩⟩
  refine ⟨hitem, rfl, hnames, hworth, hone, ⟨three, hthree, ?_⟩,
    ⟨none, hnone, htorch.all rfl none hnone⟩, ⟨_, hten⟩, hchecked _ hten⟩
  have hpurse : three.purse ada.id + 3 = 20 := hmoney.some (by decide) three hthree
  omega

end Dialogue

end Colloquy

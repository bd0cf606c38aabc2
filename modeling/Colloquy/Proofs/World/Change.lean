import Colloquy.Proofs.World.Purse
import Mathlib.Data.Finset.Max

/-!
# Colloquy.Proofs.World.Change

Amounts that can be laid out in coins, against amounts that change is made for.

* `Expressible`  — the amount is a sum of coins, each taken as often as one likes.
* `HasBaseCoin`  — every coin is worth a whole number of one of them.
* `change_complete_iff_base_coin` — change is made for every amount that can be laid out if and only
  if there is a base coin. Otherwise it is refused just above the most valuable coin, for an amount
  that this coin leads astray.
-/

namespace Colloquy.World

inductive Expressible (coins : List Coin) : Nat → Prop where
  | nothing : Expressible coins 0
  | coin {c : Coin} {rest : Nat} (hc : c ∈ coins) (h : Expressible coins rest) :
      Expressible coins (c.value + rest)

/-- Every coin is worth a whole number of one of them. Without coins none is needed. -/
def HasBaseCoin (coins : List Coin) : Prop :=
  coins = [] ∨ ∃ base ∈ coins, ∀ c ∈ coins, base.value ∣ c.value

instance (coins : List Coin) : Decidable (HasBaseCoin coins) :=
  inferInstanceAs (Decidable (_ ∨ _))

variable {coins cs : List Coin} {c d : Coin} {amount n : Nat}

namespace Expressible

theorem mono (h : Expressible cs amount) (hsub : ∀ c ∈ cs, c ∈ coins) :
    Expressible coins amount := by
  induction h with
  | nothing => exact .nothing
  | coin hc _ ih => exact .coin (hsub _ hc) ih

theorem add_mul (h : Expressible coins amount) (hc : c ∈ coins) (k : Nat) :
    Expressible coins (amount + k * c.value) := by
  induction k with
  | zero => simpa using h
  | succ k ih =>
    have hnext : amount + (k + 1) * c.value = c.value + (amount + k * c.value) := by
      rw [Nat.succ_mul]
      omega
    rw [hnext]
    exact .coin hc ih

theorem of_mem (hc : c ∈ coins) : Expressible coins c.value :=
  .coin hc .nothing

/-- What measures every coin measures every amount that can be laid out. -/
theorem dvd (h : Expressible coins amount) (hdvd : ∀ c ∈ coins, n ∣ c.value) : n ∣ amount := by
  induction h with
  | nothing => exact Nat.dvd_zero n
  | coin hc _ ih => exact Nat.dvd_add (hdvd _ hc) ih

theorem of_leftOver (h : leftOver coins amount = 0) : Expressible coins amount := by
  induction coins generalizing amount with
  | nil =>
    obtain rfl : amount = 0 := h
    exact .nothing
  | cons c cs ih =>
    have hrest : Expressible (c :: cs) (amount % c.value) :=
      (ih h).mono fun d hd => List.mem_cons_of_mem c hd
    rw [← Nat.mod_add_div' amount c.value]
    exact hrest.add_mul List.mem_cons_self (amount / c.value)

end Expressible

/-! ### With a base coin -/

/-- From the base coin on nothing remains of an amount that the base coin measures. -/
theorem leftOver_eq_zero_of_dvd (hc : c ∈ coins) (hdvd : ∀ d ∈ coins, c.value ∣ d.value)
    (hamount : c.value ∣ amount) : leftOver coins amount = 0 := by
  induction coins generalizing amount with
  | nil => cases hc
  | cons d ds ih =>
    obtain ⟨hd, hds⟩ := List.forall_mem_cons.mp hdvd
    rw [leftOver_cons]
    rcases List.mem_cons.mp hc with rfl | hc
    · rw [Nat.mod_eq_zero_of_dvd hamount, leftOver_zero]
    · exact ih hc hds ((Nat.dvd_mod_iff hd).mpr hamount)

theorem leftOver_eq_zero_iff_of_hasBaseCoin (hbase : HasBaseCoin coins) (amount : Nat) :
    leftOver coins amount = 0 ↔ Expressible coins amount := by
  refine ⟨Expressible.of_leftOver, fun h => ?_⟩
  rcases hbase with rfl | ⟨base, hmem, hdvd⟩
  · cases h with
    | nothing => rfl
    | coin hc _ => cases hc
  · exact leftOver_eq_zero_of_dvd hmem hdvd (h.dvd hdvd)

/-! ### Without one -/

theorem leftOver_of_lt (h : ∀ c ∈ coins, amount < c.value) : leftOver coins amount = amount := by
  induction coins with
  | nil => rfl
  | cons c cs ih =>
    obtain ⟨hc, hcs⟩ := List.forall_mem_cons.mp h
    rw [leftOver_cons, Nat.mod_eq_of_lt hc, ih hcs]

/-- What exceeds the most valuable coin by less than any coin is worth stays unchanged once that
coin is given. -/
theorem leftOver_above {top : Coin} (hleast : ∀ c ∈ top :: cs, n ≤ c.value)
    (hlow : top.value < amount) (hhigh : amount < top.value + n) :
    leftOver (top :: cs) amount ≠ 0 := by
  obtain ⟨htop, hcs⟩ := List.forall_mem_cons.mp hleast
  have hone : amount % top.value = amount - top.value := by
    rw [Nat.mod_eq_sub_mod (Nat.le_of_lt hlow), Nat.mod_eq_of_lt (by omega)]
  have hsmall : ∀ c ∈ cs, amount - top.value < c.value := by
    intro c hc
    have hle := hcs c hc
    omega
  rw [leftOver_cons, hone, leftOver_of_lt hsmall]
  omega

/-- If change is never refused for amounts that can be laid out, the least coin measures the
distance from each of them to the most valuable coin. -/
theorem dvd_sub_of_complete {top : Coin} (hc : c ∈ top :: cs)
    (hleast : ∀ d ∈ top :: cs, c.value ≤ d.value) (hpos : 0 < c.value)
    (hcomplete : ∀ n, Expressible (top :: cs) n → leftOver (top :: cs) n = 0)
    (h : Expressible (top :: cs) amount) (hle : amount ≤ top.value) :
    c.value ∣ top.value - amount := by
  apply Nat.dvd_of_mod_eq_zero
  apply Nat.eq_zero_of_not_pos
  intro hrest
  -- least coins are added until the sum exceeds the top coin, by less than one of them
  have hlt : (top.value - amount) % c.value < c.value := Nat.mod_lt _ hpos
  have hsplit : (top.value - amount) / c.value * c.value + (top.value - amount) % c.value =
      top.value - amount := Nat.div_add_mod' _ _
  have hsum := h.add_mul hc ((top.value - amount) / c.value + 1)
  refine leftOver_above hleast ?_ ?_ (hcomplete _ hsum)
  · rw [Nat.succ_mul]
    omega
  · rw [Nat.succ_mul]
    omega

theorem hasBaseCoin_of_complete (hfalling : Falling coins) (hworth : ∀ c ∈ coins, 0 < c.value)
    (hcomplete : ∀ n, Expressible coins n → leftOver coins n = 0) : HasBaseCoin coins := by
  cases coins with
  | nil => exact .inl rfl
  | cons top cs =>
    obtain ⟨c, hc, hleast⟩ := (top :: cs).toFinset.exists_min_image (·.value)
      ⟨top, List.mem_toFinset.mpr List.mem_cons_self⟩
    simp only [List.mem_toFinset] at hc hleast
    have hdvd : ∀ {n}, Expressible (top :: cs) n → n ≤ top.value → c.value ∣ top.value - n :=
      fun h hle => dvd_sub_of_complete hc hleast (hworth c hc) hcomplete h hle
    have htop : c.value ∣ top.value := hdvd .nothing (Nat.zero_le _)
    refine .inr ⟨c, hc, fun d hd => ?_⟩
    have hle : d.value ≤ top.value := by
      rcases List.mem_cons.mp hd with rfl | hd
      · exact Nat.le_refl _
      · exact List.rel_of_pairwise_cons hfalling hd
    exact (Nat.dvd_sub_iff_right hle htop).mp (hdvd (.of_mem hd) hle)

/-! ### Registries of any kind -/

/-- Change is refused only for amounts that cannot be laid out, if and only if there is a base coin.
With one, a deposit is refused exactly for amounts that cannot be laid out, and a withdrawal exactly
if the purse holds too little or its rest cannot be laid out. Amounts that cannot be laid out are
refused in any case. -/
theorem change_complete_iff_base_coin (w₀ : World) (hnone : w₀.coins = []) (minted : List Coin)
    (hworth : ∀ c ∈ minted, 0 < c.value) :
    let w := w₀.addCoins minted
    ((∀ amount, (∃ stop, change w.coins amount = .error stop) → ¬Expressible w.coins amount) ↔
      HasBaseCoin w.coins) ∧
    (∀ amount, ¬Expressible w.coins amount → ∃ stop, change w.coins amount = .error stop) ∧
    (HasBaseCoin w.coins → ∀ (holder : Entity) (amount : Nat),
      ((∃ stop w', deposit holder.id amount w = .error stop w') ↔
        ¬Expressible w.coins amount) ∧
      ((∃ stop w', withdraw holder amount w = .error stop w') ↔
        w.purse holder.id < amount ∨ ¬Expressible w.coins (w.purse holder.id - amount))) := by
  intro w
  have hranks : Ranks minted w.coins := ranks_addCoins hnone minted
  have hw : w.CoinsHaveWorth := hranks.coinsHaveWorth hworth
  refine ⟨⟨fun honly => ?_, fun hbase amount hfails => ?_⟩, fun amount hnot => ?_,
    fun hbase holder amount => ⟨?_, ?_⟩⟩
  · refine hasBaseCoin_of_complete hranks.falling hw fun n hn => ?_
    apply Decidable.byContradiction
    intro hrest
    exact honly n ((change_fails_iff hw n).mpr hrest) hn
  · rw [← leftOver_eq_zero_iff_of_hasBaseCoin hbase]
    exact (change_fails_iff hw amount).mp hfails
  · exact (change_fails_iff hw amount).mpr fun hrest => hnot (.of_leftOver hrest)
  · rw [deposit_fails_iff hw, ← leftOver_eq_zero_iff_of_hasBaseCoin hbase]
  · rw [withdraw_fails_iff hw, ← leftOver_eq_zero_iff_of_hasBaseCoin hbase]

/-- Half groats measure every coin, though a crown does not measure a noble: two crowns are given as
a noble and ten groats, and only odd amounts are refused. -/
theorem change_complete_iff_base_coin_groats :
    let ada : Entity := ⟨⟨7#128⟩, "ada"⟩
    let minted : List Coin := [⟨"groat", 4⟩, ⟨"noble", 80⟩, ⟨"half groat", 2⟩, ⟨"crown", 60⟩]
    let w := World.addCoins {} minted
    ({} : World).coins = [] ∧ (∀ c ∈ minted, 0 < c.value) ∧ HasBaseCoin w.coins ∧
    (∀ amount, (∃ stop, change w.coins amount = .error stop) → ¬Expressible w.coins amount) ∧
    Expressible w.coins 120 ∧ (¬∃ stop w', deposit ada.id 120 w = .error stop w') ∧
    ∃ stop w', deposit ada.id 121 w = .error stop w' := by
  intro ada minted w
  have hworth : ∀ c ∈ minted, 0 < c.value := by decide
  have hbase : HasBaseCoin w.coins := by decide
  obtain ⟨hcomplete, -, hpayments⟩ := change_complete_iff_base_coin {} rfl minted hworth
  have hcrown : (⟨"crown", 60⟩ : Coin) ∈ w.coins := by decide
  have htwo : Expressible w.coins 120 := .coin hcrown (.coin hcrown .nothing)
  have hodd : ¬Expressible w.coins 121 := by
    intro h
    have heven : 2 ∣ 121 := h.dvd (by decide)
    omega
  refine ⟨rfl, hworth, hbase, hcomplete.mpr hbase, htwo, ?_, (hpayments hbase ada 121).1.mpr hodd⟩
  rw [(hpayments hbase ada 120).1]
  exact not_not_intro htwo

/-- Six is two thalers, but a drake is tried first: six cannot be received, nor a drake be paid out
of a drake and two thalers. -/
theorem change_refused_for_two_thalers :
    let ada : Entity := ⟨⟨7#128⟩, "ada"⟩
    let held : String → Nat := fun item =>
      match item with
      | "drake" => 1
      | "thaler" => 2
      | _ => 0
    let w := World.addCoins { holdings := fun o item => if o = ada.id then held item else 0 }
      [⟨"drake", 4⟩, ⟨"thaler", 3⟩]
    w.CoinsHaveWorth ∧ Expressible w.coins 6 ∧ w.purse ada.id = 10 ∧
    (∃ stop, change w.coins 6 = .error stop) ∧
    (∃ stop w', deposit ada.id 6 w = .error stop w') ∧
    ∃ stop w', withdraw ada 4 w = .error stop w' := by
  intro ada held w
  have hw : w.CoinsHaveWorth := by decide
  have hthaler : (⟨"thaler", 3⟩ : Coin) ∈ w.coins := by decide
  refine ⟨hw, .coin hthaler (.coin hthaler .nothing), by decide, ?_, ?_, ?_⟩
  · exact (change_fails_iff hw 6).mpr (by decide)
  · exact (deposit_fails_iff hw ada.id 6).mpr (by decide)
  · exact (withdraw_fails_iff hw ada 4).mpr (by decide)

end Colloquy.World

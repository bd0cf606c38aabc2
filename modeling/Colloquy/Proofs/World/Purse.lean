import Colloquy.Proofs.World.Division
import Colloquy.Proofs.World.Holdings
import Colloquy.Proofs.World.Registry

/-!
# Colloquy.Proofs.World.Purse

What payments do to a purse, with coins registered in any order and under any names.

* `setPurse`                       — the world with other coins in one purse.
* `withdraw_cases`, `deposit_cases` — all that a payment can come to. A purse that pays is emptied
  and filled with the rest, divided with the most valuable coin first.
* `withdraw_refills_purse`         — a withdrawal, by cases of the holder's total.
* `payments_exact_iff_apart`       — a payment changes the total by its amount if and only if no name
  that is handed out stands for two coins.
-/

namespace Colloquy.World

variable {w w' : World} {holder o : Ident} {item name : String} {amount : Nat}

/-- The world with so many coins of each name in one purse. -/
def setPurse (w : World) (holder : Ident) (n : String → Nat) : World :=
  { w with
    holdings := fun o item =>
      if o = holder ∧ w.isCoin item = true then n item else w.holdings o item }

variable {n : String → Nat}

theorem count_setPurse_coin (n : String → Nat) (hcoin : w.isCoin item = true) :
    (w.setPurse holder n).count holder item = n item :=
  if_pos ⟨rfl, hcoin⟩

theorem count_setPurse_other (n : String → Nat) (h : ¬(o = holder ∧ w.isCoin item = true)) :
    (w.setPurse holder n).count o item = w.count o item :=
  if_neg h

theorem isCoin_of_mem {c : Coin} (hc : c ∈ w.coins) : w.isCoin c.name = true :=
  isCoin_iff.mpr ⟨c, hc, rfl⟩

theorem purse_setPurse (w : World) (holder : Ident) (n : String → Nat) :
    (w.setPurse holder n).purse holder = worth w.coins n :=
  worth_congr fun _ hc => count_setPurse_coin n (isCoin_of_mem hc)

/-- A world that differs in one purse only. -/
theorem eq_setPurse (hheld : ∃ holdings, w' = { w with holdings := holdings })
    (hcoins : ∀ item, w.isCoin item = true → w'.holdings holder item = n item)
    (hothers : ∀ o item, ¬(o = holder ∧ w.isCoin item = true) →
      w'.holdings o item = w.holdings o item) :
    w' = w.setPurse holder n := by
  obtain ⟨holdings, rfl⟩ := hheld
  unfold setPurse
  congr
  funext o item
  split
  · rename_i hcell
    rw [hcell.1]
    exact hcoins item hcell.2
  · rename_i hcell
    exact hothers o item hcell

/-! ### Payments -/

theorem holdings_giveAll_same (w : World) (holder : Ident) (given : List (String × Nat))
    (item : String) :
    (w.giveAll holder given).holdings holder item = w.holdings holder item + tally item given := by
  induction given generalizing w with
  | nil => rfl
  | cons g rest ih =>
    have hstep : w.giveAll holder (g :: rest) = (w.give holder g.1 g.2).giveAll holder rest := rfl
    rw [hstep, ih, tally]
    by_cases hitem : item = g.1
    · simp [give, setCount, count, Table.put, hitem, Nat.add_assoc]
    · simp [give, setCount, Table.put, hitem]

theorem holdings_emptyPurse_coin (h : w.isCoin item = true) :
    (w.emptyPurse holder).holdings holder item = 0 := by
  have hfold : ∀ (cs : List Coin) (w : World),
      (w.holdings holder item = 0 ∨ ∃ c ∈ cs, c.name = item) →
      (cs.foldl (fun w c => w.setCount holder c.name 0) w).holdings holder item = 0 := by
    intro cs
    induction cs with
    | nil => simp
    | cons c cs ih =>
      intro w hw
      apply ih
      by_cases hname : item = c.name
      · simp [setCount, Table.put, hname]
      · rcases hw with hzero | ⟨d, hd, hdname⟩
        · simp [setCount, Table.put, hname, hzero]
        · rcases List.mem_cons.mp hd with rfl | hd
          · exact absurd hdname.symm hname
          · exact .inr ⟨d, hd, hdname⟩
  exact hfold w.coins w (.inr (isCoin_iff.mp h))

theorem isCoin_of_mem_change {given : List (String × Nat)} (h : change w.coins amount = .ok given)
    {g : String × Nat} (hg : g ∈ given) : w.isCoin g.1 = true :=
  isCoin_iff.mpr (exists_coin_of_mem_change h hg)

theorem giveAll_eq_setPurse {given : List (String × Nat)}
    (hcoins : ∀ g ∈ given, w.isCoin g.1 = true) :
    w.giveAll holder given = w.setPurse holder fun name => w.count holder name + tally name given := by
  refine eq_setPurse (w.exists_giveAll_eq holder given)
    (fun item _ => holdings_giveAll_same w holder given item) fun o item hcell => ?_
  refine holdings_giveAll_other fun hother => hcell ⟨hother.1, ?_⟩
  obtain ⟨g, hg, rfl⟩ := hother.2
  exact hcoins g hg

theorem giveAll_emptyPurse_eq_setPurse {given : List (String × Nat)}
    (hcoins : ∀ g ∈ given, w.isCoin g.1 = true) :
    (w.emptyPurse holder).giveAll holder given = w.setPurse holder fun name => tally name given := by
  obtain ⟨emptied, hempty⟩ := w.exists_emptyPurse_eq holder
  obtain ⟨holdings, hgive⟩ := (w.emptyPurse holder).exists_giveAll_eq holder given
  refine eq_setPurse ⟨holdings, by rw [hgive, hempty]⟩ (fun item hitem => ?_) fun o item hcell => ?_
  · rw [holdings_giveAll_same, holdings_emptyPurse_coin hitem, Nat.zero_add]
  · rw [holdings_giveAll_other, holdings_emptyPurse_other hcell]
    rintro ⟨ho, g, hg, rfl⟩
    exact hcell ⟨ho, hcoins g hg⟩

/-- All that a withdrawal can come to, if every coin has worth. -/
theorem withdraw_cases (hw : w.CoinsHaveWorth) (holder : Entity) (amount : Nat) :
    (w.purse holder.id < amount ∧ ∃ refusal,
      withdraw holder amount w = .error (.refused refusal) w) ∨
    (amount ≤ w.purse holder.id ∧ leftOver w.coins (w.purse holder.id - amount) ≠ 0 ∧
      ∃ refusal, withdraw holder amount w = .error (.refused refusal) w) ∨
    (amount ≤ w.purse holder.id ∧ leftOver w.coins (w.purse holder.id - amount) = 0 ∧
      withdraw holder amount w =
        .ok () (w.setPurse holder.id fun name =>
          pieces name w.coins (w.purse holder.id - amount))) := by
  rw [withdraw_eq]
  by_cases hpoor : w.purse holder.id < amount
  · exact .inl ⟨hpoor, _, if_pos hpoor⟩
  · have hle : amount ≤ w.purse holder.id := Nat.le_of_not_lt hpoor
    rw [if_neg hpoor]
    obtain ⟨hrest, given, hchange, htally⟩ | ⟨hrest, refusal, hchange⟩ :=
      change_cases hw (w.purse holder.id - amount)
    · refine .inr (.inr ⟨hle, hrest, ?_⟩)
      rw [hchange]
      dsimp only
      rw [giveAll_emptyPurse_eq_setPurse fun g hg => isCoin_of_mem_change hchange hg]
      simp only [htally]
    · exact .inr (.inl ⟨hle, hrest, refusal, by rw [hchange]⟩)

/-- All that a deposit can come to, if every coin has worth. -/
theorem deposit_cases (hw : w.CoinsHaveWorth) (holder : Ident) (amount : Nat) :
    (leftOver w.coins amount ≠ 0 ∧ ∃ refusal,
      deposit holder amount w = .error (.refused refusal) w) ∨
    (leftOver w.coins amount = 0 ∧
      deposit holder amount w =
        .ok () (w.setPurse holder fun name =>
          w.count holder name + pieces name w.coins amount)) := by
  rw [deposit_eq]
  obtain ⟨hrest, given, hchange, htally⟩ | ⟨hrest, refusal, hchange⟩ := change_cases hw amount
  · refine .inr ⟨hrest, ?_⟩
    rw [hchange]
    dsimp only
    rw [giveAll_eq_setPurse fun g hg => isCoin_of_mem_change hchange hg]
    simp only [htally]
  · exact .inl ⟨hrest, refusal, by rw [hchange]⟩

theorem withdraw_eq_ok_iff (hw : w.CoinsHaveWorth) (holder : Entity) :
    withdraw holder amount w = .ok () w' ↔
      amount ≤ w.purse holder.id ∧ leftOver w.coins (w.purse holder.id - amount) = 0 ∧
      w' = w.setPurse holder.id fun name => pieces name w.coins (w.purse holder.id - amount) := by
  obtain ⟨hpoor, refusal, heq⟩ | ⟨hle, hrest, refusal, heq⟩ | ⟨hle, hrest, heq⟩ :=
    withdraw_cases hw holder amount
  · simp only [heq, reduceCtorEq, false_iff]
    omega
  · simp [heq, hrest]
  · simp [heq, hrest, hle, eq_comm]

theorem withdraw_fails_iff (hw : w.CoinsHaveWorth) (holder : Entity) (amount : Nat) :
    (∃ stop w', withdraw holder amount w = .error stop w') ↔
      w.purse holder.id < amount ∨ leftOver w.coins (w.purse holder.id - amount) ≠ 0 := by
  obtain ⟨hpoor, refusal, heq⟩ | ⟨hle, hrest, refusal, heq⟩ | ⟨hle, hrest, heq⟩ :=
    withdraw_cases hw holder amount
  · exact iff_of_true ⟨_, _, heq⟩ (.inl hpoor)
  · exact iff_of_true ⟨_, _, heq⟩ (.inr hrest)
  · simp [heq, hrest, hle]

theorem of_withdraw_eq_error (hw : w.CoinsHaveWorth) {holder : Entity} {stop : Stop}
    (h : withdraw holder amount w = .error stop w') :
    (∃ refusal, stop = .refused refusal) ∧ w' = w := by
  obtain ⟨-, refusal, heq⟩ | ⟨-, -, refusal, heq⟩ | ⟨-, -, heq⟩ := withdraw_cases hw holder amount
  · rw [heq] at h
    cases h
    exact ⟨⟨refusal, rfl⟩, rfl⟩
  · rw [heq] at h
    cases h
    exact ⟨⟨refusal, rfl⟩, rfl⟩
  · rw [heq] at h
    cases h

theorem deposit_eq_ok_iff (hw : w.CoinsHaveWorth) :
    deposit holder amount w = .ok () w' ↔
      leftOver w.coins amount = 0 ∧
      w' = w.setPurse holder fun name => w.count holder name + pieces name w.coins amount := by
  obtain ⟨hrest, refusal, heq⟩ | ⟨hrest, heq⟩ := deposit_cases hw holder amount
  · simp [heq, hrest]
  · simp [heq, hrest, eq_comm]

theorem deposit_fails_iff (hw : w.CoinsHaveWorth) (holder : Ident) (amount : Nat) :
    (∃ stop w', deposit holder amount w = .error stop w') ↔ leftOver w.coins amount ≠ 0 := by
  obtain ⟨hrest, refusal, heq⟩ | ⟨hrest, heq⟩ := deposit_cases hw holder amount
  · exact iff_of_true ⟨_, _, heq⟩ hrest
  · simp [heq, hrest]

/-! ### Registries of any kind -/

/-- A purse that pays is emptied and filled with the rest of its total, the most valuable coins
first; nothing else changes hands. It cannot pay if it holds too little or if the rest leaves
something over, and is then left as it was. The coins may be registered in any order and under any
names. -/
theorem withdraw_refills_purse (w₀ : World) (hnone : w₀.coins = []) (minted : List Coin)
    (hworth : ∀ c ∈ minted, 0 < c.value) (holder : Entity) (amount : Nat) :
    let w := w₀.addCoins minted
    let total := w.purse holder.id
    Ranks minted w.coins ∧
    ((∃ stop w', withdraw holder amount w = .error stop w') ↔
      total < amount ∨ amount < total ∧ leftOver w.coins (total - amount) ≠ 0) ∧
    (∀ stop w', withdraw holder amount w = .error stop w' →
      (∃ refusal, stop = .refused refusal) ∧ w' = w) ∧
    ∀ w', withdraw holder amount w = .ok () w' →
      (∀ name, w.isCoin name = true →
        w'.count holder.id name = pieces name w.coins (total - amount)) ∧
      (amount = total → ∀ name, w.isCoin name = true → w'.count holder.id name = 0) ∧
      (∀ o item, ¬(o = holder.id ∧ w.isCoin item = true) → w'.count o item = w.count o item) ∧
      ((minted.map (·.name)).Nodup → w'.purse holder.id = total - amount) := by
  intro w total
  have hranks : Ranks minted w.coins := ranks_addCoins hnone minted
  have hw : w.CoinsHaveWorth := hranks.coinsHaveWorth hworth
  have hsome : leftOver w.coins (total - amount) ≠ 0 → amount < total := by
    intro hrest
    apply Nat.lt_of_sub_ne_zero
    intro hzero
    rw [hzero, leftOver_zero] at hrest
    exact hrest rfl
  refine ⟨hranks, ?_, fun stop w' h => of_withdraw_eq_error hw h, fun w' h => ?_⟩
  · rw [withdraw_fails_iff hw, and_iff_right_of_imp hsome]
  obtain ⟨-, hrest, rfl⟩ := (withdraw_eq_ok_iff hw holder).mp h
  refine ⟨fun name hname => count_setPurse_coin _ hname, fun hall name hname => ?_,
    fun o item hcell => count_setPurse_other _ hcell, fun hnames => ?_⟩
  · rw [count_setPurse_coin _ hname, hall, Nat.sub_self, pieces_zero]
  · rw [purse_setPurse]
    exact worth_pieces_of_nodup hw (hranks.nodup_names.mpr hnames) hrest

/-- Of 55 in three kinds of coin 12 are paid: what is left are four crowns and three pennies, and
the torches. 56 cannot be paid. -/
theorem withdraw_refills_purse_crowns :
    let ada : Entity := ⟨⟨7#128⟩, "ada"⟩
    let held : String → Nat := fun item =>
      match item with
      | "penny" => 25
      | "crown" => 1
      | "florin" => 2
      | "torch" => 3
      | _ => 0
    let w₀ : World := { holdings := fun o item => if o = ada.id then held item else 0 }
    let minted : List Coin := [⟨"penny", 1⟩, ⟨"crown", 10⟩, ⟨"florin", 10⟩]
    let w := w₀.addCoins minted
    w₀.coins = [] ∧ (∀ c ∈ minted, 0 < c.value) ∧ w.purse ada.id = 55 ∧
    w.coins = [⟨"crown", 10⟩, ⟨"florin", 10⟩, ⟨"penny", 1⟩] ∧
    (∃ w', withdraw ada 12 w = .ok () w' ∧ w'.count ada.id "crown" = 4 ∧
      w'.count ada.id "florin" = 0 ∧ w'.count ada.id "penny" = 3 ∧ w'.count ada.id "torch" = 3 ∧
      w'.purse ada.id = 43) ∧
    (∃ stop w', withdraw ada 56 w = .error stop w') := by
  intro ada held w₀ minted w
  have hworth : ∀ c ∈ minted, 0 < c.value := by decide
  have hpurse : w.purse ada.id = 55 := by decide
  obtain ⟨w', hw'⟩ : ∃ w', withdraw ada 12 w = .ok () w' :=
    ⟨_, (withdraw_eq_ok_iff (by decide) ada).mpr ⟨by decide, by decide, rfl⟩⟩
  obtain ⟨-, -, -, hpaid⟩ := withdraw_refills_purse w₀ rfl minted hworth ada 12
  obtain ⟨hcoins, -, hothers, htotal⟩ := hpaid w' hw'
  obtain ⟨-, hfails, -⟩ := withdraw_refills_purse w₀ rfl minted hworth ada 56
  refine ⟨rfl, hworth, hpurse, by decide, ⟨w', hw', ?_, ?_, ?_, ?_, ?_⟩, hfails.mpr ?_⟩
  · rw [hcoins "crown" (by decide)]
    decide
  · rw [hcoins "florin" (by decide)]
    decide
  · rw [hcoins "penny" (by decide)]
    decide
  · rw [hothers ada.id "torch" (by decide)]
    decide
  · rw [htotal (by decide)]
    decide
  · exact .inl (by decide)

theorem Ranks.isCoin_iff_mem_names {minted : List Coin} (h : Ranks minted w.coins) :
    w.isCoin name = true ↔ name ∈ minted.map (·.name) := by
  rw [isCoin_iff, ← List.mem_map, (h.perm.map _).mem_iff]

/-- What is handed out for an amount, with the names as they were registered. -/
theorem Ranks.worth_pieces {minted : List Coin} (h : Ranks minted w.coins)
    (hw : w.CoinsHaveWorth) (hrest : leftOver w.coins amount = 0) :
    amount ≤ worth w.coins (fun name => pieces name w.coins amount) ∧
    (worth w.coins (fun name => pieces name w.coins amount) = amount ↔
      ∀ name ∈ minted.map (·.name), 0 < pieces name w.coins amount →
        (minted.map (·.name)).count name = 1) := by
  have hle : amount ≤ worth w.coins (fun name => pieces name w.coins amount) +
      leftOver w.coins amount := le_worth_pieces (fun _ hc => hc) amount
  have hiff := worth_pieces_eq_iff hw (fun _ hc => hc) amount
  rw [hrest, Nat.add_zero] at hle hiff
  refine ⟨hle, hiff.trans ?_⟩
  constructor
  · intro hall name _ hpos
    rw [← (h.perm.map _).count_eq]
    exact hall name hpos
  · intro hall name hpos
    rw [(h.perm.map _).count_eq]
    refine hall name ?_ hpos
    rw [← h.isCoin_iff_mem_names, isCoin_iff]
    exact exists_coin_of_pieces_pos hpos

theorem Ranks.deposit_exact_iff {minted : List Coin} (h : Ranks minted w.coins)
    (hw : w.CoinsHaveWorth) (hok : deposit holder amount w = .ok () w') :
    w.purse holder + amount ≤ w'.purse holder ∧
    (w'.purse holder = w.purse holder + amount ↔
      ∀ name ∈ minted.map (·.name), w.count holder name < w'.count holder name →
        (minted.map (·.name)).count name = 1) := by
  obtain ⟨hrest, rfl⟩ := (deposit_eq_ok_iff hw).mp hok
  obtain ⟨hle, hiff⟩ := h.worth_pieces hw hrest
  have hpurse : ∀ n : String → Nat,
      (w.setPurse holder fun name => w.count holder name + n name).purse holder =
        w.purse holder + worth w.coins n := by
    intro n
    rw [purse_setPurse, worth_add]
    rfl
  rw [hpurse, Nat.add_right_inj, hiff]
  refine ⟨Nat.add_le_add_left hle _, forall₂_congr fun name hname => imp_congr_left ?_⟩
  rw [count_setPurse_coin _ (h.isCoin_iff_mem_names.mpr hname)]
  exact Nat.lt_add_right_iff_pos.symm

theorem Ranks.withdraw_exact_iff {minted : List Coin} (h : Ranks minted w.coins)
    (hw : w.CoinsHaveWorth) {holder : Entity} (hok : withdraw holder amount w = .ok () w') :
    w.purse holder.id ≤ w'.purse holder.id + amount ∧
    (w.purse holder.id = w'.purse holder.id + amount ↔
      ∀ name ∈ minted.map (·.name), 0 < w'.count holder.id name →
        (minted.map (·.name)).count name = 1) := by
  obtain ⟨hamount, hrest, rfl⟩ := (withdraw_eq_ok_iff hw holder).mp hok
  obtain ⟨hle, hiff⟩ := h.worth_pieces hw hrest
  rw [purse_setPurse, ← Nat.sub_eq_iff_eq_add hamount, eq_comm, hiff]
  refine ⟨Nat.sub_le_iff_le_add.mp hle, forall₂_congr fun name hname => imp_congr_left ?_⟩
  rw [count_setPurse_coin _ (h.isCoin_iff_mem_names.mpr hname)]

/-- A payment never counts for less than its amount, and for more if and only if a name that is
handed out was registered twice. So payments are exact if no name was. -/
theorem payments_exact_iff_apart (w₀ : World) (hnone : w₀.coins = []) (minted : List Coin)
    (hworth : ∀ c ∈ minted, 0 < c.value) (holder : Entity) (amount : Nat) :
    let w := w₀.addCoins minted
    let names := minted.map (·.name)
    (∀ w', deposit holder.id amount w = .ok () w' →
      w.purse holder.id + amount ≤ w'.purse holder.id ∧
      (w'.purse holder.id = w.purse holder.id + amount ↔
        ∀ name ∈ names, w.count holder.id name < w'.count holder.id name →
          names.count name = 1)) ∧
    (∀ w', withdraw holder amount w = .ok () w' →
      w.purse holder.id ≤ w'.purse holder.id + amount ∧
      (w.purse holder.id = w'.purse holder.id + amount ↔
        ∀ name ∈ names, 0 < w'.count holder.id name → names.count name = 1)) ∧
    (names.Nodup →
      (∀ w', deposit holder.id amount w = .ok () w' →
        w'.purse holder.id = w.purse holder.id + amount) ∧
      ∀ w', withdraw holder amount w = .ok () w' →
        w.purse holder.id = w'.purse holder.id + amount) := by
  intro w names
  have hranks : Ranks minted w.coins := ranks_addCoins hnone minted
  have hw : w.CoinsHaveWorth := hranks.coinsHaveWorth hworth
  refine ⟨fun w' h => hranks.deposit_exact_iff hw h, fun w' h => hranks.withdraw_exact_iff hw h,
    fun hnodup => ?_⟩
  have hapart : ∀ name ∈ names, names.count name = 1 :=
    fun name hname => List.count_eq_one_of_mem hnodup hname
  constructor
  · intro w' h
    exact (hranks.deposit_exact_iff hw h).2.mpr fun name hname _ => hapart name hname
  · intro w' h
    exact (hranks.withdraw_exact_iff hw h).2.mpr fun name hname _ => hapart name hname

/-- A name that stands for two coins does no harm to payments in a third: of 20 in crowns 10 are
paid exactly, and 10 are received exactly. -/
theorem payments_exact_iff_apart_crowns :
    let ada : Entity := ⟨⟨7#128⟩, "ada"⟩
    let w₀ : World := { holdings := Table.put (fun _ _ => 0) ada.id "crown" 2 }
    let minted : List Coin := [⟨"token", 5⟩, ⟨"crown", 10⟩, ⟨"token", 10⟩]
    let w := w₀.addCoins minted
    w₀.coins = [] ∧ (∀ c ∈ minted, 0 < c.value) ∧ w.purse ada.id = 20 ∧
    (∃ w', deposit ada.id 10 w = .ok () w' ∧ w'.purse ada.id = 30) ∧
    ∃ w', withdraw ada 10 w = .ok () w' ∧ 20 = w'.purse ada.id + 10 := by
  intro ada w₀ minted w
  have hworth : ∀ c ∈ minted, 0 < c.value := by decide
  obtain ⟨hdeposit, hwithdraw, -⟩ := payments_exact_iff_apart w₀ rfl minted hworth ada 10
  have hin : deposit ada.id 10 w = .ok () _ :=
    (deposit_eq_ok_iff (by decide)).mpr ⟨by decide, rfl⟩
  have hout : withdraw ada 10 w = .ok () _ :=
    (withdraw_eq_ok_iff (by decide) ada).mpr ⟨by decide, by decide, rfl⟩
  exact ⟨rfl, hworth, by decide, ⟨_, hin, (hdeposit _ hin).2.mpr (by decide)⟩,
    ⟨_, hout, (hwithdraw _ hout).2.mpr (by decide)⟩⟩

/-- A coin that is registered again counts twice: 10 received are 20 in the purse, and 10 paid out
of these cost nothing. -/
theorem deposit_counts_twice_registered :
    let ada : Entity := ⟨⟨7#128⟩, "ada"⟩
    let w := World.addCoins {} [⟨"crown", 10⟩, ⟨"crown", 10⟩]
    w.CoinsHaveWorth ∧ w.purse ada.id = 0 ∧
    (∃ w', deposit ada.id 10 w = .ok () w' ∧ w'.purse ada.id ≠ w.purse ada.id + 10 ∧
      w'.purse ada.id = 20 ∧
      ∃ w'', withdraw ada 10 w' = .ok () w'' ∧ w''.purse ada.id = 20) := by
  intro ada w
  have hw : w.CoinsHaveWorth := by decide
  have hin : deposit ada.id 10 w = .ok () _ := (deposit_eq_ok_iff hw).mpr ⟨by decide, rfl⟩
  refine ⟨hw, by decide, _, hin, by decide, by decide, ?_⟩
  exact ⟨_, (withdraw_eq_ok_iff (by decide) ada).mpr ⟨by decide, by decide, rfl⟩, by decide⟩

end Colloquy.World

import Colloquy.Proofs.World.Request
import Mathlib.Data.List.Perm.Basic

/-!
# Colloquy.Proofs.World.Registry

The coins of a realm, registered one after another in any order and under any names.

* `addCoins`      — registers coins one after another.
* `Ranks`         — what the realm makes of them: the most valuable coins come first, and of coins
  of one value the one that was registered first.
* `ranks_addCoins` — every way to register coins ranks them.
-/

namespace Colloquy.World

def addCoins (w : World) (cs : List Coin) : World :=
  cs.foldl (fun w c => w.addCoin c.name c.value) w

/-- No coin is worth more than one before it. -/
abbrev Falling (coins : List Coin) : Prop :=
  coins.Pairwise fun c d => d.value ≤ c.value

/-- The coins that were registered, by falling value. Coins of one value stand in the order in which
they were registered. -/
structure Ranks (minted coins : List Coin) : Prop where
  perm : coins.Perm minted
  falling : Falling coins
  stable : ∀ v, coins.filter (·.value = v) = minted.filter (·.value = v)

variable {w : World} {c : Coin} {minted coins cs : List Coin}

theorem perm_insertCoin (c : Coin) (ds : List Coin) : (insertCoin c ds).Perm (c :: ds) := by
  induction ds with
  | nil => rfl
  | cons d ds ih =>
    rw [insertCoin]
    split
    · rfl
    · exact (ih.cons d).trans (List.Perm.swap c d ds)

theorem falling_insertCoin {ds : List Coin} (h : Falling ds) : Falling (insertCoin c ds) := by
  induction ds with
  | nil => simp [insertCoin, Falling]
  | cons d ds ih =>
    obtain ⟨hhead, htail⟩ := List.pairwise_cons.mp h
    rw [insertCoin]
    split
    · rename_i hlt
      refine List.pairwise_cons.mpr ⟨fun e he => ?_, h⟩
      rcases List.mem_cons.mp he with rfl | he
      · omega
      · have hle := hhead e he
        omega
    · refine List.pairwise_cons.mpr ⟨fun e he => ?_, ih htail⟩
      rcases mem_insertCoin.mp he with rfl | he
      · omega
      · exact hhead e he

theorem filter_insertCoin {ds : List Coin} (h : Falling ds) (v : Nat) :
    (insertCoin c ds).filter (·.value = v) = ds.filter (·.value = v) ++ [c].filter (·.value = v) := by
  induction ds with
  | nil => simp [insertCoin]
  | cons d ds ih =>
    obtain ⟨hhead, htail⟩ := List.pairwise_cons.mp h
    rw [insertCoin]
    split
    · rename_i hlt
      by_cases hv : c.value = v
      · have hnone : (d :: ds).filter (·.value = v) = [] := by
          refine List.filter_eq_nil_iff.mpr fun e he => ?_
          have hle : e.value ≤ d.value := by
            rcases List.mem_cons.mp he with rfl | he
            · exact Nat.le_refl _
            · exact hhead e he
          simp only [decide_eq_true_eq]
          omega
        rw [List.filter_cons, hnone]
        simp [hv]
      · simp [List.filter_cons, hv]
    · simp only [List.filter_cons, ih htail]
      split <;> simp

theorem Ranks.insertCoin (h : Ranks minted coins) (c : Coin) :
    Ranks (minted ++ [c]) (insertCoin c coins) where
  perm := (perm_insertCoin c coins).trans ((h.perm.cons c).trans (List.perm_append_singleton c minted).symm)
  falling := falling_insertCoin h.falling
  stable v := by rw [filter_insertCoin h.falling, h.stable, List.filter_append]

theorem Ranks.addCoins (h : Ranks minted w.coins) (cs : List Coin) :
    Ranks (minted ++ cs) (w.addCoins cs).coins := by
  induction cs generalizing w minted with
  | nil => simpa [World.addCoins] using h
  | cons c cs ih =>
    have hstep : Ranks (minted ++ [c]) (w.addCoin c.name c.value).coins := h.insertCoin c
    rw [List.append_cons]
    exact ih hstep

theorem ranks_addCoins (hnone : w.coins = []) (minted : List Coin) :
    Ranks minted (w.addCoins minted).coins := by
  have hempty : Ranks [] w.coins := by
    rw [hnone]
    exact ⟨.nil, .nil, fun _ => rfl⟩
  exact hempty.addCoins minted

theorem Ranks.coinsHaveWorth (h : Ranks minted w.coins) (hworth : ∀ c ∈ minted, 0 < c.value) :
    w.CoinsHaveWorth :=
  fun c hc => hworth c (h.perm.mem_iff.mp hc)

theorem Ranks.nodup_names (h : Ranks minted coins) :
    (coins.map (·.name)).Nodup ↔ (minted.map (·.name)).Nodup :=
  (h.perm.map _).nodup_iff

end Colloquy.World

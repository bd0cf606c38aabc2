import Colloquy.Proofs.World.Request
import Mathlib.Algebra.BigOperators.Group.Finset.Basic
import Mathlib.Data.BitVec
import Mathlib.Data.Fintype.Basic

/-!
# Colloquy.Proofs.World.Holdings

Who holds what after items have changed hands.

* `holdings_giveAll_other`, `holdings_emptyPurse_other` — coins paid into a purse or taken out of it
  are all that changes, and only in that purse.
* `total` — how many of an item there are, with all holders together. Giving adds to it, and moving
  items from one holder to another does not change it.
-/

namespace Colloquy

/-! ### Purses -/

namespace World

variable {w w' : World} {holder o : Ident} {item i : String}

theorem isCoin_iff : w.isCoin item = true ↔ ∃ c ∈ w.coins, c.name = item := by
  simp [isCoin]

theorem names_of_divide {coins : List Coin} {amount rest : Nat} {given : List (String × Nat)}
    (h : divide coins amount = .ok (given, rest)) : given.map (·.1) = coins.map (·.name) := by
  induction coins generalizing amount given with
  | nil =>
    cases h
    rfl
  | cons c cs ih =>
    rw [divide] at h
    split at h
    · cases h
    · split at h
      · cases h
      · rename_i hrest
        cases h
        rw [List.map_cons, List.map_cons, ih hrest]

theorem exists_coin_of_mem_change {coins : List Coin} {amount : Nat} {given : List (String × Nat)}
    (h : change coins amount = .ok given) {g : String × Nat} (hg : g ∈ given) :
    ∃ c ∈ coins, c.name = g.1 := by
  rw [change] at h
  split at h
  · cases h
    cases hg
  · split at h
    · cases h
    · split at h
      · cases h
      · rename_i hdivide
        split at h
        · cases h
          have hname : g.1 ∈ coins.map (·.name) := by
            rw [← names_of_divide hdivide]
            exact List.mem_map_of_mem hg
          exact List.mem_map.mp hname
        · cases h

theorem holdings_giveAll_other {given : List (String × Nat)}
    (h : ¬(o = holder ∧ ∃ g ∈ given, g.1 = i)) :
    (w.giveAll holder given).holdings o i = w.holdings o i := by
  induction given generalizing w with
  | nil => rfl
  | cons g rest ih =>
    have hrest : ¬(o = holder ∧ ∃ g ∈ rest, g.1 = i) := by
      rintro ⟨ho, g', hg', hi⟩
      exact h ⟨ho, g', List.mem_cons_of_mem g hg', hi⟩
    have hcell : ¬(o = holder ∧ i = g.1) := by
      rintro ⟨ho, hi⟩
      exact h ⟨ho, g, List.mem_cons_self, hi.symm⟩
    have hgive : (w.give holder g.1 g.2).holdings o i = w.holdings o i := Table.put_other _ _ hcell
    rw [← hgive]
    exact ih hrest

theorem holdings_emptyPurse_other (h : ¬(o = holder ∧ w.isCoin i = true)) :
    (w.emptyPurse holder).holdings o i = w.holdings o i := by
  have hfold : ∀ (cs : List Coin) (w : World), ¬(o = holder ∧ ∃ c ∈ cs, c.name = i) →
      (cs.foldl (fun w c => w.setCount holder c.name 0) w).holdings o i = w.holdings o i := by
    intro cs
    induction cs with
    | nil => exact fun _ _ => rfl
    | cons c cs ih =>
      intro w hcs
      have hrest : ¬(o = holder ∧ ∃ c ∈ cs, c.name = i) := by
        rintro ⟨ho, c', hc', hi⟩
        exact hcs ⟨ho, c', List.mem_cons_of_mem c hc', hi⟩
      have hcell : ¬(o = holder ∧ i = c.name) := by
        rintro ⟨ho, hi⟩
        exact hcs ⟨ho, c, List.mem_cons_self, hi.symm⟩
      have hset : (w.setCount holder c.name 0).holdings o i = w.holdings o i :=
        Table.put_other _ _ hcell
      rw [← hset]
      exact ih _ hrest
  rw [isCoin_iff] at h
  exact hfold w.coins w h

end World

/-! ### All holders together -/

/-- There are as many holders as identifiers. -/
noncomputable instance Ident.instFintype : Fintype Ident :=
  Fintype.ofEquiv (Fin (2 ^ 128))
    { toFun := fun n => ⟨⟨n⟩⟩
      invFun := fun id => id.bits.toFin
      left_inv := fun _ => rfl
      right_inv := fun _ => rfl }

namespace World

/-- How many of an item there are in the world. -/
noncomputable def total (w : World) (item : String) : Nat :=
  ∑ holder : Ident, w.count holder item

variable {w w' : World} {holder : Ident} {item : String}

theorem total_congr (h : ∀ o, w'.holdings o item = w.holdings o item) :
    w'.total item = w.total item :=
  Finset.sum_congr rfl fun o _ => h o

theorem total_setCount (w : World) (holder : Ident) (item : String) (n : Nat) :
    (w.setCount holder item n).total item + w.count holder item = w.total item + n := by
  have hself : (w.setCount holder item n).count holder item = n := Table.put_same _ _ _ _
  have hothers : ∑ o ∈ Finset.univ.erase holder, (w.setCount holder item n).count o item =
      ∑ o ∈ Finset.univ.erase holder, w.count o item := by
    refine Finset.sum_congr rfl fun o ho => ?_
    exact Table.put_other _ _ fun hcell => Finset.ne_of_mem_erase ho hcell.1
  rw [total, total, ← Finset.add_sum_erase _ _ (Finset.mem_univ holder), hself, hothers,
    ← Finset.add_sum_erase _ _ (Finset.mem_univ holder)]
  omega

theorem total_give (w : World) (holder : Ident) (item : String) (n : Nat) :
    (w.give holder item n).total item = w.total item + n := by
  have hset : (w.give holder item n).total item + w.count holder item = _ :=
    total_setCount w holder item (w.count holder item + n)
  omega

end World

end Colloquy

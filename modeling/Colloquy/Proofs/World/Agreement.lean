import Colloquy.Proofs.Flag.Store
import Colloquy.Proofs.World.Request

/-!
# Colloquy.Proofs.World.Agreement

Worlds that are the same to some of their people: to those whose texts, items and quests are the
same in both, with everything that belongs to nobody.

* `AgreesFor` — the agreement of two worlds for given people. What was said is not looked at.
* `AgreesFor.count_eq`, `purse_eq`, … — what can be read off such worlds about these people.
* `AgreesFor.stored`, `setCount`, …   — the agreement is kept when both worlds are changed alike.
-/

namespace Colloquy.World

/-- The worlds are the same to these people, but for what was said. -/
structure AgreesFor (who : Ident → Prop) (w v : World) : Prop where
  keys : ∀ o, who o → v.keys o = w.keys o
  persisted : ∀ o, who o → v.persisted o = w.persisted o
  holdings : ∀ o, who o → v.holdings o = w.holdings o
  quests : ∀ o, who o → v.quests o = w.quests o
  levels : v.levels = w.levels
  catalog : v.catalog = w.catalog
  coins : v.coins = w.coins
  knownQuests : v.knownQuests = w.knownQuests
  wired : v.wired = w.wired
  fired : v.fired = w.fired
  clock : v.clock = w.clock

namespace AgreesFor

variable {who : Ident → Prop} {u v w : World} {o : Ident}

theorem of_spoken (who : Ident → Prop) (w : World) (lines : List Line) :
    w.AgreesFor who { w with spoken := lines } := by
  constructor <;> intros <;> rfl

theorem refl (who : Ident → Prop) (w : World) : w.AgreesFor who w :=
  of_spoken who w w.spoken

theorem symm (h : w.AgreesFor who v) : v.AgreesFor who w where
  keys o ho := (h.keys o ho).symm
  persisted o ho := (h.persisted o ho).symm
  holdings o ho := (h.holdings o ho).symm
  quests o ho := (h.quests o ho).symm
  levels := h.levels.symm
  catalog := h.catalog.symm
  coins := h.coins.symm
  knownQuests := h.knownQuests.symm
  wired := h.wired.symm
  fired := h.fired.symm
  clock := h.clock.symm

theorem trans (h : w.AgreesFor who v) (h' : v.AgreesFor who u) : w.AgreesFor who u where
  keys o ho := (h'.keys o ho).trans (h.keys o ho)
  persisted o ho := (h'.persisted o ho).trans (h.persisted o ho)
  holdings o ho := (h'.holdings o ho).trans (h.holdings o ho)
  quests o ho := (h'.quests o ho).trans (h.quests o ho)
  levels := h'.levels.trans h.levels
  catalog := h'.catalog.trans h.catalog
  coins := h'.coins.trans h.coins
  knownQuests := h'.knownQuests.trans h.knownQuests
  wired := h'.wired.trans h.wired
  fired := h'.fired.trans h.fired
  clock := h'.clock.trans h.clock

theorem mono {some : Ident → Prop} (h : w.AgreesFor who v) (hsub : ∀ o, some o → who o) :
    w.AgreesFor some v :=
  { h with
    keys := fun o ho => h.keys o (hsub o ho)
    persisted := fun o ho => h.persisted o (hsub o ho)
    holdings := fun o ho => h.holdings o (hsub o ho)
    quests := fun o ho => h.quests o (hsub o ho) }

theorem of_forall (h : ∀ o, w.AgreesFor (· = o) v) : w.AgreesFor (fun _ => True) v :=
  { h ⟨0⟩ with
    keys := fun o _ => (h o).keys o rfl
    persisted := fun o _ => (h o).persisted o rfl
    holdings := fun o _ => (h o).holdings o rfl
    quests := fun o _ => (h o).quests o rfl }

/-- Worlds that are the same to all differ in what was said at most. -/
theorem eq_of_all (h : w.AgreesFor (fun _ => True) v) : v = { w with spoken := v.spoken } := by
  obtain ⟨keys, persisted, catalog, holdings, coins, knownQuests, quests, levels, wired, fired,
    clock, spoken⟩ := v
  rw [World.mk.injEq]
  exact ⟨funext fun o => h.keys o trivial, funext fun o => h.persisted o trivial, h.catalog,
    funext fun o => h.holdings o trivial, h.coins, h.knownQuests,
    funext fun o => h.quests o trivial, h.levels, h.wired, h.fired, h.clock, rfl⟩

/-! ### What is read -/

theorem count_eq (h : w.AgreesFor who v) (ho : who o) (item : String) :
    v.count o item = w.count o item :=
  congrFun (h.holdings o ho) item

theorem purse_eq (h : w.AgreesFor who v) (ho : who o) : v.purse o = w.purse o := by
  simp only [purse, count, h.coins, h.holdings o ho]

theorem stage?_eq (h : w.AgreesFor who v) (ho : who o) (quest : String) :
    v.stage? o quest = w.stage? o quest :=
  congrFun (h.quests o ho) quest

theorem packed_eq (h : w.AgreesFor who v) (ho : who o) (s : Flag.Store) (place : String) :
    s.packed v o place = s.packed w o place := by
  rw [Flag.Store.packed, h.keys o ho, Flag.Store.packed]

/-! ### What is changed -/

theorem stored (h : w.AgreesFor who v) (ho : who o) (s : Flag.Store) (place name value : String) :
    (s.stored w o place name value).AgreesFor who (s.stored v o place name value) := by
  rw [Flag.Store.stored, Flag.Store.stored, h.packed_eq ho]
  exact
    { h with
      keys := fun p hp => Table.put_congr (h.keys p hp) _ _ _
      persisted := fun p hp => Table.put_congr (h.persisted p hp) _ _ _ }

theorem putStage (h : w.AgreesFor who v) (o : Ident) (quest : String) (stage : UInt32) :
    (w.putStage o quest stage).AgreesFor who (v.putStage o quest stage) :=
  { h with quests := fun p hp => Table.put_congr (h.quests p hp) _ _ _ }

theorem setCount (h : w.AgreesFor who v) (o : Ident) (item : String) (n : Nat) :
    (w.setCount o item n).AgreesFor who (v.setCount o item n) :=
  { h with holdings := fun p hp => Table.put_congr (h.holdings p hp) _ _ _ }

theorem give (h : w.AgreesFor who v) (ho : who o) (item : String) (n : Nat) :
    (w.give o item n).AgreesFor who (v.give o item n) := by
  rw [World.give, World.give, h.count_eq ho]
  exact h.setCount o item _

theorem giveAll (h : w.AgreesFor who v) (ho : who o) (given : List (String × Nat)) :
    (w.giveAll o given).AgreesFor who (v.giveAll o given) := by
  induction given generalizing w v with
  | nil => exact h
  | cons g rest ih => exact ih (h.give ho g.1 g.2)

theorem emptyPurse (h : w.AgreesFor who v) (o : Ident) :
    (w.emptyPurse o).AgreesFor who (v.emptyPurse o) := by
  have hfold : ∀ (cs : List Coin) (w v : World), w.AgreesFor who v →
      (cs.foldl (fun w c => w.setCount o c.name 0) w).AgreesFor who
        (cs.foldl (fun w c => w.setCount o c.name 0) v) := by
    intro cs
    induction cs with
    | nil => exact fun _ _ h => h
    | cons c cs ih => exact fun w v h => ih _ _ (h.setCount o c.name 0)
  rw [World.emptyPurse, World.emptyPurse, h.coins]
  exact hfold w.coins w v h

theorem signalled (h : w.AgreesFor who v) (s : Signal) :
    AgreesFor who { w with fired := w.fired ++ [s] } { v with fired := v.fired ++ [s] } :=
  { h with fired := congrArg (· ++ [s]) h.fired }

end AgreesFor

end Colloquy.World

import Colloquy.Dialogue.Apply
import Colloquy.Proofs.Calendar.Moment
import Colloquy.Proofs.Flag.Store
import Colloquy.Proofs.World.Request

/-!
# Colloquy.Proofs.Dialogue.Attempt

All that can become of an effect.

* `Effect.Makes`   — what a built-in effect does to the world when it is carried out, and when it is.
* `Effect.Settles` — what becomes of an attempt: done that way, failed in the very world it was made
  in, or ended by a worthless coin.
* `Effect.settles_apply` — every attempt of a built-in effect, or of one nobody registered, is so.
-/

namespace Colloquy.Effect

/-- What carrying out a built-in effect does to the world, with what must hold for it. -/
inductive Makes (sc : Scene) (w : World) : Effect → World → Prop where
  | flagKept {name : String} (hname : Flag.isName name = true) :
      Makes sc w (.setFlag name Flag.wildcard) w
  | flagSet {name value : String} (hname : Flag.isName name = true)
      (hvalue : Flag.hasSeparator value = false) (hwild : value ≠ Flag.wildcard) :
      Makes sc w (.setFlag name value)
        (sc.settings.store.stored w sc.actor.id sc.place name value)
  | timeMarked {name : String} (hname : Flag.isName name = true) :
      Makes sc w (.markTime name)
        (sc.settings.store.stored w sc.actor.id sc.place name w.clock.text)
  | questStarted {quest : String} {stage : UInt32} (hnew : w.stage? sc.actor.id quest = none)
      (hknown : World.allows w.knownQuests quest = true) :
      Makes sc w (.advanceQuest quest stage) (w.putStage sc.actor.id quest stage)
  | questKept {quest : String} {stage : UInt32} (hat : w.stage? sc.actor.id quest = some stage) :
      Makes sc w (.advanceQuest quest stage) w
  | questAdvanced {quest : String} {stage current : UInt32}
      (hat : w.stage? sc.actor.id quest = some current) (hlt : current < stage) :
      Makes sc w (.advanceQuest quest stage) (w.putStage sc.actor.id quest stage)
  | coinsGiven {quantity : UInt64} {given : List (String × Nat)}
      (hchange : World.change w.coins (max quantity.toNat 1) = .ok given) :
      Makes sc w (.giveItem sc.settings.currencyItem quantity) (w.giveAll sc.actor.id given)
  | itemGiven {item : String} {quantity : UInt64} {n : Nat} (hitem : item ≠ sc.settings.currencyItem)
      (hn : n = max quantity.toNat 1) (hheld : n ≤ w.count sc.speaker.id item) :
      Makes sc w (.giveItem item quantity)
        ((w.setCount sc.speaker.id item (w.count sc.speaker.id item - n)).give sc.actor.id item n)
  | coinsTaken {quantity : UInt64} {n : Nat} {given : List (String × Nat)}
      (hn : n = quantityTaken sc w sc.settings.currencyItem quantity) (hpos : n ≠ 0)
      (hheld : n ≤ w.purse sc.actor.id)
      (hchange : World.change w.coins (w.purse sc.actor.id - n) = .ok given) :
      Makes sc w (.takeItem sc.settings.currencyItem quantity)
        ((w.emptyPurse sc.actor.id).giveAll sc.actor.id given)
  | itemTaken {item : String} {quantity : UInt64} {n : Nat} (hitem : item ≠ sc.settings.currencyItem)
      (hn : n = quantityTaken sc w item quantity) (hpos : n ≠ 0)
      (hheld : n ≤ w.count sc.actor.id item) :
      Makes sc w (.takeItem item quantity)
        (w.setCount sc.actor.id item (w.count sc.actor.id item - n))
  | connected {id : Int64} (hwired : World.allows w.wired id = true) :
      Makes sc w (.connection id) { w with fired := w.fired ++ [⟨id, true, sc.speaker.id⟩] }

/-- What becomes of an attempt of an effect. A failing one leaves the world it was made in. -/
inductive Settles (sc : Scene) (w : World) (e : Effect) : Outcome → Prop where
  | done {w' : World} (h : Makes sc w e w') : Settles sc w e (.done w')
  | failed (fault : Fault) : Settles sc w e (.failed w fault)
  | crashed (c : Crash) (h : ∃ coin ∈ w.coins, coin.value = 0) : Settles sc w e (.crashed c)

variable {sc : Scene} {w : World}

/-! ### Flags -/

theorem value_writeFlag (name value what : String) :
    (writeFlag sc w name value what).value =
      if Flag.isName name = true then
        if value = Flag.wildcard then .done w
        else if Flag.hasSeparator value = true then .failed w (.separator value)
        else .done (sc.settings.store.stored w sc.actor.id sc.place name value)
      else .failed w (.separator name) := by
  unfold writeFlag
  by_cases hname : Flag.isName name = true
  · have hflag : Flag.Name.ofText? name = some ⟨name, hname⟩ := dif_pos hname
    rw [hflag, if_pos hname]
    dsimp only
    rw [Noted.value_bind, Flag.Store.value_write]
    by_cases hwild : value = Flag.wildcard
    · rw [if_pos hwild, if_pos hwild]
      rfl
    · rw [if_neg hwild, if_neg hwild]
      cases Flag.hasSeparator value <;> rfl
  · have hflag : Flag.Name.ofText? name = none := dif_neg hname
    rw [hflag, if_neg hname]
    rfl

theorem settles_setFlag (name value : String) :
    Settles sc w (.setFlag name value) (applySetFlag sc w name value).value := by
  rw [applySetFlag, value_writeFlag]
  split
  · rename_i hname
    split
    · rename_i hwild
      subst hwild
      exact .done (.flagKept hname)
    · rename_i hwild
      split
      · exact .failed _
      · rename_i hvalue
        exact .done (.flagSet hname (by simpa using hvalue) hwild)
  · exact .failed _

theorem settles_markTime (name : String) :
    Settles sc w (.markTime name) (applyMarkTime sc w name).value := by
  rw [applyMarkTime, value_writeFlag, if_neg w.clock.text_ne_wildcard, w.clock.hasSeparator_text]
  split
  · rename_i hname
    exact .done (.timeMarked hname)
  · exact .failed _

/-! ### Quests -/

theorem value_applyAdvanceQuest (quest : String) (stage : UInt32) :
    (applyAdvanceQuest sc w quest stage).value =
      match w.stage? sc.actor.id quest with
      | none =>
        if World.allows w.knownQuests quest = true then
          .done (w.putStage sc.actor.id quest stage)
        else .failed w (.missing .quest quest (Refusal.unknownQuest quest).message)
      | some current =>
        if stage < current then .failed w (.questRegression quest current stage)
        else if current = stage then .done w
        else .done (w.putStage sc.actor.id quest stage) := by
  unfold applyAdvanceQuest
  cases hat : w.stage? sc.actor.id quest with
  | none =>
    dsimp only
    rw [Noted.value_bind, World.value_startQuest]
    by_cases hknown : World.allows w.knownQuests quest = true
    · rw [if_pos hknown, if_pos hknown]
      rfl
    · rw [if_neg hknown, if_neg hknown]
      rfl
  | some current =>
    dsimp only
    split
    · rfl
    · split
      · rfl
      · rw [World.setStage_eq, hat]
        rfl

theorem settles_advanceQuest (quest : String) (stage : UInt32) :
    Settles sc w (.advanceQuest quest stage) (applyAdvanceQuest sc w quest stage).value := by
  rw [value_applyAdvanceQuest]
  split
  · rename_i hnew
    split
    · rename_i hknown
      exact .done (.questStarted hnew hknown)
    · exact .failed _
  · rename_i current hat
    split
    · exact .failed _
    · rename_i hback
      split
      · rename_i hsame
        subst hsame
        exact .done (.questKept hat)
      · rename_i hsame
        have hlt : current < stage := by
          rw [UInt32.lt_iff_toNat_lt] at hback ⊢
          have hne : current.toNat ≠ stage.toNat := fun h => hsame (UInt32.toNat_inj.mp h)
          omega
        exact .done (.questAdvanced hat hlt)

/-! ### Items -/

theorem value_settled (lack : Missing) (name what : String) (a : Answer Stop) :
    (settled sc lack name what a).value =
      match a with
      | .ok _ w => .done w
      | .error (.refused e) w => .failed w (.missing lack name e.message)
      | .error (.crashed c) _ => .crashed c := by
  unfold settled
  split <;> rfl

theorem refusable_eq (r : Request Refusal Unit) (w : World) :
    refusable r w =
      match r w with
      | .ok _ w => .ok () w
      | .error e w => .error (.refused e) w := by
  unfold refusable EStateM.adaptExcept
  cases r w <;> rfl

theorem value_applyGiveItem (item : String) (quantity : UInt64) :
    (applyGiveItem sc w item quantity).value =
      let n := max quantity.toNat 1
      let held := w.count sc.speaker.id item
      if item = sc.settings.currencyItem then
        match World.change w.coins n with
        | .ok given => .done (w.giveAll sc.actor.id given)
        | .error (.refused e) => .failed w (.missing .currency item e.message)
        | .error (.crashed c) => .crashed c
      else if held < n then
        .failed w (.missing .item item (Refusal.tooFew sc.speaker.name item held n).message)
      else .done ((w.setCount sc.speaker.id item (held - n)).give sc.actor.id item n) := by
  unfold applyGiveItem
  dsimp only
  split
  · rw [value_settled, World.deposit_eq]
    cases World.change w.coins (max quantity.toNat 1) with
    | ok given => rfl
    | error stop => cases stop <;> rfl
  · rw [value_settled, refusable_eq, World.transfer_eq]
    by_cases hfew : w.count sc.speaker.id item < max quantity.toNat 1
    · rw [if_pos hfew, if_pos hfew]
    · rw [if_neg hfew, if_neg hfew]

theorem settles_giveItem (item : String) (quantity : UInt64) :
    Settles sc w (.giveItem item quantity) (applyGiveItem sc w item quantity).value := by
  rw [value_applyGiveItem]
  dsimp only
  split
  · rename_i hitem
    subst hitem
    split
    · rename_i hchange
      exact .done (.coinsGiven hchange)
    · exact .failed _
    · rename_i hchange
      exact .crashed _ (World.change_eq_crashed hchange)
  · rename_i hitem
    split
    · exact .failed _
    · rename_i hheld
      exact .done (.itemGiven hitem rfl (Nat.le_of_not_lt hheld))

theorem value_applyTakeItem (item : String) (quantity : UInt64) :
    (applyTakeItem sc w item quantity).value =
      let n := quantityTaken sc w item quantity
      let held := w.count sc.actor.id item
      let total := w.purse sc.actor.id
      if n = 0 then .failed w (.missing .item item ("'" ++ sc.actor.name ++ "' holds none"))
      else if item = sc.settings.currencyItem then
        if total < n then
          .failed w (.missing .item item (Refusal.tooPoor sc.actor.name total n).message)
        else
          match World.change w.coins (total - n) with
          | .ok given => .done ((w.emptyPurse sc.actor.id).giveAll sc.actor.id given)
          | .error (.refused e) => .failed w (.missing .item item e.message)
          | .error (.crashed c) => .crashed c
      else if held < n then
        .failed w (.missing .item item (Refusal.tooFew sc.actor.name item held n).message)
      else .done (w.setCount sc.actor.id item (held - n)) := by
  unfold applyTakeItem
  dsimp only
  split
  · rfl
  · split
    · rw [value_settled, World.withdraw_eq]
      by_cases hpoor : w.purse sc.actor.id < quantityTaken sc w item quantity
      · rw [if_pos hpoor, if_pos hpoor]
      · rw [if_neg hpoor, if_neg hpoor]
        cases World.change w.coins (w.purse sc.actor.id - quantityTaken sc w item quantity) with
        | ok given => rfl
        | error stop => cases stop <;> rfl
    · rw [value_settled, refusable_eq, World.destroy_eq]
      by_cases hfew : w.count sc.actor.id item < quantityTaken sc w item quantity
      · rw [if_pos hfew, if_pos hfew]
      · rw [if_neg hfew, if_neg hfew]

theorem settles_takeItem (item : String) (quantity : UInt64) :
    Settles sc w (.takeItem item quantity) (applyTakeItem sc w item quantity).value := by
  rw [value_applyTakeItem]
  dsimp only
  split
  · exact .failed _
  · rename_i hpos
    split
    · rename_i hitem
      subst hitem
      split
      · exact .failed _
      · rename_i hheld
        split
        · rename_i hchange
          exact .done (.coinsTaken rfl hpos (Nat.le_of_not_lt hheld) hchange)
        · exact .failed _
        · rename_i hchange
          exact .crashed _ (World.change_eq_crashed hchange)
    · rename_i hitem
      split
      · exact .failed _
      · rename_i hheld
        exact .done (.itemTaken hitem rfl hpos (Nat.le_of_not_lt hheld))

/-! ### Every effect -/

theorem value_applyConnection (id : Int64) :
    (applyConnection sc w id).value =
      if World.allows w.wired id = true then
        .done { w with fired := w.fired ++ [⟨id, true, sc.speaker.id⟩] }
      else
        .failed w (.missing .connection (Numeral.ofInt64 id) (Refusal.notWired id).message) := by
  unfold applyConnection
  rw [World.signal_eq]
  by_cases hwired : World.allows w.wired id = true
  · rw [if_pos hwired, if_pos hwired]
    rfl
  · rw [if_neg hwired, if_neg hwired]
    rfl

theorem settles_connection (id : Int64) :
    Settles sc w (.connection id) (applyConnection sc w id).value := by
  rw [value_applyConnection]
  split
  · rename_i hwired
    exact .done (.connected hwired)
  · exact .failed _

/-- No handler is registered for the effect. -/
def HasNoHandler (reg : Registry) : Effect → Prop
  | .custom kind _ => reg.find? kind = none
  | _ => True

instance (reg : Registry) : DecidablePred (HasNoHandler reg)
  | .custom kind _ => inferInstanceAs (Decidable (reg.find? kind = none))
  | .setFlag _ _ | .advanceQuest _ _ | .giveItem _ _ | .takeItem _ _ | .connection _ | .markTime _
  | .callback => inferInstanceAs (Decidable True)

theorem settles_apply {e : Effect} (h : e.HasNoHandler sc.registry) (hne : e ≠ .callback) :
    Settles sc w e (e.apply sc w).value := by
  cases e with
  | setFlag name value => exact settles_setFlag name value
  | advanceQuest quest stage => exact settles_advanceQuest quest stage
  | giveItem item quantity => exact settles_giveItem item quantity
  | takeItem item quantity => exact settles_takeItem item quantity
  | connection id => exact settles_connection id
  | markTime name => exact settles_markTime name
  | callback => exact absurd rfl hne
  | custom kind args =>
    have hnone : sc.registry.find? kind = none := h
    rw [apply, applyCustom, hnone]
    exact .failed _

/-- What an effect makes of the world is what becomes of every attempt of it. -/
theorem Makes.value_apply {e : Effect} {w' : World} (h : Makes sc w e w') :
    (e.apply sc w).value = .done w' := by
  cases h with
  | flagKept hname => rw [apply, applySetFlag, value_writeFlag, if_pos hname, if_pos rfl]
  | flagSet hname hvalue hwild =>
    rw [apply, applySetFlag, value_writeFlag, if_pos hname, if_neg hwild, hvalue,
      if_neg Bool.false_ne_true]
  | timeMarked hname =>
    rw [apply, applyMarkTime, value_writeFlag, if_pos hname, if_neg w.clock.text_ne_wildcard,
      w.clock.hasSeparator_text, if_neg Bool.false_ne_true]
  | questStarted hnew hknown =>
    rw [apply, value_applyAdvanceQuest, hnew]
    exact if_pos hknown
  | questKept hat =>
    rw [apply, value_applyAdvanceQuest, hat]
    dsimp only
    rw [if_neg (UInt32.lt_irrefl _), if_pos rfl]
  | questAdvanced hat hlt =>
    rw [apply, value_applyAdvanceQuest, hat]
    dsimp only
    rw [if_neg (UInt32.lt_asymm hlt), if_neg (UInt32.ne_of_lt hlt)]
  | coinsGiven hchange =>
    rw [apply, value_applyGiveItem]
    dsimp only
    rw [if_pos rfl, hchange]
  | itemGiven hitem hn hheld =>
    rw [apply, value_applyGiveItem]
    dsimp only
    rw [← hn, if_neg hitem, if_neg (Nat.not_lt_of_le hheld)]
  | coinsTaken hn hpos hheld hchange =>
    rw [apply, value_applyTakeItem]
    dsimp only
    rw [← hn, if_neg hpos, if_pos rfl, if_neg (Nat.not_lt_of_le hheld), hchange]
  | itemTaken hitem hn hpos hheld =>
    rw [apply, value_applyTakeItem]
    dsimp only
    rw [← hn, if_neg hpos, if_neg hitem, if_neg (Nat.not_lt_of_le hheld)]
  | connected hwired => rw [apply, value_applyConnection, if_pos hwired]

theorem Makes.unique {e : Effect} {u v : World} (h : Makes sc w e u) (h' : Makes sc w e v) :
    u = v :=
  Outcome.done.inj (h.value_apply.symm.trans h'.value_apply)

/-- With coins that have worth an attempt comes to one of two ends. -/
theorem makes_or_fails {e : Effect} (h : e.HasNoHandler sc.registry) (hne : e ≠ .callback)
    (hw : w.CoinsHaveWorth) :
    (∃ w', Makes sc w e w' ∧ (e.apply sc w).value = .done w') ∨
      ∃ fault, (e.apply sc w).value = .failed w fault := by
  have hsettles := settles_apply (w := w) h hne
  generalize (e.apply sc w).value = o at hsettles ⊢
  cases hsettles with
  | done hmakes => exact .inl ⟨_, hmakes, rfl⟩
  | failed fault => exact .inr ⟨fault, rfl⟩
  | crashed c hcoin =>
    obtain ⟨coin, hmem, hzero⟩ := hcoin
    exact absurd hzero (Nat.ne_of_gt (hw coin hmem))

/-- No effect of the library's own registers a coin. -/
theorem Makes.coins_eq {e : Effect} {w' : World} (h : Makes sc w e w') : w'.coins = w.coins := by
  cases h with
  | coinsGiven hchange => exact World.coins_giveAll _ _ _
  | coinsTaken hn hpos hheld hchange => rw [World.coins_giveAll, World.coins_emptyPurse]
  | _ => rfl

end Colloquy.Effect

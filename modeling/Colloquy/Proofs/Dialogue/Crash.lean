import Colloquy.Proofs.Dialogue.Commit

/-!
# Colloquy.Proofs.Dialogue.Crash

When an answer is never finished: coins have to be paid out, and one of them is worth nothing.

* `Effect.NeedsCoins`    — carrying out the effect takes coins: the actor is paid, or gets change.
* `apply_eq_crashed_iff` — such an effect crashes if there is a worthless coin, and no other does.
* `speak_crashes_iff_stuck` — an utterance crashes exactly if the effects of the rule that answers
  it get to that. With coins that have worth there is always a reply.
-/

namespace Colloquy

/-! ### One effect -/

namespace Effect

/-- Carrying out the effect takes coins: the actor is paid, or gets change from a purse that holds
more than is taken. -/
def NeedsCoins (sc : Scene) (w : World) : Effect → Prop
  | .giveItem item _ => item = sc.settings.currencyItem
  | .takeItem item quantity =>
    item = sc.settings.currencyItem ∧ quantityTaken sc w item quantity ≠ 0 ∧
      quantityTaken sc w item quantity < w.purse sc.actor.id
  | _ => False

variable {sc : Scene} {w : World} {c : Crash}

theorem applyGiveItem_eq_crashed_iff (item : String) (quantity : UInt64) :
    (applyGiveItem sc w item quantity).value = .crashed c ↔
      ¬w.CoinsHaveWorth ∧ NeedsCoins sc w (.giveItem item quantity) := by
  rw [value_applyGiveItem, World.not_coinsHaveWorth_iff, NeedsCoins]
  dsimp only
  by_cases hitem : item = sc.settings.currencyItem
  · have hpos : max quantity.toNat 1 ≠ 0 := by omega
    have hchange : World.change w.coins (max quantity.toNat 1) = .error (.crashed c) ↔
        ∃ coin ∈ w.coins, coin.value = 0 := by
      rw [World.change_eq_crashed_iff, and_iff_right hpos]
    rw [if_pos hitem, and_iff_left hitem, ← hchange]
    cases World.change w.coins (max quantity.toNat 1) with
    | ok given => simp
    | error stop => cases stop <;> simp
  · rw [if_neg hitem]
    split
    · simp [hitem]
    · simp [hitem]

theorem applyTakeItem_eq_crashed_iff (item : String) (quantity : UInt64) :
    (applyTakeItem sc w item quantity).value = .crashed c ↔
      ¬w.CoinsHaveWorth ∧ NeedsCoins sc w (.takeItem item quantity) := by
  rw [value_applyTakeItem, World.not_coinsHaveWorth_iff, NeedsCoins]
  dsimp only
  by_cases hpos : quantityTaken sc w item quantity = 0
  · simp [hpos]
  by_cases hitem : item = sc.settings.currencyItem
  · rw [if_neg hpos, if_pos hitem, and_iff_right hitem, and_iff_right hpos]
    by_cases hpoor : w.purse sc.actor.id < quantityTaken sc w item quantity
    · have hnot : ¬quantityTaken sc w item quantity < w.purse sc.actor.id := by omega
      simp [hpoor, hnot]
    · have hmore : w.purse sc.actor.id - quantityTaken sc w item quantity ≠ 0 ↔
          quantityTaken sc w item quantity < w.purse sc.actor.id := by omega
      have hchange : World.change w.coins
          (w.purse sc.actor.id - quantityTaken sc w item quantity) = .error (.crashed c) ↔
          quantityTaken sc w item quantity < w.purse sc.actor.id ∧
            ∃ coin ∈ w.coins, coin.value = 0 := by
        rw [World.change_eq_crashed_iff, hmore]
      rw [if_neg hpoor, and_comm, ← hchange]
      cases World.change w.coins (w.purse sc.actor.id - quantityTaken sc w item quantity) with
      | ok given => simp
      | error stop => cases stop <;> simp
  · rw [if_neg hpos, if_neg hitem]
    split
    · simp [hitem]
    · simp [hitem]

theorem applyCustom_ne_crashed (kind : String) (args : List String) :
    (applyCustom sc w kind args).value ≠ .crashed c := by
  unfold applyCustom
  split
  · simp
  · rw [Noted.value_bind]
    split
    · simp
    · simp [done]

theorem writeFlag_ne_crashed (name value what : String) :
    (writeFlag sc w name value what).value ≠ .crashed c := by
  rw [value_writeFlag]
  split
  · split
    · simp
    · split
      · simp
      · simp
  · simp

theorem applyAdvanceQuest_ne_crashed (quest : String) (stage : UInt32) :
    (applyAdvanceQuest sc w quest stage).value ≠ .crashed c := by
  rw [value_applyAdvanceQuest]
  split
  · split
    · simp
    · simp
  · split
    · simp
    · split
      · simp
      · simp

theorem applyConnection_ne_crashed (id : Int64) :
    (applyConnection sc w id).value ≠ .crashed c := by
  unfold applyConnection
  split
  · simp [lacking]
  · simp [done]

/-- An effect crashes if and only if it takes coins and some coin is worth nothing. -/
theorem apply_eq_crashed_iff (e : Effect) :
    (e.apply sc w).value = .crashed c ↔ ¬w.CoinsHaveWorth ∧ e.NeedsCoins sc w := by
  cases e with
  | setFlag name value => simp [apply, applySetFlag, writeFlag_ne_crashed, NeedsCoins]
  | advanceQuest quest stage => simp [apply, applyAdvanceQuest_ne_crashed, NeedsCoins]
  | giveItem item quantity => exact applyGiveItem_eq_crashed_iff item quantity
  | takeItem item quantity => exact applyTakeItem_eq_crashed_iff item quantity
  | connection id => simp [apply, applyConnection_ne_crashed, NeedsCoins]
  | markTime name => simp [apply, applyMarkTime, writeFlag_ne_crashed, NeedsCoins]
  | callback => simp [value_apply_callback, NeedsCoins]
  | custom kind args => simp [apply, applyCustom_ne_crashed, NeedsCoins]

end Effect

/-! ### One answer -/

theorem Outcome.leaves_or_crashed (o : Outcome) : (∃ w, o.Leaves w) ∨ ∃ c, o = .crashed c := by
  cases o with
  | done w => exact .inl ⟨w, .done w⟩
  | failed w fault => exact .inl ⟨w, .failed w fault⟩
  | crashed c => exact .inr ⟨c, rfl⟩

namespace Dialogue

/-- Effects in a row crash if and only if it comes to one that takes worthless coins. -/
theorem runEffects_eq_error_iff {sc : Scene} {es : List Effect} {i : Nat} {w : World} :
    (∃ c, (runEffects sc i es w).value = .error c) ↔
      ∃ before e behind u, es = before ++ e :: behind ∧ (runEffects sc i before w).value = .ok u ∧
        ¬u.CoinsHaveWorth ∧ e.NeedsCoins sc u := by
  induction es generalizing w with
  | nil => simp [runEffects]
  | cons e es ih =>
    obtain ⟨w₁, hleaves⟩ | ⟨c, hcrash⟩ := (e.apply sc w).value.leaves_or_crashed
    · rw [value_runEffects_of_leaves hleaves, ih]
      constructor
      · rintro ⟨before, f, behind, u, rfl, hbefore, hstuck⟩
        exact ⟨e :: before, f, behind, u, rfl,
          by rw [value_runEffects_of_leaves hleaves, hbefore], hstuck⟩
      · rintro ⟨before, f, behind, u, hes, hbefore, hstuck⟩
        cases before with
        | nil =>
          cases hes
          cases hbefore
          have hcrash : (e.apply sc w).value = .crashed .divisionByZero :=
            Effect.apply_eq_crashed_iff e |>.mpr hstuck
          rw [hcrash] at hleaves
          cases hleaves
        | cons f' before =>
          cases hes
          rw [value_runEffects_of_leaves hleaves] at hbefore
          exact ⟨before, f, behind, u, rfl, hbefore, hstuck⟩
    · constructor
      · intro _
        exact ⟨[], e, es, w, rfl, rfl, (Effect.apply_eq_crashed_iff e).mp hcrash⟩
      · intro _
        refine ⟨c, ?_⟩
        rw [runEffects, Noted.value_bind, hcrash]
        rfl

theorem commit_eq_error_iff {d : Dialogue} {s : Selection} {r : HookedRule} {w : World}
    {conv : Conversation} (hr : d.rules[s.index]? = some r) :
    (∃ c, (d.commit w conv s).value = .error c) ↔
      ∃ c, (runEffects (d.scene conv r) s.index s.effects
        (w.say conv.speaker.id conv.actor.id s.response)).value = .error c := by
  rw [value_commit hr]
  cases (runEffects (d.scene conv r) s.index s.effects
    (w.say conv.speaker.id conv.actor.id s.response)).value with
  | error c => simp
  | ok w' => dsimp only; split <;> simp

theorem speak_eq_error_iff {d : Dialogue} {w : World} {conv : Conversation} {utterance : String}
    {draw : UInt32} :
    (∃ c, (d.speak w conv utterance draw).value = .error c) ↔
      ∃ s, (d.select w conv utterance draw).value = some s ∧
        ∃ c, (d.commit w conv s).value = .error c := by
  cases hs : (d.select w conv utterance draw).value with
  | none => simp [value_speak_of_select_eq_none hs]
  | some s =>
    simp only [Option.some.injEq, exists_eq_left']
    cases hcommit : (d.commit w conv s).value with
    | ok w' => simp [value_speak_of_select_eq_some hs hcommit]
    | error c =>
      refine iff_of_true ⟨c, ?_⟩ ⟨c, rfl⟩
      rw [speak, Noted.value_bind, hs, Noted.value_bind, Noted.value_bind, hcommit]
      rfl

theorem coinsHaveWorth_of_runs {sc : Scene} {ms : List Move} {w w' : World}
    (h : Runs sc ms w w') (hrule : sc.rule.KeepsWorth)
    (hms : ∀ e, .attempt e ∈ ms → e.KeepsWorth sc.registry) (hw : w.CoinsHaveWorth) :
    w'.CoinsHaveWorth := by
  induction h with
  | nil => exact hw
  | cons hmove _ ih =>
    refine ih (fun e he => hms e (List.mem_cons_of_mem _ he)) ?_
    exact hmove.coinsHaveWorth hrule (fun e he => hms e (he ▸ List.mem_cons_self)) hw

theorem exists_speak_eq_ok {d : Dialogue} {w : World} (hd : d.KeepsWorth) (hw : w.CoinsHaveWorth)
    (conv : Conversation) (utterance : String) (draw : UInt32) :
    ∃ reply w', (d.speak w conv utterance draw).value = .ok (reply, w') ∧ w'.CoinsHaveWorth := by
  cases hs : (d.select w conv utterance draw).value with
  | none => exact ⟨_, w, value_speak_of_select_eq_none hs, hw⟩
  | some s =>
    obtain ⟨r, hfirst⟩ := exists_isFirst hs
    obtain ⟨w', hruns, hcommit⟩ := runs_commit hd hfirst.rule hfirst.effects hw conv
    refine ⟨_, w', value_speak_of_select_eq_some hs hcommit, ?_⟩
    exact coinsHaveWorth_of_runs hruns (hd.rules r (List.mem_of_getElem? hfirst.rule))
      (fun e _ => hd.effect e) hw

/-- Asking ends in a crash if and only if the rule that answers gets to an effect that takes coins
while one of the coins is worth nothing. So there is a reply if every coin has worth, and stays so;
registering a coin without value is what ends that. -/
theorem speak_crashes_iff_stuck (d : Dialogue) (w : World) (conv : Conversation)
    (utterance : String) (draw : UInt32) :
    ((∃ c, (d.speak w conv utterance draw).value = .error c) ↔
      ∃ s r before e behind u, (d.select w conv utterance draw).value = some s ∧
        d.rules[s.index]? = some r ∧ r.effects = before ++ e :: behind ∧
        (runEffects (d.scene conv r) s.index before
          (w.say conv.speaker.id conv.actor.id s.response)).value = .ok u ∧
        ¬u.CoinsHaveWorth ∧ e.NeedsCoins (d.scene conv r) u) ∧
    (d.KeepsWorth → w.CoinsHaveWorth →
      ∃ reply w', (d.speak w conv utterance draw).value = .ok (reply, w') ∧ w'.CoinsHaveWorth) ∧
    ∀ name value, (w.addCoin name value).CoinsHaveWorth ↔ 0 < value ∧ w.CoinsHaveWorth := by
  refine ⟨?_, fun hd hw => exists_speak_eq_ok hd hw conv utterance draw,
    fun _ _ => World.coinsHaveWorth_addCoin⟩
  rw [speak_eq_error_iff]
  constructor
  · rintro ⟨s, hs, hcommit⟩
    obtain ⟨r, hfirst⟩ := exists_isFirst hs
    rw [commit_eq_error_iff hfirst.rule, runEffects_eq_error_iff, hfirst.effects] at hcommit
    obtain ⟨before, e, behind, u, hstuck⟩ := hcommit
    exact ⟨s, r, before, e, behind, u, hs, hfirst.rule, hstuck⟩
  · rintro ⟨s, r, before, e, behind, u, hs, hr, hstuck⟩
    obtain ⟨r', hfirst⟩ := exists_isFirst hs
    obtain rfl : r = r' := Option.some.inj (hr.symm.trans hfirst.rule)
    refine ⟨s, hs, ?_⟩
    rw [commit_eq_error_iff hr, runEffects_eq_error_iff, hfirst.effects]
    exact ⟨before, e, behind, u, hstuck⟩

/-- Change is due after a flag has been set: with a worthless coin there is no reply, and with coins
that have worth there is one. -/
theorem speak_crashes_iff_stuck_change :
    let conv : Conversation := ⟨⟨⟨7#128⟩, "ada"⟩, ⟨⟨8#128⟩, "gork"⟩, "hall"⟩
    let r := Rule.plain ⟨["*"], ["Three."], [], [.setFlag "paid" "1", .takeItem "money" 3]⟩
    let d : Dialogue := { rules := [r] }
    let w : World :=
      { coins := [⟨"crown", 10⟩], holdings := Table.put (fun _ _ => 0) ⟨7#128⟩ "crown" 1 }
    d.KeepsWorth ∧ w.CoinsHaveWorth ∧
    (∃ reply w', (d.speak w conv "hello" 0).value = .ok (reply, w') ∧ w'.CoinsHaveWorth) ∧
    ¬(w.addCoin "token" 0).CoinsHaveWorth ∧
    ∃ c, (d.speak (w.addCoin "token" 0) conv "hello" 0).value = .error c := by
  intro conv r d w
  have hd : d.KeepsWorth := by
    constructor
    · intro r' hr' a ha
      rw [List.mem_singleton.mp hr'] at ha
      cases ha
    · intro kind h hfind
      cases hfind
  have hw : w.CoinsHaveWorth := by decide
  obtain ⟨-, hreplies, hadd⟩ := speak_crashes_iff_stuck d w conv "hello" 0
  obtain ⟨hcrash, -, -⟩ := speak_crashes_iff_stuck d (w.addCoin "token" 0) conv "hello" 0
  refine ⟨hd, hw, hreplies hd hw, fun h => absurd ((hadd "token" 0).mp h).1 (by decide), ?_⟩
  refine hcrash.mpr ⟨⟨0, "Three.", r.effects⟩, r, [.setFlag "paid" "1"], .takeItem "money" 3, [],
    _, by decide +kernel, rfl, rfl, rfl, ?_, ?_⟩
  · rw [World.not_coinsHaveWorth_iff]
    exact ⟨⟨"token", 0⟩, by decide, rfl⟩
  · exact ⟨rfl, by decide, by decide⟩

/-- The actor is to be paid in a coin that is worth nothing. -/
theorem speak_crashes_worthless_coin :
    let conv : Conversation := ⟨⟨⟨7#128⟩, "ada"⟩, ⟨⟨8#128⟩, "gork"⟩, "hall"⟩
    let d : Dialogue :=
      { rules := [Rule.plain ⟨["*"], ["Here."], [], [.giveItem "money" 1]⟩] }
    ¬∃ reply w', (d.speak (World.addCoin {} "token" 0) conv "hello" 0).value = .ok (reply, w') := by
  intro conv d
  rintro ⟨reply, w', h⟩
  have hcrash : (d.speak (World.addCoin {} "token" 0) conv "hello" 0).value =
      .error .divisionByZero := rfl
  rw [hcrash] at h
  cases h

end Dialogue

end Colloquy

import Colloquy.Proofs.Dialogue.Trail
import Colloquy.Proofs.World.Holdings

/-!
# Colloquy.Proofs.Dialogue.Footprint

What an answer may change in the world, cell by cell.

* `Effect.Handles`   — the counts that an effect may change: whose, and of what.
* `Effect.Footprint` — all that effects in a row may change but what is signalled, and what they
  leave as it was.
* `Attempt.signal?`  — the signal that an attempt sends.
-/

namespace Colloquy

namespace Effect

/-- The effect may change how many of the item the holder has, where these are the coins. -/
def Handles (sc : Scene) (coins : List Coin) (holder : Ident) (item : String) : Effect → Prop
  | .giveItem name _ =>
    if name = sc.settings.currencyItem then holder = sc.actor.id ∧ ∃ c ∈ coins, c.name = item
    else name = item ∧ (holder = sc.actor.id ∨ holder = sc.speaker.id)
  | .takeItem name _ =>
    if name = sc.settings.currencyItem then holder = sc.actor.id ∧ ∃ c ∈ coins, c.name = item
    else name = item ∧ holder = sc.actor.id
  | _ => False

instance (sc : Scene) (coins : List Coin) (holder : Ident) (item : String) :
    DecidablePred (Handles sc coins holder item)
  | .giveItem _ _ | .takeItem _ _ => inferInstanceAs (Decidable (ite _ _ _))
  | .setFlag _ _ | .advanceQuest _ _ | .connection _ | .markTime _ | .callback | .custom _ _ =>
    inferInstanceAs (Decidable False)

/-- What effects carried out in a scene may have changed: one stored text of the actor, stages of
the quests they name, and counts they handle. Who is signalled and what is said is not looked at. -/
structure Footprint (sc : Scene) (es : List Effect) (w w' : World) : Prop where
  keys : ∀ o k, ¬(o = sc.actor.id ∧ k = sc.settings.store.key sc.place) →
    w'.keys o k = w.keys o k
  persisted : ∀ o k, ¬(o = sc.actor.id ∧ k = sc.settings.store.key sc.place) →
    w'.persisted o k = w.persisted o k
  quests : ∀ o q, ¬(o = sc.actor.id ∧ ∃ stage, .advanceQuest q stage ∈ es) →
    w'.quests o q = w.quests o q
  holdings : ∀ o i, (∀ e ∈ es, ¬e.Handles sc w.coins o i) → w'.holdings o i = w.holdings o i
  levels : w'.levels = w.levels
  clock : w'.clock = w.clock
  coins : w'.coins = w.coins
  catalog : w'.catalog = w.catalog
  knownQuests : w'.knownQuests = w.knownQuests
  wired : w'.wired = w.wired

variable {sc : Scene} {e : Effect} {es fs : List Effect} {w u w' : World}

namespace Footprint

theorem refl (sc : Scene) (es : List Effect) (w : World) : Footprint sc es w w := by
  constructor <;> intros <;> rfl

theorem trans (h : Footprint sc es w u) (h' : Footprint sc fs u w') :
    Footprint sc (es ++ fs) w w' where
  keys o k hcell := (h'.keys o k hcell).trans (h.keys o k hcell)
  persisted o k hcell := (h'.persisted o k hcell).trans (h.persisted o k hcell)
  quests o q hcell := by
    have hes : ¬(o = sc.actor.id ∧ ∃ stage, .advanceQuest q stage ∈ es) := by
      rintro ⟨ho, stage, hmem⟩
      exact hcell ⟨ho, stage, List.mem_append_left _ hmem⟩
    have hfs : ¬(o = sc.actor.id ∧ ∃ stage, .advanceQuest q stage ∈ fs) := by
      rintro ⟨ho, stage, hmem⟩
      exact hcell ⟨ho, stage, List.mem_append_right _ hmem⟩
    exact (h'.quests o q hfs).trans (h.quests o q hes)
  holdings o i hnone := by
    obtain ⟨hes, hfs⟩ := List.forall_mem_append.mp hnone
    rw [← h.coins] at hfs
    exact (h'.holdings o i hfs).trans (h.holdings o i hes)
  levels := h'.levels.trans h.levels
  clock := h'.clock.trans h.clock
  coins := h'.coins.trans h.coins
  catalog := h'.catalog.trans h.catalog
  knownQuests := h'.knownQuests.trans h.knownQuests
  wired := h'.wired.trans h.wired

theorem of_stored (name value : String) :
    Footprint sc es w (sc.settings.store.stored w sc.actor.id sc.place name value) :=
  { refl sc es w with
    keys := fun _ _ hcell => Table.put_other _ _ hcell
    persisted := fun _ _ hcell => Table.put_other _ _ hcell }

theorem of_putStage {quest : String} {stage : UInt32} (h : .advanceQuest quest stage ∈ es) :
    Footprint sc es w (w.putStage sc.actor.id quest stage) :=
  { refl sc es w with
    quests := by
      intro o q hcell
      refine Table.put_other _ _ ?_
      rintro ⟨ho, rfl⟩
      exact hcell ⟨ho, stage, h⟩ }

theorem of_holdings {holdings : Table String Nat}
    (h : ∀ o i, (∀ e ∈ es, ¬e.Handles sc w.coins o i) → holdings o i = w.holdings o i) :
    Footprint sc es w { w with holdings := holdings } :=
  { refl sc es w with holdings := h }

/-- Whoever does not have the actor's text has the flags they had. -/
theorem read_eq (h : Footprint sc es w w') {actor : Ident} {place : String}
    (hother : ¬(actor = sc.actor.id ∧ place = sc.place)) (flag : String) :
    (sc.settings.store.read w' actor place flag).value =
      (sc.settings.store.read w actor place flag).value := by
  have hcell : ¬(actor = sc.actor.id ∧
      sc.settings.store.key place = sc.settings.store.key sc.place) := by
    rwa [Flag.Store.key_inj]
  rw [Flag.Store.value_read, Flag.Store.value_read, Flag.Store.packed, Flag.Store.packed,
    h.keys _ _ hcell]

end Footprint

/-! ### One effect -/

theorem Makes.footprint (h : Makes sc w e w') : Footprint sc [e] w w' := by
  cases h with
  | flagKept => exact .refl _ _ _
  | flagSet => exact .of_stored _ _
  | timeMarked => exact .of_stored _ _
  | questStarted => exact .of_putStage List.mem_cons_self
  | questKept => exact .refl _ _ _
  | questAdvanced => exact .of_putStage List.mem_cons_self
  | @coinsGiven quantity given hchange =>
    have hcells : ∀ o i, (∀ e ∈ [giveItem sc.settings.currencyItem quantity],
        ¬e.Handles sc w.coins o i) →
        (w.giveAll sc.actor.id given).holdings o i = w.holdings o i := by
      intro o i hnone
      refine World.holdings_giveAll_other ?_
      rintro ⟨ho, g, hg, rfl⟩
      refine hnone _ List.mem_cons_self ?_
      rw [Handles, if_pos rfl]
      exact ⟨ho, World.exists_coin_of_mem_change hchange hg⟩
    obtain ⟨holdings, hgive⟩ := w.exists_giveAll_eq sc.actor.id given
    rw [hgive] at hcells ⊢
    exact .of_holdings hcells
  | @itemGiven item quantity n hitem =>
    refine .of_holdings fun o i hnone => ?_
    have hcell : ∀ holder, holder = sc.actor.id ∨ holder = sc.speaker.id →
        ¬(o = holder ∧ i = item) := by
      rintro holder hholder ⟨rfl, rfl⟩
      refine hnone _ List.mem_cons_self ?_
      rw [Handles, if_neg hitem]
      exact ⟨rfl, hholder⟩
    exact (Table.put_other _ _ (hcell _ (.inl rfl))).trans
      (Table.put_other _ _ (hcell _ (.inr rfl)))
  | @coinsTaken quantity n given hn hpos hheld hchange =>
    have hcells : ∀ o i, (∀ e ∈ [takeItem sc.settings.currencyItem quantity],
        ¬e.Handles sc w.coins o i) →
        ((w.emptyPurse sc.actor.id).giveAll sc.actor.id given).holdings o i =
          w.holdings o i := by
      intro o i hnone
      have hcell : ¬(o = sc.actor.id ∧ ∃ c ∈ w.coins, c.name = i) := by
        intro h
        refine hnone _ List.mem_cons_self ?_
        rwa [Handles, if_pos rfl]
      rw [World.holdings_giveAll_other, World.holdings_emptyPurse_other]
      · rwa [World.isCoin_iff]
      · rintro ⟨ho, g, hg, rfl⟩
        exact hcell ⟨ho, World.exists_coin_of_mem_change hchange hg⟩
    obtain ⟨emptied, hempty⟩ := w.exists_emptyPurse_eq sc.actor.id
    obtain ⟨holdings, hgive⟩ := (w.emptyPurse sc.actor.id).exists_giveAll_eq sc.actor.id given
    rw [hgive, hempty] at hcells ⊢
    exact .of_holdings hcells
  | @itemTaken item quantity n hitem =>
    refine .of_holdings fun o i hnone => Table.put_other _ _ ?_
    rintro ⟨ho, rfl⟩
    refine hnone _ List.mem_cons_self ?_
    rw [Handles, if_neg hitem]
    exact ⟨rfl, ho⟩
  | connected => constructor <;> intros <;> rfl

theorem IsOwn.footprint (h : e.IsOwn sc) (hleaves : (e.apply sc w).value.Leaves w') :
    Footprint sc [e] w w' := by
  obtain rfl | hmakes := h.eq_or_makes hleaves
  · exact .refl _ _ _
  · exact hmakes.footprint

end Effect

/-- The signal that the attempt sends, if it succeeds in sending one. -/
def Attempt.signal? (a : Attempt) : Option Signal :=
  match a.effect with
  | .connection id => if a.succeeds = true then some ⟨id, true, a.scene.speaker.id⟩ else none
  | _ => none

theorem Attempt.signal?_connection (sc : Scene) (w : World) (id : Int64) :
    signal? ⟨sc, .connection id, w⟩ =
      if World.allows w.wired id = true then some ⟨id, true, sc.speaker.id⟩ else none := by
  have hvalue : outcome ⟨sc, .connection id, w⟩ = _ := Effect.value_applyConnection id
  rw [signal?]
  dsimp only
  by_cases hwired : World.allows w.wired id = true
  · rw [if_pos hwired] at hvalue
    rw [succeeds_of_done hvalue, if_pos hwired, if_pos rfl]
  · rw [if_neg hwired] at hvalue
    rw [succeeds_of_failed hvalue, if_neg hwired, if_neg Bool.false_ne_true]

namespace Effect

variable {sc : Scene} {e : Effect} {w w' : World}

theorem IsOwn.fired_eq (h : e.IsOwn sc) (hleaves : (e.apply sc w).value.Leaves w') :
    w'.fired = w.fired ++ (Attempt.signal? ⟨sc, e, w⟩).toList := by
  cases e with
  | connection id =>
    rw [apply, value_applyConnection] at hleaves
    rw [Attempt.signal?_connection]
    split at hleaves
    · rename_i hwired
      cases hleaves
      rw [if_pos hwired]
      rfl
    · rename_i hwired
      cases hleaves
      rw [if_neg hwired]
      exact (List.append_nil _).symm
  | _ =>
    rw [Attempt.signal?, Option.toList_none, List.append_nil]
    cases h.alters hleaves <;> rfl

end Effect

/-! ### Many effects -/

namespace World

variable {sc : Scene} {es : List Effect} {w w' : World}

theorem footprint_after (hes : ∀ e ∈ es, e.IsOwn sc)
    (h : w.after (es.map (Step.attempt sc)) = .ok w') : Effect.Footprint sc es w w' := by
  induction es generalizing w with
  | nil =>
    cases h
    exact .refl _ _ _
  | cons e es ih =>
    obtain ⟨he, hrest⟩ := List.forall_mem_cons.mp hes
    obtain ⟨w₁, hstep, hafter⟩ := after_cons_eq_ok.mp h
    exact (he.footprint (Step.result_attempt_eq_ok_iff.mp hstep)).trans (ih hrest hafter)

theorem fired_after (hes : ∀ e ∈ es, e.IsOwn sc)
    (h : w.after (es.map (Step.attempt sc)) = .ok w') :
    w'.fired = w.fired ++ (sc.attempts es w).filterMap Attempt.signal? := by
  induction es generalizing w with
  | nil =>
    cases h
    exact (List.append_nil _).symm
  | cons e es ih =>
    obtain ⟨he, hrest⟩ := List.forall_mem_cons.mp hes
    obtain ⟨w₁, hstep, hafter⟩ := after_cons_eq_ok.mp h
    have hleaves := Step.result_attempt_eq_ok_iff.mp hstep
    rw [ih hrest hafter, he.fired_eq hleaves, Scene.attempts_cons_of_leaves hleaves,
      List.append_assoc, List.filterMap_cons]
    cases Attempt.signal? ⟨sc, e, w⟩ <;> rfl

theorem spoken_after (hes : ∀ e ∈ es, e.IsOwn sc)
    (h : w.after (es.map (Step.attempt sc)) = .ok w') : w'.spoken = w.spoken := by
  induction es generalizing w with
  | nil =>
    cases h
    rfl
  | cons e es ih =>
    obtain ⟨he, hrest⟩ := List.forall_mem_cons.mp hes
    obtain ⟨w₁, hstep, hafter⟩ := after_cons_eq_ok.mp h
    rw [ih hrest hafter, (he.alters (Step.result_attempt_eq_ok_iff.mp hstep)).spoken_eq]

end World

/-! ### Answers -/

namespace Turn

variable {t : Turn} {w : World} {r : HookedRule}

theorem footprint_of_rule? (h : t.rule? w = some r) (hclosed : r.IsClosed t.dialogue.registry)
    (hw : w.CoinsHaveWorth) :
    ∃ i line w', t.reply w = .ok (.handled i line, w') ∧
      (t.attempts w).map (·.effect) = r.effects ∧
      Effect.Footprint (t.scene r) r.effects w w' ∧
      w'.fired = w.fired ++ (t.attempts w).filterMap Attempt.signal? ∧
      w'.spoken =
        w.spoken ++ [⟨t.conversation.speaker.id, t.conversation.actor.id, line⟩] := by
  obtain ⟨i, line, w', hreply, hafter, hattempts⟩ := exists_reply_of_rule? h hclosed hw
  have hown := hclosed.isOwn t.conversation
  have hsaid : Effect.Footprint (t.scene r) [] w (t.said line w) := by
    constructor <;> intros <;> rfl
  refine ⟨i, line, w', hreply, ?_, hsaid.trans (World.footprint_after hown hafter), ?_,
    World.spoken_after hown hafter⟩
  · rw [hattempts, Scene.map_effect_attempts hafter]
  · rw [hattempts]
    exact World.fired_after hown hafter

/-- What is said to a rule that no code of the world takes part in changes no more than this: the
actor's flags at this place, the stages of quests that the rule advances, the counts of items that
it gives or takes, with the actor's coins if it pays or charges, a signal for each connection that
succeeds, and one line said. All else stays: everybody else's flags, quests and items, the levels,
the clock, the coins, and what can be created, begun and signalled. -/
theorem answer_footprint (t : Turn) {w : World} (hw : w.CoinsHaveWorth)
    (hclosed : ∀ r, t.rule? w = some r → r.IsClosed t.dialogue.registry) :
    ∃ reply w', t.reply w = .ok (reply, w') ∧
      (t.rule? w = none → reply = .unhandled ∧ w' = w) ∧
      ∀ r, t.rule? w = some r →
        (∃ i line, reply = .handled i line ∧ w'.spoken =
          w.spoken ++ [⟨t.conversation.speaker.id, t.conversation.actor.id, line⟩]) ∧
        (t.attempts w).map (·.effect) = r.effects ∧
        w'.fired = w.fired ++ (t.attempts w).filterMap Attempt.signal? ∧
        Effect.Footprint (t.scene r) r.effects w w' ∧
        ∀ actor place, ¬(actor = t.conversation.actor.id ∧ place = t.conversation.place) →
          ∀ flag, (t.dialogue.settings.store.read w' actor place flag).value =
            (t.dialogue.settings.store.read w actor place flag).value := by
  cases hrule : t.rule? w with
  | none =>
    refine ⟨_, w, (reply_of_rule?_eq_none hrule).1, fun _ => ⟨rfl, rfl⟩, fun r hr => ?_⟩
    cases hr
  | some r =>
    obtain ⟨i, line, w', hreply, heffects, hfootprint, hfired, hspoken⟩ :=
      footprint_of_rule? hrule (hclosed r hrule) hw
    refine ⟨_, w', hreply, fun h => ?_, fun r' hr' => ?_⟩
    · cases h
    · obtain rfl := Option.some.inj hr'
      exact ⟨⟨i, line, rfl, hspoken⟩, heffects, hfired, hfootprint,
        fun _ _ hother => hfootprint.read_eq hother⟩

/-- A toll is paid with a coin for which there is change, one of two connections is wired, and a
torch changes hands. The purse of a bystander, the speaker's purse and the actor's flags elsewhere
are as before. -/
theorem answer_footprint_toll :
    let ada : Ident := ⟨7#128⟩
    let gork : Ident := ⟨8#128⟩
    let bob : Ident := ⟨9#128⟩
    let r := Rule.plain ⟨["*"], ["Pass, $you."], [], [.takeItem "money" 3, .giveItem "torch" 0,
      .connection 4, .connection 5, .setFlag "paid" "1"]⟩
    let t : Turn := ⟨{ rules := [r] }, ⟨⟨ada, "Ada"⟩, ⟨gork, "Gork"⟩, "gate"⟩, "hello", 0⟩
    let w : World :=
      { keys := Table.put (fun _ _ => none) ada "dialog_hall" (some "paid:0")
        holdings := fun o i => if i = "crown" then 1 else if o = gork ∧ i = "torch" then 2 else 0
        coins := [⟨"crown", 10⟩, ⟨"penny", 1⟩]
        wired := [4] }
    w.CoinsHaveWorth ∧ t.rule? w = some r ∧ r.IsClosed t.dialogue.registry ∧
    ∃ w', t.reply w = .ok (.handled 0 "Pass, Ada.", w') ∧
      w'.spoken = [⟨gork, ada, "Pass, Ada."⟩] ∧ w'.fired = [⟨4, true, gork⟩] ∧
      w'.holdings bob "penny" = 0 ∧ w'.holdings bob "torch" = 0 ∧ w'.holdings gork "crown" = 1 ∧
      w'.holdings ada "apple" = 0 ∧
      (t.dialogue.settings.store.read w' ada "hall" "paid").value = "0" := by
  intro ada gork bob r t w
  have hw : w.CoinsHaveWorth := by decide
  have hs : t.selection? w = some ⟨0, "Pass, Ada.", r.effects⟩ := by decide +kernel
  have hrule : t.rule? w = some r := rule?_of_selection? hs
  have hclosed : r.IsClosed t.dialogue.registry := by decide
  obtain ⟨reply, w', hreply, -, hfires⟩ := answer_footprint t hw fun r' hr' =>
    Option.some.inj (hrule.symm.trans hr') ▸ hclosed
  obtain ⟨⟨i, line, rfl, hspoken⟩, -, hfired, hfootprint, hread⟩ := hfires r hrule
  have hline : (t.reply w).toOption.map (·.1) = some (.handled 0 "Pass, Ada.") := by
    decide +kernel
  rw [hreply] at hline
  cases hline
  have hsignals : (t.attempts w).filterMap Attempt.signal? = [⟨4, true, gork⟩] := by
    decide +kernel
  rw [hsignals] at hfired
  exact ⟨hw, hrule, hclosed, w', hreply, hspoken, hfired,
    hfootprint.holdings bob "penny" (by decide), hfootprint.holdings bob "torch" (by decide),
    hfootprint.holdings gork "crown" (by decide), hfootprint.holdings ada "apple" (by decide),
    (hread ada "hall" (by decide) "paid").trans (by decide +kernel)⟩

end Turn

end Colloquy

import Colloquy.Proofs.Dialogue.Footprint
import Colloquy.Proofs.Dialogue.Likeness

/-!
# Colloquy.Proofs.Dialogue.Interleaving

Turns of different actors in any order, where no rule looks at or changes what another has.

* `Effect.IsPersonal`, `Turn.IsPersonal` — effects on what the actor has, and turns that come to
  nothing else.
* `Turn.agreesFor_others` — such a turn changes nothing for anybody but its actor, and
  `Turn.reply_alike` that it depends on nothing but what its actor has.
* `World.talk_of_actor`   — so an actor's own turns go as they would without all others, and
  `World.talk_any_order` that the order among different actors does not matter.
-/

namespace Colloquy

/-! ### What is one's own -/

/-- The effect looks at and changes nothing but what the actor has. -/
def Effect.IsPersonal : Effect → Prop
  | .setFlag _ _ | .advanceQuest _ _ | .takeItem _ _ | .markTime _ => True
  | .giveItem _ _ | .connection _ | .callback | .custom _ _ => False

instance : DecidablePred Effect.IsPersonal
  | .setFlag _ _ | .advanceQuest _ _ | .takeItem _ _ | .markTime _ =>
    inferInstanceAs (Decidable True)
  | .giveItem _ _ | .connection _ | .callback | .custom _ _ => inferInstanceAs (Decidable False)

structure HookedRule.IsPersonal (r : HookedRule) : Prop where
  guard : r.guard = none
  effects : ∀ e ∈ r.effects, e.IsPersonal
  continuation : r.continuation = none

instance (r : HookedRule) : Decidable r.IsPersonal :=
  decidable_of_iff (r.guard = none ∧ (∀ e ∈ r.effects, e.IsPersonal) ∧ r.continuation = none)
    ⟨fun h => ⟨h.1, h.2.1, h.2.2⟩, fun h => ⟨h.guard, h.effects, h.continuation⟩⟩

namespace Effect.IsPersonal

variable {e : Effect} {sc : Scene}

theorem hasNoHandler (h : e.IsPersonal) (reg : Registry) : e.HasNoHandler reg := by
  cases e with
  | custom kind args => cases h
  | _ => exact trivial

theorem ne_callback (h : e.IsPersonal) : e ≠ .callback := by
  rintro rfl
  cases h

theorem concerns (h : e.IsPersonal) : e.Concerns (· = sc.actor.id) sc := by
  refine ⟨rfl, ?_⟩
  rintro item quantity rfl
  cases h

theorem leaves_alike (h : e.IsPersonal) {v w : World} (hw : w.CoinsHaveWorth)
    (hagrees : w.AgreesFor (· = sc.actor.id) v) :
    ∃ w' v', (e.apply sc w).value.Leaves w' ∧ (e.apply sc v).value.Leaves v' ∧
      w'.CoinsHaveWorth ∧ w'.AgreesFor (· = sc.actor.id) v' := by
  obtain ⟨w', v', hw', hv', hagrees', hworth, -, -⟩ :=
    Effect.leaves_alike (h.hasNoHandler sc.registry) h.ne_callback hw hagrees h.concerns
      sc.conversation.actor.name sc.conversation.speaker.name
  exact ⟨w', v', hw', hv', hworth, hagrees'⟩

theorem not_handles {coins : List Coin} {o : Ident} {item : String} (h : e.IsPersonal)
    (ho : o ≠ sc.actor.id) : ¬e.Handles sc coins o item := by
  intro hhandles
  cases e with
  | takeItem name quantity =>
    rw [Handles] at hhandles
    split at hhandles
    · exact ho hhandles.1
    · exact ho hhandles.2
  | giveItem name quantity => cases h
  | _ => cases hhandles

theorem signal?_eq_none {a : Attempt} (h : a.effect.IsPersonal) : a.signal? = none := by
  unfold Attempt.signal?
  split
  · rename_i id heffect
    rw [heffect] at h
    cases h
  · rfl

end Effect.IsPersonal

theorem HookedRule.IsPersonal.isClosed {r : HookedRule} (h : r.IsPersonal) (reg : Registry) :
    r.IsClosed reg :=
  ⟨fun e he => (h.effects e he).hasNoHandler reg, h.continuation⟩

namespace Turn

def actor (t : Turn) : Ident :=
  t.conversation.actor.id

/-- The lines that a reply adds to what was said. -/
def lines (t : Turn) : Reply → List Line
  | .handled _ line => [⟨t.conversation.speaker.id, t.conversation.actor.id, line⟩]
  | .unhandled => []

def IsPersonal (t : Turn) : Prop :=
  ∀ r ∈ t.dialogue.rules, r.IsPersonal

instance (t : Turn) : Decidable t.IsPersonal :=
  inferInstanceAs (Decidable (∀ r ∈ t.dialogue.rules, r.IsPersonal))

variable {t : Turn} {v w : World}

theorem IsPersonal.isClosed (h : t.IsPersonal) : t.dialogue.IsClosed :=
  fun r hr => (h r hr).isClosed _

/-! ### One turn -/

/-- Nothing changes for others than the actor, and the reply is what is said. -/
theorem agreesFor_others (h : t.IsPersonal) (hw : w.CoinsHaveWorth) {reply : Reply} {w' : World}
    (hreply : t.reply w = .ok (reply, w')) :
    w.AgreesFor (· ≠ t.actor) w' ∧ w'.spoken = w.spoken ++ t.lines reply := by
  cases hrule : t.rule? w with
  | none =>
    rw [(reply_of_rule?_eq_none hrule).1] at hreply
    cases hreply
    exact ⟨.refl _ w, (List.append_nil _).symm⟩
  | some r =>
    have hr := h r (mem_rules_of_rule? hrule)
    obtain ⟨i, line, u, hu, heffects, hfootprint, hfired, hspoken⟩ :=
      footprint_of_rule? hrule (hr.isClosed _) hw
    rw [hu] at hreply
    cases hreply
    have hsilent : (t.attempts w).filterMap Attempt.signal? = [] := by
      refine List.filterMap_eq_nil_iff.mpr fun a ha => Effect.IsPersonal.signal?_eq_none ?_
      apply hr.effects
      rw [← heffects]
      exact List.mem_map_of_mem ha
    rw [hsilent, List.append_nil] at hfired
    refine ⟨?_, hspoken⟩
    exact
      { keys := fun o ho => funext fun k => hfootprint.keys o k fun hcell => ho hcell.1
        persisted := fun o ho => funext fun k => hfootprint.persisted o k fun hcell => ho hcell.1
        holdings := fun o ho => funext fun i => hfootprint.holdings o i fun e he =>
          (hr.effects e he).not_handles ho
        quests := fun o ho => funext fun q => hfootprint.quests o q fun hcell => ho hcell.1
        levels := hfootprint.levels
        catalog := hfootprint.catalog
        coins := hfootprint.coins
        knownQuests := hfootprint.knownQuests
        wired := hfootprint.wired
        fired := hfired
        clock := hfootprint.clock }

/-- In worlds that are the same to the actor the turn goes in the same way. -/
theorem reply_alike (h : t.IsPersonal) (hw : w.CoinsHaveWorth)
    (hagrees : w.AgreesFor (· = t.actor) v) :
    ∃ reply w' v', t.reply w = .ok (reply, w') ∧ t.reply v = .ok (reply, v') ∧
      w'.AgreesFor (· = t.actor) v' := by
  have hguards : ∀ r ∈ t.dialogue.rules, ∀ guard, r.guard = some guard →
      (guard t.conversation r.toRule v).value = (guard t.conversation r.toRule w).value := by
    intro r hr guard hguard
    rw [(h r hr).guard] at hguard
    cases hguard
  obtain ⟨hnone, hnone'⟩ | ⟨i, r, hr, hs, hs'⟩ :=
    Dialogue.select_alike hagrees rfl t.conversation.actor.name t.conversation.speaker.name hguards
      t.utterance t.draw t.draw
  · exact ⟨_, w, v, Dialogue.value_speak_of_select_eq_none hnone,
      Dialogue.value_speak_of_select_eq_none hnone', hagrees⟩
  · have hpersonal := h r (List.mem_of_getElem? hr)
    have hnone : (t.scene r).rule.continuation = none := hpersonal.continuation
    have hlast : ∀ u u', u.CoinsHaveWorth ∧ u.AgreesFor (· = t.actor) u' →
        (Effect.runContinuation (t.scene r) u).value.CoinsHaveWorth ∧
          (Effect.runContinuation (t.scene r) u).value.AgreesFor (· = t.actor)
            (Effect.runContinuation (t.scene r) u').value := by
      intro u u' hu
      rw [Effect.value_runContinuation_of_none hnone, Effect.value_runContinuation_of_none hnone]
      exact hu
    have hsaid : (t.said (Dialogue.selectionOf t.conversation t.draw i r).response w).AgreesFor
        (· = t.actor) (t.said (Dialogue.selectionOf t.conversation t.draw i r).response v) :=
      (World.AgreesFor.of_spoken _ w _).symm.trans (hagrees.trans (.of_spoken _ v _))
    obtain ⟨w', v', hcommit, hcommit', -, hagrees'⟩ :=
      Dialogue.commit_alike (R := fun u u' => u.CoinsHaveWorth ∧ u.AgreesFor (· = t.actor) u')
        _ (Dialogue.selectionOf t.conversation t.draw i r) hr rfl rfl rfl
        (fun e he u u' hu => (hpersonal.effects e he).leaves_alike hu.1 hu.2) hlast ⟨hw, hsaid⟩
    exact ⟨_, w', v', Dialogue.value_speak_of_select_eq_some hs hcommit,
      Dialogue.value_speak_of_select_eq_some hs' hcommit', hagrees'⟩

end Turn

/-! ### Many turns -/

/-- All the lines of the replies, in order. -/
def said (ts : List Turn) (replies : List Reply) : List Line :=
  (ts.zip replies).flatMap fun x => x.1.lines x.2

namespace World

variable {ts us : List Turn} {w : World}

theorem spoken_talk (hts : ∀ t ∈ ts, t.IsPersonal) (hw : w.CoinsHaveWorth) {replies : List Reply}
    {w' : World} (h : w.talk ts = .ok (replies, w')) : w'.spoken = w.spoken ++ said ts replies := by
  induction ts generalizing w replies with
  | nil =>
    cases h
    exact (List.append_nil _).symm
  | cons t ts ih =>
    obtain ⟨ht, hrest⟩ := List.forall_mem_cons.mp hts
    obtain ⟨reply, rest, u, rfl, hreply, htalk⟩ := talk_cons_eq_ok.mp h
    obtain ⟨hothers, hspoken⟩ := t.agreesFor_others ht hw hreply
    have hu : u.CoinsHaveWorth := hw.of_coins_eq hothers.coins
    rw [ih hrest hu htalk, hspoken, List.append_assoc]
    rfl

/-- An actor's own turns go as they would if the others kept silent. -/
theorem talk_of_actor (hts : ∀ t ∈ ts, t.IsPersonal) (hw : w.CoinsHaveWorth)
    {replies : List Reply} {w' v : World} (h : w.talk ts = .ok (replies, w')) (actor : Ident)
    (hagrees : w.AgreesFor (· = actor) v) :
    ∃ own v', v.talk (ts.filter (·.actor = actor)) = .ok (own, v') ∧
      w'.AgreesFor (· = actor) v' ∧
      (ts.zip replies).filter (·.1.actor = actor) = (ts.filter (·.actor = actor)).zip own := by
  induction ts generalizing w v replies with
  | nil =>
    cases h
    exact ⟨[], v, rfl, hagrees, rfl⟩
  | cons t ts ih =>
    obtain ⟨ht, hrest⟩ := List.forall_mem_cons.mp hts
    obtain ⟨reply, rest, u, rfl, hreply, htalk⟩ := talk_cons_eq_ok.mp h
    have hothers := (t.agreesFor_others ht hw hreply).1
    have hu : u.CoinsHaveWorth := hw.of_coins_eq hothers.coins
    by_cases hactor : t.actor = actor
    · -- both runs take this turn, in worlds that are the same to the actor
      subst hactor
      obtain ⟨reply', u', v₁, hreply', hown, hagrees₁⟩ := t.reply_alike ht hw hagrees
      rw [hreply] at hreply'
      cases hreply'
      obtain ⟨own, v', htalk', hagrees', hzip⟩ := ih hrest hu htalk hagrees₁
      refine ⟨reply :: own, v', ?_, hagrees', ?_⟩
      · rw [List.filter_cons_of_pos (by simp)]
        exact talk_cons_eq_ok.mpr ⟨reply, own, v₁, rfl, hown, htalk'⟩
      · rw [List.zip_cons_cons, List.filter_cons_of_pos (by simp), hzip,
          List.filter_cons_of_pos (by simp), List.zip_cons_cons]
    · -- only one run takes this turn, and it changes nothing for the actor
      have hsame : w.AgreesFor (· = actor) u := by
        refine hothers.mono ?_
        rintro o rfl
        exact fun heq => hactor heq.symm
      obtain ⟨own, v', htalk', hagrees', hzip⟩ := ih hrest hu htalk (hsame.symm.trans hagrees)
      refine ⟨own, v', ?_, hagrees', ?_⟩
      · rw [List.filter_cons_of_neg (by simpa using hactor)]
        exact htalk'
      · rw [List.zip_cons_cons, List.filter_cons_of_neg (by simpa using hactor), hzip,
          List.filter_cons_of_neg (by simpa using hactor)]

/-- Where everybody's own turns come in the same order, all turns come to the same. -/
theorem talk_any_order (hts : ∀ t ∈ ts, t.IsPersonal) (hus : ∀ t ∈ us, t.IsPersonal)
    (hw : w.CoinsHaveWorth)
    (hsame : ∀ actor, ts.filter (·.actor = actor) = us.filter (·.actor = actor)) :
    ∃ (replies replies' : List Reply) (v : World),
      w.talk ts = .ok (replies, { v with spoken := w.spoken ++ said ts replies }) ∧
      w.talk us = .ok (replies', { v with spoken := w.spoken ++ said us replies' }) ∧
      ∀ actor, (ts.zip replies).filter (·.1.actor = actor) =
        (us.zip replies').filter (·.1.actor = actor) := by
  obtain ⟨replies, v, hv⟩ := exists_talk (fun t ht => (hts t ht).isClosed) hw
  obtain ⟨replies', v', hv'⟩ := exists_talk (fun t ht => (hus t ht).isClosed) hw
  have hown : ∀ actor, v.AgreesFor (· = actor) v' ∧
      (ts.zip replies).filter (·.1.actor = actor) =
        (us.zip replies').filter (·.1.actor = actor) := by
    intro actor
    obtain ⟨own, u, hu, hagrees, hzip⟩ := talk_of_actor hts hw hv actor (.refl _ w)
    obtain ⟨own', u', hu', hagrees', hzip'⟩ := talk_of_actor hus hw hv' actor (.refl _ w)
    rw [hsame actor, hu'] at hu
    cases hu
    rw [hsame actor] at hzip
    exact ⟨hagrees.trans hagrees'.symm, hzip.trans hzip'.symm⟩
  have heq := (AgreesFor.of_forall fun actor => (hown actor).1).eq_of_all
  refine ⟨replies, replies', v, ?_, ?_, fun actor => (hown actor).2⟩
  · rw [← spoken_talk hts hw hv]
    exact hv
  · rw [← spoken_talk hus hw hv', ← heq]
    exact hv'

theorem exists_talk_pair {t u : Turn} {replies : List Reply} {w' : World}
    (h : w.talk [t, u] = .ok (replies, w')) : ∃ first second, replies = [first, second] := by
  obtain ⟨first, rest, x, rfl, -, hrest⟩ := talk_cons_eq_ok.mp h
  obtain ⟨second, rest', y, rfl, -, hnil⟩ := talk_cons_eq_ok.mp hrest
  cases hnil
  exact ⟨first, second, rfl⟩

theorem filter_actor_pair {t u : Turn} (hne : t.actor ≠ u.actor) (actor : Ident) :
    [t, u].filter (·.actor = actor) = [u, t].filter (·.actor = actor) := by
  by_cases ht : t.actor = actor
  · have hu : u.actor ≠ actor := fun hu => hne (ht.trans hu.symm)
    simp [ht, hu]
  · by_cases hu : u.actor = actor
    · simp [ht, hu]
    · simp [ht, hu]

/-- Turns of different actors may change places, where rules have no code attached and their effects
are personal: each gets the same reply, and what is left is the same world but for the order of
what was said. So may any number of turns, as long as everybody's own stay in their order. -/
theorem personal_turns_commute {w : World} (hw : w.CoinsHaveWorth) :
    (∀ t u : Turn, t.IsPersonal → u.IsPersonal → t.actor ≠ u.actor →
      ∃ (reply reply' : Reply) (v : World),
        w.talk [t, u] = .ok ([reply, reply'],
          { v with spoken := w.spoken ++ (t.lines reply ++ u.lines reply') }) ∧
        w.talk [u, t] = .ok ([reply', reply],
          { v with spoken := w.spoken ++ (u.lines reply' ++ t.lines reply) })) ∧
    ∀ ts us : List Turn, (∀ t ∈ ts, t.IsPersonal) → (∀ u ∈ us, u.IsPersonal) →
      (∀ actor, ts.filter (·.actor = actor) = us.filter (·.actor = actor)) →
      ∃ (replies replies' : List Reply) (v : World),
        w.talk ts = .ok (replies, { v with spoken := w.spoken ++ said ts replies }) ∧
        w.talk us = .ok (replies', { v with spoken := w.spoken ++ said us replies' }) ∧
        ∀ actor, (ts.zip replies).filter (·.1.actor = actor) =
          (us.zip replies').filter (·.1.actor = actor) := by
  constructor
  · intro t u ht hu hne
    have htu : ∀ t' ∈ [t, u], t'.IsPersonal := by simp [ht, hu]
    have hut : ∀ t' ∈ [u, t], t'.IsPersonal := by simp [ht, hu]
    obtain ⟨replies, replies', v, htalk, htalk', hown⟩ :=
      talk_any_order htu hut hw (filter_actor_pair hne)
    obtain ⟨reply, reply', rfl⟩ := exists_talk_pair htalk
    obtain ⟨first, second, rfl⟩ := exists_talk_pair htalk'
    have hfirst : second = reply := by
      have hreply := hown t.actor
      simp only [List.zip_cons_cons, List.filter_cons, hne.symm] at hreply
      simpa using hreply.symm
    have hsecond : first = reply' := by
      have hreply := hown u.actor
      simp only [List.zip_cons_cons, List.filter_cons, hne] at hreply
      simpa using hreply.symm
    subst hfirst hsecond
    refine ⟨second, first, v, ?_, ?_⟩
    · simpa [said] using htalk
    · simpa [said] using htalk'
  · intro ts us hts hus hsame
    exact talk_any_order hts hus hw hsame

/-- Ada pays Bob a toll with a coin for which there is change, and Bob, asked by Ada, begins a quest
and is left without apples. -/
theorem personal_turns_commute_toll :
    let ada : Entity := ⟨⟨7#128⟩, "Ada"⟩
    let bob : Entity := ⟨⟨8#128⟩, "Bob"⟩
    let toll := Rule.plain ⟨["*"], ["Pass."], [.item "money" 3], [.takeItem "money" 3,
      .setFlag "paid" "1", .markTime "since"]⟩
    let fee := Rule.plain ⟨["*"], ["Agreed."], [], [.takeItem "apple" 0,
      .advanceQuest "gate" 2]⟩
    let t : Turn := ⟨{ rules := [toll] }, ⟨ada, bob, "gate"⟩, "hello", 0⟩
    let u : Turn := ⟨{ rules := [fee] }, ⟨bob, ada, "gate"⟩, "hello", 0⟩
    let w : World :=
      { holdings := fun _ i => if i = "crown" then 1 else if i = "apple" then 2 else 0
        coins := [⟨"crown", 10⟩, ⟨"penny", 1⟩] }
    w.CoinsHaveWorth ∧ t.IsPersonal ∧ u.IsPersonal ∧ t.actor ≠ u.actor ∧
    (∃ v : World,
      w.talk [t, u] = .ok ([.handled 0 "Pass.", .handled 0 "Agreed."],
        { v with spoken := [⟨bob.id, ada.id, "Pass."⟩, ⟨ada.id, bob.id, "Agreed."⟩] }) ∧
      w.talk [u, t] = .ok ([.handled 0 "Agreed.", .handled 0 "Pass."],
        { v with spoken := [⟨ada.id, bob.id, "Agreed."⟩, ⟨bob.id, ada.id, "Pass."⟩] })) ∧
    ∃ (replies replies' : List Reply) (v : World),
      w.talk [t, u, t] = .ok (replies, { v with spoken := said [t, u, t] replies }) ∧
      w.talk [t, t, u] = .ok (replies', { v with spoken := said [t, t, u] replies' }) := by
  intro ada bob toll fee t u w
  have hw : w.CoinsHaveWorth := by decide
  have ht : t.IsPersonal := by decide
  have hu : u.IsPersonal := by decide
  have hne : t.actor ≠ u.actor := by decide
  obtain ⟨htwo, hmany⟩ := personal_turns_commute hw
  obtain ⟨reply, reply', v, htalk, htalk'⟩ := htwo t u ht hu hne
  have hreplies : (w.talk [t, u]).toOption.map (·.1) =
      some [.handled 0 "Pass.", .handled 0 "Agreed."] := by decide +kernel
  rw [htalk] at hreplies
  cases hreplies
  have hpersonal : ∀ ts : List Turn, (∀ t' ∈ ts, t' = t ∨ t' = u) → ∀ t' ∈ ts, t'.IsPersonal := by
    intro ts hts t' ht'
    obtain rfl | rfl := hts t' ht'
    · exact ht
    · exact hu
  obtain ⟨replies, replies', v', hthree, hthree', -⟩ :=
    hmany [t, u, t] [t, t, u] (hpersonal _ (by simp)) (hpersonal _ (by simp)) fun actor => by
      rw [List.filter_cons, @List.filter_cons Turn t [t, u], filter_actor_pair hne.symm]
  exact ⟨hw, ht, hu, hne, ⟨v, htalk, htalk'⟩, replies, replies', v', hthree, hthree'⟩

end World

end Colloquy

import Colloquy.Proofs.Dialogue.Likeness

/-!
# Colloquy.Proofs.Dialogue.Names

Names and chance have a part in what is said, and in nothing else.

* `IsUnswayed`         — what is asked of code attached to a dialogue: that it goes by who people
  are, and not by their names.
* `World.Abreast`      — two worlds that came about in the same way from worlds that differ in what
  had been said.
* `Effect.abreast_apply`, `abreast_runContinuation` — every step keeps them abreast.
* `Dialogue.speak_by_other_names` — so one conversation goes as the other, but for one line.
-/

namespace Colloquy

/-! ### Code that goes by who people are -/

def Guard.IsUnswayed (g : Guard) : Prop :=
  ∀ conv r w actor speaker, (g (conv.renamed actor speaker) r w).value = (g conv r w).value

/-- The change is the same by whatever names people go. It may have more said, and does not hear
what was said before it. -/
def ChangesAlike (change : Conversation → World → World) : Prop :=
  ∀ conv w lines actor speaker, ∃ said,
    (change conv w).spoken = w.spoken ++ said ∧
      change (conv.renamed actor speaker) { w with spoken := lines } =
        { change conv w with spoken := lines ++ said }

def Action.IsUnswayed (a : Action) : Prop :=
  ∀ r, ChangesAlike fun conv w => (a conv r w).value

/-- A handler may still complain in other words. -/
def Handler.IsUnswayed (h : Handler) : Prop :=
  ∀ args, ChangesAlike fun conv w => (h conv args w).value.1

def HookedRule.IsUnswayed (r : HookedRule) : Prop :=
  (∀ g, r.guard = some g → g.IsUnswayed) ∧ ∀ a, r.continuation = some a → a.IsUnswayed

def Registry.IsUnswayed (reg : Registry) : Prop :=
  ∀ kind h, reg.find? kind = some h → h.IsUnswayed

/-- No code attached to the dialogue goes by the names of people. Among the services that such code
has of the world there is one to speak, and none to hear what was said. -/
structure Dialogue.IsUnswayed (d : Dialogue) : Prop where
  rules : ∀ r ∈ d.rules, r.IsUnswayed
  registry : d.registry.IsUnswayed

/-! ### Worlds abreast -/

/-- The worlds came about from `w₀` and `v₀` in the same way, and differ as these do: in what had
been said there. -/
structure World.Abreast (w₀ v₀ w v : World) : Prop where
  worth : w.CoinsHaveWorth
  said : ∃ said, w.spoken = w₀.spoken ++ said ∧ v = { w with spoken := v₀.spoken ++ said }

namespace World.Abreast

variable {w₀ v₀ w v : World}

/-- So are worlds that differ in what had been said and have come no further. -/
theorem refl (hw : w.CoinsHaveWorth) (h : v = { w with spoken := v.spoken }) :
    Abreast w v w v := by
  refine ⟨hw, [], (List.append_nil _).symm, ?_⟩
  rw [List.append_nil]
  exact h

theorem changed (h : Abreast w₀ v₀ w v) {change : Conversation → World → World}
    (halike : ChangesAlike change) {conv : Conversation}
    (hworth : (change conv w).CoinsHaveWorth) (actor speaker : String) :
    Abreast w₀ v₀ (change conv w) (change (conv.renamed actor speaker) v) := by
  obtain ⟨said, hspoken, rfl⟩ := h.said
  obtain ⟨more, hmore, hchange⟩ := halike conv w (v₀.spoken ++ said) actor speaker
  refine ⟨hworth, said ++ more, ?_, ?_⟩
  · rw [hmore, hspoken, List.append_assoc]
  · rw [hchange, List.append_assoc]

end World.Abreast

namespace Effect

variable {sc : Scene} {w₀ v₀ w v : World}

theorem abreast_runContinuation (hkeeps : sc.rule.KeepsWorth) (hrule : sc.rule.IsUnswayed)
    (h : World.Abreast w₀ v₀ w v) (actor speaker : String) :
    World.Abreast w₀ v₀ (runContinuation sc w).value
      (runContinuation (sc.renamed actor speaker) v).value := by
  have hworth := coinsHaveWorth_runContinuation hkeeps h.worth
  cases hcont : sc.rule.continuation with
  | none =>
    have hcont' : (sc.renamed actor speaker).rule.continuation = none := hcont
    rw [value_runContinuation_of_none hcont, value_runContinuation_of_none hcont']
    exact h
  | some a =>
    have hcont' : (sc.renamed actor speaker).rule.continuation = some a := hcont
    rw [runContinuation, hcont] at hworth
    rw [runContinuation, hcont, runContinuation, hcont']
    exact h.changed (hrule.2 a hcont sc.rule.toRule) hworth actor speaker

theorem abreast_apply {e : Effect} (hkeeps : sc.rule.KeepsWorth)
    (hkeeps' : e.KeepsWorth sc.registry) (hrule : sc.rule.IsUnswayed)
    (hregistry : sc.registry.IsUnswayed) (h : World.Abreast w₀ v₀ w v) (actor speaker : String) :
    ∃ w' v', (e.apply sc w).value.Leaves w' ∧
      (e.apply (sc.renamed actor speaker) v).value.Leaves v' ∧ World.Abreast w₀ v₀ w' v' := by
  by_cases hcallback : e = .callback
  · rw [hcallback]
    exact ⟨_, _, .done _, .done _, abreast_runContinuation hkeeps hrule h actor speaker⟩
  by_cases hnone : e.HasNoHandler sc.registry
  · obtain ⟨said, hspoken, rfl⟩ := h.said
    obtain ⟨w', v', hw', hv', hagrees, hworth, hw'said, hv'said⟩ :=
      leaves_alike hnone hcallback h.worth (.of_spoken (fun _ => True) w _)
        ⟨trivial, fun _ _ _ => trivial⟩ actor speaker
    have hlines : v'.spoken = v₀.spoken ++ said := hv'said
    refine ⟨w', v', hw', hv', hworth, said, hw'said.trans hspoken, ?_⟩
    rw [← hlines]
    exact hagrees.eq_of_all
  · cases e with
    | custom kind args =>
      cases hfind : sc.registry.find? kind with
      | none => exact absurd hfind hnone
      | some handler =>
        have hfind' : (sc.renamed actor speaker).registry.find? kind = some handler := hfind
        exact ⟨_, _, leaves_apply_custom hfind args w, leaves_apply_custom hfind' args v,
          h.changed (hregistry kind handler hfind args)
            (hkeeps' handler hfind sc.conversation args w h.worth) actor speaker⟩
    | _ => exact absurd trivial hnone

end Effect

/-! ### Conversations -/

namespace Dialogue

theorem abreast_commit {d : Dialogue} (hd : d.KeepsWorth) (hcode : d.IsUnswayed)
    (s s' : Selection) {r : HookedRule} (hr : d.rules[s.index]? = some r)
    (hindex : s'.index = s.index) (heffects : s.effects = r.effects)
    (heffects' : s'.effects = r.effects) {w : World} (hw : w.CoinsHaveWorth) (conv : Conversation)
    (actor speaker : String) :
    ∃ w' v', (d.commit w conv s).value = .ok w' ∧
      (d.commit w (conv.renamed actor speaker) s').value = .ok v' ∧
      World.Abreast (w.say conv.speaker.id conv.actor.id s.response)
        (w.say conv.speaker.id conv.actor.id s'.response) w' v' := by
  have hmem := List.mem_of_getElem? hr
  have hkeeps : (d.scene conv r).rule.KeepsWorth := hd.rules r hmem
  have hrule : (d.scene conv r).rule.IsUnswayed := hcode.rules r hmem
  refine commit_alike (R := World.Abreast (w.say conv.speaker.id conv.actor.id s.response)
    (w.say conv.speaker.id conv.actor.id s'.response)) s s' hr hindex heffects heffects' ?_ ?_
    (.refl hw rfl)
  · exact fun e _ u v h => Effect.abreast_apply hkeeps (hd.effect e) hrule hcode.registry h actor
      speaker
  · exact fun u v h => Effect.abreast_runContinuation hkeeps hrule h actor speaker

/-- By whatever names people go, and whatever is drawn, the same rule answers or none does. The
world that is left is the same but for the line that the rule says, and that is one of its
responses in either case, with the names filled in. -/
theorem speak_by_other_names {d : Dialogue} (hd : d.KeepsWorth) (hcode : d.IsUnswayed) {w : World}
    (hw : w.CoinsHaveWorth) (conv : Conversation) (actor speaker utterance : String)
    (draw draw' : UInt32) :
    ((d.speak w conv utterance draw).value = .ok (.unhandled, w) ∧
      (d.speak w (conv.renamed actor speaker) utterance draw').value = .ok (.unhandled, w)) ∨
    ∃ (i : Nat) (r : HookedRule) (line line' : String) (said : List Line) (u : World),
      d.rules[i]? = some r ∧
      (d.speak w conv utterance draw).value =
        .ok (.handled i line,
          { u with spoken := w.spoken ++ ⟨conv.speaker.id, conv.actor.id, line⟩ :: said }) ∧
      (d.speak w (conv.renamed actor speaker) utterance draw').value =
        .ok (.handled i line',
          { u with spoken := w.spoken ++ ⟨conv.speaker.id, conv.actor.id, line'⟩ :: said }) ∧
      (r.responses ≠ [] →
        (∃ text ∈ r.responses,
          line = Placeholder.fill conv.speaker.name conv.actor.name text) ∧
        ∃ text ∈ r.responses, line' = Placeholder.fill speaker actor text) := by
  have hguards : ∀ r ∈ d.rules, ∀ guard, r.guard = some guard →
      (guard (conv.renamed actor speaker) r.toRule w).value = (guard conv r.toRule w).value :=
    fun r hr guard hguard => (hcode.rules r hr).1 guard hguard conv r.toRule w actor speaker
  obtain ⟨hnone, hnone'⟩ | ⟨i, r, hr, hs, hs'⟩ :=
    select_alike (.refl (fun _ => True) w) trivial actor speaker hguards utterance draw draw'
  · exact .inl ⟨value_speak_of_select_eq_none hnone, value_speak_of_select_eq_none hnone'⟩
  · obtain ⟨u, v, hcommit, hcommit', habreast⟩ :=
      abreast_commit hd hcode (selectionOf conv draw i r)
        (selectionOf (conv.renamed actor speaker) draw' i r) hr rfl rfl rfl hw conv actor speaker
    obtain ⟨said, hspoken, rfl⟩ := habreast.said
    have hlines : u.spoken = w.spoken ++
        ⟨conv.speaker.id, conv.actor.id, (selectionOf conv draw i r).response⟩ :: said := by
      rw [List.append_cons, hspoken]
      rfl
    refine .inr ⟨i, r, (selectionOf conv draw i r).response,
      (selectionOf (conv.renamed actor speaker) draw' i r).response, said, u, hr, ?_, ?_,
      fun hresponses => ?_⟩
    · rw [← hlines]
      exact value_speak_of_select_eq_some hs hcommit
    · rw [List.append_cons]
      exact value_speak_of_select_eq_some hs' hcommit'
    · exact ⟨⟨_, Rule.response_mem hresponses draw, rfl⟩, _, Rule.response_mem hresponses draw',
        rfl⟩

/-- A guard looks for a torch, a payment fails in the actor's name, a bell is rung, and a quest is
begun at the end. The countess and the troll are told something else than Ada is by Gork. -/
theorem speak_by_other_names_bell :
    let ada : Ident := ⟨7#128⟩
    let gork : Ident := ⟨8#128⟩
    let conv : Conversation := ⟨⟨ada, "Ada"⟩, ⟨gork, "Gork"⟩, "gate"⟩
    let r : HookedRule :=
      { keywords := ["*"]
        responses := ["Halt, $you.", "I am $me."]
        effects := [.takeItem "gold" 2, .custom "ring" []]
        guard := some fun conv _ w => pure (decide (w.count conv.actor.id "torch" = 1))
        continuation := some fun conv _ w => pure (w.putStage conv.actor.id "gate" 1) }
    let ring : Handler := fun conv _ w =>
      pure (w.say conv.speaker.id conv.actor.id "Ding.", some ("no bell for " ++ conv.actor.name))
    let d : Dialogue := { rules := [r], registry := ⟨[("ring", ring)]⟩ }
    let w : World := { holdings := Table.put (fun _ _ => 0) ada "torch" 1 }
    d.KeepsWorth ∧ d.IsUnswayed ∧ w.CoinsHaveWorth ∧ r.responses ≠ [] ∧
    ∃ (said : List Line) (u : World),
      (d.speak w conv "hello" 0).value =
        .ok (.handled 0 "Halt, Ada.", { u with spoken := ⟨gork, ada, "Halt, Ada."⟩ :: said }) ∧
      (d.speak w (conv.renamed "Countess" "Troll") "hello" 0x80000000).value =
        .ok (.handled 0 "I am Troll.", { u with spoken := ⟨gork, ada, "I am Troll."⟩ :: said }) := by
  intro ada gork conv r ring d w
  have hring : ∀ kind h, d.registry.find? kind = some h → h = ring := by
    intro kind h hfind
    have heq : ("ring" == kind) = true ∧ ring = h := by simpa [d, Registry.find?] using hfind
    exact heq.2.symm
  have hd : d.KeepsWorth := by
    constructor
    · intro r' hr' a ha
      rw [List.mem_singleton.mp hr'] at ha
      cases ha
      exact fun _ _ _ hv => hv
    · intro kind h hfind
      rw [hring kind h hfind]
      exact fun _ _ _ hv => hv
  have hcode : d.IsUnswayed := by
    constructor
    · intro r' hr'
      rw [List.mem_singleton.mp hr']
      constructor
      · intro g hg
        cases hg
        exact fun _ _ _ _ _ => rfl
      · intro a ha
        cases ha
        intro _ conv w lines _ _
        exact ⟨[], (List.append_nil _).symm, by rw [List.append_nil]; rfl⟩
    · intro kind h hfind
      rw [hring kind h hfind]
      exact fun _ conv _ _ _ _ => ⟨[⟨conv.speaker.id, conv.actor.id, "Ding."⟩], rfl, rfl⟩
  have hw : w.CoinsHaveWorth := by decide
  have hfirst : (d.speak w conv "hello" 0).value.toOption.map (·.1) =
      some (.handled 0 "Halt, Ada.") := by decide +kernel
  have hsecond : (d.speak w (conv.renamed "Countess" "Troll") "hello" 0x80000000).value.toOption.map
      (·.1) = some (.handled 0 "I am Troll.") := by decide +kernel
  obtain ⟨hnone, -⟩ | ⟨i, r', line, line', said, u, -, hspeak, hspeak', -⟩ :=
    speak_by_other_names hd hcode hw conv "Countess" "Troll" "hello" 0 0x80000000
  · rw [hnone] at hfirst
    cases hfirst
  · rw [hspeak] at hfirst
    rw [hspeak'] at hsecond
    cases hfirst
    cases hsecond
    exact ⟨hd, hcode, hw, List.cons_ne_nil _ _, said, u, hspeak, hspeak'⟩

end Dialogue

end Colloquy

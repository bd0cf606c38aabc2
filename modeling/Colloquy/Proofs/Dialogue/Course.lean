import Colloquy.Proofs.Dialogue.Failure

/-!
# Colloquy.Proofs.Dialogue.Course

The course of events: effects attempted one after the other, by any rules in any conversations,
while the clock is set anew now and then.

* `Step`, `World.after`   — what can happen, and the world after many such steps.
* `Effect.IsOwn`          — no code of the world takes part in the effect.
* `Effect.Alters`         — the part of the world that such an effect changes.
-/

namespace Colloquy

/-! ### Steps -/

inductive Step where
  /-- An effect is attempted. -/
  | attempt (sc : Scene) (e : Effect)
  /-- The clock shows another time. -/
  | clock (now : Moment)

/-- The world that is left, whether the effect was carried out or failed. -/
def Outcome.result : Outcome → Except Crash World
  | .done w => .ok w
  | .failed w _ => .ok w
  | .crashed c => .error c

def Step.result (w : World) : Step → Except Crash World
  | .attempt sc e => (e.apply sc w).value.result
  | .clock now => .ok { w with clock := now }

/-- The world after steps taken one after the other. -/
def World.after (w : World) : List Step → Except Crash World
  | [] => .ok w
  | s :: ss =>
    match s.result w with
    | .error c => .error c
    | .ok w => w.after ss

theorem Outcome.result_eq_ok_iff {o : Outcome} {w : World} : o.result = .ok w ↔ o.Leaves w := by
  cases o with
  | done w₁ =>
    constructor
    · intro h
      cases h
      exact .done w
    · intro h
      cases h
      rfl
  | failed w₁ fault =>
    constructor
    · intro h
      cases h
      exact .failed w fault
    · intro h
      cases h
      rfl
  | crashed c =>
    constructor
    · intro h
      cases h
    · intro h
      cases h

namespace World

variable {w w' : World} {s : Step} {ss ts : List Step}

theorem after_cons_eq_ok :
    w.after (s :: ss) = .ok w' ↔ ∃ w₁, s.result w = .ok w₁ ∧ w₁.after ss = .ok w' := by
  rw [after]
  cases s.result w with
  | error c => simp
  | ok w₁ => simp

theorem after_append_eq_ok :
    w.after (ss ++ ts) = .ok w' ↔ ∃ u, w.after ss = .ok u ∧ u.after ts = .ok w' := by
  induction ss generalizing w with
  | nil => simp [after]
  | cons s ss ih =>
    rw [List.cons_append, after_cons_eq_ok]
    constructor
    · rintro ⟨w₁, hstep, hrest⟩
      obtain ⟨u, hu, hw'⟩ := ih.mp hrest
      exact ⟨u, after_cons_eq_ok.mpr ⟨w₁, hstep, hu⟩, hw'⟩
    · rintro ⟨u, hu, hw'⟩
      obtain ⟨w₁, hstep, hrest⟩ := after_cons_eq_ok.mp hu
      exact ⟨w₁, hstep, ih.mpr ⟨u, hrest, hw'⟩⟩

end World

/-- The effects of a rule, carried out in order, are such steps. -/
theorem Dialogue.value_runEffects_eq_after (sc : Scene) (i : Nat) (es : List Effect) (w : World) :
    (runEffects sc i es w).value = w.after (es.map (Step.attempt sc)) := by
  induction es generalizing w with
  | nil => rfl
  | cons e es ih =>
    rw [runEffects, Noted.value_bind, List.map_cons, World.after, Step.result]
    cases (e.apply sc w).value with
    | done w₁ => exact ih w₁
    | failed w₁ fault => exact ih w₁
    | crashed c => rfl

/-! ### The library's own effects -/

namespace Effect

variable {sc : Scene} {e : Effect} {w w' : World}

/-- No code of the world takes part: nobody registered a handler for the effect, and a callback
finds no continuation. -/
def IsOwn (sc : Scene) (e : Effect) : Prop :=
  e.HasNoHandler sc.registry ∧ (e = .callback → sc.rule.continuation = none)

instance (sc : Scene) (e : Effect) : Decidable (e.IsOwn sc) :=
  inferInstanceAs (Decidable (_ ∧ _))

/-- The one part of the world that an effect changes, if it changes anything. -/
inductive Alters (w : World) : Effect → World → Prop where
  | nothing {e : Effect} : Alters w e w
  | setFlag {name value : String} (keys : Table String (Option String))
      (persisted : Table String Bool) :
      Alters w (.setFlag name value) { w with keys := keys, persisted := persisted }
  | markTime {name : String} (keys : Table String (Option String))
      (persisted : Table String Bool) :
      Alters w (.markTime name) { w with keys := keys, persisted := persisted }
  | advanceQuest {quest : String} {stage : UInt32} (quests : Table String (Option UInt32)) :
      Alters w (.advanceQuest quest stage) { w with quests := quests }
  | giveItem {item : String} {quantity : UInt64} (holdings : Table String Nat) :
      Alters w (.giveItem item quantity) { w with holdings := holdings }
  | takeItem {item : String} {quantity : UInt64} (holdings : Table String Nat) :
      Alters w (.takeItem item quantity) { w with holdings := holdings }
  | connection {id : Int64} (fired : List Signal) :
      Alters w (.connection id) { w with fired := fired }

theorem Makes.alters (h : Makes sc w e w') : Alters w e w' := by
  cases h with
  | flagKept => exact .nothing
  | flagSet => exact .setFlag _ _
  | timeMarked => exact .markTime _ _
  | questStarted => exact .advanceQuest _
  | questKept => exact .nothing
  | questAdvanced => exact .advanceQuest _
  | @coinsGiven _ given hchange =>
    obtain ⟨holdings, hgive⟩ := w.exists_giveAll_eq sc.actor.id given
    rw [hgive]
    exact .giveItem holdings
  | itemGiven => exact .giveItem _
  | @coinsTaken _ _ given =>
    obtain ⟨emptied, hempty⟩ := w.exists_emptyPurse_eq sc.actor.id
    obtain ⟨holdings, hgive⟩ := (w.emptyPurse sc.actor.id).exists_giveAll_eq sc.actor.id given
    rw [hgive, hempty]
    exact .takeItem holdings
  | itemTaken => exact .takeItem _
  | connected => exact .connection _

/-- Such an effect leaves the world as it was, or makes of it what it is there for. -/
theorem IsOwn.eq_or_makes (h : e.IsOwn sc) (hleaves : (e.apply sc w).value.Leaves w') :
    w' = w ∨ Makes sc w e w' := by
  by_cases hcallback : e = .callback
  · rw [hcallback, value_apply_callback, value_runContinuation_of_none (h.2 hcallback)] at hleaves
    cases hleaves
    exact .inl rfl
  · have hsettles := settles_apply (w := w) h.1 hcallback
    generalize (e.apply sc w).value = o at hleaves hsettles
    cases hsettles with
    | done hmakes =>
      cases hleaves
      exact .inr hmakes
    | failed fault =>
      cases hleaves
      exact .inl rfl
    | crashed c hcoin => cases hleaves

theorem IsOwn.alters (h : e.IsOwn sc) (hleaves : (e.apply sc w).value.Leaves w') :
    Alters w e w' := by
  obtain rfl | hmakes := h.eq_or_makes hleaves
  · exact .nothing
  · exact hmakes.alters

namespace Alters

/-- What no effect changes. -/
theorem same_ground (h : Alters w e w') :
    w'.coins = w.coins ∧ w'.knownQuests = w.knownQuests ∧ w'.clock = w.clock := by
  cases h <;> exact ⟨rfl, rfl, rfl⟩

theorem spoken_eq (h : Alters w e w') : w'.spoken = w.spoken := by
  cases h <;> rfl

theorem quests_eq (h : Alters w e w') (hne : ∀ quest stage, e ≠ .advanceQuest quest stage) :
    w'.quests = w.quests := by
  cases h with
  | advanceQuest quests => exact absurd rfl (hne _ _)
  | _ => rfl

theorem keys_eq (h : Alters w e w') (hset : ∀ name value, e ≠ .setFlag name value)
    (hmark : ∀ name, e ≠ .markTime name) : w'.keys = w.keys := by
  cases h with
  | setFlag keys persisted => exact absurd rfl (hset _ _)
  | markTime keys persisted => exact absurd rfl (hmark _)
  | _ => rfl

end Alters

theorem IsOwn.exists_leaves (h : e.IsOwn sc) (hw : w.CoinsHaveWorth) :
    ∃ w', (e.apply sc w).value.Leaves w' := by
  obtain ⟨w', hdone⟩ | ⟨fault, hfailed⟩ := done_or_failed h.1 hw
  · exact ⟨w', hdone ▸ .done w'⟩
  · exact ⟨w, hfailed ▸ .failed w fault⟩

end Effect

/-! ### The library's own steps -/

namespace Step

variable {sc : Scene} {e : Effect} {s : Step} {ss : List Step} {w w' : World}

theorem result_attempt_eq_ok_iff :
    (attempt sc e).result w = .ok w' ↔ (e.apply sc w).value.Leaves w' :=
  Outcome.result_eq_ok_iff

/-- No code of the world takes part in the step. -/
def IsOwn : Step → Prop
  | .attempt sc e => e.IsOwn sc
  | .clock _ => True

instance : DecidablePred IsOwn
  | .attempt sc e => inferInstanceAs (Decidable (e.IsOwn sc))
  | .clock _ => inferInstanceAs (Decidable True)

theorem isOwn_map {es : List Effect} (h : ∀ e ∈ es, e.IsOwn sc) :
    ∀ s ∈ es.map (attempt sc), s.IsOwn := by
  intro s hs
  obtain ⟨e, he, rfl⟩ := List.mem_map.mp hs
  exact h e he

theorem IsOwn.same_ground (h : s.IsOwn) (hs : s.result w = .ok w') :
    w'.coins = w.coins ∧ w'.knownQuests = w.knownQuests := by
  cases s with
  | attempt sc e =>
    obtain ⟨hcoins, hknown, -⟩ :=
      (Effect.IsOwn.alters h (result_attempt_eq_ok_iff.mp hs)).same_ground
    exact ⟨hcoins, hknown⟩
  | clock now =>
    cases hs
    exact ⟨rfl, rfl⟩

theorem IsOwn.exists_result (h : s.IsOwn) (hw : w.CoinsHaveWorth) :
    ∃ w', s.result w = .ok w' ∧ w'.CoinsHaveWorth := by
  have hresult : ∃ w', s.result w = .ok w' := by
    cases s with
    | attempt sc e =>
      obtain ⟨w', hleaves⟩ := Effect.IsOwn.exists_leaves h hw
      exact ⟨w', result_attempt_eq_ok_iff.mpr hleaves⟩
    | clock now => exact ⟨_, rfl⟩
  obtain ⟨w', hs⟩ := hresult
  exact ⟨w', hs, hw.of_coins_eq (h.same_ground hs).1⟩

end Step

namespace World

variable {ss : List Step} {w : World}

theorem exists_after (h : ∀ s ∈ ss, s.IsOwn) (hw : w.CoinsHaveWorth) :
    ∃ w', w.after ss = .ok w' := by
  induction ss generalizing w with
  | nil => exact ⟨w, rfl⟩
  | cons s ss ih =>
    obtain ⟨hs, hss⟩ := List.forall_mem_cons.mp h
    obtain ⟨w₁, hstep, hw₁⟩ := hs.exists_result hw
    obtain ⟨w', hrest⟩ := ih hss hw₁
    exact ⟨w', after_cons_eq_ok.mpr ⟨w₁, hstep, hrest⟩⟩

/-- What the effects of one rule leave as it is. -/
theorem same_ground_after {sc : Scene} {es : List Effect} {w' : World}
    (hes : ∀ e ∈ es, e.IsOwn sc) (h : w.after (es.map (Step.attempt sc)) = .ok w') :
    w'.coins = w.coins ∧ w'.knownQuests = w.knownQuests ∧ w'.clock = w.clock := by
  induction es generalizing w with
  | nil =>
    cases h
    exact ⟨rfl, rfl, rfl⟩
  | cons e es ih =>
    obtain ⟨he, hrest⟩ := List.forall_mem_cons.mp hes
    obtain ⟨w₁, hstep, hafter⟩ := after_cons_eq_ok.mp h
    obtain ⟨hcoins, hknown, hclock⟩ :=
      (he.alters (Step.result_attempt_eq_ok_iff.mp hstep)).same_ground
    rw [← hcoins, ← hknown, ← hclock]
    exact ih hrest hafter

end World

end Colloquy

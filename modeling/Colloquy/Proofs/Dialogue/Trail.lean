import Colloquy.Proofs.Dialogue.Talk

/-!
# Colloquy.Proofs.Dialogue.Trail

The effects that are attempted while something is said, each with the world that those before it
left.

* `Attempt`          — an effect and the world it is attempted in.
* `Scene.attempts`   — the attempts of effects in a row; `Turn.attempts` those of a turn, and
  `World.attempts` those of everything that is said.
* `Turn.rule?`       — the rule that fires in a turn. If it is closed, the turn comes to its line and
  its attempts (`Turn.exists_reply_of_rule?`).
-/

namespace Colloquy

/-! ### Attempts -/

structure Attempt where
  scene : Scene
  effect : Effect
  world : World

namespace Attempt

def outcome (a : Attempt) : Outcome :=
  (a.effect.apply a.scene a.world).value

/-- The effect is carried out. -/
def succeeds (a : Attempt) : Bool :=
  match a.outcome with
  | .done _ => true
  | .failed _ _ => false
  | .crashed _ => false

variable {a : Attempt} {w : World}

theorem succeeds_of_done (h : a.outcome = .done w) : a.succeeds = true := by
  rw [succeeds, h]

theorem succeeds_of_failed {fault : Fault} (h : a.outcome = .failed w fault) :
    a.succeeds = false := by
  rw [succeeds, h]

end Attempt

/-- Effects attempted in a row, up to one that crashes. -/
def Scene.attempts (sc : Scene) : List Effect → World → List Attempt
  | [], _ => []
  | e :: es, w =>
    ⟨sc, e, w⟩ ::
      match (e.apply sc w).value.result with
      | .ok w => sc.attempts es w
      | .error _ => []

theorem Scene.attempts_cons_of_leaves {sc : Scene} {e : Effect} {w u : World}
    (h : (e.apply sc w).value.Leaves u) (es : List Effect) :
    sc.attempts (e :: es) w = ⟨sc, e, w⟩ :: sc.attempts es u := by
  rw [attempts, Outcome.result_eq_ok_iff.mpr h]

theorem Scene.map_effect_attempts {sc : Scene} {es : List Effect} {w w' : World}
    (h : w.after (es.map (Step.attempt sc)) = .ok w') : (sc.attempts es w).map (·.effect) = es := by
  induction es generalizing w with
  | nil => rfl
  | cons e es ih =>
    obtain ⟨w₁, hstep, hrest⟩ := World.after_cons_eq_ok.mp h
    rw [attempts_cons_of_leaves (Step.result_attempt_eq_ok_iff.mp hstep), List.map_cons, ih hrest]

/-- After effects that leave a world, the next ones are attempted in it. -/
theorem Scene.attempts_append (sc : Scene) (es fs : List Effect) (w : World) :
    sc.attempts (es ++ fs) w = sc.attempts es w ++
      match w.after (es.map (Step.attempt sc)) with
      | .ok u => sc.attempts fs u
      | .error _ => [] := by
  induction es generalizing w with
  | nil => rfl
  | cons e es ih =>
    rw [List.cons_append, attempts, attempts, List.map_cons, World.after, Step.result]
    cases (e.apply sc w).value.result with
    | ok u =>
      dsimp only
      rw [ih, List.cons_append]
    | error c => rfl

theorem Scene.scene_of_mem_attempts {sc : Scene} {es : List Effect} {w : World} {a : Attempt}
    (h : a ∈ sc.attempts es w) : a.scene = sc := by
  induction es generalizing w with
  | nil => cases h
  | cons e es ih =>
    rw [attempts] at h
    obtain rfl | h := List.mem_cons.mp h
    · rfl
    · split at h
      · exact ih h
      · cases h

theorem Scene.mem_attempts {sc : Scene} {es : List Effect} {w : World} {a : Attempt}
    (hes : ∀ e ∈ es, e.IsOwn sc) (h : a ∈ sc.attempts es w) :
    a.scene = sc ∧ a.effect ∈ es ∧ a.world.coins = w.coins := by
  induction es generalizing w with
  | nil => cases h
  | cons e es ih =>
    obtain ⟨he, hrest⟩ := List.forall_mem_cons.mp hes
    rw [attempts] at h
    obtain rfl | h := List.mem_cons.mp h
    · exact ⟨rfl, List.mem_cons_self, rfl⟩
    · split at h
      · rename_i u hu
        obtain ⟨hscene, heffect, hcoins⟩ := ih hrest h
        have hsame := (he.alters (Outcome.result_eq_ok_iff.mp hu)).same_ground
        exact ⟨hscene, List.mem_cons_of_mem e heffect, hcoins.trans hsame.1⟩
      · cases h

/-! ### Turns -/

namespace Turn

def selection? (t : Turn) (w : World) : Option Selection :=
  (t.dialogue.select w t.conversation t.utterance t.draw).value

/-- The rule that fires. -/
def rule? (t : Turn) (w : World) : Option HookedRule :=
  (t.selection? w).bind fun s => t.dialogue.rules[s.index]?

def scene (t : Turn) (r : HookedRule) : Scene :=
  t.dialogue.scene t.conversation r

/-- The line is said by the speaker to the actor. -/
def said (t : Turn) (line : String) (w : World) : World :=
  w.say t.conversation.speaker.id t.conversation.actor.id line

def attempts (t : Turn) (w : World) : List Attempt :=
  match t.selection? w with
  | none => []
  | some s =>
    match t.dialogue.rules[s.index]? with
    | none => []
    | some r => (t.scene r).attempts s.effects (t.said s.response w)

variable {t : Turn} {w : World} {r : HookedRule}

theorem rule?_of_selection? {s : Selection} (h : t.selection? w = some s) :
    t.rule? w = t.dialogue.rules[s.index]? := by
  rw [rule?, h]
  rfl

theorem mem_rules_of_rule? (h : t.rule? w = some r) : r ∈ t.dialogue.rules := by
  obtain ⟨s, -, hr⟩ := Option.bind_eq_some_iff.mp h
  exact List.mem_of_getElem? hr

theorem reply_of_rule?_eq_none (h : t.rule? w = none) :
    t.reply w = .ok (.unhandled, w) ∧ t.attempts w = [] := by
  cases hs : t.selection? w with
  | none => exact ⟨Dialogue.value_speak_of_select_eq_none hs, by rw [attempts, hs]⟩
  | some s =>
    obtain ⟨r, hfirst⟩ := Dialogue.exists_isFirst hs
    rw [rule?_of_selection? hs, hfirst.rule] at h
    cases h

/-- A closed rule that fires says its line, and then its effects are attempted. -/
theorem exists_reply_of_rule? (h : t.rule? w = some r) (hclosed : r.IsClosed t.dialogue.registry)
    (hw : w.CoinsHaveWorth) :
    ∃ i line w', t.reply w = .ok (.handled i line, w') ∧
      (t.said line w).after (r.effects.map (Step.attempt (t.scene r))) = .ok w' ∧
      t.attempts w = (t.scene r).attempts r.effects (t.said line w) := by
  obtain ⟨s, hs, hr⟩ := Option.bind_eq_some_iff.mp h
  obtain ⟨r', hfirst⟩ := Dialogue.exists_isFirst hs
  obtain rfl : r = r' := Option.some.inj (hr.symm.trans hfirst.rule)
  have hsaid : (t.said s.response w).CoinsHaveWorth := hw
  obtain ⟨w', hafter⟩ :=
    World.exists_after (Step.isOwn_map (hclosed.isOwn t.conversation)) hsaid
  have hcommit : (t.dialogue.commit w t.conversation s).value = .ok w' := by
    rw [Dialogue.value_commit_of_isClosed hr hclosed hfirst.effects]
    exact hafter
  refine ⟨s.index, s.response, w', Dialogue.value_speak_of_select_eq_some hs hcommit, hafter, ?_⟩
  rw [attempts, hs]
  dsimp only
  rw [hr, hfirst.effects]

/-- What is attempted in a closed dialogue is done by the library itself, by the settings of the
dialogue. -/
theorem mem_attempts {a : Attempt} (hclosed : t.dialogue.IsClosed) (h : a ∈ t.attempts w) :
    a.effect.IsOwn a.scene ∧ a.scene.settings = t.dialogue.settings ∧
      a.world.coins = w.coins := by
  rw [attempts] at h
  split at h
  · cases h
  · rename_i s hs
    split at h
    · cases h
    · rename_i r hr
      obtain ⟨r', hfirst⟩ := Dialogue.exists_isFirst hs
      obtain rfl : r = r' := Option.some.inj (hr.symm.trans hfirst.rule)
      have hown := (hclosed r (List.mem_of_getElem? hr)).isOwn t.conversation
      rw [hfirst.effects] at h
      obtain ⟨hscene, heffect, hcoins⟩ := Scene.mem_attempts hown h
      rw [hscene]
      exact ⟨hown _ heffect, rfl, hcoins⟩

end Turn

/-! ### Talk -/

/-- What is attempted turn by turn. -/
def World.attempts (w : World) : List Turn → List Attempt
  | [] => []
  | t :: ts =>
    t.attempts w ++
      match t.reply w with
      | .error _ => []
      | .ok (_, w) => w.attempts ts

theorem World.attempts_cons_of_reply {w u : World} {t : Turn} {reply : Reply}
    (h : t.reply w = .ok (reply, u)) (ts : List Turn) :
    w.attempts (t :: ts) = t.attempts w ++ u.attempts ts := by
  rw [attempts, h]

theorem World.mem_attempts {ts : List Turn} {w : World} {a : Attempt}
    (hclosed : ∀ t ∈ ts, t.dialogue.IsClosed) (h : a ∈ w.attempts ts) :
    a.effect.IsOwn a.scene ∧ (∃ t ∈ ts, a.scene.settings = t.dialogue.settings) ∧
      a.world.coins = w.coins := by
  induction ts generalizing w with
  | nil => cases h
  | cons t ts ih =>
    obtain ⟨ht, hts⟩ := List.forall_mem_cons.mp hclosed
    rw [attempts] at h
    obtain h | h := List.mem_append.mp h
    · obtain ⟨hown, hsettings, hcoins⟩ := Turn.mem_attempts ht h
      exact ⟨hown, ⟨t, List.mem_cons_self, hsettings⟩, hcoins⟩
    · split at h
      · cases h
      · rename_i reply u hreply
        obtain ⟨hown, ⟨t', ht', hsettings⟩, hcoins⟩ := ih hts h
        have hsame := (Turn.ends_of_reply ht hreply).same_ground ht
        exact ⟨hown, ⟨t', List.mem_cons_of_mem t ht', hsettings⟩, hcoins.trans hsame.1⟩

end Colloquy

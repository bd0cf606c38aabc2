import Colloquy.Proofs.Dialogue.Attempt
import Colloquy.Proofs.Dialogue.Selection

/-!
# Colloquy.Proofs.Dialogue.Commit

What happens after a rule has been selected, one move after the other.

* `Rule.moves`  — the moves a rule calls for: each effect, a callback being the continuation, and the
  continuation at the end if there is no callback.
* `Move.Leaves` — the world a move leaves, with no mention of how effects are carried out.
* `Runs`        — moves made one after the other, each in the world the one before left, whether
  that failed or not.
* `KeepsWorth`  — what is asked of code attached to rules: that no coin becomes worthless.
-/

namespace Colloquy

/-! ### Moves -/

inductive Move where
  /-- Carry out an effect other than a callback. -/
  | attempt (e : Effect)
  | continuation
  deriving DecidableEq

def Move.of (e : Effect) : Move :=
  if e = .callback then .continuation else .attempt e

def Rule.moves (r : Rule) : List Move :=
  r.effects.map Move.of ++ if .callback ∈ r.effects then [] else [.continuation]

namespace Rule

variable {r : Rule}

theorem hasCallback_iff : r.hasCallback = true ↔ .callback ∈ r.effects := by
  simp [hasCallback, Effect.isCallback]

end Rule

/-! ### Runs -/

inductive Outcome.Leaves : Outcome → World → Prop where
  | done (w : World) : Leaves (.done w) w
  | failed (w : World) (fault : Fault) : Leaves (.failed w fault) w

theorem Outcome.Leaves.unique {o : Outcome} {w w' : World} (h : o.Leaves w) (h' : o.Leaves w') :
    w = w' := by
  cases h with
  | done => cases h'; rfl
  | failed => cases h'; rfl

/-- The world that a move leaves. An effect of the world's own leaves what its handler leaves,
complaint or not; any other one is carried out, or the world stays as it was. -/
inductive Move.Leaves (sc : Scene) (w : World) : Move → World → Prop where
  | made {e : Effect} {w' : World} (h : e.Makes sc w w') : Leaves sc w (.attempt e) w'
  | failed {e : Effect} (hnone : e.HasNoHandler sc.registry) (h : ∀ w', ¬e.Makes sc w w') :
      Leaves sc w (.attempt e) w
  | handled {kind : String} {args : List String} {handler : Handler}
      (h : sc.registry.find? kind = some handler) :
      Leaves sc w (.attempt (.custom kind args)) (handler sc.conversation args w).value.1
  | continued {action : Action} (h : sc.rule.continuation = some action) :
      Leaves sc w .continuation (action sc.conversation sc.rule.toRule w).value
  | kept (h : sc.rule.continuation = none) : Leaves sc w .continuation w

theorem Move.Leaves.unique {sc : Scene} {w u v : World} {m : Move} (h : m.Leaves sc w u)
    (h' : m.Leaves sc w v) : u = v := by
  cases h with
  | made hmakes =>
    cases h' with
    | made hmakes' => exact hmakes.unique hmakes'
    | failed _ hno => exact absurd hmakes (hno _)
    | handled => cases hmakes
  | failed hnone hno =>
    cases h' with
    | made hmakes => exact absurd hmakes (hno _)
    | failed => rfl
    | handled hfind =>
      rw [Effect.HasNoHandler, hfind] at hnone
      cases hnone
  | handled hfind =>
    cases h' with
    | made hmakes => cases hmakes
    | failed hnone =>
      rw [Effect.HasNoHandler, hfind] at hnone
      cases hnone
    | handled hfind' =>
      rw [hfind] at hfind'
      cases hfind'
      rfl
  | continued hsome =>
    cases h' with
    | continued hsome' =>
      rw [hsome] at hsome'
      cases hsome'
      rfl
    | kept hnone =>
      rw [hsome] at hnone
      cases hnone
  | kept hnone =>
    cases h' with
    | continued hsome =>
      rw [hnone] at hsome
      cases hsome
    | kept => rfl

/-- Moves made one after the other, each once and in the world that the one before left. -/
inductive Runs (sc : Scene) : List Move → World → World → Prop where
  | nil (w : World) : Runs sc [] w w
  | cons {m : Move} {ms : List Move} {w w₁ w₂ : World} (h : m.Leaves sc w w₁)
      (rest : Runs sc ms w₁ w₂) : Runs sc (m :: ms) w w₂

/-- The moves decide the last world. -/
theorem Runs.unique {sc : Scene} {ms : List Move} {w u v : World} (h : Runs sc ms w u)
    (h' : Runs sc ms w v) : u = v := by
  induction h with
  | nil =>
    cases h'
    rfl
  | cons hmove _ ih =>
    cases h' with
    | cons hmove' hrest' =>
      cases hmove.unique hmove'
      exact ih hrest'

theorem Runs.append {sc : Scene} {ms ns : List Move} {w w₁ w₂ : World} (h : Runs sc ms w w₁)
    (rest : Runs sc ns w₁ w₂) : Runs sc (ms ++ ns) w w₂ := by
  induction h with
  | nil => exact rest
  | cons hmove _ ih => exact .cons hmove (ih rest)

namespace Effect

variable {sc : Scene}

theorem value_apply_callback (w : World) :
    (apply sc w .callback).value = .done (runContinuation sc w).value := rfl

theorem value_runContinuation_of_none (h : sc.rule.continuation = none) (w : World) :
    (runContinuation sc w).value = w := by
  rw [runContinuation, h]
  rfl

theorem value_runContinuation_of_some {action : Action} (h : sc.rule.continuation = some action)
    (w : World) : (runContinuation sc w).value = (action sc.conversation sc.rule.toRule w).value := by
  rw [runContinuation, h]
  rfl

/-- A handler's effect leaves the world that the handler leaves, complaint or not. -/
theorem leaves_apply_custom {kind : String} {handler : Handler}
    (h : sc.registry.find? kind = some handler) (args : List String) (w : World) :
    (apply sc w (.custom kind args)).value.Leaves (handler sc.conversation args w).value.1 := by
  rw [apply, applyCustom, h, Noted.value_bind]
  obtain ⟨w', complaint⟩ := (handler sc.conversation args w).value
  cases complaint with
  | none => exact .done w'
  | some text => exact .failed w' _

end Effect

namespace Move

variable {sc : Scene} {w : World}

theorem leaves_continuation (sc : Scene) (w : World) :
    continuation.Leaves sc w (Effect.runContinuation sc w).value := by
  cases hcont : sc.rule.continuation with
  | none =>
    rw [Effect.value_runContinuation_of_none hcont]
    exact .kept hcont
  | some action =>
    rw [Effect.value_runContinuation_of_some hcont]
    exact .continued hcont

theorem leaves_attempt {e : Effect} {w' : World} (hne : e ≠ .callback)
    (h : (e.apply sc w).value.Leaves w') : (attempt e).Leaves sc w w' := by
  by_cases hnone : e.HasNoHandler sc.registry
  · have hsettles := Effect.settles_apply (w := w) hnone hne
    have hdone : ∀ u, e.Makes sc w u → (e.apply sc w).value = .done u :=
      fun _ hmakes => hmakes.value_apply
    generalize (e.apply sc w).value = o at h hsettles hdone
    cases hsettles with
    | done hmakes =>
      cases h
      exact .made hmakes
    | failed fault =>
      cases h
      refine .failed hnone fun u hmakes => ?_
      cases hdone u hmakes
    | crashed => cases h
  · cases e with
    | custom kind args =>
      cases hfind : sc.registry.find? kind with
      | none => exact absurd hfind hnone
      | some handler =>
        rw [h.unique (Effect.leaves_apply_custom hfind args w)]
        exact .handled hfind
    | _ => exact absurd trivial hnone

theorem leaves_of {e : Effect} {w' : World} (h : (e.apply sc w).value.Leaves w') :
    (of e).Leaves sc w w' := by
  by_cases he : e = .callback
  · rw [he, Effect.value_apply_callback] at h
    rw [of, if_pos he, h.unique (.done _)]
    exact leaves_continuation sc w
  · rw [of, if_neg he]
    exact leaves_attempt he h

end Move

namespace Dialogue

theorem value_runEffects_of_leaves {sc : Scene} {e : Effect} {w w₁ : World}
    (h : (e.apply sc w).value.Leaves w₁) (i : Nat) (es : List Effect) :
    (runEffects sc i (e :: es) w).value = (runEffects sc i es w₁).value := by
  rw [runEffects, Noted.value_bind]
  generalize (e.apply sc w).value = o at h ⊢
  cases h with
  | done => rfl
  | failed => rfl

def scene (d : Dialogue) (conv : Conversation) (r : HookedRule) : Scene :=
  ⟨conv, d.settings, d.registry, r⟩

/-- A commit of a rule that exists: what is said, then the effects, then the continuation if no
effect asks for it. -/
theorem commit_of_rule {d : Dialogue} {s : Selection} {r : HookedRule}
    (h : d.rules[s.index]? = some r) (w : World) (conv : Conversation) :
    d.commit w conv s =
      (do
        match ← runEffects (d.scene conv r) s.index s.effects
          (w.say conv.speaker.id conv.actor.id s.response) with
        | .error c => return .error c
        | .ok w =>
          if r.hasCallback then return .ok w
          else do
            let w ← Effect.runContinuation (d.scene conv r) w
            return .ok w) := by
  unfold commit scene
  generalize d.rules[s.index]? = found at h ⊢
  subst h
  rfl

theorem value_commit {d : Dialogue} {s : Selection} {r : HookedRule}
    (h : d.rules[s.index]? = some r) (w : World) (conv : Conversation) :
    (d.commit w conv s).value =
      match (runEffects (d.scene conv r) s.index s.effects
        (w.say conv.speaker.id conv.actor.id s.response)).value with
      | .error c => .error c
      | .ok w =>
        if r.hasCallback = true then .ok w
        else .ok (Effect.runContinuation (d.scene conv r) w).value := by
  rw [commit_of_rule h, Noted.value_bind]
  cases (runEffects (d.scene conv r) s.index s.effects
    (w.say conv.speaker.id conv.actor.id s.response)).value with
  | error c => rfl
  | ok w => dsimp only; split <;> rfl

end Dialogue

/-! ### Worth -/

def Action.KeepsWorth (a : Action) : Prop :=
  ∀ conv r w, w.CoinsHaveWorth → (a conv r w).value.CoinsHaveWorth

def Handler.KeepsWorth (h : Handler) : Prop :=
  ∀ conv args w, w.CoinsHaveWorth → (h conv args w).value.1.CoinsHaveWorth

def HookedRule.KeepsWorth (r : HookedRule) : Prop :=
  ∀ a, r.continuation = some a → a.KeepsWorth

def Effect.KeepsWorth (reg : Registry) : Effect → Prop
  | .custom kind _ => ∀ h, reg.find? kind = some h → h.KeepsWorth
  | _ => True

/-- No code attached to the dialogue makes a coin worthless. The services that such code has of the
world include none that registers a coin. -/
structure Dialogue.KeepsWorth (d : Dialogue) : Prop where
  rules : ∀ r ∈ d.rules, r.KeepsWorth
  handlers : ∀ kind h, d.registry.find? kind = some h → h.KeepsWorth

theorem Dialogue.KeepsWorth.effect {d : Dialogue} (hd : d.KeepsWorth) (e : Effect) :
    e.KeepsWorth d.registry := by
  cases e with
  | custom kind args => exact hd.handlers kind
  | _ => exact trivial

namespace Effect

variable {sc : Scene} {w : World}

theorem coinsHaveWorth_runContinuation (hrule : sc.rule.KeepsWorth) (hw : w.CoinsHaveWorth) :
    (runContinuation sc w).value.CoinsHaveWorth := by
  unfold runContinuation
  split
  · exact hw
  · rename_i a ha
    exact hrule a ha _ _ _ hw

/-- With coins that have worth every effect leaves a world, and in it such coins. -/
theorem leaves_apply {e : Effect} (hrule : sc.rule.KeepsWorth) (he : e.KeepsWorth sc.registry)
    (hw : w.CoinsHaveWorth) : ∃ w', (e.apply sc w).value.Leaves w' ∧ w'.CoinsHaveWorth := by
  by_cases hcallback : e = .callback
  · rw [hcallback]
    exact ⟨_, .done _, coinsHaveWorth_runContinuation hrule hw⟩
  by_cases hnone : e.HasNoHandler sc.registry
  · obtain ⟨w', hmakes, hdone⟩ | ⟨fault, hfailed⟩ := makes_or_fails hnone hcallback hw
    · exact ⟨w', hdone ▸ .done w', hw.of_coins_eq hmakes.coins_eq⟩
    · exact ⟨w, hfailed ▸ .failed w fault, hw⟩
  · cases e with
    | custom kind args =>
      cases hfind : sc.registry.find? kind with
      | none => exact absurd hfind hnone
      | some handler =>
        exact ⟨_, leaves_apply_custom hfind args w, he handler hfind sc.conversation args w hw⟩
    | _ => exact absurd trivial hnone

end Effect

theorem Move.Leaves.coinsHaveWorth {sc : Scene} {w w' : World} {m : Move} (h : m.Leaves sc w w')
    (hrule : sc.rule.KeepsWorth) (hm : ∀ e, m = .attempt e → e.KeepsWorth sc.registry)
    (hw : w.CoinsHaveWorth) : w'.CoinsHaveWorth := by
  cases h with
  | made hmakes => exact hw.of_coins_eq hmakes.coins_eq
  | failed => exact hw
  | handled hfind => exact hm _ rfl _ hfind _ _ _ hw
  | continued hsome => exact hrule _ hsome _ _ _ hw
  | kept => exact hw

/-! ### Commit -/

namespace Dialogue

/-- Effects in a row are moves in a row, and the last world is the result. -/
theorem runs_runEffects {sc : Scene} {es : List Effect} {w : World} (hrule : sc.rule.KeepsWorth)
    (hes : ∀ e ∈ es, e.KeepsWorth sc.registry) (hw : w.CoinsHaveWorth) (i : Nat) :
    ∃ w', Runs sc (es.map Move.of) w w' ∧ (runEffects sc i es w).value = .ok w' := by
  induction es generalizing w with
  | nil => exact ⟨w, .nil w, rfl⟩
  | cons e es ih =>
    obtain ⟨w₁, hleaves, hw₁⟩ := Effect.leaves_apply hrule (hes e List.mem_cons_self) hw
    obtain ⟨w₂, hruns, hvalue⟩ := ih (fun f hf => hes f (List.mem_cons_of_mem _ hf)) hw₁
    exact ⟨w₂, .cons (Move.leaves_of hleaves) hruns,
      by rw [value_runEffects_of_leaves hleaves, hvalue]⟩

theorem value_commit_of_keepsWorth {d : Dialogue} {s : Selection} {r : HookedRule} {w : World}
    (hr : d.rules[s.index]? = some r) (hrule : r.KeepsWorth)
    (hes : ∀ e ∈ s.effects, e.KeepsWorth d.registry) (hw : w.CoinsHaveWorth) (conv : Conversation) :
    ∃ w', Runs (d.scene conv r) (s.effects.map Move.of)
        (w.say conv.speaker.id conv.actor.id s.response) w' ∧
      (d.commit w conv s).value =
        .ok (if r.hasCallback = true then w'
          else (Effect.runContinuation (d.scene conv r) w').value) := by
  have hsaid : (w.say conv.speaker.id conv.actor.id s.response).CoinsHaveWorth := hw
  have hscene : (d.scene conv r).rule.KeepsWorth := hrule
  obtain ⟨w', hruns, hvalue⟩ := runs_runEffects hscene hes hsaid s.index
  refine ⟨w', hruns, ?_⟩
  rw [value_commit hr, hvalue, apply_ite Except.ok]

theorem runs_commit {d : Dialogue} {s : Selection} {r : HookedRule} {w : World}
    (hd : d.KeepsWorth) (hr : d.rules[s.index]? = some r) (heffects : s.effects = r.effects)
    (hw : w.CoinsHaveWorth) (conv : Conversation) :
    ∃ w', Runs (d.scene conv r) r.moves (w.say conv.speaker.id conv.actor.id s.response) w' ∧
      (d.commit w conv s).value = .ok w' := by
  obtain ⟨w₁, hruns, hvalue⟩ := value_commit_of_keepsWorth hr
    (hd.rules r (List.mem_of_getElem? hr)) (fun e _ => hd.effect e) hw conv
  refine ⟨_, ?_, hvalue⟩
  rw [heffects] at hruns
  rw [Rule.moves]
  by_cases hcallback : .callback ∈ r.effects
  · rw [if_pos hcallback, if_pos (Rule.hasCallback_iff.mpr hcallback), List.append_nil]
    exact hruns
  · rw [if_neg hcallback, if_neg fun h => hcallback (Rule.hasCallback_iff.mp h)]
    exact hruns.append (.cons (Move.leaves_continuation _ _) (.nil _))

theorem value_speak_of_select_eq_some {d : Dialogue} {w w' : World} {conv : Conversation}
    {utterance : String} {draw : UInt32} {s : Selection}
    (hs : (d.select w conv utterance draw).value = some s)
    (hcommit : (d.commit w conv s).value = .ok w') :
    (d.speak w conv utterance draw).value = .ok (.handled s.index s.response, w') := by
  rw [speak, Noted.value_bind, hs, Noted.value_bind, Noted.value_bind, hcommit]
  rfl

end Dialogue

end Colloquy

import Colloquy.Proofs.Dialogue.Commit

/-!
# Colloquy.Proofs.Dialogue.Failure

An effect that fails might as well not be there, unless it is the world that defines it.

* `Effect.eq_of_failed`     — the world that a failing effect leaves is the one it was tried in.
* `unfailed`                — the effects that are left of a list without those that fail.
* `Dialogue.withoutFailed`  — a selection without the effects that fail when it is committed.
-/

namespace Colloquy

/-! ### One effect -/

namespace Effect

variable {sc : Scene} {w : World} {e : Effect}

theorem keepsWorth_of_hasNoHandler {reg : Registry} (h : e.HasNoHandler reg) : e.KeepsWorth reg := by
  cases e with
  | custom kind args =>
    intro handler hfind
    cases h.symm.trans hfind
  | _ => exact trivial

theorem eq_of_failed {w' : World} {fault : Fault} (h : e.HasNoHandler sc.registry)
    (hfailed : (e.apply sc w).value = .failed w' fault) : w' = w := by
  by_cases hcallback : e = .callback
  · rw [hcallback, value_apply_callback] at hfailed
    cases hfailed
  · have hsettles := settles_apply (w := w) h hcallback
    rw [hfailed] at hsettles
    cases hsettles
    rfl

theorem done_or_failed (h : e.HasNoHandler sc.registry) (hw : w.CoinsHaveWorth) :
    (∃ w', (e.apply sc w).value = .done w') ∨ ∃ fault, (e.apply sc w).value = .failed w fault := by
  by_cases hcallback : e = .callback
  · rw [hcallback]
    exact .inl ⟨_, value_apply_callback w⟩
  · obtain ⟨w', -, hdone⟩ | hfails := makes_or_fails h hcallback hw
    · exact .inl ⟨w', hdone⟩
    · exact .inr hfails

end Effect

/-! ### A list of effects -/

/-- The effects of a list without those that fail when the list is carried out from `w`. Nothing is
known of the effects behind one that crashes, so these stay. -/
def unfailed (sc : Scene) : List Effect → World → List Effect
  | [], _ => []
  | e :: es, w =>
    match (e.apply sc w).value with
    | .done w => e :: unfailed sc es w
    | .failed w _ => unfailed sc es w
    | .crashed _ => e :: es

namespace Dialogue

/-- The selection without the effects that fail when it is committed in `w`. -/
def withoutFailed (d : Dialogue) (w : World) (conv : Conversation) (s : Selection) : Selection :=
  match d.rules[s.index]? with
  | none => s
  | some r =>
    { s with
      effects := unfailed (d.scene conv r) s.effects
        (w.say conv.speaker.id conv.actor.id s.response) }

theorem index_withoutFailed (d : Dialogue) (w : World) (conv : Conversation) (s : Selection) :
    (d.withoutFailed w conv s).index = s.index := by
  unfold withoutFailed
  split <;> rfl

theorem response_withoutFailed (d : Dialogue) (w : World) (conv : Conversation) (s : Selection) :
    (d.withoutFailed w conv s).response = s.response := by
  unfold withoutFailed
  split <;> rfl

theorem effects_withoutFailed {d : Dialogue} {s : Selection} {r : HookedRule}
    (h : d.rules[s.index]? = some r) (w : World) (conv : Conversation) :
    (d.withoutFailed w conv s).effects =
      unfailed (d.scene conv r) s.effects (w.say conv.speaker.id conv.actor.id s.response) := by
  rw [withoutFailed, h]

theorem value_runEffects_unfailed {sc : Scene} {es : List Effect}
    (h : ∀ e ∈ es, e.HasNoHandler sc.registry) (i : Nat) (w : World) :
    (runEffects sc i (unfailed sc es w) w).value = (runEffects sc i es w).value := by
  induction es generalizing w with
  | nil => rfl
  | cons e es ih =>
    have hrest := fun f hf => h f (List.mem_cons_of_mem e hf)
    rw [unfailed]
    split
    · rename_i w₁ hdone
      have hleaves : (e.apply sc w).value.Leaves w₁ := hdone ▸ .done w₁
      rw [value_runEffects_of_leaves hleaves, value_runEffects_of_leaves hleaves]
      exact ih hrest w₁
    · rename_i w₁ fault hfailed
      obtain rfl : w₁ = w := Effect.eq_of_failed (h e List.mem_cons_self) hfailed
      have hleaves : (e.apply sc w₁).value.Leaves w₁ := hfailed ▸ .failed w₁ fault
      rw [value_runEffects_of_leaves hleaves]
      exact ih hrest w₁
    · rfl

theorem value_commit_withoutFailed {d : Dialogue} {s : Selection}
    (h : ∀ e ∈ s.effects, e.HasNoHandler d.registry) (w : World) (conv : Conversation) :
    (d.commit w conv (d.withoutFailed w conv s)).value = (d.commit w conv s).value := by
  cases hr : d.rules[s.index]? with
  | none => rw [withoutFailed, hr]
  | some r =>
    have hscene : ∀ e ∈ s.effects, e.HasNoHandler (d.scene conv r).registry := h
    have hr' : d.rules[(d.withoutFailed w conv s).index]? = some r := by
      rw [index_withoutFailed, hr]
    rw [value_commit hr, value_commit hr', index_withoutFailed, response_withoutFailed,
      effects_withoutFailed hr, value_runEffects_unfailed hscene]

theorem exists_commit_eq_ok {d : Dialogue} {s : Selection} {w : World}
    (h : ∀ e ∈ s.effects, e.HasNoHandler d.registry) (hw : w.CoinsHaveWorth)
    (hrule : ∀ r, d.rules[s.index]? = some r → r.KeepsWorth) (conv : Conversation) :
    ∃ w', (d.commit w conv s).value = .ok w' := by
  cases hr : d.rules[s.index]? with
  | none =>
    unfold commit
    dsimp only
    rw [hr]
    exact ⟨_, rfl⟩
  | some r =>
    obtain ⟨w', -, hvalue⟩ := value_commit_of_keepsWorth hr (hrule r hr)
      (fun e he => Effect.keepsWorth_of_hasNoHandler (h e he)) hw conv
    exact ⟨_, hvalue⟩

/-- An effect that fails leaves the world it was tried in, and a commit the world that it leaves
without the effects that fail in it. -/
theorem failed_effects_leave_no_trace :
    (∀ (sc : Scene) (e : Effect) (w : World), e.HasNoHandler sc.registry →
      (∀ w' fault, (e.apply sc w).value = .failed w' fault → w' = w) ∧
      (w.CoinsHaveWorth →
        (∃ w', (e.apply sc w).value = .done w') ∨
          ∃ fault, (e.apply sc w).value = .failed w fault)) ∧
    ∀ (d : Dialogue) (w : World) (conv : Conversation) (s : Selection),
      (∀ e ∈ s.effects, e.HasNoHandler d.registry) →
      (d.commit w conv (d.withoutFailed w conv s)).value = (d.commit w conv s).value ∧
      (w.CoinsHaveWorth → (∀ r, d.rules[s.index]? = some r → r.KeepsWorth) →
        ∃ w', (d.commit w conv s).value = .ok w') :=
  ⟨fun _ _ _ h => ⟨fun _ _ => Effect.eq_of_failed h, Effect.done_or_failed h⟩,
    fun _ w conv _ h => ⟨value_commit_withoutFailed h w conv,
      fun hw hrule => exists_commit_eq_ok h hw hrule conv⟩⟩

/-- A price for which there is no change, and an effect that nobody defines. -/
theorem failed_effects_leave_no_trace_change :
    let conv : Conversation := ⟨⟨⟨7#128⟩, "ada"⟩, ⟨⟨8#128⟩, "gork"⟩, "hall"⟩
    let r := Rule.plain
      ⟨["*"], ["Three."], [], [.takeItem "money" 3, .setFlag "paid" "1", .custom "bow" []]⟩
    let d : Dialogue := { rules := [r] }
    let w : World :=
      { coins := [⟨"crown", 10⟩], holdings := Table.put (fun _ _ => 0) ⟨7#128⟩ "crown" 1 }
    let fault : Fault := .missing .item "money" (Refusal.noChange 7).message
    w.CoinsHaveWorth ∧ r.KeepsWorth ∧ (∀ e ∈ r.effects, e.HasNoHandler d.registry) ∧
    (Effect.apply (d.scene conv r) w (.takeItem "money" 3)).value = .failed w fault ∧
    (∀ w' fault, (Effect.apply (d.scene conv r) w (.takeItem "money" 3)).value = .failed w' fault →
      w' = w) ∧
    ∃ w', (d.commit w conv ⟨0, "Three.", r.effects⟩).value = .ok w' ∧
      (d.commit w conv ⟨0, "Three.", [.setFlag "paid" "1"]⟩).value = .ok w' := by
  intro conv r d w fault
  obtain ⟨heffect, hcommit⟩ := failed_effects_leave_no_trace
  have hnone : ∀ e ∈ r.effects, e.HasNoHandler d.registry := by
    intro e he
    simp only [r, Rule.plain, List.mem_cons, List.not_mem_nil, or_false] at he
    obtain rfl | rfl | rfl := he
    · exact trivial
    · exact trivial
    · exact rfl
  have hw : w.CoinsHaveWorth := by decide
  have hr : r.KeepsWorth := by
    intro a ha
    cases ha
  have hkept : d.withoutFailed w conv ⟨0, "Three.", r.effects⟩ =
      ⟨0, "Three.", [.setFlag "paid" "1"]⟩ := by decide +kernel
  obtain ⟨hsame, hends⟩ := hcommit d w conv ⟨0, "Three.", r.effects⟩ hnone
  obtain ⟨w', hvalue⟩ := hends hw fun r' hr' => Option.some.inj hr' ▸ hr
  refine ⟨hw, hr, hnone, rfl, (heffect (d.scene conv r) _ w (hnone _ List.mem_cons_self)).1, w',
    hvalue, ?_⟩
  rw [← hkept, hsame, hvalue]

end Dialogue

end Colloquy

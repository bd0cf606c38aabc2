import Colloquy.Proofs.Dialogue.Course

/-!
# Colloquy.Proofs.Dialogue.Talk

Many utterances in one world, in any dialogues and by anybody.

* `Turn`, `World.talk`  — what is said, and what all of it comes to.
* `Dialogue.IsClosed`   — no code of the world changes the world when a rule fires.
* `Turn.Ends`           — what a turn in such a dialogue comes to: nothing, or a line and the
  effects of a rule that answers, one after the other.
-/

namespace Colloquy

structure Turn where
  dialogue : Dialogue
  conversation : Conversation
  utterance : String
  draw : UInt32

def Turn.reply (t : Turn) (w : World) : Except Crash (Reply × World) :=
  (t.dialogue.speak w t.conversation t.utterance t.draw).value

/-- The replies to what is said turn by turn, and the world that is left. -/
def World.talk (w : World) : List Turn → Except Crash (List Reply × World)
  | [] => .ok ([], w)
  | t :: ts =>
    match t.reply w with
    | .error c => .error c
    | .ok (reply, w) =>
      match w.talk ts with
      | .error c => .error c
      | .ok (replies, w) => .ok (reply :: replies, w)

theorem World.talk_cons_eq_ok {w w' : World} {t : Turn} {ts : List Turn} {replies : List Reply} :
    w.talk (t :: ts) = .ok (replies, w') ↔
      ∃ reply rest u, replies = reply :: rest ∧ t.reply w = .ok (reply, u) ∧
        u.talk ts = .ok (rest, w') := by
  rw [talk]
  constructor
  · intro h
    split at h
    · cases h
    · rename_i reply u hreply
      split at h
      · cases h
      · rename_i rest v hrest
        cases h
        exact ⟨reply, rest, u, rfl, hreply, hrest⟩
  · rintro ⟨reply, rest, u, rfl, hreply, hrest⟩
    rw [hreply]
    dsimp only
    rw [hrest]

/-! ### Dialogues without code of the world -/

/-- When the rule fires, no code of the world changes the world. -/
structure HookedRule.IsClosed (r : HookedRule) (reg : Registry) : Prop where
  effects : ∀ e ∈ r.effects, e.HasNoHandler reg
  continuation : r.continuation = none

instance (r : HookedRule) (reg : Registry) : Decidable (r.IsClosed reg) :=
  decidable_of_iff ((∀ e ∈ r.effects, e.HasNoHandler reg) ∧ r.continuation = none)
    ⟨fun h => ⟨h.1, h.2⟩, fun h => ⟨h.effects, h.continuation⟩⟩

def Dialogue.IsClosed (d : Dialogue) : Prop :=
  ∀ r ∈ d.rules, r.IsClosed d.registry

instance (d : Dialogue) : Decidable d.IsClosed :=
  inferInstanceAs (Decidable (∀ r ∈ d.rules, r.IsClosed d.registry))

theorem HookedRule.IsClosed.isOwn {r : HookedRule} {d : Dialogue} (h : r.IsClosed d.registry)
    (conv : Conversation) : ∀ e ∈ r.effects, e.IsOwn (d.scene conv r) :=
  fun e he => ⟨h.effects e he, fun _ => h.continuation⟩

theorem HookedRule.IsClosed.keepsWorth {r : HookedRule} {reg : Registry} (h : r.IsClosed reg) :
    r.KeepsWorth := by
  intro a ha
  rw [h.continuation] at ha
  cases ha

theorem Dialogue.value_commit_of_isClosed {d : Dialogue} {s : Selection} {r : HookedRule}
    (hr : d.rules[s.index]? = some r) (hclosed : r.IsClosed d.registry)
    (heffects : s.effects = r.effects) (w : World) (conv : Conversation) :
    (d.commit w conv s).value = (w.say conv.speaker.id conv.actor.id s.response).after
      (r.effects.map (.attempt (d.scene conv r))) := by
  have hrest : ∀ u, (Effect.runContinuation (d.scene conv r) u).value = u :=
    Effect.value_runContinuation_of_none hclosed.continuation
  rw [value_commit hr, heffects, value_runEffects_eq_after]
  split
  · rename_i c hcrash
    rw [hcrash]
  · rename_i u hu
    rw [hu, hrest]
    split <;> rfl

namespace Turn

inductive Ends (t : Turn) (w : World) : Reply → World → Prop where
  | unhandled : Ends t w .unhandled w
  | handled {i : Nat} {line : String} {r : HookedRule} {w' : World}
      (hrule : t.dialogue.rules[i]? = some r)
      (hanswers : r.Answers (t.dialogue.outlook w t.conversation) t.utterance)
      (heffects : (w.say t.conversation.speaker.id t.conversation.actor.id line).after
        (r.effects.map (.attempt (t.dialogue.scene t.conversation r))) = .ok w') :
      Ends t w (.handled i line) w'

variable {t : Turn} {w w' : World} {reply : Reply}

theorem ends_of_reply (hclosed : t.dialogue.IsClosed) (h : t.reply w = .ok (reply, w')) :
    t.Ends w reply w' := by
  unfold Turn.reply at h
  cases hs : (t.dialogue.select w t.conversation t.utterance t.draw).value with
  | none =>
    rw [Dialogue.value_speak_of_select_eq_none hs] at h
    cases h
    exact .unhandled
  | some s =>
    obtain ⟨r, hfirst⟩ := Dialogue.exists_isFirst hs
    have hcommit := Dialogue.value_commit_of_isClosed hfirst.rule
      (hclosed r (List.mem_of_getElem? hfirst.rule)) hfirst.effects w t.conversation
    cases hresult : (t.dialogue.commit w t.conversation s).value with
    | error c =>
      rw [Dialogue.speak, Noted.value_bind, hs, Noted.value_bind, Noted.value_bind, hresult] at h
      cases h
    | ok u =>
      rw [Dialogue.value_speak_of_select_eq_some hs hresult] at h
      cases h
      exact .handled hfirst.rule hfirst.answers (hcommit.symm.trans hresult)

theorem Ends.same_ground (h : t.Ends w reply w') (hclosed : t.dialogue.IsClosed) :
    w'.coins = w.coins ∧ w'.clock = w.clock := by
  cases h with
  | unhandled => exact ⟨rfl, rfl⟩
  | handled hrule _ heffects =>
    obtain ⟨hcoins, -, hclock⟩ := World.same_ground_after
      ((hclosed _ (List.mem_of_getElem? hrule)).isOwn t.conversation) heffects
    exact ⟨hcoins, hclock⟩

theorem exists_reply (hclosed : t.dialogue.IsClosed) (hw : w.CoinsHaveWorth) :
    ∃ reply w', t.reply w = .ok (reply, w') ∧ w'.CoinsHaveWorth := by
  have hreply : ∃ reply w', t.reply w = .ok (reply, w') := by
    unfold Turn.reply
    cases hs : (t.dialogue.select w t.conversation t.utterance t.draw).value with
    | none => exact ⟨_, _, Dialogue.value_speak_of_select_eq_none hs⟩
    | some s =>
      obtain ⟨r, hfirst⟩ := Dialogue.exists_isFirst hs
      have hr := hclosed r (List.mem_of_getElem? hfirst.rule)
      have heffects : ∀ e ∈ s.effects, e.HasNoHandler t.dialogue.registry := by
        rw [hfirst.effects]
        exact hr.effects
      have hrule : ∀ r', t.dialogue.rules[s.index]? = some r' → r'.KeepsWorth := by
        intro r' hr'
        obtain rfl : r = r' := Option.some.inj (hfirst.rule.symm.trans hr')
        exact hr.keepsWorth
      obtain ⟨w', hcommit⟩ := Dialogue.exists_commit_eq_ok heffects hw hrule t.conversation
      exact ⟨_, _, Dialogue.value_speak_of_select_eq_some hs hcommit⟩
  obtain ⟨reply, w', h⟩ := hreply
  exact ⟨reply, w', h, hw.of_coins_eq ((ends_of_reply hclosed h).same_ground hclosed).1⟩

end Turn

/-- With coins that have worth, everything that is said gets a reply. -/
theorem World.exists_talk {ts : List Turn} (h : ∀ t ∈ ts, t.dialogue.IsClosed) {w : World}
    (hw : w.CoinsHaveWorth) : ∃ replies w', w.talk ts = .ok (replies, w') := by
  induction ts generalizing w with
  | nil => exact ⟨[], w, rfl⟩
  | cons t ts ih =>
    obtain ⟨ht, hts⟩ := List.forall_mem_cons.mp h
    obtain ⟨reply, u, hreply, hu⟩ := Turn.exists_reply ht hw
    obtain ⟨rest, w', hrest⟩ := ih hts hu
    exact ⟨reply :: rest, w', talk_cons_eq_ok.mpr ⟨reply, rest, u, rfl, hreply, hrest⟩⟩

end Colloquy

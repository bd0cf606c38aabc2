import Colloquy.Proofs.Dialogue.Course

/-!
# Colloquy.Proofs.Dialogue.QuestCourse

Quests over the course of events: the stage of a quest is the highest that was ever asked for.

* `requests`     — the stages that steps ask for, for one actor and quest.
* `MayTake`      — the actor is on the quest, or the world would start it.
* `stage?_after` — in that case the stage is the highest of the first one and the requests, and
  otherwise there is none.
-/

namespace Colloquy

/-! ### The highest of a list -/

instance instLawfulOrderMaxUInt32 : Std.LawfulOrderMax UInt32 where
  max_eq_or a b := by
    change (if a ≤ b then b else a) = a ∨ (if a ≤ b then b else a) = b
    split
    · exact .inr rfl
    · exact .inl rfl
  max_le_iff a b c := by
    change (if a ≤ b then b else a) ≤ c ↔ _
    split
    · rename_i h
      exact ⟨fun hb => ⟨UInt32.le_trans h hb, hb⟩, And.right⟩
    · rename_i h
      have hba : b ≤ a := (UInt32.le_total b a).resolve_right h
      exact ⟨fun ha => ⟨ha, UInt32.le_trans hba ha⟩, And.left⟩

theorem max?_toList (x : Option UInt32) : x.toList.max? = x := by
  cases x <;> rfl

theorem max?_perm {xs ys : List UInt32} (h : xs.Perm ys) : xs.max? = ys.max? := by
  apply Option.ext
  intro m
  simp only [List.max?_eq_some_iff, h.mem_iff]

/-- The beginning of a list can be replaced by its highest element. -/
theorem max?_toList_append (xs ys : List UInt32) :
    (xs.max?.toList ++ ys).max? = (xs ++ ys).max? := by
  cases h : xs.max? with
  | none =>
    rw [List.max?_eq_none_iff.mp h]
    rfl
  | some m =>
    obtain ⟨hmem, hhighest⟩ := List.max?_eq_some_iff.mp h
    apply Option.ext
    intro n
    simp only [List.max?_eq_some_iff, Option.toList_some, List.mem_append, List.mem_singleton]
    constructor
    · rintro ⟨hn, hle⟩
      constructor
      · rcases hn with rfl | hn
        · exact .inl hmem
        · exact .inr hn
      · rintro x (hx | hx)
        · exact UInt32.le_trans (hhighest x hx) (hle m (.inl rfl))
        · exact hle x (.inr hx)
    · rintro ⟨hn, hle⟩
      constructor
      · rcases hn with hn | hn
        · exact .inl (UInt32.le_antisymm (hhighest n hn) (hle m (.inl hmem)))
        · exact .inr hn
      · rintro x (rfl | hx)
        · exact hle x (.inl hmem)
        · exact hle x (.inr hx)

/-! ### One step -/

/-- The stage that the step asks for, if it is about this quest of this actor. -/
def Step.request? (actor : Ident) (quest : String) : Step → Option UInt32
  | .attempt sc (.advanceQuest name stage) =>
    if sc.actor.id = actor ∧ name = quest then some stage else none
  | _ => none

def requests (actor : Ident) (quest : String) (ss : List Step) : List UInt32 :=
  ss.filterMap (Step.request? actor quest)

namespace World

/-- The actor is on the quest, or may be started on it. -/
def MayTake (w : World) (actor : Ident) (quest : String) : Prop :=
  w.stage? actor quest ≠ none ∨ allows w.knownQuests quest = true

instance (w : World) (actor : Ident) (quest : String) : Decidable (w.MayTake actor quest) :=
  inferInstanceAs (Decidable (_ ∨ _))

theorem stage?_putStage (w : World) (actor other : Ident) (quest name : String) (stage : UInt32) :
    (w.putStage actor quest stage).stage? other name =
      if other = actor ∧ name = quest then some stage else w.stage? other name := rfl

end World

variable {sc : Scene} {e : Effect} {s : Step} {ss : List Step} {w w' : World} {actor : Ident}
  {quest : String} {stage : UInt32}

namespace Effect

theorem stage?_of_advanceQuest
    (h : ((advanceQuest quest stage).apply sc w).value.Leaves w') :
    w'.stage? sc.actor.id quest =
      if w.MayTake sc.actor.id quest then
        ((w.stage? sc.actor.id quest).toList ++ [stage]).max?
      else none := by
  rw [apply, value_applyAdvanceQuest] at h
  cases hat : w.stage? sc.actor.id quest with
  | none =>
    rw [hat] at h
    dsimp only at h
    by_cases hknown : World.allows w.knownQuests quest = true
    · rw [if_pos hknown] at h
      cases h
      rw [if_pos (.inr hknown), World.stage?_putStage, if_pos ⟨rfl, rfl⟩]
      rfl
    · rw [if_neg hknown] at h
      cases h
      rw [if_neg fun hmay => hmay.elim (fun hon => hon hat) hknown, hat]
  | some current =>
    have hmay : w.MayTake sc.actor.id quest := by
      left
      rw [hat]
      exact Option.some_ne_none current
    have hhighest : ((some current).toList ++ [stage]).max? =
        some (if current ≤ stage then stage else current) := rfl
    rw [hat] at h
    dsimp only at h
    rw [if_pos hmay, hhighest]
    by_cases hback : stage < current
    · rw [if_pos hback] at h
      cases h
      rw [if_neg (UInt32.not_le.mpr hback), hat]
    · rw [if_neg hback] at h
      rw [if_pos (UInt32.not_lt.mp hback)]
      by_cases hsame : current = stage
      · rw [if_pos hsame] at h
        cases h
        rw [hat, hsame]
      · rw [if_neg hsame] at h
        cases h
        rw [World.stage?_putStage, if_pos ⟨rfl, rfl⟩]

theorem stage?_of_advanceQuest_other {name : String}
    (h : ((advanceQuest quest stage).apply sc w).value.Leaves w')
    (hne : ¬(sc.actor.id = actor ∧ quest = name)) : w'.stage? actor name = w.stage? actor name := by
  have hcell : ¬(actor = sc.actor.id ∧ name = quest) := fun hsame =>
    hne ⟨hsame.1.symm, hsame.2.symm⟩
  have hsettles : Settles sc w (.advanceQuest quest stage)
      (applyAdvanceQuest sc w quest stage).value := settles_advanceQuest quest stage
  rw [apply] at h
  generalize (applyAdvanceQuest sc w quest stage).value = o at h hsettles
  cases hsettles with
  | done hmakes =>
    cases h
    cases hmakes with
    | questStarted => rw [World.stage?_putStage, if_neg hcell]
    | questKept => rfl
    | questAdvanced => rw [World.stage?_putStage, if_neg hcell]
  | failed fault =>
    cases h
    rfl
  | crashed c hcoin => cases h

theorem apply_advanceQuest_of_not_mayTake (h : ¬w.MayTake sc.actor.id quest) :
    (apply sc w (.advanceQuest quest stage)).value =
      .failed w (.missing .quest quest (Refusal.unknownQuest quest).message) := by
  have hnew : w.stage? sc.actor.id quest = none :=
    Classical.not_not.mp fun hon => h (.inl hon)
  have hunknown : ¬World.allows w.knownQuests quest = true := fun hknown => h (.inr hknown)
  rw [apply, value_applyAdvanceQuest, hnew]
  exact if_neg hunknown

theorem apply_advanceQuest_of_lt {current : UInt32}
    (hat : w.stage? sc.actor.id quest = some current) (hback : stage < current) :
    (apply sc w (.advanceQuest quest stage)).value =
      .failed w (.questRegression quest current stage) := by
  rw [apply, value_applyAdvanceQuest, hat]
  exact if_pos hback

end Effect

namespace Step

theorem stage?_of_not_requested (hs : s.IsOwn) (h : s.result w = .ok w')
    (hnone : s.request? actor quest = none) : w'.stage? actor quest = w.stage? actor quest := by
  cases s with
  | clock now =>
    cases h
    rfl
  | attempt sc e =>
    have hleaves := result_attempt_eq_ok_iff.mp h
    by_cases he : ∃ name stage, e = .advanceQuest name stage
    · obtain ⟨name, stage, rfl⟩ := he
      refine Effect.stage?_of_advanceQuest_other hleaves fun hsame => ?_
      rw [request?, if_pos hsame] at hnone
      cases hnone
    · have hquests : w'.quests = w.quests :=
        (Effect.IsOwn.alters hs hleaves).quests_eq fun name stage heq => he ⟨name, stage, heq⟩
      rw [World.stage?, World.stage?, hquests]

theorem exists_of_request?_eq_some (h : s.request? actor quest = some stage) :
    ∃ sc, s = .attempt sc (.advanceQuest quest stage) ∧ sc.actor.id = actor := by
  unfold request? at h
  split at h
  · rename_i sc name stage'
    split at h
    · rename_i hsame
      cases h
      exact ⟨sc, by rw [hsame.2], hsame.1⟩
    · cases h
  · cases h

/-- What one step does to the stage of a quest. -/
theorem stage?_of_result (hs : s.IsOwn) (h : s.result w = .ok w') :
    w'.stage? actor quest =
      if w.MayTake actor quest then
        ((w.stage? actor quest).toList ++ (s.request? actor quest).toList).max?
      else none := by
  cases hrequest : s.request? actor quest with
  | none =>
    rw [stage?_of_not_requested hs h hrequest, Option.toList_none, List.append_nil, max?_toList]
    split
    · rfl
    · rename_i hmay
      exact Classical.not_not.mp fun hon => hmay (.inl hon)
  | some stage =>
    obtain ⟨sc, rfl, rfl⟩ := exists_of_request?_eq_some hrequest
    exact Effect.stage?_of_advanceQuest (result_attempt_eq_ok_iff.mp h)

theorem mayTake_of_result (hs : s.IsOwn) (h : s.result w = .ok w') :
    w'.MayTake actor quest ↔ w.MayTake actor quest := by
  have hstage : w'.stage? actor quest = if w.MayTake actor quest then _ else none :=
    stage?_of_result hs h
  rw [World.MayTake, (hs.same_ground h).2]
  by_cases hmay : w.MayTake actor quest
  · refine iff_of_true ?_ hmay
    rcases hmay with hon | hknown
    · left
      rw [hstage, if_pos (.inl hon)]
      obtain ⟨current, hat⟩ := Option.ne_none_iff_exists'.mp hon
      rw [hat]
      simp
    · exact .inr hknown
  · refine iff_of_false ?_ hmay
    rintro (hon | hknown)
    · exact hon (by rw [hstage, if_neg hmay])
    · exact hmay (.inr hknown)

end Step

/-! ### Many steps -/

theorem requests_cons (actor : Ident) (quest : String) (s : Step) (ss : List Step) :
    requests actor quest (s :: ss) =
      (s.request? actor quest).toList ++ requests actor quest ss := by
  rw [requests, List.filterMap_cons]
  cases s.request? actor quest <;> rfl

namespace World

/-- The stage of a quest is the highest of the one it was at and those that were asked for since. -/
theorem stage?_after (hss : ∀ s ∈ ss, s.IsOwn) (h : w.after ss = .ok w') :
    w'.stage? actor quest =
      if w.MayTake actor quest then
        ((w.stage? actor quest).toList ++ requests actor quest ss).max?
      else none := by
  induction ss generalizing w with
  | nil =>
    cases h
    rw [requests, List.filterMap_nil, List.append_nil, max?_toList]
    split
    · rfl
    · rename_i hmay
      exact Classical.not_not.mp fun hon => hmay (.inl hon)
  | cons s ss ih =>
    obtain ⟨hs, hrest⟩ := List.forall_mem_cons.mp hss
    obtain ⟨w₁, hstep, hafter⟩ := after_cons_eq_ok.mp h
    have hmay : w₁.MayTake actor quest ↔ w.MayTake actor quest := Step.mayTake_of_result hs hstep
    rw [ih hrest hafter, Step.stage?_of_result hs hstep, requests_cons]
    by_cases hw : w.MayTake actor quest
    · -- the stage after the first step is a highest one itself, and stands for those it is of
      rw [if_pos hw, if_pos (hmay.mpr hw), if_pos hw, max?_toList_append, List.append_assoc]
    · rw [if_neg hw, if_neg fun hw₁ => hw (hmay.mp hw₁), if_neg hw]

theorem mayTake_after (hss : ∀ s ∈ ss, s.IsOwn) (h : w.after ss = .ok w') :
    w'.MayTake actor quest ↔ w.MayTake actor quest := by
  induction ss generalizing w with
  | nil =>
    cases h
    rfl
  | cons s ss ih =>
    obtain ⟨hs, hrest⟩ := List.forall_mem_cons.mp hss
    obtain ⟨w₁, hstep, hafter⟩ := after_cons_eq_ok.mp h
    rw [ih hrest hafter, Step.mayTake_of_result hs hstep]

/-- A stage once reached is kept or passed. -/
theorem le_stage_after (hss : ∀ s ∈ ss, s.IsOwn) (h : w.after ss = .ok w')
    (hat : w.stage? actor quest = some stage) :
    ∃ later, w'.stage? actor quest = some later ∧ stage ≤ later := by
  have hmay : w.MayTake actor quest := by
    left
    rw [hat]
    exact Option.some_ne_none stage
  have hhighest : w'.stage? actor quest = if w.MayTake actor quest then _ else none :=
    stage?_after hss h
  rw [if_pos hmay, hat] at hhighest
  cases hlater : w'.stage? actor quest with
  | none =>
    rw [hlater] at hhighest
    have hempty := List.max?_eq_none_iff.mp hhighest.symm
    cases hempty
  | some later =>
    rw [hlater] at hhighest
    obtain ⟨-, hle⟩ := List.max?_eq_some_iff.mp hhighest.symm
    exact ⟨later, rfl, hle stage (List.mem_append_left _ (List.mem_singleton_self stage))⟩

/-- Whatever happens, an actor who may be on a quest ends at the highest of the stage held at first
and the stages asked for, in whatever order these were asked for; nobody else is ever on it. No
stage is given up on the way, and asking to go back fails. -/
theorem stage_is_highest_requested (w : World) (actor : Ident) (quest : String)
    (hss : ∀ s ∈ ss, s.IsOwn) :
    (w.CoinsHaveWorth → ∃ w', w.after ss = .ok w') ∧
    ∀ w', w.after ss = .ok w' →
      (w.MayTake actor quest →
        w'.stage? actor quest =
          ((w.stage? actor quest).toList ++ requests actor quest ss).max?) ∧
      (¬w.MayTake actor quest → w'.stage? actor quest = none) ∧
      (∀ ts w'', (∀ s ∈ ts, s.IsOwn) → (requests actor quest ts).Perm (requests actor quest ss) →
        w.after ts = .ok w'' → w''.stage? actor quest = w'.stage? actor quest) ∧
      ∀ before behind u, ss = before ++ behind → w.after before = .ok u →
        (∀ stage, u.stage? actor quest = some stage →
          ∃ later, w'.stage? actor quest = some later ∧ stage ≤ later) ∧
        ∀ sc stage, sc.actor.id = actor →
          (¬w.MayTake actor quest → (Effect.apply sc u (.advanceQuest quest stage)).value =
            .failed u (.missing .quest quest (Refusal.unknownQuest quest).message)) ∧
          ∀ current, u.stage? actor quest = some current → stage < current →
            (Effect.apply sc u (.advanceQuest quest stage)).value =
              .failed u (.questRegression quest current stage) := by
  refine ⟨exists_after hss, fun w' hw' => ⟨fun hmay => ?_, fun hmay => ?_, ?_, ?_⟩⟩
  · rw [stage?_after hss hw', if_pos hmay]
  · rw [stage?_after hss hw', if_neg hmay]
  · intro ts w'' hts hperm hw''
    rw [stage?_after hts hw'', stage?_after hss hw', max?_perm (hperm.append_left _)]
  · rintro before behind u rfl hu
    obtain ⟨hbefore, hbehind⟩ := List.forall_mem_append.mp hss
    obtain ⟨u', hu', hrest⟩ := after_append_eq_ok.mp hw'
    obtain rfl : u = u' := Except.ok.inj (hu.symm.trans hu')
    refine ⟨fun stage hat => le_stage_after hbehind hrest hat, ?_⟩
    rintro sc stage rfl
    constructor
    · intro hmay
      rw [← mayTake_after hbefore hu] at hmay
      exact Effect.apply_advanceQuest_of_not_mayTake hmay
    · exact fun current hat hback => Effect.apply_advanceQuest_of_lt hat hback

/-- Asked for stages 2, 5 and 3 between other effects, an actor is at stage 5; a quest that nobody
knows is never begun. -/
theorem stage_is_highest_requested_five :
    let ada : Ident := ⟨7#128⟩
    let sc : Scene := ⟨⟨⟨ada, "ada"⟩, ⟨⟨8#128⟩, "gork"⟩, "hall"⟩, {}, {},
      Rule.plain ⟨["*"], ["Well."], [], []⟩⟩
    let w : World := { knownQuests := ["troll"], coins := [⟨"penny", 1⟩] }
    let ss : List Step := [.attempt sc (.advanceQuest "troll" 2), .attempt sc (.giveItem "money" 9),
      .attempt sc (.advanceQuest "troll" 5), .attempt sc (.advanceQuest "dragon" 1),
      .clock ⟨1, 2, 3, 4, 5⟩, .attempt sc (.advanceQuest "troll" 3), .attempt sc .callback]
    w.CoinsHaveWorth ∧ (∀ s ∈ ss, s.IsOwn) ∧ w.MayTake ada "troll" ∧ ¬w.MayTake ada "dragon" ∧
    ∃ w', w.after ss = .ok w' ∧ w'.stage? ada "troll" = some 5 ∧ w'.stage? ada "dragon" = none ∧
      (Effect.apply sc w' (.advanceQuest "troll" 4)).value =
        .failed w' (.questRegression "troll" 5 4) ∧
      (Effect.apply sc w' (.advanceQuest "dragon" 1)).value =
        .failed w' (.missing .quest "dragon" "quest 'dragon' is not registered") ∧
      ∀ ts w'', (∀ s ∈ ts, s.IsOwn) → (requests ada "troll" ts).Perm [2, 5, 3] →
        w.after ts = .ok w'' → w''.stage? ada "troll" = some 5 := by
  intro ada sc w ss
  have hworth : w.CoinsHaveWorth := by decide
  have hss : ∀ s ∈ ss, s.IsOwn := by decide
  have htroll : w.MayTake ada "troll" := by decide
  have hdragon : ¬w.MayTake ada "dragon" := by decide
  obtain ⟨hexists, hends⟩ := stage_is_highest_requested w ada "troll" hss
  obtain ⟨w', hw'⟩ := hexists hworth
  obtain ⟨hhighest, -, hperm, hstep⟩ := hends w' hw'
  obtain ⟨-, hnone, -, hunknown⟩ := (stage_is_highest_requested w ada "dragon" hss).2 w' hw'
  have hfive : w'.stage? ada "troll" = some 5 := hhighest htroll
  have hwhole : ss = ss ++ [] := (List.append_nil ss).symm
  obtain ⟨-, hback⟩ := hstep ss [] w' hwhole hw'
  obtain ⟨-, hfails⟩ := hunknown ss [] w' hwhole hw'
  refine ⟨hworth, hss, htroll, hdragon, w', hw', hfive, hnone hdragon,
    (hback sc 4 rfl).2 5 hfive (by decide), (hfails sc 1 rfl).1 hdragon, ?_⟩
  intro ts w'' hts hasked hw''
  rw [hperm ts w'' hts hasked hw'', hfive]

end World

end Colloquy

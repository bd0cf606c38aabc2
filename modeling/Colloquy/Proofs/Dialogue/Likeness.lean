import Colloquy.Proofs.Dialogue.Course
import Colloquy.Proofs.World.Agreement
import Mathlib.Data.List.Find

/-!
# Colloquy.Proofs.Dialogue.Likeness

The same said twice: in worlds that are the same to those concerned, and by people who may go by
other names.

* `Conversation.renamed`   — the conversation of the same people by other names.
* `Effect.Makes.alike`     — an effect does the same in both worlds, and `Effect.leaves_alike` says
  so of every attempt.
* `Dialogue.select_alike`  — the same rule answers.
* `Dialogue.commit_alike`  — what every effect keeps of two worlds is kept by both commits.
-/

namespace Colloquy

/-- The conversation of the same people by other names. -/
def Conversation.renamed (c : Conversation) (actor speaker : String) : Conversation :=
  ⟨{ c.actor with name := actor }, { c.speaker with name := speaker }, c.place⟩

def Scene.renamed (sc : Scene) (actor speaker : String) : Scene :=
  { sc with conversation := sc.conversation.renamed actor speaker }

/-! ### Effects -/

namespace Effect

variable {who : Ident → Prop} {sc : Scene} {e : Effect} {u v w : World}

theorem quantityTaken_alike (h : w.AgreesFor who v) (hactor : who sc.actor.id)
    (actor speaker item : String) (quantity : UInt64) :
    quantityTaken (sc.renamed actor speaker) v item quantity = quantityTaken sc w item quantity := by
  have hpurse : v.purse (sc.renamed actor speaker).actor.id = w.purse sc.actor.id :=
    h.purse_eq hactor
  have hcount : v.count (sc.renamed actor speaker).actor.id item = w.count sc.actor.id item :=
    h.count_eq hactor item
  rw [quantityTaken, hpurse, hcount]
  rfl

/-- Nobody else has anything that the effect looks at. Only giving looks at what the speaker has. -/
def Concerns (who : Ident → Prop) (sc : Scene) (e : Effect) : Prop :=
  who sc.actor.id ∧ ∀ item quantity, e = .giveItem item quantity → who sc.speaker.id

theorem Makes.alike (h : Makes sc w e u) (hagrees : w.AgreesFor who v) (hwho : e.Concerns who sc)
    (actor speaker : String) :
    ∃ u', Makes (sc.renamed actor speaker) v e u' ∧ u.AgreesFor who u' := by
  obtain ⟨hactor, hspeaker⟩ := hwho
  cases h with
  | flagKept hname => exact ⟨v, .flagKept hname, hagrees⟩
  | flagSet hname hvalue hwild =>
    exact ⟨_, .flagSet hname hvalue hwild, hagrees.stored hactor _ _ _ _⟩
  | timeMarked hname =>
    refine ⟨_, .timeMarked hname, ?_⟩
    rw [hagrees.clock]
    exact hagrees.stored hactor _ _ _ _
  | @questStarted quest stage hnew hknown =>
    rw [← hagrees.stage?_eq hactor] at hnew
    rw [← hagrees.knownQuests] at hknown
    exact ⟨_, .questStarted hnew hknown, hagrees.putStage _ quest stage⟩
  | questKept hat =>
    rw [← hagrees.stage?_eq hactor] at hat
    exact ⟨v, .questKept hat, hagrees⟩
  | @questAdvanced quest stage current hat hlt =>
    rw [← hagrees.stage?_eq hactor] at hat
    exact ⟨_, .questAdvanced hat hlt, hagrees.putStage _ quest stage⟩
  | coinsGiven hchange =>
    rw [← hagrees.coins] at hchange
    exact ⟨_, .coinsGiven hchange, hagrees.giveAll hactor _⟩
  | @itemGiven item quantity n hitem hn hheld =>
    have hcount := hagrees.count_eq (hspeaker item quantity rfl) item
    rw [← hcount] at hheld ⊢
    exact ⟨_, .itemGiven hitem hn hheld, (hagrees.setCount _ item _).give hactor item n⟩
  | @coinsTaken quantity n given hn hpos hheld hchange =>
    rw [← quantityTaken_alike hagrees hactor actor speaker] at hn
    rw [← hagrees.purse_eq hactor] at hheld
    rw [← hagrees.purse_eq hactor, ← hagrees.coins] at hchange
    exact ⟨_, .coinsTaken hn hpos hheld hchange,
      (hagrees.emptyPurse _).giveAll hactor given⟩
  | @itemTaken item quantity n hitem hn hpos hheld =>
    have hcount := hagrees.count_eq hactor item
    rw [← quantityTaken_alike hagrees hactor actor speaker] at hn
    rw [← hcount] at hheld ⊢
    exact ⟨_, .itemTaken hitem hn hpos hheld, hagrees.setCount _ item _⟩
  | connected hwired =>
    rw [← hagrees.wired] at hwired
    exact ⟨_, .connected hwired, hagrees.signalled _⟩

/-- An attempt comes to the same in both worlds: there it is carried out, or here and there it
fails. -/
theorem leaves_alike (hnone : e.HasNoHandler sc.registry) (hne : e ≠ .callback)
    (hw : w.CoinsHaveWorth) (hagrees : w.AgreesFor who v) (hwho : e.Concerns who sc)
    (actor speaker : String) :
    ∃ w' v', (e.apply sc w).value.Leaves w' ∧
      (e.apply (sc.renamed actor speaker) v).value.Leaves v' ∧
      w'.AgreesFor who v' ∧ w'.CoinsHaveWorth ∧ w'.spoken = w.spoken ∧ v'.spoken = v.spoken := by
  have hv : v.CoinsHaveWorth := hw.of_coins_eq hagrees.coins
  have hnone' : e.HasNoHandler (sc.renamed actor speaker).registry := hnone
  obtain ⟨w', hmakes, hdone⟩ | ⟨fault, hfailed⟩ := makes_or_fails hnone hne hw
  · obtain ⟨v', hmakes', hagrees'⟩ := hmakes.alike hagrees hwho actor speaker
    exact ⟨w', v', hdone ▸ .done w', hmakes'.value_apply ▸ .done v', hagrees',
      hw.of_coins_eq hmakes.coins_eq, hmakes.alters.spoken_eq, hmakes'.alters.spoken_eq⟩
  · obtain ⟨v', hmakes', -⟩ | ⟨fault', hfailed'⟩ := makes_or_fails hnone' hne hv
    · obtain ⟨w', hmakes, -⟩ :=
        hmakes'.alike hagrees.symm hwho sc.conversation.actor.name sc.conversation.speaker.name
      have hdone : (e.apply sc w).value = .done w' := hmakes.value_apply
      rw [hfailed] at hdone
      cases hdone
    · exact ⟨w, v, hfailed ▸ .failed w fault, hfailed' ▸ .failed v fault', hagrees, hw, rfl, rfl⟩

end Effect

/-! ### Selection -/

section Selection

variable {who : Ident → Prop} {d : Dialogue} {conv : Conversation} {v w : World}

theorem Condition.holds_congr {o o' : Outlook} (hflags : o'.flags = o.flags)
    (hsettings : o'.settings = o.settings) (hheld : ∀ item, o'.held item = o.held item)
    (hstage : ∀ quest, o'.world.stage? o'.actor quest = o.world.stage? o.actor quest)
    (hlevel : ∀ skill, o'.world.level? o'.actor skill = o.world.level? o.actor skill)
    (hclock : o'.world.clock = o.world.clock) (c : Condition) :
    (c.holds o').value = (c.holds o).value := by
  cases c with
  | flag name values => rw [holds, holds, hflags]
  | item name count => rw [holds, holds, hheld]
  | quest name stage => rw [holds, holds, hstage]
  | level skill least => rw [holds, holds, hlevel]
  | age name span => rw [holds, holds, holdsAge, holdsAge, hflags, hsettings, hclock]

theorem Condition.holds_alike (hagrees : w.AgreesFor who v) (hactor : who conv.actor.id)
    (actor speaker : String) (c : Condition) :
    (c.holds (d.outlook v (conv.renamed actor speaker))).value =
      (c.holds (d.outlook w conv)).value := by
  have hflags : (d.outlook v (conv.renamed actor speaker)).flags = (d.outlook w conv).flags :=
    congrArg Flag.decode (hagrees.packed_eq hactor d.settings.store conv.place)
  have hpurse : v.purse conv.actor.id = w.purse conv.actor.id := hagrees.purse_eq hactor
  have hheld : ∀ item, (d.outlook v (conv.renamed actor speaker)).held item =
      (d.outlook w conv).held item :=
    fun item => if_congr Iff.rfl hpurse (hagrees.count_eq hactor item)
  have hlevel : ∀ skill, v.level? conv.actor.id skill = w.level? conv.actor.id skill :=
    fun skill => congrFun (congrFun hagrees.levels conv.actor.id) skill
  exact holds_congr hflags rfl hheld (hagrees.stage?_eq hactor) hlevel hagrees.clock c

/-- Guards that agree in both worlds leave it to the conditions whether the rule answers. -/
theorem HookedRule.answers_alike {r : HookedRule} (hagrees : w.AgreesFor who v)
    (hactor : who conv.actor.id) {actor speaker : String}
    (hguard : ∀ guard, r.guard = some guard →
      (guard (conv.renamed actor speaker) r.toRule v).value = (guard conv r.toRule w).value)
    (utterance : String) :
    r.Answers (d.outlook v (conv.renamed actor speaker)) utterance ↔
      r.Answers (d.outlook w conv) utterance := by
  have hholds := fun c => Condition.holds_alike (d := d) hagrees hactor actor speaker c
  constructor
  · intro h
    exact ⟨h.heard, fun c hc => hholds c ▸ h.holds c hc,
      fun guard hg => hguard guard hg ▸ h.allowed guard hg⟩
  · intro h
    exact ⟨h.heard, fun c hc => (hholds c).trans (h.holds c hc),
      fun guard hg => (hguard guard hg).trans (h.allowed guard hg)⟩

namespace Dialogue

/-- Where the worlds are the same to the actor, the same rule is selected or none in both. -/
theorem select_alike (hagrees : w.AgreesFor who v) (hactor : who conv.actor.id)
    (actor speaker : String)
    (hguards : ∀ r ∈ d.rules, ∀ guard, r.guard = some guard →
      (guard (conv.renamed actor speaker) r.toRule v).value = (guard conv r.toRule w).value)
    (utterance : String) (draw draw' : UInt32) :
    ((d.select w conv utterance draw).value = none ∧
        (d.select v (conv.renamed actor speaker) utterance draw').value = none) ∨
      ∃ i r, d.rules[i]? = some r ∧
        (d.select w conv utterance draw).value = some (selectionOf conv draw i r) ∧
        (d.select v (conv.renamed actor speaker) utterance draw').value =
          some (selectionOf (conv.renamed actor speaker) draw' i r) := by
  have hfind : (d.rules.zipIdx.find? fun x =>
      decide (x.1.Answers (d.outlook v (conv.renamed actor speaker)) utterance)) =
      d.rules.zipIdx.find? fun x => decide (x.1.Answers (d.outlook w conv) utterance) := by
    refine List.find?_congr fun x hx => ?_
    have hmem := List.mem_of_getElem? (List.mem_zipIdx_iff_getElem?.mp hx)
    exact decide_eq_decide.mpr (HookedRule.answers_alike hagrees hactor (hguards _ hmem) utterance)
  rw [value_select, value_select, hfind]
  cases hrule : d.rules.zipIdx.find? fun x => decide (x.1.Answers (d.outlook w conv) utterance) with
  | none => exact .inl ⟨rfl, rfl⟩
  | some x =>
    have hx := List.mem_zipIdx_iff_getElem?.mp (List.mem_of_find?_eq_some hrule)
    exact .inr ⟨x.2, x.1, hx, rfl, rfl⟩

end Dialogue

end Selection

/-! ### Commit -/

namespace Dialogue

/-- What every effect keeps of two worlds is kept by effects in a row. -/
theorem runEffects_alike {R : World → World → Prop} {sc sc' : Scene} {es : List Effect}
    (hstep : ∀ e ∈ es, ∀ w v, R w v → ∃ w' v', (e.apply sc w).value.Leaves w' ∧
      (e.apply sc' v).value.Leaves v' ∧ R w' v')
    {w v : World} (h : R w v) (i : Nat) :
    ∃ w' v', (runEffects sc i es w).value = .ok w' ∧ (runEffects sc' i es v).value = .ok v' ∧
      R w' v' := by
  induction es generalizing w v with
  | nil => exact ⟨w, v, rfl, rfl, h⟩
  | cons e es ih =>
    obtain ⟨he, hrest⟩ := List.forall_mem_cons.mp hstep
    obtain ⟨w₁, v₁, hw₁, hv₁, h₁⟩ := he w v h
    obtain ⟨w', v', hw', hv', h'⟩ := ih hrest h₁
    refine ⟨w', v', ?_, ?_, h'⟩
    · rw [value_runEffects_of_leaves hw₁, hw']
    · rw [value_runEffects_of_leaves hv₁, hv']

/-- What every effect and the continuation keep of two worlds is kept by commits of one rule. -/
theorem commit_alike {R : World → World → Prop} {d : Dialogue} {conv conv' : Conversation}
    (s s' : Selection) {r : HookedRule} (hr : d.rules[s.index]? = some r)
    (hindex : s'.index = s.index) (heffects : s.effects = r.effects)
    (heffects' : s'.effects = r.effects)
    (hstep : ∀ e ∈ r.effects, ∀ w v, R w v →
      ∃ w' v', (e.apply (d.scene conv r) w).value.Leaves w' ∧
        (e.apply (d.scene conv' r) v).value.Leaves v' ∧ R w' v')
    (hlast : ∀ w v, R w v → R (Effect.runContinuation (d.scene conv r) w).value
      (Effect.runContinuation (d.scene conv' r) v).value)
    {w v : World} (h : R (w.say conv.speaker.id conv.actor.id s.response)
      (v.say conv'.speaker.id conv'.actor.id s'.response)) :
    ∃ w' v', (d.commit w conv s).value = .ok w' ∧ (d.commit v conv' s').value = .ok v' ∧
      R w' v' := by
  have hr' : d.rules[s'.index]? = some r := by rw [hindex, hr]
  obtain ⟨w₁, v₁, hw₁, hv₁, h₁⟩ := runEffects_alike hstep h s.index
  rw [value_commit hr, value_commit hr', hindex, heffects, heffects', hw₁, hv₁]
  by_cases hcallback : r.hasCallback = true
  · exact ⟨w₁, v₁, if_pos hcallback, if_pos hcallback, h₁⟩
  · exact ⟨_, _, if_neg hcallback, if_neg hcallback, hlast w₁ v₁ h₁⟩

end Dialogue

end Colloquy

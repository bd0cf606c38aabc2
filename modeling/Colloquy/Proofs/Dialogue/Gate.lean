import Colloquy.Proofs.Dialogue.FlagCourse
import Colloquy.Proofs.Dialogue.Talk
import Colloquy.Proofs.Document.Reload

/-!
# Colloquy.Proofs.Dialogue.Gate

Rules that wait for a flag, over everything that is said.

* `fired`                    — the rules of a rule set that fired in the conversations of one actor
  at one place.
* `Turn.read_of_ends`        — what a flag of that actor reads as after one turn, anybody's.
* `Turn.gate_of_ends`        — a rule that fires finds its flags at values that it accepts.
* `RuleSet.gate_of_talk`     — so these were written last by the rules that fired before it.
* `RuleSet.flags_gate_rules` — what follows for a rule that fires twice, and for one that never does.
-/

namespace Colloquy

/-! ### The rules that fired -/

def Reply.index? : Reply → Option Nat
  | .handled i _ => some i
  | .unhandled => none

namespace Turn

/-- The turn is one of this actor at this place. -/
def IsAt (t : Turn) (actor : Ident) (place : String) : Prop :=
  t.conversation.actor.id = actor ∧ t.conversation.place = place

instance (t : Turn) (actor : Ident) (place : String) : Decidable (t.IsAt actor place) :=
  inferInstanceAs (Decidable (_ ∧ _))

/-- The rule that fired in the turn, if it is one of this actor at this place. -/
def fired? (actor : Ident) (place : String) (t : Turn) (reply : Reply) : Option Nat :=
  if t.IsAt actor place then reply.index? else none

end Turn

def fired (actor : Ident) (place : String) (ts : List Turn) (replies : List Reply) : List Nat :=
  (ts.zip replies).filterMap fun x => x.1.fired? actor place x.2

theorem fired_cons (actor : Ident) (place : String) (t : Turn) (ts : List Turn) (reply : Reply)
    (replies : List Reply) :
    fired actor place (t :: ts) (reply :: replies) =
      (t.fired? actor place reply).toList ++ fired actor place ts replies := by
  rw [fired, List.zip_cons_cons, List.filterMap_cons]
  cases t.fired? actor place reply <;> rfl

theorem fired_cons_cases {actor : Ident} {place : String} {t : Turn} {ts : List Turn}
    {reply : Reply} {replies : List Reply} {before behind : List Nat} {i : Nat}
    (h : fired actor place (t :: ts) (reply :: replies) = before ++ i :: behind) :
    before = [] ∧ t.fired? actor place reply = some i ∨
      ∃ later, before = (t.fired? actor place reply).toList ++ later ∧
        fired actor place ts replies = later ++ i :: behind := by
  rw [fired_cons] at h
  cases hfirst : t.fired? actor place reply with
  | none =>
    rw [hfirst] at h
    exact .inr ⟨before, rfl, h⟩
  | some k =>
    rw [hfirst] at h
    cases before with
    | nil =>
      cases h
      exact .inl ⟨rfl, rfl⟩
    | cons j later =>
      obtain ⟨rfl, hlater⟩ := List.cons.inj h
      exact .inr ⟨later, rfl, hlater⟩

/-- The effects of rules that fired one after the other. -/
def RuleSet.effectsOf (s : RuleSet) (is : List Nat) : List Effect :=
  is.flatMap fun i => (s.bareRules[i]?.map (·.effects)).getD []

theorem RuleSet.effectsOf_singleton {s : RuleSet} {i : Nat} {r : Rule}
    (h : s.bareRules[i]? = some r) : s.effectsOf [i] = r.effects := by
  rw [effectsOf, List.flatMap_singleton, h]
  rfl

theorem RuleSet.effectsOf_append (s : RuleSet) (is js : List Nat) :
    s.effectsOf (is ++ js) = s.effectsOf is ++ s.effectsOf js :=
  List.flatMap_append

theorem RuleSet.mem_effectsOf {s : RuleSet} {is : List Nat} {e : Effect} :
    e ∈ s.effectsOf is ↔ ∃ i ∈ is, ∃ r, s.bareRules[i]? = some r ∧ e ∈ r.effects := by
  rw [effectsOf, List.mem_flatMap]
  refine exists_congr fun i => and_congr_right fun _ => ?_
  cases s.bareRules[i]? with
  | none => simp
  | some r => simp

/-! ### One turn -/

/-- The rules of the dialogue are those of the rule set, maybe with guards. -/
def Dialogue.Uses (d : Dialogue) (s : RuleSet) : Prop :=
  d.rules.map (·.toRule) = s.bareRules

instance (d : Dialogue) (s : RuleSet) : Decidable (d.Uses s) :=
  inferInstanceAs (Decidable (_ = _))

theorem Dialogue.Uses.getElem? {d : Dialogue} {s : RuleSet} (h : d.Uses s) {i : Nat}
    {r : HookedRule} (hr : d.rules[i]? = some r) : s.bareRules[i]? = some r.toRule := by
  rw [← h, List.getElem?_map, hr]
  rfl

theorem Document.isWritable_of_getElem? {doc : Document} {s : RuleSet}
    (h : doc.toRuleSet = .ok s) {i : Nat} {r : Rule} (hr : s.bareRules[i]? = some r) :
    r.IsWritable := by
  obtain ⟨loaded, hmem, rfl⟩ := List.mem_map.mp (List.mem_of_getElem? hr)
  exact (isMade_and_isWritable_of_mem h hmem).2

namespace Turn

variable {doc : Document} {s : RuleSet} {t : Turn} {actor : Ident} {place : String} {w w' : World}
  {reply : Reply}

/-- What a flag reads as after a turn: as before, unless the turn is one of the actor at the place
and the rule that fired has a value for it. -/
theorem read_of_ends (hload : doc.toRuleSet = .ok s) (hclosed : t.dialogue.IsClosed)
    (huses : t.IsAt actor place → t.dialogue.Uses s) (h : t.Ends w reply w') (flag : String) :
    (t.dialogue.settings.store.read w' actor place flag).value =
      (lastGiven? flag w.clock (s.effectsOf (t.fired? actor place reply).toList)).getD
        (t.dialogue.settings.store.read w actor place flag).value := by
  cases h with
  | unhandled =>
    have hnone : t.fired? actor place .unhandled = none := by
      rw [fired?]
      split <;> rfl
    rw [hnone]
    rfl
  | @handled i line r _ hrule _ heffects =>
    have hown := (hclosed r (List.mem_of_getElem? hrule)).isOwn t.conversation
    by_cases hat : t.IsAt actor place
    · obtain ⟨rfl, rfl⟩ := hat
      have hbare := (huses ⟨rfl, rfl⟩).getElem? hrule
      have hwritable := (Document.isWritable_of_getElem? hload hbare).effects
      rw [fired?, if_pos ⟨rfl, rfl⟩, Reply.index?, Option.toList_some,
        RuleSet.effectsOf_singleton hbare]
      exact World.read_after_effects hown hwritable heffects flag
    · rw [fired?, if_neg hat]
      have hunder : ∀ step ∈ r.effects.map (Step.attempt (t.dialogue.scene t.conversation r)),
          step.IsUnder t.dialogue.settings := by
        intro step hstep
        obtain ⟨e, -, rfl⟩ := List.mem_map.mp hstep
        exact rfl
      have hnot : ∀ step ∈ r.effects.map (Step.attempt (t.dialogue.scene t.conversation r)),
          ¬step.Sets actor place flag := by
        intro step hstep hsets
        obtain ⟨e, -, rfl⟩ := List.mem_map.mp hstep
        exact hat ⟨hsets.1, hsets.2.1⟩
      rw [World.read_after_of_not_sets (Step.isOwn_map hown) hunder hnot heffects]
      exact Flag.Store.value_read_congr rfl flag

/-- A rule that fires finds its flags at values that it accepts. -/
theorem gate_of_ends (huses : t.IsAt actor place → t.dialogue.Uses s) (h : t.Ends w reply w')
    {i : Nat} (hfired : t.fired? actor place reply = some i) :
    ∃ r, s.bareRules[i]? = some r ∧ ∀ flag values, .flag flag values ∈ r.conditions →
      Flag.wildcard ∉ values →
      (t.dialogue.settings.store.read w actor place flag).value ∈ values := by
  have hat : t.IsAt actor place := by
    apply Classical.not_not.mp
    intro hat
    rw [fired?, if_neg hat] at hfired
    cases hfired
  rw [fired?, if_pos hat] at hfired
  cases h with
  | unhandled => cases hfired
  | @handled j line r _ hrule hanswers heffects =>
    cases hfired
    refine ⟨r.toRule, (huses hat).getElem? hrule, fun flag values hcondition hwild => ?_⟩
    obtain ⟨rfl, rfl⟩ := hat
    have hholds := hanswers.holds _ hcondition
    rw [Condition.holds, Noted.value_pure, List.any_eq_true] at hholds
    obtain ⟨v, hv, haccepts⟩ := hholds
    rw [Bool.or_eq_true, beq_iff_eq, beq_iff_eq] at haccepts
    rcases haccepts with rfl | rfl
    · exact absurd hv hwild
    · exact hv

end Turn

/-! ### Many turns -/

namespace RuleSet

variable {doc : Document} {s : RuleSet} {settings : Settings} {actor : Ident} {place : String}
  {ts : List Turn} {w w' : World} {replies : List Reply}

/-- The turns are in closed dialogues under the same settings, and those of the actor at the place
are with the rules of the rule set. -/
structure Serves (s : RuleSet) (settings : Settings) (actor : Ident) (place : String) (t : Turn) :
    Prop where
  closed : t.dialogue.IsClosed
  settings : t.dialogue.settings = settings
  uses : t.IsAt actor place → t.dialogue.Uses s

instance (t : Turn) : Decidable (s.Serves settings actor place t) :=
  decidable_of_iff (t.dialogue.IsClosed ∧ t.dialogue.settings = settings ∧
      (t.IsAt actor place → t.dialogue.Uses s))
    ⟨fun h => ⟨h.1, h.2.1, h.2.2⟩, fun h => ⟨h.closed, h.settings, h.uses⟩⟩

/-- The first rule to fire finds its flags as they were at first; one that fires later, as the rules
before it have left them. -/
theorem gate_of_talk (hload : doc.toRuleSet = .ok s)
    (hts : ∀ t ∈ ts, s.Serves settings actor place t) (h : w.talk ts = .ok (replies, w'))
    {before behind : List Nat} {i : Nat}
    (hfired : fired actor place ts replies = before ++ i :: behind) :
    ∃ r, s.bareRules[i]? = some r ∧ ∀ flag values, .flag flag values ∈ r.conditions →
      Flag.wildcard ∉ values →
      (lastGiven? flag w.clock (s.effectsOf before)).getD
        (settings.store.read w actor place flag).value ∈ values := by
  -- by induction on the turns, for any first world: the values that the first turn leaves are the
  -- first values of the rest
  induction ts generalizing w replies before with
  | nil =>
    cases h
    have hempty : [] = before ++ i :: behind := hfired
    simp at hempty
  | cons t ts ih =>
    obtain ⟨ht, hrest⟩ := List.forall_mem_cons.mp hts
    obtain ⟨reply, rest, u, rfl, hreply, htalk⟩ := World.talk_cons_eq_ok.mp h
    have hends := Turn.ends_of_reply ht.closed hreply
    have hread := Turn.read_of_ends hload ht.closed ht.uses hends
    rw [ht.settings] at hread
    rcases fired_cons_cases hfired with ⟨rfl, hfirst⟩ | ⟨later, rfl, hlater⟩
    · obtain ⟨r, hr, hgate⟩ := Turn.gate_of_ends ht.uses hends hfirst
      rw [ht.settings] at hgate
      exact ⟨r, hr, hgate⟩
    · obtain ⟨r, hr, hgate⟩ := ih hrest htalk hlater
      refine ⟨r, hr, fun flag values hcondition hwild => ?_⟩
      have hvalue := hgate flag values hcondition hwild
      rw [(hends.same_ground ht.closed).2, hread flag] at hvalue
      rw [effectsOf_append, lastGiven?_append, Option.getD_or]
      exact hvalue

/-- While only rules fire that leave a flag alone or at one value, it stays at that value. -/
theorem lastGiven?_effectsOf_cases {flag value : String} {now : Moment} {is : List Nat}
    (h : ∀ i ∈ is, lastGiven? flag now (s.effectsOf [i]) = none ∨
      lastGiven? flag now (s.effectsOf [i]) = some value) :
    lastGiven? flag now (s.effectsOf is) = none ∨
      lastGiven? flag now (s.effectsOf is) = some value := by
  induction is with
  | nil => exact .inl rfl
  | cons i is ih =>
    obtain ⟨hi, his⟩ := List.forall_mem_cons.mp h
    rw [← List.singleton_append, effectsOf_append, lastGiven?_append]
    rcases ih his with hrest | hrest
    · rw [hrest, Option.none_or]
      exact hi
    · rw [hrest, Option.some_or]
      exact .inr rfl

/-- A rule whose own last value for a flag is none that it accepts waits for another rule. -/
theorem exists_other_of_fired_twice (hload : doc.toRuleSet = .ok s)
    (hts : ∀ t ∈ ts, s.Serves settings actor place t) (h : w.talk ts = .ok (replies, w'))
    {before between behind : List Nat} {i : Nat}
    (hfired : fired actor place ts replies = (before ++ i :: between) ++ i :: behind) {r : Rule}
    (hr : s.bareRules[i]? = some r) {flag : String} {values : List String}
    (hcondition : .flag flag values ∈ r.conditions) (hwild : Flag.wildcard ∉ values) {v : String}
    (hlast : lastGiven? flag w.clock r.effects = some v) (hv : v ∉ values) :
    ∃ j ∈ between, j ≠ i ∧ ∃ r', s.bareRules[j]? = some r' ∧ ∃ e ∈ r'.effects, e.Sets flag := by
  apply Classical.byContradiction
  intro hnone
  have hself : lastGiven? flag w.clock (s.effectsOf [i]) = some v := by
    rw [effectsOf_singleton hr, hlast]
  have hbetween : ∀ j ∈ between, lastGiven? flag w.clock (s.effectsOf [j]) = none ∨
      lastGiven? flag w.clock (s.effectsOf [j]) = some v := by
    intro j hj
    by_cases hji : j = i
    · rw [hji]
      exact .inr hself
    · left
      rw [lastGiven?_eq_none_iff]
      intro e he hsets
      obtain ⟨j', hj', r', hr', hmem⟩ := mem_effectsOf.mp he
      rw [List.mem_singleton.mp hj'] at hr'
      exact hnone ⟨j, hj, hji, r', hr', e, hmem, hsets⟩
  obtain ⟨r', hr', hgate⟩ := gate_of_talk hload hts h hfired
  obtain rfl : r = r' := Option.some.inj (hr.symm.trans hr')
  have hvalue := hgate flag values hcondition hwild
  rw [effectsOf_append, ← List.singleton_append, effectsOf_append, lastGiven?_append,
    lastGiven?_append, hself] at hvalue
  rcases lastGiven?_effectsOf_cases hbetween with hrest | hrest
  · rw [hrest] at hvalue
    exact hv hvalue
  · rw [hrest] at hvalue
    exact hv hvalue

/-- A rule waits forever for values that a flag neither has at first nor is ever given. -/
theorem not_mem_fired (hload : doc.toRuleSet = .ok s)
    (hts : ∀ t ∈ ts, s.Serves settings actor place t) (h : w.talk ts = .ok (replies, w'))
    {i : Nat} {r : Rule} (hr : s.bareRules[i]? = some r) {flag : String} {values : List String}
    (hcondition : .flag flag values ∈ r.conditions) (hwild : Flag.wildcard ∉ values)
    (hfirst : (settings.store.read w actor place flag).value ∉ values)
    (hnever : ∀ j ∈ fired actor place ts replies, ∀ r', s.bareRules[j]? = some r' →
      ∀ e ∈ r'.effects, ∀ v, e.given? flag w.clock = some v → v ∉ values) :
    i ∉ fired actor place ts replies := by
  intro hmem
  obtain ⟨before, behind, hfired⟩ := List.append_of_mem hmem
  obtain ⟨r', hr', hgate⟩ := gate_of_talk hload hts h hfired
  obtain rfl : r = r' := Option.some.inj (hr.symm.trans hr')
  have hvalue := hgate flag values hcondition hwild
  cases hlast : lastGiven? flag w.clock (s.effectsOf before) with
  | none =>
    rw [hlast] at hvalue
    exact hfirst hvalue
  | some v =>
    rw [hlast] at hvalue
    obtain ⟨e, he, hgiven⟩ := exists_given?_of_lastGiven? hlast
    obtain ⟨j, hj, r', hr', he⟩ := mem_effectsOf.mp he
    have hjfired : j ∈ fired actor place ts replies := by
      rw [hfired]
      exact List.mem_append_left _ hj
    exact hnever j hjfired r' hr' e he v hgiven hvalue

/-- However much is said, and by whomever, a rule of a loaded rule set fires only if its flags have
values that it accepts: the last ones that the rules fired before it in the conversation had for
them, or else the first ones. So a rule whose own last value is none that it accepts fires again
only after another rule has set the flag, and a rule that accepts neither the first value nor any
that a rule has which fires never fires. -/
theorem flags_gate_rules (hload : doc.toRuleSet = .ok s)
    (hts : ∀ t ∈ ts, s.Serves settings actor place t) (hw : w.CoinsHaveWorth) :
    ∃ replies w', w.talk ts = .ok (replies, w') ∧
      (∀ before i behind, fired actor place ts replies = before ++ i :: behind →
        ∃ r, s.bareRules[i]? = some r ∧ ∀ flag values, .flag flag values ∈ r.conditions →
          Flag.wildcard ∉ values →
          (lastGiven? flag w.clock (s.effectsOf before)).getD
            (settings.store.read w actor place flag).value ∈ values) ∧
      ∀ i r, s.bareRules[i]? = some r → ∀ flag values, .flag flag values ∈ r.conditions →
        Flag.wildcard ∉ values →
        (∀ before between behind v,
          fired actor place ts replies = (before ++ i :: between) ++ i :: behind →
          lastGiven? flag w.clock r.effects = some v → v ∉ values →
          ∃ j ∈ between, j ≠ i ∧ ∃ r', s.bareRules[j]? = some r' ∧ ∃ e ∈ r'.effects, e.Sets flag) ∧
        ((settings.store.read w actor place flag).value ∉ values →
          (∀ j ∈ fired actor place ts replies, ∀ r', s.bareRules[j]? = some r' →
            ∀ e ∈ r'.effects, ∀ v, e.given? flag w.clock = some v → v ∉ values) →
          i ∉ fired actor place ts replies) := by
  obtain ⟨replies, w', htalk⟩ := World.exists_talk (fun t ht => (hts t ht).closed) hw
  refine ⟨replies, w', htalk, fun before i behind hfired => gate_of_talk hload hts htalk hfired, ?_⟩
  intro i r hr flag values hcondition hwild
  exact ⟨fun _ _ _ _ hfired hlast hv =>
      exists_other_of_fired_twice hload hts htalk hfired hr hcondition hwild hlast hv,
    fun hfirst hnever => not_mem_fired hload hts htalk hr hcondition hwild hfirst hnever⟩

/-- A greeting is said once, what follows it as often as one likes, and what waits for `met` to be 2
never; what another actor says in between does not matter. -/
theorem flags_gate_rules_greeting :
    let ada : Entity := ⟨⟨7#128⟩, "ada"⟩
    let bob : Entity := ⟨⟨9#128⟩, "bob"⟩
    let gork : Entity := ⟨⟨8#128⟩, "gork"⟩
    let doc : Document := ⟨"hall",
      [⟨"*", [["met", "0"]], [["met", "5"], ["met", "1"]], ["Hi."], none⟩,
        ⟨"*", [["met", "2"]], [], ["Never."], none⟩, ⟨"*", [["met", "1"]], [], ["Again?"], none⟩]⟩
    let s : RuleSet := ⟨"hall",
      [Rule.plain ⟨["*"], ["Hi."], [.flag "met" ["0"]], [.setFlag "met" "5", .setFlag "met" "1"]⟩,
        Rule.plain ⟨["*"], ["Never."], [.flag "met" ["2"]], []⟩,
        Rule.plain ⟨["*"], ["Again?"], [.flag "met" ["1"]], []⟩]⟩
    let d : Dialogue := { rules := s.rules }
    let other : Dialogue := { rules := [Rule.plain ⟨["*"], ["So."], [], [.setFlag "met" "2"]⟩] }
    let turn : Turn := ⟨d, ⟨ada, gork, "hall"⟩, "hello", 0⟩
    let ts : List Turn := [turn, ⟨other, ⟨bob, gork, "hall"⟩, "hello", 0⟩, turn, turn]
    let w : World := {}
    doc.toRuleSet = .ok s ∧ (∀ t ∈ ts, s.Serves {} ada.id "hall" t) ∧ w.CoinsHaveWorth ∧
    ∃ replies w', w.talk ts = .ok (replies, w') ∧ fired ada.id "hall" ts replies = [0, 2, 2] ∧
      (lastGiven? "met" w.clock (s.effectsOf [0])).getD "0" ∈ ["1"] ∧
      1 ∉ fired ada.id "hall" ts replies := by
  intro ada bob gork doc s d other turn ts w
  have hload : doc.toRuleSet = .ok s := by
    simp only [doc, s]
    rfl
  have hts : ∀ t ∈ ts, s.Serves {} ada.id "hall" t := by decide
  have hw : w.CoinsHaveWorth := by decide
  obtain ⟨replies, w', htalk, hgate, hrules⟩ := flags_gate_rules hload hts hw
  have hreplies : (w.talk ts).map Prod.fst = .ok [.handled 0 "Hi.", .handled 0 "So.",
      .handled 2 "Again?", .handled 2 "Again?"] := by
    decide +kernel
  have hfired : fired ada.id "hall" ts replies = [0, 2, 2] := by
    rw [htalk] at hreplies
    obtain rfl := Except.ok.inj hreplies
    rfl
  refine ⟨hload, hts, hw, replies, w', htalk, hfired, ?_, ?_⟩
  · obtain ⟨r, hr, hholds⟩ := hgate [0] 2 [2] hfired
    obtain rfl := Option.some.inj hr
    exact hholds "met" ["1"] List.mem_cons_self (by decide)
  · refine (hrules 1 _ rfl "met" ["2"] List.mem_cons_self (by decide)).2 (by decide +kernel) ?_
    intro j hj r' hr' e he v hv
    rw [hfired] at hj
    simp only [List.mem_cons, List.not_mem_nil, or_false, or_self] at hj
    obtain rfl | rfl := hj
    · obtain rfl := Option.some.inj hr'
      simp only [Rule.plain, List.mem_cons, List.not_mem_nil, or_false] at he
      obtain rfl | rfl := he
      · cases hv
        decide
      · cases hv
        decide
    · obtain rfl := Option.some.inj hr'
      cases he

end RuleSet

end Colloquy

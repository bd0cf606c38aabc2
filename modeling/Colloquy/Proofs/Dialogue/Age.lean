import Colloquy.Proofs.Calendar.Elapsed
import Colloquy.Proofs.Dialogue.FlagCourse
import Colloquy.Proofs.Dialogue.FlagEffect

/-!
# Colloquy.Proofs.Dialogue.Age

Age checks on flags: a flag that was marked with the time holds that time until it is set again, and
what is checked is the time since then, in minutes.
-/

namespace Colloquy

namespace Condition

theorem value_holdsAge (o : Outlook) (name : String) (span : Span) :
    (holdsAge o name span).value =
      match Moment.read (Flag.get name o.flags) with
      | .ok since => o.settings.calendar.hasElapsed since o.world.clock span
      | .error _ => false := by
  unfold holdsAge
  dsimp only
  cases Moment.read (Flag.get name o.flags) with
  | ok since => rfl
  | error fault => rfl

variable {d : Dialogue} {w : World} {conv : Conversation} {flag : String}

theorem age_holds_of_text {since : Moment} {span : Span}
    (hread : (d.settings.store.read w conv.actor.id conv.place flag).value = since.text)
    (hnear : d.settings.calendar.Near since w.clock) :
    ((age flag span).holds (d.outlook w conv)).value = true ↔
      d.settings.calendar.minutesAt since + span.minutesIn d.settings.calendar ≤
        d.settings.calendar.minutesAt w.clock := by
  have hstamp : Flag.get flag (d.outlook w conv).flags = since.text := hread
  rw [holds, value_holdsAge, hstamp, Moment.read_text]
  exact Calendar.hasElapsed_iff hnear span

theorem age_fails_of_unset
    (hread : (d.settings.store.read w conv.actor.id conv.place flag).value = Flag.unset)
    (span : Span) : ((age flag span).holds (d.outlook w conv)).value = false := by
  have hstamp : Flag.get flag (d.outlook w conv).flags = Flag.unset := hread
  rw [holds, value_holdsAge, hstamp, Moment.read_unset]

end Condition

namespace Dialogue

theorem exists_apply_markTime (d : Dialogue) (conv : Conversation) (r : HookedRule) (w : World)
    {flag : String} (hname : Flag.isName flag = true) :
    ∃ w₁, (Effect.apply (d.scene conv r) w (.markTime flag)).value = .done w₁ ∧
      (d.settings.store.read w₁ conv.actor.id conv.place flag).value = w.clock.text := by
  obtain ⟨w₁, hdone, hread⟩ :=
    Effect.writeFlag_done (d.scene conv r) w _ hname w.clock.hasSeparator_text
  exact ⟨w₁, hdone, (hread flag).trans (if_pos ⟨w.clock.text_ne_wildcard, rfl⟩)⟩

/-- A flag that is marked with the time tells the age exactly, however long ago that was and
whatever has happened since, as long as nobody set it again: an age check on it holds if and only if
the minutes of the span have passed. While the flag is unset no age check on it holds. -/
theorem age_counts_minutes (d : Dialogue) (conv : Conversation) (r : HookedRule) (w : World)
    {flag : String} (hname : Flag.isName flag = true) :
    (∃ w₁, (Effect.apply (d.scene conv r) w (.markTime flag)).value = .done w₁ ∧
      ∀ ss, (∀ s ∈ ss, s.IsOwn) → (∀ s ∈ ss, s.IsUnder d.settings) →
        (∀ s ∈ ss, ¬s.Sets conv.actor.id conv.place flag) →
        (w.CoinsHaveWorth → ∃ w₂, w₁.after ss = .ok w₂) ∧
        ∀ w₂, w₁.after ss = .ok w₂ → d.settings.calendar.InRange w.clock →
          d.settings.calendar.InRange w₂.clock → ∀ span,
          (((Condition.age flag span).holds (d.outlook w₂ conv)).value = true ↔
            d.settings.calendar.minutesAt w.clock + span.minutesIn d.settings.calendar ≤
              d.settings.calendar.minutesAt w₂.clock)) ∧
    ((d.settings.store.read w conv.actor.id conv.place flag).value = Flag.unset → ∀ now span,
      ((Condition.age flag span).holds
        (d.outlook { w with clock := now } conv)).value = false) := by
  obtain ⟨w₁, hdone, hstamp⟩ := exists_apply_markTime d conv r w hname
  refine ⟨⟨w₁, hdone, fun ss hown hunder hnot => ⟨fun hw => ?_, ?_⟩⟩, ?_⟩
  · have hsettles : Effect.Settles (d.scene conv r) w (.markTime flag)
        (Effect.apply (d.scene conv r) w (.markTime flag)).value := Effect.settles_markTime flag
    rw [hdone] at hsettles
    cases hsettles with
    | done hmakes =>
      refine World.exists_after hown ?_
      rw [World.CoinsHaveWorth, hmakes.coins_eq]
      exact hw
  · intro w₂ hw₂ hthen hnow span
    rw [← World.read_after_of_not_sets hown hunder hnot hw₂] at hstamp
    exact Condition.age_holds_of_text hstamp (hthen.near hnow)
  · intro hunset now span
    have hlater : (d.settings.store.read { w with clock := now } conv.actor.id conv.place
        flag).value = Flag.unset := by
      rw [← hunset]
      exact Flag.Store.value_read_congr rfl flag
    exact Condition.age_fails_of_unset hlater span

/-- Marked on the last minute of a year, a flag is 62 minutes old when the clock shows the second
minute past one on the first day of the next. In between other flags are set, and this one for
others. -/
theorem age_counts_minutes_new_year :
    let ada : Entity := ⟨⟨7#128⟩, "ada"⟩
    let bob : Entity := ⟨⟨9#128⟩, "bob"⟩
    let gork : Entity := ⟨⟨8#128⟩, "gork"⟩
    let hall : Conversation := ⟨ada, gork, "hall"⟩
    let r := Rule.plain ⟨["*"], ["Well."], [], []⟩
    let d : Dialogue := { rules := [r] }
    let w : World := { clock := ⟨3, 16, 27, 27, 59⟩ }
    let ss : List Step := [.attempt (d.scene hall r) (.setFlag "met" "1"),
      .attempt (d.scene ⟨bob, gork, "hall"⟩ r) (.setFlag "since" "1"),
      .attempt (d.scene ⟨ada, gork, "yard"⟩ r) (.markTime "since"),
      .attempt (d.scene hall r) (.setFlag "since" "*"), .clock ⟨4, 0, 0, 1, 1⟩]
    Flag.isName "since" = true ∧ w.CoinsHaveWorth ∧ (∀ s ∈ ss, s.IsOwn) ∧
    (∀ s ∈ ss, s.IsUnder d.settings) ∧ (∀ s ∈ ss, ¬s.Sets ada.id "hall" "since") ∧
    ((Condition.age "since" ⟨0, 0, 0, 0, 0⟩).holds (d.outlook w hall)).value = false ∧
    ∃ w₁ w₂, (Effect.apply (d.scene hall r) w (.markTime "since")).value = .done w₁ ∧
      w₁.after ss = .ok w₂ ∧
      ((Condition.age "since" ⟨0, 0, 0, 0, 62⟩).holds (d.outlook w₂ hall)).value = true ∧
      ¬((Condition.age "since" ⟨0, 0, 0, 0, 63⟩).holds (d.outlook w₂ hall)).value = true := by
  intro ada bob gork hall r d w ss
  have hname : Flag.isName "since" = true := by decide
  have hworth : w.CoinsHaveWorth := by decide
  have hown : ∀ s ∈ ss, s.IsOwn := by decide
  have hunder : ∀ s ∈ ss, s.IsUnder d.settings := by decide
  have hnot : ∀ s ∈ ss, ¬s.Sets ada.id "hall" "since" := by decide
  obtain ⟨⟨w₁, hdone, hmarked⟩, hunset⟩ := age_counts_minutes d hall r w hname
  obtain ⟨hexists, hage⟩ := hmarked ss hown hunder hnot
  obtain ⟨w₂, hw₂⟩ := hexists hworth
  have hclock : w₂.clock = ⟨4, 0, 0, 1, 1⟩ := by
    have hsplit : w₁.after (ss.take 4 ++ [.clock ⟨4, 0, 0, 1, 1⟩]) = .ok w₂ := hw₂
    obtain ⟨u, -, hlast⟩ := World.after_append_eq_ok.mp hsplit
    cases hlast
    rfl
  have hthen : d.settings.calendar.InRange w.clock := by
    constructor <;> decide
  have hnow : d.settings.calendar.InRange w₂.clock := by
    rw [hclock]
    constructor <;> decide
  refine ⟨hname, hworth, hown, hunder, hnot, hunset (by decide +kernel) w.clock _, w₁, w₂, hdone,
    hw₂, ?_, ?_⟩
  · rw [hage w₂ hw₂ hthen hnow, hclock]
    decide
  · rw [hage w₂ hw₂ hthen hnow, hclock]
    decide

end Dialogue

end Colloquy

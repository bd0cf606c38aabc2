import Colloquy.Proofs.Dialogue.Course
import Colloquy.Proofs.Document.Entry
import Colloquy.Proofs.Flag.History

/-!
# Colloquy.Proofs.Dialogue.FlagCourse

Flags over the course of events.

* `Effect.given?` — the value that an effect has for a flag, unless it leaves it alone.
* `Effect.read_of_not_sets`, `read_of_isWritable` — what flags read as after one effect.
* `World.read_after_of_not_sets` — a flag reads as before after any steps that do not set it.
* `World.read_after_effects` — after the effects of one rule a flag reads as the last of them has
  it.
-/

namespace Colloquy

/-! ### One effect -/

namespace Effect

/-- The value that an effect has for a flag of its actor, carried out when the clock shows `now`. -/
def given? (flag : String) (now : Moment) : Effect → Option String
  | .setFlag name value => if name = flag ∧ value ≠ Flag.wildcard then some value else none
  | .markTime name => if name = flag then some now.text else none
  | _ => none

inductive Sets (flag : String) : Effect → Prop where
  | setFlag {value : String} (h : value ≠ Flag.wildcard) : Sets flag (.setFlag flag value)
  | markTime : Sets flag (.markTime flag)

variable {sc : Scene} {e : Effect} {w w' : World} {flag : String}

theorem given?_eq_none_iff (now : Moment) : e.given? flag now = none ↔ ¬e.Sets flag := by
  constructor
  · rintro h (⟨hwild⟩ | _)
    · rw [given?, if_pos ⟨rfl, hwild⟩] at h
      cases h
    · rw [given?, if_pos rfl] at h
      cases h
  · intro h
    cases e with
    | setFlag name value =>
      refine if_neg ?_
      rintro ⟨rfl, hwild⟩
      exact h (.setFlag hwild)
    | markTime name =>
      refine if_neg ?_
      rintro rfl
      exact h .markTime
    | _ => rfl

instance (flag : String) (e : Effect) : Decidable (e.Sets flag) :=
  decidable_of_iff (e.given? flag ⟨0, 0, 0, 0, 0⟩ ≠ none) (by
    rw [ne_eq, given?_eq_none_iff, Classical.not_not])

theorem eq_answer_of_writeFlag {name value what : String}
    (h : (writeFlag sc w name value what).value.Leaves w') (hname : Flag.isName name = true) :
    w' = (Flag.Write.answer ⟨sc.actor.id, sc.place, ⟨name, hname⟩, value⟩ sc.settings.store
      w).world := by
  rw [value_writeFlag, if_pos hname] at h
  rw [Flag.Write.answer, Flag.Store.value_write]
  split at h
  · rename_i hwild
    cases h
    rw [if_pos hwild]
    rfl
  · rename_i hwild
    rw [if_neg hwild]
    split at h
    · rename_i hsep
      cases h
      rw [if_pos hsep]
      rfl
    · rename_i hsep
      cases h
      rw [if_neg hsep]
      rfl

theorem read_of_writeFlag_other {name value what : String}
    (h : (writeFlag sc w name value what).value.Leaves w') {actor : Ident} {place : String}
    (hother : sc.actor.id = actor → sc.place = place → name = flag → value = Flag.wildcard) :
    (sc.settings.store.read w' actor place flag).value =
      (sc.settings.store.read w actor place flag).value := by
  by_cases hname : Flag.isName name = true
  · rw [eq_answer_of_writeFlag h hname, Flag.Store.read_answer, if_neg]
    rintro ⟨hstored, htarget⟩
    cases htarget
    exact (Flag.Write.isStored_iff.mp hstored).1 (hother rfl rfl rfl)
  · rw [value_writeFlag, if_neg hname] at h
    cases h
    rfl

theorem read_of_writeFlag_same {value what : String}
    (h : (writeFlag sc w flag value what).value.Leaves w') (hname : Flag.isName flag = true)
    (hplain : Flag.hasSeparator value = false) (hwild : value ≠ Flag.wildcard) :
    (sc.settings.store.read w' sc.actor.id sc.place flag).value = value := by
  rw [eq_answer_of_writeFlag h hname, Flag.Store.read_answer, if_pos]
  exact ⟨Flag.Write.isStored_iff.mpr ⟨hwild, hplain⟩, rfl⟩

/-- An effect leaves the flags alone that it does not set: those of other actors, those of other
places, and those of other names. -/
theorem read_of_not_sets (hown : e.IsOwn sc) (h : (e.apply sc w).value.Leaves w') {actor : Ident}
    {place : String} (hnot : sc.actor.id = actor → sc.place = place → ¬e.Sets flag) :
    (sc.settings.store.read w' actor place flag).value =
      (sc.settings.store.read w actor place flag).value := by
  cases e with
  | setFlag name value =>
    refine read_of_writeFlag_other h fun hactor hplace hname => ?_
    subst hname
    exact Classical.not_not.mp fun hwild => hnot hactor hplace (.setFlag hwild)
  | markTime name =>
    refine read_of_writeFlag_other h fun hactor hplace hname => ?_
    subst hname
    exact absurd .markTime (hnot hactor hplace)
  | _ =>
    exact Flag.Store.value_read_congr ((hown.alters h).keys_eq (by simp) (by simp)) flag

theorem read_of_isWritable (hown : e.IsOwn sc) (h : (e.apply sc w).value.Leaves w')
    (hwritable : e.IsWritable) (flag : String) :
    (sc.settings.store.read w' sc.actor.id sc.place flag).value =
      (e.given? flag w.clock).getD (sc.settings.store.read w sc.actor.id sc.place flag).value := by
  by_cases hsets : e.Sets flag
  · cases hsets with
    | setFlag hwild =>
      rw [read_of_writeFlag_same h hwritable.1 hwritable.2 hwild, given?, if_pos ⟨rfl, hwild⟩]
      rfl
    | markTime =>
      rw [read_of_writeFlag_same h hwritable w.clock.hasSeparator_text w.clock.text_ne_wildcard,
        given?, if_pos rfl]
      rfl
  · rw [read_of_not_sets hown h fun _ _ => hsets, (given?_eq_none_iff w.clock).mpr hsets]
    rfl

end Effect

/-! ### Many effects -/

/-- The last value that effects have for a flag. -/
def lastGiven? (flag : String) (now : Moment) (es : List Effect) : Option String :=
  (es.filterMap (Effect.given? flag now)).getLast?

theorem lastGiven?_append (flag : String) (now : Moment) (es fs : List Effect) :
    lastGiven? flag now (es ++ fs) = (lastGiven? flag now fs).or (lastGiven? flag now es) := by
  rw [lastGiven?, List.filterMap_append, List.getLast?_append]
  rfl

theorem lastGiven?_singleton (flag : String) (now : Moment) (e : Effect) :
    lastGiven? flag now [e] = e.given? flag now := by
  rw [lastGiven?, List.filterMap_cons]
  cases e.given? flag now <;> rfl

theorem lastGiven?_eq_none_iff {flag : String} {now : Moment} {es : List Effect} :
    lastGiven? flag now es = none ↔ ∀ e ∈ es, ¬e.Sets flag := by
  simp only [lastGiven?, List.getLast?_eq_none_iff, List.filterMap_eq_nil_iff,
    Effect.given?_eq_none_iff]

theorem exists_given?_of_lastGiven? {flag : String} {now : Moment} {es : List Effect} {v : String}
    (h : lastGiven? flag now es = some v) : ∃ e ∈ es, e.given? flag now = some v :=
  List.mem_filterMap.mp (List.mem_of_getLast? h)

namespace Step

/-- The step is to give this flag of this actor a value. -/
def Sets (actor : Ident) (place flag : String) : Step → Prop
  | .attempt sc e => sc.actor.id = actor ∧ sc.place = place ∧ e.Sets flag
  | .clock _ => False

instance (actor : Ident) (place flag : String) : DecidablePred (Sets actor place flag)
  | .attempt _ _ => inferInstanceAs (Decidable (_ ∧ _ ∧ _))
  | .clock _ => inferInstanceAs (Decidable False)

/-- The step is taken under these settings. -/
def IsUnder (settings : Settings) : Step → Prop
  | .attempt sc _ => sc.settings = settings
  | .clock _ => True

instance (settings : Settings) : DecidablePred (IsUnder settings)
  | .attempt sc _ => inferInstanceAs (Decidable (sc.settings = settings))
  | .clock _ => inferInstanceAs (Decidable True)

end Step

namespace World

variable {ss : List Step} {w w' : World}

/-- A flag reads as before after any steps that do not set it. -/
theorem read_after_of_not_sets {settings : Settings} {actor : Ident} {place flag : String}
    (hown : ∀ s ∈ ss, s.IsOwn) (hunder : ∀ s ∈ ss, s.IsUnder settings)
    (hnot : ∀ s ∈ ss, ¬s.Sets actor place flag) (h : w.after ss = .ok w') :
    (settings.store.read w' actor place flag).value =
      (settings.store.read w actor place flag).value := by
  induction ss generalizing w with
  | nil =>
    cases h
    rfl
  | cons s ss ih =>
    rw [List.forall_mem_cons] at hown hunder hnot
    obtain ⟨w₁, hstep, hrest⟩ := after_cons_eq_ok.mp h
    rw [ih hown.2 hunder.2 hnot.2 hrest]
    cases s with
    | attempt sc e =>
      obtain rfl : sc.settings = settings := hunder.1
      exact Effect.read_of_not_sets hown.1 (Step.result_attempt_eq_ok_iff.mp hstep)
        fun hactor hplace hsets => hnot.1 ⟨hactor, hplace, hsets⟩
    | clock now =>
      cases hstep
      exact Flag.Store.value_read_congr rfl flag

/-- After the effects of one rule a flag reads as the last of them has it. -/
theorem read_after_effects {sc : Scene} {es : List Effect} (hown : ∀ e ∈ es, e.IsOwn sc)
    (hwritable : ∀ e ∈ es, e.IsWritable) (h : w.after (es.map (Step.attempt sc)) = .ok w')
    (flag : String) :
    (sc.settings.store.read w' sc.actor.id sc.place flag).value =
      (lastGiven? flag w.clock es).getD
        (sc.settings.store.read w sc.actor.id sc.place flag).value := by
  induction es generalizing w with
  | nil =>
    cases h
    rfl
  | cons e es ih =>
    rw [List.forall_mem_cons] at hown hwritable
    obtain ⟨w₁, hstep, hrest⟩ := after_cons_eq_ok.mp h
    have hleaves := Step.result_attempt_eq_ok_iff.mp hstep
    have hclock : w₁.clock = w.clock := (hown.1.alters hleaves).same_ground.2.2
    have hsplit : lastGiven? flag w.clock (e :: es) =
        (lastGiven? flag w.clock es).or (e.given? flag w.clock) := by
      rw [← List.singleton_append, lastGiven?_append, lastGiven?_singleton]
    rw [ih hown.2 hwritable.2 hrest, hclock, hsplit, Option.getD_or,
      Effect.read_of_isWritable hown.1 hleaves hwritable.1]

end World

end Colloquy

import Colloquy.Dialogue.Apply
import Colloquy.Proofs.Calendar.Moment
import Colloquy.Proofs.Document.Reload
import Colloquy.Proofs.Flag.Store

/-!
# Colloquy.Proofs.Dialogue.FlagEffect

Carrying out the effects that write flags.

* `writeFlag_done`     — a flag is written if its name and value are such as can be stored.
* `flagEffects_stored` — those of a rule read from a document always are, in any world.
-/

namespace Colloquy

namespace Effect

theorem writeFlag_done (sc : Scene) (w : World) {name value : String} (what : String)
    (hname : Flag.isName name = true) (hvalue : Flag.hasSeparator value = false) :
    ∃ w', (writeFlag sc w name value what).value = .done w' ∧
      ∀ other, (sc.settings.store.read w' sc.actor.id sc.place other).value =
        if value ≠ Flag.wildcard ∧ name = other then value
        else (sc.settings.store.read w sc.actor.id sc.place other).value := by
  have hflag : Flag.Name.ofText? name = some ⟨name, hname⟩ := by
    rw [Flag.Name.ofText?, dif_pos hname]
  obtain ⟨w', hw'⟩ :=
    sc.settings.store.exists_write w sc.actor.id sc.place ⟨name, hname⟩ hvalue
  refine ⟨w', ?_, fun other => Flag.Store.read_of_write hw' other⟩
  rw [writeFlag, hflag]
  simp only [Noted.value_bind, hw']
  rfl

end Effect

namespace Document

/-- Every effect on a flag in a rule of a document can be carried out, whatever the world holds, and
the flag then reads as it was set. The wildcard leaves it as it was. -/
theorem flagEffects_stored {d : Document} {s : RuleSet} (h : d.toRuleSet = .ok s) {r : HookedRule}
    (hr : r ∈ s.rules) (sc : Scene) (w : World) :
    (∀ name value, Effect.setFlag name value ∈ r.effects →
      ∃ w', (Effect.apply sc w (.setFlag name value)).value = .done w' ∧
        (sc.settings.store.read w' sc.actor.id sc.place name).value =
          if value = Flag.wildcard then (sc.settings.store.read w sc.actor.id sc.place name).value
          else value) ∧
    ∀ name, Effect.markTime name ∈ r.effects →
      ∃ w', (Effect.apply sc w (.markTime name)).value = .done w' ∧
        (sc.settings.store.read w' sc.actor.id sc.place name).value = w.clock.text := by
  obtain ⟨_, hwritable⟩ := isMade_and_isWritable_of_mem h hr
  constructor
  · intro name value he
    obtain ⟨hname, hvalue⟩ : (Effect.setFlag name value).IsWritable := hwritable.effects _ he
    obtain ⟨w', hdone, hread⟩ := Effect.writeFlag_done sc w _ hname hvalue
    refine ⟨w', hdone, ?_⟩
    rw [hread name]
    by_cases hwild : value = Flag.wildcard
    · simp [hwild]
    · simp [hwild]
  · intro name he
    have hname : (Effect.markTime name).IsWritable := hwritable.effects _ he
    obtain ⟨w', hdone, hread⟩ := Effect.writeFlag_done sc w _ hname w.clock.hasSeparator_text
    refine ⟨w', hdone, ?_⟩
    rw [hread name, if_pos ⟨w.clock.text_ne_wildcard, rfl⟩]

/-- What was stored before may be malformed. -/
theorem flagEffects_stored_malformed :
    let sc : Scene := ⟨⟨⟨⟨7#128⟩, "ada"⟩, ⟨⟨8#128⟩, "gork"⟩, "hall"⟩, {}, {},
      Rule.plain ⟨["hi"], ["Hi!"], [], []⟩⟩
    let w := ({} : World).writeKey ⟨7#128⟩ "dialog_hall" ";;x;greeted:0:1;:" true
    (∃ w', (Effect.apply sc w (.setFlag "greeted" "1")).value = .done w' ∧
      (sc.settings.store.read w' ⟨7#128⟩ "hall" "greeted").value = "1") ∧
    ∃ w', (Effect.apply sc w (.markTime "met")).value = .done w' ∧
      (sc.settings.store.read w' ⟨7#128⟩ "hall" "met").value = w.clock.text := by
  intro sc w
  have hread : (Document.mk "hall" [⟨"hi", [], [["greeted", "1"], ["marktime", "met"]], ["Hi!"],
      none⟩]).toRuleSet = .ok ⟨"hall", [Rule.plain ⟨["hi"], ["Hi!"], [],
        [.setFlag "greeted" "1", .markTime "met"]⟩]⟩ := rfl
  obtain ⟨hset, hmark⟩ := flagEffects_stored hread List.mem_cons_self sc w
  constructor
  · obtain ⟨w', hdone, hvalue⟩ := hset "greeted" "1" List.mem_cons_self
    exact ⟨w', hdone, hvalue.trans (if_neg (by decide))⟩
  · exact hmark "met" (List.mem_cons_of_mem _ List.mem_cons_self)

end Document

end Colloquy

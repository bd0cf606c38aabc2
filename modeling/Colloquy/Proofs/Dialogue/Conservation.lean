import Colloquy.Proofs.Dialogue.Footprint

/-!
# Colloquy.Proofs.Dialogue.Conservation

No item is made by talking about it: it changes hands, or it is taken and gone.

* `World.HandsOver`              — items move from a giver to a taker, and nothing else changes.
* `Attempt.taken`                — how many of an item an attempt destroys.
* `Attempt.total_add_taken`      — what is left of an item after one attempt, and what was taken,
  are as many as before; `World.total_add_taken_talk` says the same of everything that is said.
-/

namespace Colloquy

/-! ### Handing over -/

/-- So many of an item are handed over, and nothing else changes. Handed to oneself, they stay where
they are. -/
structure World.HandsOver (w : World) (giver taker : Ident) (item : String) (n : Nat)
    (w' : World) : Prop where
  held : n ≤ w.count giver item
  same : giver = taker → w' = w
  given : giver ≠ taker → w'.count giver item + n = w.count giver item
  received : giver ≠ taker → w'.count taker item = w.count taker item + n
  others : ∀ o i, ¬((o = giver ∨ o = taker) ∧ i = item) → w'.count o i = w.count o i

theorem World.handsOver {w : World} {giver taker : Ident} {item : String} {n : Nat}
    (h : n ≤ w.count giver item) :
    w.HandsOver giver taker item n
      ((w.setCount giver item (w.count giver item - n)).give taker item n) where
  held := h
  same := by
    rintro rfl
    have hleft : (w.setCount giver item (w.count giver item - n)).count giver item =
        w.count giver item - n := Table.put_same _ _ _ _
    rw [give, hleft, Nat.sub_add_cancel h, setCount, setCount, Table.put_put, count,
      Table.put_self]
  given hne := by
    have hcell : ¬(giver = taker ∧ item = item) := fun hcell => hne hcell.1
    have hleft : ((w.setCount giver item (w.count giver item - n)).give taker item n).count giver
        item = w.count giver item - n :=
      (Table.put_other _ _ hcell).trans (Table.put_same _ _ _ _)
    rw [hleft]
    exact Nat.sub_add_cancel h
  received hne := by
    have hcell : ¬(taker = giver ∧ item = item) := fun hcell => hne hcell.1.symm
    have hbefore : (w.setCount giver item (w.count giver item - n)).count taker item =
        w.count taker item := Table.put_other _ _ hcell
    rw [← hbefore]
    exact Table.put_same _ _ _ _
  others o i hcell := by
    have htaker : ¬(o = taker ∧ i = item) := fun ⟨ho, hi⟩ => hcell ⟨.inr ho, hi⟩
    have hgiver : ¬(o = giver ∧ i = item) := fun ⟨ho, hi⟩ => hcell ⟨.inl ho, hi⟩
    exact (Table.put_other _ _ htaker).trans (Table.put_other _ _ hgiver)

theorem World.total_handOver {w : World} {giver taker : Ident} {item : String} {n : Nat}
    (h : n ≤ w.count giver item) :
    ((w.setCount giver item (w.count giver item - n)).give taker item n).total item =
      w.total item := by
  have hset := w.total_setCount giver item (w.count giver item - n)
  rw [World.total_give]
  omega

/-! ### One attempt -/

namespace Effect

variable {sc : Scene} {w : World} {item : String}

theorem value_giveItem_of_ne (hitem : item ≠ sc.settings.currencyItem) (quantity : UInt64) :
    (∃ w', (apply sc w (.giveItem item quantity)).value = .done w' ∧
        w.HandsOver sc.speaker.id sc.actor.id item (max quantity.toNat 1) w' ∧
        w'.total item = w.total item) ∨
      ∃ fault, (apply sc w (.giveItem item quantity)).value = .failed w fault := by
  rw [apply, value_applyGiveItem]
  dsimp only
  rw [if_neg hitem]
  split
  · exact .inr ⟨_, rfl⟩
  · rename_i hheld
    have hle := Nat.le_of_not_lt hheld
    exact .inl ⟨_, rfl, World.handsOver hle, World.total_handOver hle⟩

theorem quantityTaken_of_ne (hitem : item ≠ sc.settings.currencyItem) (quantity : UInt64) :
    quantityTaken sc w item quantity =
      if quantity = 0 then w.count sc.actor.id item else quantity.toNat := by
  rw [quantityTaken, if_neg hitem, ite_not]

theorem value_takeItem_of_ne (hitem : item ≠ sc.settings.currencyItem) (quantity : UInt64) :
    (∃ w', (apply sc w (.takeItem item quantity)).value = .done w' ∧
        w'.total item + quantityTaken sc w item quantity = w.total item) ∨
      ∃ fault, (apply sc w (.takeItem item quantity)).value = .failed w fault := by
  rw [apply, value_applyTakeItem]
  dsimp only
  rw [if_neg hitem]
  split
  · exact .inr ⟨_, rfl⟩
  · split
    · exact .inr ⟨_, rfl⟩
    · rename_i hheld
      have hset := w.total_setCount sc.actor.id item
        (w.count sc.actor.id item - quantityTaken sc w item quantity)
      exact .inl ⟨_, rfl, by omega⟩

/-- Only giving and taking an item handles it, if no coin has its name. -/
theorem eq_of_handles {e : Effect} {coins : List Coin} {holder : Ident}
    (hcoin : ∀ c ∈ coins, c.name ≠ item) (h : e.Handles sc coins holder item) :
    ∃ quantity, e = .giveItem item quantity ∨ e = .takeItem item quantity := by
  cases e with
  | giveItem name quantity =>
    rw [Handles] at h
    split at h
    · obtain ⟨-, c, hc, hname⟩ := h
      exact absurd hname (hcoin c hc)
    · rw [h.1]
      exact ⟨quantity, .inl rfl⟩
  | takeItem name quantity =>
    rw [Handles] at h
    split at h
    · obtain ⟨-, c, hc, hname⟩ := h
      exact absurd hname (hcoin c hc)
    · rw [h.1]
      exact ⟨quantity, .inr rfl⟩
  | _ => cases h

end Effect

namespace Attempt

/-- How many of the item the attempt destroys. Taking none of it means all that the actor has. -/
def taken (item : String) (a : Attempt) : Nat :=
  match a.effect with
  | .takeItem name quantity =>
    if name = item ∧ a.succeeds = true then
      if quantity = 0 then a.world.count a.scene.actor.id item else quantity.toNat
    else 0
  | _ => 0

variable {a : Attempt} {item : String} {u : World}

theorem taken_eq_zero (h : ∀ quantity, a.effect ≠ .takeItem item quantity) :
    a.taken item = 0 := by
  unfold taken
  split
  · rename_i name quantity heffect
    refine if_neg fun hname => h quantity ?_
    rw [heffect, hname.1]
  · rfl

theorem taken_takeItem {sc : Scene} {w : World} (hitem : item ≠ sc.settings.currencyItem)
    (quantity : UInt64) :
    taken item ⟨sc, .takeItem item quantity, w⟩ =
      if succeeds ⟨sc, .takeItem item quantity, w⟩ = true then
        Effect.quantityTaken sc w item quantity
      else 0 := by
  rw [taken, Effect.quantityTaken_of_ne hitem]
  simp only [true_and]

/-- What is left of an item after an attempt, and what was taken of it, are as many as before. -/
theorem total_add_taken (hown : a.effect.IsOwn a.scene) (hcoin : a.world.isCoin item = false)
    (hitem : item ≠ a.scene.settings.currencyItem) (hleaves : a.outcome.Leaves u) :
    u.total item + a.taken item = a.world.total item := by
  obtain ⟨sc, e, w⟩ := a
  have hnames : ∀ c ∈ w.coins, c.name ≠ item := by
    intro c hc hname
    have hmem : w.isCoin item = true := World.isCoin_iff.mpr ⟨c, hc, hname⟩
    rw [hcoin] at hmem
    cases hmem
  by_cases hhandles : ∃ o, e.Handles sc w.coins o item
  · obtain ⟨o, ho⟩ := hhandles
    obtain ⟨quantity, rfl | rfl⟩ := Effect.eq_of_handles hnames ho
    · have hnone : taken item ⟨sc, .giveItem item quantity, w⟩ = 0 := rfl
      rw [hnone, Nat.add_zero]
      obtain ⟨w', hdone, -, htotal⟩ | ⟨fault, hfailed⟩ :=
        Effect.value_giveItem_of_ne (w := w) hitem quantity
      · rw [outcome, hdone] at hleaves
        cases hleaves
        exact htotal
      · rw [outcome, hfailed] at hleaves
        cases hleaves
        rfl
    · rw [taken_takeItem hitem]
      obtain ⟨w', hdone, htotal⟩ | ⟨fault, hfailed⟩ :=
        Effect.value_takeItem_of_ne (w := w) hitem quantity
      · rw [outcome, hdone] at hleaves
        cases hleaves
        rw [succeeds_of_done hdone, if_pos rfl]
        exact htotal
      · rw [outcome, hfailed] at hleaves
        cases hleaves
        rw [succeeds_of_failed hfailed, if_neg Bool.false_ne_true, Nat.add_zero]
  · have hnone : taken item ⟨sc, e, w⟩ = 0 := by
      refine taken_eq_zero fun quantity (heffect : e = .takeItem item quantity) => ?_
      refine hhandles ⟨sc.actor.id, ?_⟩
      rw [heffect, Effect.Handles, if_neg hitem]
      exact ⟨rfl, rfl⟩
    have hsame : ∀ o, u.holdings o item = w.holdings o item := by
      intro o
      refine (hown.footprint hleaves).holdings o item fun f hf ho => hhandles ⟨o, ?_⟩
      obtain rfl : f = e := List.mem_singleton.mp hf
      exact ho
    rw [hnone, Nat.add_zero]
    exact World.total_congr hsame

end Attempt

/-! ### Many attempts -/

namespace World

variable {w w' : World} {item : String}

theorem isCoin_congr (h : w'.coins = w.coins) : w'.isCoin item = w.isCoin item := by
  rw [isCoin, h, isCoin]

theorem total_add_taken_after {sc : Scene} {es : List Effect} (hes : ∀ e ∈ es, e.IsOwn sc)
    (hcoin : w.isCoin item = false) (hitem : item ≠ sc.settings.currencyItem)
    (h : w.after (es.map (Step.attempt sc)) = .ok w') :
    w'.total item + ((sc.attempts es w).map (Attempt.taken item)).sum = w.total item := by
  induction es generalizing w with
  | nil =>
    cases h
    exact Nat.add_zero _
  | cons e es ih =>
    obtain ⟨he, hrest⟩ := List.forall_mem_cons.mp hes
    obtain ⟨w₁, hstep, hafter⟩ := after_cons_eq_ok.mp h
    have hleaves := Step.result_attempt_eq_ok_iff.mp hstep
    have hcoin₁ : w₁.isCoin item = false := by
      rw [isCoin_congr (he.alters hleaves).same_ground.1, hcoin]
    have hfirst : w₁.total item + Attempt.taken item ⟨sc, e, w⟩ = w.total item :=
      Attempt.total_add_taken he hcoin hitem hleaves
    have hlater := ih hrest hcoin₁ hafter
    rw [Scene.attempts_cons_of_leaves hleaves, List.map_cons, List.sum_cons]
    omega

theorem total_add_taken_reply {t : Turn} {reply : Reply} (hclosed : t.dialogue.IsClosed)
    (hw : w.CoinsHaveWorth) (hcoin : w.isCoin item = false)
    (hitem : item ≠ t.dialogue.settings.currencyItem) (h : t.reply w = .ok (reply, w')) :
    w'.total item + ((t.attempts w).map (Attempt.taken item)).sum = w.total item := by
  cases hrule : t.rule? w with
  | none =>
    obtain ⟨hreply, hattempts⟩ := Turn.reply_of_rule?_eq_none hrule
    rw [hreply] at h
    cases h
    rw [hattempts]
    exact Nat.add_zero _
  | some r =>
    have hr := hclosed r (Turn.mem_rules_of_rule? hrule)
    obtain ⟨i, line, u, hreply, hafter, hattempts⟩ := Turn.exists_reply_of_rule? hrule hr hw
    rw [hreply] at h
    cases h
    rw [hattempts]
    exact total_add_taken_after (w := t.said line w) (hr.isOwn t.conversation) hcoin hitem hafter

theorem total_add_taken_talk {ts : List Turn} {replies : List Reply}
    (hclosed : ∀ t ∈ ts, t.dialogue.IsClosed) (hw : w.CoinsHaveWorth)
    (hcoin : w.isCoin item = false)
    (hitem : ∀ t ∈ ts, item ≠ t.dialogue.settings.currencyItem)
    (h : w.talk ts = .ok (replies, w')) :
    w'.total item + ((w.attempts ts).map (Attempt.taken item)).sum = w.total item := by
  induction ts generalizing w replies with
  | nil =>
    cases h
    exact Nat.add_zero _
  | cons t ts ih =>
    obtain ⟨ht, hts⟩ := List.forall_mem_cons.mp hclosed
    obtain ⟨hitem₁, hitems⟩ := List.forall_mem_cons.mp hitem
    obtain ⟨reply, rest, u, -, hreply, htalk⟩ := talk_cons_eq_ok.mp h
    have hcoins := ((Turn.ends_of_reply ht hreply).same_ground ht).1
    have hu : u.CoinsHaveWorth := hw.of_coins_eq hcoins
    have hfirst := total_add_taken_reply ht hw hcoin hitem₁ hreply
    have hlater := ih hts hu ((isCoin_congr hcoins).trans hcoin) hitems htalk
    rw [attempts_cons_of_reply hreply, List.map_append, List.sum_append]
    omega

/-- Nothing that is said in dialogues without code of the world makes an item, unless it is a coin
or stands for currency: with all holders together there are as many as at first, less what was
taken. What is given is handed over by the speaker to the actor, as many as the effect says and at
least one; if they cannot be, nobody's holdings change. -/
theorem talk_conserves_items {ts : List Turn} (hclosed : ∀ t ∈ ts, t.dialogue.IsClosed)
    {w : World} (hw : w.CoinsHaveWorth) :
    ∃ replies w', w.talk ts = .ok (replies, w') ∧
      (∀ item, w.isCoin item = false →
        (∀ t ∈ ts, item ≠ t.dialogue.settings.currencyItem) →
        w'.total item ≤ w.total item ∧
        w'.total item + ((w.attempts ts).map (Attempt.taken item)).sum = w.total item ∧
        ∀ a ∈ w.attempts ts, ∃ u, a.outcome.Leaves u ∧ u.total item ≤ a.world.total item ∧
          u.total item + a.taken item = a.world.total item) ∧
      ∀ a ∈ w.attempts ts, ∀ item quantity, a.effect = .giveItem item quantity →
        item ≠ a.scene.settings.currencyItem →
        (∃ u, a.outcome = .done u ∧
          a.world.HandsOver a.scene.speaker.id a.scene.actor.id item (max quantity.toNat 1) u) ∨
        ∃ fault, a.outcome = .failed a.world fault := by
  obtain ⟨replies, w', htalk⟩ := exists_talk hclosed hw
  refine ⟨replies, w', htalk, fun item hcoin hitem => ?_,
    fun a _ item quantity heffect hne => ?_⟩
  · have htotal := total_add_taken_talk hclosed hw hcoin hitem htalk
    refine ⟨by omega, htotal, fun a ha => ?_⟩
    obtain ⟨hown, ⟨t, ht, hsettings⟩, hcoins⟩ := mem_attempts hclosed ha
    obtain ⟨u, hleaves⟩ := hown.exists_leaves (hw.of_coins_eq hcoins)
    have hne : item ≠ a.scene.settings.currencyItem := hsettings ▸ hitem t ht
    have hstep := Attempt.total_add_taken hown ((isCoin_congr hcoins).trans hcoin) hne hleaves
    exact ⟨u, hleaves, by omega, hstep⟩
  · obtain ⟨sc, e, v⟩ := a
    cases heffect
    obtain ⟨u, hdone, hover, -⟩ | hfails := Effect.value_giveItem_of_ne (w := v) hne quantity
    · exact .inl ⟨u, hdone, hover⟩
    · exact .inr hfails

/-- Two of three torches change hands, nine cannot, and then the actor has to give up all of them. -/
theorem talk_conserves_items_torches :
    let ada : Ident := ⟨7#128⟩
    let gork : Ident := ⟨8#128⟩
    let giving := Rule.plain ⟨["torch"], ["Here."], [], [.giveItem "torch" 2, .giveItem "torch" 9]⟩
    let taking := Rule.plain ⟨["*"], ["Mine."], [], [.takeItem "torch" 0, .takeItem "torch" 0]⟩
    let d : Dialogue := { rules := [giving, taking] }
    let t : Turn := ⟨d, ⟨⟨ada, "Ada"⟩, ⟨gork, "Gork"⟩, "gate"⟩, "torch", 0⟩
    let ts : List Turn := [t, { t with utterance := "bye" }]
    let w : World :=
      { holdings := Table.put (fun _ _ => 0) gork "torch" 3, coins := [⟨"penny", 1⟩] }
    (∀ t ∈ ts, t.dialogue.IsClosed) ∧ w.CoinsHaveWorth ∧ w.isCoin "torch" = false ∧
    (∀ t ∈ ts, "torch" ≠ t.dialogue.settings.currencyItem) ∧
    ∃ replies w', w.talk ts = .ok (replies, w') ∧ w'.total "torch" + 2 = w.total "torch" ∧
      ∃ u, Attempt.outcome ⟨t.scene giving, .giveItem "torch" 2, t.said "Here." w⟩ = .done u ∧
        (t.said "Here." w).HandsOver gork ada "torch" 2 u := by
  intro ada gork giving taking d t ts w
  have hclosed : ∀ t ∈ ts, t.dialogue.IsClosed := by decide
  have hw : w.CoinsHaveWorth := by decide
  have hcoin : w.isCoin "torch" = false := by decide
  have hitem : ∀ t ∈ ts, "torch" ≠ t.dialogue.settings.currencyItem := by decide
  obtain ⟨replies, w', htalk, htotal, hgives⟩ := talk_conserves_items hclosed hw
  obtain ⟨-, hsum, -⟩ := htotal "torch" hcoin hitem
  have htaken : ((w.attempts ts).map (Attempt.taken "torch")).sum = 2 := by decide +kernel
  rw [htaken] at hsum
  have hs : t.selection? w = some ⟨0, "Here.", giving.effects⟩ := by decide +kernel
  have hmem : ⟨t.scene giving, .giveItem "torch" 2, t.said "Here." w⟩ ∈ w.attempts ts := by
    refine List.mem_append_left _ ?_
    rw [Turn.attempts, hs]
    exact List.mem_cons_self
  obtain ⟨u, hdone, hover⟩ | ⟨fault, hfailed⟩ := hgives _ hmem "torch" 2 rfl (by decide)
  · exact ⟨hclosed, hw, hcoin, hitem, replies, w', htalk, hsum, u, hdone, hover⟩
  · have hsucceeds : Attempt.succeeds ⟨t.scene giving, .giveItem "torch" 2, t.said "Here." w⟩ =
        true := by decide +kernel
    rw [Attempt.succeeds_of_failed hfailed] at hsucceeds
    cases hsucceeds

end World

end Colloquy

import Mathlib.Data.List.Forall2
import Colloquy.Proofs.Dialogue.Trail

/-!
# Colloquy.Proofs.Dialogue.Log

What the log says about a commit.

* `Note.isRecord`, `Note.isReport` — the notes of effects that were carried out, and those of
  effects that failed. A note that is neither is an aside.
* `Effect.Told`         — what the notes of an attempt tell: one record, or asides alone if the
  effect changed nothing, failed or crashed.
* `Attempt.lines`       — the notes of an attempt, with the report that follows them if it failed.
* `Rule.performed`      — the effects of a rule with the continuation that runs at the end. Its
  attempts, line by line, are the log of a commit (`Dialogue.notes_commit`).
* `Dialogue.IsDiscreet` — what is asked of code attached to rules: that it takes asides only.
-/

namespace Colloquy

/-! ### Kinds of notes -/

namespace Note

/-- An info that opens with the marker of effects. -/
def isRecord (n : Note) : Bool :=
  n.severity == .info && Effect.marker.toList.isPrefixOf n.text.toList

/-- Opens every note about a failure at the place. -/
def reportOpening (place : String) : String :=
  "[" ++ place ++ "] rule "

/-- A warning or an error that opens like those about a failure at the place. -/
def isReport (place : String) (n : Note) : Bool :=
  (n.severity == .warn || n.severity == .error) &&
    (reportOpening place).toList.isPrefixOf n.text.toList

structure IsAside (place : String) (n : Note) : Prop where
  record : n.isRecord = false
  report : n.isReport place = false

variable {place : String} {n : Note} {ns : List Note}

theorem isReport_of_isRecord (h : n.isRecord = true) : n.isReport place = false := by
  have hinfo : n.severity = .info := by
    simpa using (Bool.and_eq_true_iff.mp h).1
  rw [isReport, hinfo]
  rfl

theorem isAside_of_mem_debug {text : String} (h : n ∈ [⟨.debug, text⟩]) : n.IsAside place := by
  rw [List.mem_singleton.mp h]
  exact ⟨rfl, rfl⟩

theorem isAside_of_mem_trace {text : String} (h : n ∈ [⟨.trace, text⟩]) : n.IsAside place := by
  rw [List.mem_singleton.mp h]
  exact ⟨rfl, rfl⟩

theorem isAside_complaint (piece : List Char) : IsAside place (Flag.complaint piece) := by
  constructor
  · rfl
  · simp [isReport, reportOpening, Flag.complaint, String.toList_append, List.isPrefixOf]

theorem countP_isRecord_of_asides (h : ∀ n ∈ ns, n.IsAside place) : ns.countP isRecord = 0 := by
  rw [List.countP_eq_zero]
  intro n hn
  rw [(h n hn).record]
  exact Bool.false_ne_true

theorem filter_isReport_of_asides (h : ∀ n ∈ ns, n.IsAside place) :
    ns.filter (isReport place) = [] := by
  rw [List.filter_eq_nil_iff]
  intro n hn
  rw [(h n hn).report]
  exact Bool.false_ne_true

end Note

/-! ### Code attached to rules -/

def Action.IsDiscreet (a : Action) : Prop :=
  ∀ conv r w, ∀ n ∈ (a conv r w).notes, n.IsAside conv.place

def Handler.IsDiscreet (h : Handler) : Prop :=
  ∀ conv args w, ∀ n ∈ (h conv args w).notes, n.IsAside conv.place

/-- Code attached to the dialogue takes no note that looks like one about an effect. Code that takes
no notes at all is discreet. -/
structure Dialogue.IsDiscreet (d : Dialogue) : Prop where
  continuations : ∀ r ∈ d.rules, ∀ a, r.continuation = some a → a.IsDiscreet
  handlers : ∀ kind h, d.registry.find? kind = some h → h.IsDiscreet

structure Scene.IsDiscreet (sc : Scene) : Prop where
  continuation : ∀ a, sc.rule.continuation = some a → a.IsDiscreet
  handlers : ∀ kind h, sc.registry.find? kind = some h → h.IsDiscreet

theorem Dialogue.IsDiscreet.scene {d : Dialogue} {r : HookedRule} (h : d.IsDiscreet)
    (hr : r ∈ d.rules) (conv : Conversation) : (d.scene conv r).IsDiscreet :=
  ⟨h.continuations r hr, h.handlers⟩

/-! ### What an attempt tells -/

namespace Effect

/-- What the notes of an attempt tell, if it was made in the world `w`. Only an effect that changes
nothing may be carried out without a record. -/
inductive Told (place : String) (w : World) : Noted Outcome → Prop where
  | recorded {u : World} {n : Note} {before behind : List Note} (hn : n.isRecord = true)
      (hbefore : ∀ m ∈ before, m.IsAside place) (hbehind : ∀ m ∈ behind, m.IsAside place) :
      Told place w ⟨.done u, before ++ n :: behind⟩
  | idle {ns : List Note} (h : ∀ m ∈ ns, m.IsAside place) : Told place w ⟨.done w, ns⟩
  | failed {u : World} {fault : Fault} {ns : List Note} (h : ∀ m ∈ ns, m.IsAside place) :
      Told place w ⟨.failed u fault, ns⟩
  | crashed {c : Crash} {ns : List Note} (h : ∀ m ∈ ns, m.IsAside place) :
      Told place w ⟨.crashed c, ns⟩

variable {sc : Scene} {place : String} {w u : World}

namespace Told

/-- Asides taken before an attempt tell nothing of it. -/
theorem bind {α : Type} {x : Noted α} {f : α → Noted Outcome}
    (hx : ∀ n ∈ x.notes, n.IsAside place) (hf : Told place w (f x.value)) :
    Told place w (x >>= f) := by
  change Told place w ⟨(f x.value).value, x.notes ++ (f x.value).notes⟩
  generalize f x.value = y at hf ⊢
  cases hf with
  | recorded hn hbefore hbehind =>
    dsimp only
    rw [← List.append_assoc]
    exact .recorded hn (List.forall_mem_append.mpr ⟨hx, hbefore⟩) hbehind
  | idle h => exact .idle (List.forall_mem_append.mpr ⟨hx, h⟩)
  | failed h => exact .failed (List.forall_mem_append.mpr ⟨hx, h⟩)
  | crashed h => exact .crashed (List.forall_mem_append.mpr ⟨hx, h⟩)

theorem at_once {n : Note} {behind : List Note} (hn : n.isRecord = true)
    (hbehind : ∀ m ∈ behind, m.IsAside place) : Told place w ⟨.done u, n :: behind⟩ := by
  have hbefore : ∀ m ∈ ([] : List Note), m.IsAside place := List.forall_mem_nil _
  exact .recorded hn hbefore hbehind

theorem pure_failed (u : World) (fault : Fault) : Told place w (pure (.failed u fault)) :=
  .failed (List.forall_mem_nil _)

end Told

/-! #### Each effect -/

theorem isRecord_record (sc : Scene) (what : String) :
    (⟨.info, marker ++ what ++ " [" ++ sc.place ++ "]"⟩ : Note).isRecord = true := by
  simp [Note.isRecord, String.toList_append]

theorem told_done (sc : Scene) (what : String) (u : World) : Told place w (done sc what u) :=
  .at_once (isRecord_record sc what) (List.forall_mem_nil _)

theorem isAside_of_mem_write {s : Flag.Store} {actor : Ident} {name : Flag.Name} {value : String}
    {room : String} {n : Note} (h : n ∈ (s.write w actor room name value).notes) :
    n.IsAside place := by
  unfold Flag.Store.write at h
  split at h
  · exact Note.isAside_of_mem_trace h
  · split at h
    · cases h
    · rw [Noted.notes_bind, Noted.notes_pure, List.append_nil] at h
      obtain ⟨piece, -, rfl⟩ := List.mem_map.mp h
      exact Note.isAside_complaint piece

theorem told_writeFlag (name value what : String) :
    Told place w (writeFlag sc w name value what) := by
  unfold writeFlag
  split
  · exact .pure_failed w _
  · refine .bind (fun _ => isAside_of_mem_write) ?_
    split
    · exact .pure_failed _ _
    · exact told_done sc _ _

theorem isAside_of_mem_startQuest {actor : Entity} {quest : String} {stage : UInt32} {n : Note}
    (h : n ∈ (w.startQuest actor quest stage).notes) : n.IsAside place := by
  unfold World.startQuest at h
  split at h
  · rw [List.mem_singleton.mp h]
    constructor
    · simp [Note.isRecord, marker, String.toList_append, List.isPrefixOf]
    · rfl
  · cases h

theorem told_advanceQuest (quest : String) (stage : UInt32) :
    Told place w (applyAdvanceQuest sc w quest stage) := by
  unfold applyAdvanceQuest
  split
  · refine .bind (fun _ => isAside_of_mem_startQuest) ?_
    split
    · exact .pure_failed _ _
    · exact told_done sc _ _
  · split
    · exact .pure_failed w _
    · split
      · exact .bind (fun _ => Note.isAside_of_mem_debug) (.idle (List.forall_mem_nil _))
      · split
        · exact .pure_failed _ _
        · exact told_done sc _ _

theorem told_settled (lack : Missing) (name what : String) (a : Answer Stop) :
    Told place w (settled sc lack name what a) := by
  unfold settled
  split
  · exact .crashed (List.forall_mem_nil _)
  · exact .pure_failed _ _
  · exact told_done sc _ _

theorem told_giveItem (item : String) (quantity : UInt64) :
    Told place w (applyGiveItem sc w item quantity) := by
  unfold applyGiveItem
  dsimp only
  split
  · exact told_settled _ _ _ _
  · exact told_settled _ _ _ _

theorem told_takeItem (item : String) (quantity : UInt64) :
    Told place w (applyTakeItem sc w item quantity) := by
  unfold applyTakeItem
  dsimp only
  split
  · exact .pure_failed w _
  · split
    · exact told_settled _ _ _ _
    · exact told_settled _ _ _ _

theorem told_connection (id : Int64) : Told place w (applyConnection sc w id) := by
  unfold applyConnection
  split
  · exact .pure_failed _ _
  · exact told_done sc _ _

theorem apply_callback (sc : Scene) (w : World) :
    apply sc w .callback = ⟨.done (runContinuation sc w).value, (runContinuation sc w).notes⟩ := by
  change (⟨.done (runContinuation sc w).value, (runContinuation sc w).notes ++ []⟩ :
    Noted Outcome) = _
  rw [List.append_nil]

theorem told_callback (h : sc.IsDiscreet) : Told sc.place w (apply sc w .callback) := by
  rw [apply_callback]
  unfold runContinuation
  split
  · exact .idle fun _ => Note.isAside_of_mem_debug
  · rename_i a ha
    exact .at_once (isRecord_record sc "Callback") (h.continuation a ha _ _ _)

theorem told_custom (h : sc.IsDiscreet) (kind : String) (args : List String) :
    Told sc.place w (applyCustom sc w kind args) := by
  unfold applyCustom
  split
  · exact .pure_failed w _
  · rename_i handler hfind
    refine .bind (h.handlers kind handler hfind sc.conversation args w) ?_
    split
    · exact .pure_failed _ _
    · exact told_done sc _ _

theorem told_apply (h : sc.IsDiscreet) (e : Effect) (w : World) :
    Told sc.place w (e.apply sc w) := by
  cases e with
  | setFlag name value => exact told_writeFlag name value _
  | advanceQuest quest stage => exact told_advanceQuest quest stage
  | giveItem item quantity => exact told_giveItem item quantity
  | takeItem item quantity => exact told_takeItem item quantity
  | connection id => exact told_connection id
  | markTime name => exact told_writeFlag name _ _
  | callback => exact told_callback h
  | custom kind args => exact told_custom h kind args

namespace Told

variable {x : Noted Outcome}

theorem filter_isReport (h : Told place w x) : x.notes.filter (Note.isReport place) = [] := by
  cases h with
  | @recorded _ n _ _ hn hbefore hbehind =>
    have hrecord : n.isReport place = false := Note.isReport_of_isRecord hn
    rw [List.filter_append, List.filter_cons_of_neg (by simp [hrecord]),
      Note.filter_isReport_of_asides hbefore, Note.filter_isReport_of_asides hbehind]
    rfl
  | idle h => exact Note.filter_isReport_of_asides h
  | failed h => exact Note.filter_isReport_of_asides h
  | crashed h => exact Note.filter_isReport_of_asides h

theorem countP_of_failed {fault : Fault} (h : Told place w x) (hx : x.value = .failed u fault) :
    x.notes.countP Note.isRecord = 0 := by
  cases h with
  | failed h => exact Note.countP_isRecord_of_asides h
  | _ => cases hx

theorem countP_cases (h : Told place w x) :
    x.notes.countP Note.isRecord = 1 ∨
      x.notes.countP Note.isRecord = 0 ∧ ∀ v, x.value = .done v → v = w := by
  cases h with
  | recorded hn hbefore hbehind =>
    left
    rw [List.countP_append, List.countP_cons_of_pos hn, Note.countP_isRecord_of_asides hbefore,
      Note.countP_isRecord_of_asides hbehind]
  | idle h =>
    refine .inr ⟨Note.countP_isRecord_of_asides h, fun v hv => ?_⟩
    cases hv
    rfl
  | failed h => exact .inr ⟨Note.countP_isRecord_of_asides h, fun v hv => by cases hv⟩
  | crashed h => exact .inr ⟨Note.countP_isRecord_of_asides h, fun v hv => by cases hv⟩

end Told

end Effect

/-! ### The lines of an attempt -/

namespace Attempt

/-- The attempt fails. -/
def fails (a : Attempt) : Bool :=
  match a.outcome with
  | .done _ => false
  | .failed _ _ => true
  | .crashed _ => false

/-- What is written about a failure of the attempt, if its rule has the index `i`. -/
def failureText (i : Nat) (a : Attempt) (fault : Fault) : String :=
  Note.reportOpening a.scene.place ++ Numeral.ofNat i ++ ", effect '" ++ a.effect.kind ++ "': "
    ++ fault.message

/-- The note reports the failure of the attempt. A quest that would move backwards is worth a
warning, everything else is an error. -/
inductive ReportedBy (i : Nat) (a : Attempt) : Note → Prop where
  | warning {u : World} {quest : String} {current requested : UInt32}
      (h : a.outcome = .failed u (.questRegression quest current requested)) :
      ReportedBy i a ⟨.warn, a.failureText i (.questRegression quest current requested)⟩
  | error {u : World} {fault : Fault} (h : a.outcome = .failed u fault)
      (hother : ∀ quest current requested, fault ≠ .questRegression quest current requested) :
      ReportedBy i a ⟨.error, a.failureText i fault⟩

def report (i : Nat) (a : Attempt) : List Note :=
  match a.outcome with
  | .done _ => []
  | .failed _ fault => (Dialogue.reportFailure a.scene.conversation i a.effect fault).notes
  | .crashed _ => []

/-- The notes of the attempt, and the report behind them if it fails. -/
def lines (i : Nat) (a : Attempt) : List Note :=
  (a.effect.apply a.scene a.world).notes ++ a.report i

variable {a : Attempt} {i : Nat}

theorem report_of_not_fails (h : a.fails = false) : a.report i = [] := by
  unfold fails at h
  unfold report
  split at h
  · rfl
  · cases h
  · rfl

theorem exists_failed (h : a.fails = true) : ∃ u fault, a.outcome = .failed u fault := by
  unfold fails at h
  split at h
  · cases h
  · rename_i u fault hfailed
    exact ⟨u, fault, hfailed⟩
  · cases h

theorem exists_report (h : a.fails = true) (i : Nat) :
    ∃ n, a.report i = [n] ∧ a.ReportedBy i n := by
  obtain ⟨u, fault, hfailed⟩ := exists_failed h
  rw [report, hfailed]
  refine ⟨_, rfl, ?_⟩
  cases fault with
  | questRegression quest current requested => exact .warning hfailed
  | _ => exact .error hfailed (by simp)

theorem opens_failureText (i : Nat) (a : Attempt) (fault : Fault) :
    (Note.reportOpening a.scene.place).toList.isPrefixOf (a.failureText i fault).toList = true := by
  rw [List.isPrefixOf_iff_prefix, failureText]
  simp only [String.toList_append, List.append_assoc]
  exact List.prefix_append _ _

theorem ReportedBy.isReport {n : Note} (h : a.ReportedBy i n) :
    n.isReport a.scene.place = true := by
  cases h with
  | warning => exact opens_failureText i a _
  | error => exact opens_failureText i a _

theorem ReportedBy.isRecord_eq_false {n : Note} (h : a.ReportedBy i n) : n.isRecord = false := by
  cases h with
  | warning => rfl
  | error => rfl

theorem filter_isReport_report : (a.report i).filter (Note.isReport a.scene.place) = a.report i := by
  cases hfails : a.fails with
  | false => rw [report_of_not_fails hfails, List.filter_nil]
  | true =>
    obtain ⟨n, hreport, hn⟩ := exists_report hfails i
    rw [hreport, List.filter_cons_of_pos hn.isReport, List.filter_nil]

theorem countP_isRecord_report : (a.report i).countP Note.isRecord = 0 := by
  cases hfails : a.fails with
  | false => rw [report_of_not_fails hfails, List.countP_nil]
  | true =>
    obtain ⟨n, hreport, hn⟩ := exists_report hfails i
    rw [hreport, List.countP_cons_of_neg (by simp [hn.isRecord_eq_false]), List.countP_nil]

/-- Of the lines of an attempt, only its own report is a report. -/
theorem filter_isReport_lines (h : a.scene.IsDiscreet) (i : Nat) :
    (a.lines i).filter (Note.isReport a.scene.place) = a.report i := by
  have htold := Effect.told_apply h a.effect a.world
  rw [lines, List.filter_append, htold.filter_isReport, filter_isReport_report, List.nil_append]

theorem countP_isRecord_lines (i : Nat) (a : Attempt) :
    (a.lines i).countP Note.isRecord =
      (a.effect.apply a.scene a.world).notes.countP Note.isRecord := by
  rw [lines, List.countP_append, countP_isRecord_report, Nat.add_zero]

theorem countP_of_changed {u : World} (h : a.scene.IsDiscreet) (hdone : a.outcome = .done u)
    (hchanged : u ≠ a.world) (i : Nat) : (a.lines i).countP Note.isRecord = 1 := by
  rw [countP_isRecord_lines]
  obtain hone | ⟨-, hsame⟩ := (Effect.told_apply h a.effect a.world).countP_cases
  · exact hone
  · exact absurd (hsame u hdone) hchanged

theorem countP_of_fails (h : a.scene.IsDiscreet) (hfails : a.fails = true) (i : Nat) :
    (a.lines i).countP Note.isRecord = 0 := by
  rw [countP_isRecord_lines]
  obtain ⟨u, fault, hfailed⟩ := exists_failed hfails
  exact (Effect.told_apply h a.effect a.world).countP_of_failed hfailed

theorem countP_le_one (h : a.scene.IsDiscreet) (i : Nat) :
    (a.lines i).countP Note.isRecord ≤ 1 := by
  rw [countP_isRecord_lines]
  obtain hone | ⟨hnone, -⟩ := (Effect.told_apply h a.effect a.world).countP_cases
  · exact Nat.le_of_eq hone
  · exact hnone ▸ Nat.zero_le 1

/-- The reports among the lines of attempts are those of the attempts that fail, one for each and in
their order. -/
theorem forall₂_reportedBy {sc : Scene} {as : List Attempt} (h : sc.IsDiscreet)
    (has : ∀ a ∈ as, a.scene = sc) (i : Nat) :
    List.Forall₂ (ReportedBy i) (as.filter fails)
      ((as.flatMap (lines i)).filter (Note.isReport sc.place)) := by
  induction as with
  | nil => exact .nil
  | cons a as ih =>
    obtain ⟨rfl, hrest⟩ := List.forall_mem_cons.mp has
    rw [List.flatMap_cons, List.filter_append, filter_isReport_lines h]
    cases hfails : a.fails with
    | false =>
      rw [List.filter_cons_of_neg (by simp [hfails]), report_of_not_fails hfails]
      exact ih hrest
    | true =>
      obtain ⟨n, hreport, hn⟩ := exists_report hfails i
      rw [List.filter_cons_of_pos hfails, hreport]
      exact .cons hn (ih hrest)

end Attempt

/-! ### Commit -/

/-- The effects of the rule, with a callback at the end if there is none. -/
def Rule.performed (r : Rule) : List Effect :=
  r.effects ++ if .callback ∈ r.effects then [] else [.callback]

namespace Dialogue

theorem notes_runEffects (sc : Scene) (i : Nat) (es : List Effect) (w : World) :
    (runEffects sc i es w).notes = (sc.attempts es w).flatMap (Attempt.lines i) := by
  induction es generalizing w with
  | nil => rfl
  | cons e es ih =>
    rw [runEffects, Noted.notes_bind, Scene.attempts, List.flatMap_cons, Attempt.lines,
      Attempt.report, Attempt.outcome, List.append_assoc]
    dsimp only
    congr 1
    cases (e.apply sc w).value with
    | done u => exact ih u
    | failed u fault =>
      rw [Noted.notes_bind, ih]
      rfl
    | crashed c => rfl

theorem notes_commit_of_rule {d : Dialogue} {s : Selection} {r : HookedRule}
    (hr : d.rules[s.index]? = some r) (w : World) (conv : Conversation) :
    let said := w.say conv.speaker.id conv.actor.id s.response
    (d.commit w conv s).notes =
      (runEffects (d.scene conv r) s.index s.effects said).notes ++
        match (runEffects (d.scene conv r) s.index s.effects said).value with
        | .error _ => []
        | .ok u =>
          if r.hasCallback = true then [] else (Effect.runContinuation (d.scene conv r) u).notes := by
  dsimp only
  rw [commit_of_rule hr, Noted.notes_bind]
  congr 1
  cases (runEffects (d.scene conv r) s.index s.effects
    (w.say conv.speaker.id conv.actor.id s.response)).value with
  | error c => rfl
  | ok u =>
    dsimp only
    split
    · rfl
    · rw [Noted.notes_bind, Noted.notes_pure, List.append_nil]

theorem flatMap_lines_callback (sc : Scene) (i : Nat) (w : World) :
    (sc.attempts [.callback] w).flatMap (Attempt.lines i) =
      (Effect.runContinuation sc w).notes := by
  have hattempts : sc.attempts [.callback] w = [⟨sc, .callback, w⟩] := rfl
  have hreport : (⟨sc, .callback, w⟩ : Attempt).report i = [] := rfl
  rw [hattempts, List.flatMap_singleton, Attempt.lines, hreport, List.append_nil,
    Effect.apply_callback]

/-- The log of a commit is the lines of its attempts. -/
theorem notes_commit {d : Dialogue} {s : Selection} {r : HookedRule}
    (hr : d.rules[s.index]? = some r) (heffects : s.effects = r.effects) (w : World)
    (conv : Conversation) :
    (d.commit w conv s).notes =
      ((d.scene conv r).attempts r.performed
        (w.say conv.speaker.id conv.actor.id s.response)).flatMap (Attempt.lines s.index) := by
  rw [notes_commit_of_rule hr, notes_runEffects, value_runEffects_eq_after, heffects,
    Rule.performed, Scene.attempts_append, List.flatMap_append]
  congr 1
  cases (w.say conv.speaker.id conv.actor.id s.response).after
    (r.effects.map (Step.attempt (d.scene conv r))) with
  | error c => rfl
  | ok u =>
    dsimp only
    by_cases hcallback : .callback ∈ r.effects
    · rw [if_pos hcallback, if_pos (Rule.hasCallback_iff.mpr hcallback)]
      rfl
    · rw [if_neg hcallback, if_neg fun h => hcallback (Rule.hasCallback_iff.mp h),
        flatMap_lines_callback]

theorem map_effect_attempts_performed {d : Dialogue} {r : HookedRule} {w : World}
    (hd : d.KeepsWorth) (hr : r ∈ d.rules) (hw : w.CoinsHaveWorth) (conv : Conversation) :
    ((d.scene conv r).attempts r.performed w).map (·.effect) = r.performed := by
  have hrule : (d.scene conv r).rule.KeepsWorth := hd.rules r hr
  have hes : ∀ e ∈ r.performed, e.KeepsWorth (d.scene conv r).registry := fun e _ => hd.effect e
  obtain ⟨w', -, hvalue⟩ := runs_runEffects hrule hes hw 0
  rw [value_runEffects_eq_after] at hvalue
  exact Scene.map_effect_attempts hvalue

/-- The log of a commit is complete and exact. It is written attempt by attempt. Its reports are one
for each attempt that failed, in order; an attempt that changed the world is recorded once, and one
that failed is not. With coins that have worth, all effects are attempted. -/
theorem commit_log_exact {d : Dialogue} {v : World} {asked : Conversation} {utterance : String}
    {draw : UInt32} {s : Selection} (hd : d.IsDiscreet)
    (hs : (d.select v asked utterance draw).value = some s) (w : World) (conv : Conversation) :
    ∃ (r : HookedRule) (as : List Attempt), d.rules[s.index]? = some r ∧
      as = (d.scene conv r).attempts r.performed
        (w.say conv.speaker.id conv.actor.id s.response) ∧
      (d.commit w conv s).notes = as.flatMap (Attempt.lines s.index) ∧
      List.Forall₂ (Attempt.ReportedBy s.index) (as.filter Attempt.fails)
        ((d.commit w conv s).notes.filter (Note.isReport conv.place)) ∧
      (∀ a ∈ as,
        (∀ u, a.outcome = .done u → u ≠ a.world →
          (a.lines s.index).countP Note.isRecord = 1) ∧
        (a.fails = true → (a.lines s.index).countP Note.isRecord = 0) ∧
        (a.lines s.index).countP Note.isRecord ≤ 1) ∧
      (d.KeepsWorth → w.CoinsHaveWorth →
        as.map (·.effect) = r.performed ∧ ∃ w', (d.commit w conv s).value = .ok w') := by
  obtain ⟨r, hfirst⟩ := exists_isFirst hs
  have hmem := List.mem_of_getElem? hfirst.rule
  have hnotes := notes_commit hfirst.rule hfirst.effects w conv
  have hdiscreet := hd.scene hmem conv
  refine ⟨r, _, hfirst.rule, rfl, hnotes, ?_, fun a ha => ?_, fun hworth hw => ⟨?_, ?_⟩⟩
  · rw [hnotes]
    exact Attempt.forall₂_reportedBy hdiscreet (fun a ha => Scene.scene_of_mem_attempts ha) s.index
  · have ha : a.scene.IsDiscreet := Scene.scene_of_mem_attempts ha ▸ hdiscreet
    exact ⟨fun u hdone hchanged => Attempt.countP_of_changed ha hdone hchanged s.index,
      fun hfails => Attempt.countP_of_fails ha hfails s.index, Attempt.countP_le_one ha s.index⟩
  · have hsaid : (w.say conv.speaker.id conv.actor.id s.response).CoinsHaveWorth := hw
    exact map_effect_attempts_performed hworth hmem hsaid conv
  · obtain ⟨w', -, hvalue⟩ := runs_commit hworth hfirst.rule hfirst.effects hw conv
    exact ⟨w', hvalue⟩

/-- A quest that would move backwards, a flag among junk, an effect that nobody defines, and a
continuation that runs at the end and takes a note of its own. -/
theorem commit_log_exact_retreat :
    let conv : Conversation := ⟨⟨⟨7#128⟩, "ada"⟩, ⟨⟨8#128⟩, "gork"⟩, "hall"⟩
    let r : HookedRule :=
      { keywords := ["*"]
        responses := ["Again?"]
        effects := [.advanceQuest "ring" 1, .setFlag "met" "1", .custom "bow" []]
        continuation := some fun _ _ w => ⟨w, [⟨.warn, "nobody listens"⟩]⟩ }
    let d : Dialogue := { rules := [r] }
    let w : World :=
      { keys := Table.put (fun _ _ => none) ⟨7#128⟩ "dialog_hall" (some "junk;met:0")
        quests := Table.put (fun _ _ => none) ⟨7#128⟩ "ring" (some 3) }
    let s : Selection := ⟨0, "Again?", r.effects⟩
    let reports : List Note :=
      [⟨.warn, "[hall] rule 0, effect 'setquest': quest 'ring' is already at stage 3; " ++
          "refusing to move it back to 1"⟩,
        ⟨.error, "[hall] rule 0, effect 'bow': unknown effect kind 'bow'"⟩]
    d.IsDiscreet ∧ d.KeepsWorth ∧ w.CoinsHaveWorth ∧
    (d.select w conv "hello" 0).value = some s ∧
    (d.commit w conv s).notes.filter (Note.isReport "hall") = reports ∧
    (d.commit w conv s).notes.countP Note.isRecord = 2 ∧
    ∃ as : List Attempt, as.map (·.effect) = r.effects ++ [.callback] ∧
      List.Forall₂ (Attempt.ReportedBy 0) (as.filter Attempt.fails) reports := by
  intro conv r d w s reports
  have hd : d.IsDiscreet := by
    constructor
    · intro r' hr' a ha
      rw [List.mem_singleton.mp hr'] at ha
      cases ha
      intro conv r w n hn
      rw [List.mem_singleton.mp hn]
      constructor
      · rfl
      · simp [Note.isReport, Note.reportOpening, String.toList_append, List.isPrefixOf]
    · intro kind h hfind
      cases hfind
  have hworth : d.KeepsWorth := by
    constructor
    · intro r' hr' a ha
      rw [List.mem_singleton.mp hr'] at ha
      cases ha
      exact fun _ _ _ hv => hv
    · intro kind h hfind
      cases hfind
  have hw : w.CoinsHaveWorth := by decide
  have hs : (d.select w conv "hello" 0).value = some s := by decide +kernel
  have hreports : (d.commit w conv s).notes.filter (Note.isReport "hall") = reports := by
    decide +kernel
  have hrecords : (d.commit w conv s).notes.countP Note.isRecord = 2 := by decide +kernel
  obtain ⟨r', as, hr', -, -, hforall, -, hall⟩ := commit_log_exact hd hs w conv
  obtain rfl : r = r' := Option.some.inj hr'
  rw [hreports] at hforall
  exact ⟨hd, hworth, hw, hs, hreports, hrecords, as, (hall hworth hw).1, hforall⟩

end Dialogue

end Colloquy

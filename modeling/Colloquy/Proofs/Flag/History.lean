import Colloquy.Proofs.Flag.Store

/-!
# Colloquy.Proofs.Flag.History

Any number of writes, one after the other, from a world in which any texts are stored: to its
readers a store is a table whose cells are the flags of all actors at all places.

* `Write`       — one write asked of a store, with what it comes to (`answer`).
* `lastStored?` — the value of the last of many writes that stores something in a flag.
* `read_run`    — this is what the flag reads as afterwards.
-/

namespace Colloquy.Flag

structure Write where
  actor : Ident
  place : String
  name : Name
  value : String

namespace Write

/-- The flag that is written. -/
def target (x : Write) : Ident × String × String :=
  (x.actor, x.place, x.name.text)

/-- The value is one that can be packed, and stands for itself. -/
def isStored (x : Write) : Bool :=
  x.value != wildcard && !hasSeparator x.value

def answer (x : Write) (s : Store) (w : World) : Answer String :=
  (s.write w x.actor x.place x.name x.value).value

variable {x : Write} {s : Store} {w : World}

theorem answer_of_wildcard (h : x.value = wildcard) : x.answer s w = .ok () w := by
  rw [answer, Store.value_write, if_pos h]

theorem answer_of_hasSeparator (h : hasSeparator x.value = true) :
    x.answer s w = .error x.value w := by
  have hne : x.value ≠ wildcard := by
    intro heq
    rw [heq] at h
    exact absurd h (by decide)
  rw [answer, Store.value_write, if_neg hne, if_pos h]

theorem isStored_iff : x.isStored = true ↔ x.value ≠ wildcard ∧ hasSeparator x.value = false := by
  simp [isStored]

theorem answer_of_isStored (h : x.isStored = true) :
    x.answer s w = .ok () (s.stored w x.actor x.place x.name.text x.value) := by
  obtain ⟨hwild, hplain⟩ := isStored_iff.mp h
  rw [answer, Store.value_write, if_neg hwild, hplain]
  rfl

theorem world_answer_of_isStored (h : x.isStored = true) :
    (x.answer s w).world = s.stored w x.actor x.place x.name.text x.value := by
  rw [answer_of_isStored h]
  rfl

theorem world_answer_of_not_isStored (h : ¬x.isStored = true) : (x.answer s w).world = w := by
  by_cases hwild : x.value = wildcard
  · rw [answer_of_wildcard hwild]
    rfl
  · have hsep : hasSeparator x.value = true := by simpa [isStored, hwild] using h
    rw [answer_of_hasSeparator hsep]
    rfl

end Write

/-- The last value that is stored in a flag. -/
def lastStored? (xs : List Write) (flag : Ident × String × String) : Option String :=
  (xs.filter fun x => x.isStored && x.target = flag).getLast?.map (·.value)

theorem lastStored?_cons (x : Write) (xs : List Write) (flag : Ident × String × String) :
    lastStored? (x :: xs) flag =
      (lastStored? xs flag).or
        (if x.isStored = true ∧ x.target = flag then some x.value else none) := by
  unfold lastStored?
  by_cases h : x.isStored = true ∧ x.target = flag
  · rw [List.filter_cons_of_pos (by simpa using h), if_pos h, List.getLast?_cons]
    cases (xs.filter fun x => x.isStored && x.target = flag).getLast? <;> rfl
  · rw [List.filter_cons_of_neg (by simpa using h), if_neg h, Option.or_none]

namespace Store

/-- The world after writes made one after the other. -/
def run (s : Store) (w : World) (xs : List Write) : World :=
  xs.foldl (fun w x => (x.answer s w).world) w

variable {s : Store} {w : World}

/-- One write changes one flag. -/
theorem read_answer (x : Write) (actor : Ident) (place name : String) :
    (s.read (x.answer s w).world actor place name).value =
      if x.isStored = true ∧ x.target = (actor, place, name) then x.value
      else (s.read w actor place name).value := by
  by_cases hstored : x.isStored = true
  · rw [Write.world_answer_of_isStored hstored, value_read, value_read]
    by_cases hcell : actor = x.actor ∧ place = x.place
    · obtain ⟨rfl, rfl⟩ := hcell
      rw [decode_packed_stored x.name.valid (Write.isStored_iff.mp hstored).2, get_set]
      simp [hstored, Write.target]
    · have hother : ¬x.target = (actor, place, name) := by
        intro h
        cases h
        exact hcell ⟨rfl, rfl⟩
      rw [packed_stored_of_ne hcell, if_neg fun h => hother h.2]
  · rw [if_neg fun h => hstored h.1, Write.world_answer_of_not_isStored hstored]

theorem read_run (xs : List Write) (actor : Ident) (place name : String) :
    (s.read (s.run w xs) actor place name).value =
      (lastStored? xs (actor, place, name)).getD (s.read w actor place name).value := by
  induction xs generalizing w with
  | nil => rfl
  | cons x xs ih =>
    have hrun : s.run w (x :: xs) = s.run (x.answer s w).world xs := rfl
    rw [hrun, ih, read_answer, lastStored?_cons]
    cases lastStored? xs (actor, place, name) with
    | some value => rfl
    | none => split <;> rfl

theorem read_of_not_mem_names {actor : Ident} {place name : String}
    (h : name ∉ names (decode (s.packed w actor place))) :
    (s.read w actor place name).value = unset := by
  rw [value_read, get_of_not_mem h]

theorem exists_answer_of_isStored {x : Write} (h : x.isStored = true) :
    ∃ w', x.answer s w = .ok () w' ∧
      (∃ text, w' = w.writeKey x.actor (s.key x.place) text s.persist) ∧
      w'.persisted x.actor (s.key x.place) = s.persist ∧
      names (decode (s.packed w' x.actor x.place)) =
        let known := names (decode (s.packed w x.actor x.place))
        if x.name.text ∈ known then known else known ++ [x.name.text] := by
  refine ⟨_, Write.answer_of_isStored h, ⟨_, rfl⟩, Table.put_same _ _ _ _, ?_⟩
  rw [decode_packed_stored x.name.valid (Write.isStored_iff.mp h).2, names_set]

/-- A store is a table in which every flag is unset at first, whatever texts it finds. A write of
the wildcard and a write that is refused change nothing at all. Any other write changes one text,
keeps the order of the flags in it, and is saved at once if the store asks for that. -/
theorem behaves_as_table (s : Store) (w : World) :
    (∀ xs actor place name, (s.read (s.run w xs) actor place name).value =
      (lastStored? xs (actor, place, name)).getD (s.read w actor place name).value) ∧
    (∀ actor place name, name ∉ names (decode (s.packed w actor place)) →
      (s.read w actor place name).value = unset) ∧
    ∀ x : Write,
      (x.value = wildcard → x.answer s w = .ok () w) ∧
      (hasSeparator x.value = true → x.answer s w = .error x.value w) ∧
      (x.isStored = true → ∃ w', x.answer s w = .ok () w' ∧
        (∃ text, w' = w.writeKey x.actor (s.key x.place) text s.persist) ∧
        w'.persisted x.actor (s.key x.place) = s.persist ∧
        names (decode (s.packed w' x.actor x.place)) =
          let known := names (decode (s.packed w x.actor x.place))
          if x.name.text ∈ known then known else known ++ [x.name.text]) :=
  ⟨read_run, fun _ _ _ h => read_of_not_mem_names h,
    fun _ => ⟨Write.answer_of_wildcard, Write.answer_of_hasSeparator, exists_answer_of_isStored⟩⟩

/-- A stored text with pieces that are no flags, a flag without a name, and a flag found twice. -/
theorem behaves_as_table_junk :
    let ada : Ident := ⟨7#128⟩
    let s : Store := {}
    let w : World :=
      { keys := Table.put (fun _ _ => none) ada "dialog_hall" (some ";;junk;met:0:1;:x;met:2") }
    let met : Name := ⟨"met", rfl⟩
    let paid : Name := ⟨"paid", rfl⟩
    (s.read w ada "hall" "met").value = "2" ∧
    (s.read w ada "hall" "paid").value = "0" ∧
    (s.read (s.run w [⟨ada, "hall", met, "3"⟩, ⟨ada, "hall", met, "*"⟩, ⟨ada, "hall", met, "a;b"⟩,
      ⟨ada, "yard", met, "4"⟩]) ada "hall" "met").value = "3" ∧
    Write.answer ⟨ada, "hall", met, "*"⟩ s w = .ok () w ∧
    Write.answer ⟨ada, "hall", met, "a;b"⟩ s w = .error "a;b" w ∧
    ∃ w', Write.answer ⟨ada, "hall", paid, "1"⟩ s w = .ok () w' ∧
      names (decode (s.packed w' ada "hall")) = ["met", "", "paid"] ∧
      w'.persisted ada "dialog_hall" = true := by
  intro ada s w met paid
  obtain ⟨hrun, hunset, hanswer⟩ := behaves_as_table s w
  have hnames : names (decode (s.packed w ada "hall")) = ["met", ""] := by decide +kernel
  obtain ⟨w', hvalue, -, hpersisted, hknown⟩ :=
    (hanswer ⟨ada, "hall", paid, "1"⟩).2.2 (by decide)
  refine ⟨by decide +kernel, hunset _ _ _ (by rw [hnames]; decide), ?_, (hanswer _).1 rfl,
    (hanswer _).2.1 (by decide), w', hvalue, ?_, hpersisted⟩
  · rw [hrun]
    decide +kernel
  · rw [hknown, hnames]
    decide

end Store

end Colloquy.Flag

import Colloquy.Proofs.Numeral

/-!
# Colloquy.Proofs.Numeral.Grammar

Which texts are numerals of natural numbers, and what is wrong with all others.

* `valueOf` — the number that digits denote.
* `Denotes` — the text is a numeral of the number: digits, after a plus sign or none.
* `Flaw`    — why the text is no numeral of a number up to some bound.
* `readNat_eq_ok_iff`, `readNat_eq_error_iff` — reading accepts just the numerals within the bound,
  and refuses each other text for its flaw.
-/

namespace Colloquy.Numeral

def digitValue (c : Char) : Nat :=
  c.toNat - '0'.toNat

def valueOf (ds : List Char) : Nat :=
  digitsValue 10 (ds.map digitValue)

/-- The number that digits make of what was read before them. -/
def valueAfter (acc : Nat) (ds : List Char) : Nat :=
  (ds.map digitValue).foldl (fun n d => n * 10 + d) acc

/-- At least one digit, after a plus sign or none. -/
inductive Denotes : List Char → Nat → Prop where
  | bare {ds : List Char} (hne : ds ≠ []) (hds : ∀ c ∈ ds, c.isDigit = true) :
      Denotes ds (valueOf ds)
  | plus {ds : List Char} (hne : ds ≠ []) (hds : ∀ c ∈ ds, c.isDigit = true) :
      Denotes ('+' :: ds) (valueOf ds)

def unsigned : List Char → List Char
  | '+' :: r => r
  | s => s

/-- Why a text is no numeral of a number up to `max`. Of two flaws the first one counts. -/
inductive Flaw (max : Nat) : List Char → Fault → Prop where
  | nothing : Flaw max [] .empty
  | onlySign : Flaw max ['+'] .invalidDigit
  | noDigit {s ds r : List Char} {c : Char} (h : unsigned s = ds ++ c :: r)
      (hds : ∀ d ∈ ds, d.isDigit = true) (hle : valueOf ds ≤ max) (hc : c.isDigit = false) :
      Flaw max s .invalidDigit
  | beyond {s ds r : List Char} (h : unsigned s = ds ++ r) (hds : ∀ d ∈ ds, d.isDigit = true)
      (hlt : max < valueOf ds) : Flaw max s .tooLarge

variable {max acc n : Nat} {excess e : Fault} {s ds r : List Char} {c : Char}

/-! ### Digits -/

theorem digit?_of_isDigit (h : c.isDigit = true) : digit? c = some (digitValue c) := by
  have hc := toNat_bounds_of_isDigit h
  exact if_pos ⟨hc.1, hc.2⟩

theorem digit?_of_not_isDigit (h : c.isDigit = false) : digit? c = none := by
  refine if_neg fun hc => ?_
  have hdigit : c.isDigit = true := by
    simp only [Char.isDigit, Bool.and_eq_true, decide_eq_true_eq]
    exact ⟨hc.1, hc.2⟩
  rw [h] at hdigit
  cases hdigit

theorem valueAfter_cons (acc : Nat) (c : Char) (ds : List Char) :
    valueAfter acc (c :: ds) = valueAfter (10 * acc + digitValue c) ds := by
  rw [Nat.mul_comm]
  rfl

theorem le_valueAfter (acc : Nat) (ds : List Char) : acc ≤ valueAfter acc ds := by
  induction ds generalizing acc with
  | nil => exact Nat.le_refl acc
  | cons c ds ih =>
    have hrest := ih (10 * acc + digitValue c)
    rw [valueAfter_cons]
    omega

theorem readDigits_append (hds : ∀ c ∈ ds, c.isDigit = true) (hle : valueAfter acc ds ≤ max) :
    readDigits max excess acc (ds ++ r) = readDigits max excess (valueAfter acc ds) r := by
  induction ds generalizing acc with
  | nil => rfl
  | cons c ds ih =>
    obtain ⟨hc, hrest⟩ := List.forall_mem_cons.mp hds
    rw [valueAfter_cons] at hle ⊢
    have hstep : 10 * acc + digitValue c ≤ max := Nat.le_trans (le_valueAfter _ ds) hle
    rw [List.cons_append, readDigits, digit?_of_isDigit hc]
    dsimp only
    rw [if_pos hstep, ih hrest hle]

theorem readDigits_eq_ok (hds : ∀ c ∈ ds, c.isDigit = true) (hle : valueOf ds ≤ max) :
    readDigits max excess 0 ds = .ok (valueOf ds) := by
  have hread : readDigits max excess 0 (ds ++ []) = readDigits max excess (valueOf ds) [] :=
    readDigits_append hds hle
  rwa [List.append_nil] at hread

theorem readDigits_of_lt (hacc : acc ≤ max) (hds : ∀ c ∈ ds, c.isDigit = true)
    (hlt : max < valueAfter acc ds) : readDigits max excess acc (ds ++ r) = .error excess := by
  induction ds generalizing acc with
  | nil => exact absurd hlt (Nat.not_lt_of_le hacc)
  | cons c ds ih =>
    obtain ⟨hc, hrest⟩ := List.forall_mem_cons.mp hds
    rw [valueAfter_cons] at hlt
    rw [List.cons_append, readDigits, digit?_of_isDigit hc]
    dsimp only
    split
    · rename_i hstep
      exact ih hstep hrest hlt
    · rfl

/-- A text is digits within the bound, or has a first character that is no digit, or digits that go
beyond the bound. -/
theorem digits_cases (max acc : Nat) (s : List Char) :
    ((∀ c ∈ s, c.isDigit = true) ∧ valueAfter acc s ≤ max) ∨
    (∃ ds c r, s = ds ++ c :: r ∧ (∀ d ∈ ds, d.isDigit = true) ∧ valueAfter acc ds ≤ max ∧
      c.isDigit = false) ∨
    ∃ ds r, s = ds ++ r ∧ (∀ d ∈ ds, d.isDigit = true) ∧ max < valueAfter acc ds := by
  induction s generalizing acc with
  | nil =>
    by_cases hacc : acc ≤ max
    · exact .inl ⟨by simp, hacc⟩
    · exact .inr (.inr ⟨[], [], rfl, by simp, Nat.lt_of_not_le hacc⟩)
  | cons c s ih =>
    by_cases hacc : acc ≤ max
    · cases hc : c.isDigit with
      | false => exact .inr (.inl ⟨[], c, s, rfl, by simp, hacc, hc⟩)
      | true =>
        obtain ⟨hs, hle⟩ | ⟨ds, d, r, rfl, hds, hle, hd⟩ | ⟨ds, r, rfl, hds, hlt⟩ :=
          ih (10 * acc + digitValue c)
        · rw [← valueAfter_cons] at hle
          exact .inl ⟨List.forall_mem_cons.mpr ⟨hc, hs⟩, hle⟩
        · rw [← valueAfter_cons] at hle
          exact .inr (.inl ⟨c :: ds, d, r, rfl, List.forall_mem_cons.mpr ⟨hc, hds⟩, hle, hd⟩)
        · rw [← valueAfter_cons] at hlt
          exact .inr (.inr ⟨c :: ds, r, rfl, List.forall_mem_cons.mpr ⟨hc, hds⟩, hlt⟩)
    · exact .inr (.inr ⟨[], c :: s, rfl, by simp, Nat.lt_of_not_le hacc⟩)

/-! ### Numerals -/

theorem unsigned_of_isDigit (hds : ∀ c ∈ ds, c.isDigit = true) : unsigned ds = ds := by
  unfold unsigned
  split
  · exact absurd (hds '+' List.mem_cons_self) (by decide)
  · rfl

theorem plus_or_unsigned_eq (s : List Char) : (∃ r, s = '+' :: r) ∨ unsigned s = s := by
  unfold unsigned
  split
  · exact .inl ⟨_, rfl⟩
  · exact .inr rfl

theorem readNat_of_unsigned (h : unsigned s ≠ []) :
    readNat max s = readDigits max .tooLarge 0 (unsigned s) := by
  unfold unsigned at h ⊢
  split
  · rename_i r
    rw [readNat, readUnsigned]
    exact h
  · rename_i hplus
    cases s with
    | nil => exact absurd rfl h
    | cons c r =>
      rw [readNat, readUnsigned]
      · simp
      · simp
      · intro r' heq
        exact hplus r' heq

theorem readNat_of_denotes (h : Denotes s n) (hle : n ≤ max) : readNat max s = .ok n := by
  cases h with
  | bare hne hds =>
    have hself := unsigned_of_isDigit hds
    rw [readNat_of_unsigned (by rwa [hself]), hself, readDigits_eq_ok hds hle]
  | plus hne hds =>
    rename_i ds
    have hrest : unsigned ('+' :: ds) = ds := rfl
    rw [readNat_of_unsigned (by rwa [hrest]), hrest, readDigits_eq_ok hds hle]

theorem readNat_of_flaw (h : Flaw max s e) : readNat max s = .error e := by
  cases h with
  | nothing => rfl
  | onlySign => rfl
  | noDigit h hds hle hc =>
    rw [readNat_of_unsigned (by simp [h]), h, readDigits_append hds hle, readDigits,
      digit?_of_not_isDigit hc]
  | beyond h hds hlt =>
    rename_i ds r
    have hne : ds ≠ [] := by
      rintro rfl
      exact Nat.not_lt_zero max hlt
    rw [readNat_of_unsigned (by simp [h, hne]), h, readDigits_of_lt (Nat.zero_le max) hds hlt]

theorem denotes_of_unsigned (hne : unsigned s ≠ []) (hs : ∀ c ∈ unsigned s, c.isDigit = true) :
    Denotes s (valueOf (unsigned s)) := by
  obtain ⟨r, rfl⟩ | hself := plus_or_unsigned_eq s
  · exact .plus hne hs
  · rw [hself] at hne hs ⊢
    exact .bare hne hs

/-- Every text is a numeral within the bound, or has a flaw. -/
theorem denotes_or_flaw (max : Nat) (s : List Char) :
    (∃ n, Denotes s n ∧ n ≤ max) ∨ ∃ e, Flaw max s e := by
  by_cases hne : unsigned s = []
  · right
    obtain ⟨r, rfl⟩ | hself := plus_or_unsigned_eq s
    · obtain rfl : r = [] := hne
      exact ⟨_, .onlySign⟩
    · obtain rfl : s = [] := hself.symm.trans hne
      exact ⟨_, .nothing⟩
  · obtain ⟨hs, hle⟩ | ⟨ds, c, r, hs, hds, hle, hc⟩ | ⟨ds, r, hs, hds, hlt⟩ :=
      digits_cases max 0 (unsigned s)
    · exact .inl ⟨_, denotes_of_unsigned hne hs, hle⟩
    · exact .inr ⟨_, .noDigit hs hds hle hc⟩
    · exact .inr ⟨_, .beyond hs hds hlt⟩

theorem readNat_eq_ok_iff : readNat max s = .ok n ↔ Denotes s n ∧ n ≤ max := by
  refine ⟨fun h => ?_, fun h => readNat_of_denotes h.1 h.2⟩
  obtain ⟨m, hm, hle⟩ | ⟨e, hflaw⟩ := denotes_or_flaw max s
  · rw [readNat_of_denotes hm hle] at h
    cases h
    exact ⟨hm, hle⟩
  · rw [readNat_of_flaw hflaw] at h
    cases h

theorem readNat_eq_error_iff : readNat max s = .error e ↔ Flaw max s e := by
  refine ⟨fun h => ?_, readNat_of_flaw⟩
  obtain ⟨m, hm, hle⟩ | ⟨e', hflaw⟩ := denotes_or_flaw max s
  · rw [readNat_of_denotes hm hle] at h
    cases h
  · rw [readNat_of_flaw hflaw] at h
    cases h
    exact hflaw

theorem readUInt32_eq_ok_iff {n : UInt32} : readUInt32 s = .ok n ↔ Denotes s n.toNat := by
  have hn : n.toNat < UInt32.size := n.toNat_lt
  constructor
  · intro h
    unfold readUInt32 at h
    cases hread : readNat (UInt32.size - 1) s with
    | error e =>
      rw [hread] at h
      cases h
    | ok m =>
      rw [hread] at h
      obtain ⟨hm, hle⟩ := readNat_eq_ok_iff.mp hread
      obtain rfl : UInt32.ofNat m = n := Except.ok.inj h
      rwa [UInt32.toNat_ofNat_of_lt' (by omega)]
  · intro h
    rw [readUInt32, readNat_of_denotes h (by omega)]
    simp [Except.map]

theorem readUInt32_eq_error_iff : readUInt32 s = .error e ↔ Flaw (UInt32.size - 1) s e := by
  rw [← readNat_eq_error_iff, readUInt32]
  cases readNat (UInt32.size - 1) s <;> simp [Except.map]

end Colloquy.Numeral

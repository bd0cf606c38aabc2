import Colloquy.Proofs.World.Request
import Mathlib.Data.List.Nodup

/-!
# Colloquy.Proofs.World.Division

Amounts divided by the value of each coin in turn, as many of the first coin as fit, then of the
next.

* `leftOver`     — what remains after the last coin.
* `pieces`       — how many coins of a name are given. Coins may share a name.
* `change_cases` — change is made when nothing remains, and refused when something does.
* `worth`        — what so many coins of each name count for in a purse, where every coin of the
  realm counts once for each piece that has its name. The coins given for an amount are worth at
  least that amount (`le_worth_pieces`), and more if a name among them stands for two coins
  (`worth_pieces_eq_iff`).
-/

namespace Colloquy.World

def leftOver (coins : List Coin) (amount : Nat) : Nat :=
  coins.foldl (fun rest c => rest % c.value) amount

/-- How many coins of a name are given: the quotients of all coins of that name. -/
def pieces (name : String) : List Coin → Nat → Nat
  | [], _ => 0
  | c :: cs, amount =>
    (if name = c.name then amount / c.value else 0) + pieces name cs (amount % c.value)

/-- How many of a name a heap of coins has. -/
def tally (name : String) : List (String × Nat) → Nat
  | [] => 0
  | g :: rest => (if name = g.1 then g.2 else 0) + tally name rest

variable {coins cs : List Coin} {c : Coin} {name : String} {amount : Nat}

theorem leftOver_cons (c : Coin) (cs : List Coin) (amount : Nat) :
    leftOver (c :: cs) amount = leftOver cs (amount % c.value) :=
  rfl

@[simp] theorem leftOver_zero (coins : List Coin) : leftOver coins 0 = 0 := by
  induction coins with
  | nil => rfl
  | cons c cs ih => rw [leftOver_cons, Nat.zero_mod, ih]

@[simp] theorem pieces_zero (name : String) (coins : List Coin) : pieces name coins 0 = 0 := by
  induction coins with
  | nil => rfl
  | cons c cs ih => simp [pieces, ih]

theorem exists_coin_of_pieces_pos (h : 0 < pieces name coins amount) :
    ∃ c ∈ coins, c.name = name := by
  induction coins generalizing amount with
  | nil => simp [pieces] at h
  | cons c cs ih =>
    by_cases hname : name = c.name
    · exact ⟨c, List.mem_cons_self, hname.symm⟩
    · rw [pieces, if_neg hname, Nat.zero_add] at h
      obtain ⟨d, hd, hdname⟩ := ih h
      exact ⟨d, List.mem_cons_of_mem c hd, hdname⟩

theorem forall_pieces_cons {P : String → Prop} :
    (∀ name, 0 < pieces name (c :: cs) amount → P name) ↔
      (0 < amount / c.value → P c.name) ∧
        ∀ name, 0 < pieces name cs (amount % c.value) → P name := by
  constructor
  · intro hall
    refine ⟨fun hpos => hall c.name ?_, fun name hname => hall name ?_⟩
    · rw [pieces, if_pos rfl]
      omega
    · rw [pieces]
      omega
  · rintro ⟨hhead, htail⟩ name hname
    rw [pieces] at hname
    split at hname
    · rename_i heq
      subst heq
      rcases Nat.eq_zero_or_pos (amount / c.value) with hzero | hpos
      · exact htail c.name (by omega)
      · exact hhead hpos
    · exact htail name (by omega)

theorem exists_divide (hworth : ∀ c ∈ coins, 0 < c.value) (amount : Nat) :
    ∃ given, divide coins amount = .ok (given, leftOver coins amount) ∧
      ∀ name, tally name given = pieces name coins amount := by
  induction coins generalizing amount with
  | nil => exact ⟨[], rfl, fun _ => rfl⟩
  | cons c cs ih =>
    obtain ⟨hc, hcs⟩ := List.forall_mem_cons.mp hworth
    obtain ⟨given, hdivide, htally⟩ := ih hcs (amount % c.value)
    refine ⟨(c.name, amount / c.value) :: given, ?_, fun name => ?_⟩
    · rw [divide, if_neg (Nat.ne_of_gt hc), hdivide]
      rfl
    · rw [tally, htally, pieces]

theorem change_cases (hworth : ∀ c ∈ coins, 0 < c.value) (amount : Nat) :
    (leftOver coins amount = 0 ∧ ∃ given, change coins amount = .ok given ∧
      ∀ name, tally name given = pieces name coins amount) ∨
    (leftOver coins amount ≠ 0 ∧ ∃ refusal, change coins amount = .error (.refused refusal)) := by
  by_cases hzero : amount = 0
  · subst hzero
    exact .inl ⟨leftOver_zero coins, [], rfl, fun name => (pieces_zero name coins).symm⟩
  · rw [change, if_neg hzero]
    cases coins with
    | nil => exact .inr ⟨hzero, .noCoins, rfl⟩
    | cons c cs =>
      obtain ⟨given, hdivide, htally⟩ := exists_divide hworth amount
      rw [hdivide]
      by_cases hrest : leftOver (c :: cs) amount = 0
      · exact .inl ⟨hrest, given, if_pos hrest, htally⟩
      · exact .inr ⟨hrest, .noChange amount, if_neg hrest⟩

theorem change_fails_iff (hworth : ∀ c ∈ coins, 0 < c.value) (amount : Nat) :
    (∃ stop, change coins amount = .error stop) ↔ leftOver coins amount ≠ 0 := by
  obtain ⟨hrest, given, heq, -⟩ | ⟨hrest, refusal, heq⟩ := change_cases hworth amount
  · simp [heq, hrest]
  · exact iff_of_true ⟨_, heq⟩ hrest

/-! ### What coins are worth -/

/-- What so many coins of each name count for. -/
def worth (coins : List Coin) (n : String → Nat) : Nat :=
  coins.foldr (fun c total => n c.name * c.value + total) 0

/-- What one piece of a name counts for. -/
def faceValue (coins : List Coin) (name : String) : Nat :=
  worth coins fun i => if i = name then 1 else 0

theorem worth_cons (c : Coin) (cs : List Coin) (n : String → Nat) :
    worth (c :: cs) n = n c.name * c.value + worth cs n :=
  rfl

theorem worth_zero (coins : List Coin) : worth coins (fun _ => 0) = 0 := by
  induction coins with
  | nil => rfl
  | cons c cs ih => rw [worth_cons, ih, Nat.zero_mul]

theorem faceValue_cons (c : Coin) (cs : List Coin) (name : String) :
    faceValue (c :: cs) name = (if c.name = name then c.value else 0) + faceValue cs name := by
  rw [faceValue, worth_cons, faceValue]
  split <;> simp

theorem worth_congr {m n : String → Nat} (h : ∀ c ∈ coins, m c.name = n c.name) :
    worth coins m = worth coins n := by
  induction coins with
  | nil => rfl
  | cons c cs ih =>
    obtain ⟨hc, hcs⟩ := List.forall_mem_cons.mp h
    rw [worth_cons, worth_cons, hc, ih hcs]

theorem worth_add (coins : List Coin) (m n : String → Nat) :
    worth coins (fun name => m name + n name) = worth coins m + worth coins n := by
  induction coins with
  | nil => rfl
  | cons c cs ih =>
    simp only [worth_cons, ih, Nat.add_mul]
    omega

theorem worth_mul (coins : List Coin) (q : Nat) (n : String → Nat) :
    worth coins (fun name => q * n name) = q * worth coins n := by
  induction coins with
  | nil => rfl
  | cons c cs ih => rw [worth_cons, worth_cons, ih, Nat.mul_add, Nat.mul_assoc]

theorem worth_pieces_cons (coins : List Coin) (c : Coin) (cs : List Coin) (amount : Nat) :
    worth coins (fun name => pieces name (c :: cs) amount) =
      amount / c.value * faceValue coins c.name +
        worth coins (fun name => pieces name cs (amount % c.value)) := by
  rw [faceValue, ← worth_mul, ← worth_add]
  refine worth_congr fun d _ => ?_
  rw [pieces]
  split <;> simp

theorem value_le_faceValue (hc : c ∈ coins) : c.value ≤ faceValue coins c.name := by
  induction coins with
  | nil => simp at hc
  | cons d ds ih =>
    rw [faceValue_cons]
    rcases List.mem_cons.mp hc with rfl | hc
    · simp
    · have hle := ih hc
      omega

theorem faceValue_eq_zero_iff (hworth : ∀ c ∈ coins, 0 < c.value) :
    faceValue coins name = 0 ↔ name ∉ coins.map (·.name) := by
  induction coins with
  | nil => simp [faceValue, worth]
  | cons c cs ih =>
    obtain ⟨hc, hcs⟩ := List.forall_mem_cons.mp hworth
    rw [faceValue_cons, Nat.add_eq_zero_iff, ih hcs]
    by_cases hname : c.name = name
    · simp [hname, Nat.ne_of_gt hc]
    · simp [hname, Ne.symm hname]

/-- One piece counts for more than its coin if and only if another coin has its name. -/
theorem faceValue_eq_value_iff (hworth : ∀ c ∈ coins, 0 < c.value) (hc : c ∈ coins) :
    faceValue coins c.name = c.value ↔ (coins.map (·.name)).count c.name = 1 := by
  induction coins with
  | nil => simp at hc
  | cons d ds ih =>
    obtain ⟨hd, hds⟩ := List.forall_mem_cons.mp hworth
    rw [faceValue_cons, List.map_cons, List.count_cons]
    rcases List.mem_cons.mp hc with rfl | hc
    · simp [faceValue_eq_zero_iff hds, List.count_eq_zero]
    · by_cases hname : d.name = c.name
      · have hle := value_le_faceValue hc
        have hpos : 0 < (ds.map (·.name)).count c.name :=
          List.count_pos_iff.mpr (List.mem_map_of_mem hc)
        simp only [hname, if_true, beq_self_eq_true]
        omega
      · simp [hname, ih hds hc]

theorem le_worth_pieces (hsub : ∀ c ∈ cs, c ∈ coins) (amount : Nat) :
    amount ≤ worth coins (fun name => pieces name cs amount) + leftOver cs amount := by
  induction cs generalizing amount with
  | nil => exact Nat.le_add_left _ _
  | cons c cs ih =>
    obtain ⟨hc, hcs⟩ := List.forall_mem_cons.mp hsub
    have hrest := ih hcs (amount % c.value)
    have hquot : amount / c.value * c.value ≤ amount / c.value * faceValue coins c.name :=
      Nat.mul_le_mul_left _ (value_le_faceValue hc)
    have hsplit : amount / c.value * c.value + amount % c.value = amount :=
      Nat.div_add_mod' amount c.value
    rw [worth_pieces_cons, leftOver_cons]
    omega

/-- It is worth exactly the amount if and only if every name that is given stands for one coin. -/
theorem worth_pieces_eq_iff (hworth : ∀ c ∈ coins, 0 < c.value) (hsub : ∀ c ∈ cs, c ∈ coins)
    (amount : Nat) :
    worth coins (fun name => pieces name cs amount) + leftOver cs amount = amount ↔
      ∀ name, 0 < pieces name cs amount → (coins.map (·.name)).count name = 1 := by
  induction cs generalizing amount with
  | nil => simp [pieces, leftOver, worth_zero]
  | cons c cs ih =>
    obtain ⟨hc, hcs⟩ := List.forall_mem_cons.mp hsub
    have hrest := le_worth_pieces hcs (amount % c.value)
    have hquot : amount / c.value * c.value ≤ amount / c.value * faceValue coins c.name :=
      Nat.mul_le_mul_left _ (value_le_faceValue hc)
    have hsplit : amount / c.value * c.value + amount % c.value = amount :=
      Nat.div_add_mod' amount c.value
    have hboth : worth coins (fun name => pieces name (c :: cs) amount) +
          leftOver (c :: cs) amount = amount ↔
        amount / c.value * faceValue coins c.name = amount / c.value * c.value ∧
        worth coins (fun name => pieces name cs (amount % c.value)) +
          leftOver cs (amount % c.value) = amount % c.value := by
      rw [worth_pieces_cons, leftOver_cons]
      omega
    have hfirst : amount / c.value * faceValue coins c.name = amount / c.value * c.value ↔
        (0 < amount / c.value → (coins.map (·.name)).count c.name = 1) := by
      rw [← faceValue_eq_value_iff hworth hc]
      rcases Nat.eq_zero_or_pos (amount / c.value) with hzero | hpos
      · simp [hzero]
      · rw [Nat.mul_right_inj (Nat.ne_of_gt hpos)]
        simp [hpos]
    rw [hboth, hfirst, ih hcs, forall_pieces_cons]

/-- Where no name is used twice, what is given for an amount is worth the amount. -/
theorem worth_pieces_of_nodup (hworth : ∀ c ∈ coins, 0 < c.value)
    (hnames : (coins.map (·.name)).Nodup) (hrest : leftOver coins amount = 0) :
    worth coins (fun name => pieces name coins amount) = amount := by
  have hexact := (worth_pieces_eq_iff hworth (fun _ hc => hc) amount).mpr fun name hname => by
    obtain ⟨c, hc, rfl⟩ := exists_coin_of_pieces_pos hname
    exact List.count_eq_one_of_mem hnames (List.mem_map_of_mem hc)
  omega

end Colloquy.World

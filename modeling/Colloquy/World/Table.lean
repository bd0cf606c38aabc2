import Colloquy.Ident.Entity

/-!
# Colloquy.World.Table

Tables with one cell per owner and key, as functions. Writing a cell leaves every other cell as it
was.
-/

namespace Colloquy

abbrev Table (κ υ : Type) :=
  Ident → κ → υ

namespace Table

variable {κ υ : Type} [DecidableEq κ]

def put (t : Table κ υ) (owner : Ident) (key : κ) (v : υ) : Table κ υ :=
  fun o k => if o = owner ∧ k = key then v else t o k

@[simp] theorem put_same (t : Table κ υ) (owner : Ident) (key : κ) (v : υ) :
    t.put owner key v owner key = v := by
  simp [put]

theorem put_other (t : Table κ υ) {owner o : Ident} {key k : κ} (v : υ)
    (h : ¬(o = owner ∧ k = key)) : t.put owner key v o k = t o k := by
  simp [put, h]

/-- A row after a write depends on that row only. -/
theorem put_congr {t t' : Table κ υ} {o : Ident} (h : t' o = t o) (owner : Ident) (key : κ) (v : υ) :
    t'.put owner key v o = t.put owner key v o := by
  funext k
  simp only [put, h]

@[simp] theorem put_self (t : Table κ υ) (owner : Ident) (key : κ) :
    t.put owner key (t owner key) = t := by
  funext o k
  unfold put
  split
  · rename_i h
    rw [h.1, h.2]
  · rfl

@[simp] theorem put_put (t : Table κ υ) (owner : Ident) (key : κ) (v w : υ) :
    (t.put owner key v).put owner key w = t.put owner key w := by
  funext o k
  unfold put
  split <;> rfl

end Table

end Colloquy

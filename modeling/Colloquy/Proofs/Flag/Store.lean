import Colloquy.Flag.Store
import Colloquy.Proofs.Flag.Packed

/-!
# Colloquy.Proofs.Flag.Store

Writing and reading the flags of an actor at a place. What was stored before may be any text: it is
read as a list of flags that survives packing, so a write is never lost in it.
-/

namespace Colloquy.Flag.Store

variable {s : Store} {w w' : World} {actor : Ident} {place : String}

theorem value_read (name : String) :
    (s.read w actor place name).value = get name (decode (s.packed w actor place)) := rfl

theorem value_read_congr (h : w'.keys = w.keys) (name : String) :
    (s.read w' actor place name).value = (s.read w actor place name).value := by
  rw [value_read, value_read, packed, packed, h]

def stored (s : Store) (w : World) (actor : Ident) (place name value : String) : World :=
  w.writeKey actor (s.key place) (encode (set name value (decode (s.packed w actor place))))
    s.persist

theorem value_write (name : Name) (value : String) :
    (s.write w actor place name value).value =
      if value = wildcard then .ok () w
      else if hasSeparator value = true then .error value w
      else .ok () (s.stored w actor place name.text value) := by
  unfold write
  split
  · rfl
  · split
    · rfl
    · rfl

theorem key_inj {p q : String} : s.key p = s.key q ↔ p = q :=
  String.append_right_inj s.keyPrefix

theorem packed_stored_of_ne {name value : String} {other : Ident} {elsewhere : String}
    (h : ¬(other = actor ∧ elsewhere = place)) :
    s.packed (s.stored w actor place name value) other elsewhere = s.packed w other elsewhere := by
  have hcell : ¬(other = actor ∧ s.key elsewhere = s.key place) := by rwa [key_inj]
  simp only [packed, stored, World.writeKey, Table.put_other _ _ hcell]

theorem decode_packed_stored {name value : String} (hname : isName name = true)
    (hvalue : hasSeparator value = false) :
    decode (s.packed (s.stored w actor place name value) actor place) =
      set name value (decode (s.packed w actor place)) := by
  have hpacked : s.packed (s.stored w actor place name value) actor place =
      encode (set name value (decode (s.packed w actor place))) := by
    simp [packed, stored, World.writeKey]
  rw [hpacked]
  exact decode_encode (isNormal_set (isNormal_decode _) (not_hasSeparator_of_isName hname)
    (hasSeparator_eq_false_iff.mp hvalue).2)

theorem exists_write (s : Store) (w : World) (actor : Ident) (place : String) (name : Name)
    {value : String} (hvalue : hasSeparator value = false) :
    ∃ w', (s.write w actor place name value).value = .ok () w' := by
  rw [value_write]
  split
  · exact ⟨_, rfl⟩
  · rw [if_neg (by rw [hvalue]; exact Bool.false_ne_true)]
    exact ⟨_, rfl⟩

/-- After a write the flag reads as the new value, unless that is the wildcard, and every other flag
as before. -/
theorem read_of_write {name : Name} {value : String}
    (h : (s.write w actor place name value).value = .ok () w') (other : String) :
    (s.read w' actor place other).value =
      if value ≠ wildcard ∧ name.text = other then value
      else (s.read w actor place other).value := by
  rw [value_write] at h
  split at h
  · rename_i hwild
    cases h
    rw [if_neg fun hboth => hboth.1 hwild]
  · rename_i hwild
    split at h
    · cases h
    · rename_i hsep
      cases h
      have hplain : hasSeparator value = false := by simpa using hsep
      rw [value_read, decode_packed_stored name.valid hplain, get_set, value_read]
      simp [hwild]

end Colloquy.Flag.Store

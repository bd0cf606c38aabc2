import Colloquy.Flag.Packed
import Colloquy.World.Basic

/-!
# Colloquy.Flag.Store

The flags of an actor at a place, kept by the world as one packed text per actor and place.
-/

namespace Colloquy.Flag

structure Store where
  keyPrefix : String := "dialog_"
  /-- Ask the world to save every write at once. -/
  persist : Bool := true
  deriving DecidableEq, Repr

namespace Store

/-- The key under which the flags of a place are kept. -/
def key (s : Store) (place : String) : String :=
  s.keyPrefix ++ place

def packed (s : Store) (w : World) (actor : Ident) (place : String) : String :=
  (w.keys actor (s.key place)).getD ""

def flags (s : Store) (w : World) (actor : Ident) (place : String) : Noted Entries :=
  let text := s.packed w actor place
  ⟨decode text, complaints text⟩

def read (s : Store) (w : World) (actor : Ident) (place name : String) : Noted String := do
  let flags ← s.flags w actor place
  return get name flags

/-- Sets a flag. A value that cannot be packed is refused; the wildcard writes nothing. -/
def write (s : Store) (w : World) (actor : Ident) (place : String) (name : Name)
    (value : String) : Noted (Answer String) :=
  if value = wildcard then
    ⟨.ok () w,
      [⟨.trace, "flag '" ++ name.text ++ "' in '" ++ place ++ "' left unchanged (wildcard)"⟩]⟩
  else if hasSeparator value then ⟨.error value w, []⟩
  else do
    let flags ← s.flags w actor place
    return .ok () (w.writeKey actor (s.key place) (encode (set name.text value flags)) s.persist)

end Store

end Colloquy.Flag

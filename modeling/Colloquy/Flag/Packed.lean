import Colloquy.Flag.Name
import Colloquy.Note
import Colloquy.Text.Split

/-!
# Colloquy.Flag.Packed

The flags of one conversation packed into one text: `name:value;name:value`.

* `decode`     — the flags of a text, each name at the place of its first and with the value of its
  last occurrence. Pieces without a name are passed over.
* `complaints` — the notes about those pieces.
* `encode`     — the text of a list of flags.
* `get`, `set` — the view of such a list as a table with the default `unset`.
-/

namespace Colloquy.Flag

open Text

abbrev Entries := List (String × String)

/-- Overwrites the flag where it stands, or appends it. -/
def set (name value : String) : Entries → Entries
  | [] => [(name, value)]
  | (n, v) :: rest => if n = name then (n, value) :: rest else (n, v) :: set name value rest

def get (name : String) : Entries → String
  | [] => unset
  | (n, v) :: rest => if n = name then v else get name rest

/-- The pieces between entry separators, empty ones left out. -/
def pieces (packed : String) : List (List Char) :=
  (splitBy (· == entrySeparator) packed.toList).filter fun w => !w.isEmpty

/-- Name and value of a piece: what stands before and after its first value separator. -/
def readPiece? (w : List Char) : Option (String × String) :=
  (cutAt (· == valueSeparator) w).map fun (a, b) => (String.ofList a, String.ofList b)

def addPiece (flags : Entries) (w : List Char) : Entries :=
  match readPiece? w with
  | some (name, value) => set name value flags
  | none => flags

def decode (packed : String) : Entries :=
  (pieces packed).foldl addPiece []

def complaint (w : List Char) : Note :=
  ⟨.warn, "skipping malformed flag entry '" ++ String.ofList w ++ "'"⟩

def complaints (packed : String) : List Note :=
  ((pieces packed).filter fun w => (readPiece? w).isNone).map complaint

def encode (flags : Entries) : String :=
  join ";" (flags.map fun (name, value) => name ++ ":" ++ value)

theorem get_set (name value other : String) (flags : Entries) :
    get other (set name value flags) = if name = other then value else get other flags := by
  induction flags with
  | nil => simp [set, get]
  | cons f rest ih =>
    obtain ⟨n, v⟩ := f
    by_cases h : n = name
    · subst h
      by_cases h' : n = other <;> simp [set, get, h']
    · by_cases h' : n = other
      · subst h'
        simp [set, get, h, Ne.symm h]
      · simp [set, get, h, h', ih]

end Colloquy.Flag

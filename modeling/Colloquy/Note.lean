/-!
# Colloquy.Note

Log lines, and values that come with the lines written while they were found.

`Noted α` is a value with its notes, oldest first. Binding two of them appends their notes, so a
result can be read off without its notes (`value_bind`) and the notes without the result
(`notes_bind`).
-/

namespace Colloquy

/-- How much a log line matters, the most severe first. -/
inductive Severity where
  | error
  | warn
  | info
  | debug
  | trace
  deriving DecidableEq, Repr

namespace Severity

def rank : Severity → Nat
  | .error => 0
  | .warn => 1
  | .info => 2
  | .debug => 3
  | .trace => 4

/-- Is a line of this severity kept when the log is cut at `limit`? -/
def within (limit s : Severity) : Bool :=
  s.rank ≤ limit.rank

def label : Severity → String
  | .error => "ERROR"
  | .warn => "WARN"
  | .info => "INFO"
  | .debug => "DEBUG"
  | .trace => "TRACE"

end Severity

structure Note where
  severity : Severity
  text : String
  deriving DecidableEq, Repr

/-- A value and the notes taken while finding it. -/
structure Noted (α : Type) where
  value : α
  notes : List Note := []

namespace Noted

variable {α β : Type}

def bind (x : Noted α) (f : α → Noted β) : Noted β :=
  ⟨(f x.value).value, x.notes ++ (f x.value).notes⟩

instance : Monad Noted where
  pure a := ⟨a, []⟩
  bind := bind

/-- Takes one note. -/
def line (severity : Severity) (text : String) : Noted Unit :=
  ⟨(), [⟨severity, text⟩]⟩

@[simp] theorem value_pure (a : α) : (pure a : Noted α).value = a := rfl

@[simp] theorem notes_pure (a : α) : (pure a : Noted α).notes = [] := rfl

@[simp] theorem value_bind (x : Noted α) (f : α → Noted β) :
    (x >>= f).value = (f x.value).value := rfl

@[simp] theorem notes_bind (x : Noted α) (f : α → Noted β) :
    (x >>= f).notes = x.notes ++ (f x.value).notes := rfl

end Noted

end Colloquy

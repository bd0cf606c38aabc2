import Colloquy.Toml.Lexeme
import Colloquy.Toml.Value

/-!
# Colloquy.Toml.Reader

Reading TOML text: values, statements, and the tables that the statements build.

A dotted key may only go through tables that dotted keys or longer headers made; a header may only
open a table that longer headers made before it. Whatever is written twice is refused.
-/

namespace Colloquy.Toml

/-! ### Tables under construction -/

/-- A part of a document under construction. A table is `implicit` when no header opened it, and
`dotted` when a dotted key made it. -/
inductive Node where
  | value (v : Toml)
  | table (implicit dotted : Bool) (fields : List (String × Node))
  | tables (items : List (List (String × Node)))

abbrev Fields := List (String × Node)

mutual

def Node.finish : Node → Toml
  | .value v => v
  | .table _ _ fields => .table (finishFields fields)
  | .tables items => .array (finishItems items)

def finishFields : List (String × Node) → List (String × Toml)
  | [] => []
  | (name, n) :: rest => (name, n.finish) :: finishFields rest

def finishItems : List (List (String × Node)) → List Toml
  | [] => []
  | fields :: rest => .table (finishFields fields) :: finishItems rest

end

def find? (name : String) (fields : Fields) : Option Node :=
  (fields.find? fun f => f.1 == name).map (·.2)

/-- Writes a field in place of one of the same name, or at the end. -/
def assign (name : String) (n : Node) : Fields → Fields
  | [] => [(name, n)]
  | f :: rest => if f.1 = name then (name, n) :: rest else f :: assign name n rest

def remove (name : String) (fields : Fields) : Fields :=
  fields.filter fun f => f.1 != name

/-- Changes the last table of an array. -/
def mapLast (f : Fields → Option Fields) : List Fields → Option (List Fields)
  | [] => none
  | [t] => (f t).map ([·])
  | t :: ts => (mapLast f ts).map (t :: ·)

def addDotted (key : String) (v : Toml) : (path : List String) → (inDotted : Bool) → Fields →
    Option Fields
  | [], inDotted, fields =>
    if inDotted && (find? key fields).isNone then some (fields ++ [(key, .value v)]) else none
  | p :: ps, _, fields =>
    match find? p fields with
    | none => do
      let sub ← addDotted key v ps true []
      some (fields ++ [(p, .table true true sub)])
    | some (.table true dotted sub) => do
      let sub ← addDotted key v ps dotted sub
      some (assign p (.table true dotted sub) fields)
    | some (.tables items) => do
      let items ← mapLast (addDotted key v ps false) items
      some (assign p (.tables items) fields)
    | some _ => none

/-- Adds a value to a table that is not itself made by a dotted key. -/
def addPair (fields : Fields) (path : List String) (key : String) (v : Toml) : Option Fields :=
  addDotted key v path path.isEmpty fields

/-- Changes the table at the end of a header's path, making the tables on the way. -/
def descend (f : Fields → Option Fields) : (path : List String) → Fields → Option Fields
  | [], fields => f fields
  | p :: ps, fields =>
    match find? p fields with
    | none => do
      let sub ← descend f ps []
      some (fields ++ [(p, .table true false sub)])
    | some (.table implicit dotted sub) => do
      let sub ← descend f ps sub
      some (assign p (.table implicit dotted sub) fields)
    | some (.tables items) => do
      let items ← mapLast (descend f ps) items
      some (assign p (.tables items) fields)
    | some (.value _) => none

/-! ### Values -/

def items? (value? : Reader Toml) : (bound : Nat) → Reader (List Toml)
  | 0, _ => none
  | bound + 1, s => do
    let s ← skipLines (s.length + 1) s
    match s with
    | ']' :: rest => some ([], rest)
    | s => do
      let (v, r) ← value? s
      let r ← skipLines (r.length + 1) r
      match r with
      | ']' :: rest => some ([v], rest)
      | ',' :: r => do
        let (vs, rest) ← items? value? bound r
        some (v :: vs, rest)
      | _ => none

def pair? (value? : Reader Toml) (s : List Char) :
    Option ((List String × String × Toml) × List Char) := do
  let ((path, key), r) ← keyPath? s
  match r with
  | '=' :: r => do
    let (v, rest) ← value? (skipSpaces r)
    some ((path, key, v), rest)
  | _ => none

/-- The fields of an inline table up to its closing brace. -/
def inlineFields? (value? : Reader Toml) : (bound : Nat) → Fields → Reader Fields
  | 0, _, _ => none
  | bound + 1, fields, s => do
    let ((path, key, v), r) ← pair? value? s
    let fields ← addPair fields path key v
    match skipSpaces r with
    | '\x7d' :: rest => some (fields, rest)
    | ',' :: r => inlineFields? value? bound fields r
    | _ => none

def inlineTable? (value? : Reader Toml) (s : List Char) : Option (Toml × List Char) :=
  match skipSpaces s with
  | '\x7d' :: rest => some (.table [], rest)
  | s => (inlineFields? value? (s.length + 1) [] s).map fun (fields, rest) =>
      (.table (finishFields fields), rest)

def Number.value : Number → Toml
  | .integer n => .integer n
  | .real => .real

def scalar? (s : List Char) : Option (Toml × List Char) :=
  match dateTime? s with
  | some found => found.map fun rest => (.time, rest)
  | none => (number? s).map fun (n, rest) => (n.value, rest)

def value? : (depth : Nat) → Reader Toml
  | 0, '[' :: _ => none
  | 0, '\x7b' :: _ => none
  | depth + 1, '[' :: r => (items? (value? depth) (r.length + 1) r).map fun (vs, rest) =>
      (.array vs, rest)
  | depth + 1, '\x7b' :: r => inlineTable? (value? depth) r
  | _, 't' :: 'r' :: 'u' :: 'e' :: r => some (.bool true, r)
  | _, 'f' :: 'a' :: 'l' :: 's' :: 'e' :: r => some (.bool false, r)
  | _, '"' :: r => (string? ('"' :: r)).map fun (t, rest) => (.text t, rest)
  | _, '\'' :: r => (string? ('\'' :: r)).map fun (t, rest) => (.text t, rest)
  | _, s => scalar? s

/-! ### Statements -/

inductive Statement where
  | pair (path : List String) (key : String) (v : Toml)
  | header (path : List String) (key : String)
  | arrayHeader (path : List String) (key : String)

/-- The path of a header, followed by its closing brackets. -/
def headerPath? (brackets : Nat) (s : List Char) :
    Option ((List String × String) × List Char) := do
  let (path, r) ← keyPath? s
  if r.take brackets = List.replicate brackets ']' then some (path, r.drop brackets) else none

def statement? : Reader Statement
  | '[' :: '[' :: r => (headerPath? 2 r).map fun ((path, key), rest) => (.arrayHeader path key, rest)
  | '[' :: r => (headerPath? 1 r).map fun ((path, key), rest) => (.header path key, rest)
  | s => (pair? (value? depthLimit) s).map fun ((path, key, v), rest) => (.pair path key v, rest)

/-- The statements of a text, each on its own line. -/
def statements? : (bound : Nat) → List Char → Option (List Statement)
  | 0, _ => none
  | bound + 1, s =>
    match skipSpaces s with
    | [] => some []
    | '#' :: r => (lineEnd? ('#' :: r)).bind (statements? bound)
    | s =>
      match newline? s with
      | some r => statements? bound r
      | none => do
        let (st, r) ← statement? s
        let r ← lineEnd? r
        let sts ← statements? bound r
        some (st :: sts)

/-! ### Documents -/

/-- A document under construction: the finished part, and the table that pairs go into. -/
structure Layout where
  root : Fields
  path : List String
  /-- The key of the open table; none stands for the top of the document. -/
  key : Option String
  isArray : Bool
  fields : Fields

def pushTable (key : String) (fields : Fields) (parent : Fields) : Option Fields :=
  match find? key parent with
  | none => some (parent ++ [(key, .tables [fields])])
  | some (.tables items) => some (assign key (.tables (items ++ [fields])) parent)
  | some _ => none

/-- Puts a finished table in its place, where at most a table made by longer headers may be. -/
def placeTable (key : String) (fields : Fields) (parent : Fields) : Option Fields :=
  match find? key parent with
  | none => some (parent ++ [(key, .table false false fields)])
  | some (.table true _ _) => some (assign key (.table false false fields) parent)
  | some _ => none

def Layout.close (l : Layout) : Option Fields :=
  match l.key with
  | none => some l.fields
  | some key =>
    if l.isArray then descend (pushTable key l.fields) l.path l.root
    else descend (placeTable key l.fields) l.path l.root

/-- The fields that a header finds in its table: those that longer headers put there. -/
def openable? (key : String) (parent : Fields) : Option Fields :=
  match find? key parent with
  | none => some []
  | some (.table true false fields) => some fields
  | some _ => none

def lookup? : (path : List String) → Fields → Option Fields
  | [], fields => some fields
  | p :: ps, fields =>
    match find? p fields with
    | none => some []
    | some (.table _ _ sub) => lookup? ps sub
    | some (.tables items) => items.getLast?.bind (lookup? ps)
    | some (.value _) => none

/-- May a header open an array of tables here? -/
def openArray (key : String) (parent : Fields) : Option Fields :=
  match find? key parent with
  | none => some (parent ++ [(key, .tables [])])
  | some (.tables _) => some parent
  | some _ => none

def Layout.step (l : Layout) : Statement → Option Layout
  | .pair path key v => do
    let fields ← addPair l.fields path key v
    some { l with fields := fields }
  | .header path key => do
    let root ← l.close
    let parent ← lookup? path root
    let fields ← openable? key parent
    let root ← descend (fun parent => some (remove key parent)) path root
    some ⟨root, path, some key, false, fields⟩
  | .arrayHeader path key => do
    let root ← l.close
    let root ← descend (openArray key) path root
    some ⟨root, path, some key, true, []⟩

/-- The top table of a document. A byte order mark in front of it is passed over. -/
def read? (s : String) : Option (List (String × Toml)) := do
  let cs := match s.toList with
    | '\ufeff' :: r => r
    | cs => cs
  let sts ← statements? (cs.length + 1) cs
  let l ← sts.foldlM Layout.step ⟨[], [], none, false, []⟩
  let root ← l.close
  some (finishFields root)

end Colloquy.Toml

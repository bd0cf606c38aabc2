import Colloquy.Ident.Sha1
import Colloquy.Numeral.Digit

/-!
# Colloquy.Ident.Entity

Identifiers of 128 bits, and the participants they identify.

* `Ident.ofName`  — the identifier of a name within a namespace, the same on every run.
* `Entity.named`  — the participant known only by a name.
-/

namespace Colloquy

structure Ident where
  bits : BitVec 128
  deriving DecidableEq, Repr

namespace Ident

def ofNat (n : Nat) : Ident :=
  ⟨BitVec.ofNat 128 n⟩

def bytes (id : Ident) : List UInt8 :=
  Sha1.bigEndian 16 id.bits.toNat

/-- Writes the version and the variant into their places. -/
def stamped (version : Nat) (n : Nat) : Ident :=
  let keep : BitVec 128 := 0xFFFFFFFFFFFF0FFF3FFFFFFFFFFFFFFF#128
  let marks : BitVec 128 := BitVec.ofNat 128 (version <<< 76) ||| 0x8000000000000000#128
  ⟨(BitVec.ofNat 128 n &&& keep) ||| marks⟩

def version (id : Ident) : Nat :=
  (id.bits.toNat >>> 76) % 16

/-- The first 128 bits of the hash of namespace and name, stamped as version five. -/
def ofName (space : Ident) (name : String) : Ident :=
  stamped 5 (Sha1.hash (space.bytes ++ name.toUTF8.toList) >>> 32)

/-- The 32 hexadecimal digits in groups of eight, four, four, four and twelve. -/
def text (id : Ident) : String :=
  let ds := id.bits.toHex.toList
  String.ofList (ds.take 8 ++ '-' :: (ds.drop 8).take 4 ++ '-' :: (ds.drop 12).take 4
    ++ '-' :: (ds.drop 16).take 4 ++ '-' :: ds.drop 20)

/-- Reads 32 hexadecimal digits of either case; hyphens between them are passed over. -/
def read? (s : String) : Option Ident :=
  let ds := s.toList.filter (· ≠ '-')
  if ds.length ≠ 32 then none
  else (ds.mapM Numeral.hexDigit?).map fun vs => ofNat (Numeral.digitsValue 16 vs)

end Ident

structure Entity where
  id : Ident
  name : String
  deriving DecidableEq, Repr

namespace Entity

def namespaceId : Ident :=
  ⟨0x5f0c2a6e8d0b4b559a3e2f6f1c4d7b90#128⟩

def named (name : String) : Entity :=
  ⟨.ofName namespaceId name, name⟩

/-- A participant created while the game runs. Its identifier is made from random bits and stamped
as version four. -/
def spawned (random : Nat) (name : String) : Entity :=
  ⟨.stamped 4 random, name⟩

end Entity

end Colloquy

import UtxoCodec.Derivation

/-!
# Remembered derivations

Each derivation has a bounded map from its input to its result. A full map gives up an arbitrary entry
for the next one: the caller says which, by a number that is taken modulo the size, so that statements
hold for every choice. Failed derivations are not remembered, and a capacity of zero remembers
nothing.
-/

namespace UtxoCodec

/-- A map of at most `capacity` entries, most recent first. -/
structure BoundedMap (κ ν : Type) where
  capacity : Nat
  entries : List (κ × ν)

namespace BoundedMap

variable {κ ν ε : Type} [DecidableEq κ]

/-- A map without entries. -/
def empty (capacity : Nat) : BoundedMap κ ν := ⟨capacity, []⟩

/-- The number of entries. -/
def size (m : BoundedMap κ ν) : Nat := m.entries.length

/-- The value of a key. -/
def find? (m : BoundedMap κ ν) (key : κ) : Option ν :=
  (m.entries.find? fun entry => entry.1 = key).map Prod.snd

/-- The entries with room for one more: if the map is full, one is given up. -/
def makeRoom (m : BoundedMap κ ν) (choice : Nat) : List (κ × ν) :=
  if m.capacity ≤ m.entries.length then m.entries.eraseIdx (choice % m.entries.length)
  else m.entries

/-- Adds an entry for a key that has none. -/
def insertNew (m : BoundedMap κ ν) (choice : Nat) (key : κ) (value : ν) : BoundedMap κ ν :=
  if m.capacity = 0 then m else ⟨m.capacity, (key, value) :: m.makeRoom choice⟩

/-- The value of a key, derived and remembered if there is none. -/
def getOrDerive (m : BoundedMap κ ν) (choice : Nat) (key : κ) (derive : Unit → Except ε ν) :
    Except ε ν × BoundedMap κ ν :=
  match m.find? key with
  | some value => (.ok value, m)
  | none => match derive () with
    | .ok value => (.ok value, m.insertNew choice key value)
    | .error e => (.error e, m)

end BoundedMap

/-- The derivations remembered, each with a map of its own. -/
structure DerivationCache where
  aliasIds : BoundedMap OutputId AliasId
  nftIds : BoundedMap OutputId NftId
  foundryIds : BoundedMap Bytes FoundryId

namespace DerivationCache

/-- The capacity where none is given. -/
def defaultCapacity : Nat := 4096

/-- A cache that remembers up to `capacity` results of each derivation. -/
def empty (capacity : Nat) : DerivationCache := ⟨.empty capacity, .empty capacity, .empty capacity⟩

/-- The number of results remembered. -/
def size (c : DerivationCache) : Nat := c.aliasIds.size + c.nftIds.size + c.foundryIds.size

/-- Whether nothing is remembered. -/
def isEmpty (c : DerivationCache) : Bool := c.size == 0

/-- The alias that begins with an output. -/
def aliasId (c : DerivationCache) (choice : Nat) (id : OutputId) : AliasId × DerivationCache :=
  match c.aliasIds.getOrDerive choice id fun _ => (.ok (deriveAliasId id) : Except Empty _) with
  | (.ok value, m) => (value, { c with aliasIds := m })
  | (.error e, _) => nomatch e

/-- The NFT that begins with an output. -/
def nftId (c : DerivationCache) (choice : Nat) (id : OutputId) : NftId × DerivationCache :=
  match c.nftIds.getOrDerive choice id fun _ => (.ok (deriveNftId id) : Except Empty _) with
  | (.ok value, m) => (value, { c with nftIds := m })
  | (.error e, _) => nomatch e

/-- The key of a foundry derivation: packed address, serial number and kind of the token scheme. -/
def foundryKey (address : Address) (serialNumber : UInt32) (tokenSchemeKind : UInt8) : Bytes :=
  pack address ++ Bytes.littleEndian 4 serialNumber.toNat ++ [tokenSchemeKind]

/-- The foundry with a serial number that an address controls. The serial number is checked before the
map is asked. -/
def foundryId (c : DerivationCache) (choice : Nat) (address : Address) (serialNumber : UInt64)
    (tokenSchemeKind : UInt8) : Except InputError FoundryId × DerivationCache :=
  match narrowSerialNumber serialNumber with
  | .error e => (.error e, c)
  | .ok narrow =>
    let (result, m) :=
      c.foundryIds.getOrDerive choice (foundryKey address narrow tokenSchemeKind) fun _ =>
        deriveFoundryId address serialNumber tokenSchemeKind
    (result, { c with foundryIds := m })

end DerivationCache

end UtxoCodec

import UserDirectory.Unicode.Table
import UserDirectory.Unicode.Normal
import UserDirectory.Domain.MappingData

/-!
# Compatibility mapping of domain names

The mapping step of Unicode Technical Standard 46, nontransitional and without the STD3 rules:
a valid character or a deviation stays, a mapped character is replaced by its mapping, an ignored
one is dropped and a disallowed one makes the name unusable. The result is brought into
Normalization Form C. A name of more than 1024 characters is refused before any mapping.
-/

namespace UserDirectory.Domain

open UserDirectory.Unicode

/-- The rows of the mapping table: row `i` starts at `starts[i]`. -/
structure MappingTable where
  starts : Array Nat
  statuses : Array MappingStatus

def mappingTable : MappingTable := ⟨mappingStarts, mappingStatuses⟩

def mappingStatus (n : Nat) : MappingStatus :=
  match countAtMost mappingTable.starts n 0 mappingTable.starts.size with
  | 0 => .disallowed
  | k + 1 => mappingTable.statuses.getD k .disallowed

def mapChar? (c : Char) : Option (List Char) :=
  match mappingStatus c.toNat with
  | .valid | .deviation => some [c]
  | .ignored => some []
  | .mapped image => some (image.map Char.ofNat)
  | .disallowed => none

/-- The mapped and normalized form of a domain name, or `none` when a character is disallowed or
the name is longer than 1024 characters. -/
def remap? (cs : List Char) : Option (List Char) :=
  if 1024 < cs.length then none
  else (cs.mapM mapChar?).map fun parts => nfcList parts.flatten

end UserDirectory.Domain

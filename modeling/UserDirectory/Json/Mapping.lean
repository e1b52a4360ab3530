import UserDirectory.Json.Show

/-!
# Values as mappings

A mapping is built from a value the way a dictionary is built from an object or from a sequence of
pairs. An object is its own members. A string (its code points, as one-character strings), a list
(its items) and an object (its keys) are sequences; any other value is none. From a sequence,
every entry must itself be a sequence of exactly two elements, a key and a value, and the key must
be a value that can be looked up (no list, no object).

Keys are compared as a dictionary compares them (`Value.sameKey`): strings by their code points,
null only with null, and numbers by value, a flag counting as 0 or 1, so `1`, `true` and `1.0` are
one key, while the string `"1"` is another. NaN is no key's equal. A key that comes again keeps
its first place and its first spelling, and takes the last value. The members of the mapping are
named as JSON names them: a string key is itself, any other key is written as in JSON, so two
members of a mapping can share a name.
-/

namespace UserDirectory.Json

/-- Why a value cannot be made a mapping. -/
inductive MappingError where
  /-- the value is no sequence, by the name of its kind -/
  | notIterable (kind : String)
  /-- the entry at an index is no sequence -/
  | entryNotSequence (index : Nat)
  /-- the entry at an index does not have two elements -/
  | entryLength (index length : Nat)
  /-- a key that cannot be looked up, by the name of its kind -/
  | unhashable (kind : String)
  deriving DecidableEq, Repr

def MappingError.message : MappingError → String
  | .notIterable k => "'" ++ k ++ "' object is not iterable"
  | .entryNotSequence i =>
    "cannot convert dictionary update sequence element #" ++ toString i ++ " to a sequence"
  | .entryLength i n =>
    "dictionary update sequence element #" ++ toString i ++ " has length " ++ toString n ++
      "; 2 is required"
  | .unhashable k => "unhashable type: '" ++ k ++ "'"

def MappingError.isKindError : MappingError → Bool
  | .entryLength _ _ => false
  | _ => true

namespace Value

def elements? : Value → Option (List Value)
  | .str s => some (s.points.map fun p => .str ⟨[p]⟩)
  | .arr items => some items
  | .obj ms => some (ms.map fun m => .str (Text.ofString m.1))
  | _ => none

def hashable : Value → Bool
  | .arr _ => false
  | .obj _ => false
  | _ => true

def keyNumber? : Value → Option (Int ⊕ Number.Binary64)
  | .bool b => some (.inl (if b then 1 else 0))
  | .int n => some (.inl n)
  | .float x => some (.inr x)
  | _ => none

def sameKey (k k' : Value) : Bool :=
  match k, k' with
  | .str a, .str b => a == b
  | .null, .null => true
  | _, _ =>
    match k.keyNumber?, k'.keyNumber? with
    | some (.inl a), some (.inl b) => a == b
    | some (.inl a), some (.inr y) => y.isInt a
    | some (.inr x), some (.inl b) => x.isInt b
    | some (.inr x), some (.inr y) => x.sameNumber y
    | _, _ => false

/-- The name of a key as a member of an object: a string is itself, any other key is written as
in JSON. -/
def keyName : Value → String
  | .str s => s.toStringLossy
  | v => v.render

/-- Sets the value of a key: a key that is there keeps its place and its spelling, a new key goes
last. -/
def setKey (entries : List (Value × Value)) (k x : Value) : List (Value × Value) :=
  if entries.any (·.1.sameKey k) then entries.map fun e => if e.1.sameKey k then (e.1, x) else e
  else entries ++ [(k, x)]

/-- The entries of the mapping built from a sequence, starting at an index with the entries so
far. -/
def mappingFrom : Nat → List Value → List (Value × Value) →
    Except MappingError (List (Value × Value))
  | _, [], acc => .ok acc
  | i, e :: es, acc =>
    match e.elements? with
    | none => .error (.entryNotSequence i)
    | some [k, x] =>
      if k.hashable then mappingFrom (i + 1) es (setKey acc k x)
      else .error (.unhashable k.kindName)
    | some xs => .error (.entryLength i xs.length)

def toMapping (v : Value) : Except MappingError (List (String × Value)) :=
  match v with
  | .obj ms => .ok ms
  | _ =>
    match v.elements? with
    | none => .error (.notIterable v.kindName)
    | some es => (mappingFrom 0 es []).map (·.map fun e => (e.1.keyName, e.2))

theorem toMapping_obj (ms : List (String × Value)) : (Value.obj ms).toMapping = .ok ms := rfl

end Value

end UserDirectory.Json

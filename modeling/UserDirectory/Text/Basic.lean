import UserDirectory.Text.Blank
import UserDirectory.Text.Infix
import UserDirectory.Unicode.Case

/-!
# Text

The directory takes its strings from JSON, where an escape such as `\ud800` can stand for a
surrogate code point without its partner. Such a string is still a string to the directory: it is
stored, compared, searched and written back as it came. A `Text` is therefore a sequence of code
points: Unicode scalar values, and surrogates (U+D800 to U+DFFF) standing alone. A `String` is a
text without surrogates (`chars?_ofChars`).

* Texts compare by their code points, one after the other (`Text.le`).
* Stripping removes blanks at both ends; a surrogate is no blank.
* Lower-casing treats a surrogate as a character that is neither cased nor case-ignorable: the
  characters between surrogates are lower-cased as runs, and every surrogate stays as it is
  (`lower_ofChars`).
* A text has a UTF-8 form only when it holds no surrogate; `surrogateRun?` finds the first run of
  surrogates, which an encoder refuses.
-/

namespace UserDirectory

open UserDirectory.Text UserDirectory.Unicode

/-- A code point of a text: a Unicode scalar value, or a surrogate standing alone, given by its
distance from U+D800. -/
inductive CodePoint where
  | scalar (c : Char)
  | surrogate (offset : Fin 2048)
  deriving DecidableEq, Repr, Inhabited

namespace CodePoint

def code : CodePoint → Nat
  | scalar c => c.toNat
  | surrogate o => 0xD800 + o.val

def ofNat (n : Nat) : CodePoint :=
  if h : 0xD800 ≤ n ∧ n < 0xE000 then surrogate ⟨n - 0xD800, by omega⟩ else scalar (Char.ofNat n)

def isBlank : CodePoint → Bool
  | scalar c => Text.isBlank c
  | surrogate _ => false

def char? : CodePoint → Option Char
  | scalar c => some c
  | surrogate _ => none

end CodePoint

/-- A text: code points in order, surrogates allowed. -/
structure Text where
  points : List CodePoint
  deriving DecidableEq, Repr, Inhabited

namespace Text

def ofChars (cs : List Char) : Text := ⟨cs.map .scalar⟩

def ofString (s : String) : Text := ofChars s.toList

instance : Coe String Text := ⟨ofString⟩

def chars? (t : Text) : Option (List Char) := t.points.mapM CodePoint.char?

def toString? (t : Text) : Option String := t.chars?.map String.ofList

def toStringLossy (t : Text) : String :=
  String.ofList (t.points.map fun p => (p.char?).getD (Char.ofNat 0xFFFD))

def empty : Text := ⟨[]⟩

def isEmpty (t : Text) : Bool := t.points.isEmpty

def length (t : Text) : Nat := t.points.length

instance : Append Text := ⟨fun a b => ⟨a.points ++ b.points⟩⟩

def strip (t : Text) : Text := ⟨stripBy CodePoint.isBlank t.points⟩

/-- The code points of a lower-cased text; `run` holds the characters since the last surrogate,
reversed. -/
def lowerFrom (run : List Char) : List CodePoint → List CodePoint
  | [] => (lowerList run.reverse).map .scalar
  | .scalar c :: ps => lowerFrom (c :: run) ps
  | .surrogate o :: ps => (lowerList run.reverse).map .scalar ++ .surrogate o :: lowerFrom [] ps

def lower (t : Text) : Text := ⟨lowerFrom [] t.points⟩

def codesLe : List Nat → List Nat → Bool
  | [], _ => true
  | _ :: _, [] => false
  | a :: as, b :: bs => a < b || (a == b && codesLe as bs)

def le (a b : Text) : Bool := codesLe (a.points.map CodePoint.code) (b.points.map CodePoint.code)

def isInfixOf (needle t : Text) : Bool := hasInfix needle.points t.points

def containsChar (t : Text) (c : Char) : Bool := t.points.contains (.scalar c)

def splitOn (t : Text) (c : Char) : List Text :=
  go t.points [] []
where
  /-- `cur` holds the current piece reversed, `acc` the finished pieces reversed. -/
  go : List CodePoint → List CodePoint → List Text → List Text
    | [], cur, acc => (⟨cur.reverse⟩ :: acc).reverse
    | p :: ps, cur, acc =>
      if p = .scalar c then go ps [] (⟨cur.reverse⟩ :: acc) else go ps (p :: cur) acc

/-- The first run of surrogates: where it starts, where it ends and the number of its first
surrogate. -/
def surrogateRun? (t : Text) : Option (Nat × Nat × Nat) :=
  let start := t.points.findIdx (·.char?.isNone)
  match t.points[start]? with
  | none => none
  | some p =>
    let run := (t.points.drop start).takeWhile (·.char?.isNone)
    some (start, start + run.length, p.code)

/-- A text without a UTF-8 form: the run of surrogates from `start` up to `stop`, whose first
code point is `code`. -/
structure Unencodable where
  start : Nat
  stop : Nat
  code : Nat
  deriving DecidableEq, Repr

def utf8? (t : Text) : Except Unencodable String :=
  match t.surrogateRun? with
  | some (a, b, c) => .error ⟨a, b, c⟩
  | none => .ok t.toStringLossy

@[simp] theorem points_ofChars (cs : List Char) : (ofChars cs).points = cs.map .scalar := rfl

@[simp] theorem chars?_ofChars (cs : List Char) : (ofChars cs).chars? = some cs := by
  induction cs with
  | nil => rfl
  | cons c cs ih =>
    simp only [chars?, points_ofChars, List.map_cons, List.mapM_cons] at ih ⊢
    rw [ih]
    rfl

theorem ofChars_injective {a b : List Char} (h : ofChars a = ofChars b) : a = b := by
  have := congrArg chars? h
  simpa using this

@[simp] theorem strip_ofChars (cs : List Char) : (ofChars cs).strip = ofChars (stripList cs) := by
  simp only [strip, stripList, ofChars]
  rw [stripBy_map Text.isBlank CodePoint.isBlank CodePoint.scalar (fun _ => rfl)]

@[simp] theorem isEmpty_ofChars (cs : List Char) : (ofChars cs).isEmpty = cs.isEmpty := by
  cases cs <;> rfl

theorem eq_empty_of_isEmpty {t : Text} (h : t.isEmpty = true) : t = empty := by
  cases t with
  | mk ps => cases ps with
    | nil => rfl
    | cons _ _ => simp [isEmpty] at h

@[simp] theorem isEmpty_empty : empty.isEmpty = true := rfl

@[simp] theorem strip_empty : empty.strip = empty := rfl

@[simp] theorem strip_strip (t : Text) : t.strip.strip = t.strip := by
  simp [strip, stripBy_stripBy]

end Text

end UserDirectory

import UserDirectory.Text.Literal

/-!
# Given values

The directory's operations take their arguments as they arrive from JSON, so a rule that expects
a text may be handed a number, a flag, a list, an object or nothing at all. A `Given` is such an
argument: a text, nothing, or a value of another kind, known by the name of its kind, whether it
counts as present and how it displays. Nothing, `false`, zero, the empty text, the empty list and
the empty object are absent; everything else is present.

The rules read an argument in one of three ways:

* `value or ""`, then a text method: an absent value reads as the empty text, a text as itself,
  and any other present value has no such method (`Given.orEmpty`);
* `str(value or "")`: an absent value reads as the empty text, any other as its display
  (`Given.shownOrEmpty`);
* as a key: texts, numbers, flags and nothing can be looked up; lists and objects cannot
  (`Given.hashable`).

A `Misuse` is what an operation raises when it is applied to a value that does not support it.
-/

namespace UserDirectory

/-- An argument as an operation receives it. -/
inductive Given where
  /-- a text -/
  | text (t : Text)
  /-- nothing at all -/
  | none
  /-- a value of another kind: the name of its kind, whether it is present, and its display -/
  | other (kind : String) (present : Bool) (shown : String)
  deriving DecidableEq, Repr, Inhabited

namespace Given

def ofString (s : String) : Given := text (Text.ofString s)

def present : Given → Bool
  | text t => !t.isEmpty
  | none => false
  | other _ p _ => p

def kind : Given → String
  | text _ => "str"
  | none => "NoneType"
  | other k _ _ => k

def shown : Given → Text
  | text t => t
  | none => Text.ofString "None"
  | other _ _ s => Text.ofString s

/-- How a given value is quoted in a message: a text as its literal, any other value as its
display. -/
def literal : Given → String
  | text t => t.literal
  | none => "None"
  | other _ _ s => s

def shownOrEmpty (g : Given) : Text :=
  if g.present then g.shown else Text.empty

def orEmpty : Given → Except String Text
  | text t => .ok t
  | g => if g.present then .error g.kind else .ok Text.empty

def hashable (g : Given) : Bool :=
  g.kind != "list" && g.kind != "dict"

def text? : Given → Option Text
  | text t => some t
  | _ => Option.none

theorem present_text (t : Text) : (text t).present = !t.isEmpty := rfl

theorem orEmpty_text (t : Text) : (text t).orEmpty = .ok t := rfl

end Given

/-- An operation applied to a value that does not support it. -/
inductive Misuse where
  /-- a method called on a value whose kind has none of that name -/
  | noAttribute (kind name : String)
  /-- a value of the wrong kind -/
  | typeError (message : String)
  /-- a number out of the range an operation takes -/
  | overflow (message : String)
  /-- a text without a UTF-8 form -/
  | unencodable (e : Text.Unencodable)
  deriving DecidableEq, Repr

def Misuse.message : Misuse → String
  | .noAttribute k a => "'" ++ k ++ "' object has no attribute '" ++ a ++ "'"
  | .typeError m => m
  | .overflow m => m
  | .unencodable e => e.message

end UserDirectory

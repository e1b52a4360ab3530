/-!
# Punycode

The Bootstring encoding of RFC 3492 with the Punycode parameters: base 36, thresholds between 1
and 26, skew 38, damping 700, initial bias 72 and initial code point 128.

`encode` writes the basic code points (those below 128) first, then a `-` if there were any, then
for every larger code point, in increasing order of value, the variable-length numbers that say
where it is inserted. `decode?` reads such a text back; it refuses a digit that is not a letter or
a decimal digit, a number cut off at the end, and a code point beyond U+10FFFF.

All loops terminate by a measure: the number that is written shrinks, the text that is read
shrinks, and the code points still to encode shrink.
-/

namespace UserDirectory.Domain

def digitChar (d : Nat) : Char :=
  if d < 26 then Char.ofNat (0x61 + d) else Char.ofNat (0x30 + d - 26)

def digitValue? (c : Char) : Option Nat :=
  let n := c.toNat
  if 0x61 ≤ n ∧ n ≤ 0x7A then some (n - 0x61)
  else if 0x41 ≤ n ∧ n ≤ 0x5A then some (n - 0x41)
  else if 0x30 ≤ n ∧ n ≤ 0x39 then some (n - 0x30 + 26)
  else none

def threshold (k bias : Nat) : Nat :=
  if k ≤ bias then 1 else if bias + 26 ≤ k then 26 else k - bias

theorem one_le_threshold (k bias : Nat) : 1 ≤ threshold k bias := by
  unfold threshold; split <;> (try split) <;> omega

theorem threshold_le (k bias : Nat) : threshold k bias ≤ 26 := by
  unfold threshold; split <;> (try split) <;> omega

def adaptSteps (delta k : Nat) : Nat × Nat :=
  if 455 < delta then adaptSteps (delta / 35) (k + 36) else (delta, k)
termination_by delta
decreasing_by exact Nat.div_lt_self (by omega) (by omega)

def adapt (delta count : Nat) (first : Bool) : Nat :=
  let d0 := if first then delta / 700 else delta / 2
  let d1 := d0 + d0 / count
  let r := adaptSteps d1 0
  r.2 + 36 * r.1 / (r.1 + 38)

def encodeNumber (bias k q : Nat) : List Char :=
  let t := threshold k bias
  if q < t then [digitChar q]
  else digitChar (t + (q - t) % (36 - t)) :: encodeNumber bias (k + 36) ((q - t) / (36 - t))
termination_by q
decreasing_by
  have _h1 := one_le_threshold k bias
  have _h2 := threshold_le k bias
  exact Nat.lt_of_le_of_lt (Nat.div_le_self _ _) (by omega)

/-- Encoder state: digits written, pending delta, bias, code points handled. -/
structure EncodeState where
  out : List Char
  delta : Nat
  bias : Nat
  handled : Nat

def encodeScan (basic m : Nat) (st : EncodeState) (c : Nat) : EncodeState :=
  if c < m then { st with delta := st.delta + 1 }
  else if c = m then
    { out := st.out ++ encodeNumber st.bias 36 st.delta, delta := 0,
      bias := adapt st.delta (st.handled + 1) (st.handled == basic), handled := st.handled + 1 }
  else st

/-- Inserts the code points of the given values, in increasing order; `n` is the last value
inserted plus one. -/
def encodeValues (input : List Nat) (basic : Nat) : List Nat → Nat → EncodeState → EncodeState
  | [], _, st => st
  | m :: rest, n, st =>
    let st1 := { st with delta := st.delta + (m - n) * (st.handled + 1) }
    let st2 := input.foldl (encodeScan basic m) st1
    encodeValues input basic rest (m + 1) { st2 with delta := st2.delta + 1 }

def sortedDistinct (xs : List Nat) : List Nat :=
  (xs.mergeSort (· ≤ ·)).eraseDups

def encode (input : List Nat) : List Char :=
  let basic := (input.filter (· < 0x80)).map Char.ofNat
  let ext := encodeValues input basic.length
    (sortedDistinct (input.filter (0x80 ≤ ·))) 128 ⟨[], 0, 72, basic.length⟩
  basic ++ (if basic.isEmpty then [] else ['-']) ++ ext.out

def decodeNumber (bias : Nat) : List Char → Nat → Nat → Nat → Option (Nat × List Char)
  | [], _, _, _ => none
  | c :: rest, k, w, acc =>
    match digitValue? c with
    | none => none
    | some d =>
      if d < threshold k bias then some (acc + d * w, rest)
      else decodeNumber bias rest (k + 36) (w * (36 - threshold k bias)) (acc + d * w)

theorem decodeNumber_shorter : ∀ (bias : Nat) (cs : List Char) (k w acc : Nat)
    (r : Nat × List Char), decodeNumber bias cs k w acc = some r → r.2.length < cs.length
  | _, [], _, _, _, _, h => by simp [decodeNumber] at h
  | bias, c :: rest, k, w, acc, r, h => by
    rw [decodeNumber] at h
    split at h
    · simp at h
    · split at h
      · rw [← Option.some.inj h]; simp
      · have := decodeNumber_shorter bias rest (k + 36) _ _ r h
        simp; omega

/-- Inserts the code points that the numbers of `ext` describe into `out`. `next` is the insertion
index after the last one, `n` the last code point inserted, `first` whether no number was read
yet. -/
def decodeInto (ext : List Char) (out : List Nat) (next n bias : Nat) (first : Bool) :
    Option (List Nat) :=
  match ext with
  | [] => some out
  | c :: cs =>
    match h : decodeNumber bias (c :: cs) 36 1 0 with
    | none => none
    | some (delta, rest) =>
      have : rest.length < cs.length + 1 := by
        have := decodeNumber_shorter bias (c :: cs) 36 1 0 (delta, rest) h
        simpa using this
      let i := next + delta
      let len := out.length + 1
      let n' := n + i / len
      if 0x10FFFF < n' then none
      else
        let pos := i % len
        let out' := out.take pos ++ n' :: out.drop pos
        decodeInto rest out' (pos + 1) n' (adapt delta out'.length first) false
termination_by ext.length

/-- The code points that a Punycode text encodes: the part before the last `-` is taken as it is,
the part after it read as numbers. -/
def decode? (text : List Char) : Option (List Nat) :=
  let rev := text.reverse
  match rev.findIdx? (· = '-') with
  | none => decodeInto text [] 0 0x80 72 true
  | some j =>
    let cut := text.length - 1 - j
    decodeInto (text.drop (cut + 1)) ((text.take cut).map Char.toNat) 0 0x80 72 true

end UserDirectory.Domain

/-!
# Blank characters and stripping

A *blank* is a character that stripping removes from the ends of a field: the controls
U+0009 to U+000D and U+001C to U+001F, the space, U+0085, U+00A0, U+1680, U+2000 to U+200A,
U+2028, U+2029, U+202F, U+205F and U+3000. These are the characters whose bidirectional class is
whitespace, segment separator or paragraph separator, together with the space separators. The
zero-width space U+200B, the byte order mark U+FEFF and U+180E are not blank.

`stripBy p` removes the elements that satisfy `p` at both ends of a list and keeps the rest, inner
ones included; `stripList` strips the blanks of a list of characters. What stripping leaves starts
and ends with an element that does not satisfy `p`, so stripping twice is stripping once
(`stripBy_stripBy`).
-/

namespace UserDirectory.Text

def isBlank (c : Char) : Bool :=
  let n := c.toNat
  (9 ≤ n && n ≤ 13) || (28 ≤ n && n ≤ 32) || n == 0x85 || n == 0xA0 || n == 0x1680 ||
    (0x2000 ≤ n && n ≤ 0x200A) || n == 0x2028 || n == 0x2029 || n == 0x202F || n == 0x205F ||
    n == 0x3000

def stripBy {α : Type} (p : α → Bool) (xs : List α) : List α :=
  ((xs.dropWhile p).reverse.dropWhile p).reverse

def stripList (cs : List Char) : List Char :=
  stripBy isBlank cs

theorem stripList_nil : stripList [] = [] := rfl

theorem dropWhile_eq_self_of_head {α : Type} {p : α → Bool} {l : List α}
    (h : ∀ c ∈ l.head?, p c = false) : l.dropWhile p = l := by
  cases l with
  | nil => rfl
  | cons a t => simp [h a rfl]

theorem head?_dropWhile_not {α : Type} (p : α → Bool) (l : List α) :
    ∀ c ∈ (l.dropWhile p).head?, p c = false := by
  induction l with
  | nil => simp
  | cons a t ih =>
    by_cases h : p a
    · simpa [List.dropWhile_cons, h] using ih
    · simp_all

theorem head?_stripBy_not {α : Type} (p : α → Bool) (xs : List α) :
    ∀ c ∈ (stripBy p xs).head?, p c = false := by
  intro c hc
  have hpre : stripBy p xs <+: xs.dropWhile p := by
    have := List.dropWhile_suffix p (l := (xs.dropWhile p).reverse)
    simpa [stripBy] using List.reverse_prefix.mpr this
  obtain ⟨t, ht⟩ := hpre
  have hxc : c ∈ (xs.dropWhile p).head? := by
    rw [← ht, List.head?_append, Option.mem_def.mp hc]
    rfl
  exact head?_dropWhile_not p xs c hxc

theorem getLast?_stripBy_not {α : Type} (p : α → Bool) (xs : List α) :
    ∀ c ∈ (stripBy p xs).getLast?, p c = false := by
  unfold stripBy
  rw [List.getLast?_reverse]
  exact head?_dropWhile_not p _

theorem stripBy_of_ends {α : Type} {p : α → Bool} {l : List α}
    (hh : ∀ c ∈ l.head?, p c = false) (hl : ∀ c ∈ l.getLast?, p c = false) :
    stripBy p l = l := by
  have hr : ∀ c ∈ l.reverse.head?, p c = false := by
    rw [List.head?_reverse]
    exact hl
  unfold stripBy
  rw [dropWhile_eq_self_of_head hh, dropWhile_eq_self_of_head hr, List.reverse_reverse]

theorem stripBy_stripBy {α : Type} (p : α → Bool) (xs : List α) :
    stripBy p (stripBy p xs) = stripBy p xs :=
  stripBy_of_ends (head?_stripBy_not p xs) (getLast?_stripBy_not p xs)

theorem stripList_stripList (cs : List Char) : stripList (stripList cs) = stripList cs :=
  stripBy_stripBy isBlank cs

theorem stripBy_map {α β : Type} (p : α → Bool) (q : β → Bool) (f : α → β)
    (h : ∀ a, q (f a) = p a) (xs : List α) : stripBy q (xs.map f) = (stripBy p xs).map f := by
  have hq : q ∘ f = p := funext h
  simp only [stripBy, ← List.map_reverse, List.dropWhile_map, hq]

end UserDirectory.Text

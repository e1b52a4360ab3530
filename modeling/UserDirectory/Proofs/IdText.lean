import Mathlib.Tactic.Ring
import UserDirectory.Account.Field

/-!
# Canonical ids read back

An identifier is written canonically as 32 lower-case hexadecimal digits in groups of 8, 4, 4, 4
and 12 joined by hyphens (`Uuid.text`), and every profile's id is made that way. Reading a user
id from a request (`parseUserId`) accepts much more: `urn:` and `uuid:` tags, braces, hyphens
anywhere, blanks, a sign, a `0x` prefix, underscores between digits. On a canonical text none of
that is there to find, and reading gives the text back (`parseUserId_text`): a profile can always
be named by its own id.

The proof follows `Uuid.ofText`. No removal finds anything in a canonical text, since its
characters are digits and hyphens (`Uuid.text_char`); dropping the hyphens leaves the 32 digits
(`Uuid.digitPart_text`); and reading them as a numeral gives the number back, because they are
the digits of a number below `16 ^ 32` (`Uuid.foldl_digits_eq`).
-/

namespace UserDirectory.Text

theorem stripBy_of_forall {α : Type} {p : α → Bool} {l : List α} (h : ∀ x ∈ l, p x = false) :
    stripBy p l = l := by
  have hl : l.dropWhile p = l :=
    dropWhile_eq_self_of_head fun c hc => h c (List.mem_of_mem_head? hc)
  have hr : l.reverse.dropWhile p = l.reverse :=
    dropWhile_eq_self_of_head fun c hc => h c (List.mem_reverse.mp (List.mem_of_mem_head? hc))
  rw [stripBy, hl, hr, List.reverse_reverse]

end UserDirectory.Text

namespace UserDirectory.Ident

open UserDirectory.Text

/-! ## Hexadecimal digits -/

/-- A hexadecimal digit, in upper case or in lower case. -/
def digitChar (upper : Bool) (d : Nat) : Char :=
  if upper then (hexDigit d).toUpper else hexDigit d

theorem digitChar_facts : ∀ upper : Bool, ∀ d < 16,
    hexValue? (digitChar upper d) = some d ∧ (digitChar upper d).toNat < 0x7F ∧
      digitChar upper d ≠ '-' ∧ digitChar upper d ≠ 'u' ∧ digitChar upper d ≠ '+' ∧
      digitChar upper d ≠ '_' ∧ digitChar upper d ≠ 'x' ∧ digitChar upper d ≠ 'X' ∧
      Text.isBlank (digitChar upper d) = false ∧ isNumeralBlank (digitChar upper d) = false ∧
      isBrace (.scalar (digitChar upper d)) = false := by
  decide

theorem hexDigit_facts : ∀ d < 16,
    hexValue? (hexDigit d) = some d ∧ (hexDigit d).toNat < 0x7F ∧ hexDigit d ≠ '-' ∧
      hexDigit d ≠ 'u' ∧ hexDigit d ≠ '+' ∧ hexDigit d ≠ '_' ∧ hexDigit d ≠ 'x' ∧
      hexDigit d ≠ 'X' ∧ Text.isBlank (hexDigit d) = false ∧
      isNumeralBlank (hexDigit d) = false ∧ isBrace (.scalar (hexDigit d)) = false :=
  digitChar_facts false

theorem foldl_digits (v n acc : Nat) :
    ((List.range n).reverse.map fun i => v / Nat.pow 16 i % 16).foldl (fun a d => a * 16 + d) acc =
      acc * Nat.pow 16 n + v % Nat.pow 16 n := by
  induction n generalizing acc with
  | zero =>
    rw [List.range_zero, List.reverse_nil, List.map_nil, List.foldl_nil]
    simp only [Nat.pow_eq, Nat.pow_zero, Nat.mul_one, Nat.mod_one, Nat.add_zero]
  | succ n ih =>
    rw [List.range_succ, List.reverse_append, List.reverse_singleton, List.singleton_append,
      List.map_cons, List.foldl_cons, ih]
    simp only [Nat.pow_eq]
    rw [Nat.mod_pow_succ, Nat.pow_succ]
    ring

theorem readHexDigits_digits (upper : Bool) (ds : List Nat) (hds : ∀ d ∈ ds, d < 16)
    (acc count : Nat) :
    readHexDigits acc count false (ds.map (digitChar upper)) =
      some (ds.foldl (fun a d => a * 16 + d) acc, count + ds.length, []) := by
  induction ds generalizing acc count with
  | nil => rfl
  | cons d ds ih =>
    obtain ⟨hv, -, -, -, -, hu, -⟩ := digitChar_facts upper d (hds d List.mem_cons_self)
    rw [List.map_cons, readHexDigits]
    · simp only [hv]
      rw [ih (fun d' hd' => hds d' (List.mem_cons_of_mem d hd'))]
      simp [Nat.add_assoc, Nat.add_comm 1]
    · exact hu

theorem readHexNumeral?_digits (upper : Bool) (ds : List Nat) (hds : ∀ d ∈ ds, d < 16)
    (hlen : 2 ≤ ds.length) :
    readHexNumeral? (ds.map (digitChar upper)) = some (ds.foldl (fun a d => a * 16 + d) 0) := by
  obtain ⟨d₀, d₁, rest, rfl⟩ : ∃ d₀ d₁ rest, ds = d₀ :: d₁ :: rest := by
    match ds, hlen with
    | d₀ :: d₁ :: rest, _ => exact ⟨d₀, d₁, rest, rfl⟩
  obtain ⟨-, -, -, -, hp, hu, -, -, -, hb, -⟩ := digitChar_facts upper d₀ (hds d₀ (by simp))
  obtain ⟨-, -, -, -, -, -, hx, hX, -⟩ := digitChar_facts upper d₁ (hds d₁ (by simp))
  have hread := readHexDigits_digits upper (d₀ :: d₁ :: rest) hds 0 0
  simp only [List.map_cons] at hread ⊢
  simp [readHexNumeral?, hp, hu, hb, hx, hX, hread]

/-! ## What reading an id removes -/

theorem dropUrn_map_scalar {l : List Char} (h : 'u' ∉ l) :
    dropUrn (l.map .scalar) = l.map .scalar := by
  induction l with
  | nil => rfl
  | cons c l ih =>
    have hc : c ≠ 'u' := fun e => h (e ▸ List.mem_cons_self)
    rw [List.map_cons, dropUrn, ih (fun hl => h (List.mem_cons_of_mem c hl))]
    intro rest he _
    exact hc (CodePoint.scalar.inj he)

theorem dropUuidTag_map_scalar {l : List Char} (h : 'u' ∉ l) :
    dropUuidTag (l.map .scalar) = l.map .scalar := by
  induction l with
  | nil => rfl
  | cons c l ih =>
    have hc : c ≠ 'u' := fun e => h (e ▸ List.mem_cons_self)
    rw [List.map_cons, dropUuidTag, ih (fun hl => h (List.mem_cons_of_mem c hl))]
    intro rest he _
    exact hc (CodePoint.scalar.inj he)

theorem asciiNumeral?_map_scalar {l : List Char} (hl : ∀ c ∈ l, c.toNat < 0x7F) :
    asciiNumeral? (l.map .scalar) = some l := by
  induction l with
  | nil => rfl
  | cons c l ih =>
    have hc := hl c List.mem_cons_self
    have ih' := ih fun d hd => hl d (List.mem_cons_of_mem c hd)
    unfold asciiNumeral? at ih' ⊢
    rw [List.map_cons, List.mapM_cons, ih']
    simp [CodePoint.char?, hc]

namespace Uuid

/-! ## The canonical text -/

/-- The 32 hexadecimal digit values of an identifier, most significant first. -/
def digits (u : Uuid) : List Nat :=
  (List.range 32).reverse.map fun i => u.value / Nat.pow 16 i % 16

theorem digits_lt (u : Uuid) : ∀ d ∈ u.digits, d < 16 := by
  intro d hd
  obtain ⟨i, -, rfl⟩ := List.mem_map.mp hd
  exact Nat.mod_lt _ (by decide)

theorem length_digits (u : Uuid) : u.digits.length = 32 := by
  simp [digits]

theorem hex_toList (u : Uuid) : u.hex.toList = u.digits.map hexDigit := by
  rw [hex, String.toList_ofList, digits, List.map_map]
  rfl

theorem foldl_digits_eq (u : Uuid) : u.digits.foldl (fun a d => a * 16 + d) 0 = u.value := by
  have h16 : Nat.pow 2 128 = Nat.pow 16 32 := by decide
  have hlt : u.value < Nat.pow 16 32 := h16 ▸ u.lt
  rw [digits, foldl_digits, Nat.zero_mul, Nat.zero_add, Nat.mod_eq_of_lt hlt]

theorem text_toList (u : Uuid) :
    u.text.toList = u.hex.toList.take 8 ++ '-' :: (u.hex.toList.drop 8).take 4 ++
      '-' :: (u.hex.toList.drop 12).take 4 ++ '-' :: (u.hex.toList.drop 16).take 4 ++
      '-' :: u.hex.toList.drop 20 := by
  rw [text, String.toList_ofList]

theorem mem_groups {h : List Char} {c : Char}
    (hc : c ∈ h.take 8 ++ '-' :: (h.drop 8).take 4 ++ '-' :: (h.drop 12).take 4 ++
      '-' :: (h.drop 16).take 4 ++ '-' :: h.drop 20) : c = '-' ∨ c ∈ h := by
  simp only [List.mem_append, List.mem_cons] at hc
  rcases hc with (((h1 | rfl | h2) | rfl | h3) | rfl | h4) | rfl | h5
  · exact .inr (List.mem_of_mem_take h1)
  · exact .inl rfl
  · exact .inr (List.mem_of_mem_drop (List.mem_of_mem_take h2))
  · exact .inl rfl
  · exact .inr (List.mem_of_mem_drop (List.mem_of_mem_take h3))
  · exact .inl rfl
  · exact .inr (List.mem_of_mem_drop (List.mem_of_mem_take h4))
  · exact .inl rfl
  · exact .inr (List.mem_of_mem_drop h5)

theorem filter_groups {h : List Char} {p : Char → Bool} (hdash : p '-' = false)
    (hkeep : ∀ c ∈ h, p c = true) :
    (h.take 8 ++ '-' :: (h.drop 8).take 4 ++ '-' :: (h.drop 12).take 4 ++
      '-' :: (h.drop 16).take 4 ++ '-' :: h.drop 20).filter p = h := by
  have e1 : (h.take 8).filter p = h.take 8 :=
    List.filter_eq_self.mpr fun c hc => hkeep c (List.mem_of_mem_take hc)
  have e2 : ((h.drop 8).take 4).filter p = (h.drop 8).take 4 :=
    List.filter_eq_self.mpr fun c hc => hkeep c (List.mem_of_mem_drop (List.mem_of_mem_take hc))
  have e3 : ((h.drop 12).take 4).filter p = (h.drop 12).take 4 :=
    List.filter_eq_self.mpr fun c hc => hkeep c (List.mem_of_mem_drop (List.mem_of_mem_take hc))
  have e4 : ((h.drop 16).take 4).filter p = (h.drop 16).take 4 :=
    List.filter_eq_self.mpr fun c hc => hkeep c (List.mem_of_mem_drop (List.mem_of_mem_take hc))
  have e5 : (h.drop 20).filter p = h.drop 20 :=
    List.filter_eq_self.mpr fun c hc => hkeep c (List.mem_of_mem_drop hc)
  simp only [List.filter_append, List.filter_cons, hdash, Bool.false_eq_true, if_false,
    e1, e2, e3, e4, e5]
  rw [← List.take_add, ← List.take_add, ← List.take_add, List.take_append_drop]

theorem text_char {u : Uuid} {c : Char} (hc : c ∈ u.text.toList) :
    c ≠ 'u' ∧ isBrace (.scalar c) = false ∧ Text.isBlank c = false ∧ c.toNat < 0x7F := by
  rw [text_toList] at hc
  rcases mem_groups hc with rfl | hh
  · decide
  · rw [hex_toList] at hh
    obtain ⟨d, hd, rfl⟩ := List.mem_map.mp hh
    obtain ⟨-, ha, -, hu, -, -, -, -, hb, -, hbr⟩ := hexDigit_facts d (u.digits_lt d hd)
    exact ⟨hu, hbr, hb, ha⟩

theorem digitPart_text (u : Uuid) :
    digitPart (Text.ofString u.text) = u.hex.toList.map .scalar := by
  have hu : 'u' ∉ u.text.toList := fun h => (text_char h).1 rfl
  unfold digitPart
  rw [Text.ofString, Text.points_ofChars, dropUrn_map_scalar hu, dropUuidTag_map_scalar hu,
    stripBy_of_forall fun x hx => ?_, List.filter_map, text_toList, filter_groups]
  · rfl
  · intro c hc
    rw [hex_toList] at hc
    obtain ⟨d, hd, rfl⟩ := List.mem_map.mp hc
    obtain ⟨-, -, hne, -⟩ := hexDigit_facts d (u.digits_lt d hd)
    simpa using hne
  · obtain ⟨c, hc, rfl⟩ := List.mem_map.mp hx
    exact (text_char hc).2.1

theorem ofText_text (u : Uuid) : ofText (Text.ofString u.text) = .ok u := by
  have hascii : ∀ c ∈ u.hex.toList, c.toNat < 0x7F := by
    intro c hc
    rw [hex_toList] at hc
    obtain ⟨d, hd, rfl⟩ := List.mem_map.mp hc
    exact (hexDigit_facts d (u.digits_lt d hd)).2.1
  have hlen : u.hex.toList.length = 32 := by rw [hex_toList, List.length_map, length_digits]
  have hread : readHexNumeral? u.hex.toList = some u.value := by
    rw [hex_toList]
    exact (readHexNumeral?_digits false u.digits u.digits_lt (by rw [length_digits]; decide)).trans
      (congrArg some u.foldl_digits_eq)
  unfold ofText
  simp only [digitPart_text, List.length_map, hlen, ne_eq, not_true_eq_false, if_false,
    asciiNumeral?_map_scalar hascii, Option.bind_eq_bind, Option.bind_some, hread, dif_pos u.lt]

end Uuid

end UserDirectory.Ident

namespace UserDirectory.Account

theorem parseUserId_ofString {s : String} {u : Ident.Uuid}
    (hblank : ∀ c ∈ s.toList, Text.isBlank c = false) (hne : s.toList ≠ [])
    (h : Ident.Uuid.ofText (.ofString s) = .ok u) : parseUserId (.ofString s) = .ok u.text := by
  have hstrip : (Text.ofString s).strip = Text.ofString s := by
    rw [Text.ofString, Text.strip_ofChars, Text.stripList, Text.stripBy_of_forall hblank]
  have hshown : (Given.ofString s).shownOrEmpty = Text.ofString s := by
    simp [Given.shownOrEmpty, Given.ofString, Given.present, Given.shown, Text.ofString, hne]
  have hemp : (Text.ofString s).isEmpty = false := by
    rw [Text.ofString, Text.isEmpty_ofChars]
    cases hl : s.toList with
    | nil => exact absurd hl hne
    | cons _ _ => rfl
  unfold parseUserId
  simp only [hshown, hstrip, hemp, Bool.false_eq_true, if_false, h]

theorem parseUserId_text (u : Ident.Uuid) : parseUserId (.ofString u.text) = .ok u.text := by
  have hne : u.text.toList ≠ [] := by
    rw [Ident.Uuid.text_toList]
    simp
  exact parseUserId_ofString (fun c hc => (Ident.Uuid.text_char hc).2.2.1) hne
    (Ident.Uuid.ofText_text u)

end UserDirectory.Account

import Mathlib.Data.List.Induction
import UserDirectory.Proofs.IdText

/-!
# Spellings of an identifier

Reading a user id (`parseUserId`) accepts an identifier in many spellings and answers one text for
it. This module says what that text is and which spellings reach it.

* The canonical texts (`IsCanonicalId`) are groups of 8, 4, 4, 4 and 12 lower-case hexadecimal
  digits joined by hyphens; they are exactly the texts of identifiers (`isCanonicalId_iff`).
* Reading removes `urn:` and `uuid:` tags, braces and hyphens and must be left with 32 code points.
  A numeral written in 32 code points is below `16 ^ 32 = 2 ^ 128` (`Uuid.numeral_lt`): every
  number read is an identifier, and the refusal of a number out of range never happens.
* A canonical text in upper case, without its hyphens, in braces or behind `urn:uuid:`, in any
  combination, reads as itself (`parseUserId_spelling`).

The main statement, `parseUserId_canonical`, puts these together: what reading answers is
canonical, reads as itself, and writes the number that the text left by the removals writes.
-/

namespace UserDirectory.Ident

open UserDirectory.Text

/-! ## Reading a numeral -/

theorem hexValue?_lt {c : Char} {d : Nat} (h : hexValue? c = some d) : d < 16 := by
  unfold hexValue? at h
  split at h
  · rename_i hc
    cases h
    have : c.toNat ≤ 57 := hc.2
    omega
  · split at h
    · rename_i _ hc
      cases h
      have : 97 ≤ c.toNat := hc.1
      have : c.toNat ≤ 102 := hc.2
      omega
    · split at h
      · rename_i _ _ hc
        cases h
        have : 65 ≤ c.toNat := hc.1
        have : c.toNat ≤ 70 := hc.2
        omega
      · cases h

theorem readHexDigits_lt {acc count : Nat} {au : Bool} {cs : List Char} {v n : Nat}
    {tail : List Char} (h : readHexDigits acc count au cs = some (v, n, tail)) :
    v < (acc + 1) * Nat.pow 16 cs.length := by
  simp only [Nat.pow_eq]
  fun_induction readHexDigits acc count au cs generalizing v n tail with
  | case1 => cases h
  | case2 acc count _ rest _ ih =>
    calc v < (acc + 1) * 16 ^ rest.length := ih h
      _ ≤ (acc + 1) * 16 ^ (rest.length + 1) :=
        Nat.mul_le_mul_left _ (Nat.pow_le_pow_right (by decide) (Nat.le_succ _))
  | case3 acc count _ c rest _ d hd ih =>
    have hd16 := hexValue?_lt hd
    calc v < (acc * 16 + d + 1) * 16 ^ rest.length := ih h
      _ ≤ ((acc + 1) * 16) * 16 ^ rest.length := Nat.mul_le_mul_right _ (by omega)
      _ = (acc + 1) * 16 ^ (rest.length + 1) := by rw [Nat.pow_succ]; ring
  | case4 => cases h
  | case5 acc count _ c rest =>
    simp only [Option.some.injEq, Prod.mk.injEq] at h
    obtain ⟨rfl, -, -⟩ := h
    exact Nat.lt_of_lt_of_le (Nat.lt_succ_self acc)
      (Nat.le_mul_of_pos_right _ (Nat.pow_pos (by decide)))
  | case6 => cases h
  | case7 =>
    cases h
    simp

theorem readHexNumeral?_lt {cs : List Char} {v : Nat} (h : readHexNumeral? cs = some v) :
    v < Nat.pow 16 cs.length := by
  unfold readHexNumeral? at h
  dsimp only at h
  have hB : (cs.dropWhile isNumeralBlank).length ≤ cs.length :=
    (List.dropWhile_suffix _).length_le
  generalize cs.dropWhile isNumeralBlank = B at h hB
  split at h
  · cases h
  · split at h
    · rename_i w count rest hread
      split at h
      · cases h
        have key : ∀ X : List Char, X <:+ B →
            readHexDigits 0 0 false X = some (v, count, rest) → v < Nat.pow 16 cs.length := by
          intro X hX hr
          have hv := readHexDigits_lt hr
          have hle : Nat.pow 16 X.length ≤ Nat.pow 16 cs.length :=
            Nat.pow_le_pow_right (by decide) (Nat.le_trans hX.length_le hB)
          omega
        split at hread
        case h_5 =>
          split at hread
          · exact key _ (by simp) hread
          · exact key _ (List.suffix_refl B) hread
        all_goals
          rename_i heq
          split at heq <;> subst heq <;> exact key _ (by simp [List.suffix_cons_iff]) hread
      · cases h
    · cases h

theorem length_of_asciiNumeral? {ps : List CodePoint} {cs : List Char}
    (h : asciiNumeral? ps = some cs) : cs.length = ps.length := by
  induction ps generalizing cs with
  | nil =>
    cases h
    rfl
  | cons p ps ih =>
    unfold asciiNumeral? at h ih
    rw [List.mapM_cons] at h
    simp only [bind, Option.bind_eq_some_iff, pure, Option.some.injEq] at h
    obtain ⟨c, -, cs', hcs', rfl⟩ := h
    simp [ih hcs']

namespace Uuid

theorem numeral_lt {ps : List CodePoint} (hlen : ps.length = 32) {v : Nat}
    (h : (asciiNumeral? ps >>= readHexNumeral?) = some v) : v < Nat.pow 2 128 := by
  simp only [bind, Option.bind_eq_some_iff] at h
  obtain ⟨cs, hcs, hv⟩ := h
  have hlt := readHexNumeral?_lt hv
  rw [length_of_asciiNumeral? hcs, hlen] at hlt
  exact hlt.trans_eq (by decide)

theorem ofText_eq_ok {t : Text} {u : Uuid} :
    ofText t = .ok u ↔ (digitPart t).length = 32 ∧
      (asciiNumeral? (digitPart t) >>= readHexNumeral?) = some u.value := by
  unfold ofText
  dsimp only
  constructor
  · intro h
    split at h
    · cases h
    · rename_i hlen
      split at h
      · rename_i v hv
        split at h
        · cases h
          exact ⟨by simpa using hlen, hv⟩
        · cases h
      · cases h
  · rintro ⟨hlen, hv⟩
    rw [if_neg (by simpa using hlen), hv]
    simp [u.lt]

end Uuid

/-! ## Canonical texts -/

/-- Whether a character is a lower-case hexadecimal digit. -/
def isLowerHexDigit (c : Char) : Bool :=
  ('0' ≤ c && c ≤ '9') || ('a' ≤ c && c ≤ 'f')

/-- A canonical identifier text: groups of 8, 4, 4, 4 and 12 lower-case hexadecimal digits joined
by hyphens. -/
def IsCanonicalId (s : String) : Prop :=
  ∃ groups : List (List Char), groups.map List.length = [8, 4, 4, 4, 12] ∧
    (∀ g ∈ groups, ∀ c ∈ g, isLowerHexDigit c = true) ∧ s.toList = ['-'].intercalate groups

theorem hexDigit_of_isLowerHexDigit {c : Char} (h : isLowerHexDigit c = true) :
    ∃ d, hexValue? c = some d ∧ hexDigit d = c := by
  unfold isLowerHexDigit at h
  simp only [Bool.or_eq_true, Bool.and_eq_true, decide_eq_true_eq] at h
  rcases h with ⟨h0, h9⟩ | ⟨ha, hf⟩
  · have : 48 ≤ c.toNat := h0
    have : c.toNat ≤ 57 := h9
    refine ⟨c.toNat - 48, by simp [hexValue?, h0, h9], ?_⟩
    simp only [hexDigit, show c.toNat - 48 < 10 by omega, if_true]
    rw [show 48 + (c.toNat - 48) = c.toNat by omega, Char.ofNat_toNat]
  · have : 97 ≤ c.toNat := ha
    have : c.toNat ≤ 102 := hf
    have h9 : ¬ c ≤ '9' := fun h => by
      have : c.toNat ≤ 57 := h
      omega
    refine ⟨c.toNat - 87, by simp [hexValue?, h9, ha, hf], ?_⟩
    simp only [hexDigit, show ¬ c.toNat - 87 < 10 by omega, if_false]
    rw [show 87 + (c.toNat - 87) = c.toNat by omega, Char.ofNat_toNat]

theorem isLowerHexDigit_hexDigit : ∀ d < 16, isLowerHexDigit (hexDigit d) = true := by
  decide

theorem digits_foldl (ds : List Nat) (hds : ∀ d ∈ ds, d < 16) :
    (List.range ds.length).reverse.map
        (fun i => ds.foldl (fun a d => a * 16 + d) 0 / Nat.pow 16 i % 16) = ds := by
  simp only [Nat.pow_eq]
  induction ds using List.reverseRec with
  | nil => rfl
  | append_singleton ds d ih =>
    have hd : d < 16 := hds d (by simp)
    have ih' := ih fun x hx => hds x (by simp [hx])
    have hhigh : ∀ i, (ds.foldl (fun a d => a * 16 + d) 0 * 16 + d) / 16 ^ (i + 1) =
        ds.foldl (fun a d => a * 16 + d) 0 / 16 ^ i := by
      intro i
      rw [Nat.pow_succ, Nat.mul_comm (16 ^ i), ← Nat.div_div_eq_div_mul]
      congr 1
      omega
    rw [List.foldl_append, List.foldl_cons, List.foldl_nil, List.length_append,
      List.length_singleton, List.range_succ_eq_map, List.reverse_cons, List.map_append,
      ← List.map_reverse, List.map_map]
    simp only [Function.comp_def, hhigh, ih', List.map_cons, List.map_nil, Nat.pow_zero,
      Nat.div_one]
    congr
    omega

theorem intercalate_five (g₁ g₂ g₃ g₄ g₅ : List Char) :
    ['-'].intercalate [g₁, g₂, g₃, g₄, g₅] =
      g₁ ++ '-' :: g₂ ++ '-' :: g₃ ++ '-' :: g₄ ++ '-' :: g₅ := by
  simp [List.intercalate]

theorem exists_groups {h : List Char} (hlen : h.length = 32)
    (hhex : ∀ c ∈ h, isLowerHexDigit c = true) :
    ∃ groups : List (List Char), groups.map List.length = [8, 4, 4, 4, 12] ∧
      (∀ g ∈ groups, ∀ c ∈ g, isLowerHexDigit c = true) ∧
      h.take 8 ++ '-' :: (h.drop 8).take 4 ++ '-' :: (h.drop 12).take 4 ++
        '-' :: (h.drop 16).take 4 ++ '-' :: h.drop 20 = ['-'].intercalate groups := by
  refine ⟨[h.take 8, (h.drop 8).take 4, (h.drop 12).take 4, (h.drop 16).take 4, h.drop 20],
    by simp [hlen], ?_, (intercalate_five _ _ _ _ _).symm⟩
  intro g hg c hc
  simp only [List.mem_cons, List.not_mem_nil, or_false] at hg
  rcases hg with rfl | rfl | rfl | rfl | rfl
  · exact hhex c (List.mem_of_mem_take hc)
  · exact hhex c (List.mem_of_mem_drop (List.mem_of_mem_take hc))
  · exact hhex c (List.mem_of_mem_drop (List.mem_of_mem_take hc))
  · exact hhex c (List.mem_of_mem_drop (List.mem_of_mem_take hc))
  · exact hhex c (List.mem_of_mem_drop hc)

theorem groups_append {g₁ g₂ g₃ g₄ : List Char} (g₅ : List Char) (h₁ : g₁.length = 8)
    (h₂ : g₂.length = 4) (h₃ : g₃.length = 4) (h₄ : g₄.length = 4) :
    (g₁ ++ (g₂ ++ (g₃ ++ (g₄ ++ g₅)))).take 8 ++
      '-' :: ((g₁ ++ (g₂ ++ (g₃ ++ (g₄ ++ g₅)))).drop 8).take 4 ++
      '-' :: ((g₁ ++ (g₂ ++ (g₃ ++ (g₄ ++ g₅)))).drop 12).take 4 ++
      '-' :: ((g₁ ++ (g₂ ++ (g₃ ++ (g₄ ++ g₅)))).drop 16).take 4 ++
      '-' :: (g₁ ++ (g₂ ++ (g₃ ++ (g₄ ++ g₅)))).drop 20 =
      g₁ ++ '-' :: g₂ ++ '-' :: g₃ ++ '-' :: g₄ ++ '-' :: g₅ := by
  have e8 : (g₁ ++ (g₂ ++ (g₃ ++ (g₄ ++ g₅)))).drop 8 = g₂ ++ (g₃ ++ (g₄ ++ g₅)) :=
    List.drop_left' h₁
  have e12 : (g₁ ++ (g₂ ++ (g₃ ++ (g₄ ++ g₅)))).drop 12 = g₃ ++ (g₄ ++ g₅) := by
    rw [show 12 = 8 + 4 by rfl, ← List.drop_drop, e8, List.drop_left' h₂]
  have e16 : (g₁ ++ (g₂ ++ (g₃ ++ (g₄ ++ g₅)))).drop 16 = g₄ ++ g₅ := by
    rw [show 16 = 12 + 4 by rfl, ← List.drop_drop, e12, List.drop_left' h₃]
  have e20 : (g₁ ++ (g₂ ++ (g₃ ++ (g₄ ++ g₅)))).drop 20 = g₅ := by
    rw [show 20 = 16 + 4 by rfl, ← List.drop_drop, e16, List.drop_left' h₄]
  rw [e8, e12, e16, e20, List.take_left' h₁, List.take_left' h₂, List.take_left' h₃,
    List.take_left' h₄]

namespace Uuid

theorem isCanonicalId_text (u : Uuid) : IsCanonicalId u.text := by
  have hlen : u.hex.toList.length = 32 := by rw [hex_toList, List.length_map, length_digits]
  have hhex : ∀ c ∈ u.hex.toList, isLowerHexDigit c = true := by
    intro c hc
    rw [hex_toList] at hc
    obtain ⟨d, hd, rfl⟩ := List.mem_map.mp hc
    exact isLowerHexDigit_hexDigit d (u.digits_lt d hd)
  rw [IsCanonicalId, text_toList]
  exact exists_groups hlen hhex

theorem exists_text_of_isCanonicalId {s : String} (h : IsCanonicalId s) :
    ∃ u : Uuid, u.text = s := by
  obtain ⟨groups, hlen, hhex, hs⟩ := h
  obtain ⟨g₁, g₂, g₃, g₄, g₅, rfl⟩ :
      ∃ g₁ g₂ g₃ g₄ g₅, groups = [g₁, g₂, g₃, g₄, g₅] := by
    rcases groups with
      _ | ⟨g₁, _ | ⟨g₂, _ | ⟨g₃, _ | ⟨g₄, _ | ⟨g₅, _ | ⟨g₆, rest⟩⟩⟩⟩⟩⟩ <;> simp at hlen
    exact ⟨g₁, g₂, g₃, g₄, g₅, rfl⟩
  simp only [List.map_cons, List.map_nil, List.cons.injEq] at hlen
  obtain ⟨hl₁, hl₂, hl₃, hl₄, hl₅, -⟩ := hlen
  have hhex' : ∀ c ∈ g₁ ++ (g₂ ++ (g₃ ++ (g₄ ++ g₅))), isLowerHexDigit c = true := by
    intro c hc
    simp only [List.mem_append] at hc
    rcases hc with hc | hc | hc | hc | hc
    · exact hhex g₁ (by simp) c hc
    · exact hhex g₂ (by simp) c hc
    · exact hhex g₃ (by simp) c hc
    · exact hhex g₄ (by simp) c hc
    · exact hhex g₅ (by simp) c hc
  generalize hh : g₁ ++ (g₂ ++ (g₃ ++ (g₄ ++ g₅))) = h at hhex'
  have hgroups := groups_append g₅ hl₁ hl₂ hl₃ hl₄
  rw [hh] at hgroups
  have hhlen : h.length = 32 := by simp [← hh, hl₁, hl₂, hl₃, hl₄, hl₅]
  set ds := h.map fun c => (hexValue? c).getD 0 with hds
  have hdigits : ds.map hexDigit = h := by
    rw [hds, List.map_map]
    refine List.map_congr_left (fun c hc => ?_) |>.trans (List.map_id h)
    obtain ⟨d, hv, hd⟩ := hexDigit_of_isLowerHexDigit (hhex' c hc)
    simp [hv, hd]
  have hlt : ∀ d ∈ ds, d < 16 := by
    intro d hd
    obtain ⟨c, hc, rfl⟩ := List.mem_map.mp hd
    obtain ⟨d, hv, -⟩ := hexDigit_of_isLowerHexDigit (hhex' c hc)
    simpa [hv] using hexValue?_lt hv
  have hdlen : ds.length = 32 := by rw [hds, List.length_map, hhlen]
  have hread := readHexNumeral?_digits false ds hlt (by omega)
  have hbound : ds.foldl (fun a d => a * 16 + d) 0 < Nat.pow 2 128 := by
    have := readHexNumeral?_lt hread
    rw [List.length_map, hdlen] at this
    exact this.trans_eq (by decide)
  refine ⟨⟨_, hbound⟩, ?_⟩
  have hdig : digits ⟨_, hbound⟩ = ds := by
    have := digits_foldl ds hlt
    rw [hdlen] at this
    exact this
  apply String.toList_inj.mp
  rw [text_toList, hex_toList, hdig, hdigits, hs, intercalate_five, hgroups]

end Uuid

theorem isCanonicalId_iff {s : String} : IsCanonicalId s ↔ ∃ u : Uuid, u.text = s :=
  ⟨Uuid.exists_text_of_isCanonicalId, fun ⟨u, hu⟩ => hu ▸ u.isCanonicalId_text⟩

/-! ## Spellings -/

/-- A spelling of an identifier text that reading accepts as well: in upper case or not, with its
hyphens or without them, in braces or not, behind `urn:uuid:` or not. -/
def spelling (upper hyphens braces tagged : Bool) (s : String) : String :=
  let body := if upper then s.toList.map Char.toUpper else s.toList
  let body := if hyphens then body else body.filter (· ≠ '-')
  let body := if braces then '\x7b' :: body ++ ['\x7d'] else body
  String.ofList (if tagged then "urn:uuid:".toList ++ body else body)

theorem dropUrn_tag {B : List Char} (h : 'u' ∉ B) :
    dropUrn (("urn:uuid:".toList ++ B).map .scalar) = ("uuid:".toList ++ B).map .scalar := by
  simp [dropUrn, dropUrn_map_scalar h]

theorem dropUuidTag_tag {B : List Char} (h : 'u' ∉ B) :
    dropUuidTag (("uuid:".toList ++ B).map .scalar) = B.map .scalar := by
  simp [dropUuidTag, dropUuidTag_map_scalar h]

theorem stripBy_braced {B : List Char} (h : ∀ c ∈ B, isBrace (.scalar c) = false) :
    stripBy isBrace (('\x7b' :: B ++ ['\x7d']).map .scalar) = B.map .scalar := by
  have hB : ∀ p ∈ B.map CodePoint.scalar, isBrace p = false := by
    intro p hp
    obtain ⟨c, hc, rfl⟩ := List.mem_map.mp hp
    exact h c hc
  have hfront : (('\x7b' :: B ++ ['\x7d']).map CodePoint.scalar).dropWhile isBrace =
      if B = [] then [] else B.map .scalar ++ [.scalar '\x7d'] := by
    cases B with
    | nil => rfl
    | cons c B =>
      have hc := hB (.scalar c) List.mem_cons_self
      have hl : isBrace (.scalar '\x7b') = true := by decide
      simp [hl, hc]
  unfold stripBy
  rw [hfront]
  split
  · subst_vars
    rfl
  · rw [List.reverse_append, List.reverse_singleton, List.singleton_append, List.dropWhile_cons,
      if_pos (by decide), dropWhile_eq_self_of_head, List.reverse_reverse]
    intro p hp
    rw [List.head?_reverse] at hp
    exact hB p (List.mem_of_getLast? hp)

theorem filter_map_scalar (l : List Char) :
    (l.map CodePoint.scalar).filter (· ≠ .scalar '-') = (l.filter (· ≠ '-')).map .scalar := by
  rw [List.filter_map]
  congr 1
  apply List.filter_congr
  intro c _
  simp

theorem digitPart_tagged_braced {B : List Char} (hu : 'u' ∉ B)
    (hbr : ∀ c ∈ B, isBrace (.scalar c) = false) (braces tagged : Bool) :
    Uuid.digitPart (Text.ofString (String.ofList (if tagged then
      "urn:uuid:".toList ++ (if braces then '\x7b' :: B ++ ['\x7d'] else B) else
      (if braces then '\x7b' :: B ++ ['\x7d'] else B)))) =
      (B.filter (· ≠ '-')).map CodePoint.scalar := by
  have hQu : 'u' ∉ (if braces then '\x7b' :: B ++ ['\x7d'] else B) := by
    split <;> simp [hu]
  have hQ : stripBy isBrace ((if braces then '\x7b' :: B ++ ['\x7d'] else B).map .scalar) =
      B.map .scalar := by
    split
    · exact stripBy_braced hbr
    · apply stripBy_of_forall
      intro p hp
      obtain ⟨c, hc, rfl⟩ := List.mem_map.mp hp
      exact hbr c hc
  generalize (if braces then '\x7b' :: B ++ ['\x7d'] else B) = Q at hQu hQ
  have hdrop : dropUuidTag (dropUrn ((if tagged then "urn:uuid:".toList ++ Q else Q).map .scalar)) =
      Q.map .scalar := by
    split
    · rw [dropUrn_tag hQu, dropUuidTag_tag hQu]
    · rw [dropUrn_map_scalar hQu, dropUuidTag_map_scalar hQu]
  rw [Uuid.digitPart, Text.ofString, Text.points_ofChars, String.toList_ofList, hdrop, hQ,
    filter_map_scalar]

theorem mem_body {D : List Char} {hyphens : Bool} {c : Char}
    (hc : c ∈ (if hyphens then D.take 8 ++ '-' :: (D.drop 8).take 4 ++
      '-' :: (D.drop 12).take 4 ++ '-' :: (D.drop 16).take 4 ++ '-' :: D.drop 20 else
      (D.take 8 ++ '-' :: (D.drop 8).take 4 ++ '-' :: (D.drop 12).take 4 ++
        '-' :: (D.drop 16).take 4 ++ '-' :: D.drop 20).filter (· ≠ '-'))) :
    c = '-' ∨ c ∈ D := by
  split at hc
  · exact Uuid.mem_groups hc
  · exact Uuid.mem_groups (List.mem_filter.mp hc).1

theorem mem_braced {B : List Char} {braces : Bool} {c : Char} {P : Char → Prop}
    (hB : ∀ c ∈ B, P c) (hc : c ∈ (if braces then '\x7b' :: B ++ ['\x7d'] else B)) :
    c = '\x7b' ∨ c = '\x7d' ∨ P c := by
  split at hc
  · simp only [List.cons_append, List.mem_cons, List.mem_append, List.not_mem_nil,
      or_false] at hc
    rcases hc with rfl | hc | rfl
    · exact .inl rfl
    · exact .inr (.inr (hB c hc))
    · exact .inr (.inl rfl)
  · exact .inr (.inr (hB c hc))

theorem map_groups (f : Char → Char) (hf : f '-' = '-') (h : List Char) :
    (h.take 8 ++ '-' :: (h.drop 8).take 4 ++ '-' :: (h.drop 12).take 4 ++
      '-' :: (h.drop 16).take 4 ++ '-' :: h.drop 20).map f =
      (h.map f).take 8 ++ '-' :: ((h.map f).drop 8).take 4 ++ '-' :: ((h.map f).drop 12).take 4 ++
        '-' :: ((h.map f).drop 16).take 4 ++ '-' :: (h.map f).drop 20 := by
  simp [List.map_take, List.map_drop, hf]

namespace Uuid

theorem digits_map_digitChar (u : Uuid) (upper : Bool) :
    (if upper then u.text.toList.map Char.toUpper else u.text.toList) =
      (u.digits.map (digitChar upper)).take 8 ++ '-' ::
        ((u.digits.map (digitChar upper)).drop 8).take 4 ++
        '-' :: ((u.digits.map (digitChar upper)).drop 12).take 4 ++
        '-' :: ((u.digits.map (digitChar upper)).drop 16).take 4 ++
        '-' :: (u.digits.map (digitChar upper)).drop 20 := by
  rw [text_toList, hex_toList]
  cases upper with
  | false => rfl
  | true =>
    rw [if_pos rfl, map_groups Char.toUpper (by decide), List.map_map]
    rfl

theorem digitPart_spelling (u : Uuid) (upper hyphens braces tagged : Bool) :
    digitPart (Text.ofString (spelling upper hyphens braces tagged u.text)) =
      (u.digits.map (digitChar upper)).map .scalar := by
  have hD : ∀ c ∈ u.digits.map (digitChar upper),
      c ≠ '-' ∧ c ≠ 'u' ∧ isBrace (.scalar c) = false := by
    intro c hc
    obtain ⟨d, hd, rfl⟩ := List.mem_map.mp hc
    obtain ⟨-, -, h₁, h₂, -, -, -, -, -, -, h₃⟩ :=
      digitChar_facts upper d (u.digits_lt d hd)
    exact ⟨h₁, h₂, h₃⟩
  have hG := filter_groups (p := (· ≠ '-')) (by decide) fun c hc => by simpa using (hD c hc).1
  unfold spelling
  dsimp only
  rw [digits_map_digitChar]
  generalize u.digits.map (digitChar upper) = D at hD hG
  rw [digitPart_tagged_braced (fun hu => ?_) (fun c hc => ?_)]
  · congr 1
    split
    · exact hG
    · rw [List.filter_filter]
      simpa using hG
  · rcases mem_body hu with hu | hu
    · exact absurd hu (by decide)
    · exact (hD 'u' hu).2.1 rfl
  · rcases mem_body hc with rfl | hc
    · decide
    · exact (hD c hc).2.2

theorem mem_spelling {u : Uuid} {upper hyphens braces tagged : Bool} {c : Char}
    (h : c ∈ (spelling upper hyphens braces tagged u.text).toList) :
    c ∈ "urn:uuid:".toList ∨ c = '\x7b' ∨ c = '\x7d' ∨ c = '-' ∨
      c ∈ u.digits.map (digitChar upper) := by
  unfold spelling at h
  dsimp only at h
  rw [digits_map_digitChar, String.toList_ofList] at h
  generalize u.digits.map (digitChar upper) = D at h ⊢
  split at h
  · rcases List.mem_append.mp h with h | h
    · exact .inl h
    · exact .inr (mem_braced (fun _ hc => mem_body hc) h)
  · exact .inr (mem_braced (fun _ hc => mem_body hc) h)

theorem ofText_spelling (u : Uuid) (upper hyphens braces tagged : Bool) :
    ofText (Text.ofString (spelling upper hyphens braces tagged u.text)) = .ok u := by
  have hascii : ∀ c ∈ u.digits.map (digitChar upper), c.toNat < 0x7F := by
    intro c hc
    obtain ⟨d, hd, rfl⟩ := List.mem_map.mp hc
    exact (digitChar_facts upper d (u.digits_lt d hd)).2.1
  have hread : readHexNumeral? (u.digits.map (digitChar upper)) = some u.value :=
    (readHexNumeral?_digits upper u.digits u.digits_lt (by rw [length_digits]; decide)).trans
      (congrArg some u.foldl_digits_eq)
  rw [ofText_eq_ok, digitPart_spelling, asciiNumeral?_map_scalar hascii]
  exact ⟨by simp [length_digits], hread⟩

end Uuid

end UserDirectory.Ident

namespace UserDirectory.Account

open UserDirectory.Ident

theorem exists_of_parseUserId_eq_ok {g : Given} {c : String} (h : parseUserId g = .ok c) :
    ∃ u : Uuid, c = u.text ∧ Uuid.ofText g.shownOrEmpty.strip = .ok u := by
  by_cases he : g.shownOrEmpty.strip.isEmpty = true
  · simp [parseUserId, he] at h
  · cases hu : Uuid.ofText g.shownOrEmpty.strip with
    | error e => simp [parseUserId, he, hu] at h
    | ok u =>
      simp only [parseUserId, he, hu, Bool.false_eq_true, if_false, Except.ok.injEq] at h
      exact ⟨u, h.symm, rfl⟩

theorem parseUserId_spelling (u : Uuid) (upper hyphens braces tagged : Bool) :
    parseUserId (.ofString (spelling upper hyphens braces tagged u.text)) = .ok u.text := by
  have hblank : ∀ c ∈ (spelling upper hyphens braces tagged u.text).toList,
      Text.isBlank c = false := by
    intro c hc
    have htag : ∀ c ∈ "urn:uuid:".toList, Text.isBlank c = false := by simp [Text.isBlank]
    rcases Uuid.mem_spelling hc with hc | rfl | rfl | rfl | hc
    · exact htag c hc
    · decide
    · decide
    · decide
    · obtain ⟨d, hd, rfl⟩ := List.mem_map.mp hc
      exact (digitChar_facts upper d (u.digits_lt d hd)).2.2.2.2.2.2.2.2.1
  have hne : (spelling upper hyphens braces tagged u.text).toList ≠ [] := by
    intro hnil
    have h32 := congrArg List.length (Uuid.digitPart_spelling u upper hyphens braces tagged)
    rw [Text.ofString, hnil, List.length_map, List.length_map, Uuid.length_digits] at h32
    exact absurd h32 (by decide)
  exact parseUserId_ofString hblank hne (Uuid.ofText_spelling u upper hyphens braces tagged)

/-- Reading a user id answers only canonical texts, which read as themselves and write the number
that the text left by the removals writes; every such number fits in 128 bits; and a canonical
text reads as itself in upper case, without its hyphens, in braces and behind `urn:uuid:`. -/
theorem parseUserId_canonical :
    (∀ (g : Given) (c : String), parseUserId g = .ok c →
      IsCanonicalId c ∧ parseUserId (.ofString c) = .ok c ∧
      ∃ u : Uuid, c = u.text ∧
        (asciiNumeral? (Uuid.digitPart g.shownOrEmpty.strip) >>= readHexNumeral?) = some u.value) ∧
    (∀ t : Text, (Uuid.digitPart t).length = 32 → ∀ v : Nat,
      (asciiNumeral? (Uuid.digitPart t) >>= readHexNumeral?) = some v → v < Nat.pow 2 128) ∧
    (∀ c : String, IsCanonicalId c → ∀ upper hyphens braces tagged : Bool,
      parseUserId (.ofString (spelling upper hyphens braces tagged c)) = .ok c) := by
  refine ⟨fun g c h => ?_, fun t hlen v hv => Uuid.numeral_lt hlen hv, fun c hc => ?_⟩
  · obtain ⟨u, rfl, hu⟩ := exists_of_parseUserId_eq_ok h
    exact ⟨u.isCanonicalId_text, parseUserId_text u, u, rfl, (Uuid.ofText_eq_ok.mp hu).2⟩
  · obtain ⟨u, rfl⟩ := isCanonicalId_iff.mp hc
    exact parseUserId_spelling u

/-- The identifier 42, braced and upper-cased behind `urn:uuid:` without hyphens, reads as its
canonical text, which reads as itself. -/
theorem parseUserId_canonical_tagged :
    IsCanonicalId "00000000-0000-0000-0000-00000000002a" ∧
    parseUserId (.ofString (spelling true false true true "00000000-0000-0000-0000-00000000002a")) =
      .ok "00000000-0000-0000-0000-00000000002a" ∧
    parseUserId (.ofString "00000000-0000-0000-0000-00000000002a") =
      .ok "00000000-0000-0000-0000-00000000002a" ∧
    (Uuid.digitPart (Text.ofString "0000000000000000000000000000002A")).length = 32 ∧
    (asciiNumeral? (Uuid.digitPart (Text.ofString "0000000000000000000000000000002A")) >>=
      readHexNumeral?) = some 42 ∧ 42 < Nat.pow 2 128 := by
  have hc : IsCanonicalId "00000000-0000-0000-0000-00000000002a" :=
    ⟨["00000000".toList, "0000".toList, "0000".toList, "0000".toList, "00000000002a".toList],
      by decide, by simp [isLowerHexDigit], by decide⟩
  have hs := parseUserId_canonical.2.2 _ hc true false true true
  have hlen : (Uuid.digitPart (Text.ofString "0000000000000000000000000000002A")).length = 32 := by
    decide
  have hv : (asciiNumeral? (Uuid.digitPart (Text.ofString "0000000000000000000000000000002A")) >>=
      readHexNumeral?) = some 42 := by
    decide
  exact ⟨hc, hs, (parseUserId_canonical.1 _ _ hs).2.1, hlen, hv,
    parseUserId_canonical.2.1 _ hlen 42 hv⟩

end UserDirectory.Account

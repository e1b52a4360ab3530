import Mathlib.Data.Rat.Floor
import UserDirectory.Proofs.Outcomes

/-!
# Page counts

A listing counts its pages as the quotient of the match count `t` by the page size `k`, rounded to
the nearest double and then up to an integer. The rounded quotient keeps 53 significant bits, and
below `2^-1022` its exponent stays at `-1074`.

* With at most `2^53` matches, and a page size below `2^1075 * t`, the count is exact: it is
  `⌈t / k⌉` (`pageCount_eq_ceil`). The quotient sits at least `1 / k` above the integer below its
  ceiling, and rounding moves it by less than that.
* From `k ≥ 2^1075 * t` on, the rounded quotient is zero and so is the count
  (`pageCount_eq_zero`), while the first page holds every match.

The bounds of `floorLog2` and of `roundHalfEven` are stated once, in natural numbers scaled by a
power of two (`floorLog2_le`, `lt_floorLog2_succ`, `roundHalfEven_le`, `lt_roundHalfEven`).
-/

namespace UserDirectory.Number

/-! ## Rounding a quotient to the nearest integer -/

theorem roundHalfEven_le {p q N : Nat} (hq : 0 < q) (h : p ≤ N * q) : roundHalfEven p q ≤ N := by
  have hdiv : p / q ≤ N := Nat.div_le_of_le_mul (by rwa [Nat.mul_comm] at h)
  have hmod := Nat.div_add_mod p q
  have hlt := Nat.mod_lt p hq
  dsimp only [roundHalfEven]
  split
  · -- rounding up from `N` itself would need a remainder, and `p ≤ N * q` leaves none
    rcases Nat.lt_or_ge (p / q) N with hl | hg
    · omega
    · have heq : p / q = N := by omega
      rw [heq, Nat.mul_comm] at hmod
      omega
  · exact hdiv

theorem lt_roundHalfEven {p q N : Nat} (hq : 0 < q) (h : (2 * N + 1) * q < 2 * p) :
    N + 1 ≤ roundHalfEven p q := by
  have hmod := Nat.div_add_mod p q
  have hlt := Nat.mod_lt p hq
  have hdiv : N ≤ p / q := by
    by_contra hc
    have hle : p / q + 1 ≤ N := by omega
    have : q * (p / q + 1) ≤ q * N := Nat.mul_le_mul_left q hle
    rw [Nat.mul_add, Nat.mul_one] at this
    have h2 : (2 * N + 1) * q = 2 * (q * N) + q := by ring
    omega
  dsimp only [roundHalfEven]
  split
  · omega
  · rename_i hnot
    rcases Nat.lt_or_ge N (p / q) with hl | hg
    · omega
    · -- at `N` exactly the remainder is more than half of `q`, so rounding goes up
      have heq : p / q = N := by omega
      rw [heq] at hmod hnot
      have h2 : (2 * N + 1) * q = 2 * (q * N) + q := by ring
      omega

theorem roundHalfEven_eq_zero {p q : Nat} (hq : 0 < q) (h : 2 * p ≤ q) : roundHalfEven p q = 0 := by
  have hdiv : p / q = 0 := Nat.div_eq_of_lt (by omega)
  have hmod : p % q = p := Nat.mod_eq_of_lt (by omega)
  dsimp only [roundHalfEven]
  simp only [hdiv, hmod]
  split
  · omega
  · rfl

theorem roundHalfEven_of_dvd {p q : Nat} (hq : 0 < q) (h : q ∣ p) : roundHalfEven p q = p / q := by
  have hmod : p % q = 0 := Nat.mod_eq_zero_of_dvd h
  dsimp only [roundHalfEven]
  simp only [hmod]
  split
  · omega
  · rfl

/-! ## The binary logarithm of a quotient -/

theorem cmpFrac_scale2_lt_iff (p q : Nat) (j : Int) (K : Nat) (h : 0 ≤ j + K) :
    cmpFrac (p, q) (scale2 1 j) = .lt ↔ p * 2 ^ K < 2 ^ (j + K).toNat * q := by
  unfold cmpFrac scale2
  split
  · rename_i hj
    have he : (j + K).toNat = j.toNat + K := by omega
    simp only [Nat.compare_eq_lt, Nat.mul_one, Nat.one_mul, Nat.pow_eq]
    rw [he, Nat.pow_add, Nat.mul_right_comm, Nat.mul_lt_mul_right (Nat.two_pow_pos K)]
  · rename_i hj
    have he : 2 ^ K = 2 ^ (-j).toNat * 2 ^ (j + K).toNat := by
      rw [← Nat.pow_add]
      congr 1
      omega
    simp only [Nat.compare_eq_lt, Nat.one_mul, Nat.pow_eq]
    rw [he, ← Nat.mul_assoc, Nat.mul_comm (2 ^ (j + K).toNat) q,
      Nat.mul_lt_mul_right (Nat.two_pow_pos _)]

variable {p q : Nat}

theorem floorLog2_le (hp : 0 < p) (K : Nat) (h : 0 ≤ floorLog2 p q + K) :
    2 ^ (floorLog2 p q + K).toNat * q ≤ p * 2 ^ K := by
  have hpl := Nat.log2_self_le hp.ne'
  have hqh := Nat.lt_log2_self (n := q)
  unfold floorLog2 at h ⊢
  dsimp only at h ⊢
  by_cases hlt : cmpFrac (p, q) (scale2 1 ((Nat.log2 p : Int) - Nat.log2 q)) = .lt
  · rw [if_pos hlt] at h ⊢
    have he : ((Nat.log2 p : Int) - Nat.log2 q - 1 + K).toNat + (Nat.log2 q + 1) =
        Nat.log2 p + K := by omega
    calc 2 ^ ((Nat.log2 p : Int) - Nat.log2 q - 1 + K).toNat * q
        ≤ 2 ^ ((Nat.log2 p : Int) - Nat.log2 q - 1 + K).toNat * 2 ^ (Nat.log2 q + 1) :=
          Nat.mul_le_mul_left _ hqh.le
      _ = 2 ^ Nat.log2 p * 2 ^ K := by rw [← Nat.pow_add, he, Nat.pow_add]
      _ ≤ p * 2 ^ K := Nat.mul_le_mul_right _ hpl
  · rw [if_neg hlt] at h ⊢
    rw [cmpFrac_scale2_lt_iff p q _ K h] at hlt
    exact Nat.le_of_not_lt hlt

theorem lt_floorLog2_succ (hq : 0 < q) (K : Nat) (h : 0 ≤ floorLog2 p q + 1 + K) :
    p * 2 ^ K < 2 ^ (floorLog2 p q + 1 + K).toNat * q := by
  have hph := Nat.lt_log2_self (n := p)
  have hql := Nat.log2_self_le hq.ne'
  unfold floorLog2 at h ⊢
  dsimp only at h ⊢
  by_cases hlt : cmpFrac (p, q) (scale2 1 ((Nat.log2 p : Int) - Nat.log2 q)) = .lt
  · rw [if_pos hlt] at h ⊢
    have he : (Nat.log2 p : Int) - Nat.log2 q - 1 + 1 + K =
        (Nat.log2 p : Int) - Nat.log2 q + K := by
      omega
    rw [he] at h ⊢
    exact (cmpFrac_scale2_lt_iff p q _ K h).mp hlt
  · rw [if_neg hlt] at h ⊢
    have he : ((Nat.log2 p : Int) - Nat.log2 q + 1 + K).toNat + Nat.log2 q =
        Nat.log2 p + 1 + K := by omega
    calc p * 2 ^ K < 2 ^ (Nat.log2 p + 1) * 2 ^ K :=
          Nat.mul_lt_mul_of_pos_right hph (Nat.two_pow_pos K)
      _ = 2 ^ ((Nat.log2 p : Int) - Nat.log2 q + 1 + K).toNat * 2 ^ Nat.log2 q := by
          rw [← Nat.pow_add, ← Nat.pow_add, he]
      _ ≤ 2 ^ ((Nat.log2 p : Int) - Nat.log2 q + 1 + K).toNat * q := Nat.mul_le_mul_left _ hql

end UserDirectory.Number

namespace UserDirectory.Account

open UserDirectory.Number Act

/-! ## The ceiling of a rounded quotient -/

theorem ceilOf_of_nonneg (m : Nat) {e : Int} (he : 0 ≤ e) :
    ceilOf (.finite false m e) = m * 2 ^ e.toNat := by
  simp [ceilOf, he]

theorem ceilOf_of_neg (m : Nat) {e : Int} (he : e < 0) :
    ceilOf (.finite false m e) = (m + 2 ^ (-e).toNat - 1) / 2 ^ (-e).toNat := by
  simp [ceilOf, Int.not_le.mpr he]

theorem ceilOf_carry (e : Int) :
    ceilOf (.finite false (Nat.pow 2 52) (e + 1)) = ceilOf (.finite false (Nat.pow 2 53) e) := by
  simp only [Nat.pow_eq]
  rcases Int.lt_or_le e (-1) with he | he
  · rw [ceilOf_of_neg _ (by omega), ceilOf_of_neg _ (by omega)]
    have hD : 2 ^ (-e).toNat = 2 * 2 ^ (-(e + 1)).toNat := by
      rw [← Nat.pow_succ']
      congr 1
      omega
    rw [hD, ← Nat.div_div_eq_div_mul]
    congr 1
    have h53 : (2 : Nat) ^ 53 = 2 * 2 ^ 52 := by norm_num
    have hpos := Nat.two_pow_pos (-(e + 1)).toNat
    omega
  · rcases Int.lt_or_le e 0 with he' | he'
    · -- `e = -1`: the carried mantissa is the integer `2^52`
      obtain rfl : e = -1 := by omega
      rw [ceilOf_of_nonneg _ (by omega), ceilOf_of_neg _ (by omega)]
      norm_num
    · rw [ceilOf_of_nonneg _ (by omega), ceilOf_of_nonneg _ he']
      have he1 : (e + 1).toNat = e.toNat + 1 := by omega
      rw [he1, Nat.pow_succ]
      ring

theorem ceilOf_nearest {p q m : Nat} {e : Int} (hp : 0 < p)
    (he : max (floorLog2 p q - 52) (-1074) = e) (hbig : e ≤ 970)
    (hm : roundHalfEven (if 0 ≤ e then p else p * 2 ^ (-e).toNat)
      (if 0 ≤ e then q * 2 ^ e.toNat else q) = m) :
    ceilOf (nearest false p q) = ceilOf (.finite false m e) := by
  unfold nearest
  rw [if_neg hp.ne']
  dsimp only
  rw [he]
  simp only [Nat.pow_eq]
  by_cases h0 : 0 ≤ e
  · simp only [h0, if_true] at hm ⊢
    rw [hm]
    by_cases hc : m = 2 ^ 53
    · rw [if_pos hc, if_neg (by omega), hc, ← Nat.pow_eq, ← Nat.pow_eq, ceilOf_carry]
    · rw [if_neg hc, if_neg (by omega)]
  · simp only [h0, if_false] at hm ⊢
    rw [hm]
    by_cases hc : m = 2 ^ 53
    · rw [if_pos hc, if_neg (by omega), hc, ← Nat.pow_eq, ← Nat.pow_eq, ceilOf_carry]
    · rw [if_neg hc, if_neg (by omega)]

/-! ## Exact page counts -/

theorem ceilDiv_bounds {t k : Nat} (ht : 0 < t) (hk : 0 < k) :
    0 < (t + k - 1) / k ∧ ((t + k - 1) / k - 1) * k < t ∧ t ≤ (t + k - 1) / k * k := by
  have hmod := Nat.div_add_mod (t + k - 1) k
  have hlt := Nat.mod_lt (t + k - 1) hk
  have hpos : 0 < (t + k - 1) / k := Nat.div_pos (by omega) hk
  have hsub : ((t + k - 1) / k - 1) * k = (t + k - 1) / k * k - k := Nat.sub_one_mul _ _
  rw [Nat.mul_comm] at hmod
  refine ⟨hpos, ?_, ?_⟩ <;> omega

theorem ceil_roundHalfEven {p q D c : Nat} (hq : 0 < q) (hD : 0 < D) (hc : 0 < c)
    (hlo : (2 * ((c - 1) * D) + 1) * q < 2 * (p * D)) (hhi : p ≤ c * q) :
    (roundHalfEven (p * D) q + D - 1) / D = c := by
  have hup : roundHalfEven (p * D) q ≤ c * D := roundHalfEven_le hq (by
    calc p * D ≤ c * q * D := Nat.mul_le_mul_right D hhi
      _ = c * D * q := by ring)
  have hdown := lt_roundHalfEven hq hlo
  have hcD : (c - 1) * D + D = c * D := by
    rw [← Nat.succ_mul, Nat.succ_eq_add_one, Nat.sub_add_cancel hc]
  apply Nat.div_eq_of_lt_le
  · omega
  · rw [Nat.succ_mul]
    omega

theorem gap_of_normal {t k D c : Nat} (ht : t ≤ 2 ^ 53) (hD : 0 < D) (hn : 2 ^ 52 * k ≤ t * D)
    (hc : (c - 1) * k < t) : (2 * ((c - 1) * D) + 1) * k < 2 * (t * D) := by
  have hkD : k ≤ 2 * D := by
    have h : 2 ^ 52 * k ≤ 2 ^ 52 * (2 * D) :=
      calc 2 ^ 52 * k ≤ t * D := hn
        _ ≤ 2 ^ 53 * D := Nat.mul_le_mul_right D ht
        _ = 2 ^ 52 * (2 * D) := by ring
    exact Nat.le_of_mul_le_mul_left h (by positivity)
  have hsplit : (2 * ((c - 1) * D) + 1) * k = 2 * ((c - 1) * k * D) + k := by ring
  rw [hsplit]
  rcases Nat.lt_or_ge t ((c - 1) * k + 2) with h1 | h2
  · have ht1 : t = (c - 1) * k + 1 := by omega
    have htD : t * D = (c - 1) * k * D + D := by rw [ht1]; ring
    rcases Nat.lt_or_ge k (2 * D) with hk2 | hk2
    · omega
    · -- `k = 2D` forces `t = 2^53`, which is even, while `t = (c - 1) * 2D + 1` is odd
      have hkeq : k = 2 * D := by omega
      have h53 : 2 ^ 53 * D ≤ t * D :=
        calc 2 ^ 53 * D = 2 ^ 52 * (2 * D) := by ring
          _ ≤ t * D := hkeq ▸ hn
      have ht53 : t = 2 ^ 53 := by have := Nat.le_of_mul_le_mul_right h53 hD; omega
      have hodd : (c - 1) * k = 2 * ((c - 1) * D) := by rw [hkeq]; ring
      omega
  · have : (c - 1) * k * D + 2 * D ≤ t * D :=
      calc (c - 1) * k * D + 2 * D = ((c - 1) * k + 2) * D := by ring
        _ ≤ t * D := Nat.mul_le_mul_right D h2
    omega

theorem pageCount_eq_zero {t k : Nat} (hu : 2 ^ 1075 * t ≤ k) : pageCount t k = 0 := by
  unfold pageCount
  split
  · rfl
  rename_i ht0
  have ht : 0 < t := Nat.pos_of_ne_zero ht0
  have hL : floorLog2 t k ≤ -1075 := by
    by_contra hc
    have hle := floorLog2_le (q := k) ht 1074 (by omega)
    have hk : k ≤ t * 2 ^ 1074 :=
      le_trans (Nat.le_mul_of_pos_left k (Nat.two_pow_pos _)) hle
    omega
  have hzero : roundHalfEven (if 0 ≤ (-1074 : Int) then t else t * 2 ^ (-(-1074 : Int)).toNat)
      (if 0 ≤ (-1074 : Int) then k * 2 ^ (-1074 : Int).toNat else k) = 0 := by
    simp only [show ¬ (0 : Int) ≤ -1074 by decide, if_false]
    refine roundHalfEven_eq_zero (by omega) ?_
    rw [show (-(-1074 : Int)).toNat = 1074 by decide]
    omega
  rw [ceilOf_nearest ht (by omega) (by decide) hzero, ceilOf_of_neg _ (by decide)]
  norm_num

-- one match on pages of `10^400` is counted on no page
example : pageCount 1 (10 ^ 400) = 0 := pageCount_eq_zero (by omega)

theorem floorLog2_le_53 {t k : Nat} (ht : 0 < t) (hk : 0 < k) (ht' : t ≤ 2 ^ 53) :
    floorLog2 t k ≤ 53 := by
  by_contra hc
  have hle := floorLog2_le (q := k) ht 0 (by omega)
  have h54 : 2 ^ 54 ≤ 2 ^ (floorLog2 t k + 0).toNat := Nat.pow_le_pow_right (by decide) (by omega)
  have : 2 ^ 54 * 1 ≤ t * 2 ^ 0 := le_trans (Nat.mul_le_mul h54 hk) hle
  omega

theorem ceilOf_nearest_subnormal {t k : Nat} (ht : 0 < t) (hk : 0 < k) (hu : k < 2 ^ 1075 * t)
    (hsub : floorLog2 t k < -1022) : ceilOf (nearest false t k) = (t + k - 1) / k := by
  have hlt := lt_floorLog2_succ (p := t) hk (-(floorLog2 t k + 1)).toNat (by omega)
  have h0 : (floorLog2 t k + 1 + ((-(floorLog2 t k + 1)).toNat : Int)).toNat = 0 := by omega
  rw [h0, Nat.pow_zero, Nat.one_mul] at hlt
  have htk : t < k :=
    lt_of_le_of_lt (Nat.le_mul_of_pos_right t (Nat.two_pow_pos (-(floorLog2 t k + 1)).toNat)) hlt
  have hc : (t + k - 1) / k = 1 := Nat.div_eq_of_lt_le (by omega) (by omega)
  rw [ceilOf_nearest ht (show max (floorLog2 t k - 52) (-1074) = -1074 by omega) (by decide)
    rfl, ceilOf_of_neg _ (by decide)]
  simp only [show ¬ (0 : Int) ≤ -1074 by decide, if_false]
  rw [hc]
  refine ceil_roundHalfEven hk (Nat.two_pow_pos _) (by decide) ?_ (by omega)
  simp only [Nat.sub_self, Nat.zero_mul, Nat.mul_zero, Nat.zero_add, Nat.one_mul]
  rw [show (-(-1074 : Int)).toNat = 1074 by decide]
  omega

theorem ceilOf_nearest_normal {t k : Nat} (ht : 0 < t) (hk : 0 < k) (ht' : t ≤ 2 ^ 53)
    (hnorm : -1022 ≤ floorLog2 t k) (hn : floorLog2 t k < 52) :
    ceilOf (nearest false t k) = (t + k - 1) / k := by
  obtain ⟨hc0, hc1, hc2⟩ := ceilDiv_bounds ht hk
  have he : max (floorLog2 t k - 52) (-1074) = floorLog2 t k - 52 := max_eq_left (by omega)
  have hn2 := floorLog2_le (q := k) ht (-(floorLog2 t k - 52)).toNat (by omega)
  have h52 : (floorLog2 t k + ((-(floorLog2 t k - 52)).toNat : Int)).toNat = 52 := by omega
  rw [h52] at hn2
  rw [ceilOf_nearest ht he (by omega) rfl, ceilOf_of_neg _ (by omega)]
  simp only [show ¬ (0 ≤ floorLog2 t k - 52) by omega, if_false]
  exact ceil_roundHalfEven hk (Nat.two_pow_pos _) hc0
    (gap_of_normal ht' (Nat.two_pow_pos _) hn2 hc1) hc2

theorem ceilOf_nearest_large {t k : Nat} (ht : 0 < t) (hk : 0 < k) (ht' : t ≤ 2 ^ 53)
    (hbig : 52 ≤ floorLog2 t k) : ceilOf (nearest false t k) = (t + k - 1) / k := by
  have hL53 := floorLog2_le_53 ht hk ht'
  have he : max (floorLog2 t k - 52) (-1074) = floorLog2 t k - 52 := max_eq_left (by omega)
  have hle := floorLog2_le (q := k) ht 0 (by omega)
  simp only [Nat.cast_zero, add_zero, Nat.pow_zero, Nat.mul_one] at hle
  have hsplitL : 2 ^ (floorLog2 t k).toNat = 2 ^ 52 * 2 ^ (floorLog2 t k - 52).toNat := by
    rw [← Nat.pow_add]
    congr 1
    omega
  rw [hsplitL] at hle
  set den := k * 2 ^ (floorLog2 t k - 52).toNat with hden
  have hden2 : den ≤ 2 := by
    have : 2 ^ 52 * den ≤ 2 ^ 52 * 2 := by
      calc 2 ^ 52 * den = 2 ^ 52 * 2 ^ (floorLog2 t k - 52).toNat * k := by rw [hden]; ring
        _ ≤ t := hle
        _ ≤ 2 ^ 53 := ht'
        _ = 2 ^ 52 * 2 := by norm_num
    exact Nat.le_of_mul_le_mul_left this (by positivity)
  have hden0 : 0 < den := Nat.mul_pos hk (Nat.two_pow_pos _)
  have hdvd : den ∣ t := by
    rcases (show den = 1 ∨ den = 2 by omega) with h1 | h2
    · rw [h1]
      exact Nat.one_dvd t
    · have : t = 2 ^ 53 := by
        have : 2 ^ 52 * 2 ≤ t := by
          calc 2 ^ 52 * 2 = 2 ^ 52 * den := by rw [h2]
            _ = 2 ^ 52 * 2 ^ (floorLog2 t k - 52).toNat * k := by rw [hden]; ring
            _ ≤ t := hle
        omega
      rw [h2, this]
      exact ⟨2 ^ 52, by norm_num⟩
  have hm : roundHalfEven
      (if 0 ≤ floorLog2 t k - 52 then t else t * 2 ^ (-(floorLog2 t k - 52)).toNat)
      (if 0 ≤ floorLog2 t k - 52 then k * 2 ^ (floorLog2 t k - 52).toNat else k) = t / den := by
    rw [if_pos (by omega), if_pos (by omega)]
    exact roundHalfEven_of_dvd hden0 hdvd
  rw [ceilOf_nearest ht he (by omega) hm, ceilOf_of_nonneg _ (by omega)]
  obtain ⟨j, hj⟩ := hdvd
  have hjt : t / den = j := by rw [hj, Nat.mul_div_cancel_left j hden0]
  have hX : t = j * 2 ^ (floorLog2 t k - 52).toNat * k :=
    calc t = den * j := hj
      _ = j * 2 ^ (floorLog2 t k - 52).toNat * k := by rw [hden]; ring
  rw [hjt]
  symm
  apply Nat.div_eq_of_lt_le
  · omega
  · rw [Nat.succ_mul]
    omega

theorem pageCount_eq_ceil {t k : Nat} (ht : 0 < t) (ht' : t ≤ 2 ^ 53) (hk : 0 < k)
    (hu : k < 2 ^ 1075 * t) : pageCount t k = (t + k - 1) / k := by
  unfold pageCount
  rw [if_neg ht.ne']
  rcases Int.lt_or_le (floorLog2 t k) (-1022) with hsub | hnorm
  · exact ceilOf_nearest_subnormal ht hk hu hsub
  rcases Int.lt_or_le (floorLog2 t k) 52 with hn | hbig
  · exact ceilOf_nearest_normal ht hk ht' hnorm hn
  · exact ceilOf_nearest_large ht hk ht' hbig

example : pageCount 45 20 = 3 := by decide

/-! ## What a listing reports about its pages -/

theorem natCeil_div (t : Nat) {k : Nat} (hk : 0 < k) : ⌈(t : ℚ) / k⌉₊ = (t + k - 1) / k := by
  rcases Nat.eq_zero_or_pos t with rfl | ht
  · simp only [Nat.cast_zero, zero_div, Nat.ceil_zero, Nat.zero_add]
    exact (Nat.div_eq_of_lt (by omega)).symm
  obtain ⟨hc0, hc1, hc2⟩ := ceilDiv_bounds ht hk
  have hk' : (0 : ℚ) < k := by exact_mod_cast hk
  rw [Nat.ceil_eq_iff hc0.ne', lt_div_iff₀ hk', div_le_iff₀ hk']
  exact ⟨by exact_mod_cast hc1, by exact_mod_cast hc2⟩

theorem lt_ceilDiv_iff {n t k : Nat} (hk : 0 < k) : n < (t + k - 1) / k ↔ n * k < t := by
  rw [Nat.lt_div_iff_mul_lt hk]
  omega

theorem le_ceilDiv_iff {n t k : Nat} (hn : 1 ≤ n) (hk : 0 < k) :
    n ≤ (t + k - 1) / k ↔ (n - 1) * k < t := by
  rw [← lt_ceilDiv_iff hk]
  omega

theorem take_drop_ne_nil {α : Type} (l : List α) (a : Nat) {k : Nat} (hk : 0 < k) :
    (l.drop a).take k ≠ [] ↔ a < l.length := by
  simp only [ne_eq, List.take_eq_nil_iff, List.drop_eq_nil_iff, not_or]
  omega

/-- What a listing of page `n` of size `k` reports about its pages: the flags against the page
count, the page holding matches exactly when it starts before their end, and the page count, which
is `⌈total / k⌉` up to `2^53` matches short of the underflow, and zero from it on. -/
structure PageMetadata (n k : Nat) (page : Page) : Prop where
  previous : page.hasPrevious = decide (1 < n)
  next : page.hasNext = decide (n < page.totalPages)
  nonEmpty : page.items ≠ [] ↔ (n - 1) * k < page.totalCount
  exact : page.totalCount ≤ 2 ^ 53 → k < 2 ^ 1075 * page.totalCount →
    page.totalPages = ⌈(page.totalCount : ℚ) / k⌉₊ ∧
      (page.hasNext = true ↔ n * k < page.totalCount) ∧ (page.items ≠ [] ↔ n ≤ page.totalPages)
  underflow : 2 ^ 1075 * page.totalCount ≤ k → page.totalPages = 0

theorem page_metadata (q : Query) (s : Store) (hn : 1 ≤ q.pageNumber) (hk : 0 < q.pageSize) :
    PageMetadata q.pageNumber q.pageSize (Store.page q s) := by
  have hitems : (Store.page q s).items ≠ [] ↔
      (q.pageNumber - 1) * q.pageSize < (Store.page q s).totalCount :=
    take_drop_ne_nil _ _ hk
  refine ⟨rfl, rfl, hitems, fun ht' hu => ?_, fun hu => pageCount_eq_zero hu⟩
  have ht : 0 < (Store.page q s).totalCount := by
    rcases Nat.eq_zero_or_pos (Store.page q s).totalCount with h | h
    · rw [h] at hu
      omega
    · exact h
  have hpages : (Store.page q s).totalPages =
      ((Store.page q s).totalCount + q.pageSize - 1) / q.pageSize :=
    pageCount_eq_ceil ht ht' hk hu
  refine ⟨hpages.trans (natCeil_div _ hk).symm, ?_, ?_⟩
  · show decide (q.pageNumber < (Store.page q s).totalPages) = true ↔ _
    rw [decide_eq_true_iff, hpages, lt_ceilDiv_iff hk]
  · rw [hitems, hpages, le_ceilDiv_iff hn hk]

theorem exec_listUsers_of_orEmpty {w : World} {r : ListRequest} {s : Text} {n k : Nat}
    (hs : r.search.orEmpty = .ok s) (hn : r.pageNumber = .whole n) (hk : r.pageSize = .whole k)
    (h₁ : 1 ≤ n) (h₂ : 1 ≤ k) (hr : w.store.readFailure = none) :
    (listUsers r).exec w =
      (.ok (.ok (Store.page
        { search := s.strip, sortBy := r.sortBy, direction := r.direction, pageNumber := n,
          pageSize := k, deleted := r.deleted } w.store)), w) := by
  have hn' : ¬ ((n : Int) < 1) := by omega
  have hk' : ¬ ((k : Int) < 1) := by omega
  unfold listUsers
  simp only [hs, hn, hk, Bound.belowOne, requireUse, Bound.whole?, hn', hk', decide_false,
    Bool.false_eq_true, if_false, exec_bind, exec_pure, Except.mapError, exec_attempt,
    exec_liftStore, Store.getPage, Store.reading_of_none _ hr, Option.isNone_some, Bool.or_self,
    Option.getD_some, Int.toNat_natCast]

/-- A listing of page `n` of size `k`, both at least one, from a store that reads, answers a page
with that metadata and changes nothing. -/
theorem listing_page_metadata {w : World} {r : ListRequest} {n k : Nat}
    (hr : w.store.readFailure = none) (hs : r.search.textOrNone = true)
    (hn : r.pageNumber = .whole n) (hk : r.pageSize = .whole k) (h₁ : 1 ≤ n) (h₂ : 1 ≤ k) :
    ∃ page, (listUsers r).exec w = (.ok (.ok page), w) ∧ page.pageNumber = n ∧
      page.pageSize = k ∧ PageMetadata n k page := by
  obtain ⟨s, hs'⟩ := orEmpty_of_textOrNone hs
  let q : Query :=
    { search := s.strip, sortBy := r.sortBy, direction := r.direction, pageNumber := n,
      pageSize := k, deleted := r.deleted }
  exact ⟨Store.page q w.store, exec_listUsers_of_orEmpty hs' hn hk h₁ h₂ hr, rfl, rfl,
    page_metadata q w.store h₁ h₂⟩

/-- The first page of the sample store's three live profiles, in pages of two, and in pages of
`10^400`: a size that far exceeds `2^1075` times the count, so the rounded page count is zero. -/
theorem listing_page_metadata_sample :
    let w : World := { store := Sample.store }
    let small : ListRequest := { pageSize := .whole (2 : Nat) }
    let huge : ListRequest := { pageSize := .whole (10 ^ 400 : Nat) }
    w.store.readFailure = none ∧ small.search.textOrNone = true ∧
      huge.search.textOrNone = true ∧ 1 ≤ 10 ^ 400 ∧
      (∃ page, (listUsers small).exec w = (.ok (.ok page), w) ∧ page.pageNumber = 1 ∧
        page.pageSize = 2 ∧ PageMetadata 1 2 page) ∧
      (∃ page, (listUsers huge).exec w = (.ok (.ok page), w) ∧ page.pageNumber = 1 ∧
        page.pageSize = 10 ^ 400 ∧ PageMetadata 1 (10 ^ 400) page) := by
  intro w small huge
  have hr : w.store.readFailure = none := Sample.store_reachable.readFailure
  have hhuge : 1 ≤ 10 ^ 400 := Nat.one_le_iff_ne_zero.mpr (pow_ne_zero _ (by decide))
  exact ⟨hr, rfl, rfl, hhuge,
    listing_page_metadata hr rfl rfl rfl (Nat.le_refl 1) (by decide),
    listing_page_metadata hr rfl rfl rfl (Nat.le_refl 1) hhuge⟩

end UserDirectory.Account

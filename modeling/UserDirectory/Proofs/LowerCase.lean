import UserDirectory.Unicode.Case

/-!
# Lower-casing twice is lower-casing once

Every character that `lower` writes is one that lower-casing keeps (`Kept`): it is no capital
sigma, so the Final_Sigma rule never looks at it again, and its own lower case is itself. So a
second lower-casing changes nothing (`lowerList_lowerList`, `lower_lower`).

The characters written are the final and the ordinary small sigma, the two characters of the
special mapping of U+0130, the characters that no run maps, and the images of the runs. The first
four are checked one by one. A character that no run maps is kept by definition. For the images,
the run that `lowerOne?` picks by binary search starts at or below the code point
(`countAtMost_pred_le`), so what it answers is the image of a position of that run
(`lowerOne?_image`); and every image of every run is checked to be kept, once, over the whole
table (`lowerImagesKept_eq`).
-/

namespace UserDirectory.Unicode

/-! ## The binary search -/

theorem countAtMost_pred_le (xs : Array Nat) (x lo hi : Nat) :
    countAtMost xs x lo hi = lo ∨ xs.getD (countAtMost xs x lo hi - 1) 0 ≤ x := by
  fun_induction countAtMost xs x lo hi with
  | case1 lo hi hlt mid hle ih =>
    rcases ih with h | h
    · right
      rw [h, Nat.add_sub_cancel]
      exact hle
    · exact .inr h
  | case2 lo hi hlt mid hgt ih =>
    exact ih
  | case3 lo hi hge =>
    exact .inl rfl

/-! ## What a run maps to -/

/-- The code point that a run maps its `i`-th code point to. -/
def LowerRun.image (r : LowerRun) (i : Nat) : Nat :=
  (((r.start + i * r.step : Nat) : Int) + r.delta).toNat

theorem lowerOne?_image {n m : Nat} (h : lowerOne? n = some m) :
    ∃ r ∈ lowerRuns.toList, ∃ i < r.count, m = r.image i := by
  unfold lowerOne? at h
  split at h
  · cases h
  · rename_i k hk
    split at h
    · cases h
    · rename_i r hr
      dsimp only at h
      split at h
      · rename_i hrun
        obtain ⟨hstep, hmod, hlt⟩ := hrun
        have hmem : r ∈ lowerRuns.toList :=
          List.mem_of_getElem? (by rw [Array.getElem?_toList]; exact hr)
        have hstart : r.start ≤ n := by
          rcases countAtMost_pred_le lowerRunStarts n 0 lowerRunStarts.size with h0 | hle
          · omega
          · rw [hk, Nat.succ_sub_one, Array.getD_eq_getD_getElem?, lowerRunStarts,
              Array.getElem?_map, hr] at hle
            exact hle
        have hn : n = r.start + (n - r.start) / r.step * r.step := by
          rw [Nat.div_mul_cancel (Nat.dvd_of_mod_eq_zero hmod)]
          omega
        refine ⟨r, hmem, (n - r.start) / r.step, hlt, ?_⟩
        cases h
        unfold LowerRun.image
        rw [← hn]
      · cases h

/-! ## Characters that lower-casing keeps -/

/-- A character that lower-casing keeps: it is no capital sigma, and its lower case is itself. -/
def Kept (d : Char) : Prop :=
  d.toNat ≠ 0x3A3 ∧ lowerChar d = [d]

instance : DecidablePred Kept := fun d =>
  inferInstanceAs (Decidable (d.toNat ≠ 0x3A3 ∧ lowerChar d = [d]))

/-- Whether every image of every run of the table is a character that lower-casing keeps. -/
def lowerImagesKept : Bool :=
  lowerRuns.toList.all fun r =>
    (List.range r.count).all fun i => decide (Kept (Char.ofNat (r.image i)))

theorem lowerImagesKept_eq : lowerImagesKept = true := by
  decide +kernel

theorem kept_of_lowerOne? {n m : Nat} (h : lowerOne? n = some m) : Kept (Char.ofNat m) := by
  obtain ⟨r, hr, i, hi, rfl⟩ := lowerOne?_image h
  have hall := List.all_eq_true.mp lowerImagesKept_eq r hr
  exact of_decide_eq_true (List.all_eq_true.mp hall i (List.mem_range.mpr hi))

theorem kept_outside_runs :
    Kept 'ς' ∧ Kept 'σ' ∧ Kept (Char.ofNat 0x69) ∧ Kept (Char.ofNat 0x307) := by
  decide +kernel

theorem eq_of_lowerSpecial_lookup {n : Nat} {ns : List Nat} (h : lowerSpecial.lookup n = some ns) :
    ns = [0x69, 0x307] := by
  simp only [lowerSpecial, List.lookup_cons, List.lookup_nil] at h
  split at h
  · cases h
    rfl
  · cases h

theorem kept_of_lowerSpecial {n : Nat} {ns : List Nat} (h : lowerSpecial.lookup n = some ns) :
    ∀ d ∈ ns.map Char.ofNat, Kept d := by
  have hns := eq_of_lowerSpecial_lookup h
  subst hns
  intro d hd
  simp only [List.map_cons, List.map_nil, List.mem_cons, List.not_mem_nil, or_false] at hd
  rcases hd with rfl | rfl
  · exact kept_outside_runs.2.2.1
  · exact kept_outside_runs.2.2.2

theorem kept_of_mem_lowerChar {c : Char} (hc : c.toNat ≠ 0x3A3) : ∀ d ∈ lowerChar c, Kept d := by
  unfold lowerChar
  split
  · rename_i ns hs
    exact kept_of_lowerSpecial hs
  · rename_i hs
    split
    · rename_i m hm
      intro d hd
      rw [List.mem_singleton.mp hd]
      exact kept_of_lowerOne? hm
    · rename_i hm
      intro d hd
      rw [List.mem_singleton.mp hd]
      refine ⟨hc, ?_⟩
      unfold lowerChar
      rw [hs, hm]

/-! ## Whole texts -/

theorem kept_of_mem_lowerFrom (afterCased : Bool) (cs : List Char) :
    ∀ d ∈ lowerFrom afterCased cs, Kept d := by
  induction cs generalizing afterCased with
  | nil => simp [lowerFrom]
  | cons c cs ih =>
    intro d hd
    simp only [lowerFrom, List.mem_append] at hd
    rcases hd with hd | hd
    · split at hd
      · split at hd
        · rw [List.mem_singleton.mp hd]
          exact kept_outside_runs.1
        · rw [List.mem_singleton.mp hd]
          exact kept_outside_runs.2.1
      · rename_i hc
        exact kept_of_mem_lowerChar hc d hd
    · exact ih _ d hd

theorem lowerFrom_of_kept (afterCased : Bool) {cs : List Char} (h : ∀ d ∈ cs, Kept d) :
    lowerFrom afterCased cs = cs := by
  induction cs generalizing afterCased with
  | nil => rfl
  | cons c cs ih =>
    obtain ⟨hsigma, hlower⟩ := h c List.mem_cons_self
    simp only [lowerFrom, hsigma, if_false, hlower, List.singleton_append,
      ih _ fun d hd => h d (List.mem_cons_of_mem c hd)]

theorem lowerList_lowerList (cs : List Char) : lowerList (lowerList cs) = lowerList cs :=
  lowerFrom_of_kept false (kept_of_mem_lowerFrom false cs)

theorem lower_lower (s : String) : lower (lower s) = lower s := by
  unfold lower
  rw [String.toList_ofList, lowerList_lowerList]

end UserDirectory.Unicode

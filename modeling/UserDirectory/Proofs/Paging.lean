import Mathlib.Data.String.Basic
import UserDirectory.Proofs.StoreUnique

/-!
# Listing pages are exact

A listing selects the stored profiles whose deletion flag is the one asked for and whose
lower-cased id, email or lower-cased display name holds the search text, stripped and lower-cased
(`Selects`). It orders them by the sort key in the direction asked, ties broken by ascending id in
both directions (`ListedBefore`). In a store whose ids are distinct these two rules leave one list
(`IsListing`, `IsListing.unique`): the sort keys are compared by a total preorder
(`keyLe_total`, `keyLe_trans`), and ids by a total order.

`orderedMatches` is that list: it sorts the matches by id and then, stably, by the key
(`orderedMatches_isListing`). Stability is what keeps ties in ascending id order when the
direction is descending.

From any reachable store, a listing with whole page bounds of at least 1 answers page `n` of size
`k` as the slice `[(n - 1) * k, n * k)` of that list and counts all of it; the pages up to the
last one partition it, and permuting the stored profiles changes nothing
(`listing_pages_exact`).
-/

namespace UserDirectory.Text

/-! ## Comparing code points -/

theorem codesLe_total : ∀ as bs : List Nat, (codesLe as bs || codesLe bs as) = true
  | [], _ => rfl
  | _ :: _, [] => rfl
  | a :: as, b :: bs => by
    have ih := codesLe_total as bs
    simp only [codesLe, Bool.or_eq_true, Bool.and_eq_true, beq_iff_eq, decide_eq_true_eq] at ih ⊢
    rcases Nat.lt_trichotomy a b with h | rfl | h
    · exact .inl (.inl h)
    · rcases ih with ih | ih
      · exact .inl (.inr ⟨rfl, ih⟩)
      · exact .inr (.inr ⟨rfl, ih⟩)
    · exact .inr (.inl h)

theorem codesLe_trans : ∀ {as bs cs : List Nat}, codesLe as bs = true → codesLe bs cs = true →
    codesLe as cs = true
  | [], _, _, _, _ => rfl
  | _ :: _, [], _, h, _ => by simp [codesLe] at h
  | _ :: _, _ :: _, [], _, h => by simp [codesLe] at h
  | a :: as, b :: bs, c :: cs, h₁, h₂ => by
    simp only [codesLe, Bool.or_eq_true, Bool.and_eq_true, beq_iff_eq, decide_eq_true_eq]
      at h₁ h₂ ⊢
    rcases h₁ with h₁ | ⟨rfl, h₁⟩ <;> rcases h₂ with h₂ | ⟨rfl, h₂⟩
    · exact .inl (by omega)
    · exact .inl h₁
    · exact .inl h₂
    · exact .inr ⟨rfl, codesLe_trans h₁ h₂⟩

end UserDirectory.Text

namespace UserDirectory.Account

open Act

/-! ## The order of a listing -/

theorem keyLe_total (field : SortField) (a b : Profile) :
    (keyLe field a b || keyLe field b a) = true := by
  cases field with
  | email => simpa [keyLe] using le_total a.email b.email
  | name => exact Text.codesLe_total _ _
  | createdAt => simpa [keyLe] using Int.le_total a.createdAt.micros b.createdAt.micros

theorem keyLe_trans (field : SortField) {a b c : Profile} (h₁ : keyLe field a b = true)
    (h₂ : keyLe field b c = true) : keyLe field a c = true := by
  cases field with
  | email =>
    simp only [keyLe, decide_eq_true_eq] at h₁ h₂ ⊢
    exact le_trans h₁ h₂
  | name => exact Text.codesLe_trans h₁ h₂
  | createdAt =>
    simp only [keyLe, decide_eq_true_eq] at h₁ h₂ ⊢
    exact Int.le_trans h₁ h₂

/-- Whether `a` comes no later than `b` by the sort key, in the direction asked. -/
def directedLe (field : SortField) (dir : SortDirection) (a b : Profile) : Bool :=
  match dir with
  | .asc => keyLe field a b
  | .desc => keyLe field b a

theorem directedLe_total (field : SortField) (dir : SortDirection) (a b : Profile) :
    (directedLe field dir a b || directedLe field dir b a) = true := by
  cases dir with
  | asc => exact keyLe_total field a b
  | desc => simpa [directedLe, Bool.or_comm] using keyLe_total field a b

theorem directedLe_trans (field : SortField) (dir : SortDirection) {a b c : Profile}
    (h₁ : directedLe field dir a b = true) (h₂ : directedLe field dir b c = true) :
    directedLe field dir a c = true := by
  cases dir with
  | asc => exact keyLe_trans field h₁ h₂
  | desc => exact keyLe_trans field h₂ h₁

/-- `a` is listed before `b`: its sort key comes no later in the direction asked, and when the
keys tie its id is the smaller. -/
def ListedBefore (field : SortField) (dir : SortDirection) (a b : Profile) : Prop :=
  directedLe field dir a b = true ∧ (directedLe field dir b a = true → a.id < b.id)

/-- A listing for the search text `search` and the deletion flag `deleted` selects a profile
with that flag whose lower-cased id, email or lower-cased display name holds the search text,
stripped and lower-cased; an empty search text selects all of them. -/
def Selects (search : Text) (deleted : Bool) (p : Profile) : Prop :=
  p.deleted = deleted ∧
    (search.strip.lower = Text.empty ∨
      search.strip.lower.points <:+: (Text.ofString p.id).lower.points ∨
      search.strip.lower.points <:+: (Text.ofString p.email).points ∨
      search.strip.lower.points <:+: p.displayName.lower.points)

/-- `M` lists the profiles of `ps` that `sel` selects, each once, in the order `before`. -/
structure IsListing (ps : List Profile) (sel : Profile → Prop)
    (before : Profile → Profile → Prop) (M : List Profile) : Prop where
  nodup : M.Nodup
  mem : ∀ p, p ∈ M ↔ p ∈ ps ∧ sel p
  sorted : M.Pairwise before

theorem IsListing.unique {ps : List Profile} {sel : Profile → Prop} {field : SortField}
    {dir : SortDirection} {M M' : List Profile} (h : IsListing ps sel (ListedBefore field dir) M)
    (h' : IsListing ps sel (ListedBefore field dir) M') : M = M' := by
  have hperm : M.Perm M' :=
    (List.perm_ext_iff_of_nodup h.nodup h'.nodup).mpr fun p => (h.mem p).trans (h'.mem p).symm
  refine hperm.eq_of_pairwise (fun a b _ _ hab hba => ?_) h.sorted h'.sorted
  exact absurd (hab.2 hba.1) (lt_asymm (hba.2 hab.1))

theorem IsListing.perm {ps ps' : List Profile} {sel : Profile → Prop}
    {before : Profile → Profile → Prop} {M : List Profile} (h : IsListing ps sel before M)
    (hperm : ps'.Perm ps) : IsListing ps' sel before M :=
  ⟨h.nodup, fun p => by rw [h.mem p, hperm.mem_iff], h.sorted⟩

/-! ## Stable sorting -/

section Pairs

open List

variable {α : Type} {l : List α} {a b : α}

theorem pair_sublist_or (ha : a ∈ l) (hb : b ∈ l) (hne : a ≠ b) : [a, b] <+ l ∨ [b, a] <+ l := by
  induction l with
  | nil => cases ha
  | cons x t ih =>
    rcases List.mem_cons.mp ha with rfl | ha'
    · have hb' : b ∈ t := (List.mem_cons.mp hb).resolve_left (Ne.symm hne)
      exact .inl ((List.singleton_sublist.mpr hb').cons_cons a)
    rcases List.mem_cons.mp hb with rfl | hb'
    · exact .inr ((List.singleton_sublist.mpr ha').cons_cons b)
    rcases ih ha' hb' with h | h
    · exact .inl (h.cons x)
    · exact .inr (h.cons x)

theorem eq_of_pair_sublists (hl : l.Nodup) (h₁ : [a, b] <+ l) (h₂ : [b, a] <+ l) : a = b := by
  induction l with
  | nil => cases h₁
  | cons x t ih =>
    have hx : x ∉ t := (List.nodup_cons.mp hl).1
    rcases List.sublist_cons_iff.mp h₁ with t₁ | ⟨r, e₁, s₁⟩ <;>
      rcases List.sublist_cons_iff.mp h₂ with t₂ | ⟨r', e₂, s₂⟩
    · exact ih (List.nodup_cons.mp hl).2 t₁ t₂
    · -- `b` is `x`, yet it stands in `t` after `a`
      obtain ⟨rfl, rfl⟩ := List.cons.inj e₂
      exact absurd (t₁.subset (by simp : b ∈ [a, b])) hx
    · obtain ⟨rfl, rfl⟩ := List.cons.inj e₁
      exact absurd (t₂.subset (by simp : a ∈ [b, a])) hx
    · obtain ⟨rfl, -⟩ := List.cons.inj e₁
      obtain ⟨rfl, -⟩ := List.cons.inj e₂
      rfl

end Pairs

section Stable

open List

variable {field : SortField} {dir : SortDirection} {byId : List Profile}

theorem pairwise_listedBefore (hid : byId.Pairwise fun a b => a.id < b.id) (hnd : byId.Nodup) :
    (byId.mergeSort (directedLe field dir)).Pairwise (ListedBefore field dir) := by
  have trans : ∀ a b c, directedLe field dir a b = true → directedLe field dir b c = true →
      directedLe field dir a c = true := fun _ _ _ => directedLe_trans field dir
  have total := directedLe_total field dir
  have hsorted := List.pairwise_mergeSort trans total byId
  have hnd' : (byId.mergeSort (directedLe field dir)).Nodup :=
    (List.mergeSort_perm byId _).nodup_iff.mpr hnd
  rw [List.pairwise_iff_forall_sublist]
  intro a b hab
  refine ⟨List.pairwise_iff_forall_sublist.mp hsorted hab, fun hba => ?_⟩
  have hne : a ≠ b := by
    have := hnd'.sublist hab
    simpa using this
  have ha : a ∈ byId := List.mem_mergeSort.mp (hab.subset (by simp))
  have hb : b ∈ byId := List.mem_mergeSort.mp (hab.subset (by simp))
  rcases pair_sublist_or ha hb hne with h | h
  · exact List.pairwise_iff_forall_sublist.mp hid h
  · exact absurd (eq_of_pair_sublists hnd' hab (List.pair_sublist_mergeSort trans total hba h)) hne

end Stable

/-! ## The matches of a query -/

theorem orderedMatches_eq (q : Query) (ps : List Profile) :
    orderedMatches q ps =
      (((ps.filter fun p => p.deleted == q.deleted).filter
        (matchesSearch q.search.strip.lower)).mergeSort fun a b => decide (a.id ≤ b.id)).mergeSort
        (directedLe q.sortBy q.direction) := by
  unfold orderedMatches directedLe
  cases q.direction <;> rfl

theorem matchesSearch_iff (needle : Text) (p : Profile) :
    matchesSearch needle p = true ↔
      (needle = Text.empty ∨ needle.points <:+: (Text.ofString p.id).lower.points ∨
        needle.points <:+: (Text.ofString p.email).points ∨
        needle.points <:+: p.displayName.lower.points) := by
  have hempty : needle.isEmpty = true ↔ needle = Text.empty :=
    ⟨Text.eq_empty_of_isEmpty, fun h => h ▸ Text.isEmpty_empty⟩
  simp only [matchesSearch, Text.isInfixOf, Bool.or_eq_true, Text.hasInfix_iff, hempty, or_assoc]

theorem pairwise_id_lt {ms : List Profile} (hids : (ms.map (·.id)).Nodup) :
    (ms.mergeSort fun a b => decide (a.id ≤ b.id)).Pairwise fun a b => a.id < b.id := by
  have hsorted := @List.pairwise_mergeSort Profile (fun a b => decide (a.id ≤ b.id))
    (fun _ _ _ h₁ h₂ => by simp only [decide_eq_true_eq] at *; exact le_trans h₁ h₂)
    (fun a b => by simpa using le_total a.id b.id) ms
  have hids' := ((List.mergeSort_perm ms fun a b : Profile => decide (a.id ≤ b.id)).map
    (·.id)).nodup_iff.mpr hids
  rw [List.Nodup, List.pairwise_map] at hids'
  exact (hsorted.and hids').imp fun ⟨hle, hne⟩ => lt_of_le_of_ne (by simpa using hle) hne

open List in
theorem orderedMatches_isListing {ps : List Profile} (hids : (ps.map (·.id)).Nodup) (q : Query) :
    IsListing ps (Selects q.search q.deleted) (ListedBefore q.sortBy q.direction)
      (orderedMatches q ps) := by
  set ms := (ps.filter fun p => p.deleted == q.deleted).filter (matchesSearch q.search.strip.lower)
  have hsub : ms <+ ps := List.filter_sublist.trans List.filter_sublist
  have hids' : (ms.map (·.id)).Nodup := hids.sublist (hsub.map _)
  have hnd : ms.Nodup := List.Nodup.of_map _ hids'
  have hperm : (orderedMatches q ps).Perm ms := by
    rw [orderedMatches_eq]
    exact (List.mergeSort_perm _ _).trans (List.mergeSort_perm _ _)
  refine ⟨hperm.nodup_iff.mpr hnd, fun p => ?_, ?_⟩
  · rw [hperm.mem_iff, List.mem_filter, List.mem_filter, matchesSearch_iff, beq_iff_eq, and_assoc]
    rfl
  · rw [orderedMatches_eq]
    exact pairwise_listedBefore (pairwise_id_lt hids') ((List.mergeSort_perm ms _).nodup_iff.mpr hnd)

/-! ## Pages -/

theorem flatMap_slices {α : Type} {k : Nat} (hk : 0 < k) :
    ∀ (m : Nat) (l : List α), l.length ≤ m * k →
      (List.range m).flatMap (fun i => (l.drop (i * k)).take k) = l
  | 0, l, h => by simp_all
  | m + 1, l, h => by
    have ih := flatMap_slices hk m (l.drop k) (by simp; rw [Nat.succ_mul] at h; omega)
    rw [List.range_succ_eq_map, List.flatMap_cons, List.flatMap_map]
    simp only [Nat.zero_mul, List.drop_zero, Nat.succ_mul, Nat.add_comm _ k, ← List.drop_drop]
    rw [ih, List.take_append_drop]

theorem le_pages_mul (m : Nat) {k : Nat} (hk : 0 < k) : m ≤ (m + k - 1) / k * k := by
  have := Nat.div_add_mod (m + k - 1) k
  have := Nat.mod_lt (m + k - 1) hk
  rw [Nat.mul_comm]
  omega

variable {w : World} {r : ListRequest} {s : Text} {n k : Nat}

theorem exec_listUsers (hs : r.search = .text s) (hn : r.pageNumber = .whole n)
    (hk : r.pageSize = .whole k) (h₁ : 1 ≤ n) (h₂ : 1 ≤ k) (hr : w.store.readFailure = none) :
    (listUsers r).exec w =
      (.ok (.ok (Store.page
        { search := s.strip, sortBy := r.sortBy, direction := r.direction, pageNumber := n,
          pageSize := k, deleted := r.deleted } w.store)), w) := by
  have hn' : ¬ ((n : Int) < 1) := by omega
  have hk' : ¬ ((k : Int) < 1) := by omega
  unfold listUsers
  simp only [hs, hn, hk, Bound.belowOne, requireUse, Bound.whole?, hn', hk', decide_false,
    Bool.false_eq_true, if_false, exec_bind, exec_pure, Given.orEmpty_text, Except.mapError,
    exec_attempt, exec_liftStore, Store.getPage, Store.reading_of_none _ hr, Option.isNone_some,
    Bool.or_self, Option.getD_some, Int.toNat_natCast]

/-- The profiles on page `n` of a listing request as the directory answers it, and none when it
answers no page. -/
def pageItems (w : World) (r : ListRequest) (n : Nat) : List Profile :=
  match ((listUsers { r with pageNumber := .whole n }).exec w).1 with
  | .ok (.ok page) => page.items
  | _ => []

/-- What a listing answers, page by page, over the listing `M` of a store. -/
structure ExactPages (w : World) (r : ListRequest) (n k : Nat) (M : List Profile) : Prop where
  /-- page `n` holds the slice `[(n - 1) * k, n * k)` of `M`, and all of `M` is counted -/
  page : ∃ page, (listUsers r).exec w = (.ok (.ok page), w) ∧ page.totalCount = M.length ∧
    page.items = (M.drop ((n - 1) * k)).take k
  /-- past the end of `M` a page is empty -/
  pastEnd : M.length ≤ (n - 1) * k → pageItems w r n = []
  /-- pages `1` to `⌈|M| / k⌉` partition `M` -/
  partition : (List.range ((M.length + k - 1) / k)).flatMap (fun i => pageItems w r (i + 1)) = M
  /-- the answer does not depend on the order of the stored profiles -/
  anyOrder : ∀ w' : World, w'.store.readFailure = none → w'.store.profiles.Perm w.store.profiles →
    ((listUsers r).exec w').1 = ((listUsers r).exec w).1

/-- Listing is exact paging over a total order. In every reachable store, for a search text, a
sort key, a direction, a deletion flag and page bounds `n, k ≥ 1`, the selected profiles have
exactly one listing `M` in the order asked (ties by ascending id), and the directory answers
page `n` as the slice `[(n - 1) * k, n * k)` of `M` with `|M|` as the count; pages past the end
are empty, the pages up to `⌈|M| / k⌉` partition `M`, and the order in which the profiles are
stored does not matter. -/
theorem listing_pages_exact (hreach : Store.Reachable w.store) (hs : r.search = .text s)
    (hn : r.pageNumber = .whole n) (hk : r.pageSize = .whole k) (h₁ : 1 ≤ n) (h₂ : 1 ≤ k) :
    ∃ M, IsListing w.store.profiles (Selects s r.deleted) (ListedBefore r.sortBy r.direction) M ∧
      (∀ M', IsListing w.store.profiles (Selects s r.deleted) (ListedBefore r.sortBy r.direction)
        M' → M' = M) ∧
      ExactPages w r n k M := by
  have hr := hreach.readFailure
  have hids := hreach.unique.ids
  let q : Query :=
    { search := s.strip
      sortBy := r.sortBy
      direction := r.direction
      pageNumber := n
      pageSize := k
      deleted := r.deleted }
  have hsel : Selects q.search q.deleted = Selects s r.deleted := by
    funext p
    simp only [Selects, q, Text.strip_strip]
  have hM : IsListing w.store.profiles (Selects s r.deleted) (ListedBefore r.sortBy r.direction)
      (orderedMatches q w.store.profiles) := hsel ▸ orderedMatches_isListing hids q
  have hpage : ∀ i, 1 ≤ i → pageItems w r i =
      ((orderedMatches q w.store.profiles).drop ((i - 1) * k)).take k := by
    intro i hi
    unfold pageItems
    rw [@exec_listUsers w { r with pageNumber := .whole i } s i k hs rfl hk hi h₂ hr]
    rfl
  refine ⟨_, hM, fun M' h' => h'.unique hM, ⟨⟨_, exec_listUsers hs hn hk h₁ h₂ hr, rfl, rfl⟩,
    fun hend => ?_, ?_, fun w' hr' hperm => ?_⟩⟩
  · rw [hpage n h₁, List.drop_eq_nil_of_le hend, List.take_nil]
  · conv_rhs => rw [← flatMap_slices (Nat.lt_of_lt_of_le Nat.zero_lt_one h₂) _
      (orderedMatches q w.store.profiles) (le_pages_mul _ (Nat.lt_of_lt_of_le Nat.zero_lt_one h₂))]
    refine List.flatMap_congr fun i _ => ?_
    rw [hpage (i + 1) (Nat.succ_le_succ (Nat.zero_le i)), Nat.add_sub_cancel]
  · -- both stores give listings of the same selection, which is one list
    have hids' : (w'.store.profiles.map (·.id)).Nodup := (hperm.map _).nodup_iff.mpr hids
    have hM' := (hsel ▸ orderedMatches_isListing hids' q).perm hperm.symm
    have heq := hM'.unique hM
    simp only [q] at heq
    rw [exec_listUsers hs hn hk h₁ h₂ hr', exec_listUsers hs hn hk h₁ h₂ hr]
    simp only [Store.page, heq]

/-- The sample store searched for "example", which every live profile's email holds, in pages of
two. The profiles were all created at one instant, so the listing orders them by id. -/
theorem listing_pages_exact_sample :
    let w : World := { store := Sample.store }
    let r : ListRequest :=
      { search := .text (Text.ofString "example"), pageNumber := .whole (2 : Nat),
        pageSize := .whole (2 : Nat) }
    Store.Reachable w.store ∧ r.search = .text (Text.ofString "example") ∧
      r.pageNumber = .whole (2 : Nat) ∧ r.pageSize = .whole (2 : Nat) ∧ 1 ≤ 2 ∧ 1 ≤ 2 ∧
      ∃ M, IsListing w.store.profiles (Selects (Text.ofString "example") r.deleted)
          (ListedBefore r.sortBy r.direction) M ∧
        (∀ M', IsListing w.store.profiles (Selects (Text.ofString "example") r.deleted)
          (ListedBefore r.sortBy r.direction) M' → M' = M) ∧
        ExactPages w r 2 2 M :=
  ⟨Sample.store_reachable, rfl, rfl, rfl, by decide, by decide,
    listing_pages_exact Sample.store_reachable rfl rfl rfl (by decide) (by decide)⟩

end UserDirectory.Account

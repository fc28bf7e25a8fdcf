import Mathlib.Data.List.Nodup
import Mathlib.Data.List.Sort
import Mathlib.Data.List.TakeDrop

/-! Results that are read page by page, each page by a query of its own. -/

namespace Paging

universe u v
variable {α : Type u} {β : Type v} [LinearOrder β] {key : α → β} {rows sorted sorted' page : List α}
  {offset limit size k m : ℕ} {a b x y : α}

/-- One of the orders that `ORDER BY key DESC` permits. -/
structure Arranged (key : α → β) (rows sorted : List α) : Prop where
  perm : sorted.Perm rows
  descending : sorted.Pairwise fun a b => key b ≤ key a

/-- What `OFFSET` and `LIMIT` leave of such an order. -/
def Page (key : α → β) (rows : List α) (offset limit : ℕ) (page : List α) : Prop :=
  ∃ sorted, Arranged key rows sorted ∧ page = (sorted.drop offset).take limit

/-- However each query orders the rows, the pages before the first empty one are the rows. -/
def Partitioned (key : α → β) (rows : List α) (size : ℕ) : Prop :=
  ∀ page : ℕ → List α, (∀ k, Page key rows (k * size) size (page k)) →
    ∃ count, page count = [] ∧ (∀ k < count, page k ≠ []) ∧
      ((List.range count).flatMap page).Perm rows

def before (key : α → β) (rows : List α) (a : α) : ℕ := rows.countP fun b => decide (key a < key b)

def upTo (key : α → β) (rows : List α) (a : α) : ℕ := rows.countP fun b => decide (key a ≤ key b)

/-- No page ends between two rows with one key. -/
def Separated (key : α → β) (rows : List α) (size : ℕ) : Prop :=
  ∀ a ∈ rows, ∀ k, k * size ≤ before key rows a ∨ upTo key rows a ≤ k * size

/-! ## The first rows of an order -/

theorem arranged_mergeSort (key : α → β) (rows : List α) :
    Arranged key rows (rows.mergeSort fun a b => decide (key b ≤ key a)) where
  perm := List.mergeSort_perm ..
  descending := by
    have hsorted : (rows.mergeSort fun a b => decide (key b ≤ key a)).Pairwise fun a b =>
        decide (key b ≤ key a) = true := List.pairwise_mergeSort
      (fun a b c hab hbc => decide_eq_true
        ((of_decide_eq_true hbc).trans (of_decide_eq_true hab)))
      (fun a b => by simpa using le_total (key b) (key a)) rows
    exact hsorted.imp of_decide_eq_true

namespace Arranged

theorem before_eq (h : Arranged key rows sorted) (a : α) :
    before key rows a = before key sorted a := (h.perm.countP_eq _).symm

theorem upTo_eq (h : Arranged key rows sorted) (a : α) : upTo key rows a = upTo key sorted a :=
  (h.perm.countP_eq _).symm

theorem le_of_take_of_drop (h : Arranged key rows sorted) (ha : a ∈ sorted.take m)
    (hb : b ∈ sorted.drop m) : key b ≤ key a := by
  have hsplit := h.descending
  rw [← List.take_append_drop m sorted, List.pairwise_append] at hsplit
  exact hsplit.2.2 a ha b hb

/-- A row among the first `m` has fewer than `m` rows before its key. -/
theorem before_lt (h : Arranged key rows sorted) (ha : a ∈ sorted.take m) :
    before key rows a < m := by
  have hnone : (sorted.drop m).countP (fun b => decide (key a < key b)) = 0 :=
    List.countP_eq_zero.mpr fun b hb => by simpa using h.le_of_take_of_drop ha hb
  have hlt : (sorted.take m).countP (fun b => decide (key a < key b)) < (sorted.take m).length := by
    refine lt_of_le_of_ne List.countP_le_length fun hall => ?_
    have hself := List.countP_eq_length.mp hall a ha
    simp at hself
  have hlength : (sorted.take m).length ≤ m := List.length_take_le ..
  rw [h.before_eq, before, ← List.take_append_drop m sorted, List.countP_append, hnone]
  omega

/-- A row after the first `m` has more than `m` rows up to its key. -/
theorem lt_upTo (h : Arranged key rows sorted) (hb : b ∈ sorted.drop m) : m < upTo key rows b := by
  have hall : (sorted.take m).countP (fun a => decide (key b ≤ key a)) = (sorted.take m).length :=
    List.countP_eq_length.mpr fun a ha => by simpa using h.le_of_take_of_drop ha hb
  have hself : 0 < (sorted.drop m).countP (fun a => decide (key b ≤ key a)) :=
    List.countP_pos_iff.mpr ⟨b, hb, by simp⟩
  have hlength : (sorted.take m).length = m := by
    have hdrop := List.length_pos_of_mem hb
    rw [List.length_drop] at hdrop
    exact List.length_take_of_le (by omega)
  rw [h.upTo_eq, upTo, ← List.take_append_drop m sorted, List.countP_append, hall, hlength]
  omega

/-- Where no key is on both sides of `m`, all orders have the same first `m` rows. -/
theorem take_perm (h : Arranged key rows sorted) (h' : Arranged key rows sorted')
    (hm : ∀ a ∈ rows, m ≤ before key rows a ∨ upTo key rows a ≤ m) :
    (sorted.take m).Perm (sorted'.take m) := by
  have hfirst {sorted : List α} (h : Arranged key rows sorted) :
      (sorted.take m).Perm (rows.filter fun a => decide (upTo key rows a ≤ m)) := by
    have hin : (sorted.take m).filter (fun a => decide (upTo key rows a ≤ m)) = sorted.take m := by
      refine List.filter_eq_self.mpr fun a ha => decide_eq_true ?_
      have hbefore := h.before_lt ha
      have hboth := hm a (h.perm.mem_iff.mp (List.mem_of_mem_take ha))
      omega
    have hout : (sorted.drop m).filter (fun a => decide (upTo key rows a ≤ m)) = [] := by
      refine List.filter_eq_nil_iff.mpr fun b hb => ?_
      have hupTo := h.lt_upTo hb
      simp only [decide_eq_true_eq]
      omega
    have hfilter := h.perm.filter fun a => decide (upTo key rows a ≤ m)
    rwa [← List.take_append_drop m sorted, List.filter_append, hin, hout, List.append_nil]
      at hfilter
  exact (hfirst h).trans (hfirst h').symm

/-- The last of the first rows has the least key of them. -/
theorem last_le (h : Arranged key rows sorted) (hx : sorted[m]? = some x)
    (ha : a ∈ sorted.take (m + 1)) : key x ≤ key a := by
  rw [List.take_add_one, hx] at ha
  obtain ha | ha := List.mem_append.mp ha
  · have hlast : x ∈ sorted.drop m := by
      rw [← List.head?_drop] at hx
      exact List.mem_of_head? hx
    exact h.le_of_take_of_drop ha hlast
  · have heq : a = x := by simpa using ha
    rw [heq]

/-- The first of the other rows has the greatest key of them. -/
theorem le_first (h : Arranged key rows sorted) (hy : sorted[m]? = some y)
    (hb : b ∈ sorted.drop m) :
    key b ≤ key y := by
  have hhead : (sorted.drop m).head? = some y := by rw [List.head?_drop, hy]
  obtain ⟨rest, hrest⟩ := List.head?_eq_some_iff.mp hhead
  have htail := h.descending.sublist (List.drop_sublist m sorted)
  rw [hrest] at hb htail
  obtain rfl | hb := List.mem_cons.mp hb
  · exact le_rfl
  · exact (List.pairwise_cons.mp htail).1 b hb

/-- Where a key is on both sides of a boundary, the two rows next to the boundary share theirs. -/
theorem key_eq (h : Arranged key rows sorted) (hx : sorted[m]? = some x)
    (hy : sorted[m + 1]? = some y) (ha : a ∈ rows) (hbefore : before key rows a < m + 1)
    (hupTo : m + 1 < upTo key rows a) : key x = key y := by
  have hlength : (sorted.take (m + 1)).length = m + 1 := by
    obtain ⟨hlt, -⟩ := List.getElem?_eq_some_iff.mp hy
    exact List.length_take_of_le hlt.le
  have hfirst : y ∈ sorted.drop (m + 1) := by
    rw [← List.head?_drop] at hy
    exact List.mem_of_head? hy
  have hlast : x ∈ sorted.take (m + 1) := by
    rw [List.take_add_one, hx]
    simp
  refine le_antisymm (not_lt.mp fun hlt => ?_) (h.le_of_take_of_drop hlast hfirst)
  -- with two keys at the boundary, each key would be on one side of it
  have hmem := h.perm.mem_iff.mpr ha
  rw [← List.take_append_drop (m + 1) sorted] at hmem
  obtain hmem | hmem := List.mem_append.mp hmem
  · have hnone : (sorted.drop (m + 1)).countP (fun b => decide (key a ≤ key b)) = 0 := by
      refine List.countP_eq_zero.mpr fun b hb => ?_
      have hb' := (h.le_first hy hb).trans_lt (hlt.trans_le (h.last_le hx hmem))
      simpa using hb'
    have hle : (sorted.take (m + 1)).countP (fun b => decide (key a ≤ key b)) ≤ m + 1 :=
      List.countP_le_length.trans_eq hlength
    rw [h.upTo_eq, upTo, ← List.take_append_drop (m + 1) sorted, List.countP_append, hnone] at hupTo
    omega
  · have hlt' : ∀ b ∈ sorted.take (m + 1), key a < key b := fun b hb =>
      (h.le_first hy hmem).trans_lt (hlt.trans_le (h.last_le hx hb))
    have hall : (sorted.take (m + 1)).countP (fun b => decide (key a < key b)) = m + 1 := by
      rw [List.countP_eq_length.mpr fun b hb => decide_eq_true (hlt' b hb), hlength]
    rw [h.before_eq, before, ← List.take_append_drop (m + 1) sorted, List.countP_append,
      hall] at hbefore
    omega

/-- Two neighbours with one key may as well stand the other way round. -/
theorem exists_swapped (h : Arranged key rows sorted) (hx : sorted[m]? = some x)
    (hy : sorted[m + 1]? = some y) (hkey : key x = key y) :
    ∃ sorted', Arranged key rows sorted' ∧ sorted'[m + 1]? = some x := by
  obtain ⟨hm, hx'⟩ := List.getElem?_eq_some_iff.mp hx
  obtain ⟨hm', hy'⟩ := List.getElem?_eq_some_iff.mp hy
  have hsplit : sorted = sorted.take m ++ x :: y :: sorted.drop (m + 2) := by
    rw [← hx', ← hy', ← List.drop_eq_getElem_cons hm', ← List.drop_eq_getElem_cons hm,
      List.take_append_drop]
  have hlength : (sorted.take m).length = m := List.length_take_of_le hm.le
  refine ⟨sorted.take m ++ y :: x :: sorted.drop (m + 2), ⟨?_, ?_⟩, ?_⟩
  · refine List.Perm.trans ?_ h.perm
    conv_rhs => rw [hsplit]
    exact (List.Perm.swap x y _).append_left _
  · have hdescending := h.descending
    rw [hsplit] at hdescending
    simp only [List.pairwise_append, List.pairwise_cons, List.mem_cons, forall_eq_or_imp,
      hkey] at hdescending ⊢
    obtain ⟨hfront, ⟨⟨-, hxs⟩, hys, hrest⟩, hacross⟩ := hdescending
    exact ⟨hfront, ⟨⟨le_rfl, hys⟩, hxs, hrest⟩, fun a ha =>
      ⟨(hacross a ha).2.1, (hacross a ha).1, (hacross a ha).2.2⟩⟩
  · rw [List.getElem?_append_right (by omega), hlength]
    simp

end Arranged

/-! ## The pages of a run -/

theorem page_eq_nil_iff (hsize : 0 < size) (h : Page key rows offset size page) :
    page = [] ↔ rows.length ≤ offset := by
  obtain ⟨sorted, harranged, rfl⟩ := h
  rw [← List.length_eq_zero_iff, List.length_take, List.length_drop, harranged.perm.length_eq]
  omega

variable {pages : ℕ → List α}

/-- The pages so far are the first rows of any one order. -/
theorem flatMap_pages_perm (hseparated : Separated key rows size) (h : Arranged key rows sorted)
    (hpages : ∀ k, Page key rows (k * size) size (pages k)) (count : ℕ) :
    ((List.range count).flatMap pages).Perm (sorted.take (count * size)) := by
  induction count with
  | zero => simp
  | succ count ih =>
    obtain ⟨sorted', h', hpage⟩ := hpages count
    have hsame := h.take_perm h' fun a ha => hseparated a ha count
    have hnext := h'.take_perm h fun a ha => hseparated a ha (count + 1)
    rw [List.range_succ, List.flatMap_append, List.flatMap_singleton]
    refine ((ih.trans hsame).append_right _).trans ?_
    rwa [hpage, ← List.take_add, ← Nat.succ_mul]

theorem partitioned_of_separated (hsize : 0 < size) (h : Separated key rows size) :
    Partitioned key rows size := by
  intro pages hpages
  have hend : ∃ count, rows.length ≤ count * size :=
    ⟨rows.length, Nat.le_mul_of_pos_right _ hsize⟩
  classical
  refine ⟨Nat.find hend, (page_eq_nil_iff hsize (hpages _)).mpr (Nat.find_spec hend),
    fun k hk hnil => ?_, ?_⟩
  · exact Nat.find_min hend hk ((page_eq_nil_iff hsize (hpages k)).mp hnil)
  · have harranged := arranged_mergeSort key rows
    have hperm := flatMap_pages_perm h harranged hpages (Nat.find hend)
    rw [List.take_of_length_le (by rw [harranged.perm.length_eq]; exact Nat.find_spec hend)]
      at hperm
    exact hperm.trans harranged.perm

/-- A row that one query puts last on a page, another one may put first on the next page. -/
theorem exists_repeated (hsize : 0 < size) (h : ¬ Separated key rows size) :
    ∃ pages : ℕ → List α, (∀ k, Page key rows (k * size) size (pages k)) ∧
      ∃ k x, (k + 1) * size < rows.length ∧ x ∈ pages k ∧ x ∈ pages (k + 1) := by
  simp only [Separated, not_forall, not_or, not_le] at h
  obtain ⟨a, ha, k, hbefore, hupTo⟩ := h
  have harranged := arranged_mergeSort key rows
  generalize rows.mergeSort (fun a b => decide (key b ≤ key a)) = sorted at harranged
  obtain ⟨k, rfl⟩ : ∃ j, k = j + 1 := Nat.exists_eq_succ_of_ne_zero (by rintro rfl; omega)
  obtain ⟨m, hm⟩ : ∃ m, (k + 1) * size = m + 1 :=
    Nat.exists_eq_succ_of_ne_zero (by rintro hzero; omega)
  rw [hm] at hbefore hupTo
  have hlength : m + 1 < rows.length := hupTo.trans_le List.countP_le_length
  rw [← harranged.perm.length_eq] at hlength
  have hx : sorted[m]? = some sorted[m] := List.getElem?_eq_getElem _
  have hy : sorted[m + 1]? = some sorted[m + 1] := List.getElem?_eq_getElem _
  obtain ⟨sorted', harranged', hx'⟩ := harranged.exists_swapped hx hy
    (harranged.key_eq hx hy ha hbefore hupTo)
  -- the row is the last of page `k` in the one order, and the first of the next page in the other
  refine ⟨fun j => ((if j = k + 1 then sorted' else sorted).drop (j * size)).take size,
    fun j => ?_, k, sorted[m], ?_, ?_, ?_⟩
  · dsimp only
    split
    · exact ⟨sorted', harranged', rfl⟩
    · exact ⟨sorted, harranged, rfl⟩
  · rwa [hm, ← harranged.perm.length_eq]
  · have hlt : m - k * size < size := by
      rw [Nat.succ_mul] at hm
      omega
    dsimp only
    rw [if_neg (by omega)]
    refine List.mem_of_getElem? (i := m - k * size) ?_
    rw [List.getElem?_take_of_lt hlt, List.getElem?_drop, ← hx]
    congr 1
    rw [Nat.succ_mul] at hm
    omega
  · dsimp only
    rw [if_pos rfl]
    refine List.mem_of_getElem? (i := 0) ?_
    rw [List.getElem?_take_of_lt hsize, List.getElem?_drop, Nat.add_zero, hm, hx']

/-- The pages are the rows, whatever the queries do, if and only if no page ends within a key. -/
theorem partitioned_iff (hsize : 0 < size) (hnodup : rows.Nodup) :
    Partitioned key rows size ↔ Separated key rows size := by
  refine ⟨fun h => ?_, partitioned_of_separated hsize⟩
  by_contra hnot
  obtain ⟨pages, hpages, k, x, hlength, hx, hx'⟩ := exists_repeated hsize hnot
  obtain ⟨count, hlast, -, hperm⟩ := h pages hpages
  have hend := (page_eq_nil_iff hsize (hpages count)).mp hlast
  have hk : k + 1 < count := Nat.lt_of_mul_lt_mul_right (hlength.trans_le hend)
  have hdistinct := (List.nodup_flatMap.mp (hperm.nodup_iff.mpr hnodup)).2
  have hrelated :=
    List.pairwise_iff_getElem.mp hdistinct k (k + 1) (by simp; omega) (by simpa using hk)
    (Nat.lt_succ_self k)
  simp only [List.getElem_range] at hrelated
  exact hrelated hx hx'

end Paging

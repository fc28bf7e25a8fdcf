import Mathlib.Data.List.Basic
import Mathlib.Order.Lattice
import Mathlib.Logic.Function.Basic

/-! A key-value store whose reads may lag behind its writes, and queries that read it in the order
of its keys, page by page. -/

namespace LaggingStore

universe u v
variable {κ : Type u} {ν : Type v}

/-- The newest version of each key, and the older ones that a read may still return. -/
structure Store (κ : Type u) (ν : Type v) where
  newest : κ → Option ν
  older : κ → List (Option ν)

namespace Store

def empty : Store κ ν := ⟨fun _ => none, fun _ => []⟩

def write [DecidableEq κ] (s : Store κ ν) (k : κ) (v : Option ν) : Store κ ν where
  newest := Function.update s.newest k v
  older := Function.update s.older k (s.newest k :: s.older k)

/-- From now on, reads of the key return its newest version. -/
def settle [DecidableEq κ] (s : Store κ ν) (k : κ) : Store κ ν :=
  { s with older := Function.update s.older k [] }

def Readable (s : Store κ ν) (k : κ) (v : Option ν) : Prop := v = s.newest k ∨ v ∈ s.older k

/-- Every read of the key returns this version. -/
def Held (s : Store κ ν) (k : κ) (v : Option ν) : Prop := ∀ v', s.Readable k v' → v' = v

variable {s : Store κ ν} {k k' : κ} {v v' : Option ν}

theorem readable_newest (s : Store κ ν) (k : κ) : s.Readable k (s.newest k) := .inl rfl

theorem readable_empty : (empty : Store κ ν).Readable k v ↔ v = none := by
  simp [Readable, empty]

theorem Held.newest (h : s.Held k v) : s.newest k = v := h _ (readable_newest s k)

variable [DecidableEq κ]

theorem readable_write : (s.write k v).Readable k' v' ↔ (k' = k ∧ v' = v) ∨ s.Readable k' v' := by
  unfold Readable write
  by_cases hk : k' = k
  · subst hk
    simp
  · simp [hk]

theorem Readable.of_settle (h : (s.settle k).Readable k' v') : s.Readable k' v' := by
  unfold Readable settle at h
  by_cases hk : k' = k
  · subst hk
    exact .inl (by simpa using h)
  · simpa [Readable, hk] using h

theorem held_settle (s : Store κ ν) (k : κ) : (s.settle k).Held k (s.newest k) := by
  intro v' hv'
  simpa [Readable, settle] using hv'

theorem Held.settle (h : s.Held k v) (k' : κ) : (s.settle k').Held k v :=
  fun v' hv' => h v' hv'.of_settle

theorem Held.write_of_ne (h : s.Held k v) (hne : k ≠ k') : (s.write k' v').Held k v := by
  intro v'' hv''
  obtain ⟨heq, -⟩ | hv'' := readable_write.mp hv''
  · exact absurd heq hne
  · exact h v'' hv''

end Store

/-! ## Queries -/

/-- What a query sees: one version of each key that a read may return. -/
structure View [LT κ] (s : Store κ ν) (items : List (κ × ν)) : Prop where
  ascending : items.Pairwise fun a b => a.1 < b.1
  readable : ∀ item ∈ items, s.Readable item.1 (some item.2)
  absent : ∀ k, (∀ item ∈ items, item.1 ≠ k) → s.Readable k none

variable [LinearOrder κ] {s : Store κ ν} {items page scanned : List (κ × ν)} {start last : Option κ}
  {k : κ} {v : ν}

def after (start : Option κ) (items : List (κ × ν)) : List (κ × ν) :=
  match start with
  | none => items
  | some k => items.filter fun item => k < item.1

/-- The first items after the start key, and the key to go on from where there may be more. -/
structure Page (items : List (κ × ν)) (start : Option κ) (page : List (κ × ν)) (last : Option κ) :
    Prop where
  first : page <+: after start items
  exhausted : last = none → page = after start items
  resumes : ∀ k ∈ last, page.getLast?.map Prod.fst = some k

/-- What the pages up to the start key have returned. -/
structure Scan (start : Option κ) (scanned : List (κ × ν)) : Prop where
  ascending : scanned.Pairwise fun a b => a.1 < b.1
  upTo : ∀ item ∈ scanned, ∃ k ∈ start, item.1 ≤ k

theorem Scan.nil : Scan (none : Option κ) ([] : List (κ × ν)) := ⟨.nil, by simp⟩

theorem mem_after : (k, v) ∈ after start items ↔ (k, v) ∈ items ∧ ∀ k' ∈ start, k' < k := by
  cases start with
  | none => simp [after]
  | some k' => simp [after]

theorem after_sublist (start : Option κ) (items : List (κ × ν)) :
    (after start items).Sublist items := by
  cases start with
  | none => exact List.Sublist.refl _
  | some k => exact List.filter_sublist

/-- A page goes on where the last one ended, and returns no key again. -/
theorem Scan.ascending_append (h : Scan start scanned) (hview : View s items)
    (hpage : Page items start page last) :
    (scanned ++ page).Pairwise fun a b => a.1 < b.1 := by
  have hsub := hpage.first.sublist
  rw [List.pairwise_append]
  refine ⟨h.ascending, hview.ascending.sublist (hsub.trans (after_sublist start items)), ?_⟩
  intro a ha b hb
  obtain ⟨k, hk, hle⟩ := h.upTo a ha
  exact hle.trans_lt ((mem_after.mp (hsub.subset hb)).2 k hk)

theorem Scan.next (h : Scan start scanned) (hview : View s items)
    (hpage : Page items start page last) (hlast : last = some k) :
    Scan (some k) (scanned ++ page) := by
  have hascending := h.ascending_append hview hpage
  refine ⟨hascending, fun item hitem => ⟨k, rfl, ?_⟩⟩
  -- the last item of the page has this key, and no item comes after it
  obtain ⟨final, hfinal, rfl⟩ := Option.map_eq_some_iff.mp (hpage.resumes k hlast)
  obtain ⟨front, rfl⟩ := List.getLast?_eq_some_iff.mp hfinal
  rw [← List.append_assoc] at hascending hitem
  obtain hitem | hitem := List.mem_append.mp hitem
  · exact ((List.pairwise_append.mp hascending).2.2 item hitem final (by simp)).le
  · rw [List.mem_singleton.mp hitem]

/-- A view shows a key that all reads agree on. -/
theorem View.mem_of_held (hview : View s items) (hheld : s.Held k (some v)) : (k, v) ∈ items := by
  by_contra hnot
  have hnone : s.Readable k none := by
    refine hview.absent k fun item hitem heq => hnot ?_
    have hsame := hheld _ (heq ▸ hview.readable item hitem)
    rw [← heq, ← Option.some.inj hsame]
    exact hitem
  exact absurd (hheld none hnone) (by simp)

/-- A key that a page has passed is on that page or on an earlier one. -/
theorem mem_of_passed (hview : View s items) (hpage : Page items start page last)
    (hheld : s.Held k (some v)) (hbefore : (∃ k' ∈ start, k ≤ k') → (k, v) ∈ scanned)
    (hpassed : ∀ k' ∈ last, k ≤ k') : (k, v) ∈ scanned ++ page := by
  by_cases hstart : ∃ k' ∈ start, k ≤ k'
  · exact List.mem_append_left _ (hbefore hstart)
  · refine List.mem_append_right _ ?_
    have hafter : (k, v) ∈ after start items :=
      mem_after.mpr ⟨hview.mem_of_held hheld, fun k' hk' => not_le.mp fun hle =>
        hstart ⟨k', hk', hle⟩⟩
    cases last with
    | none =>
      rw [hpage.exhausted rfl]
      exact hafter
    | some k' =>
      -- what the page leaves out comes after its last key
      obtain ⟨final, hfinal, rfl⟩ := Option.map_eq_some_iff.mp (hpage.resumes k' rfl)
      obtain ⟨rest, hrest⟩ := hpage.first
      rw [← hrest] at hafter
      obtain hmem | hmem := List.mem_append.mp hafter
      · exact hmem
      · have hsorted := hview.ascending.sublist (after_sublist start items)
        rw [← hrest] at hsorted
        have hlt := (List.pairwise_append.mp hsorted).2.2 final
          (List.mem_of_getLast? hfinal) (k, v) hmem
        exact absurd (hpassed _ rfl) (not_le.mpr hlt)

end LaggingStore

import Mathlib.Algebra.Order.Group.Defs
import Mathlib.Algebra.Order.Sub.Defs
import Mathlib.Algebra.Order.Group.Unbundled.Basic
import Mathlib.Data.List.Basic
import Mathlib.Data.List.Pairwise
import Mathlib.Order.Interval.Set.Basic

/-! Sliding windows: a log of times, and a bucket that is pruned of what has left the window. -/

namespace SlidingWindow

universe u
variable {T : Type u} [LinearOrder T] {bucket log entries : List T} {cutoff cutoff' now now' : T}

def recent (log : List T) (cutoff : T) : List T := log.filter fun e => decide (cutoff < e)

@[simp] theorem recent_nil : recent [] cutoff = [] := rfl

theorem recent_append (log log' : List T) :
    recent (log ++ log') cutoff = recent log cutoff ++ recent log' cutoff := List.filter_append ..

/-- What a later cutoff leaves does not depend on what an earlier one took away. -/
theorem recent_recent (h : cutoff ≤ cutoff') :
    recent (recent log cutoff) cutoff' = recent log cutoff' := by
  unfold recent
  rw [List.filter_filter]
  apply List.filter_congr
  intro e _
  have hboth : (cutoff' < e ∧ cutoff < e) ↔ cutoff' < e := and_iff_left_of_imp h.trans_lt
  rw [← Bool.decide_and, decide_eq_decide]
  exact hboth

theorem recent_eq_self (h : ∀ e ∈ log, cutoff < e) : recent log cutoff = log :=
  List.filter_eq_self.mpr fun e he => decide_eq_true (h e he)

/-- In a list in order, popping from the front removes exactly what is not after the cutoff. -/
theorem dropWhile_le_eq_recent (h : entries.Pairwise (· ≤ ·)) (cutoff : T) :
    entries.dropWhile (fun e => decide (e ≤ cutoff)) = recent entries cutoff := by
  induction entries with
  | nil => rfl
  | cons e entries ih =>
    obtain ⟨hhead, htail⟩ := List.pairwise_cons.mp h
    by_cases he : e ≤ cutoff
    · have hdrop : recent (e :: entries) cutoff = recent entries cutoff :=
        List.filter_cons_of_neg (by simpa using he)
      rw [List.dropWhile_cons_of_pos (by simpa using he), ih htail, hdrop]
    · have hall : ∀ d ∈ e :: entries, cutoff < d := by
        intro d hd
        obtain rfl | hd := List.mem_cons.mp hd
        · exact not_le.mp he
        · exact (not_le.mp he).trans_le (hhead d hd)
      rw [List.dropWhile_cons_of_neg (by simpa using he), recent_eq_self hall]

/-! ## Buckets -/

/-- A bucket is in order and holds nothing later than now. -/
structure Ordered (bucket : List T) (now : T) : Prop where
  sorted : bucket.Pairwise (· ≤ ·)
  upTo : ∀ e ∈ bucket, e ≤ now

theorem Ordered.nil : Ordered ([] : List T) now := ⟨.nil, nofun⟩

theorem Ordered.later (h : Ordered bucket now) (hnow : now ≤ now') : Ordered bucket now' :=
  ⟨h.sorted, fun e he => (h.upTo e he).trans hnow⟩

theorem Ordered.prune (h : Ordered bucket now) (cutoff : T) :
    Ordered (bucket.dropWhile fun e => decide (e ≤ cutoff)) now where
  sorted := h.sorted.sublist (List.dropWhile_sublist _)
  upTo e he := h.upTo e ((List.dropWhile_sublist _).subset he)

theorem Ordered.snoc (h : Ordered bucket now) : Ordered (bucket ++ [now]) now where
  sorted := by
    refine List.pairwise_append.mpr ⟨h.sorted, List.pairwise_singleton .., ?_⟩
    intro e he d hd
    rw [List.mem_singleton.mp hd]
    exact h.upTo e he
  upTo e he := by
    obtain he | he := List.mem_append.mp he
    · exact h.upTo e he
    · exact le_of_eq (List.mem_singleton.mp he)

/-- The bucket agrees with the log about all that is after the cutoff. -/
structure Follows (bucket log : List T) (cutoff now : T) : Prop extends Ordered bucket now where
  agrees : recent bucket cutoff = recent log cutoff

theorem Follows.nil : Follows ([] : List T) [] cutoff now := ⟨.nil, rfl⟩

theorem Follows.later (h : Follows bucket log cutoff now) (hcutoff : cutoff ≤ cutoff')
    (hnow : now ≤ now') : Follows bucket log cutoff' now' where
  toOrdered := h.toOrdered.later hnow
  agrees := by
    rw [← recent_recent hcutoff, h.agrees, recent_recent hcutoff]

theorem Follows.dropWhile_eq (h : Follows bucket log cutoff now) :
    bucket.dropWhile (fun e => decide (e ≤ cutoff)) = recent log cutoff := by
  rw [dropWhile_le_eq_recent h.sorted, h.agrees]

/-- A bucket that is pruned still follows its log. -/
theorem Follows.prune (h : Follows bucket log cutoff now) :
    Follows (bucket.dropWhile fun e => decide (e ≤ cutoff)) log cutoff now where
  toOrdered := h.toOrdered.prune cutoff
  agrees := by
    rw [h.dropWhile_eq, recent_recent le_rfl]

theorem Follows.snoc (h : Follows bucket log cutoff now) :
    Follows (bucket ++ [now]) (log ++ [now]) cutoff now where
  toOrdered := h.toOrdered.snoc
  agrees := by
    rw [recent_append, recent_append, h.agrees]

variable {capacity : ℕ}

/-- The bucket has no more entries than it may have. -/
structure Holds (bucket : List T) (capacity : ℕ) (now : T) : Prop extends Ordered bucket now where
  length_le : bucket.length ≤ capacity

theorem Holds.nil : Holds ([] : List T) capacity now := ⟨.nil, Nat.zero_le _⟩

theorem Holds.later (h : Holds bucket capacity now) (hnow : now ≤ now') :
    Holds bucket capacity now' :=
  ⟨h.toOrdered.later hnow, h.length_le⟩

theorem Holds.prune (h : Holds bucket capacity now) (cutoff : T) :
    Holds (bucket.dropWhile fun e => decide (e ≤ cutoff)) capacity now :=
  ⟨h.toOrdered.prune cutoff, (List.dropWhile_sublist _).length_le.trans h.length_le⟩

theorem Holds.snoc (h : Holds bucket capacity now) (hroom : bucket.length < capacity) :
    Holds (bucket ++ [now]) capacity now where
  toOrdered := h.toOrdered.snoc
  length_le := by
    rw [List.length_append, List.length_singleton]
    exact hroom

/-- A full bucket has room again when its oldest entry is not after the cutoff, and no sooner. -/
theorem Holds.room_iff {oldest : T} {rest : List T} (h : Holds (oldest :: rest) capacity now)
    (hfull : capacity ≤ (oldest :: rest).length) :
    ((oldest :: rest).dropWhile fun e => decide (e ≤ cutoff)).length < capacity ↔
      oldest ≤ cutoff := by
  have hlength := h.length_le
  rw [List.length_cons] at hfull hlength
  constructor
  · intro hroom
    by_contra hlate
    rw [List.dropWhile_cons_of_neg (by simpa using hlate), List.length_cons] at hroom
    omega
  · intro hold
    rw [List.dropWhile_cons_of_pos (by simpa using hold)]
    have hrest := (List.dropWhile_sublist (l := rest) fun e => decide (e ≤ cutoff)).length_le
    omega

/-! ## Events in the order of their times -/

section Events

universe v
variable {α : Type v} {time : α → T} {events before after : List α} {a : α}

/-- The events come in the order of their times, and none is later than now. -/
structure InOrder (time : α → T) (events : List α) (now : T) : Prop where
  pairwise : events.Pairwise fun first second => time first ≤ time second
  upTo : ∀ a ∈ events, time a ≤ now

theorem InOrder.of_append
    (h : (before ++ a :: after).Pairwise fun first second => time first ≤ time second) :
    InOrder time before (time a) := by
  obtain ⟨hbefore, -, hcross⟩ := List.pairwise_append.mp h
  exact ⟨hbefore, fun first hfirst => hcross first hfirst a List.mem_cons_self⟩

/-- All but the last one are in order up to the last one, which is not later than now. -/
theorem InOrder.of_snoc (h : InOrder time (events ++ [a]) now) :
    InOrder time events (time a) ∧ time a ≤ now :=
  ⟨.of_append h.pairwise, h.upTo a (List.mem_append_right _ List.mem_cons_self)⟩

theorem InOrder.sublist {fewer : List α} (h : InOrder time events now)
    (hless : fewer.Sublist events) : InOrder time fewer now :=
  ⟨h.pairwise.sublist hless, fun a ha => h.upTo a (hless.subset ha)⟩

theorem exists_inOrder [Nonempty T]
    (h : events.Pairwise fun first second => time first ≤ time second) :
    ∃ now, InOrder time events now := by
  obtain rfl | ⟨events, a, rfl⟩ := events.eq_nil_or_concat
  · exact ⟨Classical.arbitrary T, .nil, nofun⟩
  · rw [List.concat_eq_append] at h ⊢
    refine ⟨time a, h, fun b hb => ?_⟩
    obtain hb | hb := List.mem_append.mp hb
    · exact (InOrder.of_append h).upTo b hb
    · exact le_of_eq (congrArg time (List.mem_singleton.mp hb))

/-- Up to now, as many times are recent as lie in the window that ends now. -/
theorem length_recent_of_upTo (h : ∀ e ∈ log, e ≤ now) :
    (recent log cutoff).length = log.countP fun e => e ∈ Set.Ioc cutoff now := by
  unfold recent
  rw [List.countP_eq_length_filter]
  congr 1
  apply List.filter_congr
  intro e he
  rw [decide_eq_decide]
  exact (and_iff_left (h e he)).symm

end Events

/-! ## A log whose every entry found room -/

section Admitted

variable [AddCommGroup T] {window : T} {p : T → Bool}

/-- Each time of the log found fewer than `capacity` of the earlier ones in the window before it. -/
inductive Admitted (window : T) (capacity : ℕ) : List T → Prop
  | nil : Admitted window capacity []
  | snoc {log : List T} {t : T} (h : Admitted window capacity log)
      (hroom : (recent log (t - window)).length < capacity) : Admitted window capacity (log ++ [t])

/-- No more than `capacity` times of the log are so close that each is in the window before every
other. -/
theorem Admitted.length_filter_le (h : Admitted window capacity log)
    (hp : ∀ e t, p e = true → p t = true → t - window < e) : (log.filter p).length ≤ capacity := by
  induction h with
  | nil => exact Nat.zero_le _
  | @snoc log t h hroom ih =>
    rw [List.filter_append, List.length_append]
    by_cases ht : p t = true
    · have hsub : (log.filter p).length ≤ (recent log (t - window)).length :=
        (List.monotone_filter_right log fun e he => decide_eq_true (hp e t he ht)).length_le
      rw [List.filter_cons_of_pos ht]
      simp only [List.filter_nil, List.length_singleton]
      omega
    · rw [List.filter_cons_of_neg ht]
      exact ih

end Admitted

end SlidingWindow

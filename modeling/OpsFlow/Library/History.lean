import Mathlib.Data.List.Nodup

/-! Lists that grow at their end. -/

namespace History

universe u v
variable {α : Type u} {β : Type v}

/-- A history in which every entry has its own key grows by an entry with a new key. -/
theorem nodup_filterMap_snoc {key : α → Option β} {history : List α} {a : α}
    (h : (history.filterMap key).Nodup)
    (hnew : ∀ b ∈ history, ∀ c, key b = some c → key a ≠ some c) :
    ((history ++ [a]).filterMap key).Nodup := by
  rw [List.filterMap_append, List.nodup_append]
  refine ⟨h, ?_, fun c hc d hd => ?_⟩
  · cases ha : key a <;> simp [ha]
  · obtain ⟨b, hb, hkey⟩ := List.mem_filterMap.mp hc
    obtain ⟨b', hb', hkey'⟩ := List.mem_filterMap.mp hd
    obtain rfl := List.mem_singleton.mp hb'
    rintro rfl
    exact hnew b hb c hkey hkey'

/-- Every entry starts where the one before it has ended: the first one at the first argument, and
the last one ends at the last. -/
def Chained (source target : α → β) : β → List α → β → Prop
  | b, [], b' => b = b'
  | b, a :: as, b' => source a = b ∧ Chained source target (target a) as b'

theorem Chained.snoc {source target : α → β} {as : List α} {a : α} {b b' : β}
    (h : Chained source target b as b') (ha : source a = b') :
    Chained source target b (as ++ [a]) (target a) := by
  induction as generalizing b with
  | nil => exact ⟨ha.trans h.symm, rfl⟩
  | cons c as ih => exact ⟨h.1, ih h.2⟩

end History

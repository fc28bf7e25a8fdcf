import Mathlib.Data.List.AList
import Mathlib.Data.Finset.Card
import Mathlib.Data.Set.Function

/-! Dictionaries whose keys are replaced, one entry after the other. -/

namespace Rekeying

universe u v
variable {α β : Type u} {V W : Type v} [DecidableEq β]
  {f : α → β} {g : α → V → W} {d : AList fun _ : α => V} {a : α} {b : β} {x : V}

/-- The entries that have been passed are assigned in turn; the last one with a key wins. -/
def rekeyEntries (f : α → β) (g : α → V → W) (entries : List (Sigma fun _ : α => V)) :
    AList fun _ : β => W :=
  entries.foldl (fun s e => s.insert (f e.1) (g e.1 e.2)) ∅

def rekey (f : α → β) (g : α → V → W) (d : AList fun _ : α => V) : AList fun _ : β => W :=
  rekeyEntries f g d.entries

theorem rekeyEntries_snoc (entries : List (Sigma fun _ : α => V)) (e : Sigma fun _ : α => V) :
    rekeyEntries f g (entries ++ [e]) =
      (rekeyEntries f g entries).insert (f e.1) (g e.1 e.2) := by
  unfold rekeyEntries
  rw [List.foldl_append]
  rfl

theorem mem_rekeyEntries (entries : List (Sigma fun _ : α => V)) :
    b ∈ rekeyEntries f g entries ↔ b ∈ (entries.map Sigma.fst).map f := by
  induction entries using List.reverseRecOn with
  | nil => exact iff_of_false (AList.notMem_empty b) List.not_mem_nil
  | append_singleton entries e ih =>
    rw [rekeyEntries_snoc, AList.mem_insert, ih]
    simp only [List.map_append, List.mem_append, List.map_cons, List.map_nil, List.mem_singleton]
    exact or_comm

theorem mem_rekey : b ∈ rekey f g d ↔ ∃ a ∈ d, f a = b :=
  (mem_rekeyEntries d.entries).trans List.mem_map

/-- Where no two keys meet, each entry is found under its new key. -/
theorem lookup_rekeyEntries {entries : List (Sigma fun _ : α => V)}
    (hnodup : ((entries.map Sigma.fst).map f).Nodup) {e : Sigma fun _ : α => V}
    (he : e ∈ entries) : (rekeyEntries f g entries).lookup (f e.1) = some (g e.1 e.2) := by
  induction entries using List.reverseRecOn with
  | nil => cases he
  | append_singleton entries last ih =>
    rw [List.map_append, List.map_append, List.nodup_append] at hnodup
    obtain ⟨hentries, -, hnew⟩ := hnodup
    rw [rekeyEntries_snoc]
    obtain he | he := List.mem_append.mp he
    · have hne : f e.1 ≠ f last.1 :=
        hnew _ (List.mem_map_of_mem (List.mem_map_of_mem he)) _ List.mem_cons_self
      rw [AList.lookup_insert_ne hne]
      exact ih hentries he
    · obtain rfl := List.mem_singleton.mp he
      exact AList.lookup_insert _

omit [DecidableEq β] in
theorem nodup_map_keys_iff : (d.keys.map f).Nodup ↔ Set.InjOn f {a | a ∈ d} := by
  refine ⟨fun h a ha a' ha' heq => List.inj_on_of_nodup_map h ha ha' heq, fun h => ?_⟩
  exact List.Nodup.map_on (fun a ha a' ha' => h ha ha') d.keys_nodup

theorem lookup_rekey [DecidableEq α] (hinj : Set.InjOn f {a | a ∈ d}) (h : d.lookup a = some x) :
    (rekey f g d).lookup (f a) = some (g a x) :=
  lookup_rekeyEntries (e := ⟨a, x⟩) (nodup_map_keys_iff.mpr hinj) (AList.mem_lookup_iff.mp h)

/-- No entry is lost if and only if no two keys meet. -/
theorem length_rekey_iff :
    (rekey f g d).keys.length = d.keys.length ↔ Set.InjOn f {a | a ∈ d} := by
  have hsame : (rekey f g d).keys.toFinset = (d.keys.map f).toFinset := by
    ext b
    rw [List.mem_toFinset, List.mem_toFinset]
    exact mem_rekeyEntries d.entries
  have hlength : (d.keys.map f).length = d.keys.length := List.length_map f
  rw [← nodup_map_keys_iff, ← List.toFinset_card_of_nodup (rekey f g d).keys_nodup, hsame,
    ← hlength]
  exact Multiset.toFinset_card_eq_card_iff_nodup (m := (d.keys.map f : Multiset β))

end Rekeying

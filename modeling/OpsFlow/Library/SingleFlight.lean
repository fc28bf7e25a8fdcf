import OpsFlow.Library.Transition

/-! Calls that share a flight: whoever calls while a flight is current joins it. -/

namespace SingleFlight

universe u
variable {β : Type u}

/-- A caller, before and after it has received what came of its flight. The caller that leads has
started the flight and ends its being current. -/
structure Caller (β : Type u) where
  flight : ℕ
  leads : Bool
  received : Option β

/-- `flights` are all that were ever started, with what came of them. -/
structure State (β : Type u) where
  current : Option ℕ
  flights : List (Option β)
  callers : List (Caller β)

variable {s s' : State β}

def State.start : State β := ⟨none, [], []⟩

def State.UnderWay (s : State β) (f : ℕ) : Prop := s.flights[f]? = some none

inductive Step : State β → State β → Prop
  | lead {s : State β} (outcome : Option β) : s.current = none →
      Step s ⟨some s.flights.length, s.flights ++ [outcome],
        s.callers ++ [⟨s.flights.length, true, none⟩]⟩
  | join {s : State β} {f : ℕ} : s.current = some f →
      Step s { s with callers := s.callers ++ [⟨f, false, none⟩] }
  | land {s : State β} {f : ℕ} (b : β) : s.UnderWay f →
      Step s { s with flights := s.flights.set f (some b) }
  | receive {s : State β} {c f : ℕ} {leads : Bool} {b : β} :
      s.callers[c]? = some ⟨f, leads, none⟩ → s.flights[f]? = some (some b) →
      Step s { s with
        current := if leads then none else s.current
        callers := s.callers.set c ⟨f, leads, some b⟩ }

/-- A flight under way is current, and its leader, who alone can end that, waits for it. -/
structure State.Inv (s : State β) : Prop where
  current : ∀ f, s.UnderWay f → s.current = some f
  known : ∀ f, s.current = some f → f < s.flights.length
  leader : ∀ c f : ℕ, s.callers[c]? = some ⟨f, true, none⟩ → s.current = some f
  alone : ∀ c c' f f' : ℕ, s.callers[c]? = some ⟨f, true, none⟩ →
    s.callers[c']? = some ⟨f', true, none⟩ → c = c'
  received : ∀ (c f : ℕ) leads b, s.callers[c]? = some ⟨f, leads, some b⟩ →
    s.flights[f]? = some (some b)

theorem State.Inv.start : (State.start : State β).Inv :=
  ⟨nofun, nofun, nofun, nofun, nofun⟩

theorem State.Inv.underWay_unique (h : s.Inv) {f g : ℕ} (hf : s.UnderWay f) (hg : s.UnderWay g) :
    f = g :=
  Option.some.inj ((h.current f hf).symm.trans (h.current g hg))

/-- The end of a list that has grown by one entry. -/
theorem getElem?_snoc {α : Type u} {as : List α} {a b : α} {i : ℕ} (h : (as ++ [a])[i]? = some b) :
    as[i]? = some b ∨ i = as.length ∧ a = b := by
  rw [List.getElem?_append] at h
  split_ifs at h with hi
  · exact .inl h
  · obtain ⟨hlt, rfl⟩ := List.getElem?_eq_some_iff.mp h
    rw [List.length_singleton] at hlt
    exact .inr ⟨by omega, by simp⟩

theorem getElem?_snoc_of {α : Type u} {as : List α} {b : α} {i : ℕ} (a : α) (h : as[i]? = some b) :
    (as ++ [a])[i]? = some b := by
  obtain ⟨hlt, -⟩ := List.getElem?_eq_some_iff.mp h
  rw [List.getElem?_append_left hlt]
  exact h

theorem State.Inv.lead (h : s.Inv) (outcome : Option β) (hnone : s.current = none) :
    State.Inv ⟨some s.flights.length, s.flights ++ [outcome],
      s.callers ++ [⟨s.flights.length, true, none⟩]⟩ := by
  have hquiet : ∀ c f : ℕ, s.callers[c]? ≠ some ⟨f, true, none⟩ := fun c f hc =>
    nomatch hnone.symm.trans (h.leader c f hc)
  refine ⟨fun f hf => ?_, fun f hf => ?_, fun c f hc => ?_, fun c c' f f' hc hc' => ?_,
    fun c f leads b hc => ?_⟩
  · obtain hf | ⟨rfl, -⟩ := getElem?_snoc hf
    · exact nomatch hnone.symm.trans (h.current f hf)
    · rfl
  · obtain rfl := Option.some.inj hf
    simp
  · obtain hc | ⟨-, heq⟩ := getElem?_snoc hc
    · exact absurd hc (hquiet c f)
    · cases heq
      rfl
  · obtain hc | ⟨rfl, -⟩ := getElem?_snoc hc
    · exact absurd hc (hquiet c f)
    · obtain hc' | ⟨rfl, -⟩ := getElem?_snoc hc'
      · exact absurd hc' (hquiet c' f')
      · rfl
  · obtain hc | ⟨-, heq⟩ := getElem?_snoc hc
    · exact getElem?_snoc_of outcome (h.received c f leads b hc)
    · cases heq

theorem State.Inv.join (h : s.Inv) (f : ℕ) :
    State.Inv { s with callers := s.callers ++ [⟨f, false, none⟩] } := by
  have hold : ∀ {c g : ℕ} {leads received}, (s.callers ++ [⟨f, false, none⟩])[c]? =
      some (⟨g, leads, received⟩ : Caller β) → leads = true ∨ received.isSome →
      s.callers[c]? = some ⟨g, leads, received⟩ := by
    intro c g leads received hc hwhich
    obtain hc | ⟨-, heq⟩ := getElem?_snoc hc
    · exact hc
    · cases heq
      simp at hwhich
  exact ⟨h.current, h.known, fun c g hc => h.leader c g (hold hc (.inl rfl)),
    fun c c' g g' hc hc' => h.alone c c' g g' (hold hc (.inl rfl)) (hold hc' (.inl rfl)),
    fun c g leads b hc => h.received c g leads b (hold hc (.inr rfl))⟩

theorem State.Inv.land (h : s.Inv) {f : ℕ} (b : β) (hf : s.UnderWay f) :
    State.Inv { s with flights := s.flights.set f (some b) } := by
  refine ⟨fun g hg => ?_, fun g hg => ?_, h.leader, h.alone, fun c g leads b' hc => ?_⟩
  · obtain rfl | hne := eq_or_ne f g
    · change (s.flights.set f (some b))[f]? = _ at hg
      simp [List.getElem?_set] at hg
    · exact h.current g ((List.getElem?_set_ne hne).symm.trans hg)
  · rw [List.length_set]
    exact h.known g hg
  · have hreceived := h.received c g leads b' hc
    obtain rfl | hne := eq_or_ne f g
    · cases hf.symm.trans hreceived
    · exact (List.getElem?_set_ne hne).trans hreceived

theorem State.Inv.receive (h : s.Inv) {c f : ℕ} {leads : Bool} {b : β}
    (hc : s.callers[c]? = some ⟨f, leads, none⟩) (hb : s.flights[f]? = some (some b)) :
    State.Inv { s with
      current := if leads then none else s.current
      callers := s.callers.set c ⟨f, leads, some b⟩ } := by
  have hwaiting : ∀ {c' g : ℕ}, (s.callers.set c ⟨f, leads, some b⟩)[c']? = some ⟨g, true, none⟩ →
      c ≠ c' ∧ s.callers[c']? = some ⟨g, true, none⟩ := by
    intro c' g hc'
    obtain rfl | hne := eq_or_ne c c'
    · simp [List.getElem?_set] at hc'
    · exact ⟨hne, (List.getElem?_set_ne hne).symm.trans hc'⟩
  refine ⟨fun g hg => ?_, fun g hg => ?_, fun c' g hc' => ?_, fun c₁ c₂ g₁ g₂ h₁ h₂ => ?_,
    fun c' g leads' b' hc' => ?_⟩
  · cases leads with
    | false => exact h.current g hg
    | true =>
      -- the leader's flight has landed, and no other one can be under way
      have hsame := (h.current g hg).symm.trans (h.leader c f hc)
      cases hsame
      cases hb.symm.trans hg
  · cases leads with
    | false => exact h.known g hg
    | true => cases hg
  · obtain ⟨hne, hwaits⟩ := hwaiting hc'
    cases leads with
    | false => exact h.leader c' g hwaits
    | true => exact absurd (h.alone c c' f g hc hwaits) hne
  · exact h.alone c₁ c₂ g₁ g₂ (hwaiting h₁).2 (hwaiting h₂).2
  · obtain rfl | hne := eq_or_ne c c'
    · obtain ⟨hlt, -⟩ := List.getElem?_eq_some_iff.mp hc
      rw [List.getElem?_set_self hlt] at hc'
      cases hc'
      exact hb
    · exact h.received c' g leads' b' ((List.getElem?_set_ne hne).symm.trans hc')

theorem State.Inv.step (h : s.Inv) (hstep : Step s s') : s'.Inv := by
  cases hstep with
  | lead outcome hnone => exact h.lead outcome hnone
  | join hcurrent => exact h.join _
  | land b hf => exact h.land b hf
  | receive hc hb => exact h.receive hc hb

/-- Whoever calls while a flight is under way waits for that flight. -/
theorem Step.joins (h : s.Inv) (hstep : Step s s') {f : ℕ} (hf : s.UnderWay f) {caller : Caller β}
    (hcall : s'.callers = s.callers ++ [caller]) : caller.flight = f := by
  have hcurrent := h.current f hf
  cases hstep with
  | lead _ hnone => cases hnone.symm.trans hcurrent
  | join hjoined =>
    obtain rfl := Option.some.inj (hjoined.symm.trans hcurrent)
    obtain ⟨-, heq⟩ := List.append_inj' hcall rfl
    cases heq
    rfl
  | land => simpa using congrArg List.length hcall
  | receive => simpa using congrArg List.length hcall

/-- What is under way has been so, or is new. -/
theorem Step.underWay_before (hstep : Step s s') {f : ℕ} (hf : s'.UnderWay f) :
    s.UnderWay f ∨ s.flights.length ≤ f := by
  cases hstep with
  | lead outcome =>
    obtain hf | ⟨hlength, -⟩ := getElem?_snoc hf
    · exact .inl hf
    · exact .inr (by omega)
  | join => exact .inl hf
  | @land g b =>
    obtain rfl | hne := eq_or_ne g f
    · change (s.flights.set g (some b))[g]? = _ at hf
      simp [List.getElem?_set] at hf
    · exact .inl ((List.getElem?_set_ne hne).symm.trans hf)
  | receive => exact .inl hf

theorem Step.flights_le (hstep : Step s s') : s.flights.length ≤ s'.flights.length := by
  cases hstep with
  | lead outcome => simp
  | join => exact Nat.le_refl _
  | land b => simp
  | receive => exact Nat.le_refl _

def State.Keeps (s s' : State β) : Prop :=
  ∀ (c : ℕ) caller, s.callers[c]? = some caller →
    ∃ received, s'.callers[c]? = some { caller with received := received }

theorem State.Keeps.refl (s : State β) : s.Keeps s := fun _ caller hc => ⟨caller.received, hc⟩

theorem State.Keeps.trans {s'' : State β} (h : s.Keeps s') (h' : s'.Keeps s'') : s.Keeps s'' := by
  intro c caller hc
  obtain ⟨received, hc'⟩ := h c caller hc
  obtain ⟨received', hc''⟩ := h' c _ hc'
  exact ⟨received', hc''⟩

theorem Step.keeps (hstep : Step s s') : s.Keeps s' := by
  intro c caller hc
  cases hstep with
  | lead => exact ⟨caller.received, getElem?_snoc_of _ hc⟩
  | join => exact ⟨caller.received, getElem?_snoc_of _ hc⟩
  | land => exact ⟨caller.received, hc⟩
  | @receive c' f leads b hwaiting _ =>
    obtain rfl | hne := eq_or_ne c' c
    · obtain ⟨hlt, -⟩ := List.getElem?_eq_some_iff.mp hwaiting
      cases hwaiting.symm.trans hc
      exact ⟨some b, List.getElem?_set_self hlt⟩
    · exact ⟨caller.received, (List.getElem?_set_ne hne).trans hc⟩

end SingleFlight

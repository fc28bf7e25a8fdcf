import OpsFlow.Catalog.Moves

namespace OpsFlow.Catalog
open RowStore

variable {τ : Type} {initial s s' : State τ} {t t' : τ}

/-! ## What a transaction has written -/

abbrev Services (τ : Type) := Table τ Uuid ServiceModel

abbrev Dependencies (τ : Type) := Table τ (Uuid × String) Unit

variable {S S' : Services τ} {D D' : Dependencies τ}

structure Nothing (S : Services τ) (D : Dependencies τ) (t : τ) : Prop where
  services : S.HoldsNothing t
  dependencies : D.HoldsNothing t

def Change.Row (S : Services τ) (t : τ) : Change → Prop
  | .created _ id payload => S.HoldsOnly t id ∧ S.committed id = none ∧
      ∃ row, payload.row.stored = some row ∧ S.pending id = some row
  | .updated plan payload => ∃ requested, plan.requested payload = some requested ∧
      ((requested = plan.loaded ∧ S.HoldsNothing t) ∨
        (S.HoldsOnly t plan.serviceId ∧ ∃ old row, S.committed plan.serviceId = some old ∧
          (flushed plan.loaded requested old).stored = some row ∧
          S.pending plan.serviceId = some row))
  | .deleted _ => S.HoldsNothing t

/-- The names in `added` have been inserted, and then those in `gone` have been deleted as far as
they were there. -/
structure Linked (D : Dependencies τ) (t : τ) (id : Uuid) (added gone : List String) : Prop where
  held : ∀ c, D.holder c = some t → c.1 = id ∧
    ((c.2 ∈ added ∧ c.2 ∉ gone ∧ D.pending c = some ()) ∨ (c.2 ∈ gone ∧ D.pending c = none))
  added : ∀ name ∈ added, D.holder (id, name) = some t

def Removed (S : Services τ) (t : τ) (id : Uuid) : Prop := S.HoldsOnly t id ∧ S.pending id = none

def Change.Asks : Change → Links → Prop
  | .created _ _ payload, links =>
      payload.dependencies.mapM storeDependency = some links.additions ∧ links.removals = []
  | .updated plan payload, links => ∃ names, plan.requestedDependencies payload = some names ∧
      (plan.additions names).mapM storeDependency = some links.additions ∧
      links.removals = plan.removals names
  | .deleted _, links => links.additions = []

def Tx.Holds (S : Services τ) (D : Dependencies τ) (t : τ) : Tx → Prop
  | .linking change links todo => change.Row S t ∧ change.Asks links ∧
      ∃ added, links.additions = added ++ todo ∧ Linked D t change.serviceId added []
  | .unlinking change links todo => change.Row S t ∧ change.Asks links ∧
      ∃ gone, links.removals = gone ++ todo ∧ Linked D t change.serviceId links.additions gone
  | .deleting plan => S.HoldsNothing t ∧ ∃ gone, Linked D t plan.serviceId [] gone
  | .cascading plan => Removed S t plan.serviceId ∧ ∃ gone, Linked D t plan.serviceId [] gone
  | .done (.deleted plan) _ => (S.HoldsNothing t ∧ D.Clean t) ∨
      (Removed S t plan.serviceId ∧ ∃ gone, Linked D t plan.serviceId [] gone)
  | .done change links => change.Row S t ∧ change.Asks links ∧
      Linked D t change.serviceId links.additions links.removals
  | _ => Nothing S D t

section Frame
variable (hs : Table.Undisturbed t S S') (hd : Table.Undisturbed t D D')
include hs hd

theorem Nothing.frame (h : Nothing S D t) : Nothing S' D' t :=
  ⟨hs.holdsNothing h.services, hd.holdsNothing h.dependencies⟩

omit hd in
theorem Change.Row.frame {change : Change} (h : change.Row S t) : change.Row S' t := by
  cases change with
  | created caller id payload =>
    obtain ⟨honly, hcommitted, row, hstored, hpending⟩ := h
    refine ⟨hs.holdsOnly honly, ?_, row, hstored, ?_⟩
    · rw [hs.committed _ honly.holder, hcommitted]
    · rw [hs.pending _ honly.holder, hpending]
  | updated plan payload =>
    obtain ⟨requested, hrequested,
        ⟨hkept, hnothing⟩ | ⟨honly, old, row, hcommitted, hstored, hpending⟩⟩ := h
    · exact ⟨requested, hrequested, .inl ⟨hkept, hs.holdsNothing hnothing⟩⟩
    · refine ⟨requested, hrequested, .inr ⟨hs.holdsOnly honly, old, row, ?_, hstored, ?_⟩⟩
      · rw [hs.committed _ honly.holder, hcommitted]
      · rw [hs.pending _ honly.holder, hpending]
  | deleted plan => exact hs.holdsNothing h

omit hs in
theorem Linked.frame {id : Uuid} {added gone : List String} (h : Linked D t id added gone) :
    Linked D' t id added gone := by
  refine ⟨fun c hc => ?_, fun name hname => (hd.holder _).mpr (h.added name hname)⟩
  have hold := (hd.holder c).mp hc
  rw [hd.pending c hold]
  exact h.held c hold

omit hd in
theorem Removed.frame {id : Uuid} (h : Removed S t id) : Removed S' t id := by
  refine ⟨hs.holdsOnly h.1, ?_⟩
  rw [hs.pending id h.1.holder]
  exact h.2

theorem Tx.Holds.frame {x : Tx} (h : x.Holds S D t) : x.Holds S' D' t := by
  cases x with
  | linking change links todo =>
    obtain ⟨hrow, hasks, added, hadded, hlinked⟩ := h
    exact ⟨hrow.frame hs, hasks, added, hadded, hlinked.frame hd⟩
  | unlinking change links todo =>
    obtain ⟨hrow, hasks, gone, hgone, hlinked⟩ := h
    exact ⟨hrow.frame hs, hasks, gone, hgone, hlinked.frame hd⟩
  | deleting plan =>
    obtain ⟨hnothing, gone, hlinked⟩ := h
    exact ⟨hs.holdsNothing hnothing, gone, hlinked.frame hd⟩
  | cascading plan =>
    obtain ⟨hremoved, gone, hlinked⟩ := h
    exact ⟨hremoved.frame hs, gone, hlinked.frame hd⟩
  | done change links =>
    cases change with
    | deleted plan =>
      rcases h with ⟨hnothing, hclean⟩ | ⟨hremoved, gone, hlinked⟩
      · exact .inl ⟨hs.holdsNothing hnothing, hd.clean hclean⟩
      · exact .inr ⟨hremoved.frame hs, gone, hlinked.frame hd⟩
    | _ => exact ⟨h.1.frame hs, h.2.1, h.2.2.frame hd⟩
  | _ => exact Nothing.frame hs hd h

end Frame

/-! ## One more row -/

theorem Linked.of_nothing (h : D.HoldsNothing t) (id : Uuid) : Linked D t id [] [] :=
  ⟨fun c hc => absurd hc (h c), fun _ hname => absurd hname List.not_mem_nil⟩

theorem Linked.add {id : Uuid} {added : List String} {name : String} (h : Linked D t id added []) :
    Linked (D.write t (id, name) (some ())) t id (added ++ [name]) [] := by
  constructor
  · intro c hc
    by_cases hkey : c = (id, name)
    · subst hkey
      exact ⟨rfl, .inl ⟨by simp, List.not_mem_nil, Table.pending_write_self⟩⟩
    · rw [Table.holder_write_of_ne hkey] at hc
      rw [Table.pending_write_of_ne hkey]
      obtain ⟨hid, ⟨hmem, hgone, hsome⟩ | ⟨hgone, -⟩⟩ := h.held c hc
      · exact ⟨hid, .inl ⟨List.mem_append_left _ hmem, hgone, hsome⟩⟩
      · exact absurd hgone List.not_mem_nil
  · intro other hother
    by_cases hkey : (id, other) = (id, name)
    · rw [hkey]
      exact Table.holder_write_self
    · rw [Table.holder_write_of_ne hkey]
      rcases List.mem_append.mp hother with hmem | hmem
      · exact h.added other hmem
      · exact absurd (by rw [List.mem_singleton.mp hmem]) hkey

theorem Linked.remove {id : Uuid} {added gone : List String} {name : String}
    (h : Linked D t id added gone) :
    Linked (D.write t (id, name) none) t id added (gone ++ [name]) := by
  constructor
  · intro c hc
    by_cases hkey : c = (id, name)
    · subst hkey
      exact ⟨rfl, .inr ⟨by simp, Table.pending_write_self⟩⟩
    · rw [Table.holder_write_of_ne hkey] at hc
      rw [Table.pending_write_of_ne hkey]
      obtain ⟨hid, ⟨hmem, hgone, hsome⟩ | ⟨hgone, hnone⟩⟩ := h.held c hc
      · have hne : c.2 ≠ name := fun heq => hkey (Prod.ext hid heq)
        exact ⟨hid, .inl ⟨hmem, by simp [hgone, hne], hsome⟩⟩
      · exact ⟨hid, .inr ⟨List.mem_append_left _ hgone, hnone⟩⟩
  · intro other hother
    by_cases hkey : (id, other) = (id, name)
    · rw [hkey]
      exact Table.holder_write_self
    · rw [Table.holder_write_of_ne hkey]
      exact h.added other hother

variable [DecidableEq τ]

/-- The row was not there any more. -/
theorem Linked.pass {id : Uuid} {added gone : List String} {name : String}
    (h : Linked D t id added gone) (hview : D.view t (id, name) = none) :
    Linked D t id added (gone ++ [name]) := by
  refine ⟨fun c hc => ?_, h.added⟩
  obtain ⟨hid, ⟨hmem, hgone, hsome⟩ | ⟨hgone, hnone⟩⟩ := h.held c hc
  · have hne : c.2 ≠ name := by
      rintro rfl
      rw [← hid, Table.view_of_holder hc, hsome] at hview
      contradiction
    exact ⟨hid, .inl ⟨hmem, by simp [hgone, hne], hsome⟩⟩
  · exact ⟨hid, .inr ⟨List.mem_append_left _ hgone, hnone⟩⟩

/-! ## Where a transaction stands -/

def Tx.Cleared (S : Services τ) (D : Dependencies τ) (t : τ) : Tx → Prop
  | .done (.deleted plan) _ => S.holder plan.serviceId = some t →
      ∀ name, D.view t (plan.serviceId, name) = none
  | _ => True

def Tx.asks : Tx → Option (Uuid × Permission)
  | .permitted caller request => some (caller, request.permission)
  | .nameFree caller _ => some (caller, .serviceCreate)
  | .found r | .read r _ | .distinct r _ | .again r _ _ => some (r.caller, r.goal.permission)
  | .loaded plan => some (plan.caller, plan.goal.permission)
  | .linking change _ _ | .unlinking change _ _ | .done change _ =>
    some (change.caller, change.permission)
  | .deleting plan | .cascading plan => some (plan.caller, .serviceDelete)
  | _ => none

def Tx.reading : Tx → Option Reading
  | .found r | .read r _ | .distinct r _ | .again r _ _ => some r
  | .loaded plan => some plan.toReading
  | _ => none

def Tx.Gives (s : State τ) : Tx → Prop
  | .signingUp account => account.role = .viewer ∨ (account.email, account.role) ∈ s.scripts
  | .recovering userId old _ => (old.email, .admin) ∈ s.scripts ∧
      ∃ account, s.accounts.committed userId = some account ∧ old.Grows account
  | _ => True

structure Tx.Ok (s : State τ) (t : τ) (x : Tx) : Prop where
  holds : x.Holds s.services s.dependencies t
  fresh : x = .idle → s.accounts.HoldsNothing t
  cleared : x.Cleared s.services s.dependencies t
  asks : ∀ ask ∈ x.asks, s.MayDo ask.1 ask.2
  reading : ∀ r ∈ x.reading, r.first.Cleaned
  gives : x.Gives s

/-- What nobody can insert stays away. -/
theorem Moves.view_eq_none {id : Uuid} {name : String} (hc : Constraints s)
    (hmove : Moves initial s t' s') (ht : t' ≠ t) (hremoved : Removed s.services t id)
    (hview : s.dependencies.view t (id, name) = none) :
    s'.dependencies.view t (id, name) = none := by
  obtain ⟨-, -, hd, -⟩ := hmove.others (Ne.symm ht)
  by_cases hheld : s.dependencies.holder (id, name) = some t
  · rw [Table.view_of_holder hheld] at hview
    rw [Table.view_of_holder ((hd.holder _).mpr hheld), hd.pending _ hheld, hview]
  · rw [Table.view_of_not_holder hheld] at hview
    rw [Table.view_of_not_holder fun h => hheld ((hd.holder _).mp h)]
    cases hmove with
    | commit changes answer hcascade =>
      change s.dependencies.view t' (id, name) = none
      by_cases hother : s.dependencies.holder (id, name) = some t'
      · rw [Table.view_of_holder hother]
        by_contra hpending
        have hstays := (hc.references.pending t' (id, name) hother hpending).2
        exact hstays t hremoved.1.holder hremoved.2
      · rwa [Table.view_of_not_holder hother]
    | _ => exact hview

theorem Moves.scripts (h : Moves initial s t s') : ∀ entry ∈ s.scripts, entry ∈ s'.scripts := by
  intro entry hentry
  cases h with
  | script entry' x => exact List.mem_append_left _ hentry
  | _ => exact hentry

/-- Where a transaction stands is not changed by another one. -/
theorem Tx.Ok.frame {x : Tx} (hc : Constraints s) (ha : AccountsInv initial s)
    (hmove : Moves initial s t' s') (ht : t' ≠ t) (h : x.Ok s t) : x.Ok s' t := by
  obtain ⟨-, hs, hd, haccounts⟩ := hmove.others (Ne.symm ht)
  refine ⟨h.holds.frame hs hd, fun hidle => haccounts.holdsNothing (h.fresh hidle), ?_,
    fun ask hask => (h.asks ask hask).moves ha hmove, h.reading, ?_⟩
  · cases x with
    | done change links =>
      cases change with
      | deleted plan =>
        intro hheld name
        have hold := (hs.holder _).mp hheld
        rcases h.holds with ⟨hnothing, -⟩ | ⟨hremoved, -⟩
        · exact absurd hold (hnothing _)
        · exact hmove.view_eq_none hc ht hremoved (h.cleared hold name)
      | _ => trivial
    | _ => trivial
  · cases x with
    | signingUp account => exact h.gives.imp_right (hmove.scripts _)
    | recovering userId old hashedPassword =>
      obtain ⟨hscript, account, haccount, hgrows⟩ := h.gives
      obtain ⟨account', haccount', hgrows'⟩ := hmove.accounts ha haccount
      exact ⟨hmove.scripts _ hscript, account', haccount', hgrows.trans hgrows'⟩
    | _ => trivial

end OpsFlow.Catalog

import OpsFlow.Incidents.Pagination
import OpsFlow.Library.Like

namespace OpsFlow.Incidents
open Like

/-! ## How a listing comes out -/

/-- A page, or the error of a driver that does not bind the search or the bounds of the page. -/
def Repository.ListOutcome (ilike : String → String → Bool) (rows : Rows) (q : ListQuery) :
    Except ServiceError (List Incident) → Prop
  | .ok page => binds q = true ∧ ListAnswer ilike rows q page
  | .error e => binds q = false ∧ e = .dataError

theorem Repository.listOutcome_list (ilike : String → String → Bool) (rows : Rows)
    (q : ListQuery) : ListOutcome ilike rows q (list ilike rows q) := by
  unfold list
  split
  · rename_i h
    exact ⟨h, listAnswer_page ilike rows q⟩
  · rename_i h
    exact ⟨Bool.not_eq_true _ ▸ h, rfl⟩

/-! ## What a search is to find -/

variable {F : CaseFolding} {q : ListQuery} {s : String} {i : Incident}

def Mentions (F : CaseFolding) (s : String) (i : Incident) : Prop :=
  F.Contains i.title s ∨ F.Contains i.summary s ∨ F.Contains i.assignee s

instance (F : CaseFolding) (s : String) (i : Incident) : Decidable (Mentions F s i) :=
  inferInstanceAs (Decidable (_ ∨ _ ∨ _))

def foundLiterally (F : CaseFolding) (q : ListQuery) (s : String) (i : Incident) : Bool :=
  Repository.found F.ilike { q with search := none } i && decide (Mentions F (strip s) i)

/-- Over every table and for every page that the database can be asked for, a listing with this
search answers with the incidents that it is to find. -/
def SearchIsLiteral (F : CaseFolding) (s : String) : Prop :=
  ∀ (rows : Rows) (q : ListQuery), q.search = some s → bindsBigint q.offset = true →
    bindsBigint q.limit = true → ∀ outcome,
      Repository.ListOutcome F.ilike rows q outcome ↔ ∃ page, outcome = .ok page ∧
        Paging.Page Incident.createdAt (rows.filter (foundLiterally F q s)) q.offset q.limit page

/-! ## The pattern of a search -/

def ilikeSearch (F : CaseFolding) (s : String) (i : Incident) : Bool :=
  let pattern := "%" ++ strip s ++ "%"
  F.ilike i.title pattern || F.ilike i.summary pattern || F.ilike i.assignee pattern

theorem found_of_search (hs : s ≠ "") (hq : q.search = some s) :
    Repository.found F.ilike q i =
      (Repository.found F.ilike { q with search := none } i && ilikeSearch F s i) := by
  unfold Repository.found ilikeSearch
  rw [hq]
  simp only [hs, if_false, Bool.true_and]
  simp only [Bool.and_left_comm, Bool.and_comm]

theorem strip_empty : strip "" = "" := rfl

/-- The characters around the stripped text are bound in any case. -/
theorem bindsText_pattern :
    bindsText ("%" ++ strip s ++ "%") = true ↔ '\x00' ∉ (strip s).toList := by
  simp [bindsText]

theorem binds_of_search (hq : q.search = some s) (hoffset : bindsBigint q.offset = true)
    (hlimit : bindsBigint q.limit = true) :
    Repository.binds q = true ↔ '\x00' ∉ (strip s).toList := by
  rw [← bindsText_pattern]
  by_cases hs : s = ""
  · subst hs
    simp [Repository.binds, Repository.searchTexts, hq, hoffset, hlimit, strip_empty, bindsText]
  · simp [Repository.binds, Repository.searchTexts, hq, hoffset, hlimit, hs]

theorem contains_empty (F : CaseFolding) (text : String) : F.Contains text "" :=
  List.nil_infix

/-- A search without special characters finds what it is to find. -/
theorem found_eq_foundLiterally (h : ∀ c ∈ (strip s).toList, c ∉ special) (hq : q.search = some s) :
    Repository.found F.ilike q = foundLiterally F q s := by
  funext i
  by_cases hs : s = ""
  · subst hs
    have hall : Mentions F (strip "") i := .inl (contains_empty F i.title)
    simp [foundLiterally, Repository.found, hq, hall]
  · have hsearch : ilikeSearch F s i = decide (Mentions F (strip s) i) := by
      rw [Bool.eq_iff_iff, decide_eq_true_iff]
      simp only [ilikeSearch, Mentions, Bool.or_eq_true, F.ilike_iff_contains h, or_assoc]
    rw [found_of_search hs hq, hsearch, foundLiterally]

def incidentOf (text : String) : Incident :=
  { checkoutIncident 1 with title := text, summary := text, assignee := text }

theorem mentions_incidentOf (text sought : String) :
    Mentions F sought (incidentOf text) ↔ F.Contains text sought := by
  simp [Mentions, incidentOf]

theorem ilikeSearch_incidentOf (text : String) :
    ilikeSearch F s (incidentOf text) = F.ilike text ("%" ++ strip s ++ "%") := by
  simp [ilikeSearch, incidentOf]

def firstFound (s : String) : ListQuery := { allIncidents with search := some s, limit := 1 }

theorem not_literal_of_row (hbinds : Repository.binds (firstFound s) = true)
    (hfound : Repository.found F.ilike (firstFound s) i = true)
    (hmissed : ¬ foundLiterally F (firstFound s) s i = true) : ¬ SearchIsLiteral F s := by
  intro hliteral
  have hlisted : Repository.ListAnswer F.ilike [i] (firstFound s) [i] := by
    refine ⟨[i], ⟨?_, List.pairwise_singleton _ _⟩, rfl⟩
    rw [List.filter_cons_of_pos hfound, List.filter_nil]
  obtain ⟨page, heq, sorted, harranged, hpage⟩ :=
    (hliteral [i] (firstFound s) rfl rfl rfl (.ok [i])).mp ⟨hbinds, hlisted⟩
  obtain rfl := Except.ok.inj heq
  rw [List.filter_cons_of_neg hmissed, List.filter_nil] at harranged
  rw [harranged.perm.eq_nil, List.drop_nil, List.take_nil] at hpage
  exact List.cons_ne_nil _ _ hpage

/-- A text that matches what was searched for, and does not contain it, makes such a row. -/
theorem not_searchIsLiteral (hzero : '\x00' ∉ (strip s).toList)
    (h : ¬ ∀ c ∈ (strip s).toList, c ∉ special) : ¬ SearchIsLiteral F s := by
  obtain ⟨text, hmatch, hnot⟩ := F.exists_ilike_not_contains h
  have hs : s ≠ "" := by
    rintro rfl
    rw [strip_empty] at h
    simp at h
  have hfound : Repository.found F.ilike (firstFound s) (incidentOf text) = true := by
    rw [found_of_search hs rfl, ilikeSearch_incidentOf, hmatch]
    rfl
  refine not_literal_of_row ((binds_of_search rfl rfl rfl).mpr hzero) hfound fun hmentioned => ?_
  have hmentions := (Bool.and_eq_true_iff.mp hmentioned).2
  exact hnot ((mentions_incidentOf text (strip s)).mp (of_decide_eq_true hmentions))

/-- The search is refused, also over the empty table. -/
theorem not_searchIsLiteral_of_zero (hzero : ¬ '\x00' ∉ (strip s).toList) :
    ¬ SearchIsLiteral F s := by
  intro hliteral
  have hpage :
      Paging.Page Incident.createdAt (([] : Rows).filter (foundLiterally F (firstFound s) s))
      0 1 [] := ⟨[], ⟨.nil, .nil⟩, rfl⟩
  have hlisted := (hliteral [] (firstFound s) rfl rfl rfl (.ok [])).mpr ⟨[], rfl, hpage⟩
  exact hzero ((binds_of_search rfl rfl rfl).mp hlisted.1)

/-- A search is literal and regardless of case, over all tables, if and only if the stripped text
has no `%`, no `_`, no backslash and no character zero in it. -/
theorem search_literal_iff (F : CaseFolding) (s : String) :
    SearchIsLiteral F s ↔
      (∀ c ∈ (strip s).toList, c ∉ special) ∧ '\x00' ∉ (strip s).toList := by
  constructor
  · intro hliteral
    by_contra h
    rw [not_and_or] at h
    by_cases hzero : '\x00' ∉ (strip s).toList
    · exact not_searchIsLiteral hzero (h.resolve_right (not_not.mpr hzero)) hliteral
    · exact not_searchIsLiteral_of_zero hzero hliteral
  · rintro ⟨h, hzero⟩ rows q hq hoffset hlimit outcome
    have hbinds := (binds_of_search hq hoffset hlimit).mpr hzero
    cases outcome with
    | error e => simp [Repository.ListOutcome, hbinds]
    | ok page =>
      unfold Repository.ListOutcome Repository.ListAnswer
      rw [found_eq_foundLiterally h hq]
      simp [hbinds]

/-! ### ASCII letters, and a search for an underscore -/

theorem toLower_special (c : Char) (h : c.toLower ∈ special) : c ∈ special := by
  have hcode : ∀ n < 128, (Char.ofNat n).toLower ∈ special → Char.ofNat n ∈ special := by decide
  by_cases hascii : c.toNat < 128
  · have hsame := hcode c.toNat hascii
    rw [Char.ofNat_toNat] at hsame
    exact hsame h
  · have hlarge : ¬ (c.val ≥ 'A'.val ∧ c.val ≤ 'Z'.val) := by
      rintro ⟨-, hle⟩
      have hnat : c.toNat ≤ 90 := hle
      omega
    have hsame : c.toLower = c := dif_neg hlarge
    rwa [hsame] at h

def asciiFolding : CaseFolding where
  fold := Char.toLower
  fold_special := by decide
  special_of_fold := toLower_special

/-- A search for an underscore lists an incident that has none in its texts. -/
theorem underscore_not_literal : ¬ SearchIsLiteral asciiFolding "_" := by
  have hfound :
      Repository.found asciiFolding.ilike (firstFound "_") (checkoutIncident 1) = true := by
    decide +kernel
  have hmissed :
      ¬ foundLiterally asciiFolding (firstFound "_") "_" (checkoutIncident 1) = true := by
    decide +kernel
  exact not_literal_of_row (by decide) hfound hmissed

end OpsFlow.Incidents

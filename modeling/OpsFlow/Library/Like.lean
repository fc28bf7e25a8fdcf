import Mathlib.Data.List.Infix
import Mathlib.Data.List.Basic

/-! SQL's LIKE and ILIKE, with the escape character that they have by default. -/

namespace Like

inductive Token
  | any
  | one
  | literal (c : Char)

/-- The escape character takes the next one as it is. At the end of a pattern it stands for itself
here, and is an error in SQL. -/
def tokens : List Char → List Token
  | [] => []
  | '%' :: cs => .any :: tokens cs
  | '_' :: cs => .one :: tokens cs
  | '\\' :: c :: cs => .literal c :: tokens cs
  | c :: cs => .literal c :: tokens cs

def matchTokens : List Token → List Char → Bool
  | [], cs => cs.isEmpty
  | .any :: ts, cs => cs.tails.any (matchTokens ts)
  | .one :: ts, cs =>
    match cs with
    | [] => false
    | _ :: cs => matchTokens ts cs
  | .literal c :: ts, cs =>
    match cs with
    | [] => false
    | d :: cs => c = d && matchTokens ts cs

def special : List Char := ['%', '_', '\\']

/-- How a database compares texts regardless of case: character by character, and none becomes a
special one that was not. -/
structure CaseFolding where
  fold : Char → Char
  fold_special : ∀ c ∈ special, fold c = c
  special_of_fold : ∀ c, fold c ∈ special → c ∈ special

namespace CaseFolding

variable (F : CaseFolding)

/-- The text and the pattern are folded, and then compared. -/
def ilike (text pattern : String) : Bool :=
  matchTokens (tokens (pattern.toList.map F.fold)) (text.toList.map F.fold)

/-- Regardless of case, the one text is part of the other. -/
def Contains (text part : String) : Prop := part.toList.map F.fold <:+: text.toList.map F.fold

instance (text part : String) : Decidable (F.Contains text part) :=
  inferInstanceAs (Decidable (_ <:+: _))

end CaseFolding

variable {F : CaseFolding} {c d : Char} {cs ds part : List Char} {ts : List Token}

/-! ## What the tokens match -/

theorem matchTokens_any : matchTokens (.any :: ts) cs = true ↔ ∃ ds, ds <:+ cs ∧ matchTokens ts ds =
    true := by
  simp [matchTokens, List.mem_tails]

theorem matchTokens_any_self (h : matchTokens ts cs = true) : matchTokens (.any :: ts) cs = true :=
  matchTokens_any.mpr ⟨cs, List.suffix_refl cs, h⟩

@[simp] theorem matchTokens_one : matchTokens (.one :: ts) (c :: cs) = matchTokens ts cs := rfl

@[simp] theorem matchTokens_literal :
    matchTokens (.literal c :: ts) (c :: cs) = matchTokens ts cs := by
  simp [matchTokens]

theorem matchTokens_literals : matchTokens (cs.map .literal ++ [.any]) ds = true ↔ cs <+: ds := by
  induction cs generalizing ds with
  | nil =>
    refine iff_of_true ?_ (List.nil_prefix)
    exact matchTokens_any.mpr ⟨[], List.nil_suffix, rfl⟩
  | cons c cs ih =>
    cases ds with
    | nil => simp [matchTokens]
    | cons d ds => simp [matchTokens, ih, List.cons_prefix_cons]

/-! ## Patterns without special characters -/

theorem tokens_plain (hc : c ∉ special) : tokens (c :: cs) = .literal c :: tokens cs := by
  simp only [special, List.mem_cons, List.not_mem_nil, or_false, not_or] at hc
  rw [tokens]
  · exact hc.1
  · exact hc.2.1
  · exact fun _ _ h => absurd h hc.2.2

theorem tokens_of_plain (h : ∀ c ∈ cs, c ∉ special) :
    tokens (cs ++ ['%']) = cs.map .literal ++ [.any] := by
  induction cs with
  | nil => rfl
  | cons c cs ih =>
    rw [List.cons_append, tokens_plain (h c List.mem_cons_self),
      ih fun d hd => h d (List.mem_cons_of_mem c hd), List.map_cons, List.cons_append]

/-- Between two wildcards, a text that has no special characters is looked for as it is. -/
theorem matchTokens_contains (h : ∀ c ∈ part, c ∉ special) :
    matchTokens (tokens ('%' :: (part ++ ['%']))) cs = true ↔ part <:+: cs := by
  rw [tokens, tokens_of_plain h, matchTokens_any, List.infix_iff_prefix_suffix]
  refine exists_congr fun ds => ?_
  rw [matchTokens_literals]
  exact and_comm

/-! ## Patterns with special characters -/

/-- A text that the pattern matches: one character for each token, and none for a wildcard. -/
def sample : List Char → List Char
  | [] => []
  | '%' :: cs => sample cs
  | '_' :: cs => 'x' :: sample cs
  | ['\\'] => ['%']
  | '\\' :: c :: cs => c :: sample cs
  | c :: cs => c :: sample cs

namespace CaseFolding

theorem fold_eq_special (hd : d ∈ special) : F.fold c = d ↔ c = d := by
  constructor
  · intro h
    have hc := F.special_of_fold c (h ▸ hd)
    rw [← h, F.fold_special c hc]
  · rintro rfl
    exact F.fold_special c hd

end CaseFolding

theorem fold_notMem_special (F : CaseFolding) (hc : c ∉ special) : F.fold c ∉ special :=
  fun h => hc (F.special_of_fold c h)

/-- What is left when a pattern starts with no wildcard and no escape. -/
theorem notMem_special (hany : c ≠ '%') (hone : c ≠ '_') (hlast : c = '\\' → cs = [] → False)
    (hescape : ∀ d ds, c = '\\' → cs = d :: ds → False) : c ∉ special := by
  have hback : c ≠ '\\' := by
    intro h
    cases cs with
    | nil => exact hlast h rfl
    | cons d ds => exact hescape d ds h rfl
  simp [special, hany, hone, hback]

theorem sample_plain (hc : c ∉ special) : sample (c :: cs) = c :: sample cs := by
  simp only [special, List.mem_cons, List.not_mem_nil, or_false, not_or] at hc
  rw [sample]
  · exact hc.1
  · exact hc.2.1
  · exact fun h => absurd h hc.2.2
  · exact fun _ _ h => absurd h hc.2.2

/-- The sample matches, which the recursion of the pattern shows token by token. -/
theorem matchTokens_sample (F : CaseFolding) (part : List Char) :
    matchTokens (tokens (part.map F.fold ++ ['%'])) ((sample part).map F.fold) = true := by
  have hpercent : F.fold '%' = '%' := F.fold_special _ (by decide)
  have hunderscore : F.fold '_' = '_' := F.fold_special _ (by decide)
  have hescape : F.fold '\\' = '\\' := F.fold_special _ (by decide)
  induction part using sample.induct with
  | case1 => exact matchTokens_any_self rfl
  | case2 cs ih =>
    rw [List.map_cons, hpercent, List.cons_append, tokens, sample]
    exact matchTokens_any_self ih
  | case3 cs ih =>
    rw [List.map_cons, hunderscore, List.cons_append, tokens, sample, List.map_cons,
      matchTokens_one]
    exact ih
  | case4 =>
    -- the escape character at the end takes the wildcard that follows
    simp [sample, tokens, matchTokens, hpercent, hescape]
  | case5 c cs ih =>
    rw [List.map_cons, hescape, List.map_cons, List.cons_append, List.cons_append, tokens, sample,
      List.map_cons, matchTokens_literal]
    exact ih
  | case6 c cs hany hone hlast hesc ih =>
    have hc : c ∉ special := notMem_special hany hone hlast hesc
    rw [List.map_cons, List.cons_append, tokens_plain (fold_notMem_special F hc), sample_plain hc,
      List.map_cons, matchTokens_literal]
    exact ih

theorem length_sample_le (part : List Char) : (sample part).length ≤ part.length := by
  induction part using sample.induct with
  | case1 => exact le_rfl
  | case2 cs ih =>
    rw [sample, List.length_cons]
    omega
  | case3 cs ih =>
    rw [sample, List.length_cons, List.length_cons]
    omega
  | case4 => exact le_rfl
  | case5 c cs ih =>
    rw [sample, List.length_cons, List.length_cons, List.length_cons]
    omega
  | case6 c cs hany hone hlast hesc ih =>
    rw [sample_plain (notMem_special hany hone hlast hesc), List.length_cons, List.length_cons]
    omega

/-- The sample is the pattern only where there is nothing special in it. -/
theorem plain_of_sample (F : CaseFolding) (h : part.map F.fold = (sample part).map F.fold) :
    ∀ c ∈ part, c ∉ special := by
  induction part using sample.induct with
  | case1 => exact nofun
  | case2 cs ih =>
    -- a wildcard makes the sample shorter, and so does an escape below
    have hlength := congrArg List.length h
    have hle := length_sample_le cs
    rw [sample, List.length_map, List.length_map, List.length_cons] at hlength
    omega
  | case3 cs ih =>
    rw [sample, List.map_cons, List.map_cons] at h
    have hx : F.fold 'x' = '_' := by
      rw [← (List.cons.inj h).1]
      exact F.fold_special _ (by decide)
    have hsame := (F.fold_eq_special (by decide)).mp hx
    contradiction
  | case4 =>
    rw [sample, List.map_singleton, List.map_singleton, F.fold_special _ (by decide),
      F.fold_special _ (by decide)] at h
    have hsame := (List.cons.inj h).1
    contradiction
  | case5 c cs ih =>
    have hlength := congrArg List.length h
    have hle := length_sample_le cs
    rw [sample] at hlength
    simp only [List.map_cons, List.length_cons, List.length_map] at hlength
    omega
  | case6 c cs hany hone hlast hesc ih =>
    have hc : c ∉ special := notMem_special hany hone hlast hesc
    rw [sample_plain hc, List.map_cons, List.map_cons] at h
    exact List.forall_mem_cons.mpr ⟨hc, ih (List.cons.inj h).2⟩

namespace CaseFolding

/-! ## Containment by ILIKE -/

variable {sought : String}

theorem fold_pattern (F : CaseFolding) (sought : String) :
    ("%" ++ sought ++ "%").toList.map F.fold = '%' :: (sought.toList.map F.fold ++ ['%']) := by
  have hpercent : F.fold '%' = '%' := F.fold_special _ (by decide)
  simp [String.toList_append, hpercent]

/-- Without special characters, ILIKE between two wildcards is containment. -/
theorem ilike_iff_contains (F : CaseFolding) (h : ∀ c ∈ sought.toList, c ∉ special)
    (text : String) :
    F.ilike text ("%" ++ sought ++ "%") = true ↔ F.Contains text sought := by
  unfold ilike Contains
  rw [fold_pattern]
  refine matchTokens_contains fun c hc => ?_
  obtain ⟨d, hd, rfl⟩ := List.mem_map.mp hc
  exact fold_notMem_special F (h d hd)

/-- With one, some text matches that does not contain what is looked for. -/
theorem exists_ilike_not_contains (F : CaseFolding) (h : ¬ ∀ c ∈ sought.toList, c ∉ special) :
    ∃ text, F.ilike text ("%" ++ sought ++ "%") = true ∧ ¬ F.Contains text sought := by
  refine ⟨String.ofList (sample sought.toList), ?_, fun hcontains => h ?_⟩
  · unfold ilike
    rw [fold_pattern, tokens, String.toList_ofList]
    exact matchTokens_any_self (matchTokens_sample F sought.toList)
  · unfold Contains at hcontains
    rw [String.toList_ofList] at hcontains
    have hle := length_sample_le sought.toList
    refine plain_of_sample F (hcontains.eq_of_length_le ?_)
    rwa [List.length_map, List.length_map]

end CaseFolding

end Like

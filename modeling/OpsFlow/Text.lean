import OpsFlow.Values
import Mathlib.Data.List.TakeWhile

namespace OpsFlow

/-! ## Spaces at the ends of a text -/

/-- Python's `str.isspace`. -/
def pythonSpace (c : Char) : Bool :=
  asciiSpace c ∨ c.toNat ∈ [0x1c, 0x1d, 0x1e, 0x1f] ∨ c.toNat ∈ wideSpaces

/-- Rust's `char::is_whitespace`, which pydantic strips. -/
def rustSpace (c : Char) : Bool := asciiSpace c ∨ c.toNat ∈ wideSpaces

def stripped (space : Char → Bool) (s : String) : String :=
  String.ofList ((s.toList.dropWhile space).rdropWhile space)

variable {space space' : Char → Bool} {s : String} {cs : List Char}

theorem pythonSpace_of_rustSpace {c : Char} (h : rustSpace c = true) : pythonSpace c = true := by
  simp only [rustSpace, pythonSpace, decide_eq_true_eq] at h ⊢
  obtain h | h := h
  · exact .inl h
  · exact .inr (.inr h)

def Trimmed (space : Char → Bool) (cs : List Char) : Prop :=
  (∀ c ∈ cs.head?, space c = false) ∧ ∀ c ∈ cs.getLast?, space c = false

theorem trimmed_stripped (space : Char → Bool) (s : String) :
    Trimmed space (stripped space s).toList := by
  unfold stripped
  rw [String.toList_ofList]
  constructor
  · intro c hc
    -- what is cut off at the end leaves the first character where it is
    have hprefix := List.rdropWhile_prefix space (l := s.toList.dropWhile space)
    obtain ⟨rest, hrest⟩ := hprefix
    have hhead : (s.toList.dropWhile space).head? = some c := by
      rw [← hrest, List.head?_append]
      simp [Option.mem_def.mp hc]
    have hnot := List.head?_dropWhile_not space s.toList
    rw [hhead] at hnot
    simpa using hnot
  · intro c hc
    have hne : (s.toList.dropWhile space).rdropWhile space ≠ [] := by
      rintro hnil
      simp [hnil] at hc
    have hlast := List.rdropWhile_last_not space (s.toList.dropWhile space) hne
    rw [List.getLast?_eq_some_getLast hne] at hc
    obtain rfl := Option.some.inj (Option.mem_def.mp hc)
    simpa using hlast

theorem stripped_of_trimmed (h : Trimmed space s.toList) : stripped space s = s := by
  have hfirst : s.toList.dropWhile space = s.toList := by
    cases hs : s.toList with
    | nil => rfl
    | cons c cs =>
      rw [hs] at h
      exact List.dropWhile_cons_of_neg (by simp [h.1 c rfl])
  have hlast : s.toList.rdropWhile space = s.toList := by
    rw [List.rdropWhile_eq_self_iff]
    intro hne
    have hspace := h.2 _ (List.getLast?_eq_some_getLast hne)
    simp [hspace]
  unfold stripped
  rw [hfirst, hlast, String.ofList_toList]

theorem Trimmed.mono (h : Trimmed space cs) (hsub : ∀ c, space' c = true → space c = true) :
    Trimmed space' cs := by
  have hfalse {c : Char} (hc : space c = false) : space' c = false := by
    by_contra hn
    rw [hsub c (by simpa using hn)] at hc
    contradiction
  exact ⟨fun c hc => hfalse (h.1 c hc), fun c hc => hfalse (h.2 c hc)⟩

/-- What Python has stripped, pydantic leaves as it is. -/
theorem stripped_stripped (s : String) :
    stripped rustSpace (stripped pythonSpace s) = stripped pythonSpace s :=
  stripped_of_trimmed ((trimmed_stripped pythonSpace s).mono fun _ => pythonSpace_of_rustSpace)

/-- Nothing is left of a text of spaces, and of no other one. -/
theorem stripped_eq_empty : stripped space s = "" ↔ ∀ c ∈ s.toList, space c = true := by
  constructor
  · intro h
    have hnil : (s.toList.dropWhile space).rdropWhile space = [] := by
      have hlist := congrArg String.toList h
      rwa [stripped, String.toList_ofList] at hlist
    rw [List.rdropWhile_eq_nil_iff] at hnil
    by_contra hnot
    have hne : s.toList.dropWhile space ≠ [] := by
      rwa [ne_eq, List.dropWhile_eq_nil_iff]
    have hhead := List.head_dropWhile_not space hne
    rw [hnil _ (List.head_mem hne)] at hhead
    contradiction
  · intro h
    rw [stripped, List.dropWhile_eq_nil_iff.mpr h]
    rfl

/-- No space at all, whatever counts as one, stands in the text of a UUID. -/
theorem stripped_str (hspace : ∀ c ∈ '-' :: hexChars, space c = false) (u : Uuid) :
    stripped space u.str = u.str := by
  have hchar {c : Char} (hc : c ∈ u.str.toList) : space c = false :=
    hspace c (List.mem_cons.mpr (mem_str hc))
  exact stripped_of_trimmed ⟨fun c hc => hchar (List.mem_of_mem_head? hc),
    fun c hc => hchar (List.mem_of_getLast? hc)⟩

theorem str_ne_empty (u : Uuid) : u.str ≠ "" := by
  intro h
  have hlength := congrArg String.toList h
  simp [toList_str] at hlength

/-! ## Words -/

/-- The words of a text after the word that has been begun. -/
def wordsFrom (space : Char → Bool) (word : List Char) : List Char → List (List Char)
  | [] => if word = [] then [] else [word]
  | c :: cs =>
    if space c then
      if word = [] then wordsFrom space [] cs else word :: wordsFrom space [] cs
    else wordsFrom space (word ++ [c]) cs

def words (s : String) : List String := (wordsFrom pythonSpace [] s.toList).map String.ofList

theorem wordsFrom_append {word rest : List Char} (hcs : ∀ c ∈ cs, space c = false) :
    wordsFrom space word (cs ++ rest) = wordsFrom space (word ++ cs) rest := by
  induction cs generalizing word with
  | nil => simp
  | cons c cs ih =>
    have hc : ¬ space c = true := by
      rw [hcs c (List.mem_cons_self ..)]
      decide
    rw [List.cons_append, wordsFrom, if_neg hc, ih fun d hd => hcs d (List.mem_cons_of_mem _ hd),
      List.append_assoc, List.singleton_append]

theorem wordsFrom_join {texts : List (List Char)} {blank : Char} (hblank : space blank = true)
    (hne : ∀ cs ∈ texts, cs ≠ []) (hplain : ∀ cs ∈ texts, ∀ c ∈ cs, space c = false) :
    wordsFrom space [] ([blank].intercalate texts) = texts := by
  induction texts with
  | nil => rfl
  | cons text texts ih =>
    have hword : text ≠ [] := hne text (List.mem_cons_self ..)
    have hclear := hplain text (List.mem_cons_self ..)
    cases texts with
    | nil =>
      have hends : wordsFrom space [] (text ++ []) = wordsFrom space ([] ++ text) [] :=
        wordsFrom_append hclear
      rw [List.append_nil, List.nil_append] at hends
      rw [List.intercalate_singleton, hends, wordsFrom, if_neg hword]
    | cons next texts =>
      rw [List.intercalate_cons_cons, List.append_assoc, wordsFrom_append hclear,
        List.singleton_append, wordsFrom, if_pos hblank, List.nil_append, if_neg hword]
      rw [ih (fun cs h => hne cs (List.mem_cons_of_mem _ h))
        fun cs h => hplain cs (List.mem_cons_of_mem _ h)]

/-- Words that are joined with blanks are read back. -/
theorem words_join {texts : List String} (hne : ∀ s ∈ texts, s ≠ "")
    (hplain : ∀ s ∈ texts, ∀ c ∈ s.toList, pythonSpace c = false) :
    words (" ".intercalate texts) = texts := by
  unfold words
  rw [String.toList_intercalate]
  have hjoin : wordsFrom pythonSpace [] ([' '].intercalate (texts.map String.toList)) =
      texts.map String.toList :=
    wordsFrom_join (by decide) (by simpa using hne) (by simpa using hplain)
  change (wordsFrom pythonSpace [] ([' '].intercalate (texts.map String.toList))).map _ = _
  rw [hjoin, List.map_map]
  simp [Function.comp_def]

end OpsFlow

import SignOn.Proofs.Dialogue.Path
import SignOn.Proofs.Text.Caseless
import SignOn.Realm

/-!
# How a realm is searched for

The candidates in a host name are ends of it, each shorter than the one before
(`isSuffix_of_mem_candidates`, `candidates_pairwise`). A search asks about them one by one, and
every way it can go is listed (`Searches`). Where candidates are decided the same way each time, a
search ends with the first that is accepted (`Searches.outcome_eq`), and the realm of a host name is
named by the longest one (`among_eq_some_iff`).
-/

set_option autoImplicit false

namespace SignOn.Realm

open Dialogue (Happening)

/-! ## Candidates -/

/-- A text of fewer than three characters has no candidates. -/
theorem candidates_of_short {host : List Char} (short : host.length < 3) :
    candidates host = [] := by
  rw [candidates, if_pos short]

/-- A text of three characters or more without a next point is its only candidate. -/
theorem candidates_of_last {host : List Char} (long : ¬ host.length < 3)
    (last : afterNextPoint host = none) : candidates host = [host] := by
  rw [candidates, if_neg long]
  split
  · rfl
  · rename_i rest found
    rw [last] at found
    cases found

/-- A text of three characters or more comes before the candidates in what follows its next
point. -/
theorem candidates_of_point {host rest : List Char} (long : ¬ host.length < 3)
    (found : afterNextPoint host = some rest) : candidates host = host :: candidates rest := by
  rw [candidates, if_neg long]
  split
  · rename_i last
    rw [last] at found
    cases found
  · rename_i other found'
    rw [found] at found'
    cases found'
    rfl

/-- What follows a point is the end of the text. -/
theorem isSuffix_of_afterPoint {text rest : List Char}
    (found : afterNextPoint.afterPoint text = some rest) : rest <:+ text := by
  induction text with
  | nil => cases found
  | cons c others ih =>
    rw [afterNextPoint.afterPoint] at found
    split at found
    · cases found
      exact List.suffix_cons c rest
    · exact (ih found).trans (List.suffix_cons c others)

/-- What follows the next point of a text is an ending of it. -/
theorem isSuffix_of_afterNextPoint {text rest : List Char}
    (found : afterNextPoint text = some rest) : rest <:+ text := by
  cases text with
  | nil => cases found
  | cons c others => exact (isSuffix_of_afterPoint found).trans (List.suffix_cons c others)

/-- A candidate is the end of the host name and has three characters at least. -/
theorem isSuffix_of_mem_candidates {host candidate : List Char}
    (member : candidate ∈ candidates host) : candidate <:+ host ∧ 3 ≤ candidate.length := by
  induction host using candidates.induct with
  | case1 host short =>
    rw [candidates_of_short short] at member
    cases member
  | case2 host long last =>
    rw [candidates_of_last long last, List.mem_singleton] at member
    rw [member]
    exact ⟨List.suffix_refl host, Nat.le_of_not_lt long⟩
  | case3 host long rest found shorter ih =>
    rw [candidates_of_point long found] at member
    rcases List.mem_cons.mp member with rfl | later
    · exact ⟨List.suffix_refl candidate, Nat.le_of_not_lt long⟩
    · obtain ⟨suffix, three⟩ := ih later
      exact ⟨suffix.trans (isSuffix_of_afterNextPoint found), three⟩

/-- Every candidate is longer than those after it. -/
theorem candidates_pairwise (host : List Char) :
    (candidates host).Pairwise (fun longer shorter => shorter.length < longer.length) := by
  induction host using candidates.induct with
  | case1 host short =>
    rw [candidates_of_short short]
    exact .nil
  | case2 host long last =>
    rw [candidates_of_last long last]
    exact List.pairwise_singleton _ _
  | case3 host long rest found shorter ih =>
    rw [candidates_of_point long found, List.pairwise_cons]
    refine ⟨?_, ih⟩
    intro candidate member
    exact Nat.lt_of_le_of_lt (isSuffix_of_mem_candidates member).1.length_le shorter

/-- The texts that a search asks about, in their order. -/
def candidateTexts (host : String) : List String := (candidates host.toList).map String.ofList

/-- The texts that a search asks about are the candidates in the host name. -/
theorem mem_candidateTexts_iff {host text : String} :
    text ∈ candidateTexts host ↔ text.toList ∈ candidates host.toList := by
  constructor
  · intro member
    obtain ⟨chars, found, rfl⟩ := List.mem_map.mp member
    rwa [String.toList_ofList]
  · intro member
    exact List.mem_map.mpr ⟨text.toList, member, String.ofList_toList⟩

/-- The texts of candidates get shorter. -/
theorem candidateTexts_pairwise (host : String) :
    (candidateTexts host).Pairwise (fun longer shorter => shorter.length < longer.length) := by
  rw [candidateTexts, List.pairwise_map]
  simpa using candidates_pairwise host.toList

/-- A character of a candidate is one of the host name. -/
theorem mem_of_mem_candidateTexts {host candidate : String} {c : Char}
    (member : candidate ∈ candidateTexts host) (inside : c ∈ candidate.toList) :
    c ∈ host.toList := by
  obtain ⟨chars, found, rfl⟩ := List.mem_map.mp member
  rw [String.toList_ofList] at inside
  exact (isSuffix_of_mem_candidates found).1.subset inside

/-- No candidate is empty. -/
theorem candidateTexts_ne_empty {host candidate : String}
    (member : candidate ∈ candidateTexts host) : candidate ≠ "" := by
  obtain ⟨chars, found, rfl⟩ := List.mem_map.mp member
  have three := (isSuffix_of_mem_candidates found).2
  intro empty
  rw [← String.toList_eq_nil_iff, String.toList_ofList] at empty
  rw [empty] at three
  cases three

/-- A candidate is accepted, and every other one that is accepted is shorter. -/
def IsLongest (accepts : String → Bool) (host candidate : String) : Prop :=
  candidate ∈ candidateTexts host ∧ accepts candidate = true ∧
    ∀ other ∈ candidateTexts host, accepts other = true →
      other = candidate ∨ other.length < candidate.length

/-- The first candidate that is accepted is the longest one. -/
theorem isLongest_of_find? {accepts : String → Bool} {host candidate : String}
    (found : (candidateTexts host).find? accepts = some candidate) :
    IsLongest accepts host candidate := by
  obtain ⟨accepted, earlier, later, split, rejected⟩ := List.find?_eq_some_iff_append.mp found
  have decreasing := candidateTexts_pairwise host
  refine ⟨List.mem_of_find?_eq_some found, accepted, ?_⟩
  intro other member accepts
  rw [split] at member decreasing
  rcases List.mem_append.mp member with before | here
  · have contradiction := rejected other before
    rw [accepts] at contradiction
    cases contradiction
  · rcases List.mem_cons.mp here with same | after
    · exact .inl same
    · have tail := (List.pairwise_append.mp decreasing).2.1
      exact .inr ((List.pairwise_cons.mp tail).1 other after)

/-- There is one longest candidate at most. -/
theorem IsLongest.unique {accepts : String → Bool} {host first second : String}
    (longest : IsLongest accepts host first) (other : IsLongest accepts host second) :
    first = second := by
  rcases other.2.2 first longest.1 longest.2.1 with same | shorter
  · exact same
  rcases longest.2.2 second other.1 other.2.1 with same | longer
  · exact same.symm
  · exact absurd shorter (Nat.lt_asymm longer)

/-- The realm in a host name, where `accepts` decides about the candidates. -/
def among (accepts : String → Bool) (host : String) : Option Realm :=
  ((candidateTexts host).find? accepts).map .ofText

/-- The realm in a host name is named by the longest candidate that is accepted. -/
theorem among_eq_some_iff {accepts : String → Bool} {host : String} {realm : Realm} :
    among accepts host = some realm ↔
      ∃ candidate, IsLongest accepts host candidate ∧ realm = .ofText candidate := by
  rw [among, Option.map_eq_some_iff]
  constructor
  · rintro ⟨candidate, found, rfl⟩
    exact ⟨candidate, isLongest_of_find? found, rfl⟩
  · rintro ⟨candidate, longest, rfl⟩
    have some : ((candidateTexts host).find? accepts).isSome = true :=
      List.find?_isSome.mpr ⟨candidate, longest.1, longest.2.1⟩
    obtain ⟨found, first⟩ := Option.isSome_iff_exists.mp some
    exact ⟨candidate, by rw [first, (isLongest_of_find? first).unique longest], rfl⟩

/-- There is no realm in a host name all of whose candidates are rejected. -/
theorem among_eq_none_iff {accepts : String → Bool} {host : String} :
    among accepts host = none ↔ ∀ candidate ∈ candidateTexts host, accepts candidate = false := by
  simp only [among, Option.map_eq_none_iff, List.find?_eq_none, Bool.not_eq_true]

/-- A host name with a realm in it is not empty. -/
theorem ne_empty_of_among {accepts : String → Bool} {host : String} {realm : Realm}
    (found : among accepts host = some realm) : host ≠ "" := by
  obtain ⟨candidate, longest, _⟩ := among_eq_some_iff.mp found
  rintro rfl
  have nothing : candidateTexts "" = [] := by
    rw [candidateTexts, candidates_of_short (by decide), List.map_nil]
  have member := longest.1
  rw [nothing] at member
  cases member

/-- A realm is not empty. -/
theorem text_ne_empty_of_among {accepts : String → Bool} {host : String} {realm : Realm}
    (found : among accepts host = some realm) : realm.text ≠ "" := by
  obtain ⟨candidate, longest, rfl⟩ := among_eq_some_iff.mp found
  exact mt (Text.upper_eq_empty_iff candidate).mp (candidateTexts_ne_empty longest.1)

/-- A realm holds no character without letter case that the candidates do not hold. -/
theorem not_mem_text_of_among {accepts : String → Bool} {host : String} {realm : Realm} {c : Char}
    (caseless : Text.isCaseless c.toNat = true) (found : among accepts host = some realm)
    (absent : ∀ candidate ∈ candidateTexts host, accepts candidate = true → c ∉ candidate.toList) :
    c ∉ realm.text.toList := by
  obtain ⟨candidate, longest, rfl⟩ := among_eq_some_iff.mp found
  exact mt (Text.mem_upper_iff caseless candidate).mp (absent candidate longest.1 longest.2.1)

/-! ## Searches -/

variable {I : Interface}

/-- A search goes through candidates, up to the first that is accepted or that cannot be decided. -/
inductive Searches (accepts : String → Action I Bool) :
    List String → List (Happening I) → Except Error (Option Realm) → Prop where
  | exhausted : Searches accepts [] [] (.ok none)
  | accepted {history : List (Happening I)} (candidate : String) (rest : List String)
      (accepted : (accepts candidate).run.Path history (.ok true)) :
      Searches accepts (candidate :: rest) (.logged (.realmCandidate candidate) :: history)
        (.ok (some (.ofText candidate)))
  | rejected {rest : List String} {first later : List (Happening I)}
      {outcome : Except Error (Option Realm)} (candidate : String)
      (rejected : (accepts candidate).run.Path first (.ok false))
      (others : Searches accepts rest later outcome) :
      Searches accepts (candidate :: rest)
        (.logged (.realmCandidate candidate) :: (first ++ later)) outcome
  | raised {history : List (Happening I)} (candidate : String) (rest : List String) (error : Error)
      (raised : (accepts candidate).run.Path history (.error error)) :
      Searches accepts (candidate :: rest) (.logged (.realmCandidate candidate) :: history)
        (.error error)

/-- Every way through a search is listed. -/
theorem path_firstAccepted {accepts : String → Action I Bool} {texts : List String}
    {history : List (Happening I)} {outcome : Except Error (Option Realm)}
    (path : (firstAccepted accepts texts).run.Path history outcome) :
    Searches accepts texts history outcome := by
  induction texts generalizing history with
  | nil =>
    obtain ⟨rfl, rfl⟩ := Action.path_pure path
    exact .exhausted
  | cons candidate rest ih =>
    rw [firstAccepted] at path
    obtain ⟨later, rfl, logged⟩ := Action.path_log_bind path
    rcases Action.path_bind logged with
      ⟨error, asking, rfl⟩ | ⟨accepted, first, others, rfl, asking, decided⟩
    · exact .raised candidate rest error asking
    cases accepted with
    | true =>
      obtain ⟨rfl, rfl⟩ := Action.path_pure decided
      rw [List.append_nil]
      exact .accepted candidate rest asking
    | false => exact .rejected candidate asking (ih decided)

/-- A search for the realm of a host goes through its candidates. -/
theorem path_find {accepts : String → Action I Bool} {host : String} {history : List (Happening I)}
    {outcome : Except Error (Option Realm)}
    (path : (find accepts (some host)).run.Path history outcome) :
    Searches accepts (candidateTexts host) history outcome :=
  path_firstAccepted path

/-- What every happening in the questions about candidates satisfies, all of a search satisfies. -/
theorem Searches.forall_mem {accepts : String → Action I Bool} {texts : List String}
    {history : List (Happening I)} {outcome : Except Error (Option Realm)}
    (searches : Searches accepts texts history outcome) {holds : Happening I → Prop}
    (logs : ∀ candidate, holds (.logged (.realmCandidate candidate)))
    (asks : ∀ candidate first result, (accepts candidate).run.Path first result →
      ∀ happening ∈ first, holds happening) : ∀ happening ∈ history, holds happening := by
  induction searches with
  | exhausted =>
    intro happening member
    cases member
  | accepted candidate rest accepted =>
    rw [List.forall_mem_cons]
    exact ⟨logs candidate, asks _ _ _ accepted⟩
  | rejected candidate rejected others ih =>
    rw [List.forall_mem_cons, List.forall_mem_append]
    exact ⟨logs candidate, asks _ _ _ rejected, ih⟩
  | raised candidate rest error raised =>
    rw [List.forall_mem_cons]
    exact ⟨logs candidate, asks _ _ _ raised⟩

/-- Where every candidate is decided as `decides` says, as long as the collaborators keep to what is
given of them, a search ends with the first candidate that is accepted. -/
theorem Searches.outcome_eq {accepts : String → Action I Bool} {texts : List String}
    {history : List (Happening I)} {outcome : Except Error (Option Realm)}
    (searches : Searches accepts texts history outcome) {decides : String → Bool}
    {given : Happening I → Prop}
    (steady : ∀ candidate first result, (accepts candidate).run.Path first result →
      (∀ happening ∈ first, given happening) → result = .ok (decides candidate))
    (all : ∀ happening ∈ history, given happening) :
    outcome = .ok ((texts.find? decides).map .ofText) := by
  induction searches with
  | exhausted => rfl
  | accepted candidate rest accepted =>
    have decided := steady _ _ _ accepted (List.forall_mem_cons.mp all).2
    rw [List.find?_cons_of_pos (Except.ok.inj decided).symm]
    rfl
  | @rejected rest first later outcome candidate rejected others ih =>
    rw [List.forall_mem_cons, List.forall_mem_append] at all
    have decided := steady _ _ _ rejected all.2.1
    rw [List.find?_cons_of_neg (by simp [← Except.ok.inj decided])]
    exact ih all.2.2
  | raised candidate rest error raised =>
    cases steady _ _ _ raised (List.forall_mem_cons.mp all).2

end SignOn.Realm

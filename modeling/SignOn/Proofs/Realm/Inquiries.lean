import SignOn.Proofs.Realm.Overlap

/-!
# What a search asks about

A search consists of inquiries: for each the candidate, what happens until there is a verdict, and
the verdict. It makes them about the candidates in a host name in their order, and ends with the
first that is not a rejection (`Inquires`, `path_find_inquires`). The candidates are the host name
and what follows its points, the longest first; they are all that follows a point and has three
characters at least, unless the host name has an empty label before its last one
(`mem_candidates_of_follows`). Main statement: which inquiries a search makes and what comes of it,
for every host name and every validator (`longest_accepted_first`).
-/

set_option autoImplicit false

namespace SignOn.Realm

open Dialogue (Answerer Happening)
open Text (upper)

/-! ## Candidates -/

/-- A candidate is the host name, or it follows a point in it. -/
theorem eq_or_follows_of_mem_candidates {host candidate : List Char}
    (member : candidate ∈ candidates host) : candidate = host ∨ '.' :: candidate <:+ host := by
  induction host using candidates.induct with
  | case1 host short =>
    rw [candidates_of_short short] at member
    cases member
  | case2 host long last =>
    rw [candidates_of_last long last] at member
    exact .inl (List.mem_singleton.mp member)
  | case3 host long rest found shorter ih =>
    have inside := suffix_of_afterNextPoint found
    rw [candidates_of_point long found] at member
    rcases List.mem_cons.mp member with same | later
    · exact .inl same
    · rcases ih later with rfl | follows
      · exact .inr inside
      · exact .inr (follows.trans ((List.suffix_cons '.' rest).trans inside))

/-- The first candidate is the host name, if that is long enough. -/
theorem head?_candidates (host : List Char) :
    (candidates host).head? = if host.length < 3 then none else some host := by
  rw [candidates]
  split
  · rfl
  · split <;> rfl

/-- A host has no more candidates than characters, less two. -/
theorem length_candidates_le (host : List Char) :
    (candidates host).length ≤ host.length - 2 := by
  induction host using candidates.induct with
  | case1 host short =>
    rw [candidates_of_short short]
    exact Nat.zero_le _
  | case2 host long last =>
    rw [candidates_of_last long last, List.length_singleton]
    omega
  | case3 host long rest found shorter ih =>
    rw [candidates_of_point long found, List.length_cons]
    omega

/-- What follows a point in a text follows the first point of the text, or a later one. -/
theorem eq_or_follows_of_afterPoint {text suffix : List Char} (follows : '.' :: suffix <:+ text) :
    ∃ rest, afterNextPoint.afterPoint text = some rest ∧
      (suffix = rest ∨ '.' :: suffix <:+ rest) := by
  induction text with
  | nil => cases List.suffix_nil.mp follows
  | cons c others ih =>
    rw [afterNextPoint.afterPoint]
    by_cases point : c = '.'
    · rw [if_pos point]
      refine ⟨others, rfl, ?_⟩
      rcases List.suffix_cons_iff.mp follows with same | later
      · exact .inl (List.cons.inj same).2
      · exact .inr later
    · rw [if_neg point]
      rcases List.suffix_cons_iff.mp follows with same | later
      · exact absurd (List.cons.inj same).1.symm point
      · exact ih later

/-- A host name begins with a point, or it has two points in a row. -/
def HasEmptyLabel (host : List Char) : Prop := host.head? = some '.' ∨ ['.', '.'] <:+: host

/-- An empty label behind a point is one of the host name. -/
theorem HasEmptyLabel.of_follows {host rest : List Char} (follows : '.' :: rest <:+ host)
    (empty : HasEmptyLabel rest) : HasEmptyLabel host := by
  rcases empty with point | row
  · obtain ⟨others, rfl⟩ := List.head?_eq_some_iff.mp point
    exact .inr ((List.prefix_append ['.', '.'] others).isInfix.trans follows.isInfix)
  · exact .inr (row.trans ((List.suffix_cons '.' rest).trans follows).isInfix)

/-- Without empty labels, what follows a point follows the next point, or a later one. -/
theorem eq_or_follows_of_afterNextPoint {host suffix : List Char} (labels : ¬ HasEmptyLabel host)
    (follows : '.' :: suffix <:+ host) :
    ∃ rest, afterNextPoint host = some rest ∧ (suffix = rest ∨ '.' :: suffix <:+ rest) := by
  cases host with
  | nil => cases List.suffix_nil.mp follows
  | cons c others =>
    -- the next point is looked for behind the first character, which is no point
    rcases List.suffix_cons_iff.mp follows with same | later
    · exact absurd (.inl (by rw [← same]; rfl)) labels
    · exact eq_or_follows_of_afterPoint later

/-- Without empty labels, all that follows a point and is long enough is a candidate. -/
theorem mem_candidates_of_follows {host suffix : List Char} (labels : ¬ HasEmptyLabel host)
    (follows : '.' :: suffix <:+ host) (three : 3 ≤ suffix.length) : suffix ∈ candidates host := by
  induction host using candidates.induct with
  | case1 host short =>
    have shorter := follows.length_le
    rw [List.length_cons] at shorter
    omega
  | case2 host long last =>
    obtain ⟨rest, found, _⟩ := eq_or_follows_of_afterNextPoint labels follows
    rw [last] at found
    cases found
  | case3 host long rest found shorter ih =>
    rw [candidates_of_point long found]
    refine List.mem_cons_of_mem host ?_
    obtain ⟨next, found', here⟩ := eq_or_follows_of_afterNextPoint labels follows
    rw [found] at found'
    cases found'
    rcases here with rfl | later
    · refine List.mem_of_mem_head? ?_
      rw [head?_candidates, if_neg (Nat.not_lt.mpr three)]
      rfl
    · exact ih (mt (.of_follows (suffix_of_afterNextPoint found)) labels) later

/-! ## Inquiries -/

variable {I : Interface}

/-- What comes of asking a validator about a candidate. -/
structure Inquiry (I : Interface) where
  candidate : String
  /-- What happens until there is a verdict. -/
  history : List (Happening I)
  verdict : Except Error Bool

namespace Inquiry

/-- The inquiry is a way in which a validator can be asked about the candidate. -/
def IsOf (accepts : String → Action I Bool) (inquiry : Inquiry I) : Prop :=
  (accepts inquiry.candidate).run.Path inquiry.history inquiry.verdict

/-- What happens in an inquiry of a search, which logs the candidate first. -/
def happenings (inquiry : Inquiry I) : List (Happening I) :=
  .logged (.realmCandidate inquiry.candidate) :: inquiry.history

end Inquiry

/-- The outcome of a search by the inquiries it makes. -/
def conclusion : List (Inquiry I) → Except Error (Option Realm)
  | [] => .ok none
  | inquiry :: others =>
    match inquiry.verdict with
    | .ok true => .ok (some (.ofText inquiry.candidate))
    | .ok false => conclusion others
    | .error error => .error error

/-- A search makes inquiries about candidates in their order, up to the first that does not end with
a rejection. -/
structure Inquires (accepts : String → Action I Bool) (texts : List String)
    (asked : List (Inquiry I)) (history : List (Happening I))
    (outcome : Except Error (Option Realm)) : Prop where
  history_eq : history = asked.flatMap Inquiry.happenings
  isOf : ∀ inquiry ∈ asked, inquiry.IsOf accepts
  inOrder : asked.map Inquiry.candidate <+: texts
  rejected : asked.Pairwise (fun earlier _ => earlier.verdict = .ok false)
  exhausted : (∀ inquiry ∈ asked, inquiry.verdict = .ok false) → asked.map Inquiry.candidate = texts
  outcome_eq : outcome = conclusion asked

/-- An inquiry that settles a search is its last one. -/
theorem inquires_settled {accepts : String → Action I Bool} {inquiry : Inquiry I}
    (isOf : inquiry.IsOf accepts) (settled : inquiry.verdict ≠ .ok false) (others : List String) :
    Inquires accepts (inquiry.candidate :: others) [inquiry] inquiry.happenings
      (conclusion [inquiry]) where
  history_eq := (List.flatMap_singleton _ _).symm
  isOf := List.forall_mem_singleton.mpr isOf
  inOrder := List.prefix_append [inquiry.candidate] others
  rejected := List.pairwise_singleton _ _
  exhausted rejected := absurd (rejected inquiry List.mem_cons_self) settled
  outcome_eq := rfl

/-- After a rejection a search goes on. -/
theorem Inquires.cons {accepts : String → Action I Bool} {inquiry : Inquiry I} {texts : List String}
    {asked : List (Inquiry I)} {history : List (Happening I)}
    {outcome : Except Error (Option Realm)} (isOf : inquiry.IsOf accepts)
    (rejected : inquiry.verdict = .ok false)
    (others : Inquires accepts texts asked history outcome) :
    Inquires accepts (inquiry.candidate :: texts) (inquiry :: asked)
      (inquiry.happenings ++ history) outcome where
  history_eq := by rw [others.history_eq, List.flatMap_cons]
  isOf := List.forall_mem_cons.mpr ⟨isOf, others.isOf⟩
  inOrder := (List.prefix_cons_inj _).mpr others.inOrder
  rejected := List.pairwise_cons.mpr ⟨fun _ _ => rejected, others.rejected⟩
  exhausted all := by
    rw [List.map_cons, others.exhausted (List.forall_mem_cons.mp all).2]
  outcome_eq := by rw [others.outcome_eq, conclusion, rejected]

/-- Every search makes inquiries. -/
theorem Searches.inquires {accepts : String → Action I Bool} {texts : List String}
    {history : List (Happening I)} {outcome : Except Error (Option Realm)}
    (searches : Searches accepts texts history outcome) :
    ∃ asked, Inquires accepts texts asked history outcome := by
  induction searches with
  | exhausted => exact ⟨[], rfl, nofun, List.prefix_rfl, .nil, fun _ => rfl, rfl⟩
  | @accepted history candidate rest accepted =>
    have isOf : Inquiry.IsOf accepts ⟨candidate, history, .ok true⟩ := accepted
    exact ⟨_, inquires_settled isOf nofun rest⟩
  | @rejected rest first later outcome candidate rejected others ih =>
    obtain ⟨asked, inquires⟩ := ih
    have isOf : Inquiry.IsOf accepts ⟨candidate, first, .ok false⟩ := rejected
    exact ⟨_, inquires.cons isOf rfl⟩
  | @raised history candidate rest error raised =>
    have isOf : Inquiry.IsOf accepts ⟨candidate, history, .error error⟩ := raised
    exact ⟨_, inquires_settled isOf nofun rest⟩

/-! ## Conclusions -/

/-- A search comes to nothing if every inquiry ends with a rejection. -/
theorem conclusion_eq_none_iff {asked : List (Inquiry I)} :
    conclusion asked = .ok none ↔ ∀ inquiry ∈ asked, inquiry.verdict = .ok false := by
  induction asked with
  | nil => simp [conclusion]
  | cons inquiry others ih =>
    rw [conclusion, List.forall_mem_cons]
    split
    · next accepted => simp [accepted]
    · next rejected => simp [rejected, ih]
    · next error raised => simp [raised]

/-- Where rejections come before other verdicts, the conclusion is that of any other verdict. -/
theorem conclusion_eq_of_settled {asked : List (Inquiry I)} {inquiry : Inquiry I}
    (rejected : asked.Pairwise (fun earlier _ => earlier.verdict = .ok false))
    (member : inquiry ∈ asked) (settled : inquiry.verdict ≠ .ok false) :
    conclusion asked = conclusion [inquiry] := by
  induction asked with
  | nil => cases member
  | cons first others ih =>
    obtain ⟨before, rejected⟩ := List.pairwise_cons.mp rejected
    rcases List.mem_cons.mp member with rfl | later
    · cases others with
      | nil => rfl
      | cons second others => exact absurd (before second List.mem_cons_self) settled
    · rw [conclusion, before inquiry later]
      exact ih rejected later

/-- Anything but nothing is concluded from an inquiry that does not end with a rejection. -/
theorem conclusion_eq_iff {asked : List (Inquiry I)} {result : Except Error (Option Realm)}
    (rejected : asked.Pairwise (fun earlier _ => earlier.verdict = .ok false))
    (something : result ≠ .ok none) :
    conclusion asked = result ↔
      ∃ inquiry ∈ asked, inquiry.verdict ≠ .ok false ∧ conclusion [inquiry] = result := by
  constructor
  · intro concluded
    have unsettled := mt conclusion_eq_none_iff.mpr (concluded ▸ something)
    obtain ⟨inquiry, member, settled⟩ :
        ∃ inquiry ∈ asked, inquiry.verdict ≠ .ok false := by simpa using unsettled
    exact ⟨inquiry, member, settled,
      (conclusion_eq_of_settled rejected member settled).symm.trans concluded⟩
  · rintro ⟨inquiry, member, settled, concluded⟩
    exact (conclusion_eq_of_settled rejected member settled).trans concluded

/-- A search finds the realm that an accepted candidate names. -/
theorem conclusion_eq_some_iff {asked : List (Inquiry I)} {realm : Realm}
    (rejected : asked.Pairwise (fun earlier _ => earlier.verdict = .ok false)) :
    conclusion asked = .ok (some realm) ↔
      ∃ inquiry ∈ asked, inquiry.verdict = .ok true ∧ realm.text = upper inquiry.candidate := by
  have named : ∀ inquiry : Inquiry I,
      (inquiry.verdict ≠ .ok false ∧ conclusion [inquiry] = .ok (some realm)) ↔
        inquiry.verdict = .ok true ∧ realm.text = upper inquiry.candidate := by
    intro inquiry
    rw [conclusion]
    rcases inquiry.verdict with error | _ | _
    · simp
    · simp
    · simp [Realm.ext_iff, Realm.text, eq_comm]
  have something : (.ok (some realm) : Except Error (Option Realm)) ≠ .ok none := nofun
  simp only [conclusion_eq_iff rejected something, named]

/-- A search raises what an inquiry raises. -/
theorem conclusion_eq_error_iff {asked : List (Inquiry I)} {error : Error}
    (rejected : asked.Pairwise (fun earlier _ => earlier.verdict = .ok false)) :
    conclusion asked = .error error ↔ ∃ inquiry ∈ asked, inquiry.verdict = .error error := by
  have raised : ∀ inquiry : Inquiry I,
      (inquiry.verdict ≠ .ok false ∧ conclusion [inquiry] = .error error) ↔
        inquiry.verdict = .error error := by
    intro inquiry
    rw [conclusion]
    rcases inquiry.verdict with error | _ | _ <;> simp [conclusion]
  have something : (.error error : Except Error (Option Realm)) ≠ .ok none := nofun
  simp only [conclusion_eq_iff rejected something, raised]

/-! ## Searches in host names -/

/-- A text is what follows a point in a host name. -/
def FollowsPoint (host text : String) : Prop := '.' :: text.toList <:+ host.toList

/-- Inquiries go through a host name: about the host name itself first, then about what follows a
point, every time about less; and each time about three characters at least. -/
structure GoesThrough (host : String) (asked : List (Inquiry I)) : Prop where
  eq_nil_iff : asked = [] ↔ host.length < 3
  first : ∀ inquiry others, asked = inquiry :: others → inquiry.candidate = host ∧
    ∀ later ∈ others, FollowsPoint host later.candidate
  shorter : asked.Pairwise (fun earlier later => later.candidate.length < earlier.candidate.length)
  three_le : ∀ inquiry ∈ asked, 3 ≤ inquiry.candidate.length
  length_le : asked.length ≤ host.length - 2

/-- Inquiries leave nothing out: about the host name and about all that follows a point and has
three characters at least there is an inquiry, unless one about more was no rejection. -/
def LeavesNothingOut (host : String) (asked : List (Inquiry I)) : Prop :=
  ∀ text, text = host ∨ FollowsPoint host text → 3 ≤ text.length →
    (∃ inquiry ∈ asked, inquiry.candidate = text) ∨
      ∃ inquiry ∈ asked, inquiry.verdict ≠ .ok false ∧ text.length < inquiry.candidate.length

/-- A candidate is the host name itself or what follows a point in it. -/
theorem eq_or_followsPoint_of_mem {host text : String} (member : text ∈ candidateTexts host) :
    text = host ∨ FollowsPoint host text := by
  rcases eq_or_follows_of_mem_candidates (mem_candidateTexts_iff.mp member) with same | follows
  · exact .inl (String.toList_injective same)
  · exact .inr follows

/-- The first candidate text is the host name, if that is long enough. -/
theorem head?_candidateTexts (host : String) :
    (candidateTexts host).head? = if host.length < 3 then none else some host := by
  rw [candidateTexts, List.head?_map, head?_candidates, String.length_toList]
  split
  · rfl
  · rw [Option.map_some, String.ofList_toList]

/-- The inquiries of a search go through the host name. -/
theorem Inquires.goesThrough {accepts : String → Action I Bool} {host : String}
    {asked : List (Inquiry I)} {history : List (Happening I)}
    {outcome : Except Error (Option Realm)}
    (inquires : Inquires accepts (candidateTexts host) asked history outcome) :
    GoesThrough host asked := by
  have texts := inquires.inOrder
  -- the inquiries are about the first candidates, each of which is shorter than the one before
  have decreasing := (candidateTexts_pairwise host).sublist texts.sublist
  rw [List.pairwise_map] at decreasing
  have candidate_mem : ∀ inquiry ∈ asked, inquiry.candidate ∈ candidateTexts host :=
    fun inquiry member => texts.subset (List.mem_map_of_mem member)
  refine ⟨?_, ?_, decreasing, ?_, ?_⟩
  · constructor
    · rintro rfl
      have nothing := head?_candidateTexts host
      rw [← inquires.exhausted nofun] at nothing
      split at nothing
      · assumption
      · cases nothing
    · intro short
      have nothing := head?_candidateTexts host
      rw [if_pos short, List.head?_eq_none_iff] at nothing
      rw [nothing] at texts
      exact List.map_eq_nil_iff.mp (List.prefix_nil.mp texts)
  · rintro inquiry others rfl
    obtain ⟨rest, split⟩ := texts
    have whole := head?_candidateTexts host
    rw [← split] at whole
    have same : inquiry.candidate = host := by
      split at whole
      · cases whole
      · exact Option.some.inj whole
    refine ⟨same, ?_⟩
    intro later member
    have shorter := (List.pairwise_cons.mp decreasing).1 later member
    have follows := eq_or_followsPoint_of_mem (candidate_mem later (List.mem_cons_of_mem _ member))
    -- the host name itself comes first and is longer than what comes later
    refine follows.resolve_left ?_
    intro same'
    rw [same, same'] at shorter
    exact Nat.lt_irrefl _ shorter
  · intro inquiry member
    have found := mem_candidateTexts_iff.mp (candidate_mem inquiry member)
    rw [← String.length_toList]
    exact (isSuffix_of_mem_candidates found).2
  · have fewer := texts.length_le
    rw [List.length_map, candidateTexts, List.length_map] at fewer
    rw [← String.length_toList]
    exact Nat.le_trans fewer (length_candidates_le host.toList)

/-- In a host name without empty labels, nothing is left out. -/
theorem Inquires.leavesNothingOut {accepts : String → Action I Bool} {host : String}
    {asked : List (Inquiry I)} {history : List (Happening I)}
    {outcome : Except Error (Option Realm)}
    (inquires : Inquires accepts (candidateTexts host) asked history outcome)
    (labels : ¬ HasEmptyLabel host.toList) : LeavesNothingOut host asked := by
  intro text part three
  have member : text ∈ candidateTexts host := by
    rcases part with rfl | follows
    · refine List.mem_of_mem_head? ?_
      rw [head?_candidateTexts, if_neg (Nat.not_lt.mpr three)]
      rfl
    · rw [← String.length_toList] at three
      exact mem_candidateTexts_iff.mpr (mem_candidates_of_follows labels follows three)
  by_cases all : ∀ inquiry ∈ asked, inquiry.verdict = .ok false
  · rw [← inquires.exhausted all] at member
    exact .inl (List.mem_map.mp member)
  · obtain ⟨rest, split⟩ := inquires.inOrder
    rw [← split] at member
    rcases List.mem_append.mp member with here | later
    · exact .inl (List.mem_map.mp here)
    · obtain ⟨inquiry, asked', settled⟩ :
          ∃ inquiry ∈ asked, inquiry.verdict ≠ .ok false := by simpa using all
      have decreasing := candidateTexts_pairwise host
      rw [← split, List.pairwise_append] at decreasing
      exact .inr ⟨inquiry, asked', settled,
        decreasing.2.2 _ (List.mem_map_of_mem asked') text later⟩

/-- An inquiry that does not end with a rejection is the only such one. -/
theorem eq_or_rejected {asked : List (Inquiry I)} {inquiry other : Inquiry I}
    (rejected : asked.Pairwise (fun earlier _ => earlier.verdict = .ok false))
    (member : inquiry ∈ asked) (settled : inquiry.verdict ≠ .ok false) (member' : other ∈ asked) :
    other = inquiry ∨ other.verdict = .ok false := by
  obtain ⟨earlier, later, rfl⟩ := List.append_of_mem member
  obtain ⟨_, after, before⟩ := List.pairwise_append.mp rejected
  rcases List.mem_append.mp member' with here | there
  · exact .inr (before other here inquiry List.mem_cons_self)
  · rcases List.mem_cons.mp there with same | there
    · exact .inl same
    · exact absurd ((List.pairwise_cons.mp after).1 other there) settled

/-- Where nothing is left out, all that is longer than an accepted candidate was rejected. -/
theorem LeavesNothingOut.rejected {host text : String} {asked : List (Inquiry I)}
    (nothing : LeavesNothingOut host asked) (through : GoesThrough host asked)
    (rejected : asked.Pairwise (fun earlier _ => earlier.verdict = .ok false))
    (part : text = host ∨ FollowsPoint host text) {inquiry : Inquiry I} (member : inquiry ∈ asked)
    (accepted : inquiry.verdict = .ok true) (longer : inquiry.candidate.length < text.length) :
    ∃ other ∈ asked, other.candidate = text ∧ other.verdict = .ok false := by
  have settled : inquiry.verdict ≠ .ok false := by
    rw [accepted]
    nofun
  have three := through.three_le inquiry member
  rcases nothing text part (Nat.le_trans three (Nat.le_of_lt longer)) with
    ⟨other, member', rfl⟩ | ⟨other, member', settled', longer'⟩
  · refine ⟨other, member', rfl, ?_⟩
    rcases eq_or_rejected rejected member settled member' with rfl | rejected
    · exact absurd longer (Nat.lt_irrefl _)
    · exact rejected
  · rcases eq_or_rejected rejected member settled member' with rfl | rejected
    · exact absurd longer (Nat.lt_asymm longer')
    · exact absurd rejected settled'

/-- A search in a host name consists of inquiries that go through it, each but the last with a
rejection at its end. It comes to the realm that the accepted candidate names, to no realm if every
candidate was rejected, and to an error if an inquiry did. If the host name neither begins with a
point nor has two points in a row, the inquiries leave nothing out, so that the accepted candidate
is the longest one there is. -/
theorem longest_accepted_first (accepts : String → Action I Bool) (host : String) {σ : Type}
    (answer : Answerer I σ) (state : σ) :
    let outcome := (find accepts (some host)).run.run answer state
    ∃ asked : List (Inquiry I),
      outcome.history = asked.flatMap Inquiry.happenings ∧
      (∀ inquiry ∈ asked, inquiry.IsOf accepts) ∧
      GoesThrough host asked ∧
      asked.Pairwise (fun earlier _ => earlier.verdict = .ok false) ∧
      (∀ realm, outcome.value = .ok (some realm) ↔
        ∃ inquiry ∈ asked, inquiry.verdict = .ok true ∧ realm.text = upper inquiry.candidate) ∧
      (outcome.value = .ok none ↔ ∀ inquiry ∈ asked, inquiry.verdict = .ok false) ∧
      (∀ error, outcome.value = .error error ↔
        ∃ inquiry ∈ asked, inquiry.verdict = .error error) ∧
      (host.toList.head? ≠ some '.' → ¬ ['.', '.'] <:+: host.toList →
        LeavesNothingOut host asked ∧
          ∀ inquiry ∈ asked, inquiry.verdict = .ok true →
            ∀ text, text = host ∨ FollowsPoint host text →
              inquiry.candidate.length < text.length →
                ∃ other ∈ asked, other.candidate = text ∧ other.verdict = .ok false) := by
  intro outcome
  have searches := path_find (Dialogue.run_path answer (find accepts (some host)).run state)
  obtain ⟨asked, inquires⟩ := searches.inquires
  have concluded : outcome.value = conclusion asked := inquires.outcome_eq
  have through := inquires.goesThrough
  have rejected := inquires.rejected
  refine ⟨asked, inquires.history_eq, inquires.isOf, through, rejected, ?_, ?_, ?_, ?_⟩
  · intro realm
    rw [concluded]
    exact conclusion_eq_some_iff rejected
  · rw [concluded]
    exact conclusion_eq_none_iff
  · intro error
    rw [concluded]
    exact conclusion_eq_error_iff rejected
  · intro start apart
    have nothing := inquires.leavesNothingOut (not_or.mpr ⟨start, apart⟩)
    refine ⟨nothing, ?_⟩
    intro inquiry member accepted text part longer
    exact nothing.rejected through rejected part member accepted longer

/-- The realm behind the first point of a host name is found, and nothing is left out before it. -/
theorem part_of_name_found :
    let answer : Answerer world Unit := fun request state => (oneService.reply request, state)
    let outcome := (find Validator.dns.accepts (some "db1.Example.com")).run.run answer ()
    ∃ asked : List (Inquiry world), outcome.history = asked.flatMap Inquiry.happenings ∧
      LeavesNothingOut "db1.Example.com" asked ∧
      ∃ inquiry ∈ asked, inquiry.verdict = .ok true ∧ upper inquiry.candidate = "EXAMPLE.COM" := by
  intro answer outcome
  have found : outcome.value.toOption = some (some (.ofText "EXAMPLE.COM")) := by decide +kernel
  obtain ⟨asked, history_eq, _, _, _, some_iff, _, _, complete⟩ :=
    longest_accepted_first Validator.dns.accepts "db1.Example.com" answer ()
  obtain ⟨inquiry, member, accepted, named⟩ := (some_iff _).mp (Dialogue.eq_ok_of_toOption found)
  have same : (Realm.ofText "EXAMPLE.COM").text = "EXAMPLE.COM" := by decide +kernel
  exact ⟨asked, history_eq, (complete (by decide +kernel) (by decide +kernel)).1, inquiry, member,
    accepted, named.symm.trans same⟩

end SignOn.Realm

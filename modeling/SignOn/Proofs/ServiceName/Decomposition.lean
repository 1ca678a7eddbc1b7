import SignOn.Proofs.ServiceName.Reading
import SignOn.Proofs.Text.Letters

/-!
# What is read as a service principal name

A text may be seen as a name in several ways, as hosts and realms may hold colons and at signs, and
ports may hold line ends. Each way is a `Decomposition`. Main statement: a text is read as a name
just if it has a decomposition, and then as the name in the one with the longest host
(`read_with_longest_host`).
-/

set_option autoImplicit false

namespace SignOn.ServiceName

open Text

/-! ## The service part -/

/-- What the service part is made of, in lower case. -/
def serviceLetters : List Char := ['m', 's', 's', 'q', 'l', 's', 'v', 'c', '/']

/-- A character stands for a letter of the service part if the two are the same but for case. -/
theorem foldsTo_iff {letter : Char} (member : letter ∈ serviceLetters) (c : Char) :
    foldsTo letter c = true ↔ upperChar c = upperChar letter := by
  have forms : serviceLetters.all (fun letter =>
      upperChar letter == [letter.toUpper] && upperChar letter.toUpper == [letter.toUpper] &&
        (letter != 's' || upperChar 'ſ' == [letter.toUpper])) = true := by
    decide +kernel
  have points : serviceLetters.all (fun letter =>
      (letter.toUpper.toNat :: origins letter.toUpper.toNat).all fun point =>
        foldsTo letter (Char.ofNat point)) = true := by
    decide +kernel
  have form := List.all_eq_true.mp forms letter member
  have all := List.all_eq_true.mp (List.all_eq_true.mp points letter member)
  simp only [Bool.and_eq_true, beq_iff_eq, Bool.or_eq_true, bne_iff_ne] at form
  obtain ⟨⟨form, capital⟩, long⟩ := form
  rw [form]
  constructor
  · intro folds
    simp only [foldsTo, Bool.or_eq_true, Bool.and_eq_true, beq_iff_eq] at folds
    rcases folds with (rfl | rfl) | ⟨isS, rfl⟩
    · exact form
    · exact capital
    · exact long.resolve_left (not_not_intro isS)
  · intro same
    have point : c.toNat ∈ letter.toUpper.toNat :: origins letter.toUpper.toNat := by
      simpa using toNat_eq_or_mem_origins same
    simpa using all c.toNat point

/-- The letters are removed where the text begins with them, in whatever case. -/
theorem strip_eq_some_iff {letters text rest : List Char} (part : letters ⊆ serviceLetters) :
    afterService.strip letters text = some rest ↔
      ∃ service, text = service ++ rest ∧ SameLetters service letters := by
  induction letters generalizing text with
  | nil => simp [afterService.strip, SameLetters]
  | cons letter letters ih =>
    obtain ⟨member, others⟩ := List.cons_subset.mp part
    cases text with
    | nil =>
      simp only [afterService.strip, reduceCtorEq, false_iff]
      rintro ⟨service, split, same⟩
      obtain ⟨rfl, -⟩ := List.append_eq_nil_iff.mp split.symm
      simp [SameLetters] at same
    | cons c text =>
      simp only [afterService.strip, Option.ite_none_right_eq_some, ih others,
        foldsTo_iff member]
      constructor
      · rintro ⟨here, service, rfl, same⟩
        refine ⟨c :: service, rfl, ?_⟩
        simpa [SameLetters, here] using same
      · rintro ⟨service, split, same⟩
        cases service with
        | nil => simp [SameLetters] at same
        | cons d service =>
          obtain ⟨rfl, text_eq⟩ := List.cons.inj split
          obtain ⟨here, same⟩ := List.cons.inj same
          exact ⟨here, service, text_eq, same⟩

/-- What follows the service part is what stands behind it and a slash. -/
theorem afterService_eq_some_iff {text rest : List Char} :
    afterService text = some rest ↔
      ∃ service, text = service ++ '/' :: rest ∧ SameLetters service databaseService.toList := by
  have slash : ∀ c, upperChar c = upperChar '/' → c = '/' := by
    intro c same
    have folds := (foldsTo_iff (by decide) c).mpr same
    simpa [foldsTo] using folds
  have letters : serviceLetters.map upperChar =
      databaseService.toList.map upperChar ++ [upperChar '/'] := by decide +kernel
  have stripped : afterService text = some rest ↔
      ∃ written, text = written ++ rest ∧ SameLetters written serviceLetters :=
    strip_eq_some_iff (List.Subset.refl serviceLetters)
  rw [stripped]
  constructor
  · rintro ⟨written, rfl, same⟩
    rw [SameLetters, letters, List.map_eq_append_iff] at same
    obtain ⟨service, last, rfl, same, last_eq⟩ := same
    obtain ⟨c, rfl, form⟩ := List.map_eq_singleton_iff.mp last_eq
    rw [slash c form]
    exact ⟨service, by simp, same⟩
  · rintro ⟨service, rfl, same⟩
    refine ⟨service ++ ['/'], by simp, ?_⟩
    rw [SameLetters, letters, List.map_append, same]
    rfl

/-! ## Decompositions -/

/-- A way to see a text as a database server's name: the service part in any case, a slash, a host
of one line, a colon, a port, and an at sign and a realm of one line if there is one. -/
@[ext]
structure Decomposition (text : String) where
  service : List Char
  host : List Char
  port : List Char
  realm : Option (List Char)
  text_eq : text.toList = service ++ '/' :: (host ++ ':' :: (port ++ realmPart realm))
  service_same : SameLetters service databaseService.toList
  host_line : '\n' ∉ host
  isPort : IsPort port
  isRealmText : ∀ name ∈ realm, IsRealmText name

namespace Decomposition

variable {text : String}

/-- The name in a text that is seen this way. -/
def name (parts : Decomposition text) : ServiceName where
  host := String.ofList parts.host
  portOrInstance := String.ofList parts.port
  realm := parts.realm.map fun name => .ofText (String.ofList name)

/-- What follows the service part and its slash. -/
def rest (parts : Decomposition text) : List Char :=
  parts.host ++ ':' :: (parts.port ++ realmPart parts.realm)

/-- What follows the service part is found whatever its case. -/
theorem afterService_eq (parts : Decomposition text) :
    afterService text.toList = some parts.rest :=
  afterService_eq_some_iff.mpr ⟨parts.service, parts.text_eq, parts.service_same⟩

/-- The parts cut what follows the service part. -/
theorem cuts (parts : Decomposition text) : Cuts parts.rest parts.host parts.port parts.realm :=
  ⟨rfl, parts.host_line, parts.isPort, parts.isRealmText⟩

/-- A text has one rest. -/
theorem rest_eq (parts other : Decomposition text) : parts.rest = other.rest := by
  have same := parts.afterService_eq
  rw [other.afterService_eq] at same
  exact (Option.some.inj same).symm

/-- Every cut of the rest belongs to a decomposition. -/
theorem exists_of_cuts {rest host port : List Char} {realm : Option (List Char)}
    (found : afterService text.toList = some rest) (cuts : Cuts rest host port realm) :
    ∃ parts : Decomposition text, (parts.host, parts.port, parts.realm) = (host, port, realm) := by
  obtain ⟨service, text_eq, same⟩ := afterService_eq_some_iff.mp found
  rw [cuts.text_eq] at text_eq
  exact ⟨⟨service, host, port, realm, text_eq, same, cuts.host, cuts.port, cuts.realm⟩, rfl⟩

/-- A decomposition is known by the length of its host. -/
theorem host_length_injective :
    Function.Injective (fun parts : Decomposition text => parts.host.length) := by
  intro parts other same
  have cuts := other.cuts
  rw [← parts.rest_eq other] at cuts
  have equal := parts.cuts.unique cuts same
  simp only [Prod.mk.injEq] at equal
  obtain ⟨host, port, realm⟩ := equal
  have service : parts.service = other.service := by
    have split := parts.text_eq
    rw [other.text_eq, host, port, realm] at split
    exact (List.append_cancel_right split).symm
  exact Decomposition.ext service host port realm

end Decomposition

/-- A text is read as a name just if it can be decomposed, and then as the name in the decomposition
with the longest host, of which there is only one. -/
theorem read_with_longest_host (text : String) :
    ((parse? text).isSome = true ↔ Nonempty (Decomposition text)) ∧
    Function.Injective (fun parts : Decomposition text => parts.host.length) ∧
    ∀ name, parse? text = some name ↔
      ∃ longest : Decomposition text, name = longest.name ∧
        ∀ other : Decomposition text, other.host.length ≤ longest.host.length := by
  -- a cut with the longest host is a decomposition with the longest host, and the other way round
  have reads : ∀ name, parse? text = some name ↔
      ∃ longest : Decomposition text, name = longest.name ∧
        ∀ other : Decomposition text, other.host.length ≤ longest.host.length := by
    intro name
    rw [parse?_eq_some_iff]
    constructor
    · rintro ⟨rest, host, port, realm, found, cutting, rfl⟩
      obtain ⟨cuts, longest⟩ := cut_eq_some_iff.mp cutting
      obtain ⟨parts, same⟩ := Decomposition.exists_of_cuts found cuts
      simp only [Prod.mk.injEq] at same
      obtain ⟨rfl, rfl, rfl⟩ := same
      refine ⟨parts, rfl, fun other => ?_⟩
      have rest_eq : other.rest = rest :=
        Option.some.inj (other.afterService_eq.symm.trans found)
      have cuts := other.cuts
      rw [rest_eq] at cuts
      exact longest _ _ _ cuts
    · rintro ⟨parts, rfl, longest⟩
      refine ⟨parts.rest, _, _, _, parts.afterService_eq, cut_eq_some_iff.mpr ⟨parts.cuts, ?_⟩, rfl⟩
      intro host port realm cuts
      obtain ⟨other, same⟩ := Decomposition.exists_of_cuts parts.afterService_eq cuts
      simp only [Prod.mk.injEq] at same
      rw [← same.1]
      exact longest other
  refine ⟨⟨?_, ?_⟩, Decomposition.host_length_injective, reads⟩
  · intro some
    obtain ⟨name, found⟩ := Option.isSome_iff_exists.mp some
    obtain ⟨parts, _⟩ := (reads name).mp found
    exact ⟨parts⟩
  · rintro ⟨parts⟩
    obtain ⟨found, cutting, _⟩ := parts.cuts.exists_cut
    simp [parse?, parts.afterService_eq, cutting]

/-- A port can stand in the host: what comes after the last colon that leaves a port is the port. -/
example : parse? "MSSQLſvc/db1:1433@NAMETYPE:dept" =
    some ⟨"db1:1433@NAMETYPE", "dept", none, databaseService⟩ := by
  decide +kernel

end SignOn.ServiceName

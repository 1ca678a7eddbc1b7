import SignOn.Proofs.Profile.Keyed
import SignOn.Proofs.Text.Caseless

/-!
# Realms that a profile configures

A profile configures a realm if it lists servers for it, in whatever case it writes the name
(`Configures`). Main statements: of a realm with a name the profile knows servers just if it
configures the realm (`configuredServers?_eq_none_iff`), and these are the values of the first key
that lists servers of the realm (`configuredServers?_eq_some_iff`).
-/

set_option autoImplicit false

namespace SignOn.Profile

open Text

/-- A profile lists servers of a realm, whose name it may write in another case. -/
def Configures (profile : Profile) (realm : String) : Prop :=
  ∃ name, upper name = upper realm ∧ profile.values "realms" (name ++ ".kdc") ≠ []

/-- The realm is read off the key that lists its servers. -/
theorem realmOfKey?_append {name : String} (given : name ≠ "") :
    realmOfKey? (name ++ ".kdc") = some name := by
  have nonempty : name.toList ≠ [] := mt String.toList_eq_nil_iff.mp given
  have chars : (name ++ ".kdc").toList = name.toList ++ ".kdc".toList := String.toList_append
  have start : (name ++ ".kdc").toList.take ((name ++ ".kdc").length - 4) = name.toList := by
    rw [← String.length_toList, chars, List.length_append]
    simp
  have ending : ".kdc".toList.isSuffixOf (name ++ ".kdc").toList = true := by
    rw [List.isSuffixOf_iff_suffix, chars]
    exact List.suffix_append _ _
  simp only [realmOfKey?, start, ending]
  simp [nonempty]

/-- A key names a realm if it is the realm's name with `.kdc` behind it, and the name is not
empty. -/
theorem realmOfKey?_eq_some_iff {key name : String} :
    realmOfKey? key = some name ↔ name ≠ "" ∧ key = name ++ ".kdc" := by
  constructor
  · intro found
    simp only [realmOfKey?] at found
    split at found
    · rename_i listed
      simp only [Bool.and_eq_true, Bool.not_eq_true', List.isSuffixOf_iff_suffix] at listed
      obtain ⟨⟨start, split⟩, full⟩ := listed
      have start_eq : key.toList.take (key.length - 4) = start := by
        rw [← String.length_toList, ← split]
        simp
      rw [start_eq] at full found
      cases found
      refine ⟨by simpa using full, ?_⟩
      rw [← String.toList_inj, String.toList_append, String.toList_ofList, split]
    · cases found
  · rintro ⟨given, rfl⟩
    exact realmOfKey?_append given

/-- A realm whose servers are listed is among the realms of the profile. -/
theorem mem_realms {profile : Profile} {name : String} (given : name ≠ "")
    (listed : profile.values "realms" (name ++ ".kdc") ≠ []) : name ∈ profile.realms := by
  rw [realms, Keyed.mem_distinct_iff, List.mem_filterMap]
  cases found : (profile.relations "realms").find? (fun entry => entry.1 == name ++ ".kdc") with
  | none => simp [values, Relations.values, found] at listed
  | some entry =>
    have key : entry.1 = name ++ ".kdc" := by simpa using List.find?_some found
    refine ⟨entry, List.mem_of_find?_eq_some found, ?_⟩
    rw [key, realmOfKey?_append given]

/-- A profile knows no servers of a realm just if it does not configure the realm. -/
theorem configuredServers?_eq_none_iff {profile : Profile} {realm : String} (given : realm ≠ "") :
    profile.configuredServers? realm = none ↔ ¬ profile.Configures realm := by
  simp only [configuredServers?, List.findSome?_eq_none_iff, List.mem_filter, beq_iff_eq]
  constructor
  · rintro unknown ⟨name, same, listed⟩
    have named : name ≠ "" := by
      rintro rfl
      rw [eq_comm, (upper_eq_empty_iff "").mpr rfl, upper_eq_empty_iff] at same
      exact given same
    have nothing := unknown name ⟨mem_realms named listed, same⟩
    cases servers : profile.values "realms" (name ++ ".kdc") with
    | nil => exact listed servers
    | cons server others => simp [servers] at nothing
  · rintro unconfigured name ⟨_, same⟩
    have unlisted : profile.values "realms" (name ++ ".kdc") = [] :=
      Decidable.byContradiction fun listed => unconfigured ⟨name, same, listed⟩
    rw [unlisted]

/-! ## The first key that lists servers -/

/-- To look in what is kept of a list is to look in the list and pass over the rest. -/
theorem findSome?_filter {β : Type} (keeps : String → Bool) (f : String → Option β)
    (list : List String) :
    (list.filter keeps).findSome? f =
      list.findSome? (fun item => if keeps item then f item else none) := by
  rw [← List.head?_filterMap, ← List.head?_filterMap, List.filterMap_filter]

/-- What a search for the first item finds, it finds without the repetitions. -/
theorem findSome?_distinct {β : Type} (f : String → Option β) (list : List String) :
    (distinct list).findSome? f = list.findSome? f := by
  induction list with
  | nil => rfl
  | cons item rest ih =>
    rw [distinct, List.findSome?_cons, List.findSome?_cons, ← ih, findSome?_filter]
    cases found : f item with
    | some value => rfl
    | none =>
      have others : (fun other => if other != item then f other else none) = f := by
        funext other
        by_cases same : other = item
        · simp [same, found]
        · simp [same]
      rw [others]

/-- A key of the section `realms` lists servers of a realm: it is the realm's name, in whatever
case, with `.kdc` behind it, and it has values. -/
def ListsServers (profile : Profile) (realm key : String) : Prop :=
  ∃ name, name ≠ "" ∧ key = name ++ ".kdc" ∧ upper name = upper realm ∧
    profile.values "realms" key ≠ []

/-- These are the values of the first key that lists servers of a realm. -/
def ListsFirst (profile : Profile) (realm : String) (servers : List String) : Prop :=
  ∃ earlier key later, Keyed.keys (profile.relations "realms") = earlier ++ key :: later ∧
    profile.ListsServers realm key ∧ (∀ other ∈ earlier, ¬ profile.ListsServers realm other) ∧
    servers = profile.values "realms" key

/-- The servers of a realm that a key lists. -/
def listed? (profile : Profile) (realm key : String) : Option (List String) :=
  (realmOfKey? key).bind fun name =>
    if upper name == upper realm then
      match profile.values "realms" (name ++ ".kdc") with
      | [] => none
      | servers => some servers
    else none

/-- A key lists servers of a realm just as `ListsServers` says, and they are its values. -/
theorem listed?_eq_some_iff {profile : Profile} {realm key : String} {servers : List String} :
    profile.listed? realm key = some servers ↔
      profile.ListsServers realm key ∧ servers = profile.values "realms" key := by
  constructor
  · intro found
    obtain ⟨name, named, listed⟩ := Option.bind_eq_some_iff.mp found
    obtain ⟨given, rfl⟩ := realmOfKey?_eq_some_iff.mp named
    split at listed
    · rename_i same
      split at listed
      · cases listed
      · rename_i full
        cases listed
        exact ⟨⟨name, given, rfl, eq_of_beq same, full⟩, rfl⟩
    · cases listed
  · rintro ⟨⟨name, given, rfl, same, full⟩, rfl⟩
    simp only [listed?, realmOfKey?_append given, Option.bind_some, same, beq_self_eq_true, if_true]

/-- The configured servers are those of the first key that lists any. -/
theorem configuredServers?_eq_findSome? (profile : Profile) (realm : String) :
    profile.configuredServers? realm =
      (Keyed.keys (profile.relations "realms")).findSome? (profile.listed? realm) := by
  rw [configuredServers?, findSome?_filter, realms, findSome?_distinct, ← List.head?_filterMap,
    List.filterMap_filterMap, List.head?_filterMap, Keyed.keys, List.findSome?_map]
  rfl

/-- The servers that a profile knows of a realm are those that the first key lists that lists
any. -/
theorem configuredServers?_eq_some_iff {profile : Profile} {realm : String}
    {servers : List String} :
    profile.configuredServers? realm = some servers ↔ profile.ListsFirst realm servers := by
  have unlisted : ∀ key,
      profile.listed? realm key = none ↔ ¬ profile.ListsServers realm key := by
    intro key
    rw [Option.eq_none_iff_forall_ne_some]
    constructor
    · intro nothing lists
      exact nothing _ (listed?_eq_some_iff.mpr ⟨lists, rfl⟩)
    · intro lists servers found
      exact lists (listed?_eq_some_iff.mp found).1
  simp only [configuredServers?_eq_findSome?, List.findSome?_eq_some_iff, listed?_eq_some_iff,
    unlisted, ListsFirst]
  grind

/-- A profile forbids looking for servers: it says whether to, and the first that it says is none of
the words for true. -/
def ForbidsLookup (profile : Profile) : Prop :=
  ∃ word others, profile.values "libdefaults" "dns_lookup_kdc" = word :: others ∧
    lower (trimText word) ∉ ["true", "yes", "on", "1"]

/-- A profile forbids looking for servers if the flag is not true, which it is by default. -/
theorem forbidsLookup_iff {profile : Profile} :
    profile.ForbidsLookup ↔ profile.flag "libdefaults" "dns_lookup_kdc" true = false := by
  unfold ForbidsLookup flag
  cases profile.values "libdefaults" "dns_lookup_kdc" with
  | nil => simp
  | cons word others =>
    simp only [trueWords, List.cons.injEq, List.contains_eq_mem, decide_eq_false_iff_not]
    grind

end SignOn.Profile

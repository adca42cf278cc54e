import ReleaseWatch.Proofs.Outcome
import ReleaseWatch.Proofs.Text.LeadingNumeral

/-!
# Infos from captures

The groups of a match are those of its pattern. If no group took a numeral that is too long, they
make an info, and a key of that info can be checked as soon as the pattern has its group; for the
range of episodes this is the group of the first episode.
-/

namespace ReleaseWatch

theorem InfoKey.mem_captured {key : InfoKey} (captured : key ≠ .eps) :
    key ∈ InfoKey.captured := by
  cases key with
  | eps => exact absurd rfl captured
  | _ => decide

/-- The keys under which an info holds one number. -/
def InfoKey.numbers : List InfoKey :=
  [.ep, .endep, .ver, .res, .bit]

namespace TitlePattern

/-- The names of the groups of a title pattern. -/
def groupNames (title : TitlePattern) : List String :=
  title.pattern.names.map (·.1)

theorem names_eq_of_search? {title : TitlePattern} {text : String} {found : Match}
    (searched : title.search? text = some found) :
    found.captures.map (·.1) = title.groupNames := by
  rcases List.exists_of_findSome?_eq_some searched with ⟨first, _, matched⟩
  rcases Option.map_eq_some_iff.mp matched with ⟨cursor, _, rfl⟩
  simp [groupNames, Function.comp_def]

end TitlePattern

namespace Captures

variable {captures : Captures}

theorem hasGroup_iff {name : String} : captures.hasGroup name ↔ name ∈ captures.map (·.1) := by
  induction captures with
  | nil => simp [hasGroup]
  | cons first rest ih =>
      obtain ⟨firstName, taken⟩ := first
      by_cases same : name = firstName
      · simp [hasGroup, same]
      · simp only [hasGroup] at ih
        simp [hasGroup, List.lookup_cons, beq_false_of_ne same, same, ih]

theorem mem_of_text? {name text : String} (taken : captures.text? name = some text) :
    (name, some text) ∈ captures := by
  rw [text?, Option.join_eq_some_iff, List.lookup_eq_some_iff] at taken
  rcases taken with ⟨before, after, rfl, _⟩
  simp

/-- No group took a text that begins with a numeral of too many digits. -/
def HaveShortNumerals (captures : Captures) : Prop :=
  ∀ name text, (name, some text) ∈ captures → HasShortNumeral text

theorem exists_number {taken : Option String}
    (short : ∀ text, taken = some text → HasShortNumeral text) :
    ∃ value, number taken = .ok value := by
  cases taken with
  | none => exact ⟨-1, rfl⟩
  | some text => exact exists_leadingInteger (short text rfl)

/-- The groups of numbers alone decide whether a match makes an info. -/
theorem exists_info_of_numbers
    (short : ∀ key ∈ InfoKey.numbers, ∀ text, captures.text? key.label = some text →
    HasShortNumeral text) : ∃ info, Captures.info captures = .ok info := by
  have readable : ∀ key ∈ InfoKey.numbers, ∃ value,
      number (captures.text? key.label) = .ok value :=
    fun key key_mem => exists_number (short key key_mem)
  have lastReadable : ∃ value, number captures.lastEpisode? = .ok value := by
    unfold lastEpisode?
    split
    · exact readable .ep (by decide)
    · exact readable .ep (by decide)
    · next text notEmpty taken =>
        exact exists_number fun other same => short .endep (by decide) other (taken.trans same)
  rcases readable .ep (by decide) with ⟨ep, readEp⟩
  rcases lastReadable with ⟨endep, readEndep⟩
  rcases readable .ver (by decide) with ⟨ver, readVer⟩
  rcases readable .res (by decide) with ⟨res, readRes⟩
  rcases readable .bit (by decide) with ⟨bit, readBit⟩
  simp only [InfoKey.label] at readEp readVer readRes readBit
  simp [info, readEp, readEndep, readVer, readRes, readBit, bind, Except.bind, pure, Except.pure]

theorem exists_info (short : captures.HaveShortNumerals) :
    ∃ info, Captures.info captures = .ok info :=
  exists_info_of_numbers fun key _ text taken => short key.label text (mem_of_text? taken)

/-- An info holds what was read for each of its keys. -/
theorem reads_of_info {info : Info} (made : Captures.info captures = .ok info) :
    number (captures.text? "ep") = .ok info.ep ∧ number captures.lastEpisode? = .ok info.endep ∧
    number (captures.text? "ver") = .ok info.ver ∧
    number (captures.text? "res") = .ok info.res ∧
    number (captures.text? "bit") = .ok info.bit ∧
    info.captured = (InfoKey.captured.map InfoKey.label).filter captures.hasGroup := by
  simp only [Captures.info, bind, Outcome.bind_eq_ok_iff] at made
  rcases made with
    ⟨ep, readEp, endep, readEndep, ver, readVer, res, readRes, bit, readBit, same⟩
  cases same
  exact ⟨readEp, readEndep, readVer, readRes, readBit, rfl⟩

theorem captured_of_info {info : Info} (made : Captures.info captures = .ok info) :
    info.captured = (InfoKey.captured.map InfoKey.label).filter captures.hasGroup :=
  (reads_of_info made).2.2.2.2.2

/-- A key whose group the pattern has can be checked; numbers can be checked always. -/
theorem isChecked_of_info {info : Info} (made : Captures.info captures = .ok info) {key : InfoKey}
    (bound : key.isNumeric ∨ captures.hasGroup key.label) : info.isChecked key := by
  rw [Info.isChecked, captured_of_info made, Bool.or_eq_true]
  rcases bound with numeric | grouped
  · exact Or.inl numeric
  · by_cases derived : key = .eps
    · subst derived
      exact Or.inl rfl
    · right
      rw [List.contains_iff_mem, List.mem_filter]
      exact ⟨List.mem_map_of_mem (InfoKey.mem_captured derived), grouped⟩

end Captures

end ReleaseWatch

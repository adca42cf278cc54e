import ReleaseWatch.Proofs.Files.Tree
import ReleaseWatch.Saving.Report

/-!
# Names of downloads

Whatever stands in a title, the name that is made of it has no slash and its own ending, so that
it stands for a file directly in a folder.
-/

namespace ReleaseWatch

theorem mem_of_mem_trim {char : Char} {text : List Char} (char_mem : char ∈ trim text) :
    char ∈ text := by
  unfold trim trimEnd at char_mem
  have inFront := (List.dropWhile_suffix _).subset (List.mem_reverse.mp char_mem)
  exact (List.dropWhile_suffix _).subset (List.mem_reverse.mp inFront)

theorem slash_not_mem_toList_idText (number : Option Int) :
    '/' ∉ (Entry.idText number).toList := by
  have notInDigits : ∀ digits : Nat, '/' ∉ digits.repr.toList := by
    intro digits slash_mem
    rw [Nat.repr_eq_ofList_toDigits, String.toList_ofList] at slash_mem
    have isDigit := Nat.isDigit_of_mem_toDigits (by decide) (by decide) slash_mem
    cases isDigit
  cases number with
  | none => decide
  | some number =>
      change '/' ∉ number.repr.toList
      rw [Int.repr_eq_if]
      split
      · exact notInDigits number.toNat
      · rw [String.toList_append, List.mem_append, not_or]
        exact ⟨by decide, notInDigits (-number).toNat⟩

/-- A name without slashes and with the ending of a download. -/
structure IsDownloadName (name : String) : Prop where
  noSlash : '/' ∉ name.toList
  ending : ∃ stem, name = stem ++ ".torrent"

theorem Entry.isDownloadName_of_downloadName {entry : Entry} {name : String}
    (named : entry.downloadName = .ok name) :
    IsDownloadName name := by
  unfold downloadName at named
  cases title_eq : entry.title with
  | none =>
      rw [title_eq] at named
      cases named
  | some title =>
      rw [title_eq] at named
      cases named
      refine ⟨?_, _, rfl⟩
      rw [String.toList_append, List.mem_append, not_or]
      refine ⟨?_, by decide⟩
      split
      · exact slash_not_mem_toList_idText entry.id
      · rw [String.toList_ofList]
        intro slash_mem
        rcases List.mem_map.mp (mem_of_mem_trim slash_mem) with ⟨char, _, replaced⟩
        split at replaced
        · cases replaced
        · next other => exact other replaced

theorem Path.isRelative_append_eq_false (stem : String) {ending : String}
    (isLong : 2 < ending.length) :
    isRelative (stem ++ ending) = false := by
  have differs : ∀ other : String, other.length ≤ 2 → (stem ++ ending == other) = false := by
    intro other isShort
    rw [beq_eq_false_iff_ne]
    rintro rfl
    rw [String.length_append] at isShort
    omega
  unfold isRelative
  rw [differs "" (by decide), differs "." (by decide), differs ".." (by decide)]
  rfl

namespace IsDownloadName

variable {name : String}

theorem isFileName (isName : IsDownloadName name) : Path.IsFileName name := by
  refine ⟨isName.noSlash, ?_⟩
  rcases isName.ending with ⟨stem, rfl⟩
  exact Path.isRelative_append_eq_false stem (by decide)

theorem isFileName_part (isName : IsDownloadName name) : Path.IsFileName (name ++ ".part") := by
  refine ⟨?_, Path.isRelative_append_eq_false name (by decide)⟩
  rw [String.toList_append, List.mem_append, not_or]
  exact ⟨isName.noSlash, by decide⟩

/-- No download has the name under which one is kept before it is complete. -/
theorem ne_part (isName : IsDownloadName name) (other : String) : name ≠ other ++ ".part" := by
  rcases isName.ending with ⟨stem, rfl⟩
  intro same
  have reversed := congrArg (fun text : String => text.toList.reverse) same
  simp at reversed

end IsDownloadName

end ReleaseWatch

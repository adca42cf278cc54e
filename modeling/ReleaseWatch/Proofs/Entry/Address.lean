import Mathlib.Data.List.Infix
import ReleaseWatch.Entry.Extraction
import ReleaseWatch.Proofs.Outcome
import ReleaseWatch.Proofs.Text.Replacement

/-!
# Where the addresses of an entry come from

The addresses of an entry are read off the description of its item, between quotes, or are
the link of the item. Any character may stand between quotes, line breaks among them, so
that an address has what is there. An item without line breaks in these two texts has
addresses without any.
-/

namespace ReleaseWatch

theorem exists_suffix_of_firstMatch? {Found : Type} {reader : List Char → Option Found}
    {text : List Char} {found : Found} (isFound : firstMatch? reader text = some found) :
    ∃ rest, rest <:+ text ∧ reader rest = some found := by
  induction text with
  | nil => exact ⟨[], List.suffix_rfl, isFound⟩
  | cons char rest ih =>
      rw [firstMatch?] at isFound
      split at isFound
      · next here =>
          cases isFound
          exact ⟨char :: rest, List.suffix_rfl, here⟩
      · rcases ih isFound with ⟨later, isSuffix, read⟩
        exact ⟨later, isSuffix.trans (List.suffix_cons char rest), read⟩

theorem break_not_mem_downloadUrl {url : String} (noBreak : '\n' ∉ url.toList) :
    '\n' ∉ (downloadUrl url).toList := by
  rw [downloadUrl, String.toList_ofList]
  intro isBreak
  rcases mem_of_mem_replaceAll isBreak with isPut | isThere
  · exact absurd isPut (by decide)
  · exact noBreak isThere

namespace Description

theorem isPrefix_of_readQuoted? {text content rest : List Char}
    (read : readQuoted? text = some (content, rest)) :
    content <+: text := by
  unfold readQuoted? splitRun at read
  split at read
  · cases read
  · next quoted =>
      cases read
      have content_eq : text.takeWhile (· != '\x22') = content := congrArg Prod.fst quoted
      rw [← content_eq]
      exact List.takeWhile_prefix _
  · cases read

theorem subset_of_readTorrent? {text : List Char} {url : String}
    (read : readTorrent? text = some url) :
    url.toList ⊆ text := by
  unfold readTorrent? at read
  rcases Option.bind_eq_some_iff.mp read with ⟨behind, labelled, quoted⟩
  rcases Option.bind_eq_some_iff.mp quoted with ⟨⟨content, rest⟩, isQuoted, closed⟩
  dsimp only at closed
  split at closed
  · cases closed
    rw [String.toList_ofList]
    rw [← List.isPrefixOf?_eq_some_iff_append_eq.mp labelled]
    exact List.subset_append_of_subset_right _ (isPrefix_of_readQuoted? isQuoted).subset
  · cases closed

theorem subset_of_readMagnet? {text : List Char} {uri : String}
    (read : readMagnet? text = some uri) :
    uri.toList ⊆ text := by
  unfold readMagnet? at read
  rcases Option.bind_eq_some_iff.mp read with ⟨behind, labelled, quoted⟩
  rcases Option.bind_eq_some_iff.mp quoted with ⟨⟨content, rest⟩, isQuoted, closed⟩
  cases closed
  rw [String.toList_ofList, ← List.isPrefixOf?_eq_some_iff_append_eq.mp labelled]
  exact List.append_subset.mpr ⟨List.subset_append_of_subset_left _ (by decide),
    List.subset_append_of_subset_right _ (isPrefix_of_readQuoted? isQuoted).subset⟩

theorem subset_of_torrent? {description url : String} (found : torrent? description = some url) :
    url.toList ⊆ description.toList := by
  rcases exists_suffix_of_firstMatch? found with ⟨rest, isSuffix, read⟩
  exact List.Subset.trans (subset_of_readTorrent? read) isSuffix.subset

theorem subset_of_magnet? {description uri : String} (found : magnet? description = some uri) :
    uri.toList ⊆ description.toList := by
  rcases exists_suffix_of_firstMatch? found with ⟨rest, isSuffix, read⟩
  exact List.Subset.trans (subset_of_readMagnet? read) isSuffix.subset

end Description

namespace Item

/-- The texts of an item that its addresses are taken from have no line breaks. -/
def HasNoBreaks (item : Item) : Prop :=
  '\n' ∉ (item.description.getD "").toList ∧ '\n' ∉ (item.link.getD "").toList

variable {item : Item} {entry : Entry}

theorem HasNoBreaks.torrentUrl (noBreaks : item.HasNoBreaks)
    (extracted : item.extract = .ok entry) :
    '\n' ∉ entry.torrentUrl.toList := by
  unfold extract at extracted
  rcases Outcome.map_eq_ok_iff.mp extracted with ⟨number, _, rfl⟩
  apply break_not_mem_downloadUrl
  unfold orElseText
  split
  · exact noBreaks.2
  · next url found =>
      split
      · exact noBreaks.2
      · exact fun isBreak => noBreaks.1 (Description.subset_of_torrent? found isBreak)

theorem HasNoBreaks.magnetUri (noBreaks : item.HasNoBreaks) (extracted : item.extract = .ok entry)
    {uri : String} (isMagnet : entry.magnetUri = some uri) : '\n' ∉ uri.toList := by
  unfold extract at extracted
  rcases Outcome.map_eq_ok_iff.mp extracted with ⟨number, _, rfl⟩
  exact fun isBreak => noBreaks.1 (Description.subset_of_magnet? isMagnet isBreak)

end Item

end ReleaseWatch

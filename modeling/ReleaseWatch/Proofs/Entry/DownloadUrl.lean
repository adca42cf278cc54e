import ReleaseWatch.Proofs.Entry.Guid
import ReleaseWatch.Proofs.Outcome
import ReleaseWatch.Proofs.Text.Replacement

/-!
# Addresses of downloads

Every mark of an info page in an address is turned into that of a download, and the rest of the
address is kept. No mark is left: that of a download is another one, and both begin with a letter
that the mark of an info page has nowhere behind its start. So it does not matter how often an
address is turned, and both addresses of an entry are those of downloads, wherever they come from.
-/

namespace ReleaseWatch

/-- What stands in the address of an info page. -/
def infoPageMark : List Char :=
  "page=torrentinfo".toList

/-- What stands in its place in the address of a download. -/
def downloadMark : List Char :=
  "page=download".toList

def MarksInfoPage (url : String) : Prop :=
  infoPageMark <:+: url.toList

theorem infoPageMark_ne_nil : infoPageMark ≠ [] := by decide

theorem toList_downloadUrl (url : String) :
    (downloadUrl url).toList = replaceAll infoPageMark downloadMark url.toList := by
  rw [downloadUrl, String.toList_ofList]
  rfl

theorem not_marksInfoPage_downloadUrl (url : String) : ¬MarksInfoPage (downloadUrl url) := by
  have clash : clashes infoPageMark ('p' :: "age=download".toList) := by decide
  have border : 'p' ∉ infoPageMark.tail := by decide
  rw [MarksInfoPage, toList_downloadUrl, ← avoids_iff_absent infoPageMark_ne_nil]
  exact avoids_replaceAll clash border url.toList

theorem downloadUrl_eq_self {url : String} (unmarked : ¬MarksInfoPage url) :
    downloadUrl url = url := by
  rw [String.ext_iff, toList_downloadUrl, replaceAll_eq_self infoPageMark_ne_nil unmarked]

/--
The first mark in an address is turned, what stands before
it is kept, and what stands behind it is turned by itself.
-/
theorem downloadUrl_of_mark (before after : List Char) (isFirst : ¬infoPageMark <:+: before) :
    downloadUrl (String.ofList (before ++ (infoPageMark ++ after))) =
      String.ofList (before ++ downloadMark) ++ downloadUrl (String.ofList after) := by
  have avoids : Avoids infoPageMark before (infoPageMark ++ after) := by
    apply avoids_of_not_infix isFirst
    rintro next ⟨rfl⟩
    decide
  rw [String.ext_iff, toList_downloadUrl, String.toList_append, toList_downloadUrl]
  simp only [String.toList_ofList, replaceAll_append avoids,
    replaceAll_label_append infoPageMark_ne_nil, List.append_assoc]

theorem Item.not_marksInfoPage_of_extract {item : Item} {entry : Entry}
    (extracted : item.extract = .ok entry) :
    ¬MarksInfoPage entry.link ∧ ¬MarksInfoPage entry.torrentUrl := by
  rcases Outcome.map_eq_ok_iff.mp extracted with ⟨number, _, rfl⟩
  exact ⟨not_marksInfoPage_downloadUrl _, not_marksInfoPage_downloadUrl _⟩

/--
Turning an address leaves no mark of an info page, so it changes nothing a second time, and
nothing at all without such a mark; otherwise it turns the marks one by one. No address of an
entry has one, whether its number is asked for or not.
-/
theorem download_addresses_are_unmarked :
    (∀ url, ¬MarksInfoPage (downloadUrl url) ∧
      downloadUrl (downloadUrl url) = downloadUrl url) ∧
    (∀ url, ¬MarksInfoPage url → downloadUrl url = url) ∧
    (∀ before after, ¬infoPageMark <:+: before →
      downloadUrl (String.ofList (before ++ (infoPageMark ++ after))) =
        String.ofList (before ++ downloadMark) ++ downloadUrl (String.ofList after)) ∧
    (∀ (item : Item) (entry : Entry), item.extract = .ok entry →
      ¬MarksInfoPage entry.link ∧ ¬MarksInfoPage entry.torrentUrl) ∧
    ∀ (item : Item) (numbered : NumberedEntry), item.extractNumbered = .ok numbered →
      ¬MarksInfoPage numbered.entry.link ∧ ¬MarksInfoPage numbered.entry.torrentUrl := by
  refine ⟨?turned, fun url => downloadUrl_eq_self, downloadUrl_of_mark,
    fun item entry => Item.not_marksInfoPage_of_extract, ?numbered⟩
  case turned =>
    intro url
    have unmarked := not_marksInfoPage_downloadUrl url
    exact ⟨unmarked, downloadUrl_eq_self unmarked⟩
  case numbered =>
    intro item numbered extracted
    exact Item.not_marksInfoPage_of_extract (Item.extract_of_extractNumbered extracted)

namespace MarksInARow

/--
An item with two marks after each other in its link, a start
of a mark before them, and no torrent in its description.
-/
def item : Item where
  link := some "/?page=torrentpage=torrentinfopage=torrentinfo&tid=7"
  guid := some "id=7"

def entry : Entry :=
  item.toEntry (some 7)

theorem download_addresses_are_unmarked_of_row :
    item.extract = .ok entry ∧
    entry.link = "/?page=torrentpage=downloadpage=download&tid=7" ∧
    entry.torrentUrl = entry.link ∧
    ¬MarksInfoPage entry.link ∧ ¬MarksInfoPage entry.torrentUrl ∧
    downloadUrl entry.link = entry.link := by
  rcases download_addresses_are_unmarked with ⟨_, unchanged, _, extraction, _⟩
  have extracted : item.extract = .ok entry := Item.extract_of_guidNumber (by cbv)
  rcases extraction item entry extracted with ⟨link, torrentUrl⟩
  exact ⟨extracted, by decide +kernel, by decide +kernel, link, torrentUrl,
    unchanged entry.link link⟩

end MarksInARow

end ReleaseWatch

import ReleaseWatch.Entry.Extraction
import ReleaseWatch.Proofs.Entry.Amount
import ReleaseWatch.Proofs.Entry.Guid
import ReleaseWatch.Proofs.Text.Label

/-!
# The layout of descriptions

Trackers lay a description out in lines: a link to the torrent, perhaps one to a magnet address,
the size, the mark of authorization, and perhaps a comment. Every fact is looked for in the whole
text, so that it could be found in another one's place, or across the border of two. It is not as
long as no fact holds a label: a search passes over all that stands before its own label, and so
extraction reads off what was laid out.
-/

namespace ReleaseWatch

namespace Description

/-- The labels that facts are looked for by. -/
def labels : List String :=
  ["Torrent: ", "Size: ", "Authorized: ", "Comment: ", "href="]

/-- A text without any label. -/
structure Fact where
  text : String
  unlabelled : ∀ label ∈ labels, ¬label.toList <:+: text.toList

/-- A fact that can stand between quotes. -/
structure Address extends Fact where
  nonempty : text ≠ ""
  unquoted : '\x22' ∉ text.toList

/-- A fact that takes up one line at most. -/
structure Line extends Fact where
  unbroken : '\n' ∉ text.toList

/-- What a tracker says about one release. -/
structure Layout where
  url : Address
  caption : Fact
  magnet : Option Address
  amount : Amount
  authorized : Bool
  comment : Option Line
  url_noMagnet : ¬"magnet:".toList <+: url.text.toList

/-- A link and its caption, behind an opening that reaches into the address. -/
def link (opening : String) (address : Address) (caption : Fact) : List Char :=
  opening.toList ++
    (address.text.toList ++ ("\x22>".toList ++ (caption.text.toList ++ "</a><br />".toList)))

def magnetCaption : Fact where
  text := "Magnet Link"
  unlabelled := by decide

namespace Layout

variable (layout : Layout)

def torrentPart : List Char :=
  link "Torrent: <a href=\x22" layout.url layout.caption

def magnetPart : List Char :=
  match layout.magnet with
  | none => []
  | some address => link "Magnet: <a href=\x22magnet:" address magnetCaption

def sizePart : List Char :=
  "Size: ".toList ++ (layout.amount.text ++ "<br />".toList)

def authorizedPart : List Char :=
  (if layout.authorized then "Authorized: Yes<br />\n" else "Authorized: No<br />\n").toList

def commentPart : List Char :=
  match layout.comment with
  | none => []
  | some line => "Comment: ".toList ++ line.text.toList

/-- The description that lays the facts out. -/
def text : String :=
  String.ofList
    (layout.torrentPart ++
      (layout.magnetPart ++ (layout.sizePart ++ (layout.authorizedPart ++ layout.commentPart))))

end Layout

/-! ## What each search passes over -/

theorem border_of_mem_labels :
    ∀ label ∈ labels, '\x22' ∉ label.toList.tail ∧ '<' ∉ label.toList.tail := by
  decide

section Avoid

variable {label : String} {rest : List Char}

theorem Fact.avoids (fact : Fact) (isLabel : label ∈ labels)
    (border : ∀ next ∈ rest.head?, next ∉ label.toList.tail) :
    Avoids label.toList fact.text.toList rest :=
  avoids_of_not_infix (fact.unlabelled label isLabel) border

/--
No label straddles the end of an address or of a caption:
a quote or a bracket follows, and labels have neither.
-/
theorem avoids_behindOpening (isLabel : label ∈ labels) (address : Address) (caption : Fact)
    (rest : List Char) :
    Avoids label.toList
      (address.text.toList ++ ("\x22>".toList ++ (caption.text.toList ++ "</a><br />".toList)))
        rest := by
  have borders := border_of_mem_labels label isLabel
  have clash : ∀ label ∈ labels, clashes label.toList "\x22>".toList ∧
      clashes label.toList "</a><br />".toList := by
    decide
  have clash := clash label isLabel
  refine avoids_append.mpr
    ⟨?_, avoids_append.mpr ⟨avoids_of_clashes clash.1 _, avoids_append.mpr ⟨?_, ?_⟩⟩⟩
  · apply address.avoids isLabel
    rintro next ⟨rfl⟩
    exact borders.1
  · apply caption.avoids isLabel
    rintro next ⟨rfl⟩
    exact borders.2
  · exact avoids_of_clashes clash.2 rest

theorem avoids_link (isLabel : label ∈ labels) {opening : String}
    (clash : clashes label.toList opening.toList)
    (address : Address) (caption : Fact) (rest : List Char) :
    Avoids label.toList (link opening address caption) rest :=
  avoids_append.mpr ⟨avoids_of_clashes clash _,
    avoids_behindOpening isLabel address caption rest⟩

theorem Amount.avoids (amount : Amount)
    (apart : label.toList.head?.any fun first => !Amount.isAmountChar first)
    (rest : List Char) : Avoids label.toList amount.text rest :=
  avoids_of_head? (fun _ => amount.isAmountChar_of_mem_text) apart rest

end Avoid

namespace Layout

variable (layout : Layout) (rest : List Char)

theorem avoids_torrentPart : ∀ label ∈ ["Size: ", "Authorized: ", "Comment: "],
    Avoids label.toList layout.torrentPart rest := by
  intro label label_mem
  have facts : ∀ label ∈ ["Size: ", "Authorized: ", "Comment: "],
      label ∈ labels ∧ clashes label.toList "Torrent: <a href=\x22".toList := by decide
  rcases facts label label_mem with ⟨isLabel, clash⟩
  exact avoids_link isLabel clash layout.url layout.caption rest

theorem avoids_magnetPart : ∀ label ∈ ["Size: ", "Authorized: ", "Comment: "],
    Avoids label.toList layout.magnetPart rest := by
  intro label label_mem
  have facts : ∀ label ∈ ["Size: ", "Authorized: ", "Comment: "],
      label ∈ labels ∧ clashes label.toList "Magnet: <a href=\x22magnet:".toList := by decide
  rcases facts label label_mem with ⟨isLabel, clash⟩
  unfold magnetPart
  split
  · trivial
  · next address _ => exact avoids_link isLabel clash address magnetCaption rest

theorem avoids_sizePart : ∀ label ∈ ["Authorized: ", "Comment: ", "href="],
    Avoids label.toList layout.sizePart rest := by
  intro label label_mem
  have facts : ∀ label ∈ ["Authorized: ", "Comment: ", "href="],
      clashes label.toList "Size: ".toList ∧
      (label.toList.head?.any fun first => !Amount.isAmountChar first) ∧
        clashes label.toList "<br />".toList := by decide
  rcases facts label label_mem with ⟨ahead, apart, behind⟩
  have behindLabel : Avoids label.toList (layout.amount.text ++ "<br />".toList) rest :=
    avoids_append.mpr ⟨layout.amount.avoids apart _, avoids_of_clashes behind rest⟩
  exact avoids_append.mpr ⟨avoids_of_clashes ahead _, behindLabel⟩

theorem avoids_authorizedPart : ∀ label ∈ ["Comment: ", "href="],
    Avoids label.toList layout.authorizedPart rest := by
  intro label label_mem
  have facts : ∀ label ∈ ["Comment: ", "href="], ∀ authorized : Bool,
      clashes label.toList
        (if authorized then "Authorized: Yes<br />\n"
          else "Authorized: No<br />\n").toList := by decide
  exact avoids_of_clashes (facts label label_mem layout.authorized) rest

theorem avoids_commentPart : ∀ label ∈ ["Authorized: ", "href="],
    Avoids label.toList layout.commentPart [] := by
  intro label label_mem
  have facts : ∀ label ∈ ["Authorized: ", "href="],
      label ∈ labels ∧ clashes label.toList "Comment: ".toList := by decide
  rcases facts label label_mem with ⟨isLabel, clash⟩
  unfold commentPart
  split
  · trivial
  · next line _ =>
      exact avoids_append.mpr ⟨avoids_of_clashes clash _, line.avoids isLabel (by simp)⟩

end Layout

/-! ## What each reader needs and reads -/

theorem needs_readMagnet? : Needs readMagnet? "href=\x22magnet:".toList :=
  needs_of_isPrefixOf? fun text unread => by rw [readMagnet?, unread]; rfl

theorem needs_readSize? : Needs readSize? "Size: ".toList :=
  needs_of_isPrefixOf? fun text unread => by rw [readSize?, unread]; rfl

theorem needs_readAuthorized? : Needs readAuthorized? "Authorized: Yes".toList :=
  needs_of_isPrefixOf? fun text unread => by rw [readAuthorized?, unread]; rfl

theorem needs_readComment? : Needs readComment? "Comment: ".toList :=
  needs_of_isPrefixOf? fun text unread => by rw [readComment?, unread]; rfl

theorem Address.exists_eq_cons (address : Address) :
    ∃ first others, address.text.toList = first :: others :=
  List.exists_cons_of_ne_nil fun empty => address.nonempty (String.toList_eq_nil_iff.mp empty)

theorem readQuoted?_address (address : Address) (rest : List Char) :
    readQuoted? (address.text.toList ++ '\x22' :: rest) = some (address.text.toList, rest) := by
  have ends : ∀ next ∈ ('\x22' :: rest).head?, (next != '\x22') = false := by
    rintro next ⟨rfl⟩
    rfl
  rcases address.exists_eq_cons with ⟨first, others, address_eq⟩
  have run := splitRun_append (bne_of_not_mem address.unquoted) ends
  rw [address_eq] at run ⊢
  simp only [readQuoted?, run]

namespace Layout

variable (layout : Layout) (rest : List Char)

theorem readTorrent?_torrentPart :
    readTorrent? (layout.torrentPart ++ rest) = some layout.url.text := by
  let behind := layout.caption.text.toList ++ "</a><br />".toList ++ rest
  have part_eq : layout.torrentPart ++ rest =
      "Torrent: <a href=\x22".toList ++ (layout.url.text.toList ++ '\x22' :: '>' :: behind) := by
    simp only [torrentPart, link, behind, List.append_assoc]
    rfl
  rw [readTorrent?, part_eq, isPrefixOf?_append]
  simp [readQuoted?_address]

theorem readMagnet?_address (address : Address) :
    readMagnet? ("href=\x22magnet:".toList ++ (address.text.toList ++ '\x22' :: rest)) =
      some ("magnet:" ++ address.text) := by
  rw [readMagnet?, isPrefixOf?_append]
  simp only [Option.bind_eq_bind, Option.bind_some, readQuoted?_address, String.ofList_append,
    String.ofList_toList]
  rfl

theorem readSize?_sizePart :
    readSize? (layout.sizePart ++ rest) = some (String.ofList layout.amount.text) := by
  have part_eq : layout.sizePart ++ rest =
      "Size: ".toList ++ (layout.amount.text ++ "<br />".toList) ++ rest := rfl
  rw [readSize?, part_eq, List.append_assoc, List.append_assoc, isPrefixOf?_append]
  simp [Amount.readAmount?_text]

theorem readAuthorized?_yes :
    readAuthorized? ("Authorized: Yes<br />\n".toList ++ rest) = some () := by
  have yes_eq : "Authorized: Yes<br />\n".toList =
      "Authorized: Yes".toList ++ "<br />\n".toList := by decide
  rw [readAuthorized?, yes_eq, List.append_assoc, isPrefixOf?_append]
  rfl

theorem readComment?_line (line : Line) :
    readComment? ("Comment: ".toList ++ line.text.toList) = some line.text := by
  rw [readComment?, isPrefixOf?_append]
  simp [List.takeWhile_eq_self_iff.mpr (bne_of_not_mem line.unbroken)]

/-! ### The whole description -/

theorem torrent?_text : torrent? layout.text = some layout.url.text := by
  rw [torrent?, text, String.toList_ofList]
  exact firstMatch?_of_read (layout.readTorrent?_torrentPart _)

theorem size?_text : size? layout.text = some (String.ofList layout.amount.text) := by
  rw [size?, text, String.toList_ofList,
    needs_readSize?.firstMatch?_append (layout.avoids_torrentPart _ "Size: " (by decide)),
    needs_readSize?.firstMatch?_append (layout.avoids_magnetPart _ "Size: " (by decide))]
  exact firstMatch?_of_read (layout.readSize?_sizePart _)

/--
The address of the torrent link begins otherwise than a magnet address, up to the quote behind it.
-/
theorem avoids_linkOpening :
    Avoids "href=\x22magnet:".toList "href=\x22".toList
      (layout.url.text.toList ++ '\x22' :: rest) := by
  refine ⟨?_, avoids_of_clashes (by decide) _⟩
  have label_eq : "href=\x22magnet:".toList = "href=\x22".toList ++ "magnet:".toList := by decide
  rcases layout.url.exists_eq_cons with ⟨first, others, url_eq⟩
  intro begins
  rw [label_eq] at begins
  have begins : "magnet:".toList <+: layout.url.text.toList ++ '\x22' :: rest :=
    (List.prefix_append_right_inj "href=\x22".toList).mp begins
  rw [url_eq] at begins
  have within := isPrefix_of_isPrefix_append begins (by rintro next ⟨rfl⟩; decide)
  rw [← url_eq] at within
  exact layout.url_noMagnet within

theorem firstMatch?_readMagnet?_torrentPart :
    firstMatch? readMagnet? (layout.torrentPart ++ rest) = firstMatch? readMagnet? rest := by
  let behind :=
    layout.url.text.toList ++
      ("\x22>".toList ++ (layout.caption.text.toList ++ "</a><br />".toList))
  have part_eq : layout.torrentPart ++ rest =
      "Torrent: <a ".toList ++ ("href=\x22".toList ++ (behind ++ rest)) := rfl
  have behind_eq : behind ++ rest =
      layout.url.text.toList ++ '\x22' :: '>' ::
        (layout.caption.text.toList ++ ("</a><br />".toList ++ rest)) := by
    simp only [behind, List.append_assoc]
    rfl
  have needs : Needs readMagnet? "href=".toList := needs_readMagnet?.mono (by decide)
  calc firstMatch? readMagnet? (layout.torrentPart ++ rest)
      = firstMatch? readMagnet? ("href=\x22".toList ++ (behind ++ rest)) := by
        rw [part_eq, needs_readMagnet?.firstMatch?_append (avoids_of_clashes (by decide) _)]
    _ = firstMatch? readMagnet? (behind ++ rest) := by
        rw [behind_eq, needs_readMagnet?.firstMatch?_append (layout.avoids_linkOpening _)]
    _ = firstMatch? readMagnet? rest :=
        needs.firstMatch?_append (avoids_behindOpening (by decide) layout.url layout.caption rest)

theorem firstMatch?_readMagnet?_link (address : Address) :
    firstMatch? readMagnet? (link "Magnet: <a href=\x22magnet:" address magnetCaption ++ rest) =
      some ("magnet:" ++ address.text) := by
  let behind := '>' :: (magnetCaption.text.toList ++ ("</a><br />".toList ++ rest))
  have opening_eq : "Magnet: <a href=\x22magnet:".toList =
      "Magnet: <a ".toList ++ "href=\x22magnet:".toList := by
    decide
  have link_eq : link "Magnet: <a href=\x22magnet:" address magnetCaption ++ rest =
      "Magnet: <a ".toList ++
        ("href=\x22magnet:".toList ++ (address.text.toList ++ '\x22' :: behind)) := by
    simp only [link, opening_eq, behind, List.append_assoc]
    rfl
  rw [link_eq, needs_readMagnet?.firstMatch?_append (avoids_of_clashes (by decide) _)]
  exact firstMatch?_of_read (readMagnet?_address behind address)

theorem magnet?_text :
    magnet? layout.text = layout.magnet.map fun address => "magnet:" ++ address.text := by
  have needs : Needs readMagnet? "href=".toList := needs_readMagnet?.mono (by decide)
  rw [magnet?, text, String.toList_ofList, firstMatch?_readMagnet?_torrentPart]
  unfold magnetPart
  cases layout.magnet with
  | none =>
      rw [List.nil_append, needs.firstMatch?_append (layout.avoids_sizePart _ "href=" (by decide)),
        needs.firstMatch?_append (layout.avoids_authorizedPart _ "href=" (by decide)),
        needs.firstMatch?_eq_none (by decide) (layout.avoids_commentPart "href=" (by decide))]
      rfl
  | some address => exact firstMatch?_readMagnet?_link _ address

theorem authorized_text : Description.authorized layout.text = layout.authorized := by
  have needs : Needs readAuthorized? "Authorized: ".toList := needs_readAuthorized?.mono (by decide)
  rw [Description.authorized, text, String.toList_ofList,
    needs.firstMatch?_append (layout.avoids_torrentPart _ "Authorized: " (by decide)),
    needs.firstMatch?_append (layout.avoids_magnetPart _ "Authorized: " (by decide)),
    needs.firstMatch?_append (layout.avoids_sizePart _ "Authorized: " (by decide))]
  unfold authorizedPart
  cases layout.authorized with
  | true =>
      rw [if_pos rfl, firstMatch?_of_read (readAuthorized?_yes layout.commentPart)]
      rfl
  | false =>
      have clash : clashes "Authorized: Yes".toList "Authorized: No<br />\n".toList := by decide
      rw [if_neg Bool.false_ne_true,
        needs_readAuthorized?.firstMatch?_append (avoids_of_clashes clash _),
        needs.firstMatch?_eq_none (by decide)
          (layout.avoids_commentPart "Authorized: " (by decide))]
      rfl

theorem comment?_text : comment? layout.text = layout.comment.map fun line => line.text := by
  rw [comment?, text, String.toList_ofList,
    needs_readComment?.firstMatch?_append (layout.avoids_torrentPart _ "Comment: " (by decide)),
    needs_readComment?.firstMatch?_append (layout.avoids_magnetPart _ "Comment: " (by decide)),
    needs_readComment?.firstMatch?_append (layout.avoids_sizePart _ "Comment: " (by decide)),
    needs_readComment?.firstMatch?_append (layout.avoids_authorizedPart _ "Comment: " (by decide))]
  unfold commentPart
  cases layout.comment with
  | none => rfl
  | some line => exact firstMatch?_of_read (readComment?_line line)

/-- An entry has the facts of a layout in its fields. -/
structure IsReadIn (entry : Entry) : Prop where
  torrentUrl : entry.torrentUrl = downloadUrl layout.url.text
  magnetUri : entry.magnetUri = layout.magnet.map fun address => "magnet:" ++ address.text
  size : entry.size = some (String.ofList layout.amount.text)
  authorized : entry.authorized = layout.authorized
  comment : entry.comment = layout.comment.map fun line => line.text

end Layout

end Description

namespace Item

variable {item : Item} {layout : Description.Layout} {number : Option Int}

/-- Every fact is found by its own search, so that the entry shows the whole layout. -/
theorem isReadIn_toEntry (laidOut : item.description = some layout.text) :
    layout.IsReadIn (item.toEntry number) where
  torrentUrl := by
    simp [toEntry, laidOut, layout.torrent?_text, orElseText, layout.url.nonempty]
  magnetUri := by simp [toEntry, laidOut, layout.magnet?_text]
  size := by simp [toEntry, laidOut, layout.size?_text]
  authorized := by simp [toEntry, laidOut, layout.authorized_text]
  comment := by simp [toEntry, laidOut, layout.comment?_text]

/--
Extraction reads the facts off a description that lays them out, whatever the other fields of the
item are, as long as a number can be read off its guid.
-/
theorem extract_inverts_layout (laidOut : item.description = some layout.text)
    (parses : guidNumber item.plainGuid = .ok number) :
    ∃ entry, item.extract = .ok entry ∧ layout.IsReadIn entry ∧
      (number.isSome → ∃ numbered, item.extractNumbered = .ok numbered ∧
        numbered.entry = entry) := by
  refine ⟨item.toEntry number, extract_of_guidNumber parses, isReadIn_toEntry laidOut, ?_⟩
  intro isNumber
  cases number with
  | none => cases isNumber
  | some value => exact ⟨_, extractNumbered_of_guidNumber parses, rfl⟩

end Item

namespace MisleadingFacts

/-- A description whose facts come as close to labels, addresses and marks as they can. -/
def layout : Description.Layout where
  url :=
    { text := "magnet?page=torrentinfo&href"
      unlabelled := by decide
      nonempty := by decide
      unquoted := by decide }
  caption := { text := "Size:\x22Comment:\n</a>Torrent:", unlabelled := by decide }
  magnet := some
    { text := "?xt=Authorized:<a href"
      unlabelled := by decide
      nonempty := by decide
      unquoted := by decide }
  amount :=
    { whole := { text := ['3', '5', '1'], nonempty := by decide, areDigits := by decide }
      decimals := some { text := ['6'], nonempty := by decide, areDigits := by decide }
      gap := some ⟨'\n', by decide⟩
      multiple := some ⟨'T', by decide⟩
      binary := true }
  authorized := false
  comment := some { text := "Authorized:Yes Size:", unlabelled := by decide, unbroken := by decide }
  url_noMagnet := by decide

def item : Item where
  description := some layout.text
  guid := some "id=7"

theorem guidNumber_item : guidNumber item.plainGuid = .ok (some 7) := by
  have plain : item.plainGuid = "id=7" := by
    rw [Item.plainGuid, unwrap_of_not_bracket _ (by decide)]
    decide
  have digits : idDigits? "id=7" = some ['7'] :=
    idDigits?_of_label (by decide) (List.all_eq_true.mp (by decide))
  rw [plain, guidNumber_eq, digits]
  rfl

theorem extract_inverts_layout_of_misleadingFacts :
    layout.text =
        "Torrent: <a href=\x22magnet?page=torrentinfo&href\x22>" ++
          "Size:\x22Comment:\n</a>Torrent:</a><br />" ++
          "Magnet: <a href=\x22magnet:?xt=Authorized:<a href\x22>Magnet Link</a><br />" ++
          "Size: 351.6\nTiB<br />Authorized: No<br />\nComment: Authorized:Yes Size:" ∧
      ∃ entry, item.extract = .ok entry ∧ layout.IsReadIn entry ∧
        ∃ numbered, item.extractNumbered = .ok numbered ∧ numbered.entry = entry := by
  rcases Item.extract_inverts_layout rfl guidNumber_item with
    ⟨entry, extracted, isRead, isNumbered⟩
  exact ⟨by decide +kernel, entry, extracted, isRead, isNumbered rfl⟩

end MisleadingFacts

end ReleaseWatch

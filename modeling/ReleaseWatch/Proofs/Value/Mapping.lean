import Mathlib.Logic.Basic
import ReleaseWatch.Value.Basic

/-!
# Mappings as dictionaries

Agreement of keys is symmetric and transitive, but an undefined number does not even agree with
itself. A mapping that is built by setting keys has every key once. Among distinct keys a removal
leaves every other key as it is, and a mapping that results from a row of settings has the keys in
the order in which they were first set, each with the value that was set last. To set the keys of
such a mapping in another one comes to the same as to repeat the row there.
-/

namespace ReleaseWatch

namespace Scalar

/-- Two scalars agree exactly if both are null, or the same text, or numbers of one quantity. -/
theorem agrees_iff {left right : Scalar} :
    left.agrees right ↔
      left = .null ∧ right = .null ∨
        (∃ content, left = .text content ∧ right = .text content) ∨
          ∃ quantity, left.quantity? = some quantity ∧ right.quantity? = some quantity := by
  unfold agrees
  split
  · simp
  · simp [quantity?, @eq_comm String]
  · rename_i notNull notText
    split
    · rename_i first second read readOther
      rw [read, readOther, beq_iff_eq]
      constructor
      · rintro rfl
        exact Or.inr (Or.inr ⟨first, rfl, rfl⟩)
      · rintro (⟨rfl, rfl⟩ | ⟨content, rfl, rfl⟩ | ⟨quantity, same, sameOther⟩)
        · exact absurd rfl (notNull rfl)
        · exact absurd rfl (notText _ _ rfl)
        · cases same
          exact (Option.some.inj sameOther).symm
    · rename_i unread
      simp only [Bool.false_eq_true, false_iff]
      rintro (⟨rfl, rfl⟩ | ⟨content, rfl, rfl⟩ | ⟨quantity, read, readOther⟩)
      · exact notNull rfl rfl
      · exact notText _ _ rfl rfl
      · exact unread _ _ read readOther

theorem agrees_comm {left right : Scalar} : left.agrees right ↔ right.agrees left := by
  rw [agrees_iff, agrees_iff]
  simp only [and_comm]

theorem agrees_symm {left right : Scalar} (same : left.agrees right) : right.agrees left :=
  agrees_comm.mp same

theorem agrees_trans {left middle right : Scalar} (first : left.agrees middle)
    (second : middle.agrees right) : left.agrees right := by
  rw [agrees_iff] at first second ⊢
  rcases first with ⟨rfl, rfl⟩ | ⟨content, rfl, rfl⟩ | ⟨quantity, read, readMiddle⟩
  · simpa [quantity?] using second
  · simpa [quantity?] using second
  · rcases second with ⟨rfl, rfl⟩ | ⟨content, rfl, rfl⟩ | ⟨other, readOther, readRight⟩
    · simp [quantity?] at readMiddle
    · simp [quantity?] at readMiddle
    · rw [readMiddle] at readOther
      cases readOther
      exact Or.inr (Or.inr ⟨quantity, read, readRight⟩)

@[simp]
theorem text_agrees_text (left right : String) :
    (Scalar.text left).agrees (.text right) = (left == right) := rfl

theorem text_agrees_iff {content : String} {key : Scalar} :
    (Scalar.text content).agrees key ↔ key = .text content := by
  rw [agrees_iff]
  constructor
  · rintro (⟨isNull, _⟩ | ⟨other, same, rfl⟩ | ⟨quantity, read, _⟩)
    · cases isNull
    · exact same.symm
    · cases read
  · rintro rfl
    exact Or.inr (Or.inl ⟨content, rfl, rfl⟩)

theorem agrees_text_iff {content : String} {key : Scalar} :
    key.agrees (.text content) ↔ key = .text content :=
  agrees_comm.trans text_agrees_iff

end Scalar

namespace Mapping

variable {fields : Mapping} {key other : Scalar} {value : Value}

theorem find?_cons (entry : Scalar × Value) (rest : Mapping) (key : Scalar) :
    find? (entry :: rest) key = if entry.1.agrees key then some entry.2 else find? rest key := rfl

/-- Keys that agree are one key to a mapping. -/
theorem find?_congr (same : key.agrees other) : fields.find? key = fields.find? other := by
  induction fields with
  | nil => rfl
  | cons entry rest ih =>
      have agreement : entry.1.agrees key = entry.1.agrees other := by
        rw [Bool.eq_iff_iff]
        exact ⟨fun first => Scalar.agrees_trans first same,
          fun first => Scalar.agrees_trans first (Scalar.agrees_symm same)⟩
      rw [find?_cons, find?_cons, agreement, ih]

theorem hasKey_congr (same : key.agrees other) : fields.hasKey key = fields.hasKey other := by
  rw [hasKey, hasKey, find?_congr same]

theorem hasKey_cons_iff {entry : Scalar × Value} {rest : Mapping} :
    hasKey (entry :: rest) key ↔ entry.1.agrees key ∨ rest.hasKey key := by
  rw [hasKey, find?_cons, hasKey]
  split
  · rename_i same
    simp [same]
  · rename_i differs
    simp [differs]

theorem hasKey_iff : fields.hasKey key ↔ ∃ entry ∈ fields, entry.1.agrees key := by
  induction fields with
  | nil => simp [hasKey, find?]
  | cons entry rest ih =>
      rw [hasKey_cons_iff, ih]
      simp

theorem hasKey_text_iff {content : String} :
    fields.hasKey (.text content) ↔ ∃ entry ∈ fields, entry.1 = .text content := by
  simp only [hasKey_iff, Scalar.agrees_text_iff]

theorem hasKey_eq_false_iff : fields.hasKey key = false ↔ fields.find? key = none := by
  simp [hasKey]

theorem hasKey_of_find? (found : fields.find? key = some value) : fields.hasKey key := by
  simp [hasKey, found]

/-- A key that is present agrees with itself. -/
theorem agrees_self_of_hasKey (present : fields.hasKey key) : key.agrees key := by
  rcases hasKey_iff.mp present with ⟨entry, _, same⟩
  exact Scalar.agrees_trans (Scalar.agrees_symm same) same

/-- No key of a mapping agrees with an earlier one. -/
def DistinctKeys (fields : Mapping) : Prop :=
  fields.Pairwise fun earlier later => ¬earlier.1.agrees later.1

theorem DistinctKeys.find?_tail_eq_none {entry : Scalar × Value} {rest : Mapping}
    (distinct : DistinctKeys (entry :: rest)) (same : entry.1.agrees key) :
    rest.find? key = none := by
  rw [← hasKey_eq_false_iff, Bool.eq_false_iff]
  intro present
  rcases hasKey_iff.mp present with ⟨later, later_mem, sameLater⟩
  have differs := (List.pairwise_cons.mp distinct).1 later later_mem
  exact differs (Scalar.agrees_trans same (Scalar.agrees_symm sameLater))

section Erase

theorem erase_sublist (fields : Mapping) (key : Scalar) : (fields.erase key).Sublist fields := by
  induction fields with
  | nil => exact List.Sublist.refl _
  | cons entry rest ih =>
      rw [erase]
      split
      · exact List.sublist_cons_self _ _
      · exact ih.cons_cons _

theorem DistinctKeys.erase (distinct : fields.DistinctKeys) (key : Scalar) :
    (fields.erase key).DistinctKeys :=
  List.Pairwise.sublist (erase_sublist fields key) distinct

/-- Among distinct keys a removal takes away the key and nothing else. -/
theorem DistinctKeys.find?_erase (distinct : fields.DistinctKeys) (key other : Scalar) :
    (fields.erase key).find? other = if key.agrees other then none else fields.find? other := by
  induction fields with
  | nil => simp [Mapping.erase, find?]
  | cons entry rest ih =>
      have distinctRest := (List.pairwise_cons.mp distinct).2
      rw [Mapping.erase]
      split
      · rename_i removed
        split
        · rename_i same
          exact distinct.find?_tail_eq_none (Scalar.agrees_trans removed same)
        · rename_i differs
          have kept : ¬entry.1.agrees other := fun same =>
            differs (Scalar.agrees_trans (Scalar.agrees_symm removed) same)
          simp [find?_cons, kept]
      · rename_i stays
        rw [find?_cons, find?_cons, ih distinctRest]
        split
        · rename_i same
          have differs : ¬key.agrees other := fun removed =>
            stays (Scalar.agrees_trans same (Scalar.agrees_symm removed))
          simp [differs]
        · rfl

theorem DistinctKeys.hasKey_erase_iff (distinct : fields.DistinctKeys) :
    (fields.erase key).hasKey other ↔ ¬key.agrees other ∧ fields.hasKey other := by
  rw [hasKey, distinct.find?_erase, hasKey]
  split
  · rename_i same
    simp [same]
  · rename_i differs
    simp [differs]

end Erase

section Insert

theorem key_of_mem_insert {entry : Scalar × Value}
    (entry_mem : entry ∈ fields.insert key value) :
    entry.1 = key ∨ ∃ present ∈ fields, present.1 = entry.1 := by
  induction fields with
  | nil => simp_all [insert]
  | cons first rest ih =>
      obtain ⟨present, old⟩ := first
      rw [insert] at entry_mem
      split at entry_mem
      · right
        rcases List.mem_cons.mp entry_mem with rfl | rest_mem
        · exact ⟨(present, old), by simp, rfl⟩
        · exact ⟨entry, by simp [rest_mem], rfl⟩
      · rcases List.mem_cons.mp entry_mem with rfl | rest_mem
        · exact Or.inr ⟨(present, old), by simp, rfl⟩
        · rcases ih rest_mem with new | ⟨other, other_mem, same⟩
          · exact Or.inl new
          · exact Or.inr ⟨other, by simp [other_mem], same⟩

theorem key_of_mem_merge {extra : Mapping} {entry : Scalar × Value}
    (entry_mem : entry ∈ fields.merge extra) :
    (∃ present ∈ fields, present.1 = entry.1) ∨ ∃ added ∈ extra, added.1 = entry.1 := by
  induction extra generalizing fields with
  | nil => exact Or.inl ⟨entry, entry_mem, rfl⟩
  | cons added rest ih =>
      rcases ih entry_mem with ⟨present, present_mem, same⟩ | ⟨later, later_mem, same⟩
      · rcases key_of_mem_insert present_mem with new | ⟨old, old_mem, sameOld⟩
        · exact Or.inr ⟨added, by simp, new.symm.trans same⟩
        · exact Or.inl ⟨old, old_mem, sameOld.trans same⟩
      · exact Or.inr ⟨later, by simp [later_mem], same⟩

theorem DistinctKeys.insert (distinct : fields.DistinctKeys) (key : Scalar) (value : Value) :
    (fields.insert key value).DistinctKeys := by
  induction fields with
  | nil => simp [Mapping.insert, DistinctKeys]
  | cons first rest ih =>
      obtain ⟨present, old⟩ := first
      rw [DistinctKeys, List.pairwise_cons] at distinct
      rw [Mapping.insert]
      split
      · exact List.pairwise_cons.mpr distinct
      · rename_i other
        apply List.pairwise_cons.mpr
        refine ⟨?_, ih distinct.2⟩
        intro later later_mem
        rcases key_of_mem_insert later_mem with same | ⟨known, known_mem, same⟩
        · simpa [same] using other
        · simpa [same] using distinct.1 known known_mem

theorem DistinctKeys.merge (distinct : fields.DistinctKeys) (extra : Mapping) :
    (fields.merge extra).DistinctKeys := by
  induction extra generalizing fields with
  | nil => exact distinct
  | cons entry rest ih => exact ih (distinct.insert entry.1 entry.2)

/-- Among distinct keys a text has one value. -/
theorem DistinctKeys.value_eq (distinct : fields.DistinctKeys) {key : String} {value other : Value}
    (value_mem : (.text key, value) ∈ fields) (other_mem : (.text key, other) ∈ fields) :
    value = other := by
  induction fields with
  | nil => simp at value_mem
  | cons first rest ih =>
      rw [DistinctKeys, List.pairwise_cons] at distinct
      rcases List.mem_cons.mp value_mem with rfl | value_rest
      · rcases List.mem_cons.mp other_mem with same | other_rest
        · cases same
          rfl
        · exact absurd (by simp [Scalar.agrees]) (distinct.1 _ other_rest)
      · rcases List.mem_cons.mp other_mem with rfl | other_rest
        · exact absurd (by simp [Scalar.agrees]) (distinct.1 _ value_rest)
        · exact ih distinct.2 value_rest other_rest

theorem find?_insert (fields : Mapping) (key other : Scalar) (value : Value) :
    (fields.insert key value).find? other =
      if key.agrees other then some value else fields.find? other := by
  induction fields with
  | nil => rfl
  | cons entry rest ih =>
      rw [insert]
      split
      · rename_i present
        rw [find?_cons, find?_cons]
        have agreement : entry.1.agrees other = key.agrees other := by
          rw [Bool.eq_iff_iff]
          exact ⟨fun same => Scalar.agrees_trans (Scalar.agrees_symm present) same,
            fun same => Scalar.agrees_trans present same⟩
        rw [agreement]
        split <;> rfl
      · rename_i absent
        rw [find?_cons, find?_cons, ih]
        split
        · rename_i same
          have differs : ¬key.agrees other := fun found =>
            absent (Scalar.agrees_trans same (Scalar.agrees_symm found))
          simp [differs]
        · rfl

theorem keys_insert (fields : Mapping) (key : Scalar) (value : Value) :
    (fields.insert key value).map Prod.fst =
      if fields.hasKey key then fields.map Prod.fst else fields.map Prod.fst ++ [key] := by
  induction fields with
  | nil => rfl
  | cons entry rest ih =>
      rw [insert, hasKey, find?_cons]
      split
      · rfl
      · rw [← hasKey, List.map_cons, ih]
        split <;> rfl

/-- To set a key twice is to set it once, to the second value. -/
theorem insert_insert_of_agrees (same : key.agrees other) (fields : Mapping) (value last : Value) :
    (fields.insert key value).insert other last = fields.insert key last := by
  induction fields with
  | nil => simp [insert, same]
  | cons entry rest ih =>
      rw [insert, insert]
      split
      · rename_i present
        simp [insert, Scalar.agrees_trans present same]
      · rename_i absent
        have absentOther : ¬entry.1.agrees other := fun present =>
          absent (Scalar.agrees_trans present (Scalar.agrees_symm same))
        simp [insert, absentOther, ih]

/-- Setting a key that is present already commutes with setting another one. -/
theorem insert_comm_of_hasKey (present : fields.hasKey key) (differs : ¬other.agrees key)
    (value added : Value) :
    (fields.insert other added).insert key value =
    (fields.insert key value).insert other added := by
  induction fields with
  | nil => simp [hasKey, find?] at present
  | cons entry rest ih =>
      by_cases here : entry.1.agrees key
      · have notOther : ¬entry.1.agrees other := fun same =>
          differs (Scalar.agrees_trans (Scalar.agrees_symm same) here)
        simp [insert, here, notOther]
      · rw [hasKey, find?_cons, if_neg here, ← hasKey] at present
        by_cases same : entry.1.agrees other
        · simp [insert, here, same]
        · simp [insert, here, same, ih present]

/-- Setting a key that is present already can wait until keys that differ from it are set. -/
theorem insert_merge_of_not_hasKey {extra : Mapping} (present : fields.hasKey key)
    (absent : extra.find? key = none) (value : Value) :
    (fields.merge extra).insert key value = (fields.insert key value).merge extra := by
  induction extra generalizing fields with
  | nil => rfl
  | cons added rest ih =>
      rw [find?_cons] at absent
      split at absent
      · cases absent
      · rename_i differs
        have presentStill : (fields.insert added.1 added.2).hasKey key := by
          rw [hasKey, find?_insert, if_neg differs]
          exact present
        change ((fields.insert added.1 added.2).merge rest).insert key value =
          ((fields.insert key value).insert added.1 added.2).merge rest
        rw [ih presentStill absent, insert_comm_of_hasKey present differs]

end Insert

section Merge

theorem merge_append (fields first second : Mapping) :
    fields.merge (first ++ second) = (fields.merge first).merge second :=
  List.foldl_append

/-- To set a key in the mapping that is merged is to set it last. -/
theorem DistinctKeys.merge_insert {extra : Mapping} (distinct : extra.DistinctKeys)
    (fields : Mapping) (key : Scalar) (value : Value) :
    fields.merge (extra.insert key value) = (fields.merge extra).insert key value := by
  induction extra generalizing fields with
  | nil => rfl
  | cons entry rest ih =>
      have distinctRest := (List.pairwise_cons.mp distinct).2
      rw [Mapping.insert]
      split
      · rename_i same
        have present : (fields.insert entry.1 entry.2).hasKey key := by
          rw [hasKey, find?_insert, if_pos same]
          rfl
        change (fields.insert entry.1 value).merge rest =
          ((fields.insert entry.1 entry.2).merge rest).insert key value
        rw [insert_merge_of_not_hasKey present (distinct.find?_tail_eq_none same),
          insert_insert_of_agrees same]
      · exact ih distinctRest (fields.insert entry.1 entry.2)

/-- Merging the result of a row of settings comes to the same as repeating the row. -/
theorem DistinctKeys.merge_merge {extra : Mapping} (distinct : extra.DistinctKeys)
    (fields entries : Mapping) :
    fields.merge (extra.merge entries) = (fields.merge extra).merge entries := by
  induction entries generalizing extra with
  | nil => rfl
  | cons entry rest ih =>
      calc fields.merge ((extra.insert entry.1 entry.2).merge rest)
          = (fields.merge (extra.insert entry.1 entry.2)).merge rest :=
            ih (distinct.insert entry.1 entry.2)
        _ = ((fields.merge extra).insert entry.1 entry.2).merge rest := by
            rw [distinct.merge_insert]

theorem merge_ofList (fields entries : Mapping) :
    fields.merge (ofList entries) = fields.merge entries :=
  DistinctKeys.merge_merge .nil fields entries

theorem find?_append (first second : Mapping) (key : Scalar) :
    find? (first ++ second) key = (first.find? key).or (second.find? key) := by
  induction first with
  | nil => rfl
  | cons entry rest ih =>
      rw [List.cons_append, find?_cons, find?_cons, ih]
      split <;> rfl

theorem find?_merge (fields extra : Mapping) (key : Scalar) :
    (fields.merge extra).find? key = (find? extra.reverse key).or (fields.find? key) := by
  induction extra generalizing fields with
  | nil => rfl
  | cons entry rest ih =>
      change ((fields.insert entry.1 entry.2).merge rest).find? key = _
      rw [ih, find?_insert, List.reverse_cons, find?_append, Option.or_assoc, find?_cons]
      split <;> rfl

/-- A key has the value that was set last. -/
theorem find?_ofList (entries : Mapping) (key : Scalar) :
    (ofList entries).find? key = find? entries.reverse key := by
  rw [ofList, find?_merge]
  exact Option.or_none

theorem keys_merge (fields extra : Mapping) :
    (fields.merge extra).map Prod.fst =
      List.eraseDupsBy.loop Scalar.agrees (extra.map Prod.fst) (fields.map Prod.fst).reverse := by
  induction extra generalizing fields with
  | nil => simp [merge, List.eraseDupsBy.loop]
  | cons entry rest ih =>
      have known : (fields.map Prod.fst).reverse.any (entry.1.agrees ·) =
          fields.hasKey entry.1 := by
        rw [Bool.eq_iff_iff, hasKey_iff, List.any_eq_true]
        simp only [List.mem_reverse, List.mem_map, exists_exists_and_eq_and, Scalar.agrees_comm]
      change ((fields.insert entry.1 entry.2).merge rest).map Prod.fst = _
      rw [ih, keys_insert, List.map_cons, List.eraseDupsBy.loop, known]
      cases fields.hasKey entry.1 <;> simp

/-- The keys stand in the order in which they were first set, spelled as they were then. -/
theorem keys_ofList (entries : Mapping) :
    (ofList entries).map Prod.fst = (entries.map Prod.fst).eraseDupsBy Scalar.agrees :=
  keys_merge [] entries

end Merge

end Mapping

end ReleaseWatch

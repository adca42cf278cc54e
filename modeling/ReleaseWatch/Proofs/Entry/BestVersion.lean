import ReleaseWatch.Entry.Selection
import ReleaseWatch.Proofs.Entry.Order
import ReleaseWatch.Proofs.Info.Order

/-!
# The best version of each episode

The selection goes through the entries once and keeps a champion for each episode.
`Versions.Summarizes` says what holds of the champions after any number of entries: each of
them is at least what came before it and above what came after it. So a champion is the last of
the greatest versions of its episode, and among entries that are sorted by number it is the one
of the greatest number.

Who is best is a property of the entries as a set:
`Entry.IsBest` mentions no order in which they were seen.
-/

namespace ReleaseWatch

namespace Entry

/-- An entry is a version of an episode if its info names a series. -/
def IsVersion (entry : Entry) (info : Info) : Prop :=
  entry.info = some info ∧ info.name ≠ none

theorem isVersion_iff {entry : Entry} {info : Info} :
    entry.IsVersion info ↔ ∃ name, entry.version? = some (info, name) := by
  simp only [IsVersion, version?]
  cases entry.info with
  | none => simp
  | some found =>
      constructor
      · rintro ⟨same, hasName⟩
        cases same
        rcases Option.ne_none_iff_exists'.mp hasName with ⟨name, named⟩
        exact ⟨name, Option.map_eq_some_iff.mpr ⟨name, named, rfl⟩⟩
      · rintro ⟨name, same⟩
        rcases Option.map_eq_some_iff.mp same with ⟨name', named, paired⟩
        cases paired
        exact ⟨rfl, by simp [named]⟩

theorem version?_eq_none_iff {entry : Entry} :
    entry.version? = none ↔ ∀ info, ¬entry.IsVersion info := by
  constructor
  · intro missing info version
    rcases isVersion_iff.mp version with ⟨name, found⟩
    rw [missing] at found
    cases found
  · intro noVersion
    cases found : entry.version? with
    | none => rfl
    | some version => exact absurd (isVersion_iff.mpr ⟨version.2, found⟩) (noVersion version.1)

theorem version?_eq_none_iff_name {entry : Entry} :
    entry.version? = none ↔ ∀ info, entry.info = some info → info.name = none := by
  rw [version?_eq_none_iff]
  simp only [IsVersion, ne_eq, not_and, Decidable.not_not]

theorem info_eq_of_isVersion {entry : Entry} {info info' : Info} (version : entry.IsVersion info)
    (version' : entry.IsVersion info') : info = info' :=
  Option.some.inj (version.1.symm.trans version'.1)

/-- Two entries are versions of one episode. -/
def SameEpisode (left right : Entry) : Prop :=
  ∃ leftInfo rightInfo, left.IsVersion leftInfo ∧ right.IsVersion rightInfo ∧
    leftInfo.identity = rightInfo.identity

theorem SameEpisode.symm {left right : Entry} (same : left.SameEpisode right) :
    right.SameEpisode left := by
  rcases same with ⟨leftInfo, rightInfo, leftVersion, rightVersion, sameIdentity⟩
  exact ⟨rightInfo, leftInfo, rightVersion, leftVersion, sameIdentity.symm⟩

theorem SameEpisode.trans {first second third : Entry} (same : first.SameEpisode second)
    (same' : second.SameEpisode third) : first.SameEpisode third := by
  rcases same with ⟨firstInfo, info, firstVersion, version, sameIdentity⟩
  rcases same' with ⟨info', thirdInfo, version', thirdVersion, sameIdentity'⟩
  cases info_eq_of_isVersion version version'
  exact ⟨firstInfo, thirdInfo, firstVersion, thirdVersion, sameIdentity.trans sameIdentity'⟩

/--
The best version of an episode among some entries: every version of the episode ranks below it, or
ties with it and has no greater number.
-/
def IsBest (keys : List InfoKey) (among : Entry → Prop) (entry : Entry) : Prop :=
  ∃ info, entry.IsVersion info ∧
    ∀ other, among other → ∀ otherInfo, other.IsVersion otherInfo →
      otherInfo.identity = info.identity →
      Info.RanksBelow keys otherInfo info ∨
        Info.Ties keys otherInfo info ∧ (other = entry ∨ other.Precedes entry)

/-- An episode has no two best versions. -/
theorem eq_of_isBest {keys : List InfoKey} {among : Entry → Prop} {left right : Entry}
    (left_among : among left) (right_among : among right) (sameEpisode : left.SameEpisode right)
    (leftBest : IsBest keys among left) (rightBest : IsBest keys among right) : left = right := by
  rcases sameEpisode with ⟨leftInfo, rightInfo, leftVersion, rightVersion, sameEpisode⟩
  rcases leftBest with ⟨info, version, leftBest⟩
  cases info_eq_of_isVersion leftVersion version
  rcases rightBest with ⟨info, version, rightBest⟩
  cases info_eq_of_isVersion rightVersion version
  have right_below := leftBest right right_among rightInfo rightVersion sameEpisode.symm
  have left_below := rightBest left left_among leftInfo leftVersion sameEpisode
  simp only [← Info.compareUnder_eq_lt_iff, ← Info.compareUnder_eq_eq_iff]
    at right_below left_below
  rw [Info.compareUnder_swap] at right_below
  rcases left_below with left_lt | ⟨tie, rfl | left_first⟩
  · simp [left_lt] at right_below
  · rfl
  · rcases right_below with right_lt | ⟨_, same | right_first⟩
    · simp [tie] at right_lt
    · exact same.symm
    · exact absurd right_first (precedes_asymm left_first)

/--
A champion of the entries that were seen: of its episode,
none before it is greater and all behind it are smaller.
-/
def Leads (keys : List InfoKey) (seen : List Entry) (champion : Info × Entry) : Prop :=
  champion.2.IsVersion champion.1 ∧
    ∃ before after, seen = before ++ champion.2 :: after ∧
      (∀ other ∈ before, ∀ info, other.IsVersion info →
        info.identity = champion.1.identity →
        (info.compareUnder champion.1 keys).isLE) ∧
      ∀ other ∈ after, ∀ info, other.IsVersion info →
        info.identity = champion.1.identity →
        info.compareUnder champion.1 keys = .lt

namespace Leads

variable {keys : List InfoKey} {seen : List Entry} {champion : Info × Entry}

theorem mem (leads : Leads keys seen champion) : champion.2 ∈ seen := by
  rcases leads with ⟨_, before, after, rfl, _, _⟩
  simp

theorem isLE (leads : Leads keys seen champion) {other : Entry} (other_mem : other ∈ seen)
    {info : Info} (version : other.IsVersion info)
    (sameEpisode : info.identity = champion.1.identity) :
    (info.compareUnder champion.1 keys).isLE := by
  rcases leads with ⟨championVersion, before, after, rfl, atMost, below⟩
  rcases List.mem_append.mp other_mem with before_mem | rest_mem
  · exact atMost other before_mem info version sameEpisode
  · rcases List.mem_cons.mp rest_mem with rfl | after_mem
    · cases info_eq_of_isVersion version championVersion
      exact Info.isLE_compareUnder_iff.mpr (Or.inr fun key _ => rfl)
    · simp [below other after_mem info version sameEpisode]

/-- A champion stays one if the next entry is no greater or equal version of its episode. -/
theorem append_of_lt (leads : Leads keys seen champion) {entry : Entry}
    (below : ∀ info, entry.IsVersion info → info.identity = champion.1.identity →
      info.compareUnder champion.1 keys = .lt) :
    Leads keys (seen ++ [entry]) champion := by
  rcases leads with ⟨version, before, after, rfl, atMost, afterBelow⟩
  refine ⟨version, before, after ++ [entry], by simp, atMost, ?_⟩
  intro other other_mem
  rcases List.mem_append.mp other_mem with after_mem | last_mem
  · exact afterBelow other after_mem
  · cases List.mem_singleton.mp last_mem
    exact below

/-- A version that is no less than all that were seen of its episode is the champion. -/
theorem append_of_isLE {challenger : Info × Entry}
    (version : challenger.2.IsVersion challenger.1)
    (atMost : ∀ other ∈ seen, ∀ info, other.IsVersion info →
      info.identity = challenger.1.identity → (info.compareUnder challenger.1 keys).isLE) :
    Leads keys (seen ++ [challenger.2]) challenger :=
  ⟨version, seen, [], rfl, atMost, by simp⟩

/-- A champion meets a later version of its episode; the winner is the champion from then on. -/
theorem append_winner {challenger : Info × Entry} (leads : Leads keys seen champion)
    (version : challenger.2.IsVersion challenger.1)
    (sameEpisode : champion.1.identity = challenger.1.identity) :
    Leads keys (seen ++ [challenger.2])
      (if challenger.1.compareUnder champion.1 keys = .lt then champion else challenger) := by
  split
  · rename_i below
    apply leads.append_of_lt
    intro info version' _
    cases info_eq_of_isVersion version version'
    exact below
  · rename_i notBelow
    -- the challenger is above the champion, and so above all that the champion was above
    apply append_of_isLE version
    intro other seen_mem info version' same
    exact Info.isLE_compareUnder_trans (leads.isLE seen_mem version' (same.trans sameEpisode.symm))
      (Info.isLE_compareUnder_of_ne_lt notBelow)

/-- Among entries that are sorted by number, a champion is the best version. -/
theorem isBest (leads : Leads keys seen champion) (sorted : seen.Pairwise Precedes) :
    IsBest keys (· ∈ seen) champion.2 := by
  refine ⟨champion.1, leads.1, ?_⟩
  intro other other_mem info version sameEpisode
  rcases leads with ⟨championVersion, before, after, rfl, atMost, below⟩
  rw [List.pairwise_append] at sorted
  rcases List.mem_append.mp other_mem with before_mem | rest_mem
  · have first : other.Precedes champion.2 := sorted.2.2 other before_mem champion.2 (by simp)
    rcases Info.isLE_compareUnder_iff.mp (atMost other before_mem info version sameEpisode) with
      ranksBelow | ties
    · exact Or.inl ranksBelow
    · exact Or.inr ⟨ties, Or.inr first⟩
  · rcases List.mem_cons.mp rest_mem with rfl | after_mem
    · cases info_eq_of_isVersion version championVersion
      exact Or.inr ⟨fun key _ => rfl, Or.inl rfl⟩
    · exact Or.inl
        (Info.compareUnder_eq_lt_iff.mp (below other after_mem info version sameEpisode))

end Leads

end Entry

namespace Versions

theorem contest_eq_ok {tieBreak : List String} {name : String}
    {best challenger winner : Info × Entry}
    (met : (contest tieBreak name best challenger).outcome = .ok winner) :
    ∃ order, challenger.1.compareBy tieBreak best.1 = .ok order ∧
      winner = if order = .lt then best else challenger := by
  rw [contest, Logged.outcome_bind_eq_ok_iff] at met
  rcases met with ⟨order, compared, met⟩
  refine ⟨order, compared, ?_⟩
  cases order with
  | lt => exact (Except.ok.inj met).symm
  | eq => exact (Except.ok.inj met).symm
  | gt => exact (Except.ok.inj met).symm

/-- A version meets the champion of its episode in its place, or it is the first of its episode. -/
theorem addVersion_eq_ok {tieBreak : List String} {name : String} {version : Info × Entry}
    {best result : List (Info × Entry)}
    (added : (addVersion tieBreak name version best).outcome = .ok result) :
    (∃ before champion after order, best = before ++ champion :: after ∧
      champion.1.identity = version.1.identity ∧
      version.1.compareBy tieBreak champion.1 = .ok order ∧
      result = before ++ (if order = .lt then champion else version) :: after) ∨
    (∀ champion ∈ best, champion.1.identity ≠ version.1.identity) ∧ result = best ++
    [version] := by
  induction best generalizing result with
  | nil =>
      cases added
      simp
  | cons champion rest ih =>
      simp only [addVersion] at added
      split at added
      · rename_i sameEpisode
        rcases Logged.outcome_bind_eq_ok_iff.mp added with ⟨winner, met, done⟩
        cases done
        rcases contest_eq_ok met with ⟨order, compared, rfl⟩
        exact Or.inl ⟨[], champion, rest, order, rfl, sameEpisode, compared, rfl⟩
      · rename_i otherEpisode
        rcases Logged.outcome_bind_eq_ok_iff.mp added with ⟨others, addedToRest, done⟩
        cases done
        rcases ih addedToRest with
          ⟨before, found, after, order, rfl, same, compared, rfl⟩ | ⟨none, rfl⟩
        · exact Or.inl ⟨champion :: before, found, after, order, rfl, same, compared, rfl⟩
        · right
          refine ⟨?_, rfl⟩
          intro other other_mem
          rcases List.mem_cons.mp other_mem with rfl | rest_mem
          · exact otherEpisode
          · exact none other rest_mem

/-- What has been found of the entries that were seen. -/
structure Summarizes (keys : List InfoKey) (versions : Versions) (seen : List Entry) : Prop where
  others_eq : versions.others = seen.filter (·.version?.isNone)
  /-- There is one champion at most for an episode. -/
  distinct : versions.best.Pairwise fun left right => left.1.identity ≠ right.1.identity
  leads : ∀ champion ∈ versions.best, Entry.Leads keys seen champion
  /-- There is one at least if a version of the episode was seen. -/
  covers : ∀ entry ∈ seen, ∀ info, entry.IsVersion info →
    ∃ champion ∈ versions.best, champion.1.identity = info.identity

namespace Summarizes

variable {keys : List InfoKey} {versions : Versions} {seen : List Entry}

theorem empty (keys : List InfoKey) : Summarizes keys {} [] where
  others_eq := rfl
  distinct := .nil
  leads := by simp
  covers := by simp

/-- An entry that is no version leaves all champions as they are. -/
theorem add_other (summary : Summarizes keys versions seen) {entry : Entry}
    (noVersion : entry.version? = none) :
    Summarizes keys { versions with others := versions.others ++ [entry] } (seen ++ [entry]) where
  others_eq := by simp [summary.others_eq, noVersion]
  distinct := summary.distinct
  leads := by
    intro champion champion_mem
    apply (summary.leads champion champion_mem).append_of_lt
    intro info version
    exact absurd version (Entry.version?_eq_none_iff.mp noVersion info)
  covers := by
    intro other other_mem info version
    rcases List.mem_append.mp other_mem with seen_mem | last_mem
    · exact summary.covers other seen_mem info version
    · cases List.mem_singleton.mp last_mem
      exact absurd version (Entry.version?_eq_none_iff.mp noVersion info)

theorem add_first (summary : Summarizes keys versions seen) (challenger : Info × Entry)
    (version : challenger.2.IsVersion challenger.1)
    (first : ∀ champion ∈ versions.best, champion.1.identity ≠ challenger.1.identity) :
    Summarizes keys { versions with best := versions.best ++ [challenger] }
      (seen ++ [challenger.2]) where
  others_eq := by
    rcases Entry.isVersion_iff.mp version with ⟨name, found⟩
    simp [summary.others_eq, found]
  distinct := by
    rw [List.pairwise_append]
    refine ⟨summary.distinct, by simp, ?_⟩
    intro champion champion_mem last last_mem
    cases List.mem_singleton.mp last_mem
    exact first champion champion_mem
  leads := by
    intro champion champion_mem
    rcases List.mem_append.mp champion_mem with best_mem | last_mem
    · apply (summary.leads champion best_mem).append_of_lt
      intro info version' sameEpisode
      cases Entry.info_eq_of_isVersion version version'
      exact absurd sameEpisode.symm (first champion best_mem)
    · cases List.mem_singleton.mp last_mem
      apply Entry.Leads.append_of_isLE version
      intro other other_mem info version' sameEpisode
      rcases summary.covers other other_mem info version' with ⟨found, found_mem, same⟩
      exact absurd (same.trans sameEpisode) (first found found_mem)
  covers := by
    intro other other_mem info version'
    rcases List.mem_append.mp other_mem with seen_mem | last_mem
    · rcases summary.covers other seen_mem info version' with ⟨found, found_mem, same⟩
      exact ⟨found, by simp [found_mem], same⟩
    · cases List.mem_singleton.mp last_mem
      cases Entry.info_eq_of_isVersion version version'
      exact ⟨challenger, by simp, rfl⟩

/-- A later version of an episode meets the champion; the winner takes the champion's place. -/
theorem add_later (summary : Summarizes keys versions seen) (challenger : Info × Entry)
    {champion winner : Info × Entry} {before after : List (Info × Entry)}
    (version : challenger.2.IsVersion challenger.1)
    (best_eq : versions.best = before ++ champion :: after)
    (sameEpisode : champion.1.identity = challenger.1.identity)
    (winner_eq : winner =
      if challenger.1.compareUnder champion.1 keys = .lt then champion else challenger) :
    Summarizes keys { versions with best := before ++ winner :: after }
      (seen ++ [challenger.2]) := by
  have championLeads := summary.leads champion (by simp [best_eq])
  have winnerEpisode : winner.1.identity = champion.1.identity := by
    rw [winner_eq]
    split
    · rfl
    · exact sameEpisode.symm
  have sameEpisodes : (before ++ winner :: after).map (·.1.identity) =
      versions.best.map (·.1.identity) := by
    simp [best_eq, winnerEpisode]
  refine ⟨?others_eq, ?distinct, ?leads, ?covers⟩
  case others_eq =>
    rcases Entry.isVersion_iff.mp version with ⟨name, found⟩
    simp [summary.others_eq, found]
  case distinct =>
    have distinct := List.pairwise_map.mpr summary.distinct
    rw [← sameEpisodes] at distinct
    exact List.pairwise_map.mp distinct
  case leads =>
    intro leader leader_mem
    rw [List.perm_middle.mem_iff, List.mem_cons] at leader_mem
    rcases leader_mem with rfl | other_mem
    · rw [winner_eq]
      exact championLeads.append_winner version sameEpisode
    · have distinct := summary.distinct
      rw [best_eq, List.pairwise_middle Ne.symm, List.pairwise_cons] at distinct
      have best_mem : leader ∈ versions.best := by
        rw [best_eq, List.perm_middle.mem_iff]
        exact List.mem_cons_of_mem _ other_mem
      apply (summary.leads leader best_mem).append_of_lt
      intro info version' same
      cases Entry.info_eq_of_isVersion version version'
      exact absurd (sameEpisode.trans same) (distinct.1 leader other_mem)
  case covers =>
    intro other other_mem info version'
    have found : info.identity ∈ versions.best.map (·.1.identity) := by
      rcases List.mem_append.mp other_mem with seen_mem | last_mem
      · exact List.mem_map.mpr (summary.covers other seen_mem info version')
      · cases List.mem_singleton.mp last_mem
        cases Entry.info_eq_of_isVersion version version'
        exact List.mem_map.mpr ⟨champion, by simp [best_eq], sameEpisode⟩
    rw [← sameEpisodes] at found
    exact List.mem_map.mp found

theorem add {tieBreak : List String} {entry : Entry} {next : Versions}
    (summary : Summarizes (Info.tieBreakKeys tieBreak) versions seen)
    (added : (versions.add tieBreak entry).outcome = .ok next) :
    Summarizes (Info.tieBreakKeys tieBreak) next (seen ++ [entry]) := by
  simp only [Versions.add] at added
  split at added
  · rename_i noVersion
    cases added
    exact summary.add_other noVersion
  · rename_i info name found
    have version : entry.IsVersion info := Entry.isVersion_iff.mpr ⟨name, found⟩
    rcases Logged.outcome_bind_eq_ok_iff.mp added with ⟨best, addedVersion, done⟩
    cases done
    rcases addVersion_eq_ok addedVersion with
      ⟨before, champion, after, order, best_eq, sameEpisode, compared, rfl⟩ | ⟨first, rfl⟩
    · have order_eq := Info.compareBy_eq_ok_of_identity_eq compared sameEpisode.symm
      exact summary.add_later (info, entry) version best_eq sameEpisode
        (by rw [order_eq])
    · exact summary.add_first (info, entry) version first

theorem addAll {tieBreak : List String} {entries : List Entry} {final : Versions}
    (summary : Summarizes (Info.tieBreakKeys tieBreak) versions seen)
    (added : (versions.addAll tieBreak entries).outcome = .ok final) :
    Summarizes (Info.tieBreakKeys tieBreak) final (seen ++ entries) := by
  induction entries generalizing versions seen with
  | nil =>
      cases added
      simpa using summary
  | cons entry rest ih =>
      rw [Versions.addAll] at added
      rcases Logged.outcome_bind_eq_ok_iff.mp added with ⟨next, addedFirst, addedRest⟩
      have goneThrough := ih (summary.add addedFirst) addedRest
      simpa using goneThrough

end Summarizes

end Versions

theorem withNumbers_eq_ok {entries : List Entry} {numbered : List (Int × Entry)}
    (paired : withNumbers entries = .ok numbered) :
    numbered.map (·.2) = entries ∧ ∀ pair ∈ numbered, pair.2.id = some pair.1 := by
  induction entries generalizing numbered with
  | nil =>
      cases paired
      simp
  | cons entry rest ih =>
      rcases Outcome.bind_eq_ok_iff.mp paired with ⟨number, keyed, paired⟩
      rcases Outcome.bind_eq_ok_iff.mp paired with ⟨others, pairedRest, done⟩
      cases done
      rcases ih pairedRest with ⟨same, agree⟩
      have hasNumber : entry.id = some number := by
        simp only [Entry.orderKey] at keyed
        split at keyed
        · rename_i found
          cases keyed
          exact found
        · cases keyed
      refine ⟨by simp [same], ?_⟩
      intro pair pair_mem
      rcases List.mem_cons.mp pair_mem with rfl | rest_mem
      · exact hasNumber
      · exact agree pair rest_mem

theorem number_le_trans (first second third : Int × Entry) (below : decide (first.1 ≤ second.1))
    (below' : decide (second.1 ≤ third.1)) : decide (first.1 ≤ third.1) := by
  simp only [decide_eq_true_eq] at below below' ⊢
  omega

theorem number_le_total (first second : Int × Entry) :
    decide (first.1 ≤ second.1) || decide (second.1 ≤ first.1) := by
  simp only [Bool.or_eq_true, decide_eq_true_eq]
  omega

/-- A sorted list holds the same entries, in the order of their numbers. -/
theorem sortByNumber_eq_ok {entries sorted : List Entry}
    (done : sortByNumber entries = .ok sorted) :
    sorted.Perm entries ∧ sorted.Pairwise fun left right => ¬right.Precedes left := by
  rcases Outcome.bind_eq_ok_iff.mp done with ⟨numbered, paired, done⟩
  cases done
  rcases withNumbers_eq_ok paired with ⟨same, agree⟩
  have ordered := List.pairwise_mergeSort number_le_trans number_le_total numbered
  constructor
  · rw [← same]
    exact (List.mergeSort_perm numbered _).map _
  · rw [List.pairwise_map]
    apply ordered.imp_of_mem
    intro left right left_mem right_mem below
    rw [List.mem_mergeSort] at left_mem right_mem
    rintro ⟨rightNumber, leftNumber, rightSame, leftSame, less⟩
    rw [agree right right_mem] at rightSame
    rw [agree left left_mem] at leftSame
    cases rightSame
    cases leftSame
    simp only [decide_eq_true_eq] at below
    omega

namespace Versions.Summarizes

variable {keys : List InfoKey} {versions : Versions} {seen : List Entry}

/--
What is kept of entries that are sorted by number:
all that are no versions, and the best versions.
-/
theorem mem_kept_iff (summary : Summarizes keys versions seen)
    (sorted : seen.Pairwise Entry.Precedes) (entry : Entry) :
    entry ∈ versions.kept ↔
      entry ∈ seen ∧ (entry.version? = none ∨ Entry.IsBest keys (· ∈ seen) entry) := by
  simp only [kept, List.mem_append, List.mem_map, summary.others_eq, List.mem_filter,
    Option.isNone_iff_eq_none]
  constructor
  · rintro (⟨entry_mem, noVersion⟩ | ⟨champion, champion_mem, rfl⟩)
    · exact ⟨entry_mem, Or.inl noVersion⟩
    · have leads := summary.leads champion champion_mem
      exact ⟨leads.mem, Or.inr (leads.isBest sorted)⟩
  · rintro ⟨entry_mem, noVersion | best⟩
    · exact Or.inl ⟨entry_mem, noVersion⟩
    · right
      rcases best with ⟨info, version, below⟩
      rcases summary.covers entry entry_mem info version with
        ⟨champion, champion_mem, sameEpisode⟩
      have leads := summary.leads champion champion_mem
      exact ⟨champion, champion_mem, Entry.eq_of_isBest leads.mem entry_mem
        ⟨champion.1, info, leads.1, version, sameEpisode⟩ (leads.isBest sorted)
        ⟨info, version, below⟩⟩

theorem kept_nodup (summary : Summarizes keys versions seen) (nodup : seen.Nodup) :
    versions.kept.Nodup := by
  rw [kept, List.nodup_append]
  refine ⟨?_, ?_, ?_⟩
  · rw [summary.others_eq]
    exact nodup.filter _
  · rw [List.Nodup, List.pairwise_map]
    apply summary.distinct.imp_of_mem
    intro left right left_mem right_mem otherEpisode same
    have leftVersion := (summary.leads left left_mem).1
    rw [same] at leftVersion
    have sameInfo := Entry.info_eq_of_isVersion leftVersion (summary.leads right right_mem).1
    exact otherEpisode (by rw [sameInfo])
  · intro other other_mem champion champion_mem same
    subst same
    rw [summary.others_eq] at other_mem
    rcases List.mem_map.mp champion_mem with ⟨pair, pair_mem, rfl⟩
    have noVersion : pair.2.version? = none := by
      simpa using (List.mem_filter.mp other_mem).2
    exact Entry.version?_eq_none_iff.mp noVersion pair.1 (summary.leads pair pair_mem).1

end Versions.Summarizes

theorem selectBest_nil (tieBreak : List String) : (selectBest tieBreak []).outcome = .ok [] := by
  rw [selectBest, Versions.addAll, Logged.outcome_bind, Logged.outcome_pure, Outcome.bind_ok]
  simp [Versions.kept, sortByNumber, withNumbers, bind, pure, Except.pure]

section Selection

variable {tieBreak : List String} {entries selected : List Entry}
  (sorted : entries.Pairwise Entry.Precedes)
  (done : (selectBest tieBreak entries).outcome = .ok selected)

include sorted done

theorem exists_summarizes_of_selectBest :
    ∃ versions, Versions.Summarizes (Info.tieBreakKeys tieBreak) versions entries ∧
      selected.Perm versions.kept ∧ selected.Pairwise Entry.Precedes := by
  rcases Logged.outcome_bind_eq_ok_iff.mp done with ⟨versions, added, sortedKept⟩
  have summary := (Versions.Summarizes.empty (Info.tieBreakKeys tieBreak)).addAll added
  rw [List.nil_append] at summary
  rcases sortByNumber_eq_ok sortedKept with ⟨perm, ordered⟩
  refine ⟨versions, summary, perm, ?_⟩
  have nodup := perm.nodup_iff.mpr (summary.kept_nodup (Entry.nodup_of_sorted sorted))
  -- the sort alone admits equal numbers; that there are none comes from the entries
  apply (ordered.and nodup).imp_of_mem
  intro left right left_mem right_mem differ
  have left_entries := ((summary.mem_kept_iff sorted left).mp (perm.mem_iff.mp left_mem)).1
  have right_entries := ((summary.mem_kept_iff sorted right).mp (perm.mem_iff.mp right_mem)).1
  rcases Entry.eq_or_precedes_of_mem sorted left_entries right_entries with same | forth | back
  · exact absurd same differ.2
  · exact forth
  · exact absurd back differ.1

theorem selectBest_sorted : selected.Pairwise Entry.Precedes := by
  rcases exists_summarizes_of_selectBest sorted done with ⟨_, _, _, selectedSorted⟩
  exact selectedSorted

/-- Selected are all entries that are no versions, and the best versions. -/
theorem mem_selectBest_iff (entry : Entry) :
    entry ∈ selected ↔
      entry ∈ entries ∧ (entry.version? = none ∨
        Entry.IsBest (Info.tieBreakKeys tieBreak) (· ∈ entries) entry) := by
  rcases exists_summarizes_of_selectBest sorted done with ⟨versions, summary, perm, _⟩
  rw [perm.mem_iff, summary.mem_kept_iff sorted]

theorem exists_selected_of_isVersion {entry : Entry} (entry_mem : entry ∈ entries) {info : Info}
    (version : entry.IsVersion info) :
    ∃ best ∈ selected, best.SameEpisode entry := by
  rcases exists_summarizes_of_selectBest sorted done with ⟨versions, summary, perm, _⟩
  rcases summary.covers entry entry_mem info version with ⟨champion, champion_mem, sameEpisode⟩
  have championVersion := (summary.leads champion champion_mem).1
  refine ⟨champion.2, ?_, champion.1, info, championVersion, version, sameEpisode⟩
  rw [perm.mem_iff, Versions.kept, List.mem_append]
  exact Or.inr (List.mem_map_of_mem champion_mem)

/-- No two selected versions are of one episode. -/
theorem eq_of_mem_selectBest {left right : Entry} (left_mem : left ∈ selected)
    (right_mem : right ∈ selected) (sameEpisode : left.SameEpisode right) : left = right := by
  rcases sameEpisode with ⟨leftInfo, rightInfo, leftVersion, rightVersion, sameEpisode⟩
  have left_best := (mem_selectBest_iff sorted done left).mp left_mem
  have right_best := (mem_selectBest_iff sorted done right).mp right_mem
  rcases left_best with ⟨left_entries, noVersion | leftBest⟩
  · exact absurd leftVersion (Entry.version?_eq_none_iff.mp noVersion leftInfo)
  · rcases right_best with ⟨right_entries, noVersion | rightBest⟩
    · exact absurd rightVersion (Entry.version?_eq_none_iff.mp noVersion rightInfo)
    · exact Entry.eq_of_isBest left_entries right_entries
        ⟨leftInfo, rightInfo, leftVersion, rightVersion, sameEpisode⟩ leftBest rightBest

theorem selectBest_pairwise_not_sameEpisode :
    selected.Pairwise fun left right => ¬left.SameEpisode right := by
  apply (selectBest_sorted sorted done).imp_of_mem
  intro left right left_mem right_mem precedes sameEpisode
  have same := eq_of_mem_selectBest sorted done left_mem right_mem sameEpisode
  subst same
  exact Entry.precedes_irrefl left precedes

end Selection

end ReleaseWatch

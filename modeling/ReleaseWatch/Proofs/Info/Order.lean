import ReleaseWatch.Info
import ReleaseWatch.Proofs.Outcome

/-!
# The order of infos

Infos are compared value by value along a list of keys. Under one key the values of all infos are
of one kind, and their order is a linear one: texts with the missing one first, numbers by size,
and ranges by start and stop. Along a list of keys the first one under which two infos differ
decides, which makes a total preorder: infos that agree under every key tie, and no others do.
-/

namespace ReleaseWatch

namespace InfoValue

/-- The values that come before others of their kind. -/
inductive Precedes : InfoValue → InfoValue → Prop
  | missing (content : String) : Precedes (.text none) (.text (some content))
  | text {left right : String} (less : left < right) :
      Precedes (.text (some left)) (.text (some right))
  | number {left right : Int} (less : left < right) : Precedes (.number left) (.number right)
  | rangeStart {left right : Int} (leftStop rightStop : Int) (less : left < right) :
      Precedes (.range left leftStop) (.range right rightStop)
  | rangeStop (first : Int) {leftStop rightStop : Int} (less : leftStop < rightStop) :
      Precedes (.range first leftStop) (.range first rightStop)

theorem compareText_eq_compare (left right : Option String) :
    compareText left right = compare left right := by
  cases left <;> cases right <;> rfl

theorem compare_text_eq_lt_iff {left right : String} :
    compare left right = .lt ↔ left < right := by
  change compareOfLessAndEq left right = .lt ↔ left < right
  exact compareOfLessAndEq_eq_lt

/-- The order finds exactly the values that come before others. -/
theorem order_eq_lt_iff {left right : InfoValue} :
    left.order right = .lt ↔ left.Precedes right := by
  constructor
  · intro less
    cases left with
    | text left =>
        cases right with
        | text right =>
            cases left with
            | none =>
                cases right with
                | none => simp [order, compareText] at less
                | some right => exact .missing right
            | some left =>
                cases right with
                | none => simp [order, compareText] at less
                | some right => exact .text (compare_text_eq_lt_iff.mp less)
        | _ => simp [order] at less
    | number left =>
        cases right with
        | number right => exact .number (Int.compare_eq_lt.mp less)
        | _ => simp [order] at less
    | range left leftStop =>
        cases right with
        | range right rightStop =>
            simp only [order, Ordering.then_eq_lt, Int.compare_eq_lt, Int.compare_eq_eq] at less
            rcases less with start | ⟨same, stop⟩
            · exact .rangeStart leftStop rightStop start
            · subst same
              exact .rangeStop left stop
        | _ => simp [order] at less
  · intro precedes
    cases precedes with
    | missing content => rfl
    | text less => exact compare_text_eq_lt_iff.mpr less
    | number less => exact Int.compare_eq_lt.mpr less
    | rangeStart leftStop rightStop less =>
        exact Ordering.then_eq_lt.mpr (Or.inl (Int.compare_eq_lt.mpr less))
    | rangeStop first less =>
        exact Ordering.then_eq_lt.mpr
          (Or.inr ⟨Std.ReflOrd.compare_self, Int.compare_eq_lt.mpr less⟩)

theorem order_swap (left right : InfoValue) : left.order right = (right.order left).swap := by
  cases left <;> cases right <;>
    simp only [order, compareText_eq_compare, Ordering.swap_then, Ordering.swap_eq]
  · exact Std.OrientedOrd.eq_swap
  · exact Std.OrientedOrd.eq_swap
  · congr 1 <;> exact Std.OrientedOrd.eq_swap

/-- Whether two values can stand under one key. -/
def SameKind : InfoValue → InfoValue → Prop
  | .text _, .text _ => True
  | .number _, .number _ => True
  | .range .., .range .. => True
  | _, _ => False

theorem order_eq_eq_iff {left right : InfoValue} (sameKind : left.SameKind right) :
    left.order right = .eq ↔ left = right := by
  cases left <;> cases right <;> simp only [SameKind] at sameKind
  · simp [order, compareText_eq_compare]
  · simp [order]
  · simp [order]

theorem isLE_order_trans {first second third : InfoValue} (sameKind : first.SameKind second)
    (sameKind' : second.SameKind third) (below : (first.order second).isLE)
    (below' : (second.order third).isLE) : (first.order third).isLE := by
  cases first <;> cases second <;> simp only [SameKind] at sameKind <;>
    cases third <;> simp only [SameKind] at sameKind'
  · simp only [order, compareText_eq_compare] at below below' ⊢
    exact Std.TransOrd.isLE_trans below below'
  · exact Std.TransOrd.isLE_trans below below'
  · simp only [order, Ordering.isLE_then_iff_or, Int.compare_eq_lt, Int.compare_eq_eq,
      Int.isLE_compare] at below below' ⊢
    omega

end InfoValue

namespace Info

theorem get_sameKind (left right : Info) (key : InfoKey) :
    (left.get key).SameKind (right.get key) := by
  cases key <;> trivial

/-- The order of two infos along a list of keys. -/
def compareUnder (left right : Info) : List InfoKey → Ordering
  | [] => .eq
  | key :: rest => ((left.get key).order (right.get key)).then (left.compareUnder right rest)

/-- The first key under which two infos differ has the smaller value in the left one. -/
def RanksBelow (keys : List InfoKey) (left right : Info) : Prop :=
  ∃ before key after, keys = before ++ key :: after ∧
    (∀ earlier ∈ before, left.get earlier = right.get earlier) ∧
    (left.get key).Precedes (right.get key)

/-- Two infos agree under every key. -/
def Ties (keys : List InfoKey) (left right : Info) : Prop :=
  ∀ key ∈ keys, left.get key = right.get key

theorem compareUnder_swap (keys : List InfoKey) (left right : Info) :
    left.compareUnder right keys = (right.compareUnder left keys).swap := by
  induction keys with
  | nil => rfl
  | cons key rest ih =>
      simp only [compareUnder, Ordering.swap_then]
      rw [InfoValue.order_swap, ih]

theorem compareUnder_eq_eq_iff {keys : List InfoKey} {left right : Info} :
    left.compareUnder right keys = .eq ↔ Ties keys left right := by
  induction keys with
  | nil => simp [compareUnder, Ties]
  | cons key rest ih =>
      rw [compareUnder, Ordering.then_eq_eq, ih,
        InfoValue.order_eq_eq_iff (left.get_sameKind right key)]
      simp [Ties]

/-- Along a list of keys the first difference decides. -/
theorem compareUnder_eq_lt_iff {keys : List InfoKey} {left right : Info} :
    left.compareUnder right keys = .lt ↔ RanksBelow keys left right := by
  induction keys with
  | nil => simp [compareUnder, RanksBelow]
  | cons key rest ih =>
      rw [compareUnder, Ordering.then_eq_lt, ih, InfoValue.order_eq_lt_iff,
        InfoValue.order_eq_eq_iff (left.get_sameKind right key)]
      constructor
      · rintro (precedes | ⟨same, before, decisive, after, rfl, agree, precedes⟩)
        · exact ⟨[], key, rest, rfl, by simp, precedes⟩
        · refine ⟨key :: before, decisive, after, rfl, ?_, precedes⟩
          intro earlier earlier_mem
          rcases List.mem_cons.mp earlier_mem with rfl | before_mem
          · exact same
          · exact agree earlier before_mem
      · rintro ⟨before, decisive, after, split, agree, precedes⟩
        cases before with
        | nil =>
            cases split
            exact Or.inl precedes
        | cons first before =>
            cases split
            right
            refine ⟨agree key (by simp), before, decisive, after, rfl, ?_, precedes⟩
            intro earlier earlier_mem
            exact agree earlier (by simp [earlier_mem])

/-- Values that tie lie between no two others: what is below and above a value is that value. -/
theorem order_eq_of_get_eq {key : InfoKey} {first second third : Info}
    (same : first.get key = third.get key)
    (below : ((first.get key).order (second.get key)).isLE)
    (below' : ((second.get key).order (third.get key)).isLE) :
    (first.get key).order (second.get key) = .eq ∧
      (second.get key).order (third.get key) = .eq := by
  rw [← same] at below' ⊢
  rw [InfoValue.order_swap (second.get key)] at below' ⊢
  cases order : (first.get key).order (second.get key) with
  | lt => simp [order] at below'
  | eq => simp
  | gt => simp [order] at below

theorem isLE_compareUnder_trans {keys : List InfoKey} {first second third : Info}
    (below : (first.compareUnder second keys).isLE)
    (below' : (second.compareUnder third keys).isLE) :
    (first.compareUnder third keys).isLE := by
  induction keys with
  | nil => rfl
  | cons key rest ih =>
      simp only [compareUnder, Ordering.isLE_then_iff_and] at below below' ⊢
      have headBelow := InfoValue.isLE_order_trans (first.get_sameKind second key)
        (second.get_sameKind third key) below.1 below'.1
      refine ⟨headBelow, ?_⟩
      cases headOrder : (first.get key).order (third.get key) with
      | lt => exact Or.inl rfl
      | eq =>
          have same := (InfoValue.order_eq_eq_iff (first.get_sameKind third key)).mp headOrder
          rcases order_eq_of_get_eq same below.1 below'.1 with ⟨tie, tie'⟩
          right
          apply ih
          · simpa [tie] using below.2
          · simpa [tie'] using below'.2
      | gt => simp [headOrder] at headBelow

instance (keys : List InfoKey) :
    Std.TransCmp fun left right : Info => left.compareUnder right keys where
  eq_swap := compareUnder_swap keys _ _
  isLE_trans := isLE_compareUnder_trans

theorem compareUnder_eq_lt_of_isLE_of_lt {keys : List InfoKey} {first second third : Info}
    (below : (first.compareUnder second keys).isLE) (less : second.compareUnder third keys = .lt) :
    first.compareUnder third keys = .lt :=
  @Std.TransCmp.lt_of_isLE_of_lt Info (fun left right => left.compareUnder right keys) _
    first second third below less

theorem isLE_compareUnder_of_ne_lt {keys : List InfoKey} {left right : Info}
    (notBelow : left.compareUnder right keys ≠ .lt) : (right.compareUnder left keys).isLE := by
  rw [compareUnder_swap]
  cases order : left.compareUnder right keys <;> simp_all

theorem isLE_compareUnder_iff {keys : List InfoKey} {left right : Info} :
    (left.compareUnder right keys).isLE ↔ RanksBelow keys left right ∨
      Ties keys left right := by
  rw [← compareUnder_eq_lt_iff, ← compareUnder_eq_eq_iff]
  cases left.compareUnder right keys <;> simp

/-- The keys that tie-break labels write. -/
def tieBreakKeys (tieBreak : List String) : List InfoKey :=
  tieBreak.filterMap InfoKey.ofLabel?

theorem tieBreakParts_eq_ok {info : Info} {tieBreak : List String} {parts : SortKey}
    (made : info.tieBreakParts tieBreak = .ok parts) :
    parts = (tieBreakKeys tieBreak).map info.get := by
  induction tieBreak generalizing parts with
  | nil =>
      cases made
      rfl
  | cons label rest ih =>
      simp only [tieBreakParts] at made
      cases known : InfoKey.ofLabel? label with
      | none => simp [known] at made
      | some key =>
          simp only [known, Outcome.map_eq_ok_iff] at made
          rcases made with ⟨others, made, rfl⟩
          simp [tieBreakKeys, known, ih made]

theorem order_map_get (left right : Info) (keys : List InfoKey) :
    SortKey.order (keys.map left.get) (keys.map right.get) = left.compareUnder right keys := by
  induction keys with
  | nil => rfl
  | cons key rest ih => simp only [List.map_cons, SortKey.order, compareUnder, ih]

/-- A comparison goes by name and episode first, and then along the tie-break keys. -/
theorem compareBy_eq_ok {tieBreak : List String} {left right : Info} {order : Ordering}
    (compared : compareBy tieBreak left right = .ok order) :
    order = left.compareUnder right (.name :: .ep :: tieBreakKeys tieBreak) := by
  simp only [compareBy, sortKey, bind, pure, Except.pure, Outcome.bind_eq_ok_iff,
    Outcome.map_eq_ok_iff] at compared
  obtain ⟨leftKey, ⟨leftParts, leftMade, rfl⟩, rightKey, ⟨rightParts, rightMade, rfl⟩,
      same⟩ := compared
  rw [tieBreakParts_eq_ok leftMade, tieBreakParts_eq_ok rightMade] at same
  rw [← order_map_get]
  exact (Except.ok.inj same).symm

/-- Two versions of one episode are compared along the tie-break keys alone. -/
theorem compareBy_eq_ok_of_identity_eq {tieBreak : List String} {left right : Info}
    {order : Ordering} (compared : compareBy tieBreak left right = .ok order)
    (sameEpisode : left.identity = right.identity) :
    order = left.compareUnder right (tieBreakKeys tieBreak) := by
  simp only [identity, Prod.mk.injEq] at sameEpisode
  rw [compareBy_eq_ok compared]
  simp [compareUnder, get, InfoValue.order, InfoValue.compareText_eq_compare, sameEpisode]

end Info

/-- Every text writes a key. -/
def InfoKey.AreLabels (labels : List String) : Prop :=
  ∀ label ∈ labels, ∃ key, ofLabel? label = some key

namespace Info

variable {tieBreak : List String}

theorem tieBreakParts_of_areLabels (labels : InfoKey.AreLabels tieBreak) (info : Info) :
    info.tieBreakParts tieBreak = .ok ((tieBreakKeys tieBreak).map info.get) := by
  induction tieBreak with
  | nil => rfl
  | cons label rest ih =>
      rcases List.forall_mem_cons.mp labels with ⟨⟨key, known⟩, others⟩
      simp only [tieBreakParts, known, ih others, tieBreakKeys, List.filterMap_cons, List.map_cons]
      rfl

theorem sortKey_of_areLabels (labels : InfoKey.AreLabels tieBreak) (info : Info) :
    info.sortKey tieBreak = .ok ((.name :: .ep :: tieBreakKeys tieBreak).map info.get) := by
  rw [sortKey, tieBreakParts_of_areLabels labels]
  rfl

theorem exists_compareBy_eq_ok (labels : InfoKey.AreLabels tieBreak) (left right : Info) :
    ∃ order, compareBy tieBreak left right = .ok order := by
  rw [compareBy, sortKey_of_areLabels labels left, sortKey_of_areLabels labels right]
  exact ⟨_, rfl⟩

/-- A comparison by keys that there are is the one along these keys. -/
theorem compareBy_of_areLabels (labels : InfoKey.AreLabels tieBreak) (left right : Info) :
    compareBy tieBreak left right =
      .ok (left.compareUnder right (.name :: .ep :: tieBreakKeys tieBreak)) := by
  rcases exists_compareBy_eq_ok labels left right with ⟨order, compared⟩
  rw [compared, compareBy_eq_ok compared]

end Info

end ReleaseWatch

import ReleaseWatch.Files.Tree
import ReleaseWatch.Proofs.Outcome

/-!
# Where files are written

A file that is written or moved changes the text at its own place and no other, and it changes no
directory. So written paths lead to the same places before and after it. A name without slashes,
joined to a path that leads to a directory, leads to a place directly below that directory.
-/

namespace ReleaseWatch

/--
Without the values under a key nothing is found under it, and elsewhere what was found before.
-/
theorem lookup_filter_ne {Key Content : Type} [BEq Key] [LawfulBEq Key] [DecidableEq Key]
    (items : List (Key × Content)) (key place : Key) :
    (items.filter (·.1 != key)).lookup place =
      if place = key then none else items.lookup place := by
  induction items with
  | nil => simp
  | cons first rest ih =>
      rcases first with ⟨known, content⟩
      rw [List.filter_cons, List.lookup_cons]
      split
      · next kept =>
          have known_ne : known ≠ key := by simpa using kept
          rw [List.lookup_cons, ih]
          by_cases found : place = known
          · subst found
            simp [known_ne]
          · have different : (place == known) = false := by simpa using found
            rw [different]
      · next dropped =>
          have known_eq : known = key := by simpa using dropped
          rw [ih, known_eq]
          by_cases same : place = key
          · simp [same]
          · have different : (place == key) = false := by simpa using same
            rw [different]

namespace Path

/-- A name that leads to something directly in a directory. -/
structure IsFileName (name : String) : Prop where
  noSlash : '/' ∉ name.toList
  isProper : isRelative name = false

/-- A joined path is a folder, without a slash at its end, and a name behind a slash. -/
theorem exists_toList_join {folder : String} (name : String) (named : folder ≠ "") :
    ∃ stem, (join folder name).toList = stem ++ '/' :: name.toList ∧
      (folder.toList = stem ∨ folder.toList = stem ++ ['/']) := by
  unfold join
  cases slash : folder.endsWith "/" with
  | true =>
      rw [String.endsWith_eq_endsWith_toSlice, String.Slice.endsWith_string_iff] at slash
      rcases slash with ⟨stem, stem_eq⟩
      have folder_eq : folder.toList = stem ++ ['/'] := by simpa using stem_eq.symm
      refine ⟨stem, ?_, Or.inr folder_eq⟩
      simp [folder_eq]
  | false =>
      refine ⟨folder.toList, ?_, Or.inl rfl⟩
      simp [named]

theorem folder_isPrefix_join {folder : String} (name : String) (named : folder ≠ "") :
    folder.toList <+: (join folder name).toList := by
  rcases exists_toList_join name named with ⟨stem, joined_eq, folder_eq⟩
  rw [joined_eq]
  rcases folder_eq with same | same <;> simp [same]

/-- A joined path begins at the root exactly if the folder does. -/
theorem isAbsolute_join_iff {folder : String} (name : String) (named : folder ≠ "") :
    ['/'] <+: (join folder name).toList ↔ ['/'] <+: folder.toList := by
  have isBeginning := folder_isPrefix_join name named
  constructor
  · intro isAbsolute
    apply List.prefix_of_prefix_length_le isAbsolute isBeginning
    rw [List.length_singleton, Nat.succ_le_iff, List.length_pos_iff]
    simpa using named
  · intro isAbsolute
    exact isAbsolute.trans isBeginning

/--
The names of a joined path are those of the folder,
but for a blank one at their end, and the last name.
-/
theorem exists_splitOn_join {folder name : String} (named : folder ≠ "")
    (noSlash : '/' ∉ name.toList) :
    ∃ before, (join folder name).toList.splitOn '/' = before ++ [name.toList] ∧
      (folder.toList.splitOn '/' = before ∨ folder.toList.splitOn '/' = before ++ [[]]) := by
  rcases exists_toList_join name named with ⟨stem, joined_eq, folder_eq⟩
  refine ⟨stem.splitOn '/', ?_, ?_⟩
  · rw [joined_eq, List.splitOn_append_cons_self, List.splitOn_eq_singleton noSlash]
  · rcases folder_eq with same | same
    · exact Or.inl (congrArg _ same)
    · rw [same, List.splitOn_append_cons_self, List.splitOn_nil]
      exact Or.inr rfl

end Path

namespace FileTree

open ReleaseWatch.Path (IsFileName)

variable {tree other after : FileTree} {path folder name text : String} {place file : Path}
    {start : Path} {names : List String}

theorem text?_put (tree : FileTree) (file : Path) (text : String) (place : Path) :
    (tree.put file text).text? place = if place = file then some text else tree.text? place := by
  unfold text? put remove
  rw [List.lookup_cons]
  by_cases same : place = file
  · simp [same]
  · have different : (place == file) = false := by simpa using same
    rw [different, if_neg same]
    dsimp only
    rw [lookup_filter_ne, if_neg same]

theorem text?_remove (tree : FileTree) (file place : Path) :
    (tree.remove file).text? place = if place = file then none else tree.text? place :=
  lookup_filter_ne tree.files file place

/-- Two trees have the same directories and the same working directory. -/
structure SameDirectories (tree other : FileTree) : Prop where
  home : other.home = tree.home
  directories : other.directories = tree.directories

namespace SameDirectories

theorem refl (tree : FileTree) : SameDirectories tree tree :=
  ⟨rfl, rfl⟩

theorem trans (first : SameDirectories tree other) (second : SameDirectories other after) :
    SameDirectories tree after :=
  ⟨second.home.trans first.home, second.directories.trans first.directories⟩

theorem symm (same : SameDirectories tree other) : SameDirectories other tree :=
  ⟨same.home.symm, same.directories.symm⟩

theorem isDirectory_eq (same : SameDirectories tree other) (place : Path) :
    other.isDirectory place = tree.isDirectory place := by
  unfold isDirectory
  rw [same.home, same.directories]

theorem route_eq (same : SameDirectories tree other) (path : String) :
    other.route path = tree.route path := by
  unfold route
  rw [same.home]

theorem enter_eq_ok {next : Path} (same : SameDirectories tree other)
    (entered : tree.enter place name = .ok next) :
    other.enter place name = .ok next := by
  unfold enter at entered ⊢
  rw [same.isDirectory_eq]
  cases isThere : tree.isDirectory (place ++ [name]) with
  | true => simpa only [isThere, if_true] using entered
  | false =>
      simp only [isThere, Bool.false_eq_true, if_false] at entered ⊢
      split at entered
      · next blank => rwa [if_pos blank]
      · next notBlank =>
          split at entered
          · next isUp => rwa [if_neg notBlank, if_pos isUp]
          · split at entered
            · cases entered
            · split at entered <;> cases entered

theorem enterAll_eq_ok {next : Path} (same : SameDirectories tree other)
    (entered : tree.enterAll place names = .ok next) : other.enterAll place names = .ok next := by
  induction names generalizing place with
  | nil => exact entered
  | cons name rest ih =>
      unfold enterAll at entered ⊢
      cases first : tree.enter place name with
      | error problem =>
          rw [first] at entered
          cases entered
      | ok middle =>
          rw [first] at entered
          rw [same.enter_eq_ok first]
          exact ih entered

end SameDirectories

theorem enterAll_append_eq_ok_iff {first second : List String} {next : Path} :
    tree.enterAll place (first ++ second) = .ok next ↔
      ∃ middle, tree.enterAll place first = .ok middle ∧
        tree.enterAll middle second = .ok next := by
  induction first generalizing place with
  | nil => simp [enterAll]
  | cons name rest ih =>
      simp only [List.cons_append, enterAll]
      cases tree.enter place name with
      | error problem => simp [bind, Except.bind]
      | ok middle => exact ih

theorem enterAll_concat_blank {next : Path} :
    tree.enterAll place (names ++ [""]) = .ok next ↔ tree.enterAll place names = .ok next := by
  rw [enterAll_append_eq_ok_iff]
  constructor
  · rintro ⟨middle, entered, stays⟩
    cases stays
    exact entered
  · intro entered
    exact ⟨next, entered, rfl⟩

/-- If a name leads anywhere, what it leads to does not depend on the tree. -/
theorem eq_of_enter {next : Path} (entered : tree.enter place name = .ok next) :
    next =
      if name = "" ∨ name = "." then place
      else if name = ".." then place.dropLast
      else place ++ [name] := by
  unfold enter at entered
  split at entered
  · next stays =>
      cases entered
      rw [if_pos (by simpa using stays)]
  · next moves =>
      rw [if_neg (by simpa using moves)]
      split at entered
      · next isUp =>
          cases entered
          rw [if_pos isUp]
      · next isDown =>
          rw [if_neg isDown]
          split at entered
          · cases entered
          · split at entered
            · cases entered
              rfl
            · split at entered <;> cases entered

theorem enterAll_unique {next found : Path} (entered : tree.enterAll place names = .ok next)
    (entered' : other.enterAll place names = .ok found) : next = found := by
  induction names generalizing place with
  | nil =>
      cases entered
      cases entered'
      rfl
  | cons name rest ih =>
      unfold enterAll at entered entered'
      cases first : tree.enter place name with
      | error problem =>
          rw [first] at entered
          cases entered
      | ok middle =>
          cases first' : other.enter place name with
          | error problem =>
              rw [first'] at entered'
              cases entered'
          | ok middle' =>
              rw [first] at entered
              rw [first', ← (eq_of_enter first).trans (eq_of_enter first').symm] at entered'
              exact ih entered entered'

/-- A written path leads to a directory. -/
def LeadsTo (tree : FileTree) (path : String) (place : Path) : Prop :=
  ∃ start names, tree.route path = .ok (start, names) ∧ tree.enterAll start names = .ok place

theorem leadsTo_iff (routed : tree.route path = .ok (start, names)) :
    tree.LeadsTo path place ↔ tree.enterAll start names = .ok place := by
  constructor
  · rintro ⟨start', names', routed', entered⟩
    cases routed.symm.trans routed'
    exact entered
  · intro entered
    exact ⟨start, names, routed, entered⟩

theorem LeadsTo.unique {found : Path} (leads : tree.LeadsTo path place)
    (leads' : tree.LeadsTo path found) :
    place = found := by
  rcases leads with ⟨start, names, routed, entered⟩
  cases entered.symm.trans ((leadsTo_iff routed).mp leads')
  rfl

theorem LeadsTo.of_sameDirectories (leads : tree.LeadsTo path place)
    (same : SameDirectories tree other) :
    other.LeadsTo path place := by
  rcases leads with ⟨start, names, routed, entered⟩
  exact ⟨start, names, (same.route_eq path).trans routed, same.enterAll_eq_ok entered⟩

theorem route_eq_ok_iff :
    tree.route path = .ok (start, names) ↔
      '\x00' ∉ path.toList ∧ path ≠ "" ∧
      start = (if ['/'] <+: path.toList then [] else tree.home) ∧
        names = (path.toList.splitOn '/').map String.ofList := by
  unfold route
  by_cases null : '\x00' ∈ path.toList
  · simp [null]
  · by_cases empty : path = ""
    · simp [empty]
    · have isAbsolute : path.startsWith "/" = true ↔ ['/'] <+: path.toList :=
        String.startsWith_string_iff
      simp [null, empty, isAbsolute, @eq_comm _ start, @eq_comm _ names]

/-- What leads to a name in a folder leads to the folder. -/
theorem exists_route_join (named : folder ≠ "") (isName : IsFileName name)
    (routed : tree.route (Path.join folder name) = .ok (start, names)) :
    ∃ before, names = before ++ [name] ∧ ∀ place, tree.enterAll start before = .ok place ↔
      tree.LeadsTo folder place := by
  rcases Path.exists_splitOn_join named isName.noSlash with ⟨before, joined_split, folder_split⟩
  rcases route_eq_ok_iff.mp routed with ⟨noNull, _, start_eq, names_eq⟩
  have folder_routed : tree.route folder =
      .ok (start, (folder.toList.splitOn '/').map String.ofList) := by
    apply route_eq_ok_iff.mpr
    refine ⟨fun null => noNull ((Path.folder_isPrefix_join name named).subset null),
      named, ?_, rfl⟩
    rw [start_eq]
    simp only [Path.isAbsolute_join_iff name named]
  refine ⟨before.map String.ofList, ?_, ?_⟩
  · rw [names_eq, joined_split]
    simp
  · intro place
    rw [leadsTo_iff folder_routed]
    rcases folder_split with same | same
    · rw [same]
    · rw [same, List.map_append]
      exact enterAll_concat_blank.symm

theorem landing_eq_ok_iff :
    tree.landing path = .ok file ↔
      ∃ start names last before place, tree.route path = .ok (start, names) ∧
        names.reverse.dropWhile (· = "") = last :: before ∧
        tree.enterAll start before.reverse = .ok place ∧
        Path.isRelative last = false ∧ path.endsWith "/" = false ∧ file = place ++ [last] := by
  unfold landing
  cases tree.route path with
  | error failure => simp [bind, Except.bind]
  | ok reached =>
      rcases reached with ⟨start, names⟩
      cases trimmed : names.reverse.dropWhile (· = "") with
      | nil => simp [bind, Except.bind, trimmed]
      | cons last before =>
          cases entered : tree.enterAll start before.reverse with
          | error problem => simp [bind, Except.bind, trimmed, entered, failing]
          | ok place =>
              cases relative : Path.isRelative last with
              | true => simp [bind, Except.bind, trimmed, entered, failing, relative]
              | false =>
                  cases path.endsWith "/" with
                  | true => simp [bind, Except.bind, trimmed, entered, failing, relative]
                  | false =>
                      simp [bind, Except.bind, trimmed, entered, failing, relative,
                        @eq_comm _ file, and_assoc]

theorem writable_eq_ok_iff :
    tree.writable path = .ok file ↔
      tree.landing path = .ok file ∧ file.any Path.isTooLong = false ∧
      tree.isDirectory file = false := by
  unfold writable
  cases tree.landing path with
  | error failure => simp [bind, Except.bind]
  | ok found =>
      dsimp only [bind, Except.bind]
      constructor
      · intro landed
        split at landed
        · cases landed
        · next short =>
            split at landed
            · cases landed
            · next free =>
                cases landed
                exact ⟨rfl, eq_false_of_ne_true short, eq_false_of_ne_true free⟩
      · rintro ⟨same, short, free⟩
        cases same
        rw [short, free]
        rfl

theorem writable_eq_ok_of_sameDirectories (same : SameDirectories tree other)
    (written : tree.writable path = .ok file) :
    other.writable path = .ok file := by
  rcases writable_eq_ok_iff.mp written with ⟨landed, short, free⟩
  rcases landing_eq_ok_iff.mp landed with
    ⟨start, names, last, before, place, routed, trimmed, entered, rest⟩
  have landed' : other.landing path = .ok file :=
    landing_eq_ok_iff.mpr ⟨start, names, last, before, place, (same.route_eq path).trans routed,
      trimmed, same.enterAll_eq_ok entered, rest⟩
  exact writable_eq_ok_iff.mpr ⟨landed', short, (same.isDirectory_eq file).trans free⟩

/-- A written path leads to one file at most, whichever directories there are on the way. -/
theorem writable_unique {file file' : Path} (sameHome : other.home = tree.home)
    (written : tree.writable path = .ok file)
    (written' : other.writable path = .ok file') : file = file' := by
  rcases landing_eq_ok_iff.mp (writable_eq_ok_iff.mp written).1 with
    ⟨start, names, last, before, place, routed, trimmed, entered, _, _, rfl⟩
  rcases landing_eq_ok_iff.mp (writable_eq_ok_iff.mp written').1 with
    ⟨start', names', last', before', place', routed', trimmed', entered', _, _, rfl⟩
  have sameRoute : other.route path = tree.route path := by
    unfold route
    rw [sameHome]
  cases routed.symm.trans (sameRoute.symm.trans routed')
  cases trimmed.symm.trans trimmed'
  rw [enterAll_unique entered entered']

theorem text?_of_find {before : List String}
    (routed : tree.route path = .ok (start, before ++ [name]))
    (entered : tree.enterAll start before = .ok place) (found : tree.find path = .ok (.file text)) :
    tree.text? (place ++ [name]) = some text := by
  unfold find at found
  rw [routed] at found
  dsimp only [bind, Except.bind] at found
  split at found
  · cases found
  · rw [List.reverse_concat] at found
    dsimp only at found
    rw [List.reverse_reverse, entered] at found
    dsimp only [failing] at found
    split at found
    · next content isThere =>
        cases found
        exact isThere
    · cases found

theorem exists_leadsTo_of_writable_join (named : folder ≠ "") (isName : IsFileName name)
    (written : tree.writable (Path.join folder name) = .ok file) :
    ∃ place, tree.LeadsTo folder place ∧ file = place ++ [name] := by
  rcases landing_eq_ok_iff.mp (writable_eq_ok_iff.mp written).1 with
    ⟨start, names, last, reversed, place, routed, trimmed, entered, _, _, rfl⟩
  rcases exists_route_join named isName routed with ⟨before, rfl, leads_iff⟩
  have notEmpty : name ≠ "" := by
    rintro rfl
    cases isName.isProper
  have isLast : name :: before.reverse = last :: reversed := by simpa [notEmpty] using trimmed
  cases isLast
  rw [List.reverse_reverse] at entered
  exact ⟨place, (leads_iff place).mp entered, rfl⟩

theorem text?_of_read_join (named : folder ≠ "") (isName : IsFileName name)
    (leads : tree.LeadsTo folder place) (found : tree.read (Path.join folder name) = .ok text) :
    tree.text? (place ++ [name]) = some text := by
  rcases Outcome.bind_eq_ok_iff.mp found with ⟨reached, isThere, isText⟩
  cases reached with
  | directory => cases isText
  | file content =>
      cases isText
      rcases Outcome.bind_eq_ok_iff.mp isThere with ⟨⟨start, names⟩, routed, _⟩
      rcases exists_route_join named isName routed with ⟨before, rfl, leads_iff⟩
      exact text?_of_find routed ((leads_iff place).mpr leads) isThere

theorem write_eq_ok_iff :
    tree.write path text = .ok other ↔ ∃ file, tree.writable path = .ok file ∧
    tree.put file text = other := by
  unfold write
  exact Outcome.map_eq_ok_iff

theorem append_eq_ok_iff :
    tree.append path text = .ok other ↔
      ∃ file, tree.writable path = .ok file ∧
        tree.put file ((tree.text? file).getD "" ++ text) = other := by
  unfold append
  exact Outcome.map_eq_ok_iff

theorem move_eq_ok_iff {source target : String} :
    tree.move source target = .ok other ↔
      ∃ text origin file, tree.read source = .ok text ∧ tree.writable source = .ok origin ∧
        tree.writable target = .ok file ∧ (tree.remove origin).put file text = other := by
  constructor
  · intro moved
    rcases Outcome.bind_eq_ok_iff.mp moved with ⟨text, found, rest⟩
    rcases Outcome.bind_eq_ok_iff.mp rest with ⟨origin, taken, rest⟩
    rcases Outcome.map_eq_ok_iff.mp rest with ⟨file, placed, same⟩
    exact ⟨text, origin, file, found, taken, placed, same⟩
  · rintro ⟨text, origin, file, found, taken, placed, rfl⟩
    unfold move
    rw [found, taken, placed]
    rfl

theorem home_makeAlong {made : FileTree} (isMade : tree.makeAlong place names = .ok made) :
    made.home = tree.home := by
  induction names generalizing tree place with
  | nil =>
      cases isMade
      rfl
  | cons name rest ih =>
      unfold makeAlong at isMade
      split at isMade
      · exact ih isMade
      · exact (ih isMade).trans rfl
      · cases isMade
      · cases isMade

theorem home_makeDirectories {made : FileTree} (isMade : tree.makeDirectories path = .ok made) :
    made.home = tree.home := by
  rcases Outcome.bind_eq_ok_iff.mp isMade with ⟨⟨start, names⟩, _, along⟩
  dsimp only at along
  cases ran : tree.makeAlong start names with
  | error problem =>
      rw [ran] at along
      cases along
  | ok other =>
      rw [ran] at along
      cases along
      exact home_makeAlong ran

/-- A tree differs from another one in the texts at some places only. -/
structure ChangesOnly (places : Path → Prop) (tree other : FileTree) : Prop where
  sameDirectories : SameDirectories tree other
  text?_eq : ∀ place, ¬places place → other.text? place = tree.text? place

namespace ChangesOnly

variable {begun : FileTree} {places wider : Path → Prop}

theorem refl (places : Path → Prop) (tree : FileTree) : ChangesOnly places tree tree :=
  ⟨.refl tree, fun _ _ => rfl⟩

theorem trans (first : ChangesOnly places tree other) (second : ChangesOnly places other after) :
    ChangesOnly places tree after :=
  ⟨first.sameDirectories.trans second.sameDirectories,
    fun place outside => (second.text?_eq place outside).trans (first.text?_eq place outside)⟩

theorem mono (changes : ChangesOnly places tree other)
    (isWider : ∀ place, places place → wider place) :
    ChangesOnly wider tree other :=
  ⟨changes.sameDirectories, fun place outside => changes.text?_eq place fun inside =>
    outside (isWider place inside)⟩

theorem put (inside : places file) (text : String) :
    ChangesOnly places tree (tree.put file text) := by
  refine ⟨⟨rfl, rfl⟩, ?_⟩
  intro place outside
  rw [text?_put, if_neg]
  rintro rfl
  exact outside inside

theorem remove (inside : places file) : ChangesOnly places tree (tree.remove file) := by
  refine ⟨⟨rfl, rfl⟩, ?_⟩
  intro place outside
  rw [text?_remove, if_neg]
  rintro rfl
  exact outside inside

theorem inside_of_writable (changes : ChangesOnly places begun tree)
    (inside : ∀ file, begun.writable path = .ok file → places file)
    (written : tree.writable path = .ok file) :
    places file :=
  inside file (writable_eq_ok_of_sameDirectories changes.sameDirectories.symm written)

theorem write (changes : ChangesOnly places begun tree)
    (inside : ∀ file, begun.writable path = .ok file → places file)
    (written : tree.write path text = .ok other) : ChangesOnly places begun other := by
  rcases write_eq_ok_iff.mp written with ⟨file, isWritable, rfl⟩
  exact changes.trans (.put (changes.inside_of_writable inside isWritable) text)

theorem append (changes : ChangesOnly places begun tree)
    (inside : ∀ file, begun.writable path = .ok file → places file)
    (appended : tree.append path text = .ok other) : ChangesOnly places begun other := by
  rcases append_eq_ok_iff.mp appended with ⟨file, isWritable, rfl⟩
  exact changes.trans (.put (changes.inside_of_writable inside isWritable) _)

end ChangesOnly

/-- A file that is written under one name and then moved to another one is in the place of that. -/
theorem exists_of_write_of_move {part : String} (named : folder ≠ "") (isName : IsFileName name)
    (isPart : IsFileName part) (differ : part ≠ name)
    (written : tree.write (Path.join folder part) text = .ok other)
    (moved : other.move (Path.join folder part) (Path.join folder name) = .ok after) :
    ∃ place, tree.LeadsTo folder place ∧
      ChangesOnly (fun file => file = place ++ [name] ∨ file = place ++ [part]) tree after ∧
      after.text? (place ++ [name]) = some text ∧ after.text? (place ++ [part]) = none ∧
      after.isDirectory (place ++ [part]) = false := by
  rcases write_eq_ok_iff.mp written with ⟨file, isWritable, rfl⟩
  rcases exists_leadsTo_of_writable_join named isPart isWritable with ⟨place, leads, rfl⟩
  have same : SameDirectories tree (tree.put (place ++ [part]) text) := ⟨rfl, rfl⟩
  rcases move_eq_ok_iff.mp moved with ⟨content, origin, target, found, taken, placed, rfl⟩
  rcases exists_leadsTo_of_writable_join named isPart taken with ⟨_, leads', rfl⟩
  rcases exists_leadsTo_of_writable_join named isName placed with ⟨_, leads'', rfl⟩
  cases leads'.unique (leads.of_sameDirectories same)
  cases leads''.unique (leads.of_sameDirectories same)
  have content_eq : content = text := by
    have there := text?_of_read_join named isPart leads' found
    rw [text?_put, if_pos rfl] at there
    exact (Option.some.inj there).symm
  have partDiffers : place ++ [part] ≠ place ++ [name] := by simpa using differ
  refine ⟨place, leads, ?_, ?_, ?_, (writable_eq_ok_iff.mp isWritable).2.2⟩
  · refine .trans (.put (Or.inr rfl) text)
      (.trans (.remove (Or.inr rfl)) (.put (Or.inl rfl) content))
  · rw [text?_put, if_pos rfl, content_eq]
  · rw [text?_put, if_neg partDiffers, text?_remove, if_pos rfl]

end FileTree

end ReleaseWatch

import ProxSync.History.Artifact
import ProxSync.Inventory.Service
import ProxSync.Lib.OrderedDict
/-!
# The import of archives on the host

Every sample of the storage imports the archives of the host that the history does not know. What it
knows is read through a search that is limited and leaves deleted rows out, while the database
refuses two rows of one storage and name whatever their status. The rows of an import are committed
together, so one that is refused takes the others with it, and does so again at the next sample.
-/
open ProxSync.Lib ProxSync.Retention ProxSync.Inventory

namespace ProxSync.Storage.Import

/-! ## Rows and archives -/

/-- How a backup was taken. -/
inductive BackupMode
  | snapshot
  | suspend
  | stop
  deriving DecidableEq, Repr

/-- How an archive is compressed. -/
inductive Compression
  | zstd
  | gzip
  | lzo
  | none
  deriving DecidableEq, Repr

/-- A row of the history with the columns that only an import sets. -/
structure HistoryRow extends BackupHistory where
  guestId : Option ℕ
  mode : BackupMode
  compression : Compression
  deriving DecidableEq, Repr

/-- The rows of the history. -/
abbrev History := Table fun row : HistoryRow => row.id

/-- An archive the host lists. The number of its guest is read off at most nine digits of its name,
and its size off the file. -/
structure HostArtifact extends History.AgentArtifact where
  compression : Compression
  filename_nonempty : filename ≠ ""
  vmid_bounded : vmid < 10 ^ 9
  sizeBytes_bounded : 0 ≤ sizeBytes ∧ sizeBytes < 2 ^ 63
  deriving DecidableEq

/-- What the host lists: no two archives have one name. -/
structure Listing where
  artifacts : List HostArtifact
  distinct : (artifacts.map fun artifact => artifact.filename).Nodup

/-! ## The search of the history -/

/-- What a search asks for. -/
structure HistoryFilter where
  vmid : Option ℕ := none
  guestType : Option GuestType := none
  status : Option BackupStatus := none
  uploadStatus : Option UploadStatus := none
  runId : Option ℕ := none
  since : Option Instant := none
  until_ : Option Instant := none
  query : Option String := none
  includeDeleted : Bool := false

/-- Whether a search lists a row; deleted rows are out of the default view. -/
def filtered (filter : HistoryFilter) (record : HistoryRow) : Bool :=
  filter.vmid.all (record.vmid == ·) &&
    filter.guestType.all (record.guestType == ·) &&
    filter.status.all (record.status == ·) &&
    filter.uploadStatus.all (record.uploadStatus == ·) &&
    filter.runId.all (record.runId == some ·) &&
    filter.since.all (fun since => record.startedAt.any fun start => decide (since ≤ start)) &&
    filter.until_.all (fun last => record.startedAt.any fun start => decide (start ≤ last)) &&
    (filter.includeDeleted || record.status != .deleted) &&
    filter.query.all fun query => History.matchesQuery query record.toBackupHistory

/-- Newest first, as rows of the history are ordered. -/
def newest (first second : HistoryRow) : Bool :=
  newestFirst first.toBackupHistory second.toBackupHistory

/-- The rows in the order of a search. -/
def ordered (records : List HistoryRow) : List HistoryRow :=
  records.insertionSort (Order.Preimage HistoryRow.toBackupHistory NotAfter)

/-- A part of the rows that a search lists. -/
def search (history : History) (filter : HistoryFilter) (limit offset : ℕ) : List HistoryRow :=
  ((ordered (history.rows.filter (filtered filter))).drop offset).take limit

/-! ## The import -/

/-- The row of an archive that is imported. -/
def createArtifactHistoryRecord (art : HostArtifact) (nodeName : String)
    (guestObj : Option Guest) (id : ℕ) : HistoryRow where
  toBackupHistory :=
    { BackupHistory.create id none
        ⟨art.vmid, art.guestType,
          guestObj.elim (History.importedName art.toAgentArtifact) Guest.name, nodeName⟩
        "hdd_3tb" .notRequired art.createdAt with
      filename := some art.filename
      localPath := some art.path
      sizeBytes := some art.sizeBytes
      checksumSha256 := art.checksumSha256
      status := .success
      finishedAt := some art.createdAt }
  guestId := guestObj.map Guest.id
  mode := .snapshot
  compression := art.compression

/-- Whether a number fits into an integer column. -/
def fitsColumn (number : ℤ) : Bool := decide (-2 ^ 63 ≤ number ∧ number < 2 ^ 63)

/-- Whether the database takes a row: its numbers fit, and no row has its storage and name. -/
def storable (history : History) (row : HistoryRow) : Bool :=
  fitsColumn row.vmid && row.sizeBytes.all fitsColumn &&
    history.rows.all fun other => !(other.storage == row.storage && other.filename.isSome &&
      other.filename == row.filename)

/-- The guests by number and type. -/
abbrev GuestsByKey := OrderedDict (ℤ × GuestType) Guest

/-- The guests in the order of their numbers; those of one number are in the order of their rows. -/
def listAll (guests : Guests) : List Guest :=
  guests.table.rows.insertionSort fun first second => first.vmid ≤ second.vmid

/-- The last guest of each number and type. -/
def allGuests (guests : Guests) : GuestsByKey :=
  (listAll guests).foldl (fun known guest =>
    OrderedDict.assign known (guest.vmid, guest.guestType) guest) ∅

/-- Store the row of an archive, unless the database refuses it. -/
def add (nodeName : String) (known : GuestsByKey) (history : History) (art : HostArtifact) :
    Option History :=
  let record := createArtifactHistoryRecord art nodeName
    (known.lookup ((art.vmid : ℤ), art.guestType))
  if storable history (record history.nextKey) then some (history.append record fun _ => rfl)
  else none

/-- The names that the import takes to be known. -/
def existing (history : History) : List String :=
  (search history {} 10000 0).filterMap fun item => item.filename.filter (· ≠ "")

/-- The archives that the import takes to be new. -/
def unknown (artifacts : List HostArtifact) (history : History) : List HostArtifact :=
  artifacts.filter fun art => art.filename ∉ existing history

/-- Import what the host lists. A row that is refused rolls the transaction back, and the exception
is logged. -/
def syncDiskArtifacts (node : String) (guests : Guests) (artifacts : List HostArtifact)
    (history : History) : History :=
  let nodeName := if node = "" then "server" else node
  let committed := (unknown artifacts history).foldlM (add nodeName (allGuests guests)) history
  committed.getD history

/-! ## What the import promises -/

/-- Whether a row has a name in the storage of imported rows. -/
def clashes (name : String) (row : HistoryRow) : Bool :=
  row.storage == "hdd_3tb" && row.filename == some name

/-- Whether a row that is not deleted carries a name. -/
def Named (history : History) (name : String) : Prop :=
  ∃ row ∈ history, row.status ≠ .deleted ∧ row.filename = some name

/-- Whether the storage of imported rows has a row of a name, of any status. -/
def Taken (history : History) (name : String) : Prop := ∃ row ∈ history, clashes name row = true

/-- An import of a listing did what it is for. -/
structure Imported (node : String) (guests : Guests) (listing : Listing)
    (before after : History) : Prop where
  /-- Every listed archive is named by a row that is not deleted. -/
  named : ∀ art ∈ listing.artifacts, Named after art.filename
  /-- No name that such a row carried gained another row. -/
  once : ∀ name, Named before name →
    after.rows.countP (·.filename == some name) = before.rows.countP (·.filename == some name)
  kept : ∀ row ∈ before, row ∈ after
  /-- The next import of the listing changes nothing. -/
  settled : syncDiskArtifacts node guests listing.artifacts after = after
  /-- What can be imported alone is not kept out by the others. -/
  spared : ∀ art ∈ listing.artifacts,
    Named (syncDiskArtifacts node guests [art] before) art.filename → Named after art.filename

/-! ## When the import keeps its promise -/

/-- The rows of the default view. -/
def live (history : History) : List HistoryRow :=
  history.rows.filter fun row => row.status != .deleted

/-- How many rows come before a row once the archives that are new are imported. -/
def behind (artifacts : List HostArtifact) (history : History) (row : HistoryRow) : ℕ :=
  rankIn newest (live history) row +
    (unknown artifacts history).countP fun art => row.startedAt.all (· ≤ art.createdAt)

/-- Whether a name stays within the newest rows once the archives that are new are imported. -/
def Stays (artifacts : List HostArtifact) (history : History) (name : String) : Prop :=
  ∃ row ∈ live history, row.filename = some name ∧ behind artifacts history row < 10000

/-- Whether the archives that are new do not fit into the newest rows themselves: behind the oldest
one there is no place left. -/
def Crowded (artifacts : List HostArtifact) (history : History) : Prop :=
  ∃ art ∈ unknown artifacts history,
    (∀ other ∈ unknown artifacts history, art.createdAt ≤ other.createdAt) ∧
      10000 < (live history).countP (fun row => row.startedAt.any (art.createdAt < ·)) +
        (unknown artifacts history).length

/-- Whether every new name is free and the known ones stay known, or the next import is refused as a
whole. -/
def Fits (artifacts : List HostArtifact) (history : History) : Prop :=
  (∀ art ∈ unknown artifacts history,
    ¬ Named history art.filename ∧ ¬ Taken history art.filename) ∧
  (Crowded artifacts history ∨
    (∀ art ∈ artifacts, art.filename ∈ existing history →
      Stays artifacts history art.filename) ∨
    ∃ art ∈ artifacts, art.filename ∈ existing history ∧ Taken history art.filename ∧
      ¬ Stays artifacts history art.filename)

/-- Whether the import is refused as a whole and has nothing to add, as older rows carry the names
that it takes to be new. -/
def Covered (artifacts : List HostArtifact) (history : History) : Prop :=
  (∃ art ∈ unknown artifacts history, Taken history art.filename) ∧
    ∀ art ∈ unknown artifacts history, Named history art.filename

section Search

variable {history : History} {name : String}

/-- Of two rows only one is the newer one. -/
theorem newest_asymmetric (first second : HistoryRow) (before : newest first second = true) :
    newest second first = false :=
  newestFirst_asymmetric _ _ before

/-- A row that is newer than a newer one is newer. -/
theorem newest_transitive (first second third : HistoryRow) (before : newest first second = true)
    (after : newest second third = true) : newest first third = true := by
  simp only [newest, newestFirst, decide_eq_true_eq] at before after ⊢
  omega

/-- Ordering the rows keeps them all. -/
theorem ordered_perm (records : List HistoryRow) : (ordered records).Perm records :=
  List.perm_insertionSort _ _

/-- Rows of a table are ordered strictly. -/
theorem ordered_sorted {records : List HistoryRow}
    (distinct : records.Pairwise fun first second => first.id ≠ second.id) :
    (ordered records).Pairwise fun first second => newest first second = true := by
  have apart : (ordered records).Pairwise fun first second => first.id ≠ second.id :=
    ((ordered_perm records).pairwise_iff fun different => different.symm).mpr distinct
  have weak : (ordered records).Pairwise (Order.Preimage HistoryRow.toBackupHistory NotAfter) :=
    List.pairwise_insertionSort _ _
  exact (apart.and weak).imp fun both => newestFirst_total both.1 both.2

/-- Rows of the default view have different keys. -/
theorem live_distinct : (live history).Pairwise fun first second => first.id ≠ second.id :=
  (history.ascending.imp fun below => below.ne).filter _

/-- The live rows are those that are not deleted. -/
theorem mem_live {row : HistoryRow} :
    row ∈ live history ↔ row ∈ history ∧ row.status ≠ .deleted := by
  simp [live, Table.mem_iff]

/-- A name is one of a live row. -/
theorem named_iff : Named history name ↔ ∃ row ∈ live history, row.filename = some name := by
  simp only [Named, mem_live, and_assoc]

/-- The search of the import lists the newest rows of the default view. -/
theorem search_default (limit : ℕ) :
    search history {} limit 0 = (ordered (live history)).take limit := by
  have whole : filtered {} = fun row => row.status != .deleted := by
    funext row
    simp [filtered]
  simp only [search, whole, live, List.drop_zero]

/-- A name is known exactly where one of the newest rows of the default view carries it. -/
theorem mem_existing (nonempty : name ≠ "") : name ∈ existing history ↔
    ∃ row ∈ live history, row.filename = some name ∧ rankIn newest (live history) row < 10000 := by
  have sorted := ordered_sorted (@live_distinct history)
  have reordered := ordered_perm (live history)
  have listed : ∀ row, row ∈ (ordered (live history)).take 10000 ↔
      row ∈ live history ∧ rankIn newest (live history) row < 10000 := by
    intro row
    rw [mem_take_iff_rankIn newest_asymmetric sorted, reordered.mem_iff, rankIn_perm reordered]
  simp only [existing, search_default, List.mem_filterMap, listed, Option.filter_eq_some_iff,
    decide_eq_true_eq]
  constructor
  · rintro ⟨row, ⟨inside, close⟩, carries, _⟩
    exact ⟨row, inside, carries, close⟩
  · rintro ⟨row, inside, carries, close⟩
    exact ⟨row, ⟨inside, close⟩, carries, nonempty⟩

/-- A known name that is not empty is one of a live row. -/
theorem named_of_mem_existing (nonempty : name ≠ "") (known : name ∈ existing history) :
    Named history name := by
  obtain ⟨row, inside, carries, _⟩ := (mem_existing nonempty).mp known
  exact named_iff.mpr ⟨row, inside, carries⟩

end Search

/-! ## The rows of a commit -/

/-- What the row of an imported archive is. -/
structure Records (art : HostArtifact) (row : HistoryRow) : Prop where
  filename : row.filename = some art.filename
  storage : row.storage = "hdd_3tb"
  status : row.status = .success
  startedAt : row.startedAt = some art.createdAt

section Commit

variable (nodeName : String) (known : GuestsByKey) {name : String} {history : History}
  {artifacts : List HostArtifact} {art : HostArtifact}

/-- The row that is made for an artifact records it. -/
theorem records (guestObj : Option Guest) (id : ℕ) :
    Records art (createArtifactHistoryRecord art nodeName guestObj id) :=
  ⟨rfl, rfl, rfl, rfl⟩

/-- A row is refused exactly where its name is taken; its numbers fit. -/
theorem storable_iff (guestObj : Option Guest) (id : ℕ) :
    storable history (createArtifactHistoryRecord art nodeName guestObj id) = true ↔
      ¬ Taken history art.filename := by
  have vmid : fitsColumn (art.vmid : ℤ) = true := by
    have bounded := art.vmid_bounded
    simp only [fitsColumn, decide_eq_true_eq]
    omega
  have size : fitsColumn art.sizeBytes = true := by
    have bounded := art.sizeBytes_bounded
    simp only [fitsColumn, decide_eq_true_eq]
    omega
  have fits : storable history (createArtifactHistoryRecord art nodeName guestObj id) =
      history.rows.all fun other => !(other.storage == "hdd_3tb" && other.filename.isSome &&
        other.filename == some art.filename) := by
    change (fitsColumn art.vmid && fitsColumn art.sizeBytes && _) = _
    rw [vmid, size]
    rfl
  rw [fits, List.all_eq_true]
  have same : ∀ other : HistoryRow,
      (!(other.storage == "hdd_3tb" && other.filename.isSome &&
        other.filename == some art.filename)) = !clashes art.filename other := by
    intro other
    cases carried : other.filename <;> simp [clashes, carried]
  simp only [same, Taken, Table.mem_iff, not_exists, not_and, Bool.not_eq_true, Bool.not_eq_true']

/-- An artifact whose name is taken is not added. -/
theorem add_of_taken (taken : Taken history art.filename) :
    add nodeName known history art = none := by
  unfold add
  rw [if_neg]
  rw [storable_iff]
  exact not_not_intro taken

/-- An artifact whose name is free is added as one row. -/
theorem add_of_free (free : ¬ Taken history art.filename) :
    ∃ next row, add nodeName known history art = some next ∧ Records art row ∧
      next.rows = history.rows ++ [row] := by
  unfold add
  rw [if_pos ((storable_iff _ _ _).mpr free)]
  exact ⟨_, _, rfl, records _ _ _, rfl⟩

/-- Rows and archives that are told apart by the same tests are equally many. -/
theorem countP_of_records {rows : List HistoryRow} {ofArt : HostArtifact → Bool}
    {ofRow : HistoryRow → Bool} (recorded : List.Forall₂ Records artifacts rows)
    (same : ∀ art, ∀ row ∈ rows, Records art row → ofRow row = ofArt art) :
    rows.countP ofRow = artifacts.countP ofArt := by
  induction recorded with
  | nil => rfl
  | cons first _ ih =>
    rw [List.countP_cons, List.countP_cons, same _ _ List.mem_cons_self first,
      ih fun art row inside => same art row (List.mem_cons_of_mem _ inside)]

/-- A row with a property was recorded exactly when an artifact has it. -/
theorem exists_of_records {rows : List HistoryRow} {ofArt : HostArtifact → Bool}
    {ofRow : HistoryRow → Bool} (recorded : List.Forall₂ Records artifacts rows)
    (same : ∀ art, ∀ row ∈ rows, Records art row → ofRow row = ofArt art) :
    (∃ row ∈ rows, ofRow row = true) ↔ ∃ art ∈ artifacts, ofArt art = true := by
  rw [← List.countP_pos_iff, ← List.countP_pos_iff, countP_of_records recorded same]

/-- Rows that are added take the names of their archives. -/
theorem taken_of_split {after : History} {rows : List HistoryRow}
    (split : after.rows = history.rows ++ rows) (recorded : List.Forall₂ Records artifacts rows) :
    Taken after name ↔ Taken history name ∨ ∃ art ∈ artifacts, art.filename = name := by
  have same : ∀ art, ∀ row ∈ rows, Records art row →
      clashes name row = (art.filename == name) := by
    intro art row _ recorded
    simp [clashes, recorded.storage, recorded.filename]
  have added := exists_of_records recorded same
  simp only [beq_iff_eq] at added
  simp only [Taken, Table.mem_iff, split, List.mem_append, or_and_right, exists_or, added]

/-- A commit none of whose names is taken stores a row for each archive. -/
theorem commit_of_free (distinct : (artifacts.map fun art => art.filename).Nodup)
    (free : ∀ art ∈ artifacts, ¬ Taken history art.filename) :
    ∃ after rows, artifacts.foldlM (add nodeName known) history = some after ∧
      List.Forall₂ Records artifacts rows ∧ after.rows = history.rows ++ rows := by
  induction artifacts generalizing history with
  | nil => exact ⟨history, [], rfl, .nil, (List.append_nil _).symm⟩
  | cons art rest ih =>
    rw [List.map_cons, List.nodup_cons] at distinct
    obtain ⟨next, row, added, recorded, split⟩ :=
      add_of_free nodeName known (free art List.mem_cons_self)
    have open_ : ∀ other ∈ rest, ¬ Taken next other.filename := by
      intro other later taken
      rw [taken_of_split split (.cons recorded .nil)] at taken
      rcases taken with before | ⟨same, inside, equal⟩
      · exact free other (List.mem_cons_of_mem _ later) before
      · rw [List.mem_singleton.mp inside] at equal
        exact distinct.1 (equal ▸ List.mem_map_of_mem later)
    obtain ⟨after, rows, committed, all, whole⟩ := ih distinct.2 open_
    refine ⟨after, row :: rows, ?_, .cons recorded all, ?_⟩
    · rw [List.foldlM_cons, added]
      exact committed
    · rw [whole, split, List.append_assoc, List.singleton_append]

/-- A commit one of whose names is taken is refused. -/
theorem commit_of_taken (inside : art ∈ artifacts) (taken : Taken history art.filename) :
    artifacts.foldlM (add nodeName known) history = none := by
  induction artifacts generalizing history with
  | nil => exact absurd inside List.not_mem_nil
  | cons first rest ih =>
    rw [List.foldlM_cons]
    by_cases refused : Taken history first.filename
    · rw [add_of_taken nodeName known refused]
      rfl
    · obtain ⟨next, row, added, recorded, split⟩ :=
        add_of_free nodeName known refused
      rw [added]
      rcases List.mem_cons.mp inside with rfl | later
      · exact absurd taken refused
      · exact ih later ((taken_of_split split (.cons recorded .nil)).mpr (.inl taken))

end Commit

section Outcome

variable (node : String) (guests : Guests) {history : History} {listing : Listing}
  {art : HostArtifact}

/-- The unknown artifacts are the listed ones whose names no row has. -/
theorem mem_unknown {artifacts : List HostArtifact} :
    art ∈ unknown artifacts history ↔ art ∈ artifacts ∧ art.filename ∉ existing history := by
  simp [unknown]

/-- No artifact is unknown when every name is one of a row. -/
theorem unknown_eq_nil {artifacts : List HostArtifact} :
    unknown artifacts history = [] ↔ ∀ art ∈ artifacts, art.filename ∈ existing history := by
  simp [unknown, List.filter_eq_nil_iff]

/-- An import that is refused leaves the history as it was. -/
theorem sync_of_taken {artifacts : List HostArtifact} (inside : art ∈ unknown artifacts history)
    (taken : Taken history art.filename) :
    syncDiskArtifacts node guests artifacts history = history := by
  unfold syncDiskArtifacts
  dsimp only
  rw [commit_of_taken _ _ inside taken, Option.getD_none]

/-- An import none of whose new names is taken adds a row for each of them. -/
theorem sync_of_free
    (free : ∀ art ∈ unknown listing.artifacts history, ¬ Taken history art.filename) :
    ∃ rows, List.Forall₂ Records (unknown listing.artifacts history) rows ∧
      (syncDiskArtifacts node guests listing.artifacts history).rows = history.rows ++ rows := by
  have distinct : ((unknown listing.artifacts history).map fun art => art.filename).Nodup :=
    listing.distinct.sublist (List.filter_sublist.map _)
  obtain ⟨after, rows, committed, recorded, split⟩ :=
    commit_of_free (if node = "" then "server" else node) (allGuests guests) distinct free
  refine ⟨rows, recorded, ?_⟩
  unfold syncDiskArtifacts
  dsimp only
  rw [committed, Option.getD_some, split]

/-- An import changes nothing exactly where it is refused or nothing is new. -/
theorem sync_eq_self_iff : syncDiskArtifacts node guests listing.artifacts history = history ↔
    (∃ art ∈ unknown listing.artifacts history, Taken history art.filename) ∨
      ∀ art ∈ listing.artifacts, art.filename ∈ existing history := by
  by_cases refused : ∃ art ∈ unknown listing.artifacts history, Taken history art.filename
  · obtain ⟨art, inside, taken⟩ := refused
    exact iff_of_true (sync_of_taken node guests inside taken) (.inl ⟨art, inside, taken⟩)
  · have free : ∀ art ∈ unknown listing.artifacts history, ¬ Taken history art.filename :=
      fun art inside taken => refused ⟨art, inside, taken⟩
    obtain ⟨rows, recorded, split⟩ := sync_of_free node guests free
    rw [or_iff_right refused]
    constructor
    · intro same
      rw [same] at split
      have none_added : rows = [] := List.self_eq_append_right.mp split
      rw [none_added] at recorded
      exact unknown_eq_nil.mp (List.forall₂_nil_right_iff.mp recorded)
    · intro known
      unfold syncDiskArtifacts
      rw [unknown_eq_nil.mpr known]
      rfl

end Outcome

/-! ## The newest rows after an import -/

section Added

variable {history after : History} {artifacts : List HostArtifact} {rows : List HistoryRow}
  {row : HistoryRow} {name : String}

/-- A row that was recorded records one of the artifacts. -/
theorem exists_art (recorded : List.Forall₂ Records artifacts rows) (inside : row ∈ rows) :
    ∃ art ∈ artifacts, Records art row := by
  induction recorded with
  | nil => exact absurd inside List.not_mem_nil
  | cons first _ ih =>
    rcases List.mem_cons.mp inside with rfl | later
    · exact ⟨_, List.mem_cons_self, first⟩
    · obtain ⟨art, member, recorded⟩ := ih later
      exact ⟨art, List.mem_cons_of_mem _ member, recorded⟩

/-- The recorded rows have the names of the artifacts. -/
theorem filenames_eq (recorded : List.Forall₂ Records artifacts rows) :
    rows.map (fun row => row.filename) = artifacts.map (some ∘ fun art => art.filename) := by
  induction recorded with
  | nil => rfl
  | cons first _ ih => rw [List.map_cons, List.map_cons, ih, first.filename, Function.comp_apply]

/-- A listed artifact is recorded by one of the rows. -/
theorem exists_row {art : HostArtifact} (recorded : List.Forall₂ Records artifacts rows)
    (listed : art ∈ artifacts) : ∃ row ∈ rows, Records art row := by
  induction recorded with
  | nil => exact absurd listed List.not_mem_nil
  | cons first _ ih =>
    rcases List.mem_cons.mp listed with rfl | later
    · exact ⟨_, List.mem_cons_self, first⟩
    · obtain ⟨row, member, recorded⟩ := ih later
      exact ⟨row, List.mem_cons_of_mem _ member, recorded⟩

/-- A row counts an archive of no earlier time before it, once the row of the archive is added. -/
theorem newest_added {art : HostArtifact} {added : HistoryRow} (recorded : Records art added)
    (below : row.id < added.id) :
    newest added row = row.startedAt.all (fun start => decide (start ≤ art.createdAt)) := by
  rw [Bool.eq_iff_iff]
  cases started : row.startedAt with
  | none => simp [newest, newestFirst, missingTimestamp, started, recorded.startedAt]
  | some start =>
    simp only [newest, newestFirst, missingTimestamp, startedKey, started, recorded.startedAt,
      Option.isNone_some, Option.getD_some, Option.all_some, decide_eq_true_eq,
      Bool.false_eq_true, if_false, lt_self_iff_false, false_or, true_and]
    rw [le_iff_lt_or_eq]
    exact or_congr_right (and_iff_left below)

/-- An added row counts the rows of a later time before it. -/
theorem newest_old {art : HostArtifact} {added : HistoryRow} (recorded : Records art added)
    (below : row.id < added.id) :
    newest row added = row.startedAt.any (fun start => decide (art.createdAt < start)) := by
  rw [Bool.eq_iff_iff]
  cases started : row.startedAt with
  | none => simp [newest, newestFirst, missingTimestamp, started, recorded.startedAt]
  | some start =>
    simp only [newest, newestFirst, missingTimestamp, startedKey, started, recorded.startedAt,
      Option.isNone_some, Option.getD_some, Option.any_some, decide_eq_true_eq,
      Bool.false_eq_true, if_false, lt_self_iff_false, false_or, true_and]
    exact or_iff_left fun same => absurd same.2 (Nat.not_lt_of_lt below)

/-- Of two added rows the later archive comes first. -/
theorem createdAt_le {first second : HistoryRow} {art other : HostArtifact}
    (recorded : Records art first) (recorded' : Records other second)
    (before : newest first second = true) : other.createdAt ≤ art.createdAt := by
  simp only [newest, newestFirst, missingTimestamp, startedKey, recorded.startedAt,
    recorded'.startedAt, Option.isNone_some, Option.getD_some, decide_eq_true_eq,
    Bool.false_eq_true, if_false, lt_self_iff_false, false_or, true_and] at before
  rcases before with later | ⟨same, _⟩
  · exact later.le
  · exact same.le

/-- Rows that are added have later keys. -/
theorem id_lt (split : after.rows = history.rows ++ rows) (old : row ∈ history)
    {added : HistoryRow} (inside : added ∈ rows) : row.id < added.id := by
  have ascending := after.ascending
  rw [split, List.pairwise_append] at ascending
  exact ascending.2.2 row old added inside

variable (recorded : List.Forall₂ Records artifacts rows)
  (split : after.rows = history.rows ++ rows)

include recorded split

/-- The recorded rows are live. -/
theorem live_split : live after = live history ++ rows := by
  have kept : rows.filter (fun row => row.status != .deleted) = rows := by
    rw [List.filter_eq_self]
    intro row inside
    obtain ⟨art, _, recorded⟩ := exists_art recorded inside
    simp [recorded.status]
  rw [live, split, List.filter_append, kept]
  rfl

/-- A name after an import is one from before or one of an artifact. -/
theorem named_split :
    Named after name ↔ Named history name ∨ ∃ art ∈ artifacts, art.filename = name := by
  have same : ∀ art, ∀ row ∈ rows, Records art row →
      (row.filename == some name) = (art.filename == name) := by
    intro art row _ recorded
    simp [recorded.filename]
  have added := exists_of_records recorded same
  simp only [beq_iff_eq] at added
  simp only [named_iff, live_split recorded split, List.mem_append, or_and_right, exists_or, added]

/-- The rows of a name are those from before and one for each artifact of the name. -/
theorem count_split : after.rows.countP (·.filename == some name) =
    history.rows.countP (·.filename == some name) +
      artifacts.countP (·.filename == name) := by
  rw [split, List.countP_append, countP_of_records recorded]
  intro art row _ recorded
  simp [recorded.filename]

/-- Of the added rows one comes last; it is that of an oldest archive. -/
theorem exists_oldest (nonempty : rows ≠ []) : ∃ last ∈ rows, ∃ art ∈ artifacts,
    Records art last ∧ (∀ other ∈ artifacts, art.createdAt ≤ other.createdAt) ∧
      rankIn newest (live after) last + 1 =
        (live history).countP (fun row => row.startedAt.any (art.createdAt < ·)) +
          artifacts.length ∧
      ∀ row ∈ rows, rankIn newest (live after) row ≤ rankIn newest (live after) last := by
  have reordered := ordered_perm rows
  have distinct : rows.Pairwise fun first second => first.id ≠ second.id := by
    have ascending := after.ascending
    rw [split, List.pairwise_append] at ascending
    exact ascending.2.1.imp fun below => below.ne
  have sorted := ordered_sorted distinct
  have sorted_nonempty : ordered rows ≠ [] := by
    intro empty
    rw [empty] at reordered
    exact nonempty reordered.nil_eq.symm
  obtain ⟨last, member, place, others⟩ := exists_last newest_asymmetric sorted sorted_nonempty
  rw [rankIn_perm reordered, reordered.length_eq] at place
  have inside : last ∈ rows := reordered.mem_iff.mp member
  obtain ⟨art, listed, recorded'⟩ := exists_art recorded inside
  refine ⟨last, inside, art, listed, recorded', ?_, ?_, ?_⟩
  · intro other present
    obtain ⟨row, added, also⟩ := exists_row recorded present
    rcases others row (reordered.mem_iff.mpr added) with rfl | before
    · have same := recorded'.startedAt.symm.trans also.startedAt
      exact (Option.some.inj same).le
    · exact createdAt_le also recorded' before
  · have earlier : rankIn newest (live history) last =
        (live history).countP fun row => row.startedAt.any (art.createdAt < ·) := by
      apply List.countP_congr
      intro row old
      rw [newest_old recorded' (id_lt split (mem_live.mp old).1 inside)]
    rw [live_split recorded split, rankIn_append, earlier, add_assoc, place, recorded.length_eq]
  · intro row added
    rcases others row (reordered.mem_iff.mpr added) with rfl | before
    · exact le_rfl
    · exact rankIn_mono newest_transitive before

/-- Some added row is not among the newest ones exactly where the oldest one is not. -/
theorem exists_far_iff : (∃ row ∈ rows, 10000 ≤ rankIn newest (live after) row) ↔
    ∃ art ∈ artifacts, (∀ other ∈ artifacts, art.createdAt ≤ other.createdAt) ∧
      10000 < (live history).countP (fun row => row.startedAt.any (art.createdAt < ·)) +
        artifacts.length := by
  by_cases empty : rows = []
  · subst empty
    rw [List.forall₂_nil_right_iff.mp recorded]
    simp
  obtain ⟨last, inside, oldest, listed, _, least, rank, greatest⟩ :=
    exists_oldest recorded split empty
  constructor
  · rintro ⟨row, added, far⟩
    have bound := greatest row added
    exact ⟨oldest, listed, least, by omega⟩
  · rintro ⟨art, present, first, crowded⟩
    have same : art.createdAt = oldest.createdAt :=
      le_antisymm (first oldest listed) (least art present)
    rw [same] at crowded
    exact ⟨last, inside, by omega⟩

/-- The rank of an earlier row. -/
theorem rankIn_old (old : row ∈ history) : rankIn newest (live after) row =
    rankIn newest (live history) row +
      artifacts.countP fun art => row.startedAt.all (· ≤ art.createdAt) := by
  rw [live_split recorded split, rankIn_append]
  congr 1
  apply countP_of_records recorded
  intro art added inside recorded_
  exact newest_added recorded_ (id_lt split old inside)

end Added

/-! ## The archives that the next import takes to be new -/

section Next

variable {history after : History} {listing : Listing} {rows : List HistoryRow} {art : HostArtifact}
  (recorded : List.Forall₂ Records (unknown listing.artifacts history) rows)
  (split : after.rows = history.rows ++ rows)

include recorded

/-- No two added rows have one name. -/
theorem eq_of_filename {first second : HistoryRow} (here : first ∈ rows) (there : second ∈ rows)
    (same : first.filename = second.filename) : first = second := by
  have distinct : ((unknown listing.artifacts history).map fun art => art.filename).Nodup :=
    listing.distinct.sublist (List.filter_sublist.map _)
  have apart : (rows.map fun row => row.filename).Nodup := by
    rw [filenames_eq recorded, ← List.map_map]
    exact distinct.map (Option.some_injective _)
  exact List.inj_on_of_nodup_map apart here there same

include split

/-- A known name is known afterwards exactly where it stays. -/
theorem known_after_iff (known : art.filename ∈ existing history) :
    art.filename ∈ existing after ↔ Stays listing.artifacts history art.filename := by
  rw [mem_existing art.filename_nonempty, live_split recorded split]
  constructor
  · rintro ⟨row, inside, carries, close⟩
    rcases List.mem_append.mp inside with old | added
    · rw [← live_split recorded split, rankIn_old recorded split (mem_live.mp old).1] at close
      exact ⟨row, old, carries, close⟩
    · obtain ⟨other, new, recorded'⟩ := exists_art recorded added
      rw [recorded'.filename, Option.some.injEq] at carries
      exact absurd (carries ▸ known) (mem_unknown.mp new).2
  · rintro ⟨row, old, carries, close⟩
    refine ⟨row, List.mem_append_left _ old, carries, ?_⟩
    rw [← live_split recorded split, rankIn_old recorded split (mem_live.mp old).1]
    exact close

/-- A new name that no row carried is known afterwards where its row is among the newest ones. -/
theorem new_after_iff (new : art ∈ unknown listing.artifacts history)
    (unnamed : ¬ Named history art.filename) : art.filename ∈ existing after ↔
      ∃ row ∈ rows, Records art row ∧ rankIn newest (live after) row < 10000 := by
  obtain ⟨own, added, recorded'⟩ := exists_row recorded new
  rw [mem_existing art.filename_nonempty]
  constructor
  · rintro ⟨row, inside, carries, close⟩
    rw [live_split recorded split] at inside
    rcases List.mem_append.mp inside with old | member
    · exact absurd (named_iff.mpr ⟨row, old, carries⟩) unnamed
    · obtain rfl := eq_of_filename recorded member added (carries.trans recorded'.filename.symm)
      exact ⟨row, member, recorded', close⟩
  · rintro ⟨row, member, named, close⟩
    refine ⟨row, ?_, named.filename, close⟩
    rw [live_split recorded split]
    exact List.mem_append_right _ member

/-- Some new name is new again exactly where the new archives crowd each other out. -/
theorem crowded_iff
    (unnamed : ∀ art ∈ unknown listing.artifacts history, ¬ Named history art.filename) :
    Crowded listing.artifacts history ↔
      ∃ art ∈ unknown listing.artifacts history, art.filename ∉ existing after := by
  rw [Crowded, ← exists_far_iff recorded split]
  constructor
  · rintro ⟨row, member, far⟩
    obtain ⟨art, new, named⟩ := exists_art recorded member
    refine ⟨art, new, fun known => ?_⟩
    obtain ⟨other, added, also, close⟩ :=
      (new_after_iff recorded split new (unnamed art new)).mp known
    obtain rfl :=
      eq_of_filename recorded added member (also.filename.trans named.filename.symm)
    omega
  · rintro ⟨art, new, forgotten⟩
    obtain ⟨row, member, named⟩ := exists_row recorded new
    refine ⟨row, member, ?_⟩
    by_contra close
    exact forgotten ((new_after_iff recorded split new (unnamed art new)).mpr
      ⟨row, member, named, by omega⟩)

/-- The next import changes nothing exactly where every name stays known or a forgotten one is
taken. -/
theorem settled_iff (node : String) (guests : Guests)
    (unnamed : ∀ art ∈ unknown listing.artifacts history, ¬ Named history art.filename) :
    syncDiskArtifacts node guests listing.artifacts after = after ↔
      Crowded listing.artifacts history ∨
      (∀ art ∈ listing.artifacts, art.filename ∈ existing history →
        Stays listing.artifacts history art.filename) ∨
      ∃ art ∈ listing.artifacts, art.filename ∈ existing history ∧
        Taken history art.filename ∧ ¬ Stays listing.artifacts history art.filename := by
  rw [sync_eq_self_iff, crowded_iff recorded split unnamed]
  by_cases forgotten : ∃ art ∈ unknown listing.artifacts history, art.filename ∉ existing after
  · obtain ⟨art, new, absent⟩ := forgotten
    have listed : art ∈ unknown listing.artifacts after :=
      mem_unknown.mpr ⟨(mem_unknown.mp new).1, absent⟩
    have taken : Taken after art.filename :=
      (taken_of_split split recorded).mpr (.inr ⟨art, new, rfl⟩)
    exact iff_of_true (.inl ⟨art, listed, taken⟩) (.inl ⟨art, new, absent⟩)
  -- The new names are known afterwards, so the next import turns on the known ones.
  have learned : ∀ art ∈ unknown listing.artifacts history, art.filename ∈ existing after := by
    intro art new
    by_contra absent
    exact forgotten ⟨art, new, absent⟩
  rw [or_iff_right forgotten, or_comm]
  have again : ∀ art ∈ listing.artifacts, art.filename ∉ existing after →
      art.filename ∈ existing history := by
    intro art listed absent
    by_contra new
    exact absent (learned art (mem_unknown.mpr ⟨listed, new⟩))
  apply or_congr
  · constructor
    · intro all art listed known
      exact (known_after_iff recorded split known).mp (all art listed)
    · intro stays art listed
      by_contra absent
      have known := again art listed absent
      exact absent ((known_after_iff recorded split known).mpr (stays art listed known))
  · constructor
    · rintro ⟨art, new, taken⟩
      obtain ⟨listed, absent⟩ := mem_unknown.mp new
      have known := again art listed absent
      refine ⟨art, listed, known, ?_, fun stays =>
        absent ((known_after_iff recorded split known).mpr stays)⟩
      rcases (taken_of_split split recorded).mp taken with old | ⟨other, fresh, same⟩
      · exact old
      · exact absurd (same ▸ known) (mem_unknown.mp fresh).2
    · rintro ⟨art, listed, known, taken, leaves⟩
      have absent : art.filename ∉ existing after := fun present =>
        leaves ((known_after_iff recorded split known).mp present)
      exact ⟨art, mem_unknown.mpr ⟨listed, absent⟩,
        (taken_of_split split recorded).mpr (.inl taken)⟩

end Next

/-- An import keeps its promise exactly where every new name is free and the known ones stay known,
or where it is refused and has nothing to add. -/
theorem imported_iff (node : String) (guests : Guests) (listing : Listing) (history : History) :
    Imported node guests listing history
        (syncDiskArtifacts node guests listing.artifacts history) ↔
      Fits listing.artifacts history ∨ Covered listing.artifacts history := by
  by_cases refused : ∃ art ∈ unknown listing.artifacts history, Taken history art.filename
  · obtain ⟨art, new, taken⟩ := refused
    have unchanged := sync_of_taken node guests new taken
    have misfit : ¬ Fits listing.artifacts history := fun fits => (fits.1 art new).2 taken
    rw [or_iff_right misfit, unchanged]
    constructor
    · intro imported
      exact ⟨⟨art, new, taken⟩, fun other listed =>
        imported.named other (mem_unknown.mp listed).1⟩
    · intro covered
      have named : ∀ art ∈ listing.artifacts, Named history art.filename := by
        intro art listed
        by_cases known : art.filename ∈ existing history
        · exact named_of_mem_existing art.filename_nonempty known
        · exact covered.2 art (mem_unknown.mpr ⟨listed, known⟩)
      exact {
        named := named
        once := fun _ _ => rfl
        kept := fun _ stored => stored
        settled := unchanged
        spared := fun art listed _ => named art listed }
  · have free : ∀ art ∈ unknown listing.artifacts history, ¬ Taken history art.filename :=
      fun art new taken => refused ⟨art, new, taken⟩
    have uncovered : ¬ Covered listing.artifacts history := fun covered => refused covered.1
    obtain ⟨rows, recorded, split⟩ := sync_of_free node guests free
    rw [or_iff_left uncovered]
    constructor
    · intro imported
      have unnamed : ∀ art ∈ unknown listing.artifacts history, ¬ Named history art.filename := by
        intro art new named
        have same := imported.once art.filename named
        rw [count_split recorded split] at same
        have counted : 0 < (unknown listing.artifacts history).countP
            (·.filename == art.filename) :=
          List.countP_pos_iff.mpr ⟨art, new, beq_self_eq_true _⟩
        omega
      exact ⟨fun art new => ⟨unnamed art new, free art new⟩,
        (settled_iff recorded split node guests unnamed).mp imported.settled⟩
    · intro fits
      have unnamed : ∀ art ∈ unknown listing.artifacts history, ¬ Named history art.filename :=
        fun art new => (fits.1 art new).1
      have named : ∀ art ∈ listing.artifacts, Named
          (syncDiskArtifacts node guests listing.artifacts history) art.filename := by
        intro art listed
        rw [named_split recorded split]
        by_cases known : art.filename ∈ existing history
        · exact .inl (named_of_mem_existing art.filename_nonempty known)
        · exact .inr ⟨art, mem_unknown.mpr ⟨listed, known⟩, rfl⟩
      exact {
        named := named
        once := by
          intro name carried
          rw [count_split recorded split]
          have none_new : (unknown listing.artifacts history).countP (·.filename == name) = 0 := by
            rw [List.countP_eq_zero]
            intro art new same
            exact unnamed art new (beq_iff_eq.mp same ▸ carried)
          rw [none_new, add_zero]
        kept := by
          intro row stored
          rw [Table.mem_iff, split]
          exact List.mem_append_left _ stored
        settled := (settled_iff recorded split node guests unnamed).mpr fits.2
        spared := fun art listed _ => named art listed }

/-! ## A name that is taken by a deleted row -/

/-- An archive of one guest. -/
def archive (filename : String) (filename_nonempty : filename ≠ "") (createdAt : Instant) :
    HostArtifact where
  filename := filename
  path := "/var/lib/vz/dump/" ++ filename
  vmid := 100
  guestType := .vm
  sizeBytes := 1024
  createdAt := createdAt
  checksumSha256 := none
  compression := .zstd
  filename_nonempty := filename_nonempty
  vmid_bounded := by decide
  sizeBytes_bounded := by decide

/-- An archive on the host. -/
def firstArchive : HostArtifact :=
  archive "vzdump-qemu-100-2026_01_01-02_00_00.vma.zst" (by decide) 100

/-- Another archive on the host. -/
def secondArchive : HostArtifact :=
  archive "vzdump-qemu-100-2026_01_02-02_00_00.vma.zst" (by decide) 200

/-- An archive whose row was deleted, and one that is new. -/
def returned : Listing where
  artifacts := [firstArchive, secondArchive]
  distinct := by decide

/-- The history with the deleted row of the first archive. -/
def deletedBefore : History :=
  Table.singleton
    { createArtifactHistoryRecord firstArchive "pve" none 1 with status := .deleted }

/-- Neither archive is imported, though nothing stands in the way of the second. -/
theorem not_imported_of_deleted : ¬ Imported "pve" ⟨.empty, by simp⟩ returned deletedBefore
    (syncDiskArtifacts "pve" ⟨.empty, by simp⟩ returned.artifacts deletedBefore) := by
  intro imported
  have missing : ¬ ∃ row ∈ syncDiskArtifacts "pve" ⟨.empty, by simp⟩ returned.artifacts
      deletedBefore, row.status ≠ .deleted := by
    decide +kernel
  obtain ⟨row, stored, live, _⟩ := imported.named _ List.mem_cons_self
  exact missing ⟨row, stored, live⟩

end ProxSync.Storage.Import

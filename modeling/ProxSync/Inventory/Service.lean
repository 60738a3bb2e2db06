import ProxSync.Lib.System
import ProxSync.Lib.Table
import ProxSync.Schemas
/-!
# Synchronising the inventory of guests

The dashboard keeps a row for every guest that the host ever reported. A synchronisation looks a
guest up by its node and its number, refreshes the row it finds and adds one where there is none. A
number that is used again for a guest of the other type finds the row of the earlier guest, and with
it the operator's decision to back that one up.
-/
open ProxSync.Lib

namespace ProxSync.Inventory

/-- The state of a guest. -/
inductive GuestStatus
  | running
  | stopped
  | unknown
  deriving DecidableEq, Repr

/-- A guest as the host reports it. -/
structure PveGuest where
  vmid : ℤ
  name : String
  status : String
  tags : List String
  deriving DecidableEq, Repr

/-- The state of a guest that is reported. -/
def PveGuest.statusEnum (guest : PveGuest) : GuestStatus :=
  if guest.status = "running" then .running
  else if guest.status = "stopped" then .stopped
  else .unknown

/-- The name of a guest, made up where it is blank. -/
def PveGuest.displayName (guest : PveGuest) (guestType : GuestType) : String :=
  if guest.name = "" then s!"{guestType.value}-{guest.vmid}" else guest.name

/-- A guest with the type and the node it was found under. -/
structure DiscoveredGuest where
  guestType : GuestType
  node : String
  guest : PveGuest
  deriving DecidableEq, Repr

/-- The row of a guest. -/
structure Guest where
  id : Nat
  vmid : ℤ
  guestType : GuestType
  name : String
  node : String
  status : GuestStatus
  backupEnabled : Bool
  tags : List String
  firstSeenAt : ℤ
  lastSeenAt : ℤ
  deriving DecidableEq, Repr

/-- What names a row: the node and the number of its guest. -/
abbrev RowKey := String × ℤ

/-- What names a guest: the row and the type. -/
abbrev Identity := RowKey × GuestType

/-- What the row of a reported guest is looked up by. -/
def DiscoveredGuest.key (item : DiscoveredGuest) : RowKey := (item.node, item.guest.vmid)

/-- The guest that is reported. -/
def DiscoveredGuest.identity (item : DiscoveredGuest) : Identity := (item.key, item.guestType)

/-- What a row is looked up by. -/
def Guest.key (guest : Guest) : RowKey := (guest.node, guest.vmid)

/-- The guest that a row stands for. -/
def Guest.identity (guest : Guest) : Identity := (guest.key, guest.guestType)

/-- The rows of the guests, of which no two have one node and number. -/
structure Guests where
  table : Table Guest.id
  unique : ∀ first ∈ table, ∀ second ∈ table, first.key = second.key → first = second

/-- The row of a guest that is seen for the first time. -/
def build (item : DiscoveredGuest) (now : ℤ) (enabled : Bool) (id : Nat) : Guest where
  id := id
  vmid := item.guest.vmid
  guestType := item.guestType
  name := item.guest.displayName item.guestType
  node := item.node
  status := item.guest.statusEnum
  backupEnabled := enabled
  tags := item.guest.tags
  firstSeenAt := now
  lastSeenAt := now

/-- Refresh a row. -/
def apply (item : DiscoveredGuest) (now : ℤ) (guest : Guest) : Guest :=
  { guest with
    name := item.guest.displayName item.guestType
    status := item.guest.statusEnum
    guestType := item.guestType
    tags := item.guest.tags
    lastSeenAt := now }

namespace Guests

/-- Change the row of an id, but neither its id nor its node and number. -/
def modify (guests : Guests) (id : Nat) (update : Guest → Guest)
    (keepsId : ∀ row, (update row).id = row.id) (keepsKey : ∀ row, (update row).key = row.key) :
    Guests where
  table := guests.table.modify id update keepsId
  unique := by
    have origin : ∀ row ∈ guests.table.modify id update keepsId,
        ∃ old ∈ guests.table, old.key = row.key ∧
          row = if old.id = id then update old else old := by
      intro row inside
      rcases (Table.mem_modify keepsId).mp inside with ⟨old, stored, named, rfl⟩ | ⟨stored, other⟩
      · exact ⟨old, stored, (keepsKey old).symm, (if_pos named).symm⟩
      · exact ⟨row, stored, rfl, (if_neg other).symm⟩
    intro first here second there same
    obtain ⟨old, stored, oldKey, rfl⟩ := origin first here
    obtain ⟨other, listed, otherKey, rfl⟩ := origin second there
    obtain rfl := guests.unique old stored other listed (oldKey.trans (same.trans otherKey.symm))
    rfl

/-- Add a row, unless there is one of its node and number. -/
def add (guests : Guests) (item : DiscoveredGuest) (now : ℤ) (enabled : Bool) : Option Guests :=
  if free : ∀ row ∈ guests.table, row.key ≠ item.key then
    some {
      table := guests.table.append (build item now enabled) fun _ => rfl
      unique := by
        intro first here second there same
        rcases (Table.mem_append _).mp here with old | rfl
        · rcases (Table.mem_append _).mp there with other | rfl
          · exact guests.unique first old second other same
          · exact absurd same (free first old)
        · rcases (Table.mem_append _).mp there with other | rfl
          · exact absurd same.symm (free second other)
          · rfl }
  else none

end Guests

/-- Whether a row is refreshed with anything new. -/
def changed (guest : Guest) (item : DiscoveredGuest) : Bool :=
  guest.name != item.guest.displayName item.guestType ||
    guest.status != item.guest.statusEnum || guest.guestType != item.guestType ||
    guest.tags != item.guest.tags

/-- The rows while guests are synchronised, and the rows that were there and are not met yet. -/
structure SyncProgress where
  guests : Guests
  existing : List Guest
  added : Nat
  updated : Nat

/-- Refresh or add one guest; a second row of one node and number violates a constraint. -/
def syncGuest (now : ℤ) (enabled : Bool) (progress : SyncProgress) (item : DiscoveredGuest) :
    Option SyncProgress :=
  match progress.existing.find? fun row => row.key = item.key with
  | some current => some { progress with
      guests := progress.guests.modify current.id (apply item now) (fun _ => rfl) (fun _ => rfl)
      existing := progress.existing.filter fun row => row.key ≠ item.key
      updated := progress.updated + if changed current item then 1 else 0 }
  | none => (progress.guests.add item now enabled).map fun guests =>
      { progress with guests, added := progress.added + 1 }

/-- The preferences that a synchronisation reads. -/
structure ProxmoxSettings where
  node : String
  autoEnableNewGuests : Bool

/-- What the host reports of a node. -/
structure Report where
  vms : List PveGuest
  containers : List PveGuest

/-- The guests of a node in one list. -/
def discover (node : String) (report : Report) : List DiscoveredGuest :=
  report.vms.map (⟨.vm, node, ·⟩) ++ report.containers.map (⟨.lxc, node, ·⟩)

/-- The guests that a synchronisation meets, on the node of the preferences or of the client. -/
def discovered (clientNode : String) (preferences : ProxmoxSettings) (report : Report) :
    List DiscoveredGuest :=
  discover (if preferences.node = "" then clientNode else preferences.node) report

/-- What is answered about a synchronisation. -/
structure InventorySyncResponse where
  discovered : Nat
  added : Nat
  updated : Nat
  disappeared : Nat
  autoEnabled : Nat
  deriving DecidableEq, Repr

/-- Synchronise the rows, unless a constraint is violated. -/
def sync (clientNode : String) (preferences : ProxmoxSettings) (report : Report) (now : ℤ)
    (guests : Guests) : Option (Guests × InventorySyncResponse) := do
  let items := discovered clientNode preferences report
  let progress ← items.foldlM (syncGuest now preferences.autoEnableNewGuests)
    ⟨guests, guests.table.rows, 0, 0⟩
  some (progress.guests, {
    discovered := items.length
    added := progress.added
    updated := progress.updated
    disappeared := progress.existing.length
    autoEnabled := if preferences.autoEnableNewGuests then progress.added else 0 })

/-! ## The dashboard over time -/

/-- The rows, and the guests that were ever synchronised. -/
structure Dashboard where
  guests : Guests
  seen : List Identity

/-- The dashboard when it was installed. -/
def Dashboard.empty : Dashboard :=
  ⟨⟨.empty, fun _ absent => absurd absent (Table.not_mem_empty _)⟩, []⟩

/-- What happens to the inventory. -/
inductive Action
  | sync (preferences : ProxmoxSettings) (report : Report) (now : ℤ)
  | setBackupEnabled (id : Nat) (enabled : Bool)

section Run

variable (clientNode : String)

/-- The dashboard after a synchronisation, which a violated constraint undoes. -/
def Dashboard.synced (preferences : ProxmoxSettings) (report : Report) (now : ℤ)
    (dashboard : Dashboard) : Dashboard :=
  match sync clientNode preferences report now dashboard.guests with
  | none => dashboard
  | some (guests, _) =>
    ⟨guests, dashboard.seen ++ (discovered clientNode preferences report).map
      DiscoveredGuest.identity⟩

/-- The dashboard after an operator decided about a row. -/
def Dashboard.decided (id : Nat) (enabled : Bool) (dashboard : Dashboard) : Dashboard :=
  { dashboard with
    guests := dashboard.guests.modify id (fun row => { row with backupEnabled := enabled })
      (fun _ => rfl) (fun _ => rfl) }

/-- The inventory from the installation on. -/
def inventory : System Dashboard Action where
  init dashboard := dashboard = .empty
  step dashboard
    | .sync preferences report now => some (dashboard.synced clientNode preferences report now)
    | .setBackupEnabled id enabled => some (dashboard.decided id enabled)

end Run

/-- What a synchronisation keeps. -/
structure Keeps (auto : Bool) (before after : Dashboard) : Prop where
  /-- No row is removed. -/
  rows : ∀ row ∈ before.guests.table, ∃ other ∈ after.guests.table,
    other.id = row.id ∧ other.key = row.key
  /-- The decision about a row that stands for the same guest is kept. -/
  decision : ∀ row ∈ before.guests.table, ∀ other ∈ after.guests.table, other.id = row.id →
    other.identity = row.identity → other.backupEnabled = row.backupEnabled
  /-- A guest that was never seen is not backed up, unless that is wanted. -/
  optIn : ∀ other ∈ after.guests.table, other.identity ∉ before.seen →
    other.backupEnabled = true → auto = true

/-- No guest that was never seen takes over the row of a guest that is backed up, unless that is
wanted; a list that names a row twice is refused as a whole. -/
def Unclaimed (auto : Bool) (items : List DiscoveredGuest) (dashboard : Dashboard) : Prop :=
  (items.map DiscoveredGuest.key).Nodup → ∀ item ∈ items, ∀ row ∈ dashboard.guests.table,
    row.key = item.key → item.identity ∉ dashboard.seen → row.backupEnabled = true → auto = true

instance (auto : Bool) (items : List DiscoveredGuest) (dashboard : Dashboard) :
    Decidable (Unclaimed auto items dashboard) :=
  inferInstanceAs (Decidable ((items.map DiscoveredGuest.key).Nodup →
    ∀ item ∈ items, ∀ row ∈ dashboard.guests.table, row.key = item.key →
      item.identity ∉ dashboard.seen → row.backupEnabled = true → auto = true))

/-! ## What a synchronisation does to each row -/

/-- What became of a row when some guests were synchronised. -/
structure Refreshed (met : List DiscoveredGuest) (row other : Guest) : Prop where
  id : other.id = row.id
  key : other.key = row.key
  backupEnabled : other.backupEnabled = row.backupEnabled
  guestType : (row.key ∉ met.map DiscoveredGuest.key ∧ other.guestType = row.guestType) ∨
    ∃ item ∈ met, item.key = row.key ∧ other.guestType = item.guestType

/-- A row that was added for a guest. -/
structure Added (before : Guests) (enabled : Bool) (met : List DiscoveredGuest) (other : Guest)
    (item : DiscoveredGuest) : Prop where
  met : item ∈ met
  identity : other.identity = item.identity
  backupEnabled : other.backupEnabled = enabled
  free : ∀ row ∈ before.table, row.key ≠ item.key

/-- What the rows are when some guests were synchronised. -/
structure Synced (before : Guests) (enabled : Bool) (met : List DiscoveredGuest)
    (progress : SyncProgress) : Prop where
  existing : ∀ row, row ∈ progress.existing ↔
    row ∈ before.table ∧ row.key ∉ met.map DiscoveredGuest.key
  kept : ∀ row ∈ before.table, ∃ other ∈ progress.guests.table, Refreshed met row other
  origin : ∀ other ∈ progress.guests.table,
    (∃ row ∈ before.table, Refreshed met row other) ∨ ∃ item, Added before enabled met other item
  covered : ∀ item ∈ met, ∃ other ∈ progress.guests.table, other.key = item.key

variable {before guests : Guests} {progress after : SyncProgress} {item : DiscoveredGuest}
variable {met items : List DiscoveredGuest} {row other current : Guest} {enabled auto : Bool}
variable {now : ℤ}

/-- Nothing was met when a synchronisation begins. -/
theorem Synced.start : Synced guests enabled [] ⟨guests, guests.table.rows, 0, 0⟩ where
  existing row := by simp [Table.mem_iff]
  kept row stored := ⟨row, stored, rfl, rfl, rfl, .inl ⟨List.not_mem_nil, rfl⟩⟩
  origin other stored := .inl ⟨other, stored, rfl, rfl, rfl, .inl ⟨List.not_mem_nil, rfl⟩⟩
  covered _ absent := absurd absent List.not_mem_nil

/-- A met guest adds its key. -/
theorem mem_append_keys {key : RowKey} :
    key ∈ (met ++ [item]).map DiscoveredGuest.key ↔
      key ∈ met.map DiscoveredGuest.key ∨ key = item.key := by
  rw [List.map_append, List.mem_append, List.map_singleton, List.mem_singleton]

/-- A row of another guest is as it was. -/
theorem Refreshed.skip (refreshed : Refreshed met row other) (differ : row.key ≠ item.key) :
    Refreshed (met ++ [item]) row other where
  id := refreshed.id
  key := refreshed.key
  backupEnabled := refreshed.backupEnabled
  guestType := by
    rcases refreshed.guestType with ⟨unmet, same⟩ | ⟨earlier, inside, named, same⟩
    · refine .inl ⟨fun found => ?_, same⟩
      exact (mem_append_keys.mp found).elim unmet differ
    · exact .inr ⟨earlier, List.mem_append_left _ inside, named, same⟩

/-- The row of the guest that is met is refreshed. -/
theorem Refreshed.take (refreshed : Refreshed met row other) (same : item.key = row.key) :
    Refreshed (met ++ [item]) row (apply item now other) where
  id := refreshed.id
  key := refreshed.key
  backupEnabled := refreshed.backupEnabled
  guestType := .inr ⟨item, List.mem_append_right _ List.mem_cons_self, same, rfl⟩

/-- A row that was added stays one when another guest is met. -/
theorem Added.skip {earlier : DiscoveredGuest} (added : Added before enabled met other earlier) :
    Added before enabled (met ++ [item]) other earlier :=
  ⟨List.mem_append_left _ added.met, added.identity, added.backupEnabled, added.free⟩

/-- A guest whose row is there and was not met. -/
theorem Synced.refresh (synced : Synced before enabled met progress)
    (stored : current ∈ before.table) (unmet : current.key ∉ met.map DiscoveredGuest.key)
    (same : current.key = item.key) {updated : Nat} :
    Synced before enabled (met ++ [item])
      { progress with
        guests := progress.guests.modify current.id (apply item now) (fun _ => rfl) (fun _ => rfl)
        existing := progress.existing.filter fun row => row.key ≠ item.key
        updated := updated } := by
  have keepsId : ∀ row, (apply item now row).id = row.id := fun _ => rfl
  obtain ⟨image, listed, refreshed⟩ := synced.kept current stored
  have only : ∀ row ∈ before.table, row.id ≠ current.id → row.key ≠ item.key := by
    intro row inside differ named
    have found := before.unique row inside current stored (named.trans same.symm)
    exact differ (congrArg Guest.id found)
  have members : ∀ row, row ∈ progress.guests.table.modify current.id (apply item now) keepsId ↔
      row = apply item now image ∨ (row ∈ progress.guests.table ∧ row.id ≠ current.id) := by
    intro row
    rw [← refreshed.id]
    exact Table.mem_modify_of_mem keepsId listed
  constructor
  · intro row
    rw [List.mem_filter, synced.existing, mem_append_keys, decide_eq_true_eq]
    tauto
  · intro row inside
    by_cases here : row.id = current.id
    · obtain rfl := Table.eq_of_key inside stored here
      exact ⟨_, (members _).mpr (.inl rfl), refreshed.take same.symm⟩
    · obtain ⟨other, there, kept⟩ := synced.kept row inside
      refine ⟨other, (members _).mpr (.inr ⟨there, ?_⟩), kept.skip (only row inside here)⟩
      rw [kept.id]
      exact here
  · intro other inside
    rcases (members other).mp inside with rfl | ⟨there, differ⟩
    · exact .inl ⟨current, stored, refreshed.take same.symm⟩
    · rcases synced.origin other there with ⟨row, old, kept⟩ | ⟨earlier, added⟩
      · rw [kept.id] at differ
        exact .inl ⟨row, old, kept.skip (only row old differ)⟩
      · exact .inr ⟨earlier, added.skip⟩
  · intro earlier inside
    rcases List.mem_append.mp inside with old | new
    · obtain ⟨other, there, named⟩ := synced.covered earlier old
      by_cases here : other.id = current.id
      · refine ⟨_, (members _).mpr (.inl rfl), ?_⟩
        obtain rfl := Table.eq_of_key there listed (here.trans refreshed.id.symm)
        exact named
      · exact ⟨other, (members _).mpr (.inr ⟨there, here⟩), named⟩
    · rw [List.mem_singleton.mp new]
      exact ⟨_, (members _).mpr (.inl rfl), refreshed.key.trans same⟩

/-- A row that is added is the only new one. -/
theorem add_eq_some (added : guests.add item now enabled = some after.guests) :
    (∀ row ∈ guests.table, row.key ≠ item.key) ∧
      ∀ row, row ∈ after.guests.table ↔
        row ∈ guests.table ∨ row = build item now enabled guests.table.nextKey := by
  unfold Guests.add at added
  split at added
  · rename_i free
    refine ⟨free, fun row => ?_⟩
    rw [← Option.some.inj added]
    exact Table.mem_append fun _ => rfl
  · cases added

/-- A guest without a row. -/
theorem Synced.insert (synced : Synced before enabled met progress)
    (added : progress.guests.add item now enabled = some after.guests)
    (kept : after.existing = progress.existing)
    (missing : ∀ row ∈ progress.existing, row.key ≠ item.key) :
    item.key ∉ met.map DiscoveredGuest.key ∧ Synced before enabled (met ++ [item]) after := by
  obtain ⟨free, members⟩ := add_eq_some added
  have unmet : item.key ∉ met.map DiscoveredGuest.key := by
    intro found
    obtain ⟨earlier, inside, same⟩ := List.mem_map.mp found
    obtain ⟨other, there, named⟩ := synced.covered earlier inside
    exact free other there (named.trans same)
  have absent : ∀ row ∈ before.table, row.key ≠ item.key := by
    intro row inside named
    have pending := (synced.existing row).mpr ⟨inside, by rwa [named]⟩
    exact missing row pending named
  refine ⟨unmet, ?_⟩
  constructor
  · intro row
    rw [kept, synced.existing, mem_append_keys]
    constructor
    · rintro ⟨inside, earlier⟩
      exact ⟨inside, fun found => found.elim earlier (absent row inside)⟩
    · rintro ⟨inside, later⟩
      exact ⟨inside, fun found => later (.inl found)⟩
  · intro row inside
    obtain ⟨other, there, refreshed⟩ := synced.kept row inside
    exact ⟨other, (members other).mpr (.inl there), refreshed.skip (absent row inside)⟩
  · intro other inside
    rcases (members other).mp inside with there | rfl
    · rcases synced.origin other there with ⟨row, old, refreshed⟩ | ⟨earlier, added⟩
      · exact .inl ⟨row, old, refreshed.skip (absent row old)⟩
      · exact .inr ⟨earlier, added.skip⟩
    · exact .inr ⟨item, List.mem_append_right _ List.mem_cons_self, rfl, rfl, absent⟩
  · intro earlier inside
    rcases List.mem_append.mp inside with old | new
    · obtain ⟨other, there, named⟩ := synced.covered earlier old
      exact ⟨other, (members other).mpr (.inl there), named⟩
    · rw [List.mem_singleton.mp new]
      exact ⟨_, (members _).mpr (.inr rfl), rfl⟩

/-- One guest is refreshed or added unless its row was met before. -/
theorem Synced.step (synced : Synced before enabled met progress) (item : DiscoveredGuest)
    (now : ℤ) :
    (∀ after, syncGuest now enabled progress item = some after →
      item.key ∉ met.map DiscoveredGuest.key ∧ Synced before enabled (met ++ [item]) after) ∧
      (syncGuest now enabled progress item = none →
        item.key ∈ met.map DiscoveredGuest.key) := by
  unfold syncGuest
  cases found : progress.existing.find? fun row => row.key = item.key with
  | some current =>
    have same : current.key = item.key := by simpa using List.find?_some found
    obtain ⟨stored, unmet⟩ := (synced.existing current).mp (List.mem_of_find?_eq_some found)
    constructor
    · rintro after stepped
      obtain rfl := Option.some.inj stepped
      exact ⟨same ▸ unmet, synced.refresh stored unmet same⟩
    · intro failed
      cases failed
  | none =>
    have missing : ∀ row ∈ progress.existing, row.key ≠ item.key := by
      simpa using List.find?_eq_none.mp found
    cases added : progress.guests.add item now enabled with
    | some guests =>
      constructor
      · rintro after stepped
        obtain rfl := Option.some.inj stepped
        exact synced.insert added rfl missing
      · intro failed
        cases failed
    | none =>
      refine ⟨fun _ stepped => (by cases stepped), fun _ => ?_⟩
      by_contra unmet
      have free : ∀ row ∈ progress.guests.table, row.key ≠ item.key := by
        intro other there named
        rcases synced.origin other there with ⟨row, old, refreshed⟩ | ⟨earlier, added⟩
        · have same : row.key = item.key := refreshed.key.symm.trans named
          exact missing row ((synced.existing row).mpr ⟨old, by rwa [same]⟩) same
        · have same : earlier.key = item.key :=
            (congrArg Prod.fst added.identity).symm.trans named
          exact unmet (List.mem_map.mpr ⟨earlier, added.met, same⟩)
      unfold Guests.add at added
      rw [dif_pos free] at added
      cases added

/-- All guests are refreshed or added exactly when no row is met twice. -/
theorem Synced.run (synced : Synced before enabled met progress)
    (distinct : (met.map DiscoveredGuest.key).Nodup) :
    (∀ after, items.foldlM (syncGuest now enabled) progress = some after →
      ((met ++ items).map DiscoveredGuest.key).Nodup ∧
        Synced before enabled (met ++ items) after) ∧
      (items.foldlM (syncGuest now enabled) progress = none →
        ¬ ((met ++ items).map DiscoveredGuest.key).Nodup) := by
  induction items generalizing met progress with
  | nil =>
    rw [List.append_nil]
    constructor
    · rintro after same
      obtain rfl := Option.some.inj same
      exact ⟨distinct, synced⟩
    · intro failed
      cases failed
  | cons item rest ih =>
    have split : met ++ item :: rest = (met ++ [item]) ++ rest := by simp
    rw [List.foldlM_cons, split]
    obtain ⟨steps, fails⟩ := synced.step item now
    cases stepped : syncGuest now enabled progress item with
    | some after =>
      obtain ⟨unmet, next⟩ := steps after stepped
      apply ih next
      rw [List.map_append, List.map_singleton]
      exact distinct.append (List.nodup_singleton _) (by simpa using unmet)
    | none =>
      have met := fails stepped
      refine ⟨fun _ failed => (by cases failed), fun _ twice => ?_⟩
      rw [List.map_append, List.map_append, List.append_assoc] at twice
      exact (List.nodup_append'.mp twice).2.2 met (by simp)

/-! ## What holds over time -/

/-- Every row stands for a guest that was seen. -/
def Known (dashboard : Dashboard) : Prop :=
  ∀ row ∈ dashboard.guests.table, row.identity ∈ dashboard.seen

variable {clientNode : String} {preferences : ProxmoxSettings} {report : Report}
variable {dashboard later : Dashboard}

/-- A row stands for the guest it stood for, or for one that was met. -/
theorem Refreshed.identity (refreshed : Refreshed met row other) :
    other.identity = row.identity ∨
      ∃ item ∈ met, item.key = row.key ∧ other.identity = item.identity := by
  rcases refreshed.guestType with ⟨-, same⟩ | ⟨item, inside, named, same⟩
  · exact .inl (Prod.ext refreshed.key same)
  · exact .inr ⟨item, inside, named, Prod.ext (refreshed.key.trans named.symm) same⟩

/-- A synchronisation that succeeds meets no row twice, and one that fails changes nothing. -/
theorem synced_cases (dashboard : Dashboard) (clientNode : String) (preferences : ProxmoxSettings)
    (report : Report) (now : ℤ) :
    (∃ progress, ((discovered clientNode preferences report).map DiscoveredGuest.key).Nodup ∧
      Synced dashboard.guests preferences.autoEnableNewGuests
        (discovered clientNode preferences report) progress ∧
      dashboard.synced clientNode preferences report now = ⟨progress.guests, dashboard.seen ++
        (discovered clientNode preferences report).map DiscoveredGuest.identity⟩) ∨
    (¬ ((discovered clientNode preferences report).map DiscoveredGuest.key).Nodup ∧
      dashboard.synced clientNode preferences report now = dashboard) := by
  have runs : (∀ after, (discovered clientNode preferences report).foldlM
      (syncGuest now preferences.autoEnableNewGuests)
        ⟨dashboard.guests, dashboard.guests.table.rows, 0, 0⟩ = some after → _) ∧ _ :=
    Synced.start.run List.nodup_nil
  cases ran : (discovered clientNode preferences report).foldlM
      (syncGuest now preferences.autoEnableNewGuests)
        ⟨dashboard.guests, dashboard.guests.table.rows, 0, 0⟩ with
  | some progress =>
    refine .inl ⟨progress, (runs.1 progress ran).1, (runs.1 progress ran).2, ?_⟩
    simp [Dashboard.synced, sync, ran]
  | none =>
    refine .inr ⟨runs.2 ran, ?_⟩
    simp [Dashboard.synced, sync, ran]

/-- After a synchronisation every row still stands for a guest that was seen. -/
theorem Known.synced (known : Known dashboard) :
    Known (dashboard.synced clientNode preferences report now) := by
  rcases synced_cases dashboard clientNode preferences report now with
    ⟨progress, -, synced, result⟩ | ⟨-, result⟩
  · rw [result]
    intro other inside
    rw [List.mem_append]
    rcases synced.origin other inside with ⟨row, old, refreshed⟩ | ⟨item, added⟩
    · rcases refreshed.identity with same | ⟨item, met, -, same⟩
      · exact .inl (same ▸ known row old)
      · exact .inr (List.mem_map.mpr ⟨item, met, same.symm⟩)
    · exact .inr (List.mem_map.mpr ⟨item, added.met, added.identity.symm⟩)
  · rwa [result]

/-- In every run the rows stand for guests that were seen. -/
theorem known_of_reachable (reached : (inventory clientNode).Reachable System.unguarded dashboard) :
    Known dashboard := by
  apply reached.invariant_alone
  constructor
  · rintro _ rfl row absent
    exact absurd absent (Table.not_mem_empty row)
  · intro dashboard action after _ known _ stepped
    cases action with
    | sync preferences report now =>
      obtain rfl := Option.some.inj stepped
      exact known.synced
    | setBackupEnabled id enabled =>
      obtain rfl := Option.some.inj stepped
      intro other inside
      have keepsId : ∀ row : Guest, ({ row with backupEnabled := enabled } : Guest).id = row.id :=
        fun _ => rfl
      rcases (Table.mem_modify keepsId).mp inside with ⟨row, old, -, rfl⟩ | ⟨old, -⟩
      · exact known row old
      · exact known other old

/-- A synchronisation keeps what it has to exactly when no unseen guest takes over the row of one
that is backed up. -/
theorem Known.keeps_iff (known : Known dashboard) :
    Keeps preferences.autoEnableNewGuests dashboard
        (dashboard.synced clientNode preferences report now) ↔
      Unclaimed preferences.autoEnableNewGuests (discovered clientNode preferences report)
        dashboard := by
  rcases synced_cases dashboard clientNode preferences report now with
    ⟨progress, distinct, synced, result⟩ | ⟨twice, result⟩
  · rw [result]
    constructor
    · intro keeps _ item met row old named unseen decided
      obtain ⟨other, there, refreshed⟩ := synced.kept row old
      have identity : other.identity = item.identity := by
        rcases refreshed.guestType with ⟨unmet, -⟩ | ⟨earlier, inside, same, type⟩
        · exact absurd (List.mem_map.mpr ⟨item, met, named.symm⟩) unmet
        · obtain rfl := List.inj_on_of_nodup_map distinct inside met (same.trans named)
          exact Prod.ext (refreshed.key.trans same.symm) type
      apply keeps.optIn other there
      · rwa [identity]
      · rwa [refreshed.backupEnabled]
    · intro unclaimed
      constructor
      · intro row old
        obtain ⟨other, there, refreshed⟩ := synced.kept row old
        exact ⟨other, there, refreshed.id, refreshed.key⟩
      · intro row old other there same _
        obtain ⟨image, listed, refreshed⟩ := synced.kept row old
        obtain rfl := Table.eq_of_key there listed (same.trans refreshed.id.symm)
        exact refreshed.backupEnabled
      · intro other there unseen decided
        rcases synced.origin other there with ⟨row, old, refreshed⟩ | ⟨item, added⟩
        · rcases refreshed.identity with same | ⟨item, met, named, same⟩
          · exact absurd (same ▸ known row old) unseen
          · rw [same] at unseen
            exact unclaimed distinct item met row old named.symm unseen
              (refreshed.backupEnabled.symm.trans decided)
        · exact added.backupEnabled.symm.trans decided
  · rw [result]
    constructor
    · intro _ once
      exact absurd once twice
    · intro _
      constructor
      · intro row old
        exact ⟨row, old, rfl, rfl⟩
      · intro row old other there same _
        rw [Table.eq_of_key there old same]
      · intro other there unseen _
        exact absurd (known other there) unseen

/-- In every run, a synchronisation removes no row, keeps the decision about a row that stands for
the same guest, and backs up no guest that was never seen unless that is wanted, exactly when no
such guest takes over the row of one that is backed up. -/
theorem keeps_iff_unclaimed
    (reached : (inventory clientNode).Reachable System.unguarded dashboard)
    (preferences : ProxmoxSettings) (report : Report) (now : ℤ) :
    Keeps preferences.autoEnableNewGuests dashboard
        (dashboard.synced clientNode preferences report now) ↔
      Unclaimed preferences.autoEnableNewGuests (discovered clientNode preferences report)
        dashboard :=
  (known_of_reachable reached).keeps_iff

/-- Preferences that leave new guests alone. -/
def cautious : ProxmoxSettings := ⟨"pve", false⟩

/-- A guest of the number 101. -/
def numbered : PveGuest := ⟨101, "web", "running", []⟩

/-- A machine is met and then backed up. -/
def optedIn : List Action := [.sync cautious ⟨[numbered], []⟩ 0, .setBackupEnabled 1 true]

/-- A machine that is backed up is met again, and a container for the first time. -/
theorem keeps_next_sync :
    ∃ dashboard, (inventory "pve").Reachable System.unguarded dashboard ∧
      dashboard.guests.table.rows.map Guest.backupEnabled = [true] ∧
      Keeps false dashboard (dashboard.synced "pve" cautious
        ⟨[numbered], [{ numbered with vmid := 102 }]⟩ 1) := by
  obtain ⟨dashboard, reached, shown⟩ : ∃ dashboard,
      (inventory "pve").Reachable System.unguarded dashboard ∧
        (decide (dashboard.guests.table.rows.map Guest.backupEnabled = [true]) &&
          decide (Unclaimed false (discovered "pve" cautious
            ⟨[numbered], [{ numbered with vmid := 102 }]⟩) dashboard)) = true := by
    refine System.exists_of_runFrom rfl optedIn _ ?_
    decide +kernel
  rw [Bool.and_eq_true] at shown
  exact ⟨dashboard, reached, of_decide_eq_true shown.1,
    (keeps_iff_unclaimed reached cautious _ 1).mpr (of_decide_eq_true shown.2)⟩

/-- A container that uses the number of a machine that is backed up is backed up at once. -/
theorem not_keeps :
    ∃ dashboard, (inventory "pve").Reachable System.unguarded dashboard ∧
      ¬ Keeps false dashboard (dashboard.synced "pve" cautious ⟨[], [numbered]⟩ 1) := by
  obtain ⟨dashboard, reached, shown⟩ : ∃ dashboard,
      (inventory "pve").Reachable System.unguarded dashboard ∧
        (!decide (Unclaimed false (discovered "pve" cautious ⟨[], [numbered]⟩) dashboard)) =
          true := by
    refine System.exists_of_runFrom rfl optedIn _ ?_
    decide +kernel
  refine ⟨dashboard, reached, fun keeps => ?_⟩
  change Keeps cautious.autoEnableNewGuests dashboard _ at keeps
  have unclaimed := (known_of_reachable reached).keeps_iff.mp keeps
  rw [Bool.not_eq_true', decide_eq_false_iff_not] at shown
  exact shown unclaimed

end ProxSync.Inventory

import ProxSync.Retention.Classify
/-!
# One trigger for each guest

Retention is asked about a guest through one of its rows, and answers under the policy of that row's
run. A notification is mapped to the newest row of the guest with a copy, and the start-up sweep
lists such a row for every guest. Both name the same row, and the guests that are listed are those
whose copies a pass ranks.
-/
open ProxSync.Lib

namespace ProxSync.Retention

/-! ## The sweep -/

/-- The order of the sweep: by guest, then newest first. -/
def guestThenNewest (first second : RetentionBackup) : Bool :=
  decide (first.vmid < second.vmid) || (first.vmid == second.vmid &&
    (decide (first.guestType.value < second.guestType.value) ||
      (first.guestType == second.guestType && !newestFirst second first)))

/-- The rows with a copy anywhere, as the sweep reads them. -/
def copiesByGuest (db : Database) : List RetentionBackup :=
  (db.history.rows.filter existingCopyClause).insertionSort
    fun first second => guestThenNewest first second = true

/-- The newest row with a copy of each guest: the first one the sweep sees. -/
def newestTriggerBackupIds (db : Database) : List Nat :=
  (firsts BackupHistory.key [] (copiesByGuest db)).map BackupHistory.id

/-- Every way to name a guest to retention leads to one row of it, and no guest with a copy is left
out. -/
structure OneTriggerPerGuest (db : Database) : Prop where
  /-- The sweep lists one row of each guest that has a copy, in the order of the guests. -/
  listed : (newestTriggerBackupIds db).map (guestForBackup db) = (guestKeys db).map some
  distinct : (guestKeys db).Nodup
  /-- Every row of such a guest leads to the listed one, and the pass is about the guest. -/
  canonical : ∀ guest ∈ guestKeys db, ∃ id ∈ newestTriggerBackupIds db,
    guestsInScope db (some id) = .ok [guest] ∧ ∀ record ∈ db.history, record.key = guest →
      canonicalTriggerBackupId db record.id = some id
  /-- The copies that put a guest on the list are those a pass ranks. -/
  copies : ∀ record, (record ∈ db.history ∧ existingCopyClause record = true) ↔
    ∃ guest, record ∈ localForGuest db guest ∨ record ∈ remoteForGuest db guest
  guests : ∀ guest, guest ∈ guestKeys db ↔
    ∃ record, record ∈ localForGuest db guest ∨ record ∈ remoteForGuest db guest
  /-- So the policy is the same whichever row named the guest. -/
  policy : ∀ settings, ∀ guest ∈ guestKeys db, ∃ id ∈ newestTriggerBackupIds db,
    guestForBackup db id = some guest ∧ ∀ record ∈ db.history, record.key = guest →
      policy settings db (canonicalTriggerBackupId db record.id) = policy settings db (some id)

/-! ## Orders -/

/-- Guest kinds in the order of their texts. -/
theorem guestType_value_le {first second : GuestType} :
    first.value ≤ second.value ↔ first = .lxc ∨ second = .vm := by
  cases first <;> cases second <;> decide

/-- Guest kinds in the strict order of their texts. -/
theorem guestType_value_lt {first second : GuestType} :
    first.value < second.value ↔ first = .lxc ∧ second = .vm := by
  cases first <;> cases second <;> decide

instance : Std.Total fun first second : GuestKey => guestBefore first second = true where
  total first second := by
    obtain ⟨vmid, kind⟩ := first
    obtain ⟨other, otherKind⟩ := second
    simp only [guestBefore, Bool.or_eq_true, Bool.and_eq_true, decide_eq_true_eq, beq_iff_eq,
      guestType_value_le]
    cases kind <;> cases otherKind <;> simp <;> omega

instance : IsTrans GuestKey fun first second => guestBefore first second = true where
  trans first second third before after := by
    obtain ⟨vmid, kind⟩ := first
    obtain ⟨other, otherKind⟩ := second
    obtain ⟨last, lastKind⟩ := third
    simp only [guestBefore, Bool.or_eq_true, Bool.and_eq_true, decide_eq_true_eq, beq_iff_eq,
      guestType_value_le] at before after ⊢
    cases kind <;> cases otherKind <;> cases lastKind <;> simp at before after ⊢ <;> omega

/-- Guests that come before one another are the same guest. -/
theorem guestBefore_antisymm {first second : GuestKey} (before : guestBefore first second = true)
    (after : guestBefore second first = true) : first = second := by
  obtain ⟨vmid, kind⟩ := first
  obtain ⟨other, otherKind⟩ := second
  simp only [guestBefore, Bool.or_eq_true, Bool.and_eq_true, decide_eq_true_eq, beq_iff_eq,
    guestType_value_le] at before after
  rw [Prod.mk.injEq]
  cases kind <;> cases otherKind <;> simp at before after ⊢ <;> omega

/-- The sweep goes by the guest, and within one guest from the newest row on. -/
theorem guestThenNewest_iff {first second : RetentionBackup} :
    guestThenNewest first second = true ↔
      (first.key = second.key ∧ NotAfter first second) ∨
        (first.key ≠ second.key ∧ guestBefore first.key second.key = true) := by
  simp only [guestThenNewest, guestBefore, NotAfter, BackupHistory.key, Bool.or_eq_true,
    Bool.and_eq_true, Bool.not_eq_true', decide_eq_true_eq, beq_iff_eq, guestType_value_le,
    guestType_value_lt, Prod.mk.injEq, ne_eq]
  by_cases same : first.vmid = second.vmid
  · cases first.guestType <;> cases second.guestType <;> simp [same]
  · simp only [same, false_and, or_false, not_false_eq_true, true_and, false_or]
    exact decide_eq_true_iff.symm

instance : Std.Total fun first second : RetentionBackup => guestThenNewest first second = true where
  total first second := by
    rw [guestThenNewest_iff, guestThenNewest_iff]
    by_cases same : first.key = second.key
    · rcases total_of NotAfter first second with before | after
      · exact .inl (.inl ⟨same, before⟩)
      · exact .inr (.inl ⟨same.symm, after⟩)
    · rcases total_of (fun one two : GuestKey => guestBefore one two = true) first.key second.key
        with before | after
      · exact .inl (.inr ⟨same, before⟩)
      · exact .inr (.inr ⟨Ne.symm same, after⟩)

instance : IsTrans RetentionBackup fun first second => guestThenNewest first second = true where
  trans first second third before after := by
    rw [guestThenNewest_iff] at before after ⊢
    rcases before with ⟨same, newer⟩ | ⟨different, ahead⟩
    · rw [same]
      exact after.imp (And.imp_right (trans_of NotAfter newer)) id
    · rcases after with ⟨same, -⟩ | ⟨-, further⟩
      · exact .inr ⟨same ▸ different, same ▸ ahead⟩
      · have whole : guestBefore first.key third.key = true :=
          trans_of (fun one two : GuestKey => guestBefore one two = true) ahead further
        refine .inr ⟨fun same => different ?_, whole⟩
        exact guestBefore_antisymm ahead (same ▸ further)

section Sweep

variable {db : Database} {guest : GuestKey} {record : BackupHistory}

/-- The sweep reads the rows with a copy. -/
theorem mem_copiesByGuest : record ∈ copiesByGuest db ↔
    record ∈ db.history ∧ existingCopyClause record = true := by
  rw [copiesByGuest, (List.perm_insertionSort _ _).mem_iff, List.mem_filter, Table.mem_iff]

/-- The guests of the sweep are those with a copy. -/
theorem mem_guestKeys : guest ∈ guestKeys db ↔
    ∃ record ∈ db.history, existingCopyClause record = true ∧ record.key = guest := by
  rw [guestKeys, (List.perm_insertionSort _ _).mem_iff, List.mem_dedup, List.mem_map]
  simp only [List.mem_filter, Table.mem_iff, and_assoc]

/-- A pass ranks the rows of a guest that have a copy. -/
theorem mem_copies : record ∈ localForGuest db guest ∨ record ∈ remoteForGuest db guest ↔
    record ∈ db.history ∧ existingCopyClause record = true ∧ record.key = guest := by
  have either : existingCopyClause record = true ↔
      hasCopy .localCopy record = true ∨ hasCopy .remoteCopy record = true := Bool.or_eq_true_iff
  rw [localForGuest, remoteForGuest, mem_copiesForGuest, mem_copiesForGuest, either]
  tauto

/-- No guest with a copy is named twice. -/
theorem guestKeys_nodup (db : Database) : (guestKeys db).Nodup :=
  (List.perm_insertionSort _ _).nodup_iff.mpr (List.nodup_dedup _)

/-- The rows of one guest, as the sweep reads them, are those of its query. -/
theorem copiesByGuest_filter (db : Database) (guest : GuestKey) :
    (copiesByGuest db).filter (fun record => record.key == guest) =
      orderNewestFirst (db.history.rows.filter fun record =>
        record.key == guest && existingCopyClause record) := by
  have distinct : db.history.rows.Pairwise fun first second => first.id ≠ second.id :=
    db.history.ascending.imp fun below => below.ne
  have reordered : ((copiesByGuest db).filter fun record => record.key == guest).Perm
      (db.history.rows.filter fun record => record.key == guest && existingCopyClause record) := by
    rw [← List.filter_filter]
    exact (List.perm_insertionSort _ _).filter _
  have sorted : ((copiesByGuest db).filter fun record => record.key == guest).Pairwise
      fun first second => newestFirst first second = true := by
    have apart : (copiesByGuest db).Pairwise fun first second => first.id ≠ second.id :=
      ((List.perm_insertionSort _ _).pairwise_iff fun different => different.symm).mpr
        (distinct.filter _)
    have ordered : (copiesByGuest db).Pairwise
        fun first second => guestThenNewest first second = true := List.pairwise_insertionSort _ _
    refine ((apart.and ordered).filter _).imp_of_mem ?_
    intro first second here there both
    have one := beq_iff_eq.mp (List.mem_filter.mp here).2
    have two := beq_iff_eq.mp (List.mem_filter.mp there).2
    rcases guestThenNewest_iff.mp both.2 with ⟨-, notAfter⟩ | ⟨different, -⟩
    · exact newestFirst_total both.1 notAfter
    · exact absurd (one.trans two.symm) different
  refine List.Perm.eq_of_pairwise ?_ sorted (orderNewestFirst_sorted (distinct.filter _))
    (reordered.trans (orderNewestFirst_perm _).symm)
  intro first second _ _ before after
  rw [newestFirst_asymmetric _ _ before] at after
  cases after

/-- A row of a guest leads to the row the sweep finds first for the guest. -/
theorem canonical_eq_find (stored : record ∈ db.history) (own : record.key = guest) :
    canonicalTriggerBackupId db record.id =
      ((copiesByGuest db).find? fun other => other.key == guest).map BackupHistory.id := by
  have about : guestForBackup db record.id = some guest := by
    rw [guestForBackup, Table.get_of_mem stored, Option.map_some, own]
  unfold canonicalTriggerBackupId
  rw [about]
  dsimp only
  rw [← copiesByGuest_filter, List.head?_filter]

/-- The guests of the listed rows are the guests with a copy, in their order. -/
theorem firsts_keys (db : Database) :
    (firsts BackupHistory.key [] (copiesByGuest db)).map BackupHistory.key = guestKeys db := by
  have ordered : ((copiesByGuest db).map BackupHistory.key).Pairwise
      fun first second => guestBefore first second = true := by
    have rows : (copiesByGuest db).Pairwise
        fun first second => guestThenNewest first second = true := List.pairwise_insertionSort _ _
    refine List.pairwise_map.mpr (rows.imp fun before => ?_)
    rcases guestThenNewest_iff.mp before with ⟨same, -⟩ | ⟨-, ahead⟩
    · rw [same]
      exact (total_of (fun one two : GuestKey => guestBefore one two = true) _ _).elim id id
    · exact ahead
  have listed : (guestKeys db).Pairwise fun first second => guestBefore first second = true :=
    List.pairwise_insertionSort _ _
  have same : ((firsts BackupHistory.key [] (copiesByGuest db)).map BackupHistory.key).Perm
      (guestKeys db) := by
    refine (List.perm_ext_iff_of_nodup (firsts_nodup _) (guestKeys_nodup db)).mpr fun guest => ?_
    rw [mem_firsts_keys, List.mem_map, mem_guestKeys]
    simp only [mem_copiesByGuest, and_assoc]
  refine List.Perm.eq_of_pairwise ?_ (ordered.sublist ((firsts_sublist _ _).map _)) listed same
  exact fun _ _ _ _ => guestBefore_antisymm

/-- The row that is listed for a guest: every row of the guest leads to it. -/
theorem exists_listed (known : guest ∈ guestKeys db) : ∃ id ∈ newestTriggerBackupIds db,
    guestForBackup db id = some guest ∧ ∀ record ∈ db.history, record.key = guest →
      canonicalTriggerBackupId db record.id = some id := by
  rw [← firsts_keys] at known
  obtain ⟨first, kept, rfl⟩ := List.mem_map.mp known
  have stored : first ∈ db.history :=
    (mem_copiesByGuest.mp ((firsts_sublist [] _).subset kept)).1
  refine ⟨first.id, List.mem_map_of_mem kept, ?_, fun record there own => ?_⟩
  · rw [guestForBackup, Table.get_of_mem stored, Option.map_some]
  · rw [canonical_eq_find there own, (mem_firsts.mp kept).2, Option.map_some]

/-- Each guest with a copy is evaluated under one row, which every trigger and the sweep name. -/
theorem one_trigger_per_guest (db : Database) : OneTriggerPerGuest db where
  listed := by
    rw [← firsts_keys, newestTriggerBackupIds, List.map_map, List.map_map]
    apply List.map_congr_left
    intro first kept
    have stored : first ∈ db.history :=
      (mem_copiesByGuest.mp ((firsts_sublist [] _).subset kept)).1
    rw [Function.comp_apply, guestForBackup, Table.get_of_mem stored]
    rfl
  distinct := guestKeys_nodup db
  canonical := by
    intro guest known
    obtain ⟨id, listed, about, leads⟩ := exists_listed known
    refine ⟨id, listed, ?_, leads⟩
    unfold guestsInScope
    simp only [about]
  copies := by
    intro record
    constructor
    · rintro ⟨stored, exists_⟩
      exact ⟨record.key, mem_copies.mpr ⟨stored, exists_, rfl⟩⟩
    · rintro ⟨guest, ranked⟩
      obtain ⟨stored, exists_, -⟩ := mem_copies.mp ranked
      exact ⟨stored, exists_⟩
  guests := by
    intro guest
    simp only [mem_guestKeys, mem_copies]
  policy := by
    intro settings guest known
    obtain ⟨id, listed, about, leads⟩ := exists_listed known
    exact ⟨id, listed, about, fun record stored own => by rw [leads record stored own]⟩

end Sweep

end ProxSync.Retention

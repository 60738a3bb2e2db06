import ProxSync.Retention.Repeat
/-!
# The preview of a pass

A preview classifies every copy under proposed counts and changes nothing. If these counts are saved
and a pass then runs from the same database, with an agent that carries out every request, its
decisions are those of the preview one by one, and the copies it deletes are those the preview said
it would. Each deletion is planned again on rows that carry the marks of the ones before, so what is
shown of a row has to survive its marks.
-/
open ProxSync.Lib

namespace ProxSync.Retention

/-- What a preview asks for: counts that need not be saved, and a trigger. -/
structure RetentionPreviewRequest where
  keepLocal : Option Nat
  keepRemote : Option Nat
  backupId : Option Nat
  localBounds : ∀ count ∈ keepLocal, 1 ≤ count ∧ count ≤ 365
  remoteBound : ∀ count ∈ keepRemote, count ≤ 365

namespace RetentionPreviewRequest

/-- The proposed counts; what is not proposed is taken from the settings. -/
def keep (request : RetentionPreviewRequest) (stored : KeepCounts) : KeepCounts where
  keepLocal := request.keepLocal.getD stored.keepLocal
  keepRemote := request.keepRemote.getD stored.keepRemote
  localBounds := by
    cases proposed : request.keepLocal with
    | none => exact stored.localBounds
    | some count => exact request.localBounds count proposed
  remoteBound := by
    cases proposed : request.keepRemote with
    | none => exact stored.remoteBound
    | some count => exact request.remoteBound count proposed

/-- The policy of a preview: no run is asked for its counts, and nothing is deleted. -/
def policy (request : RetentionPreviewRequest) (settings : Settings) :
    RetentionPolicySnapshot :=
  let resolution := globalPolicy (request.keep settings.retention.keep)
  { keep := resolution.keep
    retentionSource := resolution.source
    policyResolved := resolution.resolved
    policyBlockReason := resolution.blockReason
    policyRunId := resolution.runId
    policyJobId := resolution.jobId
    dryRun := true
    storageWarningPercent := settings.retention.storageWarningPercent
    storageCriticalPercent := settings.retention.storageCriticalPercent
    gdriveEnabled := settings.gdrive.enabled
    deleteRemoteOnRetention := settings.gdrive.deleteRemoteOnRetention
    remoteName := settings.gdrive.remoteName
    remoteFolder := settings.gdrive.folder
    triggerBackupId := request.backupId }

/-- The settings after the proposed counts are saved, and deletions are real. -/
def saved (request : RetentionPreviewRequest) (settings : Settings) : Settings where
  retention := { settings.retention with
    keep := request.keep settings.retention.keep, dryRun := false }
  gdrive := settings.gdrive

end RetentionPreviewRequest

/-- Classify the copies under proposed counts. -/
def preview (settings : Settings) (request : RetentionPreviewRequest) (db : Database) :
    Except String RetentionResponse :=
  (plans (request.policy settings) db request.backupId).map fun planned =>
    let items := planned.map render
    ⟨request.policy settings, items, summarise items⟩

/-! ## What is shown of a row -/

/-- Two states of a row that are shown alike. -/
structure ShownAlike (old new : BackupHistory) : Prop where
  id : new.id = old.id
  vmid : new.vmid = old.vmid
  guestType : new.guestType = old.guestType
  guestName : new.guestName = old.guestName
  filename : new.filename = old.filename
  sizeBytes : new.sizeBytes = old.sizeBytes
  remoteSizeBytes : new.remoteSizeBytes = old.remoteSizeBytes

/-- A mark changes nothing that is shown. -/
theorem shownAlike_markDeletedRow (place : RetentionLocation) (now : Instant)
    (row : BackupHistory) : ShownAlike row (markDeletedRow place now row) := by
  cases place <;>
    simp only [markDeletedRow, markLocalDeletedRow, markRemoteDeletedRow, refreshStatus] <;>
    split <;> exact ⟨rfl, rfl, rfl, rfl, rfl, rfl, rfl⟩

/-- Rows that are shown alike one after the other are. -/
theorem ShownAlike.trans {first second third : BackupHistory} (one : ShownAlike first second)
    (two : ShownAlike second third) : ShownAlike first third where
  id := two.id.trans one.id
  vmid := two.vmid.trans one.vmid
  guestType := two.guestType.trans one.guestType
  guestName := two.guestName.trans one.guestName
  filename := two.filename.trans one.filename
  sizeBytes := two.sizeBytes.trans one.sizeBytes
  remoteSizeBytes := two.remoteSizeBytes.trans one.remoteSizeBytes

/-- A row is shown with its marks as without them. -/
theorem shownAlike_wear (marks : RetentionLocation → Option Instant) (row : BackupHistory) :
    ShownAlike row (wear marks row) := by
  have one : ∀ place mark state, ShownAlike state (wearAt place mark state) := by
    intro place mark state
    cases mark with
    | none => exact ⟨rfl, rfl, rfl, rfl, rfl, rfl, rfl⟩
    | some now => exact shownAlike_markDeletedRow place now state
  exact (one .localCopy _ row).trans (one .remoteCopy _ _)

/-- Rows that are shown alike have copies of one size. -/
theorem ShownAlike.copySize {old new : BackupHistory} (alike : ShownAlike old new)
    (location : RetentionLocation) : copySize new location = copySize old location := by
  cases location <;> simp only [Retention.copySize, alike.sizeBytes, alike.remoteSizeBytes]

/-! ## Decisions that were carried out -/

/-- A decision that was carried out, beside the one that was shown for it. -/
structure CarriedOut (shown done : RetentionDecision) : Prop where
  backupId : done.backupId = shown.backupId
  vmid : done.vmid = shown.vmid
  guestType : done.guestType = shown.guestType
  guestName : done.guestName = shown.guestName
  filename : done.filename = shown.filename
  location : done.location = shown.location
  action : done.action = shown.action
  sizeBytes : done.sizeBytes = shown.sizeBytes
  wouldDelete : done.wouldDelete = shown.wouldDelete
  deleted : done.deleted = shown.wouldDelete
  error : done.error = none

section Carried

variable {db : Database} {policy : RetentionPolicySnapshot} {guest : GuestKey}
  {plan original : PlannedDecision} {backupId : Option Nat} {planned : List PlannedDecision}

/-- The size of a decision is that of its copy. -/
theorem guestPlans_sized (member : plan ∈ guestPlans policy db guest) :
    plan.sizeBytes = copySize plan.backup plan.location := by
  have classified : ∀ location keep (rows : List RetentionBackup) blocker row,
      (classify location keep rows blocker row).sizeBytes = copySize row location := by
    intro location keep rows blocker row
    unfold classify
    dsimp only
    repeat' split
    all_goals rfl
  unfold guestPlans at member
  dsimp only at member
  split at member
  · rcases List.mem_append.mp member with listed | listed <;>
    · obtain ⟨row, -, rfl⟩ := List.mem_map.mp listed
      rw [classified, classify_subject.1, classify_subject.2]
  · rcases List.mem_append.mp member with listed | listed <;>
    · obtain ⟨row, -, rfl⟩ := List.mem_map.mp listed
      rfl

/-- A plan has the size of its copy. -/
theorem plans_sized (classified : plans policy db backupId = .ok planned)
    (member : plan ∈ planned) : plan.sizeBytes = copySize plan.backup plan.location := by
  unfold plans at classified
  cases scope : guestsInScope db backupId with
  | error message => simp [scope, Except.map] at classified
  | ok guests =>
    simp only [scope, Except.map, Except.ok.injEq] at classified
    rw [← classified, List.mem_flatMap] at member
    obtain ⟨guest, -, inGuest⟩ := member
    exact guestPlans_sized inGuest

/-- The same is planned under policies that decide alike. -/
theorem plans_alike {other : RetentionPolicySnapshot} (alike : DecidesAlike policy other) :
    plans other db backupId = plans policy db backupId := by
  have same : ∀ guest, guestPlans other db guest = guestPlans policy db guest := by
    intro guest
    have itself : SameForGuest guest 0 db db := ⟨rfl, fun _ _ _ => rfl, rfl⟩
    exact itself.guestPlans alike
  unfold plans
  simp only [funext same]

/-- A deletion that the agent carries out is the one that was shown. -/
theorem carriedOut_delete {reply : DeleteReply} {now : Instant} (removes : reply.removes = true)
    (alike : ShownAlike original.backup plan.backup) (place : plan.location = original.location)
    (action : plan.action = original.action) (size : plan.sizeBytes = original.sizeBytes)
    (would : original.wouldDelete = true) (deletes : plan.wouldDelete = true) :
    CarriedOut (render original) (delete db plan reply now).2 := by
  have shown : ∀ item : RetentionDecision, item.backupId = plan.backup.id →
      item.vmid = plan.backup.vmid → item.guestType = plan.backup.guestType →
      item.guestName = plan.backup.guestName → item.filename = plan.backup.filename.getD "" →
      item.location = plan.location → item.action = plan.action →
      item.sizeBytes = plan.sizeBytes → item.wouldDelete = plan.wouldDelete →
      item.deleted = true → item.error = none → CarriedOut (render original) item := by
    intro item id vmid kind name file where_ what bytes wish gone none
    constructor
    · exact id.trans alike.id
    · exact vmid.trans alike.vmid
    · exact kind.trans alike.guestType
    · exact name.trans alike.guestName
    · rw [file, alike.filename, render]
    · exact where_.trans place
    · exact what.trans action
    · exact bytes.trans size
    · exact wish.trans (deletes.trans would.symm)
    · exact gone.trans would.symm
    · exact none
  cases reply with
  | removed freed => exact shown _ rfl rfl rfl rfl rfl rfl rfl rfl rfl rfl rfl
  | agentError status detail =>
    have missing : status = some 404 := beq_iff_eq.mp removes
    have answered : (delete db plan (.agentError status detail) now).2 = { render plan with
        deleted := true, reconciled := true
        reason := s!"reconciled_missing_{plan.location.value}" } := by
      rw [missing]
      rfl
    rw [answered]
    exact shown _ rfl rfl rfl rfl rfl rfl rfl rfl rfl rfl rfl
  | appError detail => cases removes
  | crashed detail => cases removes

/-- A decision that deletes nothing is carried out as it is shown. -/
theorem carriedOut_render (idle : plan.wouldDelete = false) :
    CarriedOut (render plan) (render plan) :=
  ⟨rfl, rfl, rfl, rfl, rfl, rfl, rfl, rfl, rfl, idle.symm, rfl⟩

end Carried

/-! ## A pass carries out what is shown -/

section Passes

variable {input : PassInput} {start : Database} {state : PassState}
  {original : PlannedDecision} {record : BackupHistory}
  {marks : Nat → RetentionLocation → Option Instant} {chosen planned : List PlannedDecision}

/-- The decision that is completed for a doomed candidate. -/
theorem applyCandidate_completed (obliging : Obliging input) (calm : state.raised = none)
    (doomed : Doomed input state.db original.location record)
    (named : record.id = original.backup.id) :
    ∃ plan reply now, plan.backup = record ∧ plan.location = original.location ∧
      plan.wouldDelete = true ∧ plan.action = deletion original.location ∧
      plan.sizeBytes = copySize record original.location ∧ DeleteReply.removes reply = true ∧
      (applyCandidate input state original).completed =
        (delete state.db plan reply now).2 :: state.completed := by
  obtain ⟨planned, classified, plan, member, rfl, place, deletes⟩ :=
    exists_plan doomed.covered doomed.resolved doomed.removable
  have judged : revalidateCandidate input state.db original =
      .ok (policy input.settings state.db input.backupId, plan) := by
    have found := find_plan classified member
    rw [named, place] at found
    simp only [revalidateCandidate, classified, Except.map, found]
  have action := (plans_wellClassified classified member).1 deletes
  have size := plans_sized classified member
  rw [place] at action size
  refine ⟨plan, input.agent state.calls.length, input.clock state.calls.length, rfl, place,
    deletes, action, size, obliging _, ?_⟩
  simp [applyCandidate, calm, judged, deletes, doomed.real, PassState.settle]

/-- A candidate as it was planned when the pass began. -/
structure Chosen (start : Database) (original : PlannedDecision) : Prop where
  stored : original.backup ∈ start.history
  deletes : original.wouldDelete = true
  action : original.action = deletion original.location
  size : original.sizeBytes = copySize original.backup original.location

/-- The row a candidate finds is shown as the one it was planned on. -/
theorem shownAlike_found (worked : Worked start state marks)
    (stored : original.backup ∈ start.history) (found : record ∈ state.db.history)
    (named : record.id = original.backup.id) :
    ShownAlike original.backup record := by
  have member : record ∈ state.db.history.rows := found
  rw [worked.worn] at member
  obtain ⟨row, was, rfl⟩ := List.mem_map.mp member
  have same : row = original.backup :=
    Table.eq_of_key was stored ((shownAlike_wear (marks row.id) row).id.symm.trans named)
  rw [← same]
  exact shownAlike_wear _ row

/-- Every candidate is carried out as it was planned. -/
theorem carriedOut_candidates (obliging : Obliging input) (worked : Worked start state marks)
    (pending : ∀ original ∈ chosen, Waiting input state original)
    (planned : ∀ original ∈ chosen, Chosen start original)
    (distinct : (chosen.map PlannedDecision.key).Nodup)
    (ordered : chosen.Pairwise fun first later => first.location = .remoteCopy →
      later.location = .localCopy → later.backup.key ≠ first.backup.key) :
    (chosen.foldl (applyCandidate input) state).raised = none ∧
      ∃ items, (chosen.foldl (applyCandidate input) state).completed = items ++ state.completed ∧
        (∀ original ∈ chosen, ∃ item ∈ items, CarriedOut (render original) item) ∧
        ∀ item ∈ items, ∃ original ∈ chosen, CarriedOut (render original) item := by
  induction chosen generalizing state marks with
  | nil => exact ⟨worked.calm, [], rfl, by simp, by simp⟩
  | cons original rest ih =>
    rw [List.map_cons, List.nodup_cons] at distinct
    rw [List.pairwise_cons] at ordered
    have waits := pending original List.mem_cons_self
    have begun := planned original List.mem_cons_self
    obtain ⟨record, named, -, doomed⟩ := waits.doomed
    obtain ⟨plan, reply, now, rfl, place, deletes, action, size, removes, completed⟩ :=
      applyCandidate_completed obliging worked.calm doomed named
    have alike := shownAlike_found worked begun.stored doomed.removable.stored named
    have done : CarriedOut (render original) (delete state.db plan reply now).2 :=
      carriedOut_delete removes alike place (action.trans begun.action.symm)
        (size.trans ((alike.copySize _).trans begun.size.symm)) begun.deletes deletes
    obtain ⟨next, nextWorked, -, remaining⟩ := work_candidate obliging worked waits
    obtain ⟨calm, items, appended, each, every⟩ := ih nextWorked (by
      intro later member
      refine remaining later (pending later (List.mem_cons_of_mem _ member)) ?_
        (ordered.1 later member)
      intro same
      exact distinct.1 (same ▸ List.mem_map_of_mem member))
      (fun later member => planned later (List.mem_cons_of_mem _ member)) distinct.2 ordered.2
    refine ⟨calm, items ++ [(delete state.db plan reply now).2], ?_, ?_, ?_⟩
    · rw [List.foldl_cons, appended, completed, List.append_assoc, List.singleton_append]
    · intro one member
      rcases List.mem_cons.mp member with rfl | later
      · exact ⟨_, List.mem_append_right _ (List.mem_singleton_self _), done⟩
      · obtain ⟨item, inside, carried⟩ := each one later
        exact ⟨item, List.mem_append_left _ inside, carried⟩
    · intro item member
      rcases List.mem_append.mp member with before | last
      · obtain ⟨one, inside, carried⟩ := every item before
        exact ⟨one, List.mem_cons_of_mem _ inside, carried⟩
      · rw [List.mem_singleton.mp last]
        exact ⟨original, List.mem_cons_self, done⟩

/-- The decisions that need no deletion are completed as they are shown. -/
theorem completed_settleStatic (current : RetentionPolicySnapshot) (real : current.dryRun = false)
    (planned : List PlannedDecision) (state : PassState) :
    (planned.foldl (settleStatic input current) state).completed =
      ((planned.filter fun plan => !plan.wouldDelete).map render).reverse ++ state.completed := by
  induction planned generalizing state with
  | nil => rfl
  | cons plan rest ih =>
    rw [List.foldl_cons, ih]
    by_cases deletes : plan.wouldDelete = true
    · have same : settleStatic input current state plan = state := by
        simp [settleStatic, deletes, real]
      rw [same, List.filter_cons_of_neg (by simp [deletes])]
    · have settled : (settleStatic input current state plan).completed =
          render plan :: state.completed := by
        simp [settleStatic, deletes, PassState.settle]
      rw [settled, List.filter_cons_of_pos (by simpa using deletes), List.map_cons,
        List.reverse_cons, List.append_assoc, List.singleton_append]

/-- A pass with an agent that obliges completes every decision that was planned, each as it is
shown, and no other. -/
theorem carriedOut_applyPass (obliging : Obliging input)
    (real : (policy input.settings start input.backupId).dryRun = false)
    (classified : plans (policy input.settings start input.backupId) start input.backupId =
      .ok planned) :
    (applyPass input start).raised = none ∧
      (∀ plan ∈ planned, ∃ item ∈ (applyPass input start).completed,
        CarriedOut (render plan) item) ∧
      ∀ item ∈ (applyPass input start).completed, ∃ plan ∈ planned,
        CarriedOut (render plan) item := by
  unfold applyPass
  simp only [classified]
  let current := policy input.settings start input.backupId
  obtain ⟨calls, same⟩ := settleStatic_foldl input current planned ⟨start, [], [], none⟩
  have calm := @foldl_settleStatic_raised input current planned ⟨start, [], [], none⟩
  let opened := planned.foldl (settleStatic input current) ⟨start, [], [], none⟩
  have fresh : Worked start opened fun _ _ => none := worked_start calls calm same
  have sublist : (candidates current planned).Sublist planned := List.filter_sublist
  have listed : ∀ original, original ∈ candidates current planned ↔
      original ∈ planned ∧ original.wouldDelete = true := by
    intro original
    simp [candidates, current, real]
  have doomed : ∀ original ∈ candidates current planned,
      Doomed input start original.location original.backup := by
    intro original inside
    obtain ⟨member, deletes⟩ := (listed original).mp inside
    obtain ⟨covered, resolved⟩ := plans_covered classified member deletes
    exact ⟨covered, resolved, real, plans_removable classified member deletes⟩
  obtain ⟨quiet, items, completed, each, every⟩ := carriedOut_candidates obliging fresh (by
      intro original inside
      have unsent : ∀ location, ¬ Sent opened.calls original.backup.id location := by
        intro location was
        rw [show opened.calls = [] from calls] at was
        exact List.not_mem_nil was.choose_spec.1
      have own := doomed original inside
      refine ⟨unsent _, fun _ => unsent _, original.backup, rfl, rfl, ?_⟩
      refine own.transfer rfl fresh.kept.policy_eq (fun id => ?_) (own.removable.congr same)
      unfold guestForBackup
      rw [same.history])
    (fun original inside => ⟨(doomed original inside).removable.stored,
      ((listed original).mp inside).2,
      (plans_wellClassified classified ((listed original).mp inside).1).1
        ((listed original).mp inside).2,
      plans_sized classified ((listed original).mp inside).1⟩)
    ((plans_nodup classified).sublist (sublist.map _))
    ((plans_ordered classified).sublist sublist)
  have statics := @completed_settleStatic input current real planned ⟨start, [], [], none⟩
  rw [show opened.completed = _ from statics, List.append_nil] at completed
  have idle : ∀ item, item ∈ ((planned.filter fun plan => !plan.wouldDelete).map render).reverse ↔
      ∃ plan ∈ planned, plan.wouldDelete = false ∧ render plan = item := by
    intro item
    simp [and_assoc]
  refine ⟨quiet, ?_, ?_⟩
  · intro plan member
    by_cases deletes : plan.wouldDelete = true
    · obtain ⟨item, inside, carried⟩ := each plan ((listed plan).mpr ⟨member, deletes⟩)
      exact ⟨item, completed ▸ List.mem_append_left _ inside, carried⟩
    · rw [Bool.not_eq_true] at deletes
      refine ⟨render plan, completed ▸ List.mem_append_right _ ?_, carriedOut_render deletes⟩
      exact (idle _).mpr ⟨plan, member, deletes, rfl⟩
  · intro item inside
    rw [completed] at inside
    rcases List.mem_append.mp inside with worked | settled
    · obtain ⟨plan, chosen, carried⟩ := every item worked
      exact ⟨plan, ((listed plan).mp chosen).1, carried⟩
    · obtain ⟨plan, member, deletes, rfl⟩ := (idle item).mp settled
      exact ⟨plan, member, carriedOut_render deletes⟩

end Passes

/-! ## The two answers -/

/-- What is found for each item is related to it item by item. -/
theorem forall₂_filterMap {α β : Type} {find : α → Option β} {relation : α → β → Prop}
    {items : List α}
    (each : ∀ item ∈ items, ∃ found, find item = some found ∧ relation item found) :
    List.Forall₂ relation items (items.filterMap find) := by
  induction items with
  | nil => exact .nil
  | cons item rest ih =>
    obtain ⟨found, here, related⟩ := each item List.mem_cons_self
    rw [List.filterMap_cons_some here]
    exact .cons related (ih fun other inside => each other (List.mem_cons_of_mem _ inside))

/-- Related lists hold as many items of one kind as of the other. -/
theorem countP_of_forall₂ {α β : Type} {relation : α → β → Prop} {first : List α}
    {second : List β} {one : α → Bool} {two : β → Bool}
    (related : List.Forall₂ relation first second)
    (agree : ∀ left right, relation left right → two right = one left) :
    second.countP two = first.countP one := by
  induction related with
  | nil => rfl
  | cons here _ ih => rw [List.countP_cons, List.countP_cons, ih, agree _ _ here]

section Answers

variable {settings : Settings} {request : RetentionPreviewRequest} {db : Database}
  {input : PassInput}

/-- A resolution that is resolved gives no reason to skip. -/
theorem resolvePolicy_reason (context : Option RetentionPolicyContext) (keep : KeepCounts) :
    (resolvePolicy context keep).resolved = true →
      (resolvePolicy context keep).blockReason = none := by
  generalize same : resolvePolicy context keep = resolution
  intro resolved
  unfold resolvePolicy at same
  cases context with
  | none =>
    subst same
    rfl
  | some context =>
    dsimp only at same
    repeat' split at same
    all_goals subst same
    all_goals first
      | rfl
      | exact (Bool.false_ne_true resolved).elim

/-- A policy that is resolved has no reason to block. -/
theorem policy_reason {trigger : Option Nat}
    (resolved : (policy settings db trigger).policyResolved = true) :
    (policy settings db trigger).policyBlockReason = none := by
  cases trigger with
  | none => rfl
  | some backupId => exact resolvePolicy_reason _ _ resolved

/-- The policy of a preview decides as that of the pass under the saved counts. -/
theorem decidesAlike_saved (saved : input.settings = request.saved settings)
    (resolved : (policy input.settings db input.backupId).policyResolved = true)
    (plain : (policy input.settings db input.backupId).keep = input.settings.retention.keep) :
    DecidesAlike { policy input.settings db input.backupId with dryRun := true }
      (request.policy settings) where
  resolved := resolved.symm
  reason := (policy_reason resolved).symm
  keep _ := by
    rw [plain, saved]
    rfl
  dryRun := rfl
  gdrive := by
    show settings.gdrive.enabled = input.settings.gdrive.enabled
    rw [saved]
    rfl
  remote := by
    show settings.gdrive.deleteRemoteOnRetention = input.settings.gdrive.deleteRemoteOnRetention
    rw [saved]
    rfl

/-- The same is planned for a preview as for the pass under the saved counts. -/
theorem plans_preview (saved : input.settings = request.saved settings)
    (trigger : input.backupId = request.backupId)
    (resolved : (policy input.settings db input.backupId).policyResolved = true)
    (plain : (policy input.settings db input.backupId).keep = input.settings.retention.keep) :
    plans (request.policy settings) db request.backupId =
      plans (policy input.settings db input.backupId) db input.backupId := by
  have dry : plans { policy input.settings db input.backupId with dryRun := true } db
      input.backupId = plans (policy input.settings db input.backupId) db input.backupId := rfl
  rw [← trigger, ← dry]
  exact plans_alike (decidesAlike_saved saved resolved plain)

/-- What is counted of the decisions of a pass is what was counted of the preview. -/
theorem summarise_carriedOut {shown done : List RetentionDecision}
    (carried : List.Forall₂ CarriedOut shown done)
    (none : ∀ item ∈ shown, item.action ≠ .failed) :
    (summarise done).evaluated = (summarise shown).evaluated ∧
      (summarise done).deletedLocal = (summarise shown).localDeleteCount ∧
      (summarise done).deletedRemote = (summarise shown).remoteDeleteCount ∧
      (summarise done).failed = 0 := by
  have deleted (location : RetentionLocation) :
      (done.countP fun item => item.deleted && item.location == location) =
        (shown.filter fun item => item.location == location && item.wouldDelete).length := by
    rw [← List.countP_eq_length_filter]
    apply countP_of_forall₂ carried
    intro left right here
    rw [here.deleted, here.location, Bool.and_comm]
  have failures : (done.countP fun item => item.action == .failed) =
      shown.countP fun item => item.action == .failed := by
    apply countP_of_forall₂ carried
    intro left right here
    rw [here.action]
  refine ⟨carried.length_eq.symm, deleted .localCopy, deleted .remoteCopy, ?_⟩
  refine failures.trans (List.countP_eq_zero.mpr fun item inside => ?_)
  simpa using none item inside

/-- If the proposed counts are saved and a pass runs from the same database with an agent that
carries out every request, then it fails where the preview fails, and otherwise its decisions are
those of the preview one by one: it deletes the copies that the preview said it would, no other, and
none of its deletions fails. Where a backup triggers the pass, its run must not have frozen other
counts, as a preview never asks the run. -/
theorem preview_applied (obliging : Obliging input)
    (saved : input.settings = request.saved settings)
    (trigger : input.backupId = request.backupId)
    (resolved : (policy input.settings db input.backupId).policyResolved = true)
    (plain : (policy input.settings db input.backupId).keep = input.settings.retention.keep) :
    (∀ message, preview settings request db = .error message →
      (apply input db).2 = .error message) ∧
    ∀ shown, preview settings request db = .ok shown → ∃ response,
      (apply input db).2 = .ok response ∧
      List.Forall₂ CarriedOut shown.items response.items ∧
      response.summary.deletedLocal = shown.summary.localDeleteCount ∧
      response.summary.deletedRemote = shown.summary.remoteDeleteCount ∧
      response.summary.failed = 0 ∧
      ∀ id location, Sent (applyPass input db).calls id location ↔
        ∃ item ∈ shown.items, item.backupId = id ∧ item.location = location ∧
          item.wouldDelete = true := by
  have real : (policy input.settings db input.backupId).dryRun = false := by
    show input.settings.retention.dryRun = false
    rw [saved]
    rfl
  have same := plans_preview saved trigger resolved plain
  unfold preview Retention.apply
  dsimp only
  rw [same]
  cases classified : plans (policy input.settings db input.backupId) db input.backupId with
  | error message =>
    constructor
    · intro other raised
      rw [← Except.error.inj raised]
    · intro shown answered
      cases answered
  | ok planned =>
    constructor
    · intro message raised
      cases raised
    intro shown answered
    obtain rfl := Except.ok.inj answered
    obtain ⟨calm, each, every⟩ := carriedOut_applyPass obliging real classified
    simp only [calm]
    -- A decision is looked up under its row and location, which no other decision has.
    have found : ∀ plan ∈ planned, ∃ item,
        decisionFor (applyPass input db).completed plan = some item ∧
          CarriedOut (render plan) item := by
      intro plan member
      obtain ⟨done, completed, carried⟩ := each plan member
      cases looked : decisionFor (applyPass input db).completed plan with
      | none =>
        have missed := List.find?_eq_none.mp looked done completed
        simp [carried.backupId, carried.location, render] at missed
      | some item =>
        obtain ⟨other, listed, about⟩ := every item (List.mem_of_find?_eq_some looked)
        have named := List.find?_some looked
        simp only [Bool.and_eq_true, beq_iff_eq, about.backupId, about.location] at named
        have key : other.key = plan.key := Prod.ext named.1 named.2
        rw [List.inj_on_of_nodup_map (plans_nodup classified) listed member key] at about
        exact ⟨item, rfl, about⟩
    have carried : List.Forall₂ CarriedOut (planned.map render)
        (planned.filterMap (decisionFor (applyPass input db).completed)) :=
      List.forall₂_map_left_iff.mpr (forall₂_filterMap found)
    have harmless : ∀ item ∈ planned.map render, item.action ≠ .failed := by
      intro item inside
      obtain ⟨plan, member, rfl⟩ := List.mem_map.mp inside
      have formed := plans_wellClassified classified member
      show plan.action ≠ .failed
      cases deletes : plan.wouldDelete with
      | true =>
        rw [formed.1 deletes]
        cases plan.location <;> exact fun same => by cases same
      | false =>
        rcases formed.2 deletes with kept | skipped
        · rw [kept]
          exact fun same => by cases same
        · rw [skipped]
          exact fun same => by cases same
    obtain ⟨-, locals, remotes, failures⟩ := summarise_carriedOut carried harmless
    refine ⟨_, rfl, carried, locals, remotes, failures, fun id location => ?_⟩
    rw [(applyPass_worked obliging).1]
    constructor
    · rintro ⟨record, -, rfl, doomed⟩
      obtain ⟨others, again, plan, member, rfl, rfl, deletes⟩ :=
        exists_plan doomed.covered doomed.resolved doomed.removable
      rw [classified] at again
      obtain rfl := Except.ok.inj again
      exact ⟨render plan, List.mem_map_of_mem member, rfl, rfl, deletes⟩
    · rintro ⟨item, inside, rfl, rfl, deletes⟩
      obtain ⟨plan, member, rfl⟩ := List.mem_map.mp inside
      have removable := plans_removable classified member deletes
      exact ⟨plan.backup, removable.stored, rfl,
        (plans_covered classified member deletes).1, resolved, real, removable⟩

end Answers

/-- A preview of the counts that are stored, for the guest of a backup. -/
def storedCounts : RetentionPreviewRequest := ⟨none, none, some 1, by simp, by simp⟩

/-- A pass deletes one local and one remote copy, as its preview announced. -/
theorem preview_applied_stored : ∃ response,
    (apply (promptPass ⟨1, 1, by decide, by decide⟩) (withOlderRow .success)).2 = .ok response ∧
      response.summary.deletedLocal = 1 ∧ response.summary.deletedRemote = 1 := by
  obtain ⟨shown, answered, counted⟩ : ∃ shown, preview
      (promptPass ⟨1, 1, by decide, by decide⟩).settings storedCounts (withOlderRow .success) =
        .ok shown ∧ shown.summary.localDeleteCount = 1 ∧ shown.summary.remoteDeleteCount = 1 :=
    ⟨_, rfl, by decide, by decide⟩
  obtain ⟨response, applied, -, locals, remotes, -⟩ :=
    (@preview_applied _ storedCounts (withOlderRow .success)
      (promptPass ⟨1, 1, by decide, by decide⟩) (fun _ => rfl) rfl rfl rfl rfl).2 shown answered
  exact ⟨response, applied, locals.trans counted.1, remotes.trans counted.2⟩

end ProxSync.Retention

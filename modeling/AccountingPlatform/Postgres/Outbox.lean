/-
  The outbox rows of a ledger: inserted with the facts, read page by page, published once.

  The id and the time of a row come from the database, so an action carries them. A drain reads
  a page, publishes its events and follows the cursor; between two reads anything else may
  happen, as long as nobody publishes the events the drain has yet to read.
-/
import AccountingPlatform.Lib.Pages
import AccountingPlatform.Postgres.OutboxIdentities
import AccountingPlatform.Postgres.CloseIdentities
import Mathlib.Data.Prod.Lex
import Mathlib.Data.Fin.Basic

namespace AccountingPlatform.Postgres

open AccountingPlatform.Lib AccountingPlatform.Core

/-! ## Rows -/

abbrev Uuid := Fin (2 ^ 128)

/-- `str(UUID)` and `UUID(text)`, which raises on other texts. -/
structure UuidText where
  text : Uuid → String
  parse : String → Option Uuid
  parse_text : ∀ id, parse (text id) = some id
  text_ne : ∀ id, text id ≠ ""

structure OutboxRow where
  outboxEventId : Uuid
  event : OutboxEvent
  createdAt : Timestamp
  publishedAt : Option Timestamp
  deriving DecidableEq

/-- `(created_at, outbox_event_id)`. -/
def OutboxRow.key (row : OutboxRow) : Timestamp ×ₗ Uuid := toLex (row.createdAt, row.outboxEventId)

structure Platform where
  tables : Tables
  outbox : List OutboxRow

def Platform.empty : Platform := ⟨Tables.empty, []⟩

variable (dep : Deployment) (ids : UuidText)

/-! ## Commands -/

/-- A command with the row of the event it inserts. A taken id rolls the command back. -/
def Platform.execute (s : Platform) (command : Command) (outboxEventId : Uuid)
    (createdAt : Timestamp) : Platform :=
  let tables := Postgres.execute dep s.tables command
  match tables.outboxEvents.drop s.tables.outboxEvents.length with
  | [] => { s with tables := tables }
  | event :: _ =>
    if outboxEventId ∈ s.outbox.map OutboxRow.outboxEventId then s
    else ⟨tables, s.outbox ++ [⟨outboxEventId, event, createdAt, none⟩]⟩

/-! ## Reading and publishing -/

/-- Unpublished rows of one event type. -/
def pendingEvents (s : Platform) (eventTypeCode : String) : List OutboxRow :=
  s.outbox.filter fun row => row.event.eventTypeCode = eventTypeCode ∧ row.publishedAt = none

structure OutboxPage where
  tenantReference : String
  eventTypeCode : String
  outboxEvents : List OutboxRow
  nextCursor : Option (Timestamp ×ₗ Uuid)

/-- `load_unpublished_outbox_events`. -/
def loadUnpublishedOutboxEvents (s : Platform) (eventTypeCode : String) (pageLimit : ℕ)
    (cursorAfter : Option (Timestamp ×ₗ Uuid)) : OutboxPage where
  tenantReference := dep.catalog.tenantReference
  eventTypeCode := eventTypeCode
  outboxEvents := page OutboxRow.key pageLimit cursorAfter (pendingEvents s eventTypeCode)
  nextCursor := nextCursor OutboxRow.key pageLimit cursorAfter (pendingEvents s eventTypeCode)

/-- SET published_at WHERE published_at IS NULL. -/
def markPublished (outboxEventId : Uuid) (publishedAt : Timestamp) (row : OutboxRow) : OutboxRow :=
  if row.outboxEventId = outboxEventId ∧ row.publishedAt = none then
    { row with publishedAt := some publishedAt }
  else row

/-- `publish_outbox_event`: a published row is answered as it is. -/
def publishOutboxEvent (s : Platform) (outboxEventId : String) (publishedAt : Timestamp) :
    Result (OutboxRow × Platform) := do
  require (outboxEventId ≠ "") (.validation ("outbox_event_id is required. " ++
    "Supply the outbox event id, then retry the outbox publish."))
  let eventId ← fetch (ids.parse outboxEventId) (.validation ("outbox_event_id must be a UUID. " ++
    "Supply the outbox event id, then retry the outbox publish."))
  let published := s.outbox.map (markPublished eventId publishedAt)
  let row ← fetch (published.find? fun row => row.outboxEventId = eventId)
    (.validation ("outbox event is missing for this outbox_event_id. " ++
      "Accept the proposal, then retry the outbox publish."))
  pure (row, { s with outbox := published })

inductive Action
  | command (command : Command) (outboxEventId : Uuid) (createdAt : Timestamp)
  | publish (outboxEventId : String) (publishedAt : Timestamp)

def Platform.step (s : Platform) : Action → Platform
  | .command command outboxEventId createdAt => s.execute dep command outboxEventId createdAt
  | .publish outboxEventId publishedAt =>
    match publishOutboxEvent ids s outboxEventId publishedAt with
    | .ok (_, s') => s'
    | .error _ => s

/-- The platform after a sequence of actions. -/
def platformAfter (actions : List Action) : Platform :=
  run (Platform.step dep ids) Platform.empty actions

/-! ## Drains -/

/-- A drain: the events read from the cursor on. Between two reads the events of the page are
    published and no other event of the type that was pending. -/
inductive Drain (eventTypeCode : String) (pageLimit : ℕ) :
    Platform → Option (Timestamp ×ₗ Uuid) → List OutboxRow → Prop
  | last {s : Platform} {cursor : Option (Timestamp ×ₗ Uuid)}
      (hnext : (loadUnpublishedOutboxEvents dep s eventTypeCode pageLimit cursor).nextCursor = none) :
      Drain eventTypeCode pageLimit s cursor
        (loadUnpublishedOutboxEvents dep s eventTypeCode pageLimit cursor).outboxEvents
  | more {s : Platform} {cursor : Option (Timestamp ×ₗ Uuid)} {next : Timestamp ×ₗ Uuid}
      {returned : List OutboxRow} (actions : List Action)
      (hnext : (loadUnpublishedOutboxEvents dep s eventTypeCode pageLimit cursor).nextCursor =
        some next)
      (hpublished : ∀ row ∈ pendingEvents s eventTypeCode,
        row ∈ pendingEvents (run (Platform.step dep ids) s actions) eventTypeCode ↔
          row ∉ (loadUnpublishedOutboxEvents dep s eventTypeCode pageLimit cursor).outboxEvents)
      (hdrain : Drain eventTypeCode pageLimit (run (Platform.step dep ids) s actions) (some next)
        returned) :
      Drain eventTypeCode pageLimit s cursor
        ((loadUnpublishedOutboxEvents dep s eventTypeCode pageLimit cursor).outboxEvents ++ returned)

variable {dep ids}

/-! ## The rows and the ledger -/

variable (dep) in
/-- The rows carry the events of the ledger, under distinct ids. -/
structure Stamped (s : Platform) : Prop where
  reached : ∃ commands, s.tables = ledgerAfter dep commands
  events : s.outbox.map OutboxRow.event = s.tables.outboxEvents
  ids_nodup : (s.outbox.map OutboxRow.outboxEventId).Nodup

/-- What an action does: nothing, a command without an event, a command with its row, or a
    publish. -/
inductive PlatformStep (dep : Deployment) (s : Platform) : Action → Platform → Prop
  | same {action : Action} : PlatformStep dep s action s
  | silent {command : Command} {outboxEventId : Uuid} {createdAt : Timestamp}
      (hevents : (Postgres.execute dep s.tables command).outboxEvents = s.tables.outboxEvents) :
      PlatformStep dep s (.command command outboxEventId createdAt)
        { s with tables := Postgres.execute dep s.tables command }
  | stamped {command : Command} {outboxEventId : Uuid} {createdAt : Timestamp} {event : OutboxEvent}
      (hevents : (Postgres.execute dep s.tables command).outboxEvents =
        s.tables.outboxEvents ++ [event])
      (hfresh : ∀ row ∈ s.outbox, row.outboxEventId ≠ outboxEventId) :
      PlatformStep dep s (.command command outboxEventId createdAt)
        ⟨Postgres.execute dep s.tables command,
          s.outbox ++ [⟨outboxEventId, event, createdAt, none⟩]⟩
  | published {text : String} {publishedAt : Timestamp} (outboxEventId : Uuid) :
      PlatformStep dep s (.publish text publishedAt)
        { s with outbox := s.outbox.map (markPublished outboxEventId publishedAt) }

theorem platformStep_step {s : Platform} (h : Stamped dep s) (action : Action) :
    PlatformStep dep s action (s.step dep ids action) := by
  cases action with
  | command command outboxEventId createdAt =>
    obtain ⟨commands, hreached⟩ := h.reached
    have hkept := @outboxKept_ledgerAfter dep commands
    rw [← hreached] at hkept
    obtain ⟨added, events, hannounces⟩ := execute_announces
      (hreached ▸ wellFormed_ledgerAfter commands) (hreached ▸ postingsKept_ledgerAfter commands)
      hkept.control_keys hkept.evidence_closed command
    have houtbox := hannounces.outbox
    have hsingle := hannounces.single
    unfold Platform.step Platform.execute
    dsimp only
    rw [houtbox, List.drop_left]
    cases events with
    | nil => exact .silent (houtbox.trans (List.append_nil _))
    | cons event rest =>
      rw [List.length_cons] at hsingle
      obtain rfl : rest = [] := List.eq_nil_of_length_eq_zero (by omega)
      dsimp only
      split
      · exact .same
      · next hfresh => exact .stamped houtbox fun row hrow heq => hfresh (List.mem_map.mpr ⟨row, hrow, heq⟩)
  | publish text publishedAt =>
    unfold Platform.step
    dsimp only
    split
    · next row s' hok =>
      simp only [publishOutboxEvent, bind_eq_ok, require_eq_ok, fetch_eq_ok, pure_eq_ok,
        Prod.mk.injEq] at hok
      obtain ⟨-, -, eventId, -, -, -, -, rfl⟩ := hok
      exact .published eventId
    · exact .same

theorem markPublished_id (outboxEventId : Uuid) (publishedAt : Timestamp) (row : OutboxRow) :
    (markPublished outboxEventId publishedAt row).outboxEventId = row.outboxEventId := by
  unfold markPublished
  split <;> rfl

theorem markPublished_event (outboxEventId : Uuid) (publishedAt : Timestamp) (row : OutboxRow) :
    (markPublished outboxEventId publishedAt row).event = row.event := by
  unfold markPublished
  split <;> rfl

theorem Stamped.step {s s' : Platform} {action : Action} (h : Stamped dep s)
    (hstep : PlatformStep dep s action s') : Stamped dep s' := by
  obtain ⟨commands, hreached⟩ := h.reached
  have hnext : ∀ command, ∃ commands, Postgres.execute dep s.tables command =
      ledgerAfter dep commands := by
    intro command
    refine ⟨commands ++ [command], ?_⟩
    rw [hreached, ledgerAfter_concat]
  cases hstep with
  | same => exact h
  | silent hevents => exact ⟨hnext _, h.events.trans hevents.symm, h.ids_nodup⟩
  | stamped hevents hfresh =>
    refine ⟨hnext _, ?_, nodup_map_concat h.ids_nodup hfresh⟩
    show (s.outbox ++ [_]).map OutboxRow.event = (Postgres.execute dep s.tables _).outboxEvents
    rw [hevents, List.map_append, h.events]
    rfl
  | @published _ publishedAt outboxEventId =>
    refine ⟨h.reached, ?_, ?_⟩
    · rw [List.map_map]
      refine Eq.trans ?_ h.events
      exact List.map_congr_left fun row _ => markPublished_event _ _ row
    · have hids : (s.outbox.map (markPublished outboxEventId publishedAt)).map OutboxRow.outboxEventId =
          s.outbox.map OutboxRow.outboxEventId := by
        rw [List.map_map]
        exact List.map_congr_left fun row _ => markPublished_id _ _ row
      exact hids ▸ h.ids_nodup

theorem stamped_run {s : Platform} (h : Stamped dep s) (actions : List Action) :
    Stamped dep (run (Platform.step dep ids) s actions) :=
  run_monotone (P := Stamped dep) (fun _ action h => h.step (platformStep_step h action)) h

theorem stamped_platformAfter (actions : List Action) :
    Stamped dep (platformAfter dep ids actions) := by
  have hempty : Stamped dep Platform.empty := ⟨⟨[], rfl⟩, rfl, List.nodup_nil⟩
  exact stamped_run hempty actions

/-! ## Rows over time -/

/-- The same row later: published at most once, otherwise as it was. -/
structure OutboxRow.Later (row row' : OutboxRow) : Prop where
  outboxEventId : row'.outboxEventId = row.outboxEventId
  event : row'.event = row.event
  createdAt : row'.createdAt = row.createdAt
  published : row.publishedAt ≠ none → row'.publishedAt = row.publishedAt

theorem OutboxRow.Later.refl (row : OutboxRow) : row.Later row := ⟨rfl, rfl, rfl, fun _ => rfl⟩

theorem OutboxRow.Later.trans {row row' row'' : OutboxRow} (h : row.Later row')
    (h' : row'.Later row'') : row.Later row'' where
  outboxEventId := h'.outboxEventId.trans h.outboxEventId
  event := h'.event.trans h.event
  createdAt := h'.createdAt.trans h.createdAt
  published hp := by
    have hsame := h.published hp
    rw [← hsame]
    exact h'.published (hsame ▸ hp)

theorem markPublished_later (outboxEventId : Uuid) (publishedAt : Timestamp) (row : OutboxRow) :
    row.Later (markPublished outboxEventId publishedAt row) := by
  unfold markPublished
  split
  · next h => exact ⟨rfl, rfl, rfl, fun hp => absurd h.2 hp⟩
  · exact .refl row

/-- Every row is still there. -/
def RowsKept (s s' : Platform) : Prop := ∀ row ∈ s.outbox, ∃ row' ∈ s'.outbox, row.Later row'

theorem PlatformStep.rowsKept {s s' : Platform} {action : Action}
    (h : PlatformStep dep s action s') : RowsKept s s' := by
  intro row hrow
  cases h with
  | same => exact ⟨row, hrow, .refl row⟩
  | silent => exact ⟨row, hrow, .refl row⟩
  | stamped => exact ⟨row, List.mem_append_left _ hrow, .refl row⟩
  | published outboxEventId =>
    exact ⟨_, List.mem_map.mpr ⟨row, hrow, rfl⟩, markPublished_later _ _ row⟩

theorem rowsKept_run {s : Platform} (h : Stamped dep s) (actions : List Action) :
    RowsKept s (run (Platform.step dep ids) s actions) := by
  induction actions generalizing s with
  | nil => exact fun row hrow => ⟨row, hrow, .refl row⟩
  | cons action actions ih =>
    have hstep := @platformStep_step dep ids s h action
    intro row hrow
    obtain ⟨row', hrow', hlater⟩ := hstep.rowsKept row hrow
    obtain ⟨row'', hrow'', hlater'⟩ := ih (h.step hstep) row' hrow'
    exact ⟨row'', hrow'', hlater.trans hlater'⟩

/-! ## A drain returns each event once -/

theorem pendingEvents_sublist (s : Platform) (eventTypeCode : String) :
    (pendingEvents s eventTypeCode).Sublist s.outbox := List.filter_sublist

theorem Stamped.pending_keys {s : Platform} (h : Stamped dep s) (eventTypeCode : String) :
    ((pendingEvents s eventTypeCode).map OutboxRow.key).Nodup := by
  have hids := h.ids_nodup.sublist ((pendingEvents_sublist s eventTypeCode).map
    OutboxRow.outboxEventId)
  refine List.Nodup.of_map (fun key => (ofLex key).2) ?_
  rw [List.map_map]
  exact hids

/-- A drain walks a table from which only the rows of its pages vanish. -/
theorem Drain.walk {eventTypeCode : String} {pageLimit : ℕ} {s : Platform}
    {cursor : Option (Timestamp ×ₗ Uuid)} {returned : List OutboxRow}
    (h : Drain dep ids eventTypeCode pageLimit s cursor returned) (hs : Stamped dep s) :
    Walk OutboxRow.key pageLimit cursor (pendingEvents s eventTypeCode) returned := by
  induction h with
  | last hnext => exact .last (hs.pending_keys eventTypeCode) hnext
  | @more s cursor next returned actions hnext hpublished hdrain ih =>
    have hkeys := hs.pending_keys eventTypeCode
    refine .more hkeys hnext (fun row hrow hlater => ?_) (ih (stamped_run hs actions))
    rw [hpublished row hrow]
    intro hpage
    exact absurd ((nextCursor_splits hkeys hnext).1 row hpage) (not_le_of_gt hlater)

theorem Drain.count_eq_one {eventTypeCode : String} {pageLimit : ℕ} (hlimit : 0 < pageLimit)
    {s : Platform} {returned : List OutboxRow}
    (h : Drain dep ids eventTypeCode pageLimit s none returned) (hs : Stamped dep s)
    {row : OutboxRow} (hrow : row ∈ pendingEvents s eventTypeCode) : returned.count row = 1 := by
  have hwalk := h.walk hs
  have hmem : row ∈ returned := hwalk.complete hlimit hrow fun c hc => by cases hc
  have hnodup : returned.Nodup := by
    refine hwalk.increasing.1.imp fun hlt heq => ?_
    rw [heq] at hlt
    exact lt_irrefl _ hlt
  exact List.count_eq_one_of_mem hnodup hmem

/-! ## A drain that nothing interrupts -/

/-- The publishes of one page. -/
def publishPage (ids : UuidText) (rows : List OutboxRow) (publishedAt : Timestamp) : List Action :=
  rows.map fun row => .publish (ids.text row.outboxEventId) publishedAt

theorem markPublished_absent {rows : List OutboxRow} {outboxEventId : Uuid} (publishedAt : Timestamp)
    (h : ∀ row ∈ rows, row.outboxEventId ≠ outboxEventId) :
    rows.map (markPublished outboxEventId publishedAt) = rows := by
  refine (List.map_congr_left fun row hrow => ?_).trans (List.map_id rows)
  unfold markPublished
  rw [if_neg fun hid => h row hrow hid.1]
  rfl

/-- Publishing under the text of an id marks the rows of that id. -/
theorem step_publish_text (s : Platform) (outboxEventId : Uuid) (publishedAt : Timestamp) :
    (s.step dep ids (.publish (ids.text outboxEventId) publishedAt)).outbox =
      s.outbox.map (markPublished outboxEventId publishedAt) := by
  have hstep : s.step dep ids (.publish (ids.text outboxEventId) publishedAt) =
      match publishOutboxEvent ids s (ids.text outboxEventId) publishedAt with
      | .ok (_, s') => s'
      | .error _ => s := rfl
  rw [hstep]
  unfold publishOutboxEvent
  rw [require_of (ids.text_ne outboxEventId), ok_bind, ids.parse_text, fetch, ok_bind]
  dsimp only
  cases hfind : (s.outbox.map (markPublished outboxEventId publishedAt)).find? fun row =>
      row.outboxEventId = outboxEventId with
  | some row => rfl
  | none =>
    -- no such row: nothing is marked either
    show s.outbox = _
    refine (markPublished_absent publishedAt fun row hrow heq => ?_).symm
    refine List.find?_eq_none.mp hfind _ (List.mem_map.mpr ⟨row, hrow, rfl⟩) ?_
    rw [markPublished_id]
    exact decide_eq_true heq

/-- Marking takes the rows of the id out of what is pending and changes no other row of it. -/
theorem pending_markPublished (rows : List OutboxRow) (eventTypeCode : String)
    (outboxEventId : Uuid) (publishedAt : Timestamp) :
    ((rows.map (markPublished outboxEventId publishedAt)).filter fun row =>
        row.event.eventTypeCode = eventTypeCode ∧ row.publishedAt = none) =
      (rows.filter fun row => row.event.eventTypeCode = eventTypeCode ∧ row.publishedAt = none).filter
        fun row => row.outboxEventId ≠ outboxEventId := by
  rw [List.filter_filter]
  induction rows with
  | nil => rfl
  | cons row rows ih =>
    rw [List.map_cons]
    by_cases hmark : row.outboxEventId = outboxEventId ∧ row.publishedAt = none
    · have hmarked : markPublished outboxEventId publishedAt row =
          { row with publishedAt := some publishedAt } := if_pos hmark
      rw [hmarked, List.filter_cons_of_neg (by simp), List.filter_cons_of_neg (by simp [hmark.1]), ih]
    · have hkept : markPublished outboxEventId publishedAt row = row := if_neg hmark
      rw [hkept]
      by_cases hpending : row.event.eventTypeCode = eventTypeCode ∧ row.publishedAt = none
      · have hid : row.outboxEventId ≠ outboxEventId := fun heq => hmark ⟨heq, hpending.2⟩
        rw [List.filter_cons_of_pos (by simpa using hpending),
          List.filter_cons_of_pos (by simp [hid, hpending]), ih]
      · rw [List.filter_cons_of_neg (by simpa using hpending),
          List.filter_cons_of_neg (by simp_all), ih]

/-- What a page's publishes leave pending. -/
theorem pendingEvents_published (s : Platform) (eventTypeCode : String) (rows : List OutboxRow)
    (publishedAt : Timestamp) :
    pendingEvents (run (Platform.step dep ids) s (publishPage ids rows publishedAt)) eventTypeCode =
      (pendingEvents s eventTypeCode).filter fun row =>
        row.outboxEventId ∉ rows.map OutboxRow.outboxEventId := by
  induction rows generalizing s with
  | nil =>
    rw [publishPage, List.map_nil, run_nil]
    exact (List.filter_eq_self.mpr fun row _ => by simp).symm
  | cons row rows ih =>
    rw [publishPage, List.map_cons, run_cons]
    refine (ih _).trans ?_
    rw [pendingEvents, step_publish_text, pending_markPublished, List.filter_filter]
    apply List.filter_congr
    intro r _
    rw [List.map_cons, ← Bool.decide_and, decide_eq_decide, List.mem_cons, not_or, and_comm]

theorem Stamped.eq_of_id {s : Platform} (h : Stamped dep s) {row row' : OutboxRow}
    (hrow : row ∈ s.outbox) (hrow' : row' ∈ s.outbox)
    (hid : row.outboxEventId = row'.outboxEventId) : row = row' :=
  List.inj_on_of_nodup_map h.ids_nodup hrow hrow' hid

/-- From every state a drain that nothing interrupts comes to its end. -/
theorem drain_exists (eventTypeCode : String) (pageLimit : ℕ) (hlimit : 0 < pageLimit)
    (s : Platform) (hs : Stamped dep s) (cursor : Option (Timestamp ×ₗ Uuid)) :
    ∃ returned, Drain dep ids eventTypeCode pageLimit s cursor returned := by
  -- every page takes at least one event out of what is pending
  induction hn : (pendingEvents s eventTypeCode).length using Nat.strong_induction_on
    generalizing s cursor with
  | _ n ih =>
    cases hnext : (loadUnpublishedOutboxEvents dep s eventTypeCode pageLimit cursor).nextCursor with
    | none => exact ⟨_, .last hnext⟩
    | some next =>
      generalize hpage : page OutboxRow.key pageLimit cursor (pendingEvents s eventTypeCode) = rows
      have hsub : ∀ row ∈ rows, row ∈ pendingEvents s eventTypeCode := by
        intro row hrow
        rw [← hpage] at hrow
        exact (mem_rest.mp (List.mem_of_mem_take hrow)).1
      have hne : rows ≠ [] := by
        intro hnil
        rw [← hpage] at hnil
        have hlt : pageLimit < (rest OutboxRow.key cursor (pendingEvents s eventTypeCode)).length := by
          unfold loadUnpublishedOutboxEvents nextCursor at hnext
          dsimp only at hnext
          by_contra hle
          rw [if_neg hle] at hnext
          cases hnext
        rw [page, List.take_eq_nil_iff] at hnil
        rcases hnil with hzero | hnil
        · omega
        · rw [hnil] at hlt
          exact absurd hlt (Nat.not_lt_zero _)
      have hpublished : ∀ row ∈ pendingEvents s eventTypeCode,
          row ∈ pendingEvents (run (Platform.step dep ids) s (publishPage ids rows 0))
            eventTypeCode ↔ row ∉ rows := by
        intro row hrow
        rw [pendingEvents_published, List.mem_filter, decide_eq_true_eq, and_iff_right hrow,
          not_iff_not, List.mem_map]
        constructor
        · rintro ⟨row', hrow', hid⟩
          have hout := (pendingEvents_sublist s eventTypeCode).subset
          rwa [← hs.eq_of_id (hout (hsub row' hrow')) (hout hrow) hid]
        · exact fun hmem => ⟨row, hmem, rfl⟩
      have hfewer : (pendingEvents (run (Platform.step dep ids) s (publishPage ids rows 0))
          eventTypeCode).length < n := by
        obtain ⟨row, hrow⟩ := List.exists_mem_of_ne_nil rows hne
        rw [pendingEvents_published, ← hn, List.length_filter_lt_length_iff_exists]
        refine ⟨row, hsub row hrow, ?_⟩
        simp only [decide_eq_true_eq, not_not]
        exact List.mem_map.mpr ⟨row, hrow, rfl⟩
      obtain ⟨returned, hdrain⟩ := ih _ hfewer _ (stamped_run hs (publishPage ids rows 0)) (some next)
        rfl
      refine ⟨_, .more (publishPage ids rows 0) hnext (fun row hrow => ?_) hdrain⟩
      exact (hpublished row hrow).trans (by rw [← hpage]; rfl)

/-! ## The mirror -/

variable (dep ids) in
/-- The outbox mirrors the ledger: one row a fact, with the hash stored for it, under an
    identity of its own; rows change only by being published, and a drain returns every pending
    event once. -/
structure OutboxMirrors (s : Platform) : Prop where
  facts_nodup : (facts s.tables).Nodup
  announced : (s.outbox.map fun row => some row.event).Perm
    ((facts s.tables).map (announcement dep s.tables))
  identities : (s.outbox.map fun row => row.event.identity).Nodup
  ids_nodup : (s.outbox.map OutboxRow.outboxEventId).Nodup
  rows_kept : ∀ later, RowsKept s (run (Platform.step dep ids) s later)
  drained : ∀ eventTypeCode pageLimit, 0 < pageLimit →
    (∃ returned, Drain dep ids eventTypeCode pageLimit s none returned) ∧
    ∀ returned, Drain dep ids eventTypeCode pageLimit s none returned →
      ∀ row ∈ pendingEvents s eventTypeCode, returned.count row = 1

variable (dep) in
/-- The action commits a soft close of a period that another book of the same name has
    soft-closed. -/
def CommitsTwin (s : Platform) : Action → Prop
  | .command command outboxEventId _ =>
    outboxEventId ∉ s.outbox.map OutboxRow.outboxEventId ∧ RecordsTwin dep s.tables command
  | .publish _ _ => False

theorem UuidsDistinct.mono {m n : ℕ} (h : UuidsDistinct dep n) (hle : m ≤ n) :
    UuidsDistinct dep m := fun a ha b hb => h a (ha.trans_le hle) b (hb.trans_le hle)

theorem Stamped.mirrors_iff {s : Platform} (h : Stamped dep s)
    (huuid : UuidsDistinct dep s.tables.nextId) :
    OutboxMirrors dep ids s ↔ SoftClosesApart dep s.tables := by
  obtain ⟨commands, hreached⟩ := h.reached
  have hwf : WellFormed dep s.tables := hreached ▸ wellFormed_ledgerAfter commands
  have hpostings : PostingsKept s.tables := hreached ▸ postingsKept_ledgerAfter commands
  have hkept : OutboxKept dep s.tables := hreached ▸ outboxKept_ledgerAfter commands
  rw [← hkept.identities_nodup_iff hwf hpostings huuid, ← h.events, List.map_map]
  constructor
  · exact fun hmirrors => hmirrors.identities
  · intro hidentities
    have hannounced := hkept.announced
    unfold Announced at hannounced
    rw [← h.events, List.map_map] at hannounced
    exact {
      facts_nodup := hkept.facts_nodup hpostings
      announced := hannounced
      identities := hidentities
      ids_nodup := h.ids_nodup
      rows_kept := rowsKept_run h
      drained := fun eventTypeCode pageLimit hlimit =>
        ⟨drain_exists eventTypeCode pageLimit hlimit s h none,
          fun returned hdrain row hrow => hdrain.count_eq_one hlimit h hrow⟩ }

/-- An action keeps soft closes apart exactly when it commits no twin. -/
theorem Stamped.apart_step_iff {s : Platform} (h : Stamped dep s)
    (hapart : SoftClosesApart dep s.tables) (action : Action) :
    SoftClosesApart dep (s.step dep ids action).tables ↔ ¬CommitsTwin dep s action := by
  obtain ⟨commands, hreached⟩ := h.reached
  have hwf : WellFormed dep s.tables := hreached ▸ wellFormed_ledgerAfter commands
  cases action with
  | publish text publishedAt =>
    refine iff_of_true ?_ id
    have hstep := @platformStep_step dep ids s h (.publish text publishedAt)
    generalize s.step dep ids (.publish text publishedAt) = s' at hstep
    cases hstep with
    | same => exact hapart
    | published => exact hapart
  | command command outboxEventId createdAt =>
    have htwin : RecordsTwin dep s.tables command → ∃ event,
        (Postgres.execute dep s.tables command).outboxEvents = s.tables.outboxEvents ++ [event] := by
      intro hrecords
      cases command with
      | closeFiscalPeriod request =>
        obtain ⟨book, period, bookId, hcloses, -⟩ := hrecords
        exact hcloses.announces hwf
      | _ => exact absurd hrecords id
    by_cases htaken : outboxEventId ∈ s.outbox.map OutboxRow.outboxEventId
    · refine iff_of_true ?_ fun hcommits => hcommits.1 htaken
      unfold Platform.step Platform.execute
      dsimp only
      split
      · next hnone =>
        -- without an event it is no soft close
        refine (softClosesApart_execute_iff hwf hapart command).mpr fun hrecords => ?_
        obtain ⟨event, hevents⟩ := htwin hrecords
        rw [hevents, List.drop_left] at hnone
        cases hnone
      · rw [if_pos htaken]
        exact hapart
    · have htables : (s.step dep ids (.command command outboxEventId createdAt)).tables =
          Postgres.execute dep s.tables command := by
        unfold Platform.step Platform.execute
        dsimp only
        split
        · rfl
        · rw [if_neg htaken]
      rw [htables, softClosesApart_execute_iff hwf hapart command, not_iff_not]
      exact (and_iff_right htaken).symm

theorem nextId_run {s : Platform} (h : Stamped dep s) (actions : List Action) :
    s.tables.nextId ≤ (run (Platform.step dep ids) s actions).tables.nextId := by
  induction actions generalizing s with
  | nil => exact Nat.le_refl _
  | cons action actions ih =>
    have hstep := @platformStep_step dep ids s h action
    have hone : s.tables.nextId ≤ (s.step dep ids action).tables.nextId := by
      obtain ⟨commands, hreached⟩ := h.reached
      have hwf : WellFormed dep s.tables := hreached ▸ wellFormed_ledgerAfter commands
      generalize s.step dep ids action = s' at hstep
      cases hstep with
      | same => exact Nat.le_refl _
      | silent => exact (snapshots_execute hwf _).1
      | stamped => exact (snapshots_execute hwf _).1
      | published => exact Nat.le_refl _
    exact hone.trans (ih (h.step hstep))

/-- All along a run the outbox mirrors the ledger exactly when no action commits a soft close
    of a period that another book of the same name has soft-closed. -/
theorem outbox_mirrors_iff (dep : Deployment) (ids : UuidText) (actions : List Action)
    (huuid : UuidsDistinct dep (platformAfter dep ids actions).tables.nextId) :
    (∀ before, before <+: actions → OutboxMirrors dep ids (platformAfter dep ids before)) ↔
      AdmittedRun (Platform.step dep ids) (fun s action => ¬CommitsTwin dep s action) Platform.empty
        actions := by
  have hempty : Stamped dep Platform.empty := ⟨⟨[], rfl⟩, rfl, List.nodup_nil⟩
  have hapart : SoftClosesApart dep Platform.empty.tables := fun _ hc => nomatch hc
  rw [← @forall_prefix_iff_admittedRun _ _ (Platform.step dep ids) _ (Stamped dep)
    (fun s => SoftClosesApart dep s.tables) (fun s action h => h.step (platformStep_step h action))
    (fun s action h hs => h.apart_step_iff hs action) _ hempty hapart actions]
  refine forall_congr' fun before => forall_congr' fun hbefore => ?_
  have hstamped := @stamped_platformAfter dep ids before
  obtain ⟨later, rfl⟩ := hbefore
  refine hstamped.mirrors_iff (huuid.mono ?_)
  rw [platformAfter, platformAfter, run_append]
  exact nextId_run hstamped later

/-! ## Texts that can be evaluated -/

/-- The last `k` hexadecimal digits of a number. -/
def hexDigits (k n : ℕ) : List Char := (List.range k).reverse.map fun i => lowerHexDigit (n / 16 ^ i)

def hexValue (c : Char) : ℕ := if c.toNat < 58 then c.toNat - 48 else c.toNat - 87

def readHex (digits : List Char) (n : ℕ) : ℕ := digits.foldl (fun n c => n * 16 + hexValue c) n

theorem hexValue_lowerHexDigit (n : ℕ) : hexValue (lowerHexDigit n) = n % 16 := by
  have h : ∀ d < 16, hexValue (lowerHexDigit d) = d := by decide
  have hmod : lowerHexDigit n = lowerHexDigit (n % 16) := by simp [lowerHexDigit]
  rw [hmod]
  exact h _ (Nat.mod_lt _ (by decide))

/-- Reading digits back, after those already read. -/
theorem readHex_hexDigits (k n before : ℕ) :
    readHex (hexDigits k n) before = before * 16 ^ k + n % 16 ^ k := by
  induction k generalizing before with
  | zero => simp [readHex, hexDigits, Nat.mod_one]
  | succ k ih =>
    have hcons : hexDigits (k + 1) n = lowerHexDigit (n / 16 ^ k) :: hexDigits k n := by
      simp only [hexDigits, List.range_succ, List.reverse_append, List.reverse_cons,
        List.reverse_nil, List.nil_append, List.cons_append, List.map_cons]
    have hread : readHex (hexDigits (k + 1) n) before =
        readHex (hexDigits k n) (before * 16 + hexValue (lowerHexDigit (n / 16 ^ k))) := by
      rw [hcons]
      rfl
    rw [hread, ih, hexValue_lowerHexDigit, pow_succ, Nat.mod_mul]
    ring

/-- 8-4-4-4-12 digits. -/
def dashed (digits : List Char) : List Char :=
  digits.take 8 ++ '-' :: ((digits.drop 8).take 4 ++ '-' :: ((digits.drop 12).take 4 ++
    '-' :: ((digits.drop 16).take 4 ++ '-' :: digits.drop 20)))

theorem undashed {digits : List Char} (h : ∀ c ∈ digits, c ≠ '-') :
    (dashed digits).filter (fun c => c ≠ '-') = digits := by
  have hkeep : ∀ {part : List Char}, (∀ c ∈ part, c ∈ digits) →
      part.filter (fun c => c ≠ '-') = part := by
    intro part hsub
    rw [List.filter_eq_self]
    exact fun c hc => decide_eq_true (h c (hsub c hc))
  have htake : ∀ n m, ((digits.drop n).take m).filter (fun c => c ≠ '-') = (digits.drop n).take m :=
    fun n m => hkeep fun c hc => List.mem_of_mem_drop (List.mem_of_mem_take hc)
  have hdrop : (digits.drop 20).filter (fun c => c ≠ '-') = digits.drop 20 :=
    hkeep fun c hc => List.mem_of_mem_drop hc
  have hfirst := htake 0 8
  rw [List.drop_zero] at hfirst
  have hdash : ∀ rest : List Char, ('-' :: rest).filter (fun c => c ≠ '-') =
      rest.filter (fun c => c ≠ '-') := fun rest => List.filter_cons_of_neg (by simp)
  have hjoin : ∀ n m, (digits.drop n).take m ++ digits.drop (n + m) = digits.drop n := by
    intro n m
    rw [← List.drop_drop]
    exact List.take_append_drop m _
  unfold dashed
  simp only [List.filter_append, hdash, htake, hdrop, hfirst]
  rw [hjoin 16 4, hjoin 12 4, hjoin 8 4, List.take_append_drop]

/-- The canonical text of a UUID, and the id read from its digits. -/
def sampleUuidText : UuidText where
  text id := String.ofList (dashed (hexDigits 32 id))
  parse text :=
    let value := readHex (text.toList.filter fun c => c ≠ '-') 0
    if h : value < 2 ^ 128 then some ⟨value, h⟩ else none
  parse_text id := by
    have hdigits : ∀ c ∈ hexDigits 32 id, c ≠ '-' := by
      intro c hc
      obtain ⟨i, -, rfl⟩ := List.mem_map.mp hc
      intro heq
      have hhex := lowerHexDigit_isLowerHex (id / 16 ^ i)
      rw [heq] at hhex
      exact absurd hhex (by decide)
    have hvalue : readHex ((String.ofList (dashed (hexDigits 32 id))).toList.filter
        fun c => c ≠ '-') 0 = id := by
      rw [String.toList_ofList, undashed hdigits, readHex_hexDigits, zero_mul, zero_add]
      exact Nat.mod_eq_of_lt id.isLt
    simp only [hvalue, id.isLt, dif_pos]
  text_ne id := by
    intro hempty
    have hlist := congrArg String.toList hempty
    rw [String.toList_ofList] at hlist
    have hdash : '-' ∈ dashed (hexDigits 32 id) :=
      List.mem_append_right _ List.mem_cons_self
    rw [hlist] at hdash
    cases hdash

/-! ## Runs -/

def softClose (legalEntityReference key : String) : Command :=
  .closeFiscalPeriod ⟨legalEntityReference, "urn:cwl:book:b1", "2024-01", "KRW", "soft_closed", key⟩

/-- An invoice and a soft close of the sample book; the invoice's event is published. -/
def soleBookActions : List Action := [
  .command (samplePeriod "2024-01" "open-1" 738886 738916) 1 10,
  .command (sampleInvoice "urn:cwl:book:b1" "2024-01" "11111111-1111-1111-1111-111111111111" "key-1"
    738890 1000000) 2 20,
  .command (softClose "urn:cwl:legal_entity:e1" "close-1") 3 30,
  .publish (sampleUuidText.text 2) 40]

theorem soleBook_mirrored :
    let dep := sampleDeployment sampleCatalog
    ∀ before, before <+: soleBookActions →
      OutboxMirrors dep sampleUuidText (platformAfter dep sampleUuidText before) := by
  intro dep
  have huuid : UuidsDistinct dep (platformAfter dep sampleUuidText soleBookActions).tables.nextId := by
    have hfew : (platformAfter dep sampleUuidText soleBookActions).tables.nextId = 4 ∧
        ∀ m < 4, ∀ n < 4, dep.uuidText m = dep.uuidText n → m = n := by
      decide +kernel
    rw [hfew.1]
    exact hfew.2
  rw [outbox_mirrors_iff dep sampleUuidText soleBookActions huuid]
  -- the catalog has one book, so no other book has its name
  have hnever : ∀ s action, ¬CommitsTwin dep s action := by
    intro s action hcommits
    cases action with
    | publish => exact hcommits
    | command command outboxEventId createdAt =>
      cases command with
      | closeFiscalPeriod request =>
        obtain ⟨-, book, period, bookId, hcloses, -, hne, hname⟩ := hcommits
        obtain ⟨entity, hscope⟩ := hcloses.scope
        have hbook : book = sampleBook := List.mem_singleton.mp (dep.loadScope_ok hscope).2.2.1
        obtain ⟨other, hother, -⟩ := Option.map_eq_some_iff.mp hname
        have hmem : other = sampleBook := List.mem_singleton.mp (List.mem_of_find?_eq_some hother)
        have hid : other.accountingBookId = bookId := by simpa using List.find?_some hother
        rw [← hid, hmem, hbook] at hne
        exact hne rfl
      | _ => exact hcommits.2
  have hall : ∀ s actions, AdmittedRun (Platform.step dep sampleUuidText)
      (fun s action => ¬CommitsTwin dep s action) s actions := by
    intro s actions
    induction actions generalizing s with
    | nil => exact .nil s
    | cons action actions ih => exact .cons (hnever s action) (ih _)
  exact hall _ _

/-- Two entities soft-close January, each its own book of one name. -/
def twinCloseActions : List Action := [
  .command (samplePeriod "2024-01" "open-1" 738886 738916) 1 10,
  .command (softClose "urn:cwl:legal_entity:e1" "close-1") 2 20,
  .command (softClose "urn:cwl:legal_entity:e2" "close-2") 3 30]

def twinCloses : Platform :=
  platformAfter (sampleDeployment branchCatalog) sampleUuidText twinCloseActions

/-- Both soft closes are recorded, for different books, and announced under one identity. -/
theorem twinCloses_share_identity :
    ((facts twinCloses.tables).length = 2 ∧ (facts twinCloses.tables).Nodup ∧
      twinCloses.outbox.map (fun row => row.event.identity) = [
        ("period_close", "urn:cwl:book:b1:fiscal_period:2024-01",
          "urn:cwl:accounting:fiscal_period:2024-01"),
        ("period_close", "urn:cwl:book:b1:fiscal_period:2024-01",
          "urn:cwl:accounting:fiscal_period:2024-01")]) ∧
      ¬OutboxMirrors (sampleDeployment branchCatalog) sampleUuidText twinCloses := by
  have hrows : (facts twinCloses.tables).length = 2 ∧ (facts twinCloses.tables).Nodup ∧
      twinCloses.outbox.map (fun row => row.event.identity) = [
        ("period_close", "urn:cwl:book:b1:fiscal_period:2024-01",
          "urn:cwl:accounting:fiscal_period:2024-01"),
        ("period_close", "urn:cwl:book:b1:fiscal_period:2024-01",
          "urn:cwl:accounting:fiscal_period:2024-01")] := by
    decide +kernel
  refine ⟨hrows, fun hmirrors => ?_⟩
  have hidentities := hmirrors.identities
  rw [hrows.2.2] at hidentities
  simp at hidentities

end AccountingPlatform.Postgres

import Mathlib.Data.List.Forall2
import SChatCore.Data.Evolution

namespace SChatCore.Store

open Data Data.Evolution

/-! The schema of the local database and its migrations. Types of columns are
left out: a value is stored as it is. -/

namespace Migration

def nullable (name : String) : Column := ⟨name, false, .null, none⟩

def required (name : String) : Column := ⟨name, true, .null, none⟩

def defaulted (name : String) (value : Value) : Column := ⟨name, true, value, none⟩

def directed (name : String) : Column := ⟨name, true, .null, some [.text "in", .text "out"]⟩

def create (name : String) (columns : List Column) (key : List String) :
    Change :=
  .createTable name ⟨columns, key⟩

def schemaV1 : List Change := [
  create "meta" [nullable "key", required "value"] ["key"],
  create "pending_pairing" [⟨"id", true, .null, some [.integer 1]⟩,
    required "service_id", required "onion", required "qr_bytes",
    required "client_auth_private", required "expires_at"] ["id"],
  create "relationships" [nullable "rel_id", required "role",
    required "state", required "service_id", required "onion",
    required "peer_onion", required "peer_identity_key",
    required "peer_client_auth_public", required "our_client_auth_private",
    required "our_nonce", required "peer_nonce", required "our_qr_bytes",
    defaulted "sas_confirmed" (.integer 0),
    defaulted "intro_pending" (.integer 0),
    defaulted "session_state" (.text "active"),
    required "created_at"] ["rel_id"],
  create "signal_locals" [nullable "namespace", required "registration_id",
    required "identity_keypair"] ["namespace"],
  create "signal_identities" [required "namespace", required "address",
    required "key"] ["namespace", "address"],
  create "signal_sessions" [required "namespace", required "address",
    required "record"] ["namespace", "address"],
  create "signal_prekeys" [required "namespace", required "id",
    required "record"] ["namespace", "id"],
  create "signal_signed_prekeys" [required "namespace", required "id",
    required "record"] ["namespace", "id"],
  create "signal_kyber_prekeys" [required "namespace", required "id",
    required "record", nullable "used_with"] ["namespace", "id"],
  create "message_ciphertexts" [nullable "msg_id", required "rel_id",
    required "frame_bytes", required "created_at"] ["msg_id"]]

def messagesV2 : TableSchema where
  columns := [nullable "msg_id", required "rel_id", directed "direction",
    required "app_seq", required "sent_at", nullable "received_at",
    required "env_type", nullable "ref_id", required "payload",
    required "state", nullable "expires_at", required "created_at"]
  key := ["msg_id"]

def schemaV2 : List Change := [
  .createTable "messages" messagesV2,
  .createIndex ⟨"idx_messages_rel_seq", "messages", ["rel_id", "direction", "app_seq"]⟩,
  .createIndex ⟨"idx_messages_expiry", "messages", ["expires_at"]⟩,
  create "outbox" [nullable "msg_id", required "rel_id", required "record",
    defaulted "attempts" (.integer 0), required "next_attempt_at",
    required "expires_at", required "created_at"] ["msg_id"],
  .createIndex ⟨"idx_outbox_due", "outbox", ["next_attempt_at"]⟩,
  create "attachments" [nullable "head_id", required "rel_id",
    required "msg_id", directed "direction", required "media_class",
    required "mime_hint", required "uncompressed_n", required "chunk_count",
    required "chunk_bucket", required "content_sha256",
    defaulted "caption" (.text ""), defaulted "flags" (.integer 0),
    defaulted "chunks" (.blob []), defaulted "complete" (.integer 0),
    nullable "expires_at", required "created_at"] ["head_id"],
  .createIndex ⟨"idx_attachments_msg", "attachments", ["msg_id"]⟩,
  create "stickers" [nullable "pack_id", required "pack_pk",
    required "title", required "kind", required "visibility",
    required "item_count", required "icon_item_id",
    required "installed_at"] ["pack_id"],
  create "settings" [nullable "key", required "value"] ["key"]]

def inboundSeqsV3 : TableSchema where
  columns := [required "rel_id", required "app_seq"]
  key := ["rel_id", "app_seq"]

/-- Feature state: policy and closing of relationships, edits, chunks, sticker
items, profiles and tombstones. -/
def schemaV3 : List Change := [
  .addColumn "relationships" (defaulted "peer_caps" (.integer 0)),
  .addColumn "relationships" (defaulted "policy_ttl_sec" (.integer 86400)),
  .addColumn "relationships" (defaulted "policy_flags" (.integer 3)),
  .addColumn "relationships" (defaulted "policy_wants" (.integer 31868)),
  .addColumn "relationships" (nullable "policy_pending"),
  .addColumn "relationships" (defaulted "policy_last_sync_at" (.integer 0)),
  .addColumn "relationships" (nullable "close_state"),
  .addColumn "relationships" (defaulted "history_cut_seq" (.integer 0)),
  .addColumn "relationships" (nullable "peer_prefs"),
  .addColumn "relationships" (nullable "custom_name"),
  .addColumn "attachments" (defaulted "orig_ext" (.text "")),
  .addColumn "attachments" (defaulted "consumed" (.integer 0)),
  .addColumn "stickers" (defaulted "cached" (.integer 0)),
  .addColumn "stickers" (nullable "from_rel"),
  .addColumn "stickers" (defaulted "last_used_at" (.integer 0)),
  .addColumn "messages" (defaulted "edited" (.integer 0)),
  .addColumn "messages" (defaulted "edit_count" (.integer 0)),
  .addColumn "messages" (defaulted "last_edit_seq" (.integer 0)),
  .addColumn "messages" (defaulted "tombstone" (.integer 0)),
  .addColumn "messages" (nullable "read_at"),
  create "attachment_chunks" [required "head_id", required "idx",
    required "data"] ["head_id", "idx"],
  create "sticker_items" [required "pack_id", required "item_id",
    required "w", required "h", required "sha256", required "bytes"]
    ["pack_id", "item_id"],
  create "sticker_pack_keys" [nullable "pack_id", required "secret"] ["pack_id"],
  create "sticker_cache" [nullable "sha256", required "bytes", required "w",
    required "h", required "kind", nullable "pack_id", nullable "from_rel",
    required "created_at"] ["sha256"],
  create "sticker_serves" [required "rel_id", required "day", required "count"] ["rel_id", "day"],
  create "profiles" [nullable "rel_id", required "name", required "jpeg",
    required "updated_at"] ["rel_id"],
  create "tombstones" [required "rel_id", required "ref_id",
    required "expiry"] ["rel_id", "ref_id"],
  .createTable "inbound_seqs" inboundSeqsV3]

def backfillV3 : Copy where
  target := "inbound_seqs"
  columns := [("rel_id", "rel_id"), ("app_seq", "app_seq")]
  source := "messages"
  column := "direction"
  value := .text "in"

def schemaV4 : List Change := [.dropColumn "relationships" "sas_confirmed"]

def schemaV5 : List Change := [
  .addColumn "attachment_chunks" (defaulted "rel_id" (.text "")),
  .addColumn "attachment_chunks" (defaulted "created_at" (.integer 0)),
  .createIndex ⟨"idx_attachment_chunks_rel", "attachment_chunks", ["rel_id"]⟩]

def schemaV6 : List Change := [
  create "inbound_frames" [required "rel_id", required "frame_hash",
    required "expires_at", required "created_at"] ["rel_id", "frame_hash"]]

def migrations : List (List Statement) := [
  schemaV1.map .change,
  schemaV2.map .change,
  schemaV3.map .change ++ [.copy backfillV3],
  schemaV4.map .change,
  schemaV5.map .change,
  schemaV6.map .change]

def schemaVersion : Nat := migrations.length

inductive MigrationError
  | sqlite (error : SqlError)
  | tooNew (found : Nat)
  deriving DecidableEq

/-- Each script in a transaction of its own: one that fails leaves the database
at the version before it. -/
def climb : List (List Statement) → Database → Except MigrationError Unit × Database
  | [], db => (.ok (), db)
  | script :: rest, db =>
    match run script db with
    | .error error => (.error (.sqlite error), db)
    | .ok after => climb rest { after with version := db.version + 1 }

def migrate (db : Database) : Except MigrationError Unit × Database :=
  if db.version > schemaVersion then (.error (.tooNew db.version), db)
  else climb (migrations.drop db.version) db

def changes : List (List Change) := [schemaV1, schemaV2, schemaV3, schemaV4, schemaV5, schemaV6]

def schemaAt (version : Nat) : Schema :=
  ((Change.runSchema (changes.take version).flatten .empty).toOption).getD .empty

theorem runSchema_v3 : Change.runSchema schemaV3 (schemaAt 2) = .ok (schemaAt 3) := by
  decide +kernel

theorem runSchema_v4 : Change.runSchema schemaV4 (schemaAt 3) = .ok (schemaAt 4) := by
  decide +kernel

theorem runSchema_v5 : Change.runSchema schemaV5 (schemaAt 4) = .ok (schemaAt 5) := by
  decide +kernel

theorem runSchema_v6 : Change.runSchema schemaV6 (schemaAt 5) = .ok (schemaAt 6) := by
  decide +kernel

theorem resolve_backfill : backfillV3.resolve (schemaAt 3) = .ok inboundSeqsV3 := by
  decide +kernel

theorem messages_mem : ("messages", messagesV2) ∈ (schemaAt 2).tables := by
  decide +kernel

structure Version2 (db : Database) : Prop where
  version : db.version = 2
  schema : db.schema = schemaAt 2
  valid : db.valid = true

def inbound (db : Database) : List Row := (db.content "messages").filter backfillV3.chosen

def seqOf (row : Row) : Value × Value := (row "rel_id", row "app_seq")

def grown (row : Row) : Row := Change.patch (Change.added "messages" schemaV3) row

def noted (row : Row) : Row := backfillV3.written inboundSeqsV3 (grown row)

theorem grown_old (old : messagesV2.has column = true) (row : Row) :
    grown row column = row column := by
  have fresh : (Change.added "messages" schemaV3).all (fun added =>
      !messagesV2.has added.name) = true := by
    decide +kernel
  refine Change.patch_of_fresh (fun added mem same => ?_) row
  have new := List.all_eq_true.mp fresh added mem
  rw [same, old] at new
  cases new

theorem seqOf_noted (row : Row) : seqOf (noted row) = seqOf row := by
  have rel : noted row "rel_id" = grown row "rel_id" := by
    unfold noted Copy.written
    rw [show backfillV3.columns.lookup "rel_id" = some "rel_id" by decide]
  have seq : noted row "app_seq" = grown row "app_seq" := by
    unfold noted Copy.written
    rw [show backfillV3.columns.lookup "app_seq" = some "app_seq" by decide]
  unfold seqOf
  rw [rel, seq, grown_old (by decide), grown_old (by decide)]

theorem chosen_grown (row : Row) : backfillV3.chosen (grown row) = backfillV3.chosen row := by
  unfold Copy.chosen
  rw [show backfillV3.column = "direction" from rfl, grown_old (by decide)]

theorem selected_backfill (db : Database) : backfillV3.selected inboundSeqsV3
      (Change.runContent schemaV3 db.content) = (inbound db).map noted := by
  unfold Copy.selected inbound
  rw [show backfillV3.source = "messages" from rfl,
    Change.runContent_of_kept (by decide +kernel), List.filter_map, List.map_map]
  have same : backfillV3.chosen ∘ grown = backfillV3.chosen := funext chosen_grown
  exact congrArg (fun chosen => ((db.content "messages").filter chosen).map noted) same

def finished (db : Database) (rows : List Row) : Database where
  schema := schemaAt 6
  content := Change.runContent schemaV6 (Change.runContent schemaV5
    (Change.runContent schemaV4 (Function.update
      (Change.runContent schemaV3 db.content) "inbound_seqs" rows)))
  version := 6

theorem climb_changes {changes : List Change}
    (changed : Change.runSchema changes db.schema = .ok schema) :
    climb (changes.map .change :: rest) db = climb rest {
      schema
      content := Change.runContent changes db.content
      version := db.version + 1 } := by
  rw [climb, run_changes changed]

theorem run_v3 (old : Version2 db) : run (schemaV3.map .change ++ [.copy backfillV3]) db =
      (inboundSeqsV3.insertAll "inbound_seqs" []
        ((inbound db).map noted)).map fun rows => {
          schema := schemaAt 3
          content := Function.update (Change.runContent schemaV3 db.content) "inbound_seqs" rows
          version := db.version } := by
  have changed : Change.runSchema schemaV3 db.schema = .ok (schemaAt 3) := by
    rw [old.schema]
    exact runSchema_v3
  have empty : Change.runContent schemaV3 db.content backfillV3.target = [] :=
    Change.runContent_of_created (by decide +kernel)
  rw [run_changes_copy changed resolve_backfill, empty, selected_backfill]
  rfl

theorem migrate_version2 (old : Version2 db) :
    migrate db = match inboundSeqsV3.insertAll "inbound_seqs" [] ((inbound db).map noted) with
      | .error failure => (.error (.sqlite failure), db)
      | .ok rows => (.ok (), finished db rows) := by
  unfold migrate
  rw [old.version, if_neg (by decide)]
  show climb [schemaV3.map .change ++ [.copy backfillV3],
    schemaV4.map .change, schemaV5.map .change, schemaV6.map .change] db = _
  rw [climb, run_v3 old]
  cases inboundSeqsV3.insertAll "inbound_seqs" [] ((inbound db).map noted) with
  | error failure => rfl
  | ok rows =>
    simp only [Except.map]
    rw [climb_changes runSchema_v4, climb_changes runSchema_v5,
      climb_changes runSchema_v6, climb, old.version]
    rfl

theorem finished_of_untouched
    (made : (schemaV4 ++ schemaV5 ++ schemaV6).any (Change.creates name) = false)
    (same : Change.added name (schemaV4 ++ schemaV5 ++ schemaV6) = []) :
    (finished db rows).content name = Function.update
      (Change.runContent schemaV3 db.content) "inbound_seqs" rows name := by
  have joined := @Change.runContent_of_untouched _ name (Function.update
    (Change.runContent schemaV3 db.content) "inbound_seqs" rows) made same
  unfold Change.runContent at joined
  rw [List.foldl_append, List.foldl_append] at joined
  exact joined

theorem finished_messages : (finished db rows).content "messages" =
      (db.content "messages").map grown := by
  rw [finished_of_untouched (by decide +kernel) (by decide +kernel),
    Function.update_of_ne (by decide)]
  exact Change.runContent_of_kept (by decide +kernel)

theorem finished_inboundSeqs : (finished db rows).content "inbound_seqs" = rows := by
  rw [finished_of_untouched (by decide +kernel) (by decide +kernel), Function.update_self]

theorem Version2.messages (old : Version2 db) :
    messagesV2.accepts (db.content "messages") = true := by
  have valid := old.valid
  unfold Database.valid at valid
  rw [old.schema] at valid
  exact List.all_eq_true.mp valid ("messages", messagesV2) messages_mem

theorem seqOf_ne_null (filled : messagesV2.filled row = true) :
    row "rel_id" ≠ .null ∧ row "app_seq" ≠ .null := by
  have column : ∀ name, required name ∈ messagesV2.columns → row name ≠ .null := by
    intro name mem
    have value := List.all_eq_true.mp filled (required name) mem
    exact of_decide_eq_true ((Bool.false_or _).symm.trans value)
  exact ⟨column "rel_id" (by decide), column "app_seq" (by decide)⟩

theorem noted_sound (filled : messagesV2.filled row = true) :
    inboundSeqsV3.filled (noted row) = true ∧ inboundSeqsV3.checked (noted row) = true := by
  obtain ⟨rel, seq⟩ := seqOf_ne_null filled
  have same := seqOf_noted row
  simp only [seqOf, Prod.mk.injEq] at same
  refine ⟨?_, rfl⟩
  simp [TableSchema.filled, inboundSeqsV3, required, same, rel, seq]

theorem conflicts_noted_iff (filled : messagesV2.filled first = true) :
    inboundSeqsV3.conflicts (noted first) (noted second) = false ↔ seqOf first ≠ seqOf second := by
  obtain ⟨rel, seq⟩ := seqOf_ne_null filled
  have one := seqOf_noted first
  have two := seqOf_noted second
  simp only [seqOf, Prod.mk.injEq] at one two
  rw [← Bool.not_eq_true, ne_eq, not_iff_not]
  simp [TableSchema.conflicts, inboundSeqsV3, seqOf, one, two, rel, seq]

theorem backfill_ok_iff (old : Version2 db) :
    inboundSeqsV3.insertAll "inbound_seqs" [] ((inbound db).map noted) = .ok rows ↔
      rows = (inbound db).map noted ∧ ((inbound db).map seqOf).Nodup := by
  have filled : ∀ row ∈ inbound db, messagesV2.filled row = true :=
    fun row mem => TableSchema.filled_of_accepts old.messages (List.mem_of_mem_filter mem)
  rw [TableSchema.insertAll_ok_iff, List.nil_append, List.pairwise_map,
    List.Nodup, List.pairwise_map]
  refine and_congr_right fun _ => ⟨?_, fun distinct => ⟨?_, nofun, ?_⟩⟩
  · rintro ⟨-, -, apart⟩
    exact apart.imp_of_mem fun one _ apart =>
      (conflicts_noted_iff (filled _ one)).mp apart
  · exact List.forall_mem_map.mpr fun row mem =>
      noted_sound (filled row mem)
  · exact distinct.imp_of_mem fun one _ apart =>
      (conflicts_noted_iff (filled _ one)).mpr apart

/-- The ladder is climbed, the ledger keeps its rows, and the numbers noted are
exactly the inbound ones: what a migration of version 2 is for. -/
structure Migrated (before after : Database) : Prop where
  version : after.version = schemaVersion
  schema : after.schema = schemaAt schemaVersion
  messages : List.Forall₂ (fun old new => ∀ column,
    messagesV2.has column = true → new column = old column)
    (before.content "messages") (after.content "messages")
  inboundSeqs : ∀ pair, pair ∈ (after.content "inbound_seqs").map seqOf ↔
    ∃ row ∈ before.content "messages", row "direction" = .text "in" ∧ seqOf row = pair

theorem migrated_finished (db : Database) : Migrated db (finished db ((inbound db).map noted)) where
  version := rfl
  schema := rfl
  messages := by
    rw [finished_messages, List.forall₂_map_right_iff, List.forall₂_same]
    exact fun row _ column old => grown_old old row
  inboundSeqs pair := by
    have same : seqOf ∘ noted = seqOf := funext seqOf_noted
    have chosen : ∀ row : Row, backfillV3.chosen row = true ↔ row "direction" = .text "in" := by
      intro row
      rw [Copy.chosen, Bool.and_eq_true]
      exact (and_iff_right (by decide)).trans decide_eq_true_iff
    rw [finished_inboundSeqs, List.map_map, same, inbound, List.mem_map]
    simp only [List.mem_filter, chosen, and_assoc]

/-- A database of version 2 migrates exactly if no two inbound rows of a
relationship have the same number; else it stays as it is. -/
theorem migrate_ok_iff (old : Version2 db) :
    (∃ after, migrate db = (.ok (), after) ∧ Migrated db after) ↔
      ((inbound db).map seqOf).Nodup := by
  rw [migrate_version2 old]
  constructor
  · rintro ⟨after, done, -⟩
    split at done
    · cases done
    · rename_i rows inserted
      exact ((backfill_ok_iff old).mp inserted).2
  · intro distinct
    have inserted := (backfill_ok_iff old).mpr ⟨rfl, distinct⟩
    refine ⟨finished db ((inbound db).map noted), ?_, migrated_finished db⟩
    rw [inserted]

def ledgerRow (msgId : String) (appSeq : Int) : Row
  | "msg_id" => .text msgId
  | "rel_id" => .text "bob"
  | "direction" => .text "in"
  | "app_seq" => .integer appSeq
  | "sent_at" => .integer 0
  | "env_type" => .integer 1
  | "payload" => .blob []
  | "state" => .text "received"
  | "created_at" => .integer 0
  | _ => .null

def ledgerOf (rows : List Row) : Database where
  schema := schemaAt 2
  content name := if name = "messages" then rows else []
  version := 2

theorem version2_ledgerOf (accepted : messagesV2.accepts rows = true) :
    Version2 (ledgerOf rows) where
  version := rfl
  schema := rfl
  valid := by
    refine List.all_eq_true.mpr fun entry mem => ?_
    have named : (schemaAt 2).tables.all (fun entry =>
        entry.1 ≠ "messages" || entry.2 = messagesV2) = true := by
      decide +kernel
    have known := List.all_eq_true.mp named entry mem
    by_cases ledger : entry.1 = "messages"
    · have same : entry.2 = messagesV2 := by simpa [ledger] using known
      show entry.2.accepts (if entry.1 = "messages" then rows else []) = true
      rw [if_pos ledger, same]
      exact accepted
    · show entry.2.accepts (if entry.1 = "messages" then rows else []) = true
      rw [if_neg ledger]
      rfl

theorem numbered_ledger_migrates : ∃ after, migrate (ledgerOf [ledgerRow "a" 1, ledgerRow "b" 2]) =
        (.ok (), after) ∧
      Migrated (ledgerOf [ledgerRow "a" 1, ledgerRow "b" 2]) after :=
  (migrate_ok_iff (version2_ledgerOf (by decide +kernel))).mpr (by decide +kernel)

/-- Two rows that version 2 takes, with one number: the backfill violates the
new key. -/
theorem twice_numbered_ledger_fails : Version2 (ledgerOf [ledgerRow "a" 1, ledgerRow "b" 1]) ∧
      (migrate (ledgerOf [ledgerRow "a" 1, ledgerRow "b" 1])).1 =
        .error (.sqlite (.unique "inbound_seqs")) := by
  have old : Version2 (ledgerOf [ledgerRow "a" 1, ledgerRow "b" 1]) :=
    version2_ledgerOf (by decide +kernel)
  refine ⟨old, ?_⟩
  rw [migrate_version2 old]
  have refused : inboundSeqsV3.insertAll "inbound_seqs" []
      ((inbound (ledgerOf [ledgerRow "a" 1, ledgerRow "b" 1])).map noted) =
        .error (.unique "inbound_seqs") := rfl
  rw [refused]

end Migration

end SChatCore.Store

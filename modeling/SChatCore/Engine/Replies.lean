import SChatCore.Engine.Answers

namespace SChatCore.Engine

open Data Data.Action Wire Store Policy

/-! The items that a text names. -/

/-- What is lacking is asked for as long as the budget lasts. -/
def emojiReply (rel : RelId) (owned : Bytes → Bool) (now : Nat) :
    List Bytes → RateTables → List Payload
  | [], _ => []
  | front :: rest, rate =>
    if owned front then emojiReply rel owned now rest rate
    else
      let (granted, rate) := rate.check .stickerFetch rel now
      let later := emojiReply rel owned now rest rate
      if granted then .stickerCtrl (.wantItem front) :: later else later

variable {sys : Platform} {rel : RelId} {db : Db} {eng : Engine}

theorem spends_rateAllow (surface : Surface) : Spends sys rel 0 eng
    { eng with rate := (eng.rate.check surface rel eng.clock).2 } :=
  .aside rfl rfl rfl

theorem answers_fetchAll (fronts : List Bytes) (rows : eng.db.relationships = db.relationships) :
    Answers sys rel db extra (some (emojiReply rel eng.db.haveItemPrefix
      eng.clock fronts eng.rate)) (fronts.forM (fetchEmoji sys rel)) eng := by
  induction fronts generalizing eng with
  | nil => exact answers_pure _
  | cons front rest ih =>
    show Answers _ _ _ _ _ (fetchEmoji sys rel front >>=
      fun _ => rest.forM (fetchEmoji sys rel)) eng
    rw [fetchEmoji, bind_assoc, emojiReply]
    refine answers_skip rfl ?_
    split
    · exact ih rows
    · rw [bind_assoc]
      refine answers_step (run_rateAllow eng _ _) (spends_rateAllow _) ?_
      simp only
      split
      · rw [bind_assoc]
        refine answers_send (passes_of_rows rows) fun _ after same => ?_
        have later := ih ((relationships_of_unsent same).trans rows)
        rwa [show emojiReply rel after.db.haveItemPrefix after.clock rest
          after.rate = _ from congrArg (fun eng => emojiReply rel
            eng.db.haveItemPrefix eng.clock rest eng.rate) same] at later
      · exact ih rows

/-! The sticker exchange. -/

def ackReply (db : Db) (sha : Array32) : List Payload :=
  if db.haveItem sha then [] else [.stickerCtrl (.ack sha)]

def stickerReply (sys : Platform) (item : StickerItem) (db : Db) :
    List Payload :=
  match item.bytes with
  | some bytes =>
    if sys.sha256 bytes ≠ item.contentSha256 then []
    else ackReply db item.contentSha256
  | none =>
    if db.haveItem item.contentSha256 then []
    else [.stickerCtrl (.wantItem item.contentSha256.toList)]

def packWanted (db : Db) : Option PackRef → List Payload
  | none => []
  | some pack =>
    if pack.visibility = Sticker.visibilityPublic ∧ (db.packInfo pack.packId).isNone then
      [.stickerCtrl (.wantPack pack.packId pack.packPk)]
    else []

def bodyReply (sys : Platform) (sha : Array32) (index count : UInt16)
    (data : Bytes) (pack : Option PackRef) (eng : Engine) : List Payload :=
  match (feedItem sha index count data eng.clock eng.stickerPending).1 with
  | none => []
  | some bytes =>
    if sys.sha256 bytes ≠ sha then []
    else ackReply eng.db sha ++ packWanted eng.db pack

def itemReply (rel : RelId) (sha : Bytes) (eng : Engine) : List Payload :=
  if (eng.rate.check .stickerServe rel eng.clock).1 then
    match eng.db.findItem sha with
    | none => []
    | some (item, pack) => itemBodies item pack
  else []

def packReply (sys : Platform) (rel : RelId) (packId : Array16)
    (packPk : Array32) (eng : Engine) : Option (List Payload) :=
  let refused reason := some [.stickerCtrl (.packRefused packId packPk reason)]
  match eng.db.packInfo packId with
  | none => refused StickerCtrl.refusedUnknown
  | some info =>
    if info.packPk ≠ packPk then refused StickerCtrl.refusedUnknown
    else if info.visibility = Sticker.visibilityPrivate then
      refused StickerCtrl.refusedPrivate
    else if (eng.db.notePackServe rel (eng.clock / 86400)).1 >
        Store.Sticker.packServesPerPeerPerDay then
      refused StickerCtrl.refusedRateLimited
    else
      match packDocument sys eng.db packId with
      | .error _ => none
      | .ok none => refused StickerCtrl.refusedUnknown
      | .ok (some blob) => some (bodies Sticker.packChunkMax blob
          fun index count data => .packBody packId packPk index count data)

def thumbsReply (sys : Platform) (rel : RelId) (packId : Array16)
    (packPk : Array32) (eng : Engine) : Option (List Payload) :=
  match eng.db.packInfo packId with
  | none => some []
  | some info =>
    let thumbs := thumbsOf sys (eng.db.itemsFor packId)
    if !(eng.rate.check .stickerServe rel eng.clock).1 ||
        info.packPk ≠ packPk || info.visibility = Sticker.visibilityPrivate ||
        thumbs.isEmpty then some []
    else
      match (thumbsDoc info thumbs).encode with
      | .error _ => none
      | .ok blob => some (bodies Sticker.packChunkMax blob
          fun index count data => .thumbsBody packId packPk index count data)

def ctrlReply (sys : Platform) (rel : RelId) (eng : Engine) : StickerCtrl → Option (List Payload)
  | .wantItem sha => some (itemReply rel sha eng)
  | .itemBody sha index count data pack => some (bodyReply sys sha index count data pack eng)
  | .wantPack packId packPk => packReply sys rel packId packPk eng
  | .wantThumbs packId packPk => thumbsReply sys rel packId packPk eng
  | _ => some []

theorem answers_keepItem {item : CachedItemRow} {next : Action α} (own : item.sha256 = sha)
    (rows : eng.db.relationships = db.relationships)
    (rest : ∀ after, after.db.relationships = eng.db.relationships →
      after.db.stickers = eng.db.stickers → Answers sys rel db extra (some payloads) next after) :
    Answers sys rel db extra (some (ackReply eng.db sha ++ payloads))
      (keepItem sys rel item >>= fun _ => next) eng := by
  subst own
  unfold ackReply keepItem
  rw [bind_assoc]
  refine answers_skip rfl ?_
  split
  · exact rest eng rfl rfl
  · rw [bind_assoc]
    refine answers_step rfl (.aside rfl rfl rfl) ?_
    show Answers _ _ _ _ _ ((sendEnvelope sys rel
      (.stickerCtrl (.ack item.sha256)) none >>= fun _ => pure ()) >>= _) _
    rw [bind_assoc]
    refine answers_send (passes_of_rows rows) fun _ after same => ?_
    exact rest after (relationships_of_unsent same :) (congrArg (fun eng => eng.db.stickers) same :)

theorem answers_onSticker (msgId : MsgId) (item : StickerItem) : Answers sys rel eng.db extra
      (some (stickerReply sys item eng.db))
      (onSticker sys rel msgId item) eng := by
  unfold onSticker stickerReply
  refine answers_skip rfl ?_
  cases item.bytes with
  | some bytes =>
    simp only
    split
    · exact answers_pure _
    · rw [← List.append_nil (ackReply _ _)]
      exact answers_keepItem rfl rfl fun _ _ _ => answers_pure _
  | none =>
    refine answers_skip rfl ?_
    simp only
    split
    · exact answers_pure _
    · exact answers_single Iff.rfl

theorem answers_fetchUnknownPack (pack : Option PackRef)
    (rows : eng.db.relationships = db.relationships) :
    Answers sys rel db extra (some (packWanted eng.db pack))
      (fetchUnknownPack sys rel pack) eng := by
  unfold fetchUnknownPack packWanted
  cases pack with
  | none => exact answers_pure _
  | some pack =>
    refine answers_skip rfl ?_
    simp only
    split
    · exact answers_single (passes_of_rows rows)
    · exact answers_pure _

theorem answers_onItemBody (sha : Array32) (index count : UInt16)
    (data : Bytes) (pack : Option PackRef) :
    Answers sys rel eng.db extra (some (bodyReply sys sha index count data pack eng))
      (onItemBody sys rel sha index count data pack) eng := by
  unfold onItemBody bodyReply
  refine answers_skip rfl (answers_step (run_feed _ eng) (.aside rfl rfl rfl) ?_)
  cases (feedItem sha index count data eng.clock eng.stickerPending).1 with
  | none => exact answers_pure _
  | some bytes =>
    simp only
    split
    · exact answers_pure _
    · refine answers_keepItem (by cases pack <;> rfl) rfl fun after rows stickers => ?_
      have same : packWanted eng.db pack = packWanted after.db pack := by
        unfold packWanted Db.packInfo
        rw [stickers]
      rw [same]
      exact answers_fetchUnknownPack pack rows

theorem answers_answerWantItem (sha : Bytes) :
    Answers sys rel eng.db extra (some (itemReply rel sha eng))
      (answerWantItem sys rel sha) eng := by
  unfold answerWantItem itemReply
  refine answers_step (run_rateAllow eng _ _) (spends_rateAllow _) (answers_skip rfl ?_)
  simp only
  split
  · cases eng.db.findItem sha with
    | none => exact answers_pure _
    | some found => exact answers_sendAll _ rfl
  · exact answers_pure _

theorem answers_answerWantPack (packId : Array16) (packPk : Array32) : Answers sys rel eng.db extra
      (packReply sys rel packId packPk eng)
      (answerWantPack sys rel packId packPk) eng := by
  unfold answerWantPack packReply
  refine answers_skip rfl ?_
  cases eng.db.packInfo packId with
  | none => exact answers_single Iff.rfl
  | some info =>
    simp only
    split
    · exact answers_single Iff.rfl
    split
    · exact answers_single Iff.rfl
    have serves := serves_notePackServe rel (eng.clock / 86400) eng
    have rows : (eng.db.notePackServe rel
        (eng.clock / 86400)).2.relationships = eng.db.relationships :=
      (congrArg (fun eng => eng.db.relationships) serves :)
    refine answers_skip rfl (answers_step (run_updateDb _ _) (.aside serves.tends.db rfl rfl) ?_)
    split
    · exact answers_single (passes_of_rows rows)
    · unfold servePack
      refine answers_skip rfl ?_
      have document : packDocument sys (eng.db.notePackServe rel (eng.clock / 86400)).2 packId =
            packDocument sys eng.db packId :=
        (congrArg (fun eng => packDocument sys eng.db packId) serves :)
      simp only [document]
      cases packDocument sys eng.db packId with
      | error error => exact answers_of_error rfl
      | ok result =>
        cases result with
        | none => exact answers_single (passes_of_rows rows)
        | some blob => exact answers_sendAll _ rows

theorem answers_answerWantThumbs (packId : Array16) (packPk : Array32) :
    Answers sys rel eng.db extra (thumbsReply sys rel packId packPk eng)
      (answerWantThumbs sys rel packId packPk) eng := by
  unfold answerWantThumbs thumbsReply
  refine answers_step (run_rateAllow eng _ _) (spends_rateAllow _) (answers_skip rfl ?_)
  simp only
  cases eng.db.packInfo packId with
  | none => exact answers_pure _
  | some info =>
    simp only
    split
    · exact answers_pure _
    · cases (thumbsDoc info (thumbsOf sys (eng.db.itemsFor packId))).encode with
      | error error => exact answers_of_error rfl
      | ok blob => exact answers_skip rfl (answers_sendAll _ rfl)

theorem answers_onStickerCtrl (ctrl : StickerCtrl) :
    Answers sys rel eng.db extra (ctrlReply sys rel eng ctrl) (onStickerCtrl sys rel ctrl) eng := by
  cases ctrl with
  | ack | packRefused => exact answers_pure _
  | wantItem sha => exact (answers_answerWantItem sha).returns
  | itemBody sha index count data pack =>
    exact (answers_onItemBody sha index count data pack).returns
  | wantPack packId packPk => exact (answers_answerWantPack packId packPk).returns
  | wantThumbs packId packPk => exact (answers_answerWantThumbs packId packPk).returns
  | packBody packId packPk index count data =>
    show Answers _ _ _ _ (some []) (onPackBody _ _ _ _ _ _ _) eng
    have ran := run_onPackBody sys rel packId packPk index count data eng
    simp only at ran
    split at ran
    · exact answers_ok ran (.aside rfl rfl rfl)
    · exact answers_ok ran (.aside
        (aside_installPackBlob sys rel eng _ packPk eng.clock).db rfl rfl)
  | thumbsBody packId packPk index count data =>
    show Answers _ _ _ _ (some []) (onThumbsBody _ _ _ _) eng
    unfold onThumbsBody
    refine answers_skip rfl (answers_step (run_feed _ eng) (.aside rfl rfl rfl) ?_)
    split
    · exact answers_pure _
    split
    · exact answers_pure _
    · exact answers_pure _

/-! Policy, resync and transfers. -/

/-- The sync that is due. -/
def syncReply (state : PolicyState) (now : Nat) : List Payload :=
  if now ≥ state.lastSyncAt + syncReplyMinSec then
    [.chatPolicy (buildSync state now).2]
  else []

def policyReply (env : Envelope) (policy : ChatPolicy) (now : Nat)
    (state : PolicyState) : List Payload :=
  match policyStep state policy env.msgId now with
  | some (next, _, true) => syncReply next now
  | _ => []

def resyncReply (rel : RelId) (eng : Engine) : Option (List Payload) :=
  if (eng.rate.check .resyncReq rel eng.clock).1 then
    if sessionState eng.db rel = .broken then none
    else (loadPolicy eng.db rel).toOption.map (syncReply · eng.clock)
  else some []

/-- Another chunk is on file in its place. -/
def conflicts (db : Db) (headId : MsgId) (index : UInt16) (data : Bytes) :
    Bool :=
  (db.chunk headId index).any (· ≠ data)

def headReply (sys : Platform) (rel : RelId) (headId : MsgId)
    (payload : AttachHeadPayload) (db : Db) : Option (List Payload) :=
  if (attachmentsAllowed db rel).toOption = some true ∧
      db.attachment headId = none ∧ payload.inline.any fun bytes =>
        sys.sha256 bytes = payload.head.contentSha256 && conflicts db headId 0 bytes then none
  else some []

def chunkReply (rel : RelId) (chunk : AttachChunk) (db : Db) : Option (List Payload) :=
  if chunk.pad then some []
  else if refusesChunk db rel chunk then some []
  else if conflicts db chunk.headId chunk.index chunk.data then none
  else some []

theorem passes_savePolicy {t : EnvelopeType} (state : PolicyState)
    (undenied : ∀ policy, policyDenies policy t = false) :
    Passes (savePolicy rel state db) rel t ↔ Passes db rel t :=
  passes_updateRelationship fun _ => by simp only [undenied, saved]

theorem spends_savePolicy (state : PolicyState) : Spends sys rel 0 eng
    { eng with db := savePolicy rel state eng.db } :=
  .of_same ⟨rfl, rfl, passes_savePolicy state fun _ => rfl⟩ rfl rfl rfl rfl

theorem answers_replySync (state : PolicyState) (passes : Passes eng.db rel .chatPolicy ↔
      Passes db rel .chatPolicy) :
    Answers sys rel db extra (some (syncReply state eng.clock)) (replySync sys rel state) eng := by
  unfold replySync syncReply
  refine answers_skip rfl ?_
  split
  · exact answers_step rfl (spends_savePolicy _) (answers_single
      ((passes_savePolicy _ fun _ => rfl).trans passes))
  · exact answers_pure _

theorem spends_foldl (list : List α) {step : Db → α → Db}
    (each : ∀ (eng : Engine) element, Spends sys rel 0 eng
      { eng with db := step eng.db element }) (eng : Engine) :
    Spends sys rel 0 eng { eng with db := list.foldl step eng.db } := by
  induction list generalizing eng with
  | nil => exact .refl eng
  | cons element rest ih => exact (each eng element).trans (ih _)

theorem spends_clampAndErase (outcome : ApplyOutcome) : Spends sys rel 0 eng
      { eng with db := clampAndErase rel outcome eng.db } := by
  obtain ⟨clamped, same, origin⟩ := clampAndErase_eq rel outcome eng.db
  have clamps : Spends sys rel 0 eng { eng with db := clamped } := by
    obtain ⟨-, rfl⟩ | ⟨limit, -, rfl⟩ := origin
    · exact .refl eng
    · exact spends_updateMessages _ _ eng
  rw [same]
  split
  · refine clamps.trans (spends_foldl _ (fun eng headId => ?_) _)
    have erased : Spends sys rel 0 eng { eng with
        db := (eng.db.deleteChunks headId).deleteAttachment headId } :=
      .of_same ⟨rfl, rfl, Iff.rfl⟩ rfl rfl rfl rfl
    exact erased.trans (spends_updateMessages _ _ _)
  · exact clamps

theorem answers_applyChatPolicy (env : Envelope) (policy : ChatPolicy)
    (loaded : loadPolicy eng.db rel = .ok state) :
    Answers sys rel eng.db extra (some (policyReply env policy eng.clock state))
      (applyChatPolicy sys rel env policy) eng := by
  unfold applyChatPolicy policyReply
  refine answers_policy loaded (answers_skip rfl ?_)
  cases policyStep state policy env.msgId eng.clock with
  | none => exact answers_pure _
  | some verdict =>
    obtain ⟨next, outcome, respond⟩ := verdict
    refine answers_step rfl (spends_savePolicy next)
      (answers_step rfl (spends_clampAndErase outcome) ?_)
    cases respond with
    | false => exact answers_pure _
    | true =>
      refine Answers.returns (answers_replySync next ?_)
      have rest := clampAndErase_rest rel outcome (savePolicy rel next eng.db)
      exact (passes_of_rows (congrArg Db.relationships rest :)).trans
        (passes_savePolicy next fun _ => rfl)

/-- The gates of the reply: a request has its capabilities noted first. -/
def noted (rel : RelId) (db : Db) : Payload → Db
  | .resyncReq request => db.notePeerCaps rel request.caps
  | _ => db

/-- What the handler sends. -/
def reply (sys : Platform) (rel : RelId) (env : Envelope) (eng : Engine) : Option (List Payload) :=
  match env.payload with
  | .msg msg => some (emojiReply rel eng.db.haveItemPrefix eng.clock
      (extract msg.body) eng.rate)
  | .resyncReq _ => resyncReply rel eng
  | .attachHead payload => headReply sys rel env.msgId payload eng.db
  | .attachChunk chunk => chunkReply rel chunk eng.db
  | .sticker item => some (stickerReply sys item eng.db)
  | .stickerCtrl ctrl => ctrlReply sys rel eng ctrl
  | .chatPolicy policy => (loadPolicy eng.db rel).toOption.map
      (policyReply env policy eng.clock)
  | _ => some []

theorem length_retransmits_le (rel : RelId) (request : ResyncReq) (eng : Engine) :
    (retransmits rel request eng).length ≤
      eng.db.messages.rows.length := by
  refine (List.length_filterMap_le _ _).trans ?_
  unfold unsettled Db.unackedOutbound
  rw [List.length_insertionSort]
  exact List.length_filter_le _ _

theorem spends_requeued {outbox : Table OutboxRow.msgId} {count : Nat}
    (kept : ∀ msgId, eng.db.message msgId = none →
      outbox.lookup msgId = eng.db.outbox.lookup msgId) :
    Spends sys rel count eng { eng with
      db := { eng.db with outbox }, draws := eng.draws + count } := by
  refine ⟨⟨rfl, rfl, Iff.rfl⟩, fun more reserved healthy => ⟨healthy.encrypts,
    healthy.cached, healthy.spare, fun first second lower order upper => ?_,
    fun index lower upper => ?_⟩⟩
  · have above : eng.draws + count ≤ first := lower
    have below : second < eng.draws + count + more := upper
    exact healthy.distinct first second (by omega) order (by omega)
  · have above : eng.draws + count ≤ index := lower
    have below : index < eng.draws + count + more := upper
    obtain ⟨unreserved, message, entry, ciphertext⟩ := healthy.unused index (by omega) (by omega)
    exact ⟨unreserved, message, (kept _ message).trans entry, ciphertext⟩

theorem answers_applyResyncReq (request : ResyncReq) (found : eng.db.relationship rel = some row)
    (fits : FramesFit eng.db) (unbroken : sessionState eng.db rel ≠ .broken) :
    Answers sys rel (eng.db.notePeerCaps rel request.caps) eng.db.messages.rows.length
      (some (syncReply (ofRow row) eng.clock))
      (applyResyncReq sys rel request) eng := by
  have caps : Spends sys rel 0 eng { eng with
      db := eng.db.notePeerCaps rel request.caps } :=
    .of_same ⟨rfl, rfl, passes_updateRelationship fun _ => rfl⟩ rfl rfl rfl rfl
  have acks : Spends sys rel 0 eng (requested rel request eng) :=
    caps.trans (spends_updateMessages _ _ _)
  obtain ⟨outbox, ran, entries⟩ := @run_requeueAll rel
    (requested rel request eng) (retransmits rel request eng) sys fits
    stored_retransmits
  have queued := @spends_requeued sys rel (requested rel request eng) outbox
    (retransmits rel request eng).length fun msgId fresh => by
      have kept := entries msgId
      rwa [if_neg] at kept
      rintro ⟨frame, listed, rfl⟩
      obtain ⟨row, waiting, -, -, -, same, -⟩ := mem_retransmits.mp listed
      rw [same] at fresh
      have filed : eng.db.message row.msgId = some row :=
        Table.lookup_key (mem_unsettled.mp waiting).1
      cases ((message_acknowledged _ _ _).trans (congrArg _ filed)).symm.trans fresh
  have noted : (eng.db.notePeerCaps rel request.caps).relationship rel =
      some { row with peerCaps := request.caps } := by
    rw [Db.notePeerCaps, Db.relationship_updateRelationship, if_pos rfl, found]
    rfl
  have fewer := length_retransmits_le rel request eng
  refine (Answers.of_run (run_applyResyncReq sys unbroken) acks (Answers.of_run
    (run_bind_ok ran) queued (?_ : Answers _ _ _ 0 _ _ _))).extend (by omega)
  exact answers_policy (loadPolicy_eq_ok.mpr ⟨_, noted, rfl⟩)
    (answers_replySync _ (passes_of_rows rfl))

theorem answers_onResyncReq (request : ResyncReq) (found : eng.db.relationship rel = some row)
    (fits : FramesFit eng.db) :
    Answers sys rel (eng.db.notePeerCaps rel request.caps)
      eng.db.messages.rows.length (resyncReply rel eng)
      (onResyncReq sys rel request) eng := by
  have loaded : loadPolicy eng.db rel = .ok (ofRow row) := by simp [loadPolicy, found]
  unfold onResyncReq resyncReply
  refine answers_step (run_rateAllow eng _ _) (spends_rateAllow _) ?_
  rw [loaded]
  cases (eng.rate.check .resyncReq rel eng.clock).1 with
  | false => exact answers_pure _
  | true =>
    refine Answers.returns ?_
    simp only [if_true]
    split
    · rename_i broken
      obtain ⟨error, ran⟩ := @run_applyResyncReq_of_broken rel request { eng with
          rate := (eng.rate.check .resyncReq rel eng.clock).2 } sys broken
      exact answers_of_error ran
    · rename_i unbroken
      exact @answers_applyResyncReq sys rel { eng with
        rate := (eng.rate.check .resyncReq rel eng.clock).2 } row request
        found fits unbroken

theorem putChunk_cases {now : Nat} (headId : MsgId) (index : UInt16) (data : Bytes) (rel : RelId) :
    conflicts db headId index data = true ∧
        (∃ error, db.putChunk headId index data rel now = .error error) ∨
      conflicts db headId index data = false ∧ ∃ chunks, db.putChunk headId index data rel now =
          .ok { db with chunks } := by
  unfold conflicts
  cases filed : db.chunk headId index with
  | none =>
    obtain ⟨chunks, inserted, -⟩ := Table.insert_of_fresh (ChunkRow.mk headId index data rel now)
      (Option.map_eq_none_iff.mp filed)
    exact .inr ⟨rfl, chunks, putChunk_eq_ok.mpr (.inr ⟨filed, chunks, inserted, rfl⟩)⟩
  | some stored =>
    by_cases same : stored = data
    · exact .inr ⟨by simp [same], db.chunks, putChunk_eq_ok.mpr (.inl ⟨same ▸ filed, rfl⟩)⟩
    · refine .inl ⟨by simp [same], ?_⟩
      simp only [Db.putChunk, filed, ne_eq, same, not_false_eq_true, if_true]
      exact ⟨_, rfl⟩

theorem spends_media {attachments : Table AttachmentRow.headId}
    {chunks : Table ChunkRow.key} : Spends sys rel 0 eng
      { eng with db := { eng.db with attachments, chunks } } :=
  .of_same ⟨rfl, rfl, Iff.rfl⟩ rfl rfl rfl rfl

theorem answers_tryComplete (headId : MsgId) :
    Answers sys rel db extra (some []) (tryComplete sys rel headId)
      eng := by
  cases found : eng.db.attachment headId with
  | none =>
    unfold tryComplete
    refine answers_skip rfl ?_
    rw [found]
    exact answers_pure _
  | some row =>
    have ran : (tryComplete sys rel headId).run eng = _ := run_tryComplete found
    split at ran
    · exact answers_ok ran (.refl eng)
    split at ran
    · exact answers_ok ran spends_media
    · exact answers_ok ran spends_media

theorem answers_onAttachChunk (chunk : AttachChunk) :
    Answers sys rel eng.db extra (chunkReply rel chunk eng.db)
      (onAttachChunk sys rel chunk) eng := by
  have ran := run_onAttachChunk sys rel eng chunk
  unfold chunkReply
  split at ran
  · rename_i pad
    rw [if_pos pad]
    exact answers_ok ran (.refl eng)
  rename_i pad
  rw [if_neg pad]
  split at ran
  · rename_i refused
    rw [if_pos refused]
    exact answers_ok ran (.refl eng)
  rename_i refused
  rw [if_neg refused]
  obtain ⟨conflicting, error, put⟩ | ⟨agreeing, chunks, put⟩ :=
    @putChunk_cases eng.db eng.clock chunk.headId chunk.index chunk.data rel
  · rw [put] at ran
    rw [if_pos conflicting]
    exact answers_of_error ran
  · rw [put] at ran
    rw [if_neg (by simp [agreeing])]
    simp only at ran
    split at ran
    · exact answers_ok ran spends_media
    · refine Answers.of_run ran spends_media ?_
      unfold afterChunk
      split
      · exact answers_tryComplete _
      · exact answers_skip rfl (answers_pure _)

theorem answers_onAttachHead (headId : MsgId) (payload : AttachHeadPayload)
    (loaded : loadPolicy eng.db rel = .ok state) :
    Answers sys rel eng.db extra (headReply sys rel headId payload eng.db)
      (onAttachHead sys rel headId payload) eng := by
  have permission : attachmentsAllowed eng.db rel = .ok state.attachments := by
    simp [attachmentsAllowed, loaded]
  by_cases taken : attachmentsAllowed eng.db rel = .ok true ∧ eng.db.attachment headId = none
  · obtain ⟨allowed, unseen⟩ := taken
    obtain ⟨expiry, attachments, -, ran⟩ := run_onAttachHead_unseen sys allowed unseen payload
    refine Answers.of_run ran spends_media ?_
    simp only [headReply, allowed, unseen, Except.toOption, true_and]
    cases payload.inline with
    | none => exact answers_tryComplete _
    | some bytes =>
      have ran : (completeInline sys rel headId payload.head bytes).run
        { eng with db := { eng.db with attachments } } = _ := run_completeInline payload.head bytes
      split at ran
      · rename_i differs
        rw [if_neg (by simp [differs])]
        exact answers_ok ran spends_media
      · rename_i verified
        obtain ⟨conflicting, error, put⟩ | ⟨agreeing, chunks, put⟩ :=
          @putChunk_cases { eng.db with attachments } eng.clock headId 0 bytes rel
        · have conflicting : conflicts eng.db headId 0 bytes = true := conflicting
          rw [put] at ran
          rw [if_pos (by simpa [not_not.mp verified])]
          exact answers_of_error ran
        · have agreeing : conflicts eng.db headId 0 bytes = false := agreeing
          rw [put] at ran
          rw [if_neg (by simpa [not_not.mp verified])]
          exact answers_ok ran spends_media
  · have idle : headReply sys rel headId payload eng.db = some [] := by
      refine if_neg fun taken' => taken ⟨?_, taken'.2.1⟩
      rw [permission] at taken' ⊢
      exact congrArg Except.ok (Option.some.inj taken'.1)
    rw [idle]
    unfold onAttachHead
    refine answers_skip rfl ?_
    rw [permission] at taken ⊢
    refine answers_skip rfl ?_
    split
    · exact answers_pure _
    rename_i allowed
    split
    · exact answers_pure _
    · rename_i unseen
      exact absurd ⟨congrArg _ (not_not.mp allowed), Option.not_isSome_iff_eq_none.mp unseen⟩ taken

theorem answers_applyEdit (env : Envelope) (body : String) :
    Answers sys rel db extra (some []) (applyEdit rel env body) eng := by
  unfold applyEdit
  split
  · exact answers_pure _
  · refine answers_skip rfl (answers_skip rfl ?_)
    simp only
    split
    · exact answers_step rfl (spends_updateMessages _ _ eng) (answers_pure _)
    · exact answers_pure _

theorem answers_applyDelete (env : Envelope) :
    Answers sys rel db extra (some []) (applyDelete rel env) eng := by
  unfold applyDelete
  split
  · exact answers_pure _
  · exact answers_skip rfl (answers_step rfl
      (spends_foldl _ (fun _ _ => spends_media) _) (answers_step rfl
        (.of_same ⟨rfl, rfl, Iff.rfl⟩ rfl rfl rfl rfl) (answers_step rfl
          (.refl _) (answers_step rfl (spends_updateMessages _ _ _) (answers_pure _)))))

theorem answers_applyDeleteAll (env : Envelope) :
    Answers sys rel db extra (some []) (applyDeleteAll rel env) eng := by
  unfold applyDeleteAll
  have cuts : Spends sys rel 0 eng { eng with
      db := eng.db.raiseHistoryCut rel env.appSeq } :=
    .of_same ⟨rfl, rfl, passes_updateRelationship fun _ => rfl⟩ rfl rfl rfl rfl
  refine answers_step rfl cuts (answers_step rfl (Calm.spends
    ⟨rfl, rfl, Iff.rfl⟩ rfl (fun msgId fresh => ?_) rfl fun msgId row found => ?_)
    (answers_pure _))
  · refine (Table.lookup_delete _).trans ?_
    rw [show Table.lookup _ msgId = none from fresh]
    rfl
  · exact (Option.filter_eq_some_iff.mp ((Table.lookup_delete _).symm.trans found)).1

theorem answers_onProfile (profile : Profile) :
    Answers sys rel db extra (some []) (onProfile rel profile) eng := by
  unfold onProfile
  refine answers_skip rfl (answers_step (run_updateDb _ _) ?_ (answers_pure _))
  unfold Db.applyInboundProfile
  simp only
  split
  · exact .of_same ⟨rfl, rfl, Iff.rfl⟩ rfl rfl rfl rfl
  · exact .refl eng

theorem answers_onPref (encodes : pref.encodePayload = .ok bytes) :
    Answers sys rel db extra (some []) (onPref rel pref) eng := by
  unfold onPref
  rw [encodes]
  exact answers_step rfl (.of_same ⟨rfl, rfl, passes_updateRelationship
    fun _ => rfl⟩ rfl rfl rfl rfl) (answers_pure _)

theorem answers_onRead (refId : Option MsgId) (loaded : loadPolicy eng.db rel = .ok state) :
    Answers sys rel db extra (some []) (onRead rel refId) eng := by
  unfold onRead
  refine answers_policy loaded ?_
  cases refId with
  | none => exact answers_pure _
  | some target =>
    simp only
    split
    · exact answers_skip rfl (answers_step rfl (spends_updateMessages _ _ eng) (answers_pure _))
    · exact answers_pure _

theorem answers_ephemeral {surface : Surface} {note : Engine → List EngineEvent × Engine}
    (quiet : ∀ eng, ∃ presence typing, (note eng).2 = { eng with presence, typing })
    (loaded : loadPolicy eng.db rel = .ok state) (on : PolicyState → Bool) :
    Answers sys rel db extra (some []) (do
      let db ← readDb
      let policy ← store (loadPolicy db rel)
      if on policy then do
        let granted ← rateAllow surface rel
        if granted then modifyGet note else return []
      else return [] : Action (List EngineEvent)) eng := by
  refine answers_policy loaded ?_
  split
  · refine answers_step (run_rateAllow eng _ _) (spends_rateAllow _) ?_
    split
    · obtain ⟨presence, typing, same⟩ := quiet { eng with
        rate := (eng.rate.check surface rel eng.clock).2 }
      refine answers_ok rfl ?_
      rw [same]
      exact .aside rfl rfl rfl
    · exact answers_pure _
  · exact answers_pure _

theorem answers_dispatch (decoded : Envelope.decode sys.nfc plain = .ok env)
    (found : eng.db.relationship rel = some row) (fits : FramesFit eng.db)
    (stays : env.payload ≠ .contactClose) :
    Answers sys rel (noted rel eng.db env.payload)
      eng.db.messages.rows.length (reply sys rel env eng)
      (dispatch sys rel env) eng := by
  have loaded : loadPolicy eng.db rel = .ok (ofRow row) := loadPolicy_eq_ok.mpr ⟨row, found, rfl⟩
  unfold dispatch reply noted
  cases payload : env.payload with
  | contactClose => exact absurd payload stays
  | profileReq => exact answers_pure _
  | msg msg => exact (answers_fetchAll _ rfl).returns
  | edit edit => exact answers_applyEdit env edit.body
  | delete => exact answers_applyDelete env
  | deleteAll => exact answers_applyDeleteAll env
  | resyncReq request => exact answers_onResyncReq request found fits
  | attachHead head => exact answers_onAttachHead env.msgId head loaded
  | attachChunk chunk => exact answers_onAttachChunk chunk
  | profile profile => exact answers_onProfile profile
  | pref pref =>
    obtain ⟨bytes, encoded⟩ := Envelope.payload_reencodes decoded
    rw [payload] at encoded
    exact answers_onPref encoded
  | sticker item => exact answers_onSticker env.msgId item
  | stickerCtrl ctrl => exact answers_onStickerCtrl ctrl
  | presence flags => exact answers_ephemeral (fun eng => ⟨_, eng.typing, rfl⟩) loaded _
  | typing beat => exact answers_ephemeral (fun eng => ⟨eng.presence, _, rfl⟩) loaded _
  | read => exact answers_onRead env.refId loaded
  | chatPolicy policy =>
    simp only [loaded]
    exact answers_applyChatPolicy env policy loaded

end SChatCore.Engine

import SChatCore.Engine.Sweep
import SChatCore.Ledger.Routine

namespace SChatCore.Ledger

open Data Data.Action Wire Store Engine

/-! Everything an engine does is a run of licensed moves: its routine, and what
hearing, acknowledging, cutting, closing, erasing and burning come to. -/

abbrev Follows (sys : Platform) (said : Book → RelId → Payload → Prop) (leave : Leave) :
    Engine → Engine → Prop :=
  Traced sys (Licensed sys.nfc said leave)

theorem Evolves.follows {before after : Engine} (evolves : Evolves sys said before after) :
    Follows sys said leave before after :=
  Writes.mono evolves (fun _ _ => .inl) le_rfl

theorem follows_of_evolves (evolves : Keeps (Evolves sys said) action) :
    Keeps (Follows sys said leave) action :=
  evolves.mono fun _ _ => Evolves.follows

theorem follows_failExpired : Keeps (Follows sys said leave) failExpired := by
  refine keeps_clock fun now => ?_
  refine keeps_bind (keeps_updateDb fun _ =>
    .of_write (.dequeue (.inl trivial))) fun expired => ?_
  exact keeps_forM fun row _ => keeps_writeDb fun _ =>
    .of_write (.settle (.inr (.inl rfl)))

theorem mem_of_due {db : Db} {limit now : Nat}
    (listed : row ∈ db.due limit now) : row ∈ db.outbox :=
  (Table.mem_select.mp ((List.mem_insertionSort _).mp (List.mem_of_mem_take listed))).1

theorem nodup_due (db : Db) (limit now : Nat) : ((db.due limit now).map OutboxRow.msgId).Nodup := by
  unfold Db.due
  refine ((List.take_sublist _ _).map _).nodup ?_
  refine ((List.perm_insertionSort _ _).map _).nodup_iff.mpr ?_
  exact (List.filter_sublist.map _).nodup db.outbox.nodup

theorem follows_drainOutbox : Keeps (Follows sys said leave) (drainOutbox sys) := by
  intro eng
  unfold drainOutbox
  rw [bind_now, bind_readDb]
  have drains : Evolves sys said eng (final ((drainRows sys []
      (eng.db.due drainBatch eng.clock)).run eng)) :=
    evolves_drainRows (nodup_due _ _ _) fun row listed =>
      Table.lookup_key (mem_of_due listed)
  refine related_bind drains.follows fun sent => ?_
  exact keeps_returns follows_failExpired

theorem follows_eraseHistory (kept : List MsgId) : Keeps (Follows sys said leave)
      (writeDb (Db.eraseHistory rel kept)) :=
  keeps_writeDb fun _ => .of_write (.forget (.inr trivial))

theorem follows_burnRelationship (burns : leave.burns) :
    Keeps (Follows sys said leave) (burnRelationship rel) := by
  refine keeps_read fun db => ?_
  split
  · exact keeps_pure _
  · exact keeps_modify fun _ => .of_write (.burn (.inr burns))

theorem follows_pruneAllTombstones (prunes : leave.prunes) (eng : Engine) :
    Follows sys said leave eng { eng with
      db := pruneAllTombstones eng.clock eng.db } := by
  have prunes : ∀ (rows : List RelationshipRow) (db : Db),
      Follows sys said leave { eng with db } { eng with
        db := rows.foldl (fun db row =>
          db.pruneTombstones row.relId eng.clock) db } := by
    intro rows
    induction rows with
    | nil => exact fun db => .refl
    | cons row rest ih =>
      intro db
      have first : Follows sys said leave { eng with db }
          { eng with db := db.pruneTombstones row.relId eng.clock } :=
        .of_write (@Write.prune _ _ _ { eng with db } _ (.inr prunes))
      exact trans_of (Follows sys said leave) first (ih _)
  exact prunes _ _

theorem follows_sweep (prunes : leave.prunes) (burns : leave.burns) :
    Keeps (Follows sys said leave) sweep := by
  intro eng
  unfold sweep
  rw [bind_now, bind_writeDb, bind_readDb]
  have expires : Follows sys said leave eng { eng with db := eng.db.sweepExpired eng.clock } :=
    .of_write (.expire (.inr trivial))
  refine trans_of (Follows sys said leave) expires ?_
  generalize swept : ({ eng with
    db := eng.db.sweepExpired eng.clock } : Engine) = start
  have settles := @keeps_settleAll (Follows sys said leave) _
    (fun _ => follows_burnRelationship burns) (closingRows start.db) start
  obtain ⟨closed, middle, ran, fewer⟩ := run_settleAll (closingRows start.db) start
  rw [ran] at settles
  rw [run_bind_ok ran]
  refine trans_of (Follows sys said leave) settles ?_
  have time : eng.clock = middle.clock := by rw [fewer.clock, ← swept]
  rw [time]
  have ram : ∀ {before after : Engine}, Aside before after →
      Follows sys said leave before after := .of_aside
  have rest : ∀ faded, Keeps (Follows sys said leave) (do
      modify fun eng => { eng with
        stickerPending := eng.stickerPending.sweep middle.clock }
      writeDb (Db.sweepCache middle.clock)
      return closed ++ faded : Action (List EngineEvent)) := fun faded =>
    keeps_bind (keeps_modify fun _ => ram (.of_db rfl rfl rfl le_rfl rfl))
      fun _ => keeps_returns (keeps_writeDb fun _ =>
        ram ⟨rfl, rfl, rfl, le_rfl, rfl⟩)
  have fades : Follows sys said leave middle (final (sweepIndicators.run middle)) :=
    ram (.of_db rfl rfl rfl le_rfl rfl)
  refine trans_of (Follows sys said leave) fades ?_
  exact trans_of (Follows sys said leave)
    (follows_pruneAllTombstones prunes (final (sweepIndicators.run middle)))
    (rest _ _)

/-! What a contact ends as: nothing of the routine touches the columns the book
keeps of it, nor what was heard. -/

theorem Evolves.contact {before after : Engine} (evolves : Evolves sys said before after) :
    (book after).contact = (book before).contact := by
  refine @Book.invariant _ (fun book =>
    book.contact = (Ledger.book before).contact)
    (fun book move allowed same => ?_) _ _ (Writes.book evolves) rfl
  cases move <;> first | exact same | exact absurd allowed id

/-- What a call may bring about besides the routine: a history is cut where the
relationship is closing, or where it is the call's own business. -/
def callLeave (eng : Engine) (call : Call) : Leave where
  hears _ _ := False
  acks _ _ := False
  cuts book rel seq :=
    (∀ contact, book.contact rel = some contact → contact.closing = true) ∨
      call = .sendDeleteAll rel ∧ seq = (eng.db.nextOutSeq rel).1
  prunes := call = .sweep
  burns := call = .sweep

theorem follows_sendDeleteAll (permits : Permits sys said) :
    Follows sys said (callLeave eng (.sendDeleteAll rel)) eng
      (final ((sendDeleteAll sys rel).run eng)) := by
  have sends : Evolves sys said eng (final ((sendEnvelope sys rel .deleteAll none).run eng)) :=
    evolves_send permits .deleteAll none nofun eng
  unfold sendDeleteAll
  refine final_bind (fun error middle ran => ?_) fun sent middle ran => ?_
  · rw [ran] at sends
    exact sends.follows
  · rw [ran] at sends
    have seq := (filed_sendEnvelope ran).number
    refine trans_of (Follows sys said _) sends.follows ?_
    have raised : Follows sys said (callLeave eng (.sendDeleteAll rel)) middle { middle with
          db := middle.db.raiseHistoryCut rel sent.appSeq } :=
      .of_write (.raise (.inr (.inr ⟨rfl, seq⟩)))
    refine trans_of (Follows sys said _) raised ?_
    exact keeps_bind (follows_eraseHistory _) (fun _ => keeps_pure _) _

def Shut (rel : RelId) (eng : Engine) : Prop :=
  ∀ contact, (book eng).contact rel = some contact → contact.closing = true

theorem Evolves.shut (evolves : Evolves sys said before after) (shut : Shut rel before) :
    Shut rel after := by
  unfold Shut
  rw [evolves.contact]
  exact shut

def shutting (rel : RelId) (eng : Engine) : Engine :=
  { eng with
    db := (eng.db.setClosing rel).setCloseStartedAt rel eng.clock }

theorem run_enterClosing (unclosed : ¬ (eng.db.closeState rel).isSome = true) :
    (enterClosing rel).run eng = .ok () (shutting rel eng) := by
  unfold enterClosing
  rw [bind_readDb, bind_now, if_neg unclosed]
  rfl

theorem shut_shutting : Shut rel (shutting rel eng) := by
  intro contact found
  have closed := congrFun (congrArg Book.contact (@book_setClosing eng rel)) rel
  have shown : ((book eng).apply (.close rel)).contact rel =
      some contact := closed.symm.trans found
  obtain ⟨before, -, rfl⟩ := Option.map_eq_some_iff.mp shown
  rw [if_pos rfl]

theorem follows_closeContact (permits : Permits sys said) :
    Follows sys said (callLeave eng call) eng (final ((closeContact sys rel).run eng)) := by
  unfold closeContact
  rw [bind_readDb]
  by_cases already : (eng.db.closeState rel).isSome = true
  · rw [if_pos already]
    exact refl_of (Follows sys said _) eng
  · rw [if_neg already, run_bind_ok (run_enterClosing already)]
    have closing : Follows sys said (callLeave eng call) eng (shutting rel eng) := by
      have set : Follows sys said (callLeave eng call) eng
          { eng with db := eng.db.setClosing rel } :=
        .of_write (.close (.inr trivial))
      refine trans_of (Follows sys said _) set (.of_write
        (@Write.note _ _ _ { eng with db := eng.db.setClosing rel }
          ((eng.db.setClosing rel).setCloseStartedAt rel eng.clock)
          rfl rfl))
    refine trans_of (Follows sys said _) closing ?_
    have shut := @shut_shutting rel eng
    generalize Ledger.shutting rel eng = shutting at shut
    have deletes : Evolves sys said shutting (final
        ((sendEnvelope sys rel .deleteAll none).run shutting)) :=
      evolves_send permits .deleteAll none nofun shutting
    refine final_bind (fun error middle ran => ?_) fun cleared middle ran => ?_
    · rw [ran] at deletes
      exact deletes.follows
    rw [ran] at deletes
    refine trans_of (Follows sys said _) deletes.follows ?_
    have closes : Evolves sys said middle (final
        ((sendEnvelope sys rel .contactClose none).run middle)) :=
      evolves_send permits .contactClose none nofun middle
    refine final_bind (fun error last ran => ?_) fun close last ran => ?_
    · rw [ran] at closes
      exact closes.follows
    rw [ran] at closes
    refine trans_of (Follows sys said _) closes.follows ?_
    have raised : Follows sys said (callLeave eng call) last { last with
        db := last.db.raiseHistoryCut rel (max cleared.appSeq close.appSeq) } :=
      .of_write (.raise (.inr (.inl (closes.shut (deletes.shut shut)))))
    refine trans_of (Follows sys said _) raised ?_
    exact follows_eraseHistory _ _

def ordinary : Call → Bool
  | .sendDeleteAll _ | .closeContact _ | .drainOutbox | .sweep => false
  | _ => true

theorem evolves_call (permits : Permits sys said) (plain : ordinary call = true) :
    Keeps (Evolves sys said) (call.run sys) := by
  have dropped : ∀ {α : Type} {action : Action α},
      Keeps (Evolves sys said) action → Keeps (Evolves sys said)
        (do let _ ← action : Action Unit) := fun keeps =>
    keeps_returns keeps
  cases call with
  | acceptRequest rel => exact evolves_acceptRequest permits
  | onRelationshipActive rel => exact evolves_onRelationshipActive permits
  | sendText rel body replyTo => exact dropped (evolves_sendText permits body replyTo)
  | sendEdit rel target body => exact dropped (evolves_sendEdit permits target body)
  | sendDelete rel target => exact dropped (evolves_sendDelete permits target)
  | sendTyping rel typing => exact evolves_sendTyping permits typing
  | sendPresence rel inApp doNotDisturb | sendRead rel target
  | sendProfileReq rel | sendPrefs rel pref
  | fetchPack rel packId packPk | fetchThumbs rel packId packPk =>
    exact dropped (evolves_send permits _ _ nofun)
  | sendProfile rel => exact evolves_sendProfile permits
  | proposeRules rel ttlSec screenshot attachDownload => exact evolves_proposeRules permits _ _ _
  | acceptRules rel => exact dropped (evolves_acceptRules permits)
  | declineRules rel => exact evolves_declineRules
  | setCapability rel capId on => exact dropped (evolves_setCapability permits capId on)
  | sendAttachment rel spec => exact dropped (evolves_sendAttachment permits spec)
  | attachmentViewed headId => exact evolves_attachmentViewed headId
  | sendSticker rel packId itemId => exact dropped (evolves_sendSticker permits packId itemId)
  | failOutbound rel => exact keeps_writeDb fun _ => .of_write (.fail trivial)
  | tick seconds => exact keeps_modify fun _ => .of_write (.tick _ _)
  | sendDeleteAll | closeContact | drainOutbox | sweep => cases plain

theorem follows_call (permits : Permits sys said) (call : Call) :
    Follows sys said (callLeave eng call) eng (final ((call.run sys).run eng)) := by
  cases plain : ordinary call with
  | true => exact (evolves_call permits plain eng).follows
  | false =>
    cases call with
    | sendDeleteAll rel => exact related_bind (follows_sendDeleteAll permits) fun _ => keeps_pure _
    | closeContact rel => exact follows_closeContact permits
    | drainOutbox => exact keeps_returns follows_drainOutbox eng
    | sweep => exact keeps_returns (follows_sweep rfl rfl) eng
    | _ => cases plain

end SChatCore.Ledger

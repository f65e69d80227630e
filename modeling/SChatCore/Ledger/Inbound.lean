import SChatCore.Ledger.Follow

namespace SChatCore.Ledger

open Data Data.Action Wire Store Engine

/-! One inbound envelope, from its plaintext on. -/

/-- What an envelope brings about: its number is heard, a resync request
acknowledges what it covers, a `DELETE_ALL` cuts at its own number. -/
def envelopeLeave (rel : RelId) (env : Envelope) : Leave where
  hears other seq := other = rel ∧ seq = env.appSeq
  acks other seq := other = rel ∧ ∃ request, env.payload = .resyncReq request ∧
      isMissing request.maxContiguousSeq request.receivedSeqBitmap seq = false
  cuts _ other seq := other = rel ∧ env.payload = .deleteAll ∧ seq = env.appSeq
  prunes := False
  burns := env.payload = .contactClose

theorem follows_acknowledged {ids : List MsgId}
    (allowed : ∀ msgId ∈ ids, ∃ row, eng.db.message msgId = some row ∧
      leave.acks row.relId row.appSeq) :
    Follows sys said leave eng { eng with db := acknowledged ids eng.db } := by
  induction ids generalizing eng with
  | nil =>
    rw [acknowledged_nil]
    exact refl_of (Follows sys said leave) eng
  | cons msgId rest ih =>
    obtain ⟨row, found, acked⟩ := allowed msgId List.mem_cons_self
    have first : Follows sys said leave eng { eng with
        db := eng.db.setDelivery msgId .acknowledged } :=
      .of_write (.settle (.inr (.inr
        ⟨rfl, entryOf row, congrArg (Option.map entryOf) found, acked⟩)))
    rw [← acknowledged_cons]
    refine trans_of (Follows sys said leave) first
      (@ih { eng with
        db := eng.db.setDelivery msgId .acknowledged } ?_)
    intro other mem
    obtain ⟨later, looked, covered⟩ := allowed other (.tail _ mem)
    simp only [Db.message_setDelivery]
    split
    · rename_i same
      subst same
      exact ⟨_, congrArg (Option.map _) looked, covered⟩
    · exact ⟨later, looked, covered⟩

theorem follows_applyResyncReq (permits : Permits sys said) {request : ResyncReq}
    (allowed : ∀ seq, isMissing request.maxContiguousSeq
      request.receivedSeqBitmap seq = false → leave.acks rel seq) :
    Keeps (Follows sys said leave) (applyResyncReq sys rel request) := by
  intro eng
  have noted : Follows sys said leave eng { eng with
      db := eng.db.notePeerCaps rel request.caps } :=
    .of_write (.contact (fun _ => rfl) (fun _ => rfl) fun _ => id)
  by_cases broken : sessionState eng.db rel = .broken
  · obtain ⟨error, ran⟩ := @run_applyResyncReq_of_broken rel request eng sys broken
    rw [ran]
    exact noted
  · rw [run_applyResyncReq sys broken]
    have settled : Follows sys said leave { eng with
        db := eng.db.notePeerCaps rel request.caps } (requested rel request eng) := by
      refine @follows_acknowledged _ _ _ { eng with
        db := eng.db.notePeerCaps rel request.caps } _ ?_
      intro msgId mem
      obtain ⟨row, covered, rfl⟩ := List.mem_map.mp mem
      obtain ⟨listed, shown⟩ := List.mem_filter.mp covered
      obtain ⟨stored, own, -⟩ := mem_unsettled.mp listed
      refine ⟨row, Table.lookup_key stored, own ▸ allowed _ ?_⟩
      simpa [covers] using shown
    refine trans_of (Follows sys said leave) noted (trans_of (Follows sys said leave) settled ?_)
    refine related_bind (evolves_requeueAll live_retransmits).follows fun _ => ?_
    exact follows_of_evolves (evolves_replyPolicy permits)

theorem follows_dispatch (permits : Permits sys said) (env : Envelope) :
    Keeps (Follows sys said (envelopeLeave rel env)) (dispatch sys rel env) := by
  unfold dispatch
  split
  · exact follows_of_evolves (keeps_returns
      ((evolves_respects permits).obliges.fetchMissingEmoji _))
  · exact follows_of_evolves (evolves_applyEdit _ _)
  · exact follows_of_evolves (evolves_applyDelete _)
  · rename_i deletes
    refine keeps_bind (keeps_writeDb fun _ =>
      .of_write (.raise (.inr ⟨rfl, deletes, rfl⟩))) fun _ => ?_
    exact keeps_returns (follows_eraseHistory _)
  · rename_i closes
    exact keeps_returns (follows_burnRelationship closes)
  · rename_i request requests
    refine keeps_bind (keeps_modifyGet fun _ =>
      .of_aside (.of_db rfl rfl rfl le_rfl rfl)) fun granted => ?_
    refine keeps_returns (keeps_onlyIf _ (follows_applyResyncReq permits ?_))
    exact fun seq shown => ⟨rfl, request, requests, shown⟩
  · exact follows_of_evolves (evolves_onAttachHead _ _)
  · exact follows_of_evolves (evolves_onAttachChunk _)
  · exact follows_of_evolves (evolves_onProfile _)
  · exact keeps_pure _
  · exact keeps_onPref (fun _ => follows_of_evolves (evolves_contact fun _ => ⟨rfl, rfl, rfl⟩)) _
  · exact follows_of_evolves ((evolves_respects permits).onSticker _ _)
  · exact follows_of_evolves ((evolves_respects permits).onStickerCtrl _)
  · exact keeps_onPresence (fun _ _ _ _ => .of_aside (.of_db rfl rfl rfl le_rfl rfl)) _
  · exact keeps_onTyping (fun _ _ _ _ => .of_aside (.of_db rfl rfl rfl le_rfl rfl)) _
  · exact follows_of_evolves (evolves_onRead _)
  · exact follows_of_evolves (evolves_applyChatPolicy permits _ _)

theorem evolves_noteImpliedCap (t : EnvelopeType) :
    Keeps (Evolves sys said) (writeDb (noteImpliedCap rel t)) := by
  refine keeps_writeDb fun eng => ?_
  unfold noteImpliedCap
  split
  · exact refl_of (Evolves sys said) eng
  · split
    · exact .of_write (.contact (fun _ => rfl) (fun _ => rfl) fun _ => id)
    · exact refl_of (Evolves sys said) eng

theorem follows_passGates (env : Envelope) : Keeps (Follows sys said (envelopeLeave rel env))
      (passGates rel env) := by
  refine keeps_read fun db => ?_
  split
  · exact keeps_pure _
  · refine keeps_bind (follows_of_evolves (evolves_noteImpliedCap _)) fun _ => ?_
    refine keeps_read fun db => ?_
    split
    · exact keeps_pure _
    · refine keeps_clock fun now => ?_
      refine keeps_bind (keeps_ofExcept _ _) fun sentAt => ?_
      split
      · exact keeps_pure _
      · exact keeps_returns (keeps_writeDb fun _ =>
          .of_write (.hear (.inr ⟨rfl, rfl⟩)))

theorem follows_receive (permits : Permits sys said) (env : Envelope)
    (role : Role) (admitted : Admitted) :
    Keeps (Follows sys said (envelopeLeave rel env)) (receive sys rel env role admitted) := by
  refine keeps_bind (follows_of_evolves (evolves_activate permits role)) fun _ eng => ?_
  rw [bind_readDb, bind_now]
  split
  · exact follows_of_evolves (evolves_closeGap permits _) eng
  · rename_i kept
    refine related_bind (evolves_ledgerInbound (by simpa using kept)).follows fun _ => ?_
    refine keeps_bind (follows_dispatch permits env) fun events => ?_
    split
    · exact keeps_pure _
    · exact keeps_returns (follows_of_evolves (evolves_closeGap permits _))

/-- A plaintext that does not decode brings nothing about. -/
def silence : Leave where
  hears _ _ := False
  acks _ _ := False
  cuts _ _ _ := False
  prunes := False
  burns := False

def plaintextLeave (nfc : String → String) (rel : RelId) (plain : Bytes) : Leave :=
  match Envelope.decode nfc plain with
  | .ok env => envelopeLeave rel env
  | .error _ => silence

theorem follows_handlePlaintext (permits : Permits sys said) (plain : Bytes) :
    Keeps (Follows sys said (plaintextLeave sys.nfc rel plain))
      (handlePlaintext sys rel plain) := by
  intro eng
  unfold handlePlaintext plaintextLeave wire
  cases Envelope.decode sys.nfc plain with
  | error error => exact refl_of (Follows sys said silence) eng
  | ok env =>
    show Follows sys said (envelopeLeave rel env) eng _
    rw [run_bind_ok (run_ofExcept_ok _ env eng)]
    refine keeps_bind (keeps_loadRelationship rel) (fun row => ?_) eng
    refine keeps_bind (follows_passGates env) fun admitted => ?_
    split
    · exact keeps_pure _
    · exact follows_receive permits env _ _

def frameLeave (sys : Platform) (rel : RelId) (eng : Engine) (frame : Bytes) : Leave :=
  match sys.messageDecrypt eng.ratchet rel frame with
  | .ok plain => plaintextLeave sys.nfc rel plain
  | .error _ => silence

theorem evolves_decrypt {eng : Engine} (frame : Bytes) : Evolves sys said eng
      (final ((decrypt sys rel frame eng.clock).run eng)) := by
  unfold decrypt
  rw [bind_readDb]
  split
  · exact refl_of (Evolves sys said) eng
  · split
    · exact refl_of (Evolves sys said) eng
    · rw [EStateM.run_bind]
      cases parseFrame frame with
      | error error => exact refl_of (Evolves sys said) eng
      | ok parsed =>
        obtain ⟨kind, rest⟩ := parsed
        rw [run_ofExcept_ok]
        simp only
        split
        · exact refl_of (Evolves sys said) eng
        · have called : Evolves sys said eng { eng with
              ratchet := eng.ratchet ++ [.decrypt rel frame] } :=
            .of_write (.opened _ _ _)
          refine trans_of (Evolves sys said) called ?_
          unfold decryptFresh
          rw [run_bind_ok (show (callRatchet (.decrypt rel frame)).run
            eng = .ok eng.ratchet _ from rfl)]
          split
          · exact writes_failSession _ _
          · exact trans_of (Evolves sys said) (.of_write (@Write.contact _ _ _ _ rel
                (fun row => { row with introPending := false }) (fun _ => rfl)
                (fun _ => rfl) (fun _ => rfl) fun _ => id))
              (.of_write (.frame _ rel frame))

theorem failSession_ne_ok : (failSession rel error : Action α).run eng ≠ .ok value next := by
  unfold failSession
  split
  · exact nofun
  · exact nofun

theorem decrypt_eq_ok {now : Nat} (ran : (decrypt sys rel frame now).run eng = .ok plain opened) :
    sys.messageDecrypt eng.ratchet rel frame = .ok plain ∧ sessionState eng.db rel ≠ .broken ∧
      ¬ isKnownInboundFrame sys eng.db rel frame = true ∧
      opened = { eng with
        db := noteInboundFrame sys rel frame now (eng.db.clearIntroPending rel)
        ratchet := eng.ratchet ++ [.decrypt rel frame] } := by
  obtain ⟨db, middle, read, gates⟩ := run_bind_eq_ok ran
  cases read
  split at gates
  · cases gates
  · rename_i unbroken
    split at gates
    · cases gates
    · rename_i unknown
      obtain ⟨parsed, middle, parses, opening⟩ := run_bind_eq_ok gates
      obtain rfl := (run_ofExcept_eq_ok parses).2
      obtain ⟨kind, rest⟩ := parsed
      simp only at opening
      split at opening
      · cases opening
      · obtain ⟨history, middle, called, rest⟩ := run_bind_eq_ok opening
        cases called
        split at rest
        · exact absurd rest failSession_ne_ok
        · rename_i decrypted
          cases rest
          exact ⟨decrypted, unbroken, unknown, rfl⟩

theorem follows_receiveFrame (permits : Permits sys said) (frame : Bytes) :
    Follows sys said (frameLeave sys rel eng frame) eng
      (final ((receiveFrame sys rel frame).run eng)) := by
  have opens : Evolves sys said eng (final ((decrypt sys rel frame eng.clock).run eng)) :=
    evolves_decrypt frame
  unfold receiveFrame
  rw [bind_now]
  refine final_bind (fun error middle ran => ?_) fun plain middle ran => ?_
  · rw [ran] at opens
    exact opens.follows
  · rw [ran] at opens
    refine trans_of (Follows sys said _) opens.follows ?_
    unfold frameLeave
    rw [(decrypt_eq_ok ran).1]
    exact follows_handlePlaintext permits plain middle

end SChatCore.Ledger

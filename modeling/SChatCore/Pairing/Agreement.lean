import SChatCore.Pairing.Refused

namespace SChatCore.Pairing

open Data Data.Action Wire Store Engine Transport

/-! Both ends of a ceremony derive the same codes and hold each other's
cards. -/

section

variable (sys : PairingPlatform)

theorem ordered_comm (first second : Bytes) : ordered first second = ordered second first := by
  unfold ordered
  by_cases up : first ≤ second
  · by_cases down : second ≤ first
    · rw [List.le_antisymm up down]
    · rw [if_pos up, if_neg down]
  · have down := (List.le_total first second).resolve_left up
    rw [if_neg up, if_pos down]

theorem sas_comm (distinct : first ≠ second) (firstNonce secondNonce : Array32) :
    sas sys first firstNonce second secondNonce =
      sas sys second secondNonce first firstNonce := by
  unfold sas
  by_cases up : first ≤ second
  · have down : ¬ second ≤ first := fun down => distinct (List.le_antisymm up down)
    rw [if_pos up, if_neg down]
  · have down := (List.le_total first second).resolve_left up
    rw [if_neg up, if_pos down]

end

theorem decodeClientAuthKey_base32Lower (key : Array32) :
    decodeClientAuthKey (base32Lower key.toList) = .ok key := by
  have text : (base32Lower key.toList).toList =
      Base32.encodeLower key.toList := String.toList_ofList
  have decoded : base32Decode (base32Lower key.toList).toList = .ok key.toList := by
    rw [text, base32Decode, Base32.decode_encodeLower]
  unfold decodeClientAuthKey
  simp only [decoded]
  rw [dif_pos key.toList_length]
  rfl

def Persona.localRow {parse : Bytes → Except String Bytes}
    (persona : Persona parse) (owner : String) :
    NamespacedRow StoreTable.locals.Id StoreTable.locals.Record where
  owner := owner
  id := ()
  record := {
    registrationId := persona.registrationId
    identityKeyPair := persona.keyPair }

structure Party (sys : PairingPlatform) where
  persona : Persona sys.identityKeyPair
  secret : Array32
  nonce : Array32
  pubkey : Array32
  expiresAt : UInt64
  signature : List.Vector UInt8 64

def Party.pairing (party : Party sys) (rel : RelId) (serviceId : String)
    (payload : PairingPayload) : PairingRow where
  relId := rel
  serviceId := serviceId
  onion := hostnameFromPubkey sys.sha3 party.pubkey ++ ".onion"
  peerIdentityKey := payload.identityKey
  peerClientAuthPublic := base32Lower payload.clientAuthPublic.toList
  ourClientAuthPrivate := (clientAuthKeys sys party.secret).privateB32
  ourNonce := party.nonce
  peerNonce := payload.nonce

structure Card where
  onion : String
  nonce : Array32
  identityKey : Bytes
  clientAuthPublic : String
  deriving DecidableEq

namespace Party

variable (party : Party sys)

def identityKey : Bytes := party.persona.identityKey.toList

def onion : String := hostnameFromPubkey sys.sha3 party.pubkey ++ ".onion"

def keys : ClientAuthKeys := clientAuthKeys sys party.secret

def payload : PairingPayload :=
  { fromBundle party.persona (onionRaw sys.sha3 party.pubkey)
      (sys.x25519 party.secret) party.nonce party.expiresAt with
    signature := party.signature.toList }

def card : Card where
  onion := party.onion
  nonce := party.nonce
  identityKey := party.identityKey
  clientAuthPublic := party.keys.publicB32

theorem card_eq : party.card = {
    onion := party.onion
    nonce := party.payload.nonce
    identityKey := party.payload.identityKey
    clientAuthPublic := base32Lower party.payload.clientAuthPublic.toList } :=
  rfl

theorem wellSized_payload : party.payload.WellSized := by
  have sized : ∀ {size limit : Nat} (key : List.Vector UInt8 size),
      0 < size → size ≤ limit → key.toList ≠ [] ∧ key.toList.length ≤ limit := by
    intro size limit key positive small
    rw [← List.length_pos_iff_ne_nil, key.toList_length]
    exact ⟨positive, small⟩
  refine ⟨sized _ (by decide) (by decide), ?_, sized _ (by decide) (by decide),
    sized _ (by decide) (by decide), sized _ (by decide) (by decide),
    sized _ (by decide) (by decide), sized _ (by decide) (by decide)⟩
  intro key shown
  cases shown
  exact sized _ (by decide) (by decide)

theorem decode_payload : PairingPayload.decode party.payload.encode = .ok party.payload :=
  PairingPayload.decode_encode party.wellSized_payload

theorem ourIdentityKey_eq (stored : (stores .locals).lookup (owner, ()) =
      some (party.persona.localRow owner)) :
    ourIdentityKey sys owner stores = .ok party.identityKey := by
  have parses : sys.identityKeyPair
      (party.persona.localRow owner).record.identityKeyPair = .ok party.identityKey :=
    party.persona.parses
  unfold ourIdentityKey
  simp only [stored, parses]

end Party

theorem hostServiceWithAuth_eq_ok (ran : (hostServiceWithAuth sys serviceId clientAuth).run desk =
      .ok onion after) :
    ∃ pubkey, onion = hostnameFromPubkey sys.sha3 pubkey ++ ".onion" := by
  unfold hostServiceWithAuth at ran
  obtain ⟨calls, middle, called, ran⟩ := run_bind_eq_ok ran
  cases called
  split at ran
  · cases ran
  · rename_i pubkey _
    cases ran
    exact ⟨pubkey, rfl⟩

theorem installClientAuth_eq_ok (ran : (installClientAuth sys peerOnion privateB32).run desk =
      .ok () after) : ∃ transport, after = { desk with transport } := by
  unfold installClientAuth at ran
  obtain ⟨calls, middle, called, ran⟩ := run_bind_eq_ok ran
  cases called
  obtain ⟨-, rfl⟩ := run_ofExcept_eq_ok ran
  exact ⟨_, rfl⟩

theorem signedPayload_eq_ok {persona : Persona sys.identityKeyPair} (ran : (signedPayload persona
      (hostnameFromPubkey sys.sha3 pubkey ++ ".onion")
      (clientAuthKeys sys secret) nonce expiresAt).run desk = .ok payload after) :
    (∃ signature, payload = Party.payload ⟨persona, secret, nonce, pubkey, expiresAt, signature⟩) ∧
      ∃ draws, after = { desk with eng := { desk.eng with draws } } := by
  have shown : (clientAuthKeys sys secret).publicBytes =
      .ok (sys.x25519 secret) := decodeClientAuthKey_base32Lower _
  unfold signedPayload at ran
  rw [rawFromHostname_onion, run_bind_ok (run_ofExcept_ok _ _ _), shown,
    run_bind_ok (run_ofExcept_ok _ _ _)] at ran
  unfold sign at ran
  rw [run_bind_ok (run_drawIndex _)] at ran
  split at ran
  · cases ran
  · rename_i signature _
    cases ran
    exact ⟨⟨signature, rfl⟩, _, rfl⟩

theorem storePersona_eq_ok (ran : (storePersona owner persona).run desk = .ok () after) :
    (after.stores .locals).lookup (owner, ()) = some (persona.localRow owner) := by
  unfold storePersona at ran
  rw [run_bind_ok (run_get desk)] at ran
  split at ran
  · cases ran
  · rename_i stores created
    cases ran
    unfold createLocal at created
    obtain ⟨rows, inserted, rfl⟩ := Option.map_eq_some_iff.mp created
    simp only [saveKyberPreKey]
    rw [put_of_ne (by decide), put_of_ne (by decide), put_of_ne (by decide), put_self]
    exact (Table.lookup_insert inserted _).trans (if_pos rfl)

theorem viaEngine_eq_ok (ran : (viaEngine action).run desk = .ok value after) :
    ∃ eng, action.run desk.eng = .ok value eng ∧ after = { desk with eng } := by
  unfold viaEngine at ran
  obtain ⟨result, middle, engaged, ran⟩ := run_bind_eq_ok ran
  obtain ⟨rfl, rfl⟩ := run_ofExcept_eq_ok ran
  rw [run_onEngine] at engaged
  split at engaged
  · rename_i found eng step
    cases engaged
    exact ⟨eng, step, rfl⟩
  · cases engaged

theorem relationship_of_insert (ran : (Engine.insertRelationship row).run eng = .ok () last) :
    last.db.relationship row.relId = some row := by
  unfold Engine.insertRelationship at ran
  obtain ⟨db, middle, read, ran⟩ := run_bind_eq_ok ran
  cases read
  split at ran
  · cases ran
  · split at ran
    · rename_i relationships inserted
      cases ran
      exact (Table.lookup_insert inserted _).trans (if_pos rfl)
    · cases ran

theorem insertRelationship_eq_ok (ran : (insertRelationship row pairing).run desk = .ok () after) :
    after.eng.db.relationship row.relId = some row ∧
      after.pairings.lookup pairing.relId = some pairing ∧
      after.stores = desk.stores := by
  unfold insertRelationship at ran
  obtain ⟨_, middle, inserted, ran⟩ := run_bind_eq_ok ran
  cases ran
  obtain ⟨eng, step, rfl⟩ := viaEngine_eq_ok inserted
  exact ⟨relationship_of_insert step, (Table.lookup_upsert _ _ _).trans (if_pos rfl), rfl⟩

section

variable {sys : PairingPlatform}

theorem offer_eq_ok (ran : (offer sys).run desk = .ok offered after) :
    ∃ party : Party sys, offered.qrBytes = party.payload.encode ∧
      after.pending = some {
        serviceId := offered.serviceId
        onion := party.onion
        qrBytes := party.payload.encode
        clientAuthPrivate := party.keys.privateB32
        expiresAt := offered.expiresAt.toNat } ∧
      (after.stores .locals).lookup (pendingNamespace, ()) =
        some (party.persona.localRow pendingNamespace) := by
  unfold offer at ran
  obtain ⟨_, swept, -, ran⟩ := run_bind_eq_ok ran
  obtain ⟨_, cleared, -, ran⟩ := run_bind_eq_ok ran
  obtain ⟨persona, drawn, -, ran⟩ := run_bind_eq_ok ran
  obtain ⟨clientAuth, keyed, secret, ran⟩ := run_bind_eq_ok ran
  obtain ⟨nonce, fresh, -, ran⟩ := run_bind_eq_ok ran
  obtain ⟨onion, hosted, hosting, ran⟩ := run_bind_eq_ok ran
  obtain ⟨now, timed, -, ran⟩ := run_bind_eq_ok ran
  obtain ⟨payload, signed, signing, ran⟩ := run_bind_eq_ok ran
  obtain ⟨_, stored, storing, ran⟩ := run_bind_eq_ok ran
  cases secret
  obtain ⟨pubkey, rfl⟩ := hostServiceWithAuth_eq_ok hosting
  obtain ⟨⟨signature, rfl⟩, -⟩ := signedPayload_eq_ok signing
  have own := storePersona_eq_ok storing
  cases ran
  exact ⟨⟨persona, _, nonce, pubkey, _, signature⟩, rfl, rfl, own⟩

theorem processBundle_eq_ok (ran : (processBundle sys rel payload).run desk = .ok () after) :
    after.stores .locals = desk.stores .locals := by
  unfold processBundle at ran
  rw [run_bind_ok (run_get desk)] at ran
  split at ran
  · cases ran
  · cases ran
    exact locals_applyWrites rel _

theorem acceptInner_eq_ok (ran : (acceptInner payload persona rel serviceId peerOnion
      (clientAuthKeys sys secret) nonce).run desk = .ok accepted after) :
    ∃ party : Party sys, ∃ now, party.persona = persona ∧ party.nonce = nonce ∧
      accepted = {
        relId := rel, peerOnion
        onion := party.onion
        sas := sas sys party.identityKey party.nonce payload.identityKey payload.nonce } ∧
      after.eng.db.relationship rel = some (newRelationship rel
        .accepter .active peerOnion party.payload.encode true now) ∧
      after.pairings.lookup rel = some (party.pairing rel serviceId payload) ∧
      (after.stores .locals).lookup (rel, ()) = some (persona.localRow rel) := by
  unfold acceptInner at ran
  obtain ⟨onion, hosted, hosting, ran⟩ := run_bind_eq_ok ran
  obtain ⟨_, installed, -, ran⟩ := run_bind_eq_ok ran
  obtain ⟨_, stored, storing, ran⟩ := run_bind_eq_ok ran
  obtain ⟨_, bundled, bundling, ran⟩ := run_bind_eq_ok ran
  obtain ⟨_, opened, opening, ran⟩ := run_bind_eq_ok ran
  obtain ⟨now, timed, timing, ran⟩ := run_bind_eq_ok ran
  obtain ⟨ours, signed, signing, ran⟩ := run_bind_eq_ok ran
  obtain ⟨_, filed, filing, returned⟩ := run_bind_eq_ok ran
  obtain ⟨pubkey, rfl⟩ := hostServiceWithAuth_eq_ok hosting
  obtain ⟨⟨signature, rfl⟩, draws, rfl⟩ := signedPayload_eq_ok signing
  obtain ⟨-, rfl⟩ := run_ofExcept_eq_ok bundling
  cases timing
  obtain ⟨row, pairing, stores⟩ := insertRelationship_eq_ok filing
  have own := storePersona_eq_ok storing
  rw [← processBundle_eq_ok opening] at own
  cases returned
  refine ⟨⟨persona, secret, nonce, pubkey, _, signature⟩, _, rfl, rfl, rfl, row, pairing, ?_⟩
  rw [stores]
  exact own

theorem onionHostname_eq_ok {host : String} (named : onionHostname sys raw = .ok host) :
    hostnameFromRaw sys.sha3 raw = .ok host := by
  unfold onionHostname at named
  split at named
  · cases named
  · rename_i found same
    cases named
    exact same

theorem accept_eq_ok (shown : PairingPayload.decode qrBytes = .ok payload)
    (ran : (accept sys qrBytes).run desk = .ok accepted after) :
    ∃ party : Party sys, ∃ host now, hostnameFromRaw sys.sha3 payload.onion = .ok host ∧
      accepted.relId = relIdFor sys party.identityKey payload.identityKey ∧
      accepted.sas = sas sys party.identityKey party.nonce payload.identityKey payload.nonce ∧
      after.eng.db.relationship accepted.relId = some (newRelationship
        accepted.relId .accepter .active (host ++ ".onion")
        party.payload.encode true now) ∧
      after.pairings.lookup accepted.relId = some (party.pairing accepted.relId
        (serviceIdFor party.identityKey) payload) ∧
      (after.stores .locals).lookup (accepted.relId, ()) =
        some (party.persona.localRow accepted.relId) := by
  unfold accept at ran
  rw [run_bind_ok (run_clock desk), shown, run_bind_ok (run_ofExcept_ok _ _ _)] at ran
  obtain ⟨_, verified, -, ran⟩ := run_bind_eq_ok ran
  rw [run_bind_ok (run_get _)] at ran
  split at ran
  · cases ran
  obtain ⟨persona, drawn, -, ran⟩ := run_bind_eq_ok ran
  rw [run_bind_ok (run_get _)] at ran
  simp only at ran
  split at ran
  · cases ran
  obtain ⟨clientAuth, keyed, keying, ran⟩ := run_bind_eq_ok ran
  obtain ⟨nonce, fresh, -, ran⟩ := run_bind_eq_ok ran
  obtain ⟨host, named, naming, ran⟩ := run_bind_eq_ok ran
  obtain ⟨outcome, tried, trying, ended⟩ := run_bind_eq_ok ran
  cases keying
  obtain ⟨found, rfl⟩ := run_ofExcept_eq_ok naming
  rw [run_attempt] at trying
  split at trying
  · rename_i value last inner
    cases trying
    cases ended
    obtain ⟨party, now, rfl, rfl, rfl, row, pairing, own⟩ := acceptInner_eq_ok inner
    exact ⟨party, host, now, onionHostname_eq_ok found, rfl, rfl, row, pairing, own⟩
  · cases trying
    cases ended

def Filed (sys : PairingPlatform) (pending : PendingRow) (intro : Intro)
    (rel : RelId) (code : String) (desk : Desk) : Prop :=
  ∃ host ourOffer now, hostnameFromRaw sys.sha3 intro.payload.onion = .ok host ∧
    PairingPayload.decode pending.qrBytes = .ok ourOffer ∧
    rel = intro.relId ∧
    code = sas sys intro.ours ourOffer.nonce intro.theirs intro.payload.nonce ∧
    desk.eng.db.relationship rel = some (newRelationship rel .inviter
      .request (host ++ ".onion") pending.qrBytes false now) ∧
    desk.pairings.lookup rel = some {
      relId := rel
      serviceId := pending.serviceId
      onion := pending.onion
      peerIdentityKey := intro.theirs
      peerClientAuthPublic := base32Lower intro.payload.clientAuthPublic.toList
      ourClientAuthPrivate := pending.clientAuthPrivate
      ourNonce := ourOffer.nonce
      peerNonce := intro.payload.nonce }

theorem fileRequest_eq_ok (ran : (fileRequest sys pending intro plain).run desk =
      .ok (.requestReceived rel code opened) after) :
    Filed sys pending intro rel code after ∧ after.stores = desk.stores := by
  have same : after.stores = desk.stores := by
    have kept := @sameStores_fileRequest sys pending intro plain desk
    rw [ran] at kept
    exact kept
  unfold fileRequest at ran
  obtain ⟨host, named, naming, ran⟩ := run_bind_eq_ok ran
  obtain ⟨ourOffer, decoded, decoding, ran⟩ := run_bind_eq_ok ran
  obtain ⟨now, timed, -, ran⟩ := run_bind_eq_ok ran
  obtain ⟨_, filed, filing, ran⟩ := run_bind_eq_ok ran
  obtain ⟨_, spent, spending, ran⟩ := run_bind_eq_ok ran
  obtain ⟨_, keyed, keying, returned⟩ := run_bind_eq_ok ran
  obtain ⟨naming, -⟩ := run_ofExcept_eq_ok naming
  obtain ⟨decoding, -⟩ := run_ofExcept_eq_ok decoding
  obtain ⟨row, pairing, -⟩ := insertRelationship_eq_ok filing
  cases spending
  obtain ⟨transport, rfl⟩ := installClientAuth_eq_ok keying
  cases returned
  exact ⟨⟨host, ourOffer, now, onionHostname_eq_ok naming, decoding, rfl, rfl, row, pairing⟩, same⟩

theorem movePersona_eq_ok (ran : (movePersona rel).run desk = .ok () after)
    (mine : (desk.stores .locals).lookup (pendingNamespace, ()) = some row) :
    (after.stores .locals).lookup (rel, ()) = some { row with owner := rel } := by
  rw [run_movePersona] at ran
  split at ran
  · rename_i went
    cases ran
    obtain ⟨stored, keyed⟩ := Table.lookup_eq_some.mp mine
    have owned : row.owner = pendingNamespace := congrArg Prod.fst keyed
    have renamed : moved pendingNamespace rel row = { row with owner := rel } := by
      rw [moved, if_pos owned]
    refine Table.lookup_eq_some.mpr ⟨?_, rfl⟩
    rw [Table.mem_def, rows_migrateNamespace went, ← renamed]
    exact List.mem_map_of_mem stored
  · cases ran

theorem openIntro_eq_ok (mine : (desk.stores .locals).lookup (pendingNamespace, ()) = some row)
    (ran : (openIntro sys pending intro).run desk = .ok (.requestReceived rel code plain) after) :
    Filed sys pending intro rel code after ∧ (after.stores .locals).lookup (intro.relId, ()) =
        some { row with owner := intro.relId } := by
  unfold openIntro at ran
  obtain ⟨_, there, moving, ran⟩ := run_bind_eq_ok ran
  obtain ⟨answer, opened, opening, ended⟩ := run_bind_eq_ok ran
  have own := movePersona_eq_ok moving mine
  cases answer with
  | error error => cases ended
  | ok text =>
    obtain ⟨filed, stores⟩ := fileRequest_eq_ok ended
    refine ⟨filed, ?_⟩
    rw [run_decryptPreKeyMessage] at opening
    split at opening
    · cases opening
    · cases opening
      rw [stores]
      exact (congrArg (Table.lookup · _) (locals_applyWrites _ _)).trans own

theorem ingestFrame_eq_ok (outstanding : desk.pending = some pending)
    (mine : (desk.stores .locals).lookup (pendingNamespace, ()) = some row)
    (ran : (ingestFrame sys pending.serviceId intro record).run desk =
      .ok (.requestReceived rel code plain) after) :
    ∃ screened, Passes sys desk pending intro record screened ∧
      Filed sys pending screened rel code after ∧
      (after.stores .locals).lookup (screened.relId, ()) =
        some { row with owner := screened.relId } := by
  rw [run_ingestFrame_of_pending outstanding] at ran
  unfold ingestIntro at ran
  rcases @screenIntro_cases sys desk pending intro record with
    ⟨screened, passes⟩ | ⟨middle, -, -, turned | ⟨error, turned⟩⟩
  · rw [run_bind_ok (run_screenIntro_of_passes passes)] at ran
    have noted : ((desk.noteIntro pending.serviceId).stores .locals).lookup
      (pendingNamespace, ()) = some row := mine
    exact ⟨screened, passes, openIntro_eq_ok noted ran⟩
  · rw [run_bind_ok turned] at ran
    cases ran
  · rw [run_bind_error turned] at ran
    cases ran

end

def ownCard (sys : PairingPlatform) (desk : Desk) (rel : RelId) :
    Except Failure Card := do
  match loadRelationship desk rel with
  | none => .error .notFound
  | some (_, pairing) =>
    let identityKey ← ourIdentityKey sys rel desk.stores
    match decodeClientAuthKey pairing.ourClientAuthPrivate with
    | .error error => .error (.transport error)
    | .ok secret => .ok {
        onion := pairing.onion
        nonce := pairing.ourNonce
        identityKey
        clientAuthPublic := (clientAuthKeys sys secret).publicB32 }

def peerCard (desk : Desk) (rel : RelId) : Except Failure Card :=
  match loadRelationship desk rel with
  | none => .error .notFound
  | some (row, pairing) => .ok {
      onion := row.peerOnion
      nonce := pairing.peerNonce
      identityKey := pairing.peerIdentityKey
      clientAuthPublic := pairing.peerClientAuthPublic }

section

variable {desk : Desk}

theorem loadRelationship_eq_some (known : desk.eng.db.relationship rel = some row)
    (paired : desk.pairings.lookup rel = some pairing) :
    loadRelationship desk rel = some (row, pairing) := by
  simp [loadRelationship, known, paired]

variable (party : Party sys)
  (own : (desk.stores .locals).lookup (rel, ()) = some (party.persona.localRow rel))
include own

theorem ownCard_eq_ok (known : desk.eng.db.relationship rel = some row)
    (paired : desk.pairings.lookup rel = some pairing) (onion : pairing.onion = party.onion)
    (nonce : pairing.ourNonce = party.nonce)
    (secret : pairing.ourClientAuthPrivate = party.keys.privateB32) :
    ownCard sys desk rel = .ok party.card := by
  have decoded : decodeClientAuthKey pairing.ourClientAuthPrivate = .ok party.secret := by
    rw [secret]
    exact decodeClientAuthKey_base32Lower party.secret
  unfold ownCard
  simp only [loadRelationship_eq_some known paired,
    party.ourIdentityKey_eq own, decoded, onion, nonce]
  rfl

theorem sasFor_eq_ok (known : desk.eng.db.relationship rel = some row)
    (paired : desk.pairings.lookup rel = some pairing) :
    sasFor sys desk rel = .ok (sas sys party.identityKey
      pairing.ourNonce pairing.peerIdentityKey pairing.peerNonce) := by
  have keyed : row.relId = rel := (Table.lookup_eq_some.mp known).2
  unfold sasFor
  simp only [loadRelationship_eq_some known paired, keyed, party.ourIdentityKey_eq own]

end

section

variable {alice bob : PairingPlatform}

theorem host_eq (sha3 : bob.sha3 = alice.sha3) (party : Party alice) {host : String}
    (named : hostnameFromRaw bob.sha3 party.payload.onion = .ok host) :
    host ++ ".onion" = party.onion := by
  have shown : party.payload.onion = onionRaw alice.sha3 party.pubkey := rfl
  rw [shown, sha3, hostnameFromRaw_onionRaw] at named
  cases named
  rfl

/-- Alice offers, Bob accepts what he scanned, and his intro reaches her while
the offer stands: both file the same relationship, show the same digits and
hold each other's cards. -/
theorem pairing_agrees (sha256 : bob.sha256 = alice.sha256) (sha3 : bob.sha3 = alice.sha3)
    {start offering waiting inviter scanner accepter : Desk} {offered : Offer}
    {accepted : Accepted} {row : RelationshipRow} {record plain : Bytes}
    {rel : RelId} {code : String} (offers : (offer alice).run start = .ok offered offering)
    (accepts : (accept bob offered.qrBytes).run scanner = .ok accepted accepter)
    (known : accepter.eng.db.relationship accepted.relId = some row)
    (stands : waiting.pending = offering.pending)
    (persona : (waiting.stores .locals).lookup (pendingNamespace, ()) =
      (offering.stores .locals).lookup (pendingNamespace, ()))
    (ingests : (ingestFrame alice offered.serviceId (some row.ourQrBytes)
      record).run waiting = .ok (.requestReceived rel code plain) inviter) :
    rel = accepted.relId ∧ code = accepted.sas ∧ sasFor alice inviter rel = .ok code ∧
      sasFor bob accepter rel = .ok code ∧
      (∃ card, ownCard alice inviter rel = .ok card ∧ peerCard accepter rel = .ok card) ∧
      ∃ card, ownCard bob accepter rel = .ok card ∧ peerCard inviter rel = .ok card := by
  obtain ⟨her, qrBytes, pending, herLocal⟩ := offer_eq_ok offers
  rw [qrBytes] at accepts
  obtain ⟨him, host, joinedAt, hosted, hisRel, hisCode, hisRow, hisPairing,
    hisLocal⟩ := accept_eq_ok her.decode_payload accepts
  rw [hisRow, Option.some.injEq] at known
  subst known
  rw [pending] at stands
  rw [herLocal] at persona
  obtain ⟨screened, passes, ⟨home, ourOffer, filedAt, named, decoded, rfl, rfl,
    herRow, herPairing⟩, moved⟩ := ingestFrame_eq_ok stands persona ingests
  have intro : screened.payload = him.payload := by
    obtain ⟨bytes, same, shown⟩ := passes.decoded
    cases same
    exact Except.ok.inj (shown.symm.trans him.decode_payload)
  have ours : screened.ours = her.identityKey :=
    Except.ok.inj (passes.own.symm.trans (her.ourIdentityKey_eq persona))
  have theirs : screened.theirs = him.identityKey := by
    rw [passes.bound, intro]
    rfl
  have offer : ourOffer = her.payload := Except.ok.inj (decoded.symm.trans her.decode_payload)
  have distinct : her.identityKey ≠ him.identityKey := by
    rw [← ours, ← theirs]
    exact passes.foreign.symm
  have same : screened.relId = accepted.relId := by
    rw [passes.named, ours, theirs, hisRel]
    unfold relIdFor relationshipId
    rw [sha256, ordered_comm]
    rfl
  have codes : sas alice screened.ours ourOffer.nonce screened.theirs
      screened.payload.nonce = accepted.sas := by
    rw [hisCode, ours, theirs, offer, intro, sas_comm alice distinct]
    unfold sas
    rw [sha256]
    rfl
  rw [← same] at hisRow hisPairing hisLocal
  refine ⟨same, codes, ?_, ?_, ⟨her.card, ?_, ?_⟩, him.card, ?_, ?_⟩
  · rw [sasFor_eq_ok her moved herRow herPairing, ours]
  · rw [codes, hisCode, sasFor_eq_ok him hisLocal hisRow hisPairing]
    rfl
  · exact ownCard_eq_ok her moved herRow herPairing rfl (by rw [offer]; rfl) rfl
  · rw [peerCard, loadRelationship_eq_some hisRow hisPairing, her.card_eq,
      ← host_eq sha3 her hosted]
    rfl
  · exact ownCard_eq_ok him hisLocal hisRow hisPairing rfl rfl rfl
  · rw [intro] at named
    rw [peerCard, loadRelationship_eq_some herRow herPairing, him.card_eq,
      ← host_eq sha3.symm him named, theirs, intro]
    rfl

end

/-! Two desks on the same platform, at different points of their generators. -/

def unpaired (draws : Nat) : Desk := Desk.new { Engine.new .empty 1 with draws }

def offering : Desk := final ((offer .loopback).run (unpaired 0))

def shownRow : PendingRow := offering.pending.getD hosted

def accepting : Desk := final ((accept .loopback shownRow.qrBytes).run (unpaired 100))

def introQr : Bytes := accepting.eng.db.relationships.rows.head?.elim [] RelationshipRow.ourQrBytes

def firstRecord : Bytes := [2, 0, 34] ++ tagPreKey :: toBeBytes 33 100 ++ List.replicate 219 0

theorem rehearsal : failure ((offer .loopback).run (unpaired 0)) = none ∧
    failure ((accept .loopback shownRow.qrBytes).run (unpaired 100)) = none ∧
    accepting.eng.db.relationships.rows.length = 1 ∧
    received ((ingestFrame .loopback shownRow.serviceId (some introQr)
      firstRecord).run offering) = true := by
  decide +kernel

theorem eq_of_received (holds : received result = true) : ∃ rel code plain,
      result = .ok (.requestReceived rel code plain) (final result) := by
  unfold received at holds
  split at holds
  · exact ⟨_, _, _, rfl⟩
  · cases holds

theorem loopback_pairing_agrees : ∃ offered accepted rel code plain inviter,
      (offer .loopback).run (unpaired 0) = .ok offered offering ∧
      (accept .loopback offered.qrBytes).run (unpaired 100) = .ok accepted accepting ∧
      (ingestFrame .loopback offered.serviceId (some introQr) firstRecord).run offering =
          .ok (.requestReceived rel code plain) inviter ∧
      rel = accepted.relId ∧ sasFor .loopback inviter rel = .ok code ∧
      sasFor .loopback accepting rel = .ok code := by
  obtain ⟨made, joined, single, got⟩ := rehearsal
  obtain ⟨offered, offers⟩ := eq_ok_of_failure made
  obtain ⟨accepted, accepts⟩ := eq_ok_of_failure joined
  obtain ⟨rel, code, plain, ingests⟩ := eq_of_received got
  rw [← offering] at offers
  rw [← accepting] at accepts
  obtain ⟨party, qrBytes, pending, -⟩ := offer_eq_ok offers
  have shown : shownRow.qrBytes = offered.qrBytes ∧ shownRow.serviceId = offered.serviceId := by
    rw [shownRow, pending, Option.getD_some]
    exact ⟨qrBytes.symm, rfl⟩
  rw [shown.1] at accepts
  rw [shown.2] at ingests
  have row : ∃ row, accepting.eng.db.relationship accepted.relId =
      some row ∧ row.ourQrBytes = introQr := by
    obtain ⟨him, host, now, -, -, -, known, -⟩ :=
      accept_eq_ok (qrBytes ▸ party.decode_payload) accepts
    refine ⟨_, known, ?_⟩
    obtain ⟨only, rows⟩ := List.length_eq_one_iff.mp single
    have stored := (Table.lookup_eq_some.mp known).1
    rw [Table.mem_def, rows, List.mem_singleton] at stored
    rw [introQr, rows, ← stored]
    rfl
  obtain ⟨row, known, intro⟩ := row
  rw [← intro] at ingests ⊢
  have agrees := pairing_agrees rfl rfl offers accepts known rfl rfl ingests
  exact ⟨offered, accepted, rel, code, plain, _, offers, accepts, ingests,
    agrees.1, agrees.2.2.1, agrees.2.2.2.1⟩

end SChatCore.Pairing

import SChatCore.Pairing.Ceremony

namespace SChatCore.Pairing

open Data Data.Action Wire Store Engine Transport

/-! An intro that is refused. The offer survives it if the checks turn it
away; past the checks the persona of the offer is moved, and most failures
after that leave it where it went. -/

/-- The invitation and the rows of its persona are as they were. -/
def Intact (before after : Desk) : Prop :=
  after.pending = before.pending ∧ ∀ table, ∀ row : NamespacedRow table.Id table.Record,
      row.owner = pendingNamespace → (row ∈ after.stores table ↔ row ∈ before.stores table)

theorem Intact.of_same (pending : after.pending = before.pending)
    (stores : after.stores = before.stores) : Intact before after :=
  ⟨pending, fun table row _ => by rw [stores]⟩

theorem relIdFor_ne_pendingNamespace (sys : PairingPlatform) (first second : Bytes) :
    pendingNamespace ≠ relIdFor sys first second := by
  intro same
  have lengths := congrArg (fun text : String => text.toList.length) same
  unfold relIdFor hexEncode at lengths
  simp only [String.toList_ofList, List.length_flatMap, List.length_cons,
    List.length_nil, List.map_const', List.sum_replicate, List.Vector.toList_length] at lengths
  revert lengths
  decide

structure Passes (sys : PairingPlatform) (desk : Desk)
    (pending : PendingRow) (intro : Option Bytes) (record : Bytes) (screened : Intro) : Prop where
  decoded : ∃ bytes, intro = some bytes ∧ PairingPayload.decode bytes = .ok screened.payload
  verified : verify sys screened.payload desk.eng.clock false = .ok ()
  framed : parseRecord record = .ok screened.frame
  sender : parsePreKeyFrame sys screened.frame = .ok screened.theirs
  bound : screened.theirs = screened.payload.identityKey
  own : ourIdentityKey sys pendingNamespace desk.stores = .ok screened.ours
  foreign : screened.theirs ≠ screened.ours
  paced : introMinIntervalSecs ≤ desk.eng.clock - desk.introAt pending.serviceId
  named : screened.relId = relIdFor sys screened.ours screened.theirs
  fits : requestBucketFull desk.eng.db screened.relId = false

def Desk.noteIntro (desk : Desk) (serviceId : String) : Desk :=
  { desk with
    introAt := Function.update desk.introAt serviceId desk.eng.clock }

theorem run_introThrottled (desk : Desk) (serviceId : String) :
    (introThrottled serviceId).run desk =
      if desk.eng.clock - desk.introAt serviceId < introMinIntervalSecs then
        .ok true desk
      else .ok false (desk.noteIntro serviceId) := by
  unfold introThrottled
  rw [run_bind_ok (run_get desk)]
  simp only
  split
  · rfl
  · rfl

theorem run_screenIntro_of_passes (passes : Passes sys desk pending intro record screened) :
    (screenIntro sys pending intro record).run desk =
      .ok (some screened) (desk.noteIntro pending.serviceId) := by
  obtain ⟨⟨bytes, rfl, decoded⟩, verified, framed, sender, bound, own, foreign,
    paced, named, fits⟩ := passes
  unfold screenIntro
  rw [run_bind_ok (run_clock desk)]
  simp only [decoded, verified, framed, sender]
  rw [if_neg (by simpa using bound), run_bind_ok (run_get desk), own,
    run_bind_ok (run_ofExcept_ok _ _ _), if_neg foreign]
  have throttled := run_introThrottled desk pending.serviceId
  rw [if_neg (Nat.not_lt.mpr paced)] at throttled
  rw [run_bind_ok throttled, ← named]
  simp only [fits]
  rfl

/-- An intro that is turned away changes neither the invitation nor the
stores. -/
theorem screenIntro_cases : (∃ screened, Passes sys desk pending intro record screened) ∨
      ∃ after : Desk, after.pending = desk.pending ∧ after.stores = desk.stores ∧
        ((screenIntro sys pending intro record).run desk = .ok none after ∨
          ∃ error, (screenIntro sys pending intro record).run desk = .error error after) := by
  unfold screenIntro
  rw [run_bind_ok (run_clock desk)]
  simp only
  split
  · exact .inr ⟨desk, rfl, rfl, .inl rfl⟩
  rename_i bytes
  split
  · exact .inr ⟨desk, rfl, rfl, .inl rfl⟩
  rename_i payload decoded
  split
  · exact .inr ⟨desk, rfl, rfl, .inl rfl⟩
  rename_i verified
  split
  · exact .inr ⟨desk, rfl, rfl, .inl rfl⟩
  rename_i frame framed
  split
  · exact .inr ⟨desk, rfl, rfl, .inl rfl⟩
  rename_i theirs sender
  split
  · exact .inr ⟨desk, rfl, rfl, .inl rfl⟩
  rename_i bound
  rw [run_bind_ok (run_get desk)]
  cases own : ourIdentityKey sys pendingNamespace desk.stores with
  | error error => exact .inr ⟨desk, rfl, rfl, .inr ⟨error, rfl⟩⟩
  | ok ours =>
    rw [run_bind_ok (run_ofExcept_ok _ _ _)]
    split
    · exact .inr ⟨desk, rfl, rfl, .inl rfl⟩
    rename_i foreign
    have throttled := run_introThrottled desk pending.serviceId
    split at throttled
    · rw [run_bind_ok throttled]
      exact .inr ⟨desk, rfl, rfl, .inl rfl⟩
    rename_i paced
    rw [run_bind_ok throttled]
    cases fits : requestBucketFull desk.eng.db (relIdFor sys ours theirs) with
    | true => exact .inr ⟨desk.noteIntro pending.serviceId, rfl, rfl, .inl rfl⟩
    | false =>
      refine .inl ⟨⟨payload, frame, ours, theirs, relIdFor sys ours theirs⟩, ?_⟩
      exact ⟨⟨bytes, rfl, decoded⟩, verified, framed, sender,
        Decidable.not_not.mp bound, own, foreign, Nat.not_lt.mp paced, rfl,
        fits⟩

section

variable {sys : PairingPlatform} {desk : Desk} {pending : PendingRow}
  {intro : Intro}

/-- Filing a request does not touch the stores of the ratchet. -/
def SameStores (before after : Desk) : Prop := after.stores = before.stores

instance : IsPreorder Desk SameStores where
  refl _ := rfl
  trans _ _ _ first second := Eq.trans second first

theorem sameStores_viaEngine (action : Action α) : Keeps SameStores (viaEngine action) := by
  refine keeps_bind (fun desk => ?_) fun _ => keeps_ofExcept _ _
  rw [run_onEngine]
  split
  · rfl
  · rfl

theorem sameStores_fileRequest (plain : Bytes) :
    Keeps SameStores (fileRequest sys pending intro plain) := by
  refine keeps_bind (keeps_ofExcept _ _) fun host => ?_
  refine keeps_bind (keeps_ofExcept _ _) fun ourOffer => ?_
  refine keeps_bind (keeps_map_get _) fun now => ?_
  refine keeps_bind (keeps_bind (sameStores_viaEngine _) fun _ =>
    keeps_modify fun _ => rfl) fun _ => ?_
  refine keeps_bind (keeps_modify fun _ => rfl) fun _ => ?_
  refine keeps_bind (keeps_bind (keeps_modifyGet fun _ => rfl) fun _ =>
    keeps_ofExcept _ _) fun _ => ?_
  exact keeps_pure _

/-- A failed intro past the checks leaves the offer usable if its first move
is refused, or if its only move is taken back whole. -/
def Survives (sys : PairingPlatform) (desk : Desk) (intro : Intro) :
    Prop :=
  (∃ row ∈ desk.stores .locals, row.owner = intro.relId) ∨
    (∀ table, ∀ row ∈ desk.stores table, row.owner ≠ intro.relId) ∧
      ∃ error, sys.messageDecryptPreKey
        (desk.stores.rowsOf pendingNamespace) intro.relId intro.frame = .error error

/-- The intro becomes a request: the persona can be moved, the frame opens with
the rows of both namespaces, there is room for the relationship, and the
transport takes the key. -/
structure Lands (sys : PairingPlatform) (desk : Desk)
    (pending : PendingRow) (intro : Intro) : Prop where
  room : ∀ table, Room pendingNamespace intro.relId (desk.stores table)
  opens : ∃ answer, sys.messageDecryptPreKey (desk.stores.rowsOfEither
    pendingNamespace intro.relId) intro.relId intro.frame = .ok answer
  offer : ∃ ourOffer, PairingPayload.decode pending.qrBytes = .ok ourOffer
  capped : desk.eng.db.relationships.rows.length < maxRelationships
  unknown : desk.eng.db.relationship intro.relId = none
  reaches : ∃ host, onionHostname sys intro.payload.onion = .ok host ∧
    sys.installClientAuth (desk.transport ++ [.installClientAuth
      (host ++ ".onion") pending.clientAuthPrivate]) = .ok ()

theorem run_viaEngine_of_error {action : Action α} (ran : action.run desk.eng = .error error eng) :
    (viaEngine action).run desk = .error (.eng error) { desk with eng } :=
  (run_bind_ok (by rw [run_onEngine, ran])).trans rfl

theorem run_viaEngine_of_ok {action : Action α} (ran : action.run desk.eng = .ok value eng) :
    (viaEngine action).run desk = .ok value { desk with eng } :=
  (run_bind_ok (by rw [run_onEngine, ran])).trans rfl

theorem run_installClientAuth (desk : Desk) (peerOnion privateB32 : String) :
    (installClientAuth sys peerOnion privateB32).run desk =
      let transport := desk.transport ++ [.installClientAuth peerOnion privateB32]
      (Action.ofExcept Failure.transport
        (sys.installClientAuth transport)).run { desk with transport } :=
  rfl

theorem insertRelationship_cases (row : RelationshipRow) (pairing : PairingRow) (desk : Desk) :
    (desk.eng.db.relationships.rows.length < maxRelationships ∧
      desk.eng.db.relationship row.relId = none) ∧
      (∃ eng pairings, (insertRelationship row pairing).run desk =
        .ok () { desk with eng, pairings }) ∨
    ¬ (desk.eng.db.relationships.rows.length < maxRelationships ∧
      desk.eng.db.relationship row.relId = none) ∧
      ∃ error after, (insertRelationship row pairing).run desk =
        .error error after := by
  unfold insertRelationship
  by_cases full : desk.eng.db.relationships.rows.length ≥ maxRelationships
  · have ran : (Engine.insertRelationship row).run desk.eng = .error
        (.pairing (.capReached s!"relationships ({maxRelationships})"))
        desk.eng := by
      unfold Engine.insertRelationship
      rw [bind_readDb, if_pos full]
      rfl
    exact .inr ⟨fun fits => absurd fits.1 (Nat.not_lt.mpr full), _, _,
      run_bind_error (run_viaEngine_of_error ran)⟩
  cases inserted : desk.eng.db.relationships.insert row with
  | none =>
    have ran : (Engine.insertRelationship row).run desk.eng = .error
        (.pairing (.store (.constraint "relationships"))) desk.eng := by
      unfold Engine.insertRelationship
      rw [bind_readDb, if_neg full, inserted]
      rfl
    exact .inr ⟨fun fits => Option.not_isSome_iff_eq_none.mpr fits.2
      (Table.insert_eq_none.mp inserted), _, _,
      run_bind_error (run_viaEngine_of_error ran)⟩
  | some relationships =>
    have ran : (Engine.insertRelationship row).run desk.eng = .ok () {
        desk.eng with db := { desk.eng.db with relationships } } := by
      unfold Engine.insertRelationship
      rw [bind_readDb, if_neg full, inserted]
      rfl
    exact .inl ⟨⟨Nat.not_le.mp full, (Table.insert_eq_some.mp inserted).1⟩, _,
      _, (run_bind_ok (run_viaEngine_of_ok ran)).trans rfl⟩

theorem received_fileRequest {plain : Bytes} :
    received ((fileRequest sys pending intro plain).run desk) = true ↔
      (∃ ourOffer, PairingPayload.decode pending.qrBytes = .ok ourOffer) ∧
      (desk.eng.db.relationships.rows.length < maxRelationships ∧
        desk.eng.db.relationship intro.relId = none) ∧
      ∃ host, onionHostname sys intro.payload.onion = .ok host ∧
        sys.installClientAuth (desk.transport ++ [.installClientAuth
          (host ++ ".onion") pending.clientAuthPrivate]) = .ok () := by
  unfold fileRequest
  cases named : onionHostname sys intro.payload.onion with
  | error error => exact iff_of_false Bool.false_ne_true (by simp)
  | ok host =>
    rw [run_bind_ok (run_ofExcept_ok _ _ _)]
    cases PairingPayload.decode pending.qrBytes with
    | error error => exact iff_of_false Bool.false_ne_true (by simp)
    | ok ourOffer =>
      rw [run_bind_ok (run_ofExcept_ok _ _ _), run_bind_ok (run_clock desk)]
      obtain ⟨fits, eng, pairings, ran⟩ | ⟨refused, error, after, ran⟩ :=
        insertRelationship_cases (newRelationship intro.relId .inviter .request
          (host ++ ".onion") pending.qrBytes false desk.eng.clock) {
            relId := intro.relId
            serviceId := pending.serviceId
            onion := pending.onion
            peerIdentityKey := intro.theirs
            peerClientAuthPublic := base32Lower intro.payload.clientAuthPublic.toList
            ourClientAuthPrivate := pending.clientAuthPrivate
            ourNonce := ourOffer.nonce
            peerNonce := intro.payload.nonce } desk
      · rw [run_bind_ok ran]
        simp only [EStateM.run_bind, EStateM.run_modify, run_installClientAuth]
        cases keyed : sys.installClientAuth (desk.transport ++
            [.installClientAuth (host ++ ".onion") pending.clientAuthPrivate]) with
        | error error => exact iff_of_false Bool.false_ne_true (by simp [keyed])
        | ok _ => exact iff_of_true rfl ⟨⟨ourOffer, rfl⟩, fits, host, rfl, keyed⟩
      · rw [run_bind_error ran]
        exact iff_of_false Bool.false_ne_true fun fits => refused fits.2.1

theorem exists_local (own : ourIdentityKey sys owner stores = .ok key) :
    ∃ row ∈ stores .locals, row.owner = owner := by
  unfold ourIdentityKey at own
  split at own
  · cases own
  · rename_i row found
    obtain ⟨stored, keyed⟩ := Table.lookup_eq_some.mp found
    exact ⟨row, stored, congrArg Prod.fst keyed⟩

theorem run_movePersona (desk : Desk) (rel : RelId) : (movePersona rel).run desk =
      if (migrateNamespace pendingNamespace rel desk.stores).1 then
        .ok () { desk with
          stores := (migrateNamespace pendingNamespace rel desk.stores).2 }
      else .error (.store (.corrupt "migrate_namespace")) { desk with
        stores := (migrateNamespace pendingNamespace rel desk.stores).2 } := by
  unfold movePersona
  rw [run_bind_ok (run_get desk)]
  simp only
  split
  · rfl
  · rfl

def Desk.askRatchet (desk : Desk) (rel : RelId) (frame : Bytes) : Desk :=
  { desk with eng := { desk.eng with
      ratchet := desk.eng.ratchet ++ [.decrypt rel frame] } }

theorem run_decryptPreKeyMessage (desk : Desk) (rel : RelId) (frame : Bytes) :
    (decryptPreKeyMessage sys rel frame).run desk =
      match sys.messageDecryptPreKey (desk.stores.rowsOf rel) rel frame with
      | .error error => .ok (.error error) (desk.askRatchet rel frame)
      | .ok (plain, writes) => .ok (.ok plain)
          { desk.askRatchet rel frame with
            stores := applyWrites rel writes desk.stores } := by
  have asked : (viaEngine (callRatchet (.decrypt rel frame))).run desk =
      .ok desk.eng.ratchet (desk.askRatchet rel frame) := rfl
  unfold decryptPreKeyMessage
  rw [run_bind_ok asked, run_bind_ok (run_get _)]
  have same : (desk.askRatchet rel frame).stores = desk.stores := rfl
  rw [same]
  cases sys.messageDecryptPreKey (desk.stores.rowsOf rel) rel frame with
  | error error => rfl
  | ok answer => rfl

theorem received_openIntro (distinct : pendingNamespace ≠ intro.relId) :
    received ((openIntro sys pending intro).run desk) = true ↔
      Lands sys desk pending intro := by
  have move := run_movePersona desk intro.relId
  have goes := @migrateNamespace_iff desk.stores _ intro.relId distinct
  unfold openIntro
  cases went : (migrateNamespace pendingNamespace intro.relId desk.stores).1 with
  | false =>
    rw [went] at move goes
    rw [run_bind_error move]
    exact iff_of_false Bool.false_ne_true fun lands =>
      Bool.false_ne_true (goes.mpr lands.room)
  | true =>
    rw [went, if_pos rfl] at move
    rw [run_bind_ok move]
    have opened := @run_decryptPreKeyMessage sys { desk with stores :=
      (migrateNamespace pendingNamespace intro.relId desk.stores).2 }
      intro.relId intro.frame
    rw [rowsOf_migrateNamespace went] at opened
    cases answer : sys.messageDecryptPreKey (desk.stores.rowsOfEither
        pendingNamespace intro.relId) intro.relId intro.frame with
    | error error =>
      rw [answer] at opened
      rw [run_bind_ok opened]
      refine iff_of_false Bool.false_ne_true fun lands => ?_
      obtain ⟨_, opens⟩ := lands.opens
      cases answer.symm.trans opens
    | ok opening =>
      rw [answer] at opened
      rw [run_bind_ok opened]
      refine received_fileRequest.trans ⟨?_, ?_⟩
      · rintro ⟨offer, ⟨capped, unknown⟩, reaches⟩
        exact ⟨goes.mp went, ⟨_, answer⟩, offer, capped, unknown, reaches⟩
      · intro lands
        exact ⟨lands.offer, ⟨lands.capped, lands.unknown⟩, lands.reaches⟩

theorem openIntro_of_taken {row other : NamespacedRow Unit LocalRecord}
    (distinct : pendingNamespace ≠ intro.relId)
    (stored : row ∈ desk.stores .locals) (mine : row.owner = pendingNamespace)
    (stored' : other ∈ desk.stores .locals) (taken : other.owner = intro.relId) :
    Intact desk (final ((openIntro sys pending intro).run desk)) := by
  have stops := migrateNamespace_of_taken (reassign_eq_none distinct stored mine stored' taken rfl)
  have move := run_movePersona desk intro.relId
  rw [stops] at move
  unfold openIntro
  rw [run_bind_error move]
  exact .of_same rfl rfl

/-- Taking the move back brings along whatever else bears the name. -/
theorem intact_restored (distinct : pendingNamespace ≠ intro.relId)
    (went : (migrateNamespace pendingNamespace intro.relId desk.stores).1 =
      true) (pending : after.pending = desk.pending)
    (stores : after.stores = deleteNamespace intro.relId
      (migrateNamespace intro.relId pendingNamespace (migrateNamespace
        pendingNamespace intro.relId desk.stores).2).2) :
    Intact desk after ↔ ∀ table, ∀ row ∈ desk.stores table, row.owner ≠ intro.relId := by
  have rows : ∀ table, (after.stores table).rows =
      (desk.stores table).rows.map (moved intro.relId pendingNamespace) := by
    intro table
    rw [stores]
    exact rows_restored distinct went table
  constructor
  · intro intact table row stored taken
    have back : moved intro.relId pendingNamespace row ∈ after.stores table := by
      rw [Table.mem_def, rows]
      exact List.mem_map_of_mem stored
    have mine : (moved intro.relId pendingNamespace row).owner =
        pendingNamespace := by
      rw [moved, if_pos taken]
    have before := (intact.2 table _ mine).mp back
    -- Moved over, both rows would have had the same key.
    have unique := (migrateNamespace pendingNamespace intro.relId desk.stores).2 table |>.nodup
    rw [rows_migrateNamespace went, List.map_map,
      List.nodup_map_iff_inj_on (List.Nodup.of_map _ (desk.stores table).nodup)]
      at unique
    have collide : (NamespacedRow.key ∘ moved pendingNamespace intro.relId)
          (moved intro.relId pendingNamespace row) =
        (NamespacedRow.key ∘ moved pendingNamespace intro.relId) row := by
      simp only [Function.comp_apply, moved, taken, if_pos, NamespacedRow.key, if_neg distinct.symm]
    have same := congrArg NamespacedRow.owner (unique _ before _ stored collide)
    rw [mine, taken] at same
    exact distinct same
  · intro vacant
    refine ⟨pending, fun table row _ => ?_⟩
    rw [Table.mem_def, Table.mem_def, rows, List.map_congr_left (g := id), List.map_id]
    intro other stored
    rw [moved, if_neg (vacant table other stored), id]

section

/- No persona is in the way. -/
variable (distinct : pendingNamespace ≠ intro.relId)
  (free : ∀ row ∈ desk.stores .locals, row.owner ≠ intro.relId)
include distinct free

theorem locals_movePersona : ∀ row ∈ (migrateNamespace pendingNamespace intro.relId
      desk.stores).2 .locals, row.owner ≠ pendingNamespace := by
  have room : Room pendingNamespace intro.relId (desk.stores .locals) :=
    fun _ _ _ other stored taken => absurd taken (free other stored)
  obtain ⟨rows, migrated⟩ := exists_reassign room
  rw [locals_migrateNamespace migrated]
  intro row stored
  obtain ⟨old, -, rfl⟩ := (mem_reassign migrated).mp stored
  exact owner_moved_ne distinct old

theorem intact_openIntro {row : NamespacedRow Unit LocalRecord} (stored : row ∈ desk.stores .locals)
    (mine : row.owner = pendingNamespace) :
    Intact desk (final ((openIntro sys pending intro).run desk)) ↔
      (∀ table, ∀ row ∈ desk.stores table, row.owner ≠ intro.relId) ∧
        ∃ error, sys.messageDecryptPreKey
          (desk.stores.rowsOf pendingNamespace) intro.relId intro.frame =
            .error error := by
  have gone := locals_movePersona distinct free
  have move := run_movePersona desk intro.relId
  unfold openIntro
  cases went : (migrateNamespace pendingNamespace intro.relId desk.stores).1 with
  | false =>
    rw [went] at move
    rw [run_bind_error move]
    refine iff_of_false (fun intact => gone _ ((intact.2 .locals _ mine).mpr stored) mine) ?_
    rintro ⟨vacant, -⟩
    have goes : (migrateNamespace pendingNamespace intro.relId desk.stores).1 = true :=
      (migrateNamespace_iff distinct).mpr fun table _ _ _ other stored' taken =>
        absurd taken (vacant table other stored')
    rw [went] at goes
    cases goes
  | true =>
    rw [went, if_pos rfl] at move
    rw [run_bind_ok move]
    have shown := fun vacant => (rowsOf_migrateNamespace went).trans (rowsOfEither_of_vacant vacant)
    generalize there : { desk with stores := (migrateNamespace
      pendingNamespace intro.relId desk.stores).2 } = middle
    have stores : middle.stores = (migrateNamespace pendingNamespace
      intro.relId desk.stores).2 := by rw [← there]
    have kept : middle.pending = desk.pending := by rw [← there]
    have opened := @run_decryptPreKeyMessage sys middle intro.relId intro.frame
    rw [stores] at opened
    cases answer : sys.messageDecryptPreKey ((migrateNamespace pendingNamespace intro.relId
          desk.stores).2.rowsOf intro.relId) intro.relId intro.frame with
    | error error =>
      rw [answer] at opened
      rw [run_bind_ok opened]
      refine (intact_restored distinct went ?_ ?_).trans ?_
      · exact kept
      · rw [← stores]
        rfl
      refine (and_iff_left_of_imp fun vacant => ⟨error, ?_⟩).symm
      rw [← shown vacant]
      exact answer
    | ok opening =>
      obtain ⟨plain, writes⟩ := opening
      rw [answer] at opened
      rw [run_bind_ok opened]
      refine iff_of_false (fun intact => ?_) ?_
      · have kept := (intact.2 .locals _ mine).mpr stored
        have same := @sameStores_fileRequest sys pending intro plain
        unfold Keeps SameStores at same
        rw [same] at kept
        have kept : row ∈ applyWrites intro.relId writes _ .locals := kept
        rw [locals_applyWrites] at kept
        exact gone _ kept mine
      · rintro ⟨vacant, error, failed⟩
        rw [← shown vacant, answer] at failed
        cases failed

end

end

section

variable {sys : PairingPlatform} {desk : Desk}

theorem run_ingestFrame_of_pending (outstanding : desk.pending = some pending) :
    (ingestFrame sys pending.serviceId intro record).run desk =
      (ingestIntro sys pending intro record).run desk := by
  unfold ingestFrame
  rw [run_bind_ok (run_get desk)]
  simp only [outstanding, if_pos]

theorem intact_of_no_pass (turned : ¬ ∃ screened, Passes sys desk pending intro record screened) :
    Intact desk (final ((ingestIntro sys pending intro record).run desk)) := by
  obtain ⟨after, same, stores, ran | ⟨error, ran⟩⟩ := screenIntro_cases.resolve_left turned
  · unfold ingestIntro
    rw [run_bind_ok ran]
    exact .of_same same stores
  · unfold ingestIntro
    rw [run_bind_error ran]
    exact .of_same same stores

theorem intact_of_passes (passes : Passes sys desk pending intro record screened) :
    Intact desk (final ((ingestIntro sys pending intro record).run desk)) ↔
      Survives sys desk screened := by
  obtain ⟨row, stored, mine⟩ := exists_local passes.own
  have distinct : pendingNamespace ≠ screened.relId :=
    passes.named ▸ relIdFor_ne_pendingNamespace sys _ _
  unfold ingestIntro Survives
  rw [run_bind_ok (run_screenIntro_of_passes passes)]
  by_cases taken : ∃ row ∈ desk.stores .locals, row.owner = screened.relId
  · obtain ⟨other, stored', taken⟩ := taken
    have stopped := @openIntro_of_taken sys
      (desk.noteIntro pending.serviceId) pending screened row other distinct
      stored mine stored' taken
    exact iff_of_true stopped (.inl ⟨other, stored', taken⟩)
  · rw [or_iff_right taken]
    push Not at taken
    exact @intact_openIntro sys (desk.noteIntro pending.serviceId) pending
      screened distinct taken row stored mine

theorem received_of_passes (passes : Passes sys desk pending intro record screened) :
    received ((ingestIntro sys pending intro record).run desk) = true ↔
      Lands sys desk pending screened := by
  unfold ingestIntro
  rw [run_bind_ok (run_screenIntro_of_passes passes)]
  refine (received_openIntro ?_).trans
    ⟨fun lands => { lands with }, fun lands => { lands with }⟩
  exact passes.named ▸ relIdFor_ne_pendingNamespace sys _ _

/-- An intro that is refused leaves the offer usable, exactly if it fails a
check, or the failure after the checks is one that is survived, or it is not
refused at all; past the checks only one that lands is not. -/
theorem offer_intact_iff (outstanding : desk.pending = some pending)
    (intro : Option Bytes) (record : Bytes) :
    let ingested := (ingestFrame sys pending.serviceId intro record).run desk
    ((received ingested = false → Intact desk (final ingested)) ↔
      ∀ screened, Passes sys desk pending intro record screened →
        Survives sys desk screened ∨ Lands sys desk pending screened) ∧
    ∀ screened, Passes sys desk pending intro record screened →
      (received ingested = true ↔ Lands sys desk pending screened) := by
  intro ingested
  have ran : ingested = (ingestIntro sys pending intro record).run desk :=
    run_ingestFrame_of_pending outstanding
  rw [ran]
  refine ⟨⟨?_, ?_⟩, fun _ => received_of_passes⟩
  · intro intact screened passes
    rw [← intact_of_passes passes, ← received_of_passes passes]
    rw [← Bool.not_eq_true, ← or_iff_not_imp_left] at intact
    exact intact.symm
  · intro survives refused
    by_cases passed : ∃ screened, Passes sys desk pending intro record screened
    · obtain ⟨screened, passes⟩ := passed
      have decided := survives screened passes
      rw [← intact_of_passes passes, ← received_of_passes passes, refused] at decided
      exact decided.resolve_right Bool.false_ne_true
    · exact intact_of_no_pass passed

end

theorem owner_of_mem_inviting (stored : row ∈ inviting.stores table) :
    row.owner = pendingNamespace := by
  by_cases isLocals : table = .locals
  · subst isLocals
    rcases List.mem_singleton.mp stored with rfl
    rfl
  · have empty : inviting.stores table = .empty := put_of_ne isLocals _
    rw [empty] at stored
    exact absurd stored (Table.not_mem_empty row)

def deaf : PairingPlatform := { PairingPlatform.loopback with
  messageDecryptPreKey := fun _ _ _ => .error (.fatal "bad mac") }

def keyless : PairingPlatform := { PairingPlatform.loopback with
  installClientAuth := fun _ => .error (.keyStore "client auth") }

theorem unreadable_intro_leaves_offer :
    received ((ingestFrame deaf "service" (some guest.encode) guestRecord).run inviting) = false ∧
    Intact inviting (final ((ingestFrame deaf "service" (some guest.encode)
      guestRecord).run inviting)) := by
  have refused : received ((ingestFrame deaf "service" (some guest.encode)
      guestRecord).run inviting) = false := by decide +kernel
  refine ⟨refused, ?_⟩
  refine (@offer_intact_iff deaf inviting hosted rfl (some guest.encode)
    guestRecord).1.mpr (fun screened passes => .inl (.inr ⟨?_, _, rfl⟩)) refused
  intro table row stored
  rw [owner_of_mem_inviting stored, passes.named]
  exact relIdFor_ne_pendingNamespace deaf _ _

/-- The persona has moved and the invitation is gone, but there is no
request. -/
theorem unreachable_peer_spends_offer : received ((ingestFrame keyless "service" (some guest.encode)
      guestRecord).run inviting) = false ∧
    ¬ Intact inviting (final ((ingestFrame keyless "service"
      (some guest.encode) guestRecord).run inviting)) := by
  refine ⟨by decide +kernel, fun intact => ?_⟩
  have kept : (final ((ingestFrame keyless "service" (some guest.encode)
    guestRecord).run inviting)).pending = some hosted := intact.1
  revert kept
  decide +kernel

end SChatCore.Pairing

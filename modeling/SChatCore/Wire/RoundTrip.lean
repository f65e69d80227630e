import SChatCore.Wire.Reencode

namespace SChatCore.Wire

open Reader Sticker Data.Stream

/-! What an encoder wrote, the decoder of the same type reads back, as far as
its own checks let it. -/

theorem seq_eq_ok {check : Except WireError Unit} : (check >>= fun _ => next) = .ok value ↔
      check = .ok () ∧ next = .ok value :=
  bind_eq_ok.trans ⟨fun ⟨_, both⟩ => both, fun both => ⟨(), both⟩⟩

private theorem version_current : ¬ (1 : UInt8) ≠ 1 := by decide

private theorem flag_le (flag : Bool) : ¬ (if flag then (1 : UInt8) else 0) > 1 := by
  cases flag <;> decide

private theorem flag_set (flag : Bool) :
    ((if flag then (1 : UInt8) else 0) = 1) = (flag = true) := by
  cases flag <;> simp

theorem Pref.decodePayload_of_encodePayload (encoded : pref.encodePayload = .ok bytes) :
    decodePayload bytes = .ok pref := by
  obtain ⟨checked, written⟩ := seq_eq_ok.mp encoded
  cases written
  obtain ⟨receiveMedia, listenSaver, hours⟩ := pref
  apply @Reader.decode_eq _ _ _ [] _
  simp only [reader, List.cons_append, List.nil_append, run_bind, run_u8,
    if_neg version_current, run_u32be, run_u32be_end, run_expectEnd, run_lift checked, run_pure]
  congr 2
  cases receiveMedia <;> cases listenSaver <;> simp <;> decide

theorem Presence.decodePayload_of_encodePayload (encoded : presence.encodePayload = .ok bytes) :
    decodePayload bytes = .ok presence := by
  cases encoded
  obtain ⟨inApp, doNotDisturb⟩ := presence
  cases inApp <;> cases doNotDisturb <;> rfl

theorem Typing.decodePayload_of_encodePayload (encoded : beat.encodePayload = .ok bytes) :
    decodePayload bytes = .ok beat := by
  cases encoded
  obtain ⟨typing⟩ := beat
  cases typing <;> rfl

theorem Profile.decodePayload_of_encodePayload (encoded : profile.encodePayload nfc = .ok bytes) :
    decodePayload nfc bytes = .ok profile := by
  obtain ⟨name, rest⟩ := seq_eq_ok.mp encoded
  have short : (asBytes profile.name).length ≤ maxNameBytes := by
    unfold checkName at name
    split at name
    · rename_i ok
      simp only [nameOk, Bool.and_eq_true, decide_eq_true_eq] at ok
      exact ok.1.2
    · cases name
  split at rest
  · cases rest
  · rename_i bounded
    obtain ⟨magic, written⟩ := seq_eq_ok.mp rest
    cases written
    apply @Reader.decode_eq _ _ _ [] _
    simp only [reader, List.cons_append, List.nil_append, run_bind, run_u8,
      if_neg version_current, run_lp short (by decide), fromUtf8_asBytes,
      run_lift name, run_lp_end (not_lt.mp bounded) (by decide),
      run_expectEnd, run_lift magic, run_pure]

namespace ChatPolicy

theorem flags_bits (policy : ChatPolicy) :
    decide (policy.flags &&& flagScreenshot ≠ 0) = policy.screenshot ∧
    decide (policy.flags &&& flagAttachDl ≠ 0) = policy.attachDownload ∧
    decide (policy.flags &&& flagWantAttach ≠ 0) = policy.wantAttach ∧
    decide (policy.flags &&& flagWantEmoji ≠ 0) = policy.wantEmoji ∧
    decide (policy.flags &&& flagWantPresence ≠ 0) = policy.wantPresence ∧
    decide (policy.flags &&& flagWantTyping ≠ 0) = policy.wantTyping ∧
    decide (policy.flags &&& flagWantReceipts ≠ 0) = policy.wantReceipts := by
  unfold flags
  cases policy.screenshot <;> cases policy.attachDownload <;>
    cases policy.wantAttach <;> cases policy.wantEmoji <;>
    cases policy.wantPresence <;> cases policy.wantTyping <;>
    cases policy.wantReceipts <;> decide

theorem decodePayload_of_encodePayload (encoded : policy.encodePayload = .ok bytes) :
    decodePayload bytes = .ok policy := by
  obtain ⟨valid, written⟩ := seq_eq_ok.mp encoded
  cases written
  unfold decodePayload
  rw [if_neg (by simp [size])]
  obtain ⟨screenshot, download, attach, emoji, presence, typing, receipts⟩ := policy.flags_bits
  apply @Reader.decode_eq _ _ _ [] _
  simp only [reader, List.append_assoc, List.cons_append, List.nil_append,
    run_bind, run_u8, if_neg version_current, run_u32be, if_neg (flag_le
    policy.capOn), run_takeArray_end, run_expectEnd, screenshot, download,
    attach, emoji, presence, typing, receipts, flag_set, Bool.decide_eq_true]
  rw [run_lift valid]
  rfl

end ChatPolicy

theorem AttachChunk.decodePayload_of_encodePayload (encoded : chunk.encodePayload = .ok bytes) :
    decodePayload bytes = .ok chunk := by
  unfold encodePayload at encoded
  split at encoded
  · cases encoded
  · rename_i bounded
    split at encoded
    · cases encoded
    · rename_i padded
      cases encoded
      apply @Reader.decode_eq _ _ _ [] _
      simp only [reader, run_bind, run_takeArray, run_u16be, run_u8,
        if_neg (flag_le chunk.pad), run_expectEnd, flag_set,
        run_lp_end (not_lt.mp bounded) (by decide), if_neg padded, Bool.decide_eq_true, run_pure]

namespace AttachHead

theorem run_readAscii (ascii : Ascii text)
    (bounded : (asBytes text).length ≤ limit) (fits : limit < 2 ^ 32) (rest : Bytes) :
    (readAscii limit field).run (lp (asBytes text) ++ rest) = .ok (text, rest) := by
  have plain : ¬ (asBytes text).any (fun byte => 128 ≤ byte) = true := by
    rw [List.any_eq_true]
    rintro ⟨byte, mem, high⟩
    exact UInt8.not_le.mpr (ascii byte mem) (of_decide_eq_true high)
  simp only [readAscii, run_bind, run_lp bounded fits, if_neg plain,
    fromUtf8_asBytes, Option.getD_some, run_pure]

theorem eq_empty_of_asBytes (empty : (asBytes text).isEmpty) : text = "" := by
  have bytes : asBytes text = [] := List.isEmpty_iff.mp empty
  have same : fromUtf8 (asBytes text) = fromUtf8 (asBytes "") := congrArg fromUtf8 bytes
  simpa using same

theorem captionUtf8_asBytes (caption : String) : captionUtf8 (asBytes caption) = .ok caption := by
  rw [captionUtf8, fromUtf8_asBytes]

theorem encodeCaptionTail_eq_ok {caption : String} {flags : UInt8}
    (written : encodeCaptionTail caption flags = .ok tail) :
    caption = "" ∧ flags = 0 ∧ tail = [] ∨ (asBytes caption).length ≤ maxCaption ∧
        ¬ ((asBytes caption).isEmpty ∧ flags = 0) ∧
        tail = lp (asBytes caption) ++ if flags ≠ 0 then [flags] else [] := by
  unfold encodeCaptionTail at written
  split at written
  · rename_i nothing
    cases written
    exact .inl ⟨eq_empty_of_asBytes nothing.1, nothing.2, rfl⟩
  · rename_i something
    split at written
    · cases written
    · rename_i bounded
      cases written
      exact .inr ⟨not_lt.mp bounded, something, rfl⟩

theorem toNat_captionLength {caption : Bytes} (bounded : caption.length ≤ maxCaption) :
    (UInt32.ofNat caption.length).toNat = caption.length :=
  UInt32.toNat_ofNat_of_lt' (lt_of_le_of_lt bounded (by unfold maxCaption; decide))

theorem run_decodeCaptionTail {caption : String} {flags : UInt8}
    (written : encodeCaptionTail caption flags = .ok tail) :
    decodeCaptionTail.run tail = .ok ((caption, flags), []) := by
  rcases encodeCaptionTail_eq_ok written with
    ⟨rfl, rfl, rfl⟩ | ⟨bounded, something, rfl⟩
  · rfl
  · have length := toNat_captionLength bounded
    have present : ¬ (u32be (UInt32.ofNat (asBytes caption).length) ++
        (asBytes caption ++ if flags ≠ 0 then [flags] else [])).length = 0 := by
      simp
    simp only [decodeCaptionTail, run_bind, run_remaining, lp,
      List.append_assoc, if_neg present, run_u32be, length,
      if_neg (not_lt.mpr bounded), run_take rfl]
    by_cases plain : flags = 0
    · subst plain
      have content : ¬ UInt32.ofNat (asBytes caption).length < 1 := by
        rw [UInt32.lt_iff_toNat_lt, length]
        intro short
        refine something ⟨?_, rfl⟩
        rw [List.isEmpty_iff, ← List.length_eq_zero_iff]
        exact Nat.lt_one_iff.mp short
      simp only [ne_eq, not_true_eq_false, if_false, List.length_nil,
        if_true, if_neg content, run_bind, run_lift (captionUtf8_asBytes caption), run_pure]
    · have read : (if UInt32.ofNat (asBytes caption).length = 0 then pure ""
          else captionUtf8 (asBytes caption)) = .ok caption := by
        split
        · rename_i none
          have empty := congrArg UInt32.toNat none
          rw [length] at empty
          have text : caption = "" := eq_empty_of_asBytes (by simpa using empty)
          rw [text]
          rfl
        · exact captionUtf8_asBytes caption
      simp only [ne_eq, plain, not_false_eq_true, if_true,
        List.length_singleton, one_ne_zero, if_false, run_bind, run_lift read, run_u8, run_pure]

theorem decodeWithInline_of_encodeChunked {head : AttachHead} {bytes : Bytes}
    (mime : Ascii head.mimeHint) (ext : Ascii head.origExt)
    (encoded : head.encodeChunked = .ok bytes) :
    decodeWithInline bytes = .ok (head, none) := by
  obtain ⟨common, rest⟩ := seq_eq_ok.mp encoded
  obtain ⟨plan, rest⟩ := seq_eq_ok.mp rest
  obtain ⟨-, mimeShort, extShort, -⟩ := validateCommon_eq_ok.mp common
  obtain ⟨tail, written, ⟨⟩⟩ := bind_eq_ok.mp rest
  have read : chunkedReader.decode ([1, head.mediaClass] ++
      lp (asBytes head.mimeHint) ++ lp (asBytes head.origExt) ++
      u32be head.uncompressedN ++ u16be head.chunkCount ++
      u16be head.chunkBucket ++ head.contentSha256.toList ++ tail) =
      .ok head := by
    apply @Reader.decode_eq _ _ _ [] _
    simp only [chunkedReader, List.append_assoc, List.cons_append,
      List.nil_append, run_bind, run_u8, run_readAscii mime mimeShort (by decide),
      run_readAscii ext extShort (by decide), run_u32be, run_u16be,
      run_takeArray, run_decodeCaptionTail written]
    rw [run_lift common]
    simp only
    rw [run_lift plan]
    rfl
  unfold decodeWithInline
  rw [read]
  rfl

theorem run_peekU32be_of_length (long : 4 ≤ bytes.length) : (peekU32be field).run bytes =
      .ok (UInt32.ofNat (fromBeBytes (bytes.take 4)), bytes) := by
  show (if bytes.length < 4 then _ else _) = _
  rw [if_neg (by omega)]

/-- The peeked length of what follows a caption is the blob's only when
nothing but the blob remains. -/
theorem run_inlineTail {caption : String} {flags : UInt8}
    (written : encodeCaptionTail caption flags = .ok tail) (bounded : blob.length ≤ maxAttach) :
    (inlineTail blob.length).run (tail ++ lp blob) = .ok ((caption, flags, blob), []) := by
  have size : (UInt32.ofNat blob.length).toNat = blob.length :=
    UInt32.toNat_ofNat_of_lt' (lt_of_le_of_lt bounded (by unfold maxAttach; decide))
  rcases encodeCaptionTail_eq_ok written with
    ⟨rfl, rfl, rfl⟩ | ⟨short, something, rfl⟩
  · simp only [inlineTail, List.nil_append, lp, run_bind, run_peekU32be,
      run_remaining, run_u32be, size, List.length_append, length_u32be,
      and_self, if_true, run_take_end, run_pure]
  · have length := toNat_captionLength short
    simp only [lp, List.append_assoc, inlineTail, run_bind, run_peekU32be,
      run_remaining, length, List.length_append, length_u32be]
    rw [if_neg (by omega)]
    simp only [run_bind, run_u32be, length, if_neg (not_lt.mpr short),
      run_take rfl, run_lift (captionUtf8_asBytes caption)]
    by_cases plain : flags = 0
    · subst plain
      simp only [ne_eq, not_true_eq_false, if_false, List.nil_append,
        run_peekU32be, run_remaining, size, List.length_append, length_u32be,
        and_self, if_true, run_bind, run_u32be, run_take_end, run_pure]
    · simp only [ne_eq, plain, not_false_eq_true, if_true, List.cons_append, List.nil_append]
      rw [run_peekU32be_of_length (by simp; omega)]
      simp only [run_remaining]
      rw [if_neg (by simp; omega)]
      simp only [run_bind, run_u8, run_u32be, run_remaining, size,
        not_true_eq_false, or_self, if_false, run_take_end, run_pure]

theorem decodeWithInline_of_encodeInline {head : AttachHead}
    (mime : Ascii head.mimeHint) (ext : Ascii head.origExt)
    (encoded : head.encodeInline blob = .ok bytes) :
    decodeWithInline bytes = .ok (head, some blob) := by
  obtain ⟨common, rest⟩ := seq_eq_ok.mp encoded
  obtain ⟨-, mimeShort, extShort, size, -⟩ := validateCommon_eq_ok.mp common
  split at rest
  · cases rest
  rename_i planless
  split at rest
  · cases rest
  rename_i exact'
  obtain ⟨tail, written, ⟨⟩⟩ := bind_eq_ok.mp rest
  obtain ⟨mediaClass, mimeHint, origExt, n, count, bucket, sha, caption, flags⟩ := head
  obtain ⟨rfl, rfl⟩ : count = 0 ∧ bucket = 0 := by simpa [not_or] using planless
  have length : n.toNat = blob.length := (not_not.mp exact').symm
  have read : inlineReader.decode ([2, mediaClass] ++
      lp (asBytes mimeHint) ++ lp (asBytes origExt) ++ u32be n ++
      sha.toList ++ tail ++ lp blob) =
      .ok (⟨mediaClass, mimeHint, origExt, n, 0, 0, sha, caption, flags⟩, blob) := by
    apply @Reader.decode_eq _ _ _ [] _
    simp only [inlineReader, List.append_assoc, List.cons_append,
      List.nil_append, run_bind, run_u8, run_readAscii mime mimeShort (by decide),
      run_readAscii ext extShort (by decide), run_u32be, run_takeArray, length,
      run_inlineTail written (length.symm.trans_le size.2)]
    rw [run_lift common]
    rfl
  unfold decodeWithInline
  rw [read]
  rfl

/-- An inline encoding is read as what it was written from, and nothing else is
written like it. -/
theorem inline_unambiguous (mime : Ascii head.mimeHint)
    (ext : Ascii head.origExt) (encoded : head.encodeInline blob = .ok bytes) :
    decodeWithInline bytes = .ok (head, some blob) ∧
      ∀ other, Ascii other.mimeHint → Ascii other.origExt → other.encodeChunked ≠ .ok bytes ∧
        ∀ data, other.encodeInline data = .ok bytes → other = head ∧ data = blob := by
  have own := decodeWithInline_of_encodeInline mime ext encoded
  refine ⟨own, fun other plainMime plainExt => ⟨fun chunked => ?_, ?_⟩⟩
  · cases own.symm.trans (decodeWithInline_of_encodeChunked plainMime plainExt chunked)
  · intro data inlined
    cases own.symm.trans (decodeWithInline_of_encodeInline plainMime plainExt inlined)
    exact ⟨rfl, rfl⟩

def flaggedNote : AttachHead :=
  { mediaClass := 1, mimeHint := "text/plain", origExt := "txt"
    uncompressedN := 4, chunkCount := 0, chunkBucket := 0
    contentSha256 := List.Vector.replicate 32 7, caption := "a", flags := 3 }

theorem flaggedNote_read_back : ∃ bytes, flaggedNote.encodeInline [0, 0, 0, 0] = .ok bytes ∧
      decodeWithInline bytes = .ok (flaggedNote, some [0, 0, 0, 0]) :=
  ⟨_, rfl, (inline_unambiguous (by decide +kernel) (by decide +kernel) rfl).1⟩

end AttachHead

theorem AttachHeadPayload.decodePayload_of_encodePayload
    (mime : AttachHead.Ascii payload.head.mimeHint) (ext : AttachHead.Ascii payload.head.origExt)
    (encoded : payload.encodePayload = .ok bytes) :
    decodePayload bytes = .ok payload := by
  obtain ⟨head, inline⟩ := payload
  unfold decodePayload
  cases inline with
  | none =>
    rw [AttachHead.decodeWithInline_of_encodeChunked mime ext encoded]
    rfl
  | some blob =>
    rw [AttachHead.decodeWithInline_of_encodeInline mime ext encoded]
    rfl

namespace StickerItem

theorem maxBytes_le (kind : UInt8) : maxBytes kind ≤ maxBytesSticker := by
  unfold maxBytes
  split
  · decide
  · split
    · exact le_rfl
    · exact Nat.zero_le _

theorem length_le_of_checkBytes {kind : UInt8} {bytes : Bytes}
    (checked : checkBytes kind bytes = .ok ()) :
    bytes.length ≤ maxBytesSticker := by
  unfold checkBytes at checked
  split at checked
  · cases checked
  · rename_i fits
    have := maxBytes_le kind
    have : ¬ bytes.length > maxBytes kind := fun large => fits (.inr large)
    omega

theorem run_bodyReader_none (kind : UInt8) : (bodyReader kind).run [0] = .ok (none, []) := rfl

theorem run_bodyReader_some {kind : UInt8} {bytes : Bytes}
    (checked : checkBytes kind bytes = .ok ()) :
    (bodyReader kind).run (1 :: lp bytes) = .ok (some bytes, []) := by
  have present : ¬ (1 : UInt8) = 0 := by decide
  simp only [bodyReader, run_bind, run_u8, if_neg present, if_true,
    run_lp_end (length_le_of_checkBytes checked) (by decide), run_expectEnd,
    run_lift checked, run_pure]

theorem decodePayload_of_encodePayload {item : StickerItem} {bytes : Bytes}
    (encoded : item.encodePayload = .ok bytes) :
    decodePayload bytes = .ok item := by
  obtain ⟨valid, written⟩ := seq_eq_ok.mp encoded
  obtain ⟨known, rest⟩ := seq_eq_ok.mp valid
  obtain ⟨dims, body⟩ := seq_eq_ok.mp rest
  cases written
  apply @Reader.decode_eq _ _ _ [] _
  obtain ⟨kind, visibility, packId, packPk, itemId, w, h, sha, content⟩ := item
  cases content with
  | none =>
    simp only [reader, List.append_assoc, List.cons_append, List.nil_append,
      run_bind, run_u8, if_neg version_current, run_lift known, run_takeArray,
      run_u16be, run_lift dims, run_bodyReader_none, run_pure]
  | some bytes =>
    simp only [reader, List.append_assoc, List.cons_append, List.nil_append,
      run_bind, run_u8, if_neg version_current, run_lift known, run_takeArray,
      run_u16be, run_lift dims, run_bodyReader_some body, run_pure]

end StickerItem

theorem PackRef.decode_encode (sound : pack.Sound) : reader.decode pack.encode = .ok pack := by
  apply @Reader.decode_eq _ _ _ [] _
  simp only [reader, encode, List.append_assoc, List.cons_append,
    List.nil_append, run_bind, run_takeArray, run_u8, run_lift sound.1,
    run_u16be, run_u16be_end, sound.2, not_true_eq_false, if_false, run_pure]

namespace StickerCtrl

theorem run_chunkReader {index count maxChunks : UInt16}
    (plan : checkChunkPlan index count maxChunks field = .ok ())
    (bounded : checkData data maxData field = .ok ()) (fits : maxData < 2 ^ 32) (rest : Bytes) :
    (chunkReader field maxChunks maxData).run (u16be index ++ (u16be count ++ (lp data ++ rest))) =
      .ok ((index, count, data), rest) := by
  have short : data.length ≤ maxData := by
    unfold checkData at bounded
    split at bounded
    · cases bounded
    · omega
  simp only [chunkReader, run_bind, run_u16be, run_lift plan, run_lp short fits, run_pure]

theorem run_packIdent (packId : Array16) (packPk : Array32) (rest : Bytes) :
    (packIdent field).run (packId.toList ++ (packPk.toList ++ rest)) =
      .ok ((packId, packPk), rest) := by
  simp only [packIdent, run_bind, run_takeArray, run_pure]

theorem run_trailerReader {pack : PackRef} (sound : pack.Sound) :
    trailerReader.run pack.encode = .ok (some pack, []) := by
  have full : ¬ PackRef.encodedLen = 0 := by decide
  simp only [trailerReader, run_bind, run_remaining, PackRef.length_encode, if_neg full, if_true]
  rw [run_append_nil, run_take (PackRef.length_encode pack)]
  simp only [PackRef.decode_encode sound, run_pure]
  rfl

theorem run_reader (op : UInt8) (rest : Bytes) :
    reader.run (1 :: op :: rest) = (opReader op).run rest := by
  simp only [reader, run_bind, run_u8, if_neg version_current]

theorem toNat_shaLength (checked : checkShaLen len = .ok ()) : (UInt8.ofNat len).toNat = len := by
  unfold checkShaLen at checked
  split at checked
  · exact UInt8.toNat_ofNat_of_lt' (by show len < 256; omega)
  · cases checked

theorem decodePayload_of_encodePayload (sound : ctrl.Sound)
    (encoded : ctrl.encodePayload = .ok bytes) :
    decodePayload bytes = .ok ctrl := by
  apply @Reader.decode_eq _ _ _ [] _
  cases ctrl with
  | ack sha =>
    cases encoded
    simp only [List.cons_append, List.nil_append, run_reader]
    show (Reader.takeArray 32 _ >>= _).run _ = _
    simp only [run_bind, run_takeArray_end, run_expectEnd, run_pure]
  | wantItem sha =>
    obtain ⟨checked, written⟩ := seq_eq_ok.mp encoded
    cases written
    have length := toNat_shaLength checked
    simp only [List.cons_append, List.nil_append, run_reader]
    show (Reader.u8 _ >>= _).run _ = _
    simp only [run_bind, run_u8, length, run_lift checked, run_take_end, run_expectEnd, run_pure]
  | itemBody sha index count data pack =>
    obtain ⟨plan, rest⟩ := seq_eq_ok.mp encoded
    obtain ⟨bounded, written⟩ := seq_eq_ok.mp rest
    cases written
    simp only [List.append_assoc, List.cons_append, List.nil_append, run_reader]
    show (Reader.takeArray 32 _ >>= _).run _ = _
    simp only [run_bind, run_takeArray, run_chunkReader plan bounded (by decide)]
    cases pack with
    | none => rfl
    | some pack => simp only [run_trailerReader sound, run_expectEnd, run_pure]
  | wantPack packId packPk | wantThumbs packId packPk =>
    cases encoded
    simp only [List.cons_append, List.nil_append, run_reader]
    show (packIdent _ >>= _).run _ = _
    rw [run_append_nil, List.append_assoc]
    simp only [run_bind, run_packIdent, run_expectEnd, run_pure]
  | packBody packId packPk index count data
  | thumbsBody packId packPk index count data =>
    obtain ⟨plan, rest⟩ := seq_eq_ok.mp encoded
    obtain ⟨bounded, written⟩ := seq_eq_ok.mp rest
    cases written
    rw [run_append_nil]
    simp only [List.append_assoc, List.cons_append, List.nil_append, run_reader]
    show (packIdent _ >>= _).run _ = _
    simp only [run_bind, run_packIdent,
      run_chunkReader plan bounded (by decide), run_expectEnd, run_pure]
  | packRefused packId packPk reason =>
    obtain ⟨checked, written⟩ := seq_eq_ok.mp encoded
    cases written
    simp only [List.append_assoc, List.cons_append, List.nil_append, run_reader]
    show (packIdent _ >>= _).run _ = _
    simp only [run_bind, run_packIdent, run_u8, run_expectEnd, run_lift checked, run_pure]

end StickerCtrl

theorem Payload.decode_of_encode (canonical : payload.Canonical)
    (encoded : payload.encode nfc = .ok bytes) :
    Payload.decode nfc payload.envelopeType bytes = .ok payload := by
  cases payload with
  | msg inner =>
    exact congrArg (fun read => msg <$> (Msg.mk <$> read)) (decodeBody_of_encodeBody encoded)
  | edit inner =>
    exact congrArg (fun read => edit <$> (Edit.mk <$> read)) (decodeBody_of_encodeBody encoded)
  | delete | deleteAll | contactClose | profileReq | read =>
    cases encoded
    rfl
  | resyncReq inner =>
    exact congrArg (resyncReq <$> ·) (ResyncReq.decodePayload_of_encodePayload encoded)
  | attachHead inner =>
    exact congrArg (attachHead <$> ·) (AttachHeadPayload.decodePayload_of_encodePayload canonical.1
        canonical.2 encoded)
  | attachChunk inner =>
    exact congrArg (attachChunk <$> ·) (AttachChunk.decodePayload_of_encodePayload encoded)
  | profile inner => exact congrArg (profile <$> ·) (Profile.decodePayload_of_encodePayload encoded)
  | pref inner => exact congrArg (pref <$> ·) (Pref.decodePayload_of_encodePayload encoded)
  | sticker inner =>
    exact congrArg (sticker <$> ·) (StickerItem.decodePayload_of_encodePayload encoded)
  | stickerCtrl inner =>
    exact congrArg (stickerCtrl <$> ·)
      (StickerCtrl.decodePayload_of_encodePayload canonical encoded)
  | presence inner =>
    exact congrArg (presence <$> ·) (Presence.decodePayload_of_encodePayload encoded)
  | chatPolicy inner =>
    exact congrArg (chatPolicy <$> ·) (ChatPolicy.decodePayload_of_encodePayload encoded)
  | typing inner => exact congrArg (typing <$> ·) (Typing.decodePayload_of_encodePayload encoded)

namespace Envelope

/-- An encoded envelope decodes to itself exactly when it is canonical: every
other check of a decoder is one of the encoder's. -/
theorem decode_encoded_iff {nfc : String → String} {env : Envelope}
    {bytes : Bytes} (encoded : env.encode nfc = .ok bytes) :
    Envelope.decode nfc bytes = .ok env ↔ env.payload.Canonical := by
  constructor
  · exact fun decoded => (reencodes decoded).1
  · exact fun canonical => decode_of_encode encoded
      fun _ written => Payload.decode_of_encode canonical written

def bodyOf (kind : UInt8) : Envelope where
  msgId := List.Vector.replicate 16 1
  appSeq := 1
  sentAt := 0
  refId := none
  payload := .stickerCtrl (.itemBody (List.Vector.replicate 32 2) 0 1 [7]
    (some {
      packId := List.Vector.replicate 16 3
      packPk := List.Vector.replicate 32 4
      kind
      visibility := visibilityPublic
      itemId := 0
      w := 1
      h := 1 }))

theorem bodyOf_encodes (kind : UInt8) : ∃ bytes, (bodyOf kind).encode id = .ok bytes :=
  (@encodable_iff id (bodyOf kind)).mp ⟨_, rfl, by simp [bodyOf]; decide⟩

theorem emoji_body_reads_back : ∃ bytes, (bodyOf kindEmoji).encode id = .ok bytes ∧
      (bodyOf kindEmoji).payload.Canonical ∧
      Envelope.decode id bytes = .ok (bodyOf kindEmoji) := by
  obtain ⟨bytes, encoded⟩ := bodyOf_encodes kindEmoji
  have canonical : (bodyOf kindEmoji).payload.Canonical := ⟨rfl, rfl⟩
  exact ⟨bytes, encoded, canonical, (decode_encoded_iff encoded).mpr canonical⟩

def foreignHead : Envelope where
  msgId := List.Vector.replicate 16 1
  appSeq := 1
  sentAt := 0
  refId := none
  payload := .attachHead {
    head := {
      mediaClass := classImage
      mimeHint := "é"
      origExt := ""
      uncompressedN := 1
      chunkCount := 1
      chunkBucket := 1
      contentSha256 := List.Vector.replicate 32 0
      caption := ""
      flags := 0 }
    inline := none }

theorem not_canonical_foreignHead : ¬ foreignHead.payload.Canonical := by
  rintro ⟨mime, -⟩
  exact absurd mime (by decide +kernel)

/-- The encoder takes both, the decoder rejects the one and drops the trailer
of the other. -/
theorem foreign_head_lost : (∃ bytes, foreignHead.encode id = .ok bytes ∧
      Envelope.decode id bytes ≠ .ok foreignHead) ∧
    ∃ bytes, (bodyOf 3).encode id = .ok bytes ∧ Envelope.decode id bytes ≠ .ok (bodyOf 3) := by
  constructor
  · obtain ⟨bytes, encoded⟩ := (@encodable_iff id foreignHead).mp ⟨_, rfl, by decide +kernel⟩
    refine ⟨bytes, encoded, fun decoded => ?_⟩
    exact not_canonical_foreignHead (reencodes decoded).1
  · obtain ⟨bytes, encoded⟩ := bodyOf_encodes 3
    refine ⟨bytes, encoded, fun decoded => ?_⟩
    exact absurd (reencodes decoded).1.1 (by decide)

/-- Decoding is stable: what was accepted encodes again, in no more bytes, to
an envelope that decodes to the same; and so does the payload alone, which is
what the ledger keeps. -/
theorem decode_stable {nfc : String → String} {env : Envelope}
    {bytes : Bytes} (decoded : Envelope.decode nfc bytes = .ok env) :
    (∃ out, env.encode nfc = .ok out ∧ out.length ≤ bytes.length ∧
      Envelope.decode nfc out = .ok env) ∧
    ∃ payload, env.payload.encode nfc = .ok payload ∧
      Payload.decode nfc env.envelopeType payload = .ok env.payload := by
  obtain ⟨canonical, out, written, shorter⟩ := reencodes decoded
  obtain ⟨payload, encoded, -⟩ := encode_eq_ok.mp written
  refine ⟨⟨out, written, shorter, ?_⟩, payload, encoded, ?_⟩
  · exact decode_of_encode written fun _ written => Payload.decode_of_encode canonical written
  · exact Payload.decode_of_encode canonical encoded

/-- A presence beat with flag bits no version has assigned. -/
def futureBeat : RawEnvelope where
  code := EnvelopeType.presence.code
  msgId := List.Vector.replicate 16 1
  appSeq := 1
  sentAt := 0
  refId := none
  payload := [1, 0xff]

theorem future_beat_stable : ∃ env, Envelope.decode id futureBeat.bytes = .ok env ∧
      ∃ out, env.encode id = .ok out ∧ out.length ≤ futureBeat.bytes.length ∧
        Envelope.decode id out = .ok env := by
  have header : decodeRaw futureBeat.bytes = .ok futureBeat :=
    decodeRaw_bytes (by rw [length_bytes]; decide)
  have decoded := (@decode_eq_ok id).mpr ⟨futureBeat, header, rfl⟩
  exact ⟨_, decoded, (decode_stable decoded).1⟩

end Envelope

end SChatCore.Wire

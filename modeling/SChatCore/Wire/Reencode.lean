import SChatCore.Wire.Envelope

namespace SChatCore.Wire

open Reader Sticker

/-! What a decoder accepts, the encoder of the same type accepts again, and
writes in no more bytes. -/

theorem encodeBody_of_decodeBody (decoded : decodeBody field bytes = .ok body) :
    encodeBody field body = .ok bytes := by
  unfold decodeBody at decoded
  split at decoded
  · cases decoded
  · rename_i bounded
    split at decoded
    · rename_i text utf8
      cases decoded
      rw [encodeBody, asBytes_of_fromUtf8 utf8, if_neg bounded]
    · cases decoded

theorem map_eq_ok {result : Except WireError α} (mapped : wrap <$> result = .ok value) :
    ∃ inner, result = .ok inner ∧ value = wrap inner := by
  cases result with
  | error error => cases mapped
  | ok inner =>
    cases mapped
    exact ⟨inner, rfl, rfl⟩

def Fits (encoded : Except WireError Bytes) (taken : Nat) : Prop :=
  ∃ out, encoded = .ok out ∧ out.length ≤ taken

theorem Fits.mono (fits : Fits encoded taken) (le : taken ≤ more) :
    Fits encoded more := by
  obtain ⟨out, written, bounded⟩ := fits
  exact ⟨out, written, bounded.trans le⟩

theorem Fits.of_decode {encode : α → Except WireError Bytes}
    (measures : Measures reader fun value taken => Fits (encode value) taken)
    (decoded : reader.decode bytes = .ok value) :
    Fits (encode value) bytes.length := by
  obtain ⟨taken, le, fits⟩ := measures.decode decoded
  exact fits.mono le

theorem Pref.reencodes (decoded : decodePayload bytes = .ok pref) :
    Fits pref.encodePayload bytes.length := by
  refine Fits.of_decode ?_ decoded
  refine .u8 fun version => ?_
  refine .guard fun _ => ?_
  refine .u32be fun flags => ?_
  refine .u32be fun hours => ?_
  refine .expectEnd ?_
  refine .lift fun _ checked => ?_
  refine .pure ?_
  unfold encodePayload
  rw [checked]
  exact ⟨_, rfl, by simp⟩

theorem measures_flagByte (field : String) :
    Measures (flagByte field) fun _ taken => taken = 2 := by
  refine .u8 fun version => ?_
  refine .guard fun _ => ?_
  refine .u8 fun flags => ?_
  refine .expectEnd ?_
  exact .pure (by omega)

theorem length_of_flagByte {wrap : UInt8 → α}
    (decoded : (do return wrap (← (flagByte field).decode bytes)) =
      Except.ok value) : 2 ≤ bytes.length := by
  obtain ⟨flags, read, -⟩ := map_eq_ok decoded
  obtain ⟨taken, le, two⟩ := (measures_flagByte _).decode read
  omega

theorem Presence.reencodes (decoded : decodePayload bytes = .ok presence) :
    Fits presence.encodePayload bytes.length :=
  ⟨_, rfl, length_of_flagByte decoded⟩

theorem Typing.reencodes (decoded : decodePayload bytes = .ok beat) :
    Fits beat.encodePayload bytes.length :=
  ⟨_, rfl, length_of_flagByte decoded⟩

theorem Profile.reencodes (decoded : decodePayload nfc bytes = .ok profile) :
    Fits (profile.encodePayload nfc) bytes.length := by
  refine Fits.of_decode ?_ decoded
  refine .u8 fun version => ?_
  refine .guard fun _ => ?_
  refine .lp fun nameBytes named => ?_
  split
  · exact .throw _
  rename_i name utf8
  refine .lift fun _ checked => ?_
  refine .lp fun jpeg pictured => ?_
  refine .expectEnd ?_
  refine .lift fun _ magic => ?_
  refine .pure ?_
  unfold encodePayload
  rw [checked, if_neg (not_lt.mpr pictured), magic, asBytes_of_fromUtf8 utf8]
  refine ⟨_, rfl, ?_⟩
  simp only [List.cons_append, List.nil_append, List.length_cons, List.length_append, length_lp]
  omega

theorem ChatPolicy.reencodes (decoded : decodePayload bytes = .ok policy) :
    Fits policy.encodePayload bytes.length := by
  unfold decodePayload at decoded
  split at decoded
  · cases decoded
  · rename_i length
    have yields : Measures reader fun policy _ => policy.validate = .ok () := by
      refine .u8 fun version => ?_
      refine .guard fun _ => ?_
      refine .u8 fun op => ?_
      refine .u32be fun ttlSec => ?_
      refine .u32be fun flags => ?_
      refine .u8 fun capId => ?_
      refine .u8 fun capOn => ?_
      refine .guard fun _ => ?_
      refine .takeArray fun id => ?_
      refine .expectEnd ?_
      refine .lift fun _ valid => ?_
      exact .pure valid
    obtain ⟨_, _, valid⟩ := yields.decode decoded
    unfold encodePayload
    rw [valid]
    refine ⟨_, rfl, ?_⟩
    simp only [size] at length
    simp
    omega

theorem ResyncReq.reencodes (decoded : decodePayload bytes = .ok request) :
    Fits request.encodePayload bytes.length := by
  refine Fits.of_decode ?_ decoded
  refine .u64be fun _ => ?_
  refine .lp fun bitmap bounded => ?_
  refine .u32be fun _ => ?_
  refine .takeArray fun _ => ?_
  refine .expectEnd ?_
  refine .pure ?_
  unfold encodePayload
  rw [if_neg (not_lt.mpr bounded)]
  exact ⟨_, rfl, by simp⟩

theorem AttachChunk.reencodes (decoded : decodePayload bytes = .ok chunk) :
    Fits chunk.encodePayload bytes.length := by
  refine Fits.of_decode ?_ decoded
  refine .takeArray fun _ => ?_
  refine .u16be fun _ => ?_
  refine .u8 fun pad => ?_
  refine .guard fun _ => ?_
  refine .lp fun data bounded => ?_
  refine .expectEnd ?_
  refine .guard fun empty => ?_
  refine .pure ?_
  unfold encodePayload
  rw [if_neg (not_lt.mpr bounded), if_neg (by simpa using empty)]
  refine ⟨_, rfl, ?_⟩
  simp only [List.length_append, List.Vector.toList_length, length_u16be,
    List.length_cons, length_lp]
  omega

namespace AttachHead

/-- The texts of a head that only the decoder checks. -/
def Ascii (text : String) : Prop := ∀ byte ∈ asBytes text, byte < 128

instance (text : String) : Decidable (Ascii text) :=
  inferInstanceAs (Decidable (∀ byte ∈ asBytes text, byte < 128))

theorem validateCommon_eq_ok {head : AttachHead} : head.validateCommon = .ok () ↔
      (head.mediaClass = classImage ∨ head.mediaClass = classVideo) ∧
      (asBytes head.mimeHint).length ≤ maxMime ∧
      (asBytes head.origExt).length ≤ maxExt ∧
      (1 ≤ head.uncompressedN.toNat ∧ head.uncompressedN.toNat ≤ maxAttach) ∧
      (asBytes head.caption).length ≤ maxCaption := by
  unfold validateCommon
  simp only
  split
  · rename_i class'
    simp only [reduceCtorEq, false_iff]
    tauto
  split
  · simp only [reduceCtorEq, false_iff]
    omega
  split
  · simp only [reduceCtorEq, false_iff]
    omega
  split
  · simp only [reduceCtorEq, false_iff]
    omega
  split
  · simp only [reduceCtorEq, false_iff]
    omega
  · rename_i class' _ _ _ _
    simp only [true_iff]
    exact ⟨by tauto, by omega, by omega, by omega, by omega⟩

def tailSize (caption : Bytes) (flags : UInt8) : Nat :=
  if flags ≠ 0 then 5 + caption.length
  else if caption.isEmpty then 0
  else 4 + caption.length

theorem tailSize_zero_le (caption : Bytes) : tailSize caption 0 ≤ 4 + caption.length := by
  unfold tailSize
  split
  · contradiction
  · split <;> omega

theorem tailSize_le (caption : Bytes) (flags : UInt8) :
    tailSize caption flags ≤ 5 + caption.length := by
  unfold tailSize
  split
  · exact le_rfl
  · split <;> omega

theorem encodeCaptionTail_fits {caption : String} (flags : UInt8)
    (bounded : (asBytes caption).length ≤ maxCaption) :
    Fits (encodeCaptionTail caption flags) (tailSize (asBytes caption) flags) := by
  unfold encodeCaptionTail tailSize
  rw [if_neg (not_lt.mpr bounded)]
  split
  · exact ⟨_, rfl, Nat.zero_le _⟩
  · rename_i present
    refine ⟨_, rfl, ?_⟩
    by_cases plain : flags = 0
    · rw [if_neg (not_not.mpr plain), if_neg (fun empty => present ⟨empty, plain⟩)]
      simp [plain]
    · simp only [ne_eq, plain, not_false_eq_true, if_true, List.length_append,
        length_lp, List.length_singleton]
      omega

theorem measures_readAscii (limit : Nat) (field : String) :
    Measures (readAscii limit field) fun text taken =>
      Ascii text ∧ 4 + (asBytes text).length ≤ taken := by
  refine .lp fun bytes measured => ?_
  refine .guard fun ascii => ?_
  refine .pure ?_
  cases utf8 : fromUtf8 bytes with
  | none =>
    refine ⟨?_, ?_⟩
    · intro byte mem
      cases mem
    · show 4 + 0 ≤ _
      omega
  | some text =>
    show Ascii text ∧ 4 + (asBytes text).length ≤ _
    rw [Ascii, asBytes_of_fromUtf8 utf8]
    refine ⟨fun byte mem => ?_, by omega⟩
    rw [List.any_eq_true] at ascii
    rw [← UInt8.not_le]
    exact fun high => ascii ⟨byte, mem, decide_eq_true high⟩

theorem asBytes_of_captionUtf8 {caption : String}
    (read : captionUtf8 bytes = .ok caption) : asBytes caption = bytes := by
  unfold captionUtf8 at read
  split at read
  · rename_i text utf8
    cases read
    exact asBytes_of_fromUtf8 utf8
  · cases read

theorem measures_decodeCaptionTail : Measures decodeCaptionTail fun tail taken =>
      tailSize (asBytes tail.1) tail.2 ≤ taken := by
  refine .remaining fun left => ?_
  split
  · exact .pure (Nat.zero_le _)
  · refine .u32be fun capLen => ?_
    refine .guard fun _ => ?_
    refine .take fun capBytes counted => ?_
    refine .remaining fun after => ?_
    split
    · refine .guard fun _ => ?_
      refine .lift fun caption read => ?_
      have size := tailSize_zero_le (asBytes caption)
      have text := asBytes_of_captionUtf8 read
      refine .pure ?_
      show tailSize (asBytes caption) 0 ≤ _
      rw [text] at size ⊢
      omega
    · split
      · refine .lift fun caption read => ?_
        refine .u8 fun flags => ?_
        have text : (asBytes caption).length = capBytes.length := by
          split at read
          · rename_i empty
            cases read
            rw [counted, empty]
            rfl
          · rw [asBytes_of_captionUtf8 read]
        have size := tailSize_le (asBytes caption) flags
        refine .pure ?_
        show tailSize (asBytes caption) flags ≤ _
        omega
      · exact .throw _

theorem chunkedReader_measures : Measures chunkedReader fun head taken =>
    Ascii head.mimeHint ∧ Ascii head.origExt ∧ Fits head.encodeChunked taken := by
  refine .u8 fun _ => ?_
  refine .u8 fun _ => ?_
  refine .bind (measures_readAscii _ _) fun mimeHint _ mime => ?_
  refine .bind (measures_readAscii _ _) fun origExt _ ext => ?_
  refine .u32be fun _ => ?_
  refine .u16be fun _ => ?_
  refine .u16be fun _ => ?_
  refine .takeArray fun _ => ?_
  refine .bind measures_decodeCaptionTail fun tail _ size => ?_
  refine .lift fun _ common => ?_
  refine .lift fun _ plan => ?_
  refine .pure ⟨mime.1, ext.1, ?_⟩
  obtain ⟨out, written, bounded⟩ := encodeCaptionTail_fits tail.2
    (validateCommon_eq_ok.mp common).2.2.2.2
  unfold encodeChunked
  rw [common, plan]
  show Fits (encodeCaptionTail tail.1 tail.2 >>= _) _
  rw [written]
  refine ⟨_, rfl, ?_⟩
  simp at bounded ⊢
  omega

theorem inlineTail_measures (n : Nat) :
    Measures (inlineTail n) fun tail taken => tail.2.2.length = n ∧
      tailSize (asBytes tail.1) tail.2.1 + (4 + tail.2.2.length) ≤ taken := by
  refine .peekU32be fun peek => ?_
  refine .remaining fun left => ?_
  split
  · rename_i plain
    refine .u32be fun _ => ?_
    refine .take fun blob counted => ?_
    refine .pure ⟨counted.trans plain.1, ?_⟩
    show 0 + (4 + blob.length) ≤ _
    omega
  · refine .u32be fun capLen => ?_
    refine .guard fun _ => ?_
    refine .take fun capBytes counted => ?_
    refine .lift fun caption read => ?_
    have text := asBytes_of_captionUtf8 read
    refine .peekU32be fun peek2 => ?_
    refine .remaining fun left2 => ?_
    split
    · rename_i captioned
      refine .u32be fun _ => ?_
      refine .take fun blob blobbed => ?_
      have size := tailSize_zero_le capBytes
      refine .pure ⟨blobbed.trans captioned.1, ?_⟩
      show tailSize (asBytes caption) 0 + (4 + blob.length) ≤ _
      rw [text]
      omega
    · refine .u8 fun flags => ?_
      refine .u32be fun inlineLen => ?_
      refine .remaining fun left3 => ?_
      refine .guard fun flagged => ?_
      refine .take fun blob blobbed => ?_
      have size := tailSize_le capBytes flags
      refine .pure ⟨blobbed.trans (by omega), ?_⟩
      show tailSize (asBytes caption) flags + (4 + blob.length) ≤ _
      rw [text]
      omega

theorem inlineReader_measures : Measures inlineReader fun result taken =>
    Ascii result.1.mimeHint ∧ Ascii result.1.origExt ∧
      Fits (result.1.encodeInline result.2) taken := by
  refine .u8 fun _ => ?_
  refine .u8 fun _ => ?_
  refine .bind (measures_readAscii _ _) fun mimeHint _ mime => ?_
  refine .bind (measures_readAscii _ _) fun origExt _ ext => ?_
  refine .u32be fun uncompressedN => ?_
  refine .takeArray fun _ => ?_
  refine .bind (inlineTail_measures _) fun tail _ size => ?_
  refine .lift fun _ common => ?_
  refine .pure ⟨mime.1, ext.1, ?_⟩
  obtain ⟨caption, flags, blob⟩ := tail
  obtain ⟨exact', size⟩ := size
  obtain ⟨out, written, bounded⟩ := encodeCaptionTail_fits flags
    (validateCommon_eq_ok.mp common).2.2.2.2
  simp only [encodeInline]
  rw [common, if_neg (by simp), if_neg (not_not.mpr exact'), written]
  refine ⟨_, rfl, ?_⟩
  simp only [List.length_append, length_lp, length_u32be,
    List.Vector.toList_length, List.length_cons, List.length_nil]
    at bounded size exact' ⊢
  omega

theorem decodeWithInline_eq_ok {inline : Option Bytes}
    (decoded : decodeWithInline bytes = .ok (head, inline)) :
    inline = none ∧ chunkedReader.decode bytes = .ok head ∨ ∃ blob, inline = some blob ∧
        inlineReader.decode bytes = .ok (head, blob) := by
  obtain ⟨version, -, decoded⟩ := bind_eq_ok.mp decoded
  split at decoded
  · obtain ⟨found, chunked, ⟨⟩⟩ := bind_eq_ok.mp decoded
    exact .inl ⟨rfl, chunked⟩
  · split at decoded
    · obtain ⟨found, inlined, ⟨⟩⟩ := bind_eq_ok.mp decoded
      exact .inr ⟨found.2, rfl, inlined⟩
    · cases decoded

end AttachHead

theorem AttachHeadPayload.reencodes {bytes : Bytes} (decoded : decodePayload bytes = .ok payload) :
    AttachHead.Ascii payload.head.mimeHint ∧ AttachHead.Ascii payload.head.origExt ∧
      Fits payload.encodePayload bytes.length := by
  have parts : AttachHead.decodeWithInline bytes = .ok (payload.head, payload.inline) := by
    obtain ⟨found, read, ⟨⟩⟩ := bind_eq_ok.mp decoded
    exact read
  unfold encodePayload
  rcases AttachHead.decodeWithInline_eq_ok parts with
    ⟨none, chunked⟩ | ⟨blob, some, inlined⟩
  · obtain ⟨taken, le, mime, ext, fits⟩ := AttachHead.chunkedReader_measures.decode chunked
    rw [none]
    exact ⟨mime, ext, fits.mono le⟩
  · obtain ⟨taken, le, mime, ext, fits⟩ := AttachHead.inlineReader_measures.decode inlined
    rw [some]
    exact ⟨mime, ext, fits.mono le⟩

theorem StickerItem.measures_bodyReader (kind : UInt8) :
    Measures (bodyReader kind) fun bytes taken => (match bytes with
        | some bytes => checkBytes kind bytes
        | none => .ok ()) = .ok () ∧
      1 + (match bytes with
        | some bytes => 4 + bytes.length
        | none => 0) ≤ taken := by
  refine .u8 fun hasBytes => ?_
  split
  · refine .expectEnd ?_
    refine .pure ⟨rfl, ?_⟩
    show 1 + 0 ≤ _
    omega
  · split
    · refine .lp fun bytes measured => ?_
      refine .expectEnd ?_
      refine .lift fun _ checked => ?_
      refine .pure ⟨checked, ?_⟩
      show 1 + (4 + bytes.length) ≤ _
      omega
    · exact .throw _

theorem StickerItem.reencodes {bytes : Bytes} (decoded : decodePayload bytes = .ok item) :
    Fits item.encodePayload bytes.length := by
  refine Fits.of_decode ?_ decoded
  refine .u8 fun version => ?_
  refine .guard fun _ => ?_
  refine .u8 fun kind => ?_
  refine .u8 fun visibility => ?_
  refine .lift fun _ known => ?_
  refine .takeArray fun _ => ?_
  refine .takeArray fun _ => ?_
  refine .u16be fun _ => ?_
  refine .u16be fun w => ?_
  refine .u16be fun h => ?_
  refine .lift fun _ dims => ?_
  refine .takeArray fun _ => ?_
  refine .bind (measures_bodyReader kind) fun bytes _ checked => .pure ?_
  have valid (item : StickerItem) (kind' : item.kind = kind)
      (visibility' : item.visibility = visibility) (w' : item.w = w)
      (h' : item.h = h) (bytes' : item.bytes = bytes) :
      item.validate = .ok () := by
    unfold validate
    rw [kind', visibility', w', h', bytes', known]
    show (checkDims kind w h >>= _) = _
    rw [dims]
    exact checked.1
  unfold encodePayload
  rw [valid _ rfl rfl rfl rfl rfl]
  refine ⟨_, rfl, ?_⟩
  cases bytes with
  | none =>
    have size : 1 + 0 ≤ _ := checked.2
    simp
    omega
  | some bytes =>
    have size : 1 + (4 + bytes.length) ≤ _ := checked.2
    simp
    omega

namespace PackRef

/-- What the decoder checks in a pack trailer and the encoder does not. -/
def Sound (pack : PackRef) : Prop :=
  checkKind "pack_ref.kind" pack.kind pack.visibility = .ok () ∧
    aspectOk pack.kind pack.w.toNat pack.h.toNat

@[simp] theorem length_encode (pack : PackRef) : pack.encode.length = encodedLen := by
  simp [encode, encodedLen]

theorem measures_reader : Measures reader fun pack _ => pack.Sound := by
  refine .takeArray fun _ => ?_
  refine .takeArray fun _ => ?_
  refine .u8 fun kind => ?_
  refine .u8 fun visibility => ?_
  refine .lift fun _ known => ?_
  refine .u16be fun _ => ?_
  refine .u16be fun w => ?_
  refine .u16be fun h => ?_
  refine .guard fun aspect => ?_
  exact .pure ⟨known, not_not.mp aspect⟩

end PackRef

namespace StickerCtrl

def Sound : StickerCtrl → Prop
  | itemBody _ _ _ _ (some pack) => pack.Sound
  | _ => True

theorem measures_packIdent (field : String) :
    Measures (packIdent field) fun _ taken => taken = 48 := by
  refine .takeArray fun _ => ?_
  refine .takeArray fun _ => ?_
  exact .pure (by omega)

theorem measures_chunkReader (field : String) (maxChunks : UInt16) (maxData : Nat) :
    Measures (chunkReader field maxChunks maxData) fun chunk taken =>
      checkChunkPlan chunk.1 chunk.2.1 maxChunks field = .ok () ∧
        checkData chunk.2.2 maxData field = .ok () ∧
        taken = 8 + chunk.2.2.length := by
  refine .u16be fun _ => ?_
  refine .u16be fun _ => ?_
  refine .lift fun _ plan => ?_
  refine .lp fun data bounded => ?_
  refine .pure ⟨plan, ?_, ?_⟩
  · unfold checkData
    rw [if_neg (not_lt.mpr bounded)]
  · show _ = 8 + data.length
    omega

theorem measures_trailerReader : Measures trailerReader fun pack taken =>
      (∀ found, pack = some found → found.Sound) ∧ (match pack with
          | some pack => pack.encode
          | none => []).length ≤ taken := by
  refine .remaining fun left => ?_
  split
  · refine .pure ⟨?_, Nat.zero_le _⟩
    intro found absurd
    cases absurd
  · split
    · refine .take fun trailer taken => ?_
      refine .pure ?_
      cases read : PackRef.reader.decode trailer with
      | error error =>
        refine ⟨?_, Nat.zero_le _⟩
        intro found absurd
        cases absurd
      | ok pack =>
        obtain ⟨_, _, sound⟩ := PackRef.measures_reader.decode read
        refine ⟨?_, ?_⟩
        · intro found same
          cases same
          exact sound
        · show pack.encode.length ≤ _
          rw [PackRef.length_encode]
          omega
    · exact .throw _

theorem measures_opReader (op : UInt8) : Measures (opReader op) fun ctrl taken =>
      ctrl.Sound ∧ Fits ctrl.encodePayload (2 + taken) := by
  unfold opReader
  split
  · refine .takeArray fun _ => ?_
    refine .expectEnd ?_
    exact .pure ⟨trivial, _, rfl, by simp⟩
  split
  · refine .u8 fun _ => ?_
    refine .lift fun _ checked => ?_
    refine .take fun sha counted => ?_
    refine .expectEnd ?_
    refine .pure ⟨trivial, ?_⟩
    unfold encodePayload
    simp only [counted]
    rw [checked]
    exact ⟨_, rfl, by simp; omega⟩
  split
  · refine .takeArray fun _ => ?_
    refine .bind (measures_chunkReader _ _ _) fun ⟨index, count, data⟩ _ checked => ?_
    refine .bind measures_trailerReader fun pack _ trailer => ?_
    refine .expectEnd ?_
    have size : _ = 8 + data.length := checked.2.2
    cases pack with
    | none =>
      refine .pure ⟨trivial, ?_⟩
      unfold encodePayload
      simp only [checked.1, checked.2.1]
      exact ⟨_, rfl, by simp; omega⟩
    | some pack =>
      refine .pure ⟨trailer.1 pack rfl, ?_⟩
      have full : pack.encode.length ≤ _ := trailer.2
      rw [PackRef.length_encode] at full
      unfold encodePayload
      simp only [checked.1, checked.2.1]
      exact ⟨_, rfl, by simp; omega⟩
  split
  · refine .bind (measures_packIdent _) fun _ _ ident => ?_
    refine .expectEnd ?_
    exact .pure ⟨trivial, _, rfl, by simp; omega⟩
  split
  · refine .bind (measures_packIdent _) fun _ _ ident => ?_
    refine .bind (measures_chunkReader _ _ _) fun ⟨index, count, data⟩ _ checked => ?_
    refine .expectEnd ?_
    refine .pure ⟨trivial, ?_⟩
    have size : _ = 8 + data.length := checked.2.2
    unfold encodePayload
    simp only [checked.1, checked.2.1]
    exact ⟨_, rfl, by simp; omega⟩
  split
  · refine .bind (measures_packIdent _) fun _ _ ident => ?_
    refine .u8 fun _ => ?_
    refine .expectEnd ?_
    refine .lift fun _ checked => ?_
    refine .pure ⟨trivial, ?_⟩
    unfold encodePayload
    simp only [checked]
    exact ⟨_, rfl, by simp; omega⟩
  split
  · refine .bind (measures_packIdent _) fun _ _ ident => ?_
    refine .expectEnd ?_
    exact .pure ⟨trivial, _, rfl, by simp; omega⟩
  split
  · refine .bind (measures_packIdent _) fun _ _ ident => ?_
    refine .bind (measures_chunkReader _ _ _) fun ⟨index, count, data⟩ _ checked => ?_
    refine .expectEnd ?_
    refine .pure ⟨trivial, ?_⟩
    have size : _ = 8 + data.length := checked.2.2
    unfold encodePayload
    simp only [checked.1, checked.2.1]
    exact ⟨_, rfl, by simp; omega⟩
  · exact .throw _

theorem reencodes (decoded : decodePayload bytes = .ok ctrl) :
    ctrl.Sound ∧ Fits ctrl.encodePayload bytes.length := by
  have measures : Measures reader fun ctrl taken =>
      ctrl.Sound ∧ Fits ctrl.encodePayload taken := by
    refine .u8 fun version => ?_
    refine .guard fun _ => ?_
    refine .u8 fun op => ?_
    intro input ctrl rest ran
    obtain ⟨taken, length, sound, fits⟩ := measures_opReader op input ctrl rest ran
    exact ⟨taken, length, sound, fits.mono (by omega)⟩
  obtain ⟨taken, le, sound, fits⟩ := measures.decode decoded
  exact ⟨sound, fits.mono le⟩

end StickerCtrl

/-- The payloads that come back from the wire as they were: decoders check
the texts of a head and the trailer of an item body, encoders do not. -/
def Payload.Canonical : Payload → Prop
  | .attachHead payload =>
    AttachHead.Ascii payload.head.mimeHint ∧ AttachHead.Ascii payload.head.origExt
  | .stickerCtrl ctrl => ctrl.Sound
  | _ => True

/-- Every decoded payload is canonical, encodes, and takes no more bytes than
it came in. -/
theorem Payload.reencodes {nfc : String → String} {t : EnvelopeType}
    (decoded : Payload.decode nfc t bytes = .ok payload) :
    payload.envelopeType = t ∧ payload.Canonical ∧ Fits (payload.encode nfc) bytes.length := by
  cases t <;> obtain ⟨inner, read, rfl⟩ := map_eq_ok decoded
  case msg | edit =>
    obtain ⟨body, text, rfl⟩ := map_eq_ok read
    exact ⟨rfl, trivial, _, encodeBody_of_decodeBody text, le_rfl⟩
  case delete | deleteAll | contactClose | profileReq | read =>
    exact ⟨rfl, trivial, _, rfl, Nat.zero_le _⟩
  case resyncReq =>
    exact ⟨rfl, trivial, ResyncReq.reencodes read⟩
  case attachHead =>
    obtain ⟨mime, ext, fits⟩ := AttachHeadPayload.reencodes read
    exact ⟨rfl, ⟨mime, ext⟩, fits⟩
  case attachChunk =>
    exact ⟨rfl, trivial, AttachChunk.reencodes read⟩
  case profile =>
    exact ⟨rfl, trivial, Profile.reencodes read⟩
  case pref =>
    exact ⟨rfl, trivial, Pref.reencodes read⟩
  case sticker =>
    exact ⟨rfl, trivial, StickerItem.reencodes read⟩
  case stickerCtrl =>
    exact ⟨rfl, StickerCtrl.reencodes read⟩
  case presence =>
    exact ⟨rfl, trivial, Presence.reencodes read⟩
  case chatPolicy =>
    exact ⟨rfl, trivial, ChatPolicy.reencodes read⟩
  case typing =>
    exact ⟨rfl, trivial, Typing.reencodes read⟩

namespace RawEnvelope

theorem measures_refReader : Measures refReader fun refId taken =>
      taken = (refBytes refId).length := by
  refine .u8 fun refLen => ?_
  split
  · exact .pure rfl
  split
  · refine .takeArray fun _ => ?_
    exact .pure (by simp [refBytes])
  · exact .throw _

theorem measures_reader : Measures reader fun raw taken =>
    taken = raw.bytes.length := by
  refine .u8 fun _ => ?_
  refine .takeArray fun _ => ?_
  refine .u64be fun _ => ?_
  refine .u64be fun _ => ?_
  refine .bind measures_refReader fun _ _ ref => ?_
  refine .lp fun payload bounded => ?_
  refine .expectEnd ?_
  refine .pure ?_
  rw [Envelope.length_bytes]
  simp only
  omega

end RawEnvelope

namespace Envelope

/-- What a decoded envelope was read from: the header of the plaintext, with
the bytes of the payload. -/
theorem reencodes (decoded : Envelope.decode nfc bytes = .ok env) :
    env.payload.Canonical ∧ Fits (env.encode nfc) bytes.length := by
  obtain ⟨raw, header, read⟩ := Envelope.decode_eq_ok.mp decoded
  obtain ⟨t, payload, -, inner, rfl⟩ := Envelope.ofRaw_eq_ok read
  obtain ⟨type, canonical, out, written, shorter⟩ := Payload.reencodes inner
  unfold decodeRaw at header
  split at header
  · cases header
  · rename_i bounded
    obtain ⟨taken, le, exact'⟩ := RawEnvelope.measures_reader.decode header
    rw [length_bytes] at exact'
    refine ⟨canonical, _, encode_eq_ok.mpr ⟨out, written, ?_, rfl⟩, ?_⟩
    · rw [length_bytes]
      simp only [Envelope.raw]
      omega
    · rw [length_bytes]
      simp only [Envelope.raw]
      omega

theorem payload_reencodes (decoded : Envelope.decode nfc bytes = .ok env) :
    ∃ out, env.payload.encode nfc = .ok out := by
  obtain ⟨-, out, written, -⟩ := reencodes decoded
  obtain ⟨payload, encoded, -⟩ := encode_eq_ok.mp written
  exact ⟨payload, encoded⟩

end Envelope

end SChatCore.Wire

import RouteManifest.Path.Bytes
import RouteManifest.Proofs.Path.Resolution

/-!
Reading bytes as text. The bytes of a text are read as this text, and bytes that are read without a
replacement are those of the text. A replacement is no slash and no dot, so a name that is read in
this way is a name again.
-/

namespace RouteManifest.BytePath

open RouteManifest.Path (IsName)

/-! ### How bytes are read -/

theorem decodeFrom_eq (skipped : Nat) (bytes : List UInt8) :
    decodeFrom skipped bytes = decodeFrom 0 (bytes.drop skipped) := by
  induction skipped generalizing bytes with
  | zero => rw [List.drop_zero]
  | succ skipped ih =>
    cases bytes with
    | nil => rfl
    | cons first rest => exact ih rest

theorem decodeFrom_encodeChar (c : Char) (rest : List UInt8) :
    decodeFrom 0 (String.utf8EncodeChar c ++ rest) = c :: decodeFrom 0 rest := by
  have hlength := String.length_utf8EncodeChar c
  have hdecode : (String.utf8EncodeChar c ++ rest).toByteArray.utf8DecodeChar? 0 = some c := by
    rw [List.toByteArray_append]
    exact ByteArray.utf8DecodeChar?_utf8EncodeChar_append
  cases hbytes : String.utf8EncodeChar c with
  | nil =>
    rw [hbytes] at hlength
    have := c.utf8Size_pos
    simp only [List.length_nil] at hlength
    omega
  | cons first tail =>
    rw [hbytes] at hlength hdecode
    have htail : c.utf8Size - 1 = tail.length := by
      rw [← hlength]
      rfl
    rw [List.cons_append] at hdecode ⊢
    rw [decodeFrom, hdecode]
    simp only
    rw [htail, decodeFrom_eq, List.drop_left]

/-- Bytes that begin with a character begin with the bytes of it. -/
theorem exists_of_decodeChar {bytes : List UInt8} {c : Char}
    (h : bytes.toByteArray.utf8DecodeChar? 0 = some c) :
    ∃ rest, bytes = String.utf8EncodeChar c ++ rest := by
  obtain ⟨rest, hrest⟩ := ByteArray.exists_of_utf8DecodeChar?_eq_some h
  refine ⟨rest.data.toList, List.toByteArray_inj.1 (hrest.trans ?_)⟩
  rw [List.toByteArray_append]
  congr 1
  ext1
  rw [List.data_toByteArray]

/-- Bytes are read character by character. A broken character takes at least its first byte. -/
@[elab_as_elim]
theorem induction_on_characters {motive : List UInt8 → Prop} (nil : motive [])
    (char : ∀ c rest, motive rest → motive (String.utf8EncodeChar c ++ rest))
    (broken : ∀ first rest skipped,
      decodeFrom 0 (first :: rest) = replacement :: decodeFrom 0 (rest.drop skipped) →
        motive (rest.drop skipped) → motive (first :: rest)) (bytes : List UInt8) :
    motive bytes :=
  match bytes with
  | [] => nil
  | first :: rest =>
    match h : (first :: rest).toByteArray.utf8DecodeChar? 0 with
    | some c => by
      obtain ⟨more, hmore⟩ := exists_of_decodeChar h
      have hlength : more.length < (first :: rest).length := by
        have := c.utf8Size_pos
        rw [hmore, List.length_append, String.length_utf8EncodeChar]
        omega
      rw [hmore]
      exact char c more (induction_on_characters nil char broken more)
    | none =>
      have hread : decodeFrom 0 (first :: rest) =
          replacement :: decodeFrom 0 (rest.drop (brokenTail first rest)) := by
        rw [decodeFrom, h, decodeFrom_eq]
      broken first rest _ hread
        (induction_on_characters nil char broken (rest.drop (brokenTail first rest)))
termination_by bytes.length
decreasing_by
  · exact hlength
  · simp only [List.length_drop, List.length_cons]
    omega

/-! ### Text -/

theorem decodeFrom_flatMap (chars : List Char) :
    decodeFrom 0 (chars.flatMap String.utf8EncodeChar) = chars := by
  induction chars with
  | nil => rfl
  | cons c chars ih => rw [List.flatMap_cons, decodeFrom_encodeChar, ih]

/-- The bytes of a text are read as the text. -/
theorem decode_encode (text : String) : decode (encode text) = text := by
  rw [decode, encode, decodeFrom_flatMap, String.ofList_toList]

theorem encode_injective : Function.Injective encode := by
  intro first second h
  rw [← decode_encode first, h, decode_encode]

/-- Bytes that are read without a replacement are those of the text. -/
theorem encode_decode {bytes : List UInt8} (h : replacement ∉ (decode bytes).toList) :
    encode (decode bytes) = bytes := by
  rw [decode, encode, String.toList_ofList]
  rw [decode, String.toList_ofList] at h
  induction bytes using induction_on_characters with
  | nil => rfl
  | char c rest ih =>
    rw [decodeFrom_encodeChar] at h ⊢
    rw [List.flatMap_cons, ih fun hmem => h (List.mem_cons_of_mem c hmem)]
  | broken first rest skipped hread ih =>
    rw [hread] at h
    exact absurd List.mem_cons_self h

/-- A character that is read, and is no replacement, has its bytes among those that are read. -/
theorem mem_of_mem_decodeFrom {bytes : List UInt8} {c : Char} (h : c ∈ decodeFrom 0 bytes)
    (hc : c ≠ replacement) : ∀ byte ∈ String.utf8EncodeChar c, byte ∈ bytes := by
  induction bytes using induction_on_characters with
  | nil => cases h
  | char d rest ih =>
    rw [decodeFrom_encodeChar, List.mem_cons] at h
    rcases h with rfl | h
    · exact fun byte hbyte => List.mem_append_left _ hbyte
    · exact fun byte hbyte => List.mem_append_right _ (ih h byte hbyte)
  | broken first rest skipped hread ih =>
    rw [hread] at h
    have hrest := ih ((List.mem_cons.1 h).resolve_left hc)
    exact fun byte hbyte => List.mem_cons_of_mem first (List.mem_of_mem_drop (hrest byte hbyte))

/-- What a name is read as is a name. -/
theorem isName_decode {bytes : List UInt8} (h : IsName (spell bytes)) : IsName (decode bytes) := by
  have hread : ∀ text : String, decode bytes = text → replacement ∉ text.toList →
      bytes = encode text := by
    rintro _ rfl hmem
    exact (encode_decode hmem).symm
  obtain ⟨hempty, hdot, hdots, hslash⟩ := h
  refine ⟨fun heq => hempty ?_, fun heq => hdot ?_, fun heq => hdots ?_, fun hmem => hslash ?_⟩
  · rw [hread "" heq (by decide)]
    rfl
  · rw [hread "." heq (by decide)]
    decide
  · rw [hread ".." heq (by decide)]
    decide
  · rw [decode, String.toList_ofList] at hmem
    have hbyte := mem_of_mem_decodeFrom hmem (by decide) 0x2F (by decide)
    rw [spell, String.toList_ofList]
    exact List.mem_map.2 ⟨0x2F, hbyte, by decide⟩

end RouteManifest.BytePath

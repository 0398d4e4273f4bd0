import RouteManifest.Proofs.Path.Below
import RouteManifest.Proofs.Path.Decoding
import RouteManifest.Proofs.Path.Route

/-!
Paths in a manifest for files whose names are bytes. A path in a manifest is a way that leads back
to the file, read as text. Where the file was reached over names that are text, nothing is lost by
that, whatever the root is, and two such files have one path only if they are one file. Names that
are no text may be read alike.
-/

namespace RouteManifest

/-! ### Names for other names -/

namespace Path

/-- A segment with another text for its name. -/
def Segment.rename (f : String → String) : Segment → Segment
  | .name text => .name (f text)
  | other => other

section
variable {f : String → String}

theorem resolve_rename (segments : List Segment) :
    resolve (segments.map (.rename f)) = (resolve segments).map (.rename f) := by
  have hstep : ∀ done step, resolveStep (done.map (Segment.rename f)) (step.rename f) =
      (resolveStep done step).map (.rename f) := by
    intro done step
    cases step with
    | parent =>
      cases done with
      | nil => rfl
      | cons last done => cases last <;> rfl
    | root | current | name => rfl
  have hfold : ∀ done, (segments.map (Segment.rename f)).foldl resolveStep
      (done.map (Segment.rename f)) = (segments.foldl resolveStep done).map (.rename f) := by
    induction segments with
    | nil => exact fun _ => rfl
    | cons step segments ih =>
      intro done
      rw [List.map_cons, List.foldl_cons, List.foldl_cons, hstep, ih]
  rw [resolve, resolve, List.map_reverse, ← hfold, List.map_nil]

theorem rename_injective (hf : Function.Injective f) : Function.Injective (Segment.rename f) := by
  intro first second h
  cases first <;> cases second <;> simp_all [Segment.rename, hf.eq_iff]

theorem commonLength_rename (hf : Function.Injective f) (root file : List Segment) :
    commonLength (root.map (.rename f)) (file.map (.rename f)) = commonLength root file := by
  induction root generalizing file with
  | nil => cases file <;> rfl
  | cons first root ih =>
    cases file with
    | nil => rfl
    | cons second file =>
      simp only [List.map_cons, commonLength, (rename_injective hf).eq_iff, ih]

/-- Other names give other steps, as long as `..` stays what it is. -/
theorem stepsBetween_rename (hf : Function.Injective f) (hparent : f ".." = "..")
    (root file : List Segment) :
    stepsBetween (root.map (.rename f)) (file.map (.rename f)) =
      (stepsBetween root file).map f := by
  have hstep : ∀ segment : Segment, (segment.rename f).step? = segment.step?.map f := by
    intro segment
    cases segment <;> simp [Segment.rename, Segment.step?, hparent]
  have hsteps : ∀ segments : List Segment,
      (segments.map (Segment.rename f)).filterMap Segment.step? =
        (segments.filterMap Segment.step?).map f := by
    intro segments
    rw [List.filterMap_map, List.map_filterMap]
    exact List.filterMap_congr fun segment _ => hstep segment
  rw [stepsBetween, stepsBetween, commonLength_rename hf, ← List.map_drop, ← List.map_drop, hsteps,
    List.map_append, List.map_map, List.map_map]
  simp [Function.comp_def, hparent]

end

end Path

namespace BytePath

open RouteManifest.Path (IsName Segment pieces stepsOf segments resolve)

/-! ### Spelling -/

theorem toNat_letter (byte : UInt8) : (Char.ofNat byte.toNat).toNat = byte.toNat := by
  have := byte.toNat_lt
  rw [Char.ofNat, dif_pos (.inl (by omega))]
  rfl

theorem bytesOf_spell (bytes : List UInt8) : bytesOf (spell bytes) = bytes := by
  simp [bytesOf, spell, Function.comp_def, toNat_letter]

theorem spell_injective : Function.Injective spell := by
  intro first second h
  rw [← bytesOf_spell first, h, bytesOf_spell]

theorem spell_append (first second : List UInt8) :
    spell (first ++ second) = spell first ++ spell second := by
  simp [spell]

theorem written_join (base rest : BytePath) :
    (base.join rest).written = base.written.join rest.written.text := by
  have hspelled : ∃ bytes, (base.written.join rest.written.text).text = spell bytes := by
    rw [Path.join]
    split
    · exact ⟨rest.bytes, rfl⟩
    · split
      · exact ⟨base.bytes ++ rest.bytes, (spell_append _ _).symm⟩
      · refine ⟨base.bytes ++ [0x2F] ++ rest.bytes, ?_⟩
        rw [spell_append, spell_append]
        rfl
  obtain ⟨bytes, hbytes⟩ := hspelled
  rw [written, join, hbytes, bytesOf_spell, ← hbytes]

/-- What takes texts apart takes texts with a separator between them apart. -/
theorem apply_intercalate {α β : Type} {f : List α → List β} (hnil : f [] = [])
    (happend : ∀ first second, f (first ++ second) = f first ++ f second) (separator : List α)
    (parts : List (List α)) :
    f (separator.intercalate parts) = (f separator).intercalate (parts.map f) := by
  induction parts with
  | nil => exact hnil
  | cons part parts ih =>
    cases parts with
    | nil => simp
    | cons next parts =>
      rw [List.intercalate_cons_cons, happend, happend, ih]
      simp only [List.map_cons, List.intercalate_cons_cons]

theorem spell_intercalate (parts : List (List UInt8)) :
    spell ([0x2F].intercalate parts) = String.intercalate "/" (parts.map spell) := by
  have hspell : ∀ bytes, (spell bytes).toList = bytes.map fun byte => Char.ofNat byte.toNat :=
    fun bytes => String.toList_ofList
  rw [← String.toList_inj, hspell, apply_intercalate List.map_nil fun _ _ => List.map_append,
    String.toList_intercalate, List.map_map]
  simp only [Function.comp_def, hspell]
  rfl

theorem map_map_eq_self {α β : Type} {f : α → β} {g : β → α} {xs : List α}
    (h : ∀ x ∈ xs, g (f x) = x) : (xs.map f).map g = xs := by
  rw [List.map_map]
  exact (List.map_congr_left h).trans (List.map_id xs)

/-- Bytes spell every text with no other characters than other bytes. -/
theorem spell_bytesOf {text : String} {bytes : List UInt8}
    (h : text.toList ⊆ (spell bytes).toList) : spell (bytesOf text) = text := by
  rw [spell, String.toList_ofList] at h
  rw [spell, bytesOf, ← String.toList_inj, String.toList_ofList]
  refine map_map_eq_self fun c hc => ?_
  obtain ⟨byte, -, rfl⟩ := List.mem_map.1 (h hc)
  simp [toNat_letter]

/-! ### Text -/

theorem encode_intercalate (texts : List String) :
    encode (String.intercalate "/" texts) = [0x2F].intercalate (texts.map encode) := by
  rw [encode, String.toList_intercalate,
    apply_intercalate List.flatMap_nil fun _ _ => List.flatMap_append, List.map_map]
  rfl

/-- A byte that is a character by itself is part of no other character. -/
theorem eq_of_mem_encodeChar {c d : Char} {byte : UInt8}
    (hd : String.utf8EncodeChar d = [byte]) (hmem : byte ∈ String.utf8EncodeChar c) : c = d := by
  obtain ⟨index, hindex, hbyte⟩ := List.mem_iff_getElem.1 hmem
  have hfirst : byte.IsUTF8FirstByte := by
    have hzero : (String.utf8EncodeChar d)[0]? = some byte := by rw [hd]; rfl
    obtain ⟨hlength, hzero⟩ := List.getElem?_eq_some_iff.1 hzero
    exact hzero ▸ UInt8.isUTF8FirstByte_getElem_utf8EncodeChar.2 rfl
  obtain rfl : index = 0 := UInt8.isUTF8FirstByte_getElem_utf8EncodeChar.1 (hbyte ▸ hfirst)
  obtain ⟨first, tail, htail⟩ := List.exists_cons_of_length_pos hindex
  simp only [htail, List.getElem_cons_zero] at hbyte
  have hread := decodeFrom_encodeChar c []
  rw [List.append_nil, htail, hbyte, ← List.singleton_append, ← hd, decodeFrom_encodeChar] at hread
  exact (List.cons.inj hread).1.symm

/-- The characters that the bytes of a character spell. -/
def letters (c : Char) : List Char :=
  (String.utf8EncodeChar c).map fun byte => Char.ofNat byte.toNat

/-- The text that the bytes of a text spell. -/
def respell (text : String) : String := spell (encode text)

theorem respell_injective : Function.Injective respell := spell_injective.comp encode_injective

theorem toList_respell (text : String) : (respell text).toList = text.toList.flatMap letters := by
  rw [respell, spell, String.toList_ofList, encode, List.map_flatMap]
  rfl

theorem flatMap_letters_injective :
    Function.Injective fun text : List Char => text.flatMap letters := by
  intro first second h
  have hrespell : respell (String.ofList first) = respell (String.ofList second) := by
    rw [← String.toList_inj, toList_respell, toList_respell, String.toList_ofList,
      String.toList_ofList]
    exact h
  exact String.ofList_injective (respell_injective hrespell)

/-- Where a text is not changed, only the text itself is turned into it. -/
theorem flatMap_letters_eq_iff {text other : List Char} (h : other.flatMap letters = other) :
    text.flatMap letters = other ↔ text = other := by
  conv_lhs => rw [← h]
  exact flatMap_letters_injective.eq_iff

theorem slash_not_mem_letters {c : Char} (hc : c ≠ '/') : '/' ∉ letters c := by
  intro hmem
  obtain ⟨byte, hbyte, hletter⟩ := List.mem_map.1 hmem
  have hslash : byte = 0x2F := by
    rw [← UInt8.toNat_inj, ← toNat_letter, hletter]
    rfl
  exact hc (eq_of_mem_encodeChar (by decide) (hslash ▸ hbyte))

/-- A slash stands for itself, and no other character has it in its bytes. -/
theorem pieces_respell (text : List Char) :
    pieces (text.flatMap letters) = (pieces text).map (·.flatMap letters) := by
  induction text with
  | nil => rfl
  | cons c text ih =>
    rw [List.flatMap_cons]
    by_cases hc : c = '/'
    · have hslash : letters '/' = ['/'] := by decide
      rw [hc, hslash, List.singleton_append, Path.pieces_cons_slash, Path.pieces_cons_slash, ih]
      rfl
    · rw [Path.pieces_append (slash_not_mem_letters hc), Path.pieces_cons_of_ne hc, ih]
      cases pieces text with
      | nil => rfl
      | cons piece others => rfl

theorem ofPiece?_respell (piece : List Char) :
    Segment.ofPiece? (piece.flatMap letters) = (Segment.ofPiece? piece).map (.rename respell) := by
  have hname : String.ofList (piece.flatMap letters) = respell (String.ofList piece) := by
    rw [← String.toList_inj, toList_respell, String.toList_ofList, String.toList_ofList]
  have hdot : ['.'].flatMap letters = ['.'] := by decide
  have hdots : ['.', '.'].flatMap letters = ['.', '.'] := by decide
  simp only [Segment.ofPiece?, flatMap_letters_eq_iff List.flatMap_nil, flatMap_letters_eq_iff hdot,
    flatMap_letters_eq_iff hdots, hname]
  split
  · rfl
  · split <;> rfl

theorem isAbsolute_respell (text : String) :
    Path.isAbsolute ⟨respell text⟩ = Path.isAbsolute ⟨text⟩ := by
  rw [Path.isAbsolute, Path.isAbsolute, toList_respell]
  cases htext : text.toList with
  | nil => rfl
  | cons c rest =>
    rw [List.flatMap_cons]
    by_cases hc : c = '/'
    · subst hc
      rfl
    · have hlength : 0 < (letters c).length := by
        rw [letters, List.length_map, String.length_utf8EncodeChar]
        exact c.utf8Size_pos
      obtain ⟨first, more, hletters⟩ := List.exists_cons_of_length_pos hlength
      have hslash := slash_not_mem_letters hc
      rw [hletters] at hslash ⊢
      have hfirst : first ≠ '/' := fun heq => hslash (heq ▸ List.mem_cons_self)
      simp [hc, hfirst]

theorem stepsOf_respell (text : String) :
    stepsOf (respell text) = (stepsOf text).map (.rename respell) := by
  rw [stepsOf, stepsOf, toList_respell, pieces_respell, List.filterMap_map, List.map_filterMap]
  exact List.filterMap_congr fun piece _ => ofPiece?_respell piece

theorem segments_respell (text : String) :
    segments ⟨respell text⟩ = (segments ⟨text⟩).map (.rename respell) := by
  have hdot : ((pieces (respell text).toList).head? == some ['.']) =
      ((pieces text.toList).head? == some ['.']) := by
    have hletters : ['.'].flatMap letters = ['.'] := by decide
    rw [toList_respell, pieces_respell, List.head?_map]
    cases (pieces text.toList).head? with
    | none => rfl
    | some piece => simp [flatMap_letters_eq_iff hletters]
  have hsteps : (pieces (respell text).toList).filterMap Segment.ofPiece? =
      ((pieces text.toList).filterMap Segment.ofPiece?).map (.rename respell) :=
        stepsOf_respell text
  rw [segments, segments, isAbsolute_respell, hdot, hsteps, List.map_append]
  split
  · rfl
  · split <;> rfl

/-- Between paths that are text, a path in a manifest is what it is for texts. -/
theorem route_ofText (root file : String) :
    route (ofText root) (ofText file) = Path.route ⟨root⟩ ⟨file⟩ := by
  have hread : ∀ step, decode (bytesOf (respell step)) = step := by
    intro step
    rw [respell, bytesOf_spell, decode_encode]
  have hsegments : ∀ text, (ofText text).written.segments =
      (segments ⟨text⟩).map (.rename respell) :=
    segments_respell
  rw [route, hsegments, hsegments, Path.resolve_rename, Path.resolve_rename,
    Path.stepsBetween_rename respell_injective (by decide), List.map_map]
  simp only [Function.comp_def, hread, List.map_id']
  rfl

/-! ### The way to a file -/

/-- The path that climbs as often as told and then goes down over names. -/
def way (climbs : Nat) (names : List (List UInt8)) : BytePath :=
  ⟨[0x2F].intercalate (List.replicate climbs [0x2E, 0x2E] ++ names)⟩

/-- The bytes of the path are those of a text. -/
def IsText (path : BytePath) : Prop := ∃ text, path = ofText text

/-- A file has a way from the root, and its path in a manifest is this way, read as text. If the
file was reached over names that are text, the way is one over such names. -/
theorem exists_way (root : BytePath) {file : BytePath} (hfile : file.isAbsolute = false) :
    ∃ (climbs : Nat) (names : List (List UInt8)), (∀ name ∈ names, IsName (spell name)) ∧
      (root.join (way climbs names)).written.normalize = (root.join file).written.normalize ∧
      route root (root.join file) =
        "/" ++ String.intercalate "/" (List.replicate climbs ".." ++ names.map decode) ∧
      (file.IsText → ∀ name ∈ names, encode (decode name) = name) := by
  obtain ⟨climbs, names, hnames, hown, hsteps, hback⟩ := Path.exists_way root.written hfile
  have hspelled : ∀ name ∈ names, spell (bytesOf name) = name := fun name hname =>
    spell_bytesOf (Path.subset_of_mem_stepsOf (hown name hname))
  have hmap : (names.map bytesOf).map spell = names := map_map_eq_self hspelled
  refine ⟨climbs, names.map bytesOf, ?_, ?_, ?_, ?_⟩
  · rw [List.forall_mem_map]
    exact fun name hname => (hspelled name hname).symm ▸ hnames name hname
  · have hdots : spell [0x2E, 0x2E] = ".." := by decide
    have hway : (way climbs (names.map bytesOf)).written.text =
        String.intercalate "/" (List.replicate climbs ".." ++ names) := by
      rw [way, written, spell_intercalate, List.map_append, List.map_replicate, hmap, hdots]
    rw [written_join, written_join, hway]
    exact hback
  · have hdots : decode (bytesOf "..") = ".." := by decide
    have hfile : file.written.text = spell file.bytes := rfl
    rw [route, written_join, hfile, hsteps, List.map_append, List.map_replicate, hdots,
      List.map_map]
    rfl
  · rintro ⟨text, rfl⟩
    rw [List.forall_mem_map]
    intro name hname
    have hstep : .name name ∈ (stepsOf text).map (Segment.rename respell) := by
      rw [← stepsOf_respell]
      exact hown name hname
    obtain ⟨step, -, hrename⟩ := List.mem_map.1 hstep
    cases step with
    | name original =>
      cases hrename
      rw [respell, bytesOf_spell, decode_encode]
    | root | current | parent => cases hrename

/-- The path of a file in a manifest is a slash and a way that climbs first and then goes down by
names, read as text. The way leads from the root to the file again, whatever dots the two were
written with and whatever bytes they are. Where the file was reached over names that are text, the
way is what is read, and two such files have the same path just when they are the same file. -/
theorem route_leads_back (root : BytePath) {file : BytePath} (hfile : file.isAbsolute = false) :
    ∃ (climbs : Nat) (names : List (List UInt8)),
      (∀ name ∈ names, IsName (spell name) ∧ IsName (decode name)) ∧
      (root.join (way climbs names)).written.normalize = (root.join file).written.normalize ∧
      let text := String.intercalate "/" (List.replicate climbs ".." ++ names.map decode)
      route root (root.join file) = "/" ++ text ∧ (file.IsText → way climbs names = ofText text) ∧
      ∀ other : BytePath, other.isAbsolute = false →
        ((root.join other).written.normalize = (root.join file).written.normalize →
          route root (root.join other) = route root (root.join file)) ∧
        (file.IsText → other.IsText →
          route root (root.join other) = route root (root.join file) →
            (root.join other).written.normalize = (root.join file).written.normalize) := by
  -- Names that are text are read without loss.
  have hexact : ∀ climbs (names : List (List UInt8)),
      (∀ name ∈ names, encode (decode name) = name) → way climbs names =
        ofText (String.intercalate "/" (List.replicate climbs ".." ++ names.map decode)) := by
    intro climbs names hread
    have hdots : encode ".." = [0x2E, 0x2E] := by decide
    rw [way, ofText, encode_intercalate, List.map_append, List.map_replicate, hdots,
      map_map_eq_self hread]
  obtain ⟨climbs, names, hnames, hback, hroute, htext⟩ := exists_way root hfile
  refine ⟨climbs, names, fun name hname => ⟨hnames name hname, isName_decode (hnames name hname)⟩,
    hback, hroute, fun hfile => hexact climbs names (htext hfile), fun other hother => ⟨?_, ?_⟩⟩
  · intro hsame
    rw [route, route, Path.normalize_eq_iff.1 hsame]
  · intro hfileText hotherText hsame
    obtain ⟨climbs', names', -, hback', hroute', htext'⟩ := exists_way root hother
    have hway : way climbs' names' = way climbs names := by
      rw [hroute, hroute', String.append_right_inj] at hsame
      rw [hexact climbs names (htext hfileText), hexact climbs' names' (htext' hotherText), hsame]
    rw [← hback, ← hback', hway]

/-- A root that begins with `..` and is no text, and two ways out of it and back into a directory
beside it. -/
theorem route_leads_back_outside :
    let root : BytePath := ⟨encode "./..//app" ++ [0xFF, 0x2F]⟩
    let file := ofText "../../shared/./y.ts"
    let other := ofText "b/../../../shared//y.ts"
    file.isAbsolute = false ∧ other.isAbsolute = false ∧ file.IsText ∧ other.IsText ∧
      (root.join other).written.normalize = (root.join file).written.normalize ∧
      route root (root.join file) = "/../../shared/y.ts" ∧
      route root (root.join other) = "/../../shared/y.ts" := by
  intro root file other
  have hfile : file.isAbsolute = false := by decide +kernel
  have hother : other.isAbsolute = false := by decide +kernel
  have hroute : route root (root.join file) = "/../../shared/y.ts" := by decide +kernel
  have hsame : (root.join other).written.normalize = (root.join file).written.normalize := by
    decide +kernel
  obtain ⟨_, _, -, -, -, -, hfiles⟩ := route_leads_back root hfile
  exact ⟨hfile, hother, ⟨_, rfl⟩, ⟨_, rfl⟩, hsame, hroute,
    ((hfiles other hother).1 hsame).trans hroute⟩

/-- Two scripts whose names are no text have one path in a manifest, and it leads to a third one. -/
theorem route_conflates :
    let root := ofText "/app"
    let first := root.join ⟨0xFF :: encode ".ts"⟩
    let second := root.join ⟨0xFE :: encode ".ts"⟩
    route root first = "/\uFFFD.ts" ∧ route root second = "/\uFFFD.ts" ∧
      first.written.normalize ≠ second.written.normalize ∧
      (root.join (ofText "\uFFFD.ts")).written.normalize ≠ first.written.normalize := by
  decide +kernel

end BytePath

end RouteManifest
